import Chip8.Image.Path
import Chip8.Text.Quoted

namespace Chip8

inductive Obstacle where
  | missing
  | directory
  | throughFile
  | nameTooLong
  deriving DecidableEq, Repr

def Obstacle.reason : Obstacle → String
  | .missing => "[Errno 2] No such file or directory"
  | .directory => "[Errno 21] Is a directory"
  | .throughFile => "[Errno 20] Not a directory"
  | .nameTooLong => "[Errno 36] File name too long"

def Obstacle.message (obstacle : Obstacle) (path : String) : String :=
  obstacle.reason ++ ": " ++ Text.quoted path

inductive Found where
  | contents (data : Array UInt8)
  | obstacle (obstacle : Obstacle)
  /-- No file can have the path, since it holds the character with the code zero. -/
  | impossible
  deriving DecidableEq, Repr

structure Folder where
  files : List (List (List Char) × Array UInt8)
  directories : List (List (List Char))
  deriving DecidableEq, Repr

namespace Folder

def empty : Folder := ⟨[], []⟩

/-- The places that are passed on a path, in front of its last name or behind it. -/
def passed (path : List Char) (last : Bool) : List (List (List Char)) :=
  let names := Path.names path
  (List.range (names.length + if last then 1 else 0)).map fun count =>
    (Path.follow [] (names.take count)).reverse

def addFile (folder : Folder) (path : String) (data : Array UInt8) : Folder :=
  ⟨(Path.place path.toList, data) :: folder.files, passed path.toList false ++ folder.directories⟩

def addDirectory (folder : Folder) (path : String) : Folder :=
  { folder with directories := passed path.toList true ++ folder.directories }

/-- Whether a place is a directory. The current one and those above it are. -/
def isDirectory (folder : Folder) (place : List (List Char)) : Bool :=
  place.all (· == ['.', '.']) || folder.directories.contains place

def maxName : Nat := 255

def maxPath : Nat := 4095

/-- What is found when names are followed from a directory. -/
def findFrom (folder : Folder) (here : List (List Char)) : List (List Char) → Found
  | [] => .obstacle .directory
  | name :: rest =>
      if maxName < (String.ofList name).utf8ByteSize then .obstacle .nameTooLong
      else if name = [] ∨ name = ['.'] then folder.findFrom here rest
      else
        let next := (Path.follow here.reverse [name]).reverse
        match folder.files.lookup next with
        | some data => if rest = [] then .contents data else .obstacle .throughFile
        | none =>
            if folder.isDirectory next then folder.findFrom next rest else .obstacle .missing

/-- What is found under a path. Beyond the current directory nothing is known but the directories
above it; at the very top a double dot leads nowhere. -/
def find (folder : Folder) (path : String) : Found :=
  let chars := path.toList
  let segments := Path.segments chars
  if chars.contains '\x00' then .impossible
  else if path = "" then .obstacle .missing
  else if maxPath < path.utf8ByteSize then .obstacle .nameTooLong
  else if Path.root chars = [] then folder.findFrom [] segments
  else empty.findFrom [] (segments.filter (· ≠ ['.', '.']))

inductive Refusal where
  /-- No directory can have the path, since it holds the character with the code zero. -/
  | impossible
  | blocked (obstacle : Obstacle) (path : String)
  deriving DecidableEq, Repr

def Refusal.message : Refusal → String
  | .impossible => "embedded null byte"
  | .blocked obstacle path => obstacle.message path

def pathTo (path : String) (count : Nat) : String :=
  let chars := path.toList
  Path.normal (String.ofList (Path.root chars ++ ['/'].intercalate ((Path.names chars).take count)))

/-- Makes the directory of the first names of a path, after those on the way to it that are missing. A
directory that there is already is left as it is. -/
def makeFirst (folder : Folder) (path : String) : Nat → Except Refusal Folder
  | 0 => .ok folder
  | count + 1 => do
      let here := pathTo path (count + 1)
      match folder.find here with
      | .obstacle .missing =>
          let around ← makeFirst folder path count
          match (Path.names here.toList).getLast? with
          | some name =>
              if maxName < (String.ofList name).utf8ByteSize then .error (.blocked .nameTooLong here)
              else if Path.root here.toList = [] then .ok (around.addDirectory here)
              else .ok around
          | none => .ok around
      | .obstacle .directory => .ok folder
      | .obstacle other => .error (.blocked other here)
      | .impossible => .error .impossible
      | .contents _ => .error (.blocked .throughFile here)

def makeDirectory (folder : Folder) (path : String) : Except Refusal Folder :=
  if path.toList.contains '\x00' then .error .impossible
  else makeFirst folder path (Path.names path.toList).length

end Folder

end Chip8
