namespace Chip8.Settings.Toml

inductive Malformed where
  /-- It does not follow the grammar, or says something twice. -/
  | grammar
  /-- A decimal number has so many digits that it is not read. -/
  | longNumber (digits : Nat)
  /-- Values stand in each other deeper than there is room to read them. -/
  | tooDeep
  deriving DecidableEq, Repr

/-- What a reader of lexemes finds, as the answer of a reader that tells why it finds nothing. -/
def inGrammar {α : Type} (found : Option α) : Except Malformed α :=
  match found with
  | some value => .ok value
  | none => .error .grammar

/-- Whether a character may not stand in a comment or in a string of one line. -/
def isControl (c : Char) : Bool := (c.toNat < 32 && c != '\t') || c.toNat == 127

def isSpacing (c : Char) : Bool := c == ' ' || c == '\t'

def skipSpacing (text : List Char) : List Char := text.dropWhile isSpacing

def skipComment? : List Char → Option (List Char)
  | '#' :: rest =>
      if (rest.takeWhile (· != '\n')).any isControl then none else some (rest.dropWhile (· != '\n'))
  | text => some text

mutual

def skipFiller? : List Char → Option (List Char)
  | [] => some []
  | c :: rest =>
      if isSpacing c || c == '\n' then skipFiller? rest
      else if c == '#' then skipCommentAndFiller? rest
      else some (c :: rest)

def skipCommentAndFiller? : List Char → Option (List Char)
  | [] => some []
  | c :: rest =>
      if c == '\n' then skipFiller? rest
      else if isControl c then none
      else skipCommentAndFiller? rest

end

def isBare (c : Char) : Bool := c.isAlphanum || c == '-' || c == '_'

def hexDigit? (c : Char) : Option Nat :=
  if '0' ≤ c ∧ c ≤ '9' then some (c.toNat - 48)
  else if 'a' ≤ c ∧ c ≤ 'f' then some (c.toNat - 87)
  else if 'A' ≤ c ∧ c ≤ 'F' then some (c.toNat - 55)
  else none

def scalar? (digits : List Char) : Option Char := do
  let values ← digits.mapM hexDigit?
  let code := values.foldl (fun total digit => 16 * total + digit) 0
  if code.isValidChar then some (Char.ofNat code) else none

def escape? : Char → Option Char
  | 'b' => some '\x08'
  | 't' => some '\t'
  | 'n' => some '\n'
  | 'f' => some '\x0c'
  | 'r' => some '\r'
  | '\x22' => some '\x22'
  | '\\' => some '\\'
  | _ => none

/-- What may come next in a string: anything, only the end of a line after blanks, or the next
visible character after blanks and line ends. -/
inductive Expecting where
  | anything
  | lineEnd
  | visible
  deriving DecidableEq

/-- The text of a string in double quotes. In a string of several lines a backslash at the end of a
line joins it with the next visible character. -/
def unescape? (long : Bool) : Expecting → List Char → Option (List Char)
  | .lineEnd, [] => none
  | _, [] => some []
  | expecting, c :: rest =>
      if expecting = .lineEnd then
        if isSpacing c then unescape? long .lineEnd rest
        else if c = '\n' then unescape? long .visible rest
        else none
      else if expecting = .visible ∧ (isSpacing c ∨ c = '\n') then unescape? long .visible rest
      else if c = '\\' then
        match rest with
        | 'u' :: a :: b :: c :: d :: more => do
            let char ← scalar? [a, b, c, d]
            let after ← unescape? long .anything more
            return char :: after
        | 'U' :: a :: b :: c :: d :: e :: f :: g :: h :: more => do
            let char ← scalar? [a, b, c, d, e, f, g, h]
            let after ← unescape? long .anything more
            return char :: after
        | letter :: more =>
            if long ∧ letter = '\n' then unescape? long .visible more
            else if long ∧ isSpacing letter then unescape? long .lineEnd more
            else do
              let char ← escape? letter
              let after ← unescape? long .anything more
              return char :: after
        | [] => none
      else if isControl c ∧ ¬(long ∧ c = '\n') then none
      else (unescape? long .anything rest).map (c :: ·)

/-- The characters up to the next double quote that is not escaped, and what is behind it. -/
def untilQuote? : List Char → Option (List Char × List Char)
  | '\x22' :: rest => some ([], rest)
  | '\\' :: c :: rest => (untilQuote? rest).map fun (body, after) => ('\\' :: c :: body, after)
  | c :: rest => (untilQuote? rest).map fun (body, after) => (c :: body, after)
  | [] => none

/-- The characters up to the next three double quotes that are not escaped. -/
def untilQuotes? : List Char → Option (List Char × List Char)
  | '\x22' :: '\x22' :: '\x22' :: rest => some ([], rest)
  | '\\' :: c :: rest => (untilQuotes? rest).map fun (body, after) => ('\\' :: c :: body, after)
  | c :: rest => (untilQuotes? rest).map fun (body, after) => (c :: body, after)
  | [] => none

def untilApostrophes? : List Char → Option (List Char × List Char)
  | '\x27' :: '\x27' :: '\x27' :: rest => some ([], rest)
  | c :: rest => (untilApostrophes? rest).map fun (body, after) => (c :: body, after)
  | [] => none

/-- Up to two more quotes at the end of a string of several lines belong to its text. -/
def extraQuotes (quote : Char) (body : List Char) : List Char → List Char × List Char
  | a :: b :: rest =>
      if a = quote ∧ b = quote then (body ++ [a, b], rest)
      else if a = quote then (body ++ [a], b :: rest)
      else (body, a :: b :: rest)
  | [a] => if a = quote then (body ++ [a], []) else (body, [a])
  | [] => (body, [])

/-- A line end right behind the opening quotes of a string does not belong to its text. -/
def dropLineEnd : List Char → List Char
  | '\n' :: rest => rest
  | text => text

def basicString? (text : List Char) : Option (String × List Char) := do
  let (raw, after) ← untilQuote? text
  let body ← unescape? false .anything raw
  return (String.ofList body, after)

def literalString? (text : List Char) : Option (String × List Char) :=
  let body := text.takeWhile (· != '\x27')
  match text.dropWhile (· != '\x27') with
  | _ :: after => if body.any isControl then none else some (String.ofList body, after)
  | [] => none

def longBasicString? (text : List Char) : Option (String × List Char) := do
  let (raw, after) ← untilQuotes? (dropLineEnd text)
  let body ← unescape? true .anything raw
  let (whole, rest) := extraQuotes '\x22' body after
  return (String.ofList whole, rest)

def longLiteralString? (text : List Char) : Option (String × List Char) := do
  let (body, after) ← untilApostrophes? (dropLineEnd text)
  if body.any fun c => isControl c && c != '\n' then none
  else
    let (whole, rest) := extraQuotes '\x27' body after
    return (String.ofList whole, rest)

end Chip8.Settings.Toml
