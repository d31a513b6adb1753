namespace Chip8.Text

/-- Carriage returns, with a line feed behind them or without, as line feeds. -/
def unifyLineEnds : List Char → List Char
  | '\r' :: '\n' :: rest => '\n' :: unifyLineEnds rest
  | '\r' :: rest => '\n' :: unifyLineEnds rest
  | c :: rest => c :: unifyLineEnds rest
  | [] => []

theorem return_not_mem_unifyLineEnds (text : List Char) : '\r' ∉ unifyLineEnds text := by
  fun_induction unifyLineEnds text with
  | case1 rest ih => simpa using ih
  | case2 rest _ ih => simpa using ih
  | case3 c rest _ other ih =>
      have apart : '\r' ≠ c := fun same => other same.symm
      simp [apart, ih]
  | case4 => simp

def readBack (text : String) : String := String.ofList (unifyLineEnds text.toList)

def endsLine (c : Char) : Bool :=
  (10 ≤ c.toNat && c.toNat ≤ 13) || (28 ≤ c.toNat && c.toNat ≤ 30) || c.toNat == 0x85 ||
    c.toNat == 0x2028 || c.toNat == 0x2029

/-- The lines of a text with unified line ends. Behind the last end there is no further line. -/
def linesOf : List Char → List (List Char)
  | [] => []
  | c :: rest =>
      if endsLine c then [] :: linesOf rest
      else
        match linesOf rest with
        | first :: more => (c :: first) :: more
        | [] => [[c]]

def lines (text : String) : List String :=
  (linesOf (unifyLineEnds text.toList)).map String.ofList

end Chip8.Text
