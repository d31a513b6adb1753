namespace Chip8.Numeral

def lowByte (n : Int) : UInt8 := UInt8.ofNat (n % 256).toNat

def lowWord (n : Int) : UInt16 := UInt16.ofNat (n % 65536).toNat

theorem lowByte_toNat (n : Int) : (lowByte n).toNat = (n % 256).toNat := by
  have bound : (n % 256).toNat < 256 := by omega
  simp [lowByte, UInt8.toNat_ofNat', Nat.mod_eq_of_lt bound]

theorem lowWord_toNat (n : Int) : (lowWord n).toNat = (n % 65536).toNat := by
  have bound : (n % 65536).toNat < 65536 := by omega
  simp [lowWord, UInt16.toNat_ofNat', Nat.mod_eq_of_lt bound]

def hexDigit (d : Nat) : Char :=
  if d < 10 then Char.ofNat (48 + d) else Char.ofNat (55 + d)

/-- The digits of a number, the most significant one first. Zero has one digit. -/
def hexDigits (n : Nat) : List Char :=
  if n < 16 then [hexDigit n] else hexDigits (n / 16) ++ [hexDigit (n % 16)]

def padded (width : Nat) (digits : List Char) : List Char :=
  List.replicate (width - digits.length) '0' ++ digits

def hex (width : Nat) (n : Int) : String :=
  if n < 0 then String.ofList ('-' :: padded (width - 1) (hexDigits n.natAbs))
  else String.ofList (padded width (hexDigits n.natAbs))

/-- Hexadecimal with the mark `0x` in front, as addresses and words are shown. -/
def marked (width : Nat) (n : Int) : String := "0x" ++ hex width n

end Chip8.Numeral
