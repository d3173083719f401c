/-! Decimal numerals. `integer?` reads an optionally signed run of digits, `binary64?` a
decimal fraction with an optional exponent, rounded to the nearest binary64. -/
namespace FrameFlow.Decimal

def digit (c : Char) : Nat := c.toNat - '0'.toNat

/-- The number that a run of decimal digits writes. -/
def value (digits : List Char) : Nat := digits.foldl (fun n c => 10 * n + digit c) 0

/-- A non-empty run of digits and nothing else. -/
def natural? (s : List Char) : Option Nat :=
  if s.isEmpty || !s.all Char.isDigit then none else some (value s)

/-- A leading sign, and whether it was a minus. -/
def splitSign : List Char → Bool × List Char
  | '-' :: r => (true, r)
  | '+' :: r => (false, r)
  | s => (false, s)

def integer? (s : List Char) : Option Int :=
  let (negative, digits) := splitSign s
  (natural? digits).map fun n => if negative then -(n : Int) else n

/-- The binary64 nearest to `significand * 10 ^ exponent`. -/
def nearest (significand : Nat) (exponent : Int) : Float :=
  let magnitude := (Nat.repr significand).length + exponent
  if significand = 0 || magnitude < -400 then Float.ofBits 0
  else if magnitude > 400 then Float.ofBits 0x7FF0000000000000
  else Float.ofScientific significand (exponent < 0) exponent.natAbs

def signed (negative : Bool) (x : Float) : Float := if negative then -x else x

/-- The exponent of a numeral, zero where the rest is empty. -/
def exponent? : List Char → Option Int
  | [] => some 0
  | c :: r => if c = 'e' || c = 'E' then integer? r else none

/-- A numeral without sign: digits with at most one point, at least one digit, and an
optional exponent. -/
def unsigned? (s : List Char) : Option Float := do
  let whole := s.takeWhile Char.isDigit
  let rest := s.dropWhile Char.isDigit
  let (places, rest) := match rest with
    | '.' :: r => (r.takeWhile Char.isDigit, r.dropWhile Char.isDigit)
    | r => ([], r)
  let exponent ← exponent? rest
  if whole.isEmpty && places.isEmpty then none
  else some (nearest (value (whole ++ places)) (exponent - places.length))

def lowerAscii (s : List Char) : List Char := s.map Char.toLower

/-- Numerals and, in any case, the names of infinity and of no number. -/
def binary64? (s : List Char) : Option Float :=
  let (negative, body) := splitSign s
  let word := String.ofList (lowerAscii body)
  if word = "inf" || word = "infinity" then
    some (signed negative (Float.ofBits 0x7FF0000000000000))
  else if word = "nan" then some (signed negative (Float.ofBits 0x7FF8000000000000))
  else (unsigned? body).map (signed negative)

end FrameFlow.Decimal
