import FrameFlow.Toml.Item
import FrameFlow.Toml.Text

/-! Numbers, truth values and moments in TOML. Digits may be parted by single underscores. -/
namespace FrameFlow.Toml

/-- Digits after the first one, and what follows them. An underscore stands between digits. -/
def moreDigits (isDigit : Char → Bool) : List Char → Option (List Char × List Char)
  | [] => some ([], [])
  | '_' :: c :: r =>
    if isDigit c then (moreDigits isDigit r).map fun (digits, rest) => (c :: digits, rest)
    else none
  | c :: r =>
    if isDigit c then (moreDigits isDigit r).map fun (digits, rest) => (c :: digits, rest)
    else if c = '_' then none
    else some ([], c :: r)

def digits? (isDigit : Char → Bool) : List Char → Option (List Char × List Char)
  | [] => none
  | c :: r =>
    if isDigit c then (moreDigits isDigit r).map fun (digits, rest) => (c :: digits, rest)
    else none

/-- A whole number without superfluous zeros; after a zero it ends. -/
def whole? : List Char → Option (List Char × List Char)
  | '0' :: r => some (['0'], r)
  | s => digits? Char.isDigit s

def fraction? : List Char → Option (List Char × List Char)
  | '.' :: r => (digits? Char.isDigit r).map fun (digits, rest) => ('.' :: digits, rest)
  | s => some ([], s)

def exponent? : List Char → Option (List Char × List Char)
  | [] => some ([], [])
  | c :: r =>
    if c = 'e' ∨ c = 'E' then
      let (negative, body) := Decimal.splitSign r
      (digits? Char.isDigit body).map fun (digits, rest) =>
        ('e' :: Decimal.Numeral.sign negative ++ digits, rest)
    else some ([], c :: r)

/-- Beyond the greatest number there is only minus infinity. -/
def float? (negative : Bool) (numeral : List Char) : Option Item := do
  let x ← Decimal.unsigned? numeral
  if x.isInf && !negative then none else some (.float (Decimal.signed negative x))

def integer? (negative : Bool) (n : Nat) : Option Item :=
  (Setting.ofInt? (if negative then -(n : Int) else n)).map .integer

def decimal? (negative : Bool) (s : List Char) : Option (Item × List Char) := do
  let (whole, afterWhole) ← whole? s
  let (places, afterPlaces) ← fraction? afterWhole
  let (power, rest) ← exponent? afterPlaces
  if places.isEmpty && power.isEmpty then (integer? negative (Decimal.value whole)).map (·, rest)
  else (float? negative (whole ++ places ++ power)).map (·, rest)

def hexadecimal? (c : Char) : Bool := (Json.hexDigit? c).isSome

def radix? (isDigit : Char → Bool) (base : Nat) (s : List Char) : Option (Item × List Char) := do
  let (digits, rest) ← digits? isDigit s
  let n := digits.foldl (fun n c => base * n + (Json.hexDigit? c).getD 0) 0
  (integer? false n).map (·, rest)

def infinity : Float := Float.ofBits 0x7FF0000000000000

def notANumber : Float := Float.ofBits 0x7FF8000000000000

/-- A number after its sign. -/
def signed? (negative : Bool) (s : List Char) : Option (Item × List Char) :=
  match Json.afterWord? "inf".toList s, Json.afterWord? "nan".toList s with
  | some r, _ => some (.float (Decimal.signed negative infinity), r)
  | none, some r => some (.float (Decimal.signed negative notANumber), r)
  | none, none => decimal? negative s

def number? : List Char → Option (Item × List Char)
  | '0' :: 'x' :: r => radix? hexadecimal? 16 r
  | '0' :: 'o' :: r => radix? (fun c => '0' ≤ c && c ≤ '7') 8 r
  | '0' :: 'b' :: r => radix? (fun c => c == '0' || c == '1') 2 r
  | '-' :: r => signed? true r
  | '+' :: r => signed? false r
  | s => signed? false s

/-- A value that is no text, array or table. -/
def scalar? (s : List Char) : Option (Item × List Char) :=
  if Moment.starts s then (Moment.read? s).map fun (m, r) => (.moment m, r)
  else match s with
    | 't' :: _ => (Json.afterWord? "true".toList s).map (.boolean true, ·)
    | 'f' :: _ => (Json.afterWord? "false".toList s).map (.boolean false, ·)
    | _ => number? s

end FrameFlow.Toml
