import FrameFlow.Json.Value

/-! Tokens of JSON texts. `Token.lex` cuts a whole text into tokens; blanks between tokens
are the space, the tab and the two line ends. -/
namespace FrameFlow.Json

inductive Mark where
  | beginArray
  | endArray
  | beginObject
  | endObject
  | colon
  | comma
deriving DecidableEq, Repr

def Mark.char : Mark → Char
  | beginArray => '['
  | endArray => ']'
  | beginObject => '{'
  | endObject => '}'
  | colon => ':'
  | comma => ','

def Mark.ofChar? (c : Char) : Option Mark :=
  [beginArray, endArray, beginObject, endObject, colon, comma].find? fun m => m.char == c

inductive Token where
  | mark (m : Mark)
  | null
  | boolean (b : Bool)
  | number (n : Decimal.Numeral)
  | text (s : Option String)
deriving Repr

def isSpace (c : Char) : Bool := c == ' ' || c == '\t' || c == '\n' || c == '\r'

def hexDigit? (c : Char) : Option Nat :=
  let n := c.toNat
  if '0' ≤ c ∧ c ≤ '9' then some (n - '0'.toNat)
  else if 'a' ≤ c ∧ c ≤ 'f' then some (n - 'a'.toNat + 10)
  else if 'A' ≤ c ∧ c ≤ 'F' then some (n - 'A'.toNat + 10)
  else none

/-- The number written by hexadecimal digits. -/
def hexValue? (digits : List Char) : Option Nat :=
  digits.foldlM (fun n c => (hexDigit? c).map (16 * n + ·)) 0

def escape? : Char → Option Char
  | '"' => some '"'
  | '\\' => some '\\'
  | '/' => some '/'
  | 'b' => some '\x08'
  | 'f' => some '\x0C'
  | 'n' => some '\n'
  | 'r' => some '\r'
  | 't' => some '\t'
  | _ => none

/-- The code points of a text up to its closing quote, escapes resolved one by one, and what
follows the quote. -/
def scanText : List Char → Option (List Nat × List Char)
  | [] => none
  | '"' :: r => some ([], r)
  | '\\' :: 'u' :: a :: b :: c :: d :: r => do
    let n ← hexValue? [a, b, c, d]
    let (units, rest) ← scanText r
    some (n :: units, rest)
  | '\\' :: e :: r => do
    let c ← escape? e
    let (units, rest) ← scanText r
    some (c.toNat :: units, rest)
  | c :: r =>
    if c.toNat < 0x20 then none
    else (scanText r).map fun (units, rest) => (c.toNat :: units, rest)

def isHigh (n : Nat) : Bool := 0xD800 ≤ n && n < 0xDC00

def isLow (n : Nat) : Bool := 0xDC00 ≤ n && n < 0xE000

/-- Joins surrogate pairs; half a pair spoils the text. -/
def joinPairs : List Nat → Option (List Char)
  | [] => some []
  | n :: r =>
    if isLow n then none
    else if isHigh n then
      match r with
      | m :: r => if isLow m then
          (joinPairs r).map (Char.ofNat (0x10000 + 1024 * (n - 0xD800) + (m - 0xDC00)) :: ·)
        else none
      | [] => none
    else (joinPairs r).map (Char.ofNat n :: ·)

/-- What follows a word that the text starts with. -/
def afterWord? (word s : List Char) : Option (List Char) :=
  if word.isPrefixOf s then some (s.drop word.length) else none

/-- The token at the front of a text that starts with no blank, and what follows it. -/
def Token.scan (s : List Char) : Option (Token × List Char) :=
  match s with
  | [] => none
  | c :: r =>
    match Mark.ofChar? c with
    | some m => some (.mark m, r)
    | none =>
      if c = '"' then
        (scanText r).map fun (units, rest) => (.text ((joinPairs units).map String.ofList), rest)
      else if c = 'n' then (afterWord? "null".toList s).map (.null, ·)
      else if c = 't' then (afterWord? "true".toList s).map (.boolean true, ·)
      else if c = 'f' then (afterWord? "false".toList s).map (.boolean false, ·)
      else (Decimal.Numeral.scan s).map fun (n, rest) => (.number n, rest)

/-- The tokens of a text in which at most `fuel` blanks and tokens stand. -/
def Token.lexWithin : Nat → List Char → Option (List Token)
  | _, [] => some []
  | 0, _ => none
  | fuel + 1, c :: r =>
    if isSpace c then lexWithin fuel r
    else do
      let (token, rest) ← Token.scan (c :: r)
      (token :: ·) <$> lexWithin fuel rest

/-- Every token takes at least one character. -/
def Token.lex (s : List Char) : Option (List Token) := lexWithin s.length s

end FrameFlow.Json
