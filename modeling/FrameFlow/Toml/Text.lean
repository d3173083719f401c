import FrameFlow.Json.Token

/-! Texts in TOML. A text stands between single or tripled quotes; double quotes allow escapes
and single quotes take everything as it is. The readers start after the opening quotes and
return the content and what follows the closing ones. -/
namespace FrameFlow.Toml

/-- Control characters other than the tab stand in no text and in no comment. -/
def isControl (c : Char) : Bool := (c.toNat < 0x20 && c != '\t') || c.toNat == 0x7F

def isSpace (c : Char) : Bool := c == ' ' || c == '\t'

/-- The character of a code point given by hexadecimal digits. -/
def codePoint? (digits : List Char) : Option Char := do
  let n ← Json.hexValue? digits
  if n < 0xD800 ∨ (0xE000 ≤ n ∧ n < 0x110000) then some (Char.ofNat n) else none

def escape? : Char → Option Char
  | 'b' => some '\x08'
  | 't' => some '\t'
  | 'n' => some '\n'
  | 'f' => some '\x0C'
  | 'r' => some '\r'
  | '"' => some '"'
  | '\\' => some '\\'
  | _ => none

/-- One escape, after the backslash. -/
def readEscape : List Char → Option (Char × List Char)
  | 'u' :: a :: b :: c :: d :: r => (codePoint? [a, b, c, d]).map (·, r)
  | 'U' :: a :: b :: c :: d :: e :: f :: g :: h :: r =>
    (codePoint? [a, b, c, d, e, f, g, h]).map (·, r)
  | c :: r => (escape? c).map (·, r)
  | [] => none

theorem length_readEscape {s r : List Char} {c : Char} (h : readEscape s = some (c, r)) :
    r.length < s.length := by
  unfold readEscape at h
  split at h
  · obtain ⟨_, _, e⟩ := Option.map_eq_some_iff.1 h
    obtain ⟨_, rfl⟩ := Prod.mk.inj e
    simp only [List.length_cons]; omega
  · obtain ⟨_, _, e⟩ := Option.map_eq_some_iff.1 h
    obtain ⟨_, rfl⟩ := Prod.mk.inj e
    simp only [List.length_cons]; omega
  · obtain ⟨_, _, e⟩ := Option.map_eq_some_iff.1 h
    obtain ⟨_, rfl⟩ := Prod.mk.inj e
    simp
  · simp at h

/-- Between double quotes. -/
def readBasic (s : List Char) : Option (List Char × List Char) :=
  match s with
  | [] => none
  | '"' :: r => some ([], r)
  | '\\' :: r =>
    match _escape : readEscape r with
    | some (c, rest) => (readBasic rest).map fun (text, after) => (c :: text, after)
    | none => none
  | c :: r =>
    if isControl c then none
    else (readBasic r).map fun (text, after) => (c :: text, after)
termination_by s.length
decreasing_by
  · have := length_readEscape _escape
    simp only [List.length_cons]; omega
  · simp

/-- Between single quotes. -/
def readLiteral : List Char → Option (List Char × List Char)
  | [] => none
  | '\'' :: r => some ([], r)
  | c :: r =>
    if isControl c then none
    else (readLiteral r).map fun (text, after) => (c :: text, after)

/-- The line end at the front of a text, if there is one. -/
def afterNewline? : List Char → Option (List Char)
  | '\n' :: r => some r
  | '\r' :: '\n' :: r => some r
  | _ => none

/-- A line end right after the opening quotes does not count. -/
def skipNewline (s : List Char) : List Char := (afterNewline? s).getD s

/-- Blanks and line ends. -/
def skipLines : List Char → List Char
  | ' ' :: r => skipLines r
  | '\t' :: r => skipLines r
  | '\n' :: r => skipLines r
  | '\r' :: '\n' :: r => skipLines r
  | s => s

theorem length_skipLines (s : List Char) : (skipLines s).length ≤ s.length := by
  fun_induction skipLines s <;> simp_all <;> omega

/-- What follows a backslash at the end of a line: up to the next character that shows. -/
def afterFold? (s : List Char) : Option (List Char) :=
  (afterNewline? (s.dropWhile isSpace)).map skipLines

theorem length_afterFold? {s r : List Char} (h : afterFold? s = some r) :
    r.length < s.length := by
  obtain ⟨t, ht, rfl⟩ := Option.map_eq_some_iff.1 h
  have skipped := length_skipLines t
  have dropped : (s.dropWhile isSpace).length ≤ s.length :=
    (List.dropWhile_sublist _).length_le
  unfold afterNewline? at ht
  split at ht
  · next e =>
    rw [e] at dropped
    obtain rfl := Option.some.inj ht
    simp only [List.length_cons] at dropped; omega
  · next e =>
    rw [e] at dropped
    obtain rfl := Option.some.inj ht
    simp only [List.length_cons] at dropped; omega
  · simp at ht

/-- Quotes right before the closing three belong to the text, at most two. -/
def closeTripled (quote : Char) : List Char → List Char × List Char
  | a :: b :: r =>
    if a = quote ∧ b = quote then ([quote, quote], r)
    else if a = quote then ([quote], b :: r)
    else ([], a :: b :: r)
  | [a] => if a = quote then ([quote], []) else ([], [a])
  | [] => ([], [])

/-- Between tripled double quotes. -/
def readTripledBasic (s : List Char) : Option (List Char × List Char) :=
  match s with
  | [] => none
  | '"' :: '"' :: '"' :: r => some (closeTripled '"' r)
  | '\r' :: '\n' :: r => (readTripledBasic r).map fun (text, after) => ('\n' :: text, after)
  | '\n' :: r => (readTripledBasic r).map fun (text, after) => ('\n' :: text, after)
  | '\\' :: r =>
    match _fold : afterFold? r with
    | some rest => readTripledBasic rest
    | none =>
      match _escape : readEscape r with
      | some (c, rest) => (readTripledBasic rest).map fun (text, after) => (c :: text, after)
      | none => none
  | c :: r =>
    if isControl c then none
    else (readTripledBasic r).map fun (text, after) => (c :: text, after)
termination_by s.length
decreasing_by
  · simp only [List.length_cons]; omega
  · simp
  · have := length_afterFold? _fold
    simp only [List.length_cons]; omega
  · have := length_readEscape _escape
    simp only [List.length_cons]; omega
  · simp

/-- Between tripled single quotes. -/
def readTripledLiteral : List Char → Option (List Char × List Char)
  | [] => none
  | '\'' :: '\'' :: '\'' :: r => some (closeTripled '\'' r)
  | '\r' :: '\n' :: r => (readTripledLiteral r).map fun (text, after) => ('\n' :: text, after)
  | '\n' :: r => (readTripledLiteral r).map fun (text, after) => ('\n' :: text, after)
  | c :: r =>
    if isControl c then none
    else (readTripledLiteral r).map fun (text, after) => (c :: text, after)

/-- A text in single or tripled quotes. -/
def readText : List Char → Option (List Char × List Char)
  | '"' :: '"' :: '"' :: r => readTripledBasic (skipNewline r)
  | '\'' :: '\'' :: '\'' :: r => readTripledLiteral (skipNewline r)
  | '"' :: r => readBasic r
  | '\'' :: r => readLiteral r
  | _ => none

end FrameFlow.Toml
