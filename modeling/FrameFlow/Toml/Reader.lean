import FrameFlow.Toml.Scalar

/-! Reading of TOML documents, line by line. Arrays and tables between braces nest at most 79
deep, and so long a dotted key may be. -/
namespace FrameFlow.Toml

def nestingLimit : Nat := 79

def isBare (c : Char) : Bool := c.isAlphanum || c == '_' || c == '-'

def skipSpace (s : List Char) : List Char := s.dropWhile isSpace

/-- One part of a key: bare, or in single quotes of either sort. -/
def keyPart? : List Char → Option (String × List Char)
  | '"' :: r => (readBasic r).map fun (key, rest) => (String.ofList key, rest)
  | '\'' :: r => (readLiteral r).map fun (key, rest) => (String.ofList key, rest)
  | s =>
    let key := s.takeWhile isBare
    if key.isEmpty then none else some (String.ofList key, s.dropWhile isBare)

/-- The parts of a dotted key, with blanks around them. -/
def keyParts? : Nat → List Char → Option (List String × List Char)
  | 0, _ => none
  | fuel + 1, s => do
    let (part, rest) ← keyPart? (skipSpace s)
    match skipSpace rest with
    | '.' :: r => do
      let (parts, rest) ← keyParts? fuel r
      some (part :: parts, rest)
    | r => some ([part], r)

/-- A dotted key; the last part stands apart. -/
def key? (s : List Char) : Option (List String × String × List Char) := do
  let (parts, rest) ← keyParts? s.length s
  let last ← parts.getLast?
  if nestingLimit < parts.length then none else some (parts.dropLast, last, rest)

/-- What follows a comment after its mark: a line end, or nothing. -/
def commentEnd? (s : List Char) : Option (List Char) :=
  let rest := s.dropWhile fun c => !isControl c
  if rest.isEmpty then some [] else (afterNewline? rest).map fun _ => rest

theorem length_commentEnd? {s rest : List Char} (h : commentEnd? s = some rest) :
    rest.length ≤ s.length := by
  have dropped : (s.dropWhile fun c => !isControl c).length ≤ s.length :=
    (List.dropWhile_sublist _).length_le
  unfold commentEnd? at h
  dsimp only at h
  split at h
  · obtain rfl := Option.some.inj h
    simp
  · obtain ⟨_, _, rfl⟩ := Option.map_eq_some_iff.1 h
    exact dropped

/-- What follows a comment, if there is one. -/
def afterComment? : List Char → Option (List Char)
  | '#' :: r => commentEnd? r
  | s => some s

/-- Blanks, line ends and comments. -/
def skipTrivia (s : List Char) : Option (List Char) :=
  match _lines : skipLines s with
  | '#' :: r =>
    match _comment : commentEnd? r with
    | some rest => skipTrivia rest
    | none => none
  | r => some r
termination_by s.length
decreasing_by
  have skipped := length_skipLines s
  have commented := length_commentEnd? _comment
  rw [_lines, List.length_cons] at skipped
  omega

mutual

/-- A value inside at most `depth` further arrays and tables. -/
def value? (depth : Nat) : Nat → List Char → Option (Item × List Char)
  | 0, _ => none
  | fuel + 1, s =>
    match s with
    | '[' :: r =>
      match depth with
      | 0 => none
      | depth + 1 => (arrayItems? depth fuel r).map fun (items, rest) => (.array items, rest)
    | '\x7b' :: r =>
      match depth with
      | 0 => none
      | depth + 1 => do
        let (entries, rest) ← inlineEntries? depth fuel true (skipSpace r)
        let members ← inlineMembers? entries
        some (.table .inline members, rest)
    | '"' :: _ => (readText s).map fun (text, rest) => (.text (String.ofList text), rest)
    | '\'' :: _ => (readText s).map fun (text, rest) => (.text (String.ofList text), rest)
    | _ => scalar? s

/-- Items up to the closing bracket; a comma may follow the last one. -/
def arrayItems? (depth : Nat) : Nat → List Char → Option (List Item × List Char)
  | 0, _ => none
  | fuel + 1, s => do
    let s ← skipTrivia s
    match s with
    | ']' :: r => some ([], r)
    | _ => do
      let (item, rest) ← value? depth fuel s
      let rest ← skipTrivia rest
      match rest with
      | ']' :: r => some ([item], r)
      | ',' :: r => do
        let (items, rest) ← arrayItems? depth fuel r
        some (item :: items, rest)
      | _ => none

/-- Entries up to the closing brace, all on one line; only an empty table may close at once. -/
def inlineEntries? (depth : Nat) :
    Nat → Bool → List Char → Option (List (List String × String × Item) × List Char)
  | 0, _, _ => none
  | fuel + 1, first, s =>
    match first, s with
    | true, '\x7d' :: r => some ([], r)
    | _, _ => do
      let (path, key, rest) ← key? s
      let '=' :: r := rest | none
      let (item, rest) ← value? depth fuel (skipSpace r)
      match skipSpace rest with
      | '\x7d' :: r => some ([(path, key, item)], r)
      | ',' :: r => do
        let (entries, rest) ← inlineEntries? depth fuel false (skipSpace r)
        some ((path, key, item) :: entries, rest)
      | _ => none

end

/-- The end of a line that holds nothing more but a comment. -/
def afterLine? (s : List Char) : Option (List Char) := do
  let rest ← afterComment? (skipSpace s)
  if rest.isEmpty then some [] else afterNewline? rest

def header? (s : List Char) : Option (Statement × List Char) :=
  match s with
  | '[' :: '[' :: r => do
    let (parents, key, rest) ← key? r
    let ']' :: ']' :: r := rest | none
    (afterLine? r).map (.item parents key, ·)
  | '[' :: r => do
    let (parents, key, rest) ← key? r
    let ']' :: r := rest | none
    (afterLine? r).map (.table parents key, ·)
  | _ => none

def entry? (s : List Char) : Option (Statement × List Char) := do
  let (path, key, rest) ← key? s
  let '=' :: r := rest | none
  let r := skipSpace r
  let (item, rest) ← value? nestingLimit (2 * r.length + 1) r
  (afterLine? rest).map (.entry path key item, ·)

/-- The statements of a document, one on a line. -/
def statements? : Nat → List Char → Option (List Statement)
  | 0, _ => none
  | fuel + 1, s =>
    match skipSpace s with
    | [] => some []
    | c :: r =>
      if c = '#' ∨ c = '\n' ∨ c = '\r' then (afterLine? (c :: r)).bind (statements? fuel)
      else do
        let (statement, rest) ← if c = '[' then header? (c :: r) else entry? (c :: r)
        let statements ← statements? fuel rest
        some (statement :: statements)

/-- A mark of the byte order at the front of a text does not count. -/
def skipByteOrderMark : List Char → List Char
  | '\uFEFF' :: r => r
  | s => s

/-- The members of a whole document. -/
def read? (s : String) : Option Members :=
  let body := skipByteOrderMark s.toList
  (statements? (body.length + 1) body).bind Document.ofStatements?

end FrameFlow.Toml
