import FrameFlow.Proofs.Toml.Values

/-! The lines of a TOML document read back as the statements they are written for. -/
namespace FrameFlow.Toml

section Keys

variable {c : Char} {r rest : List Char}

theorem skipSpace_of_visible (visible : isSpace c = false) : skipSpace (c :: r) = c :: r := by
  rw [skipSpace, List.dropWhile_cons_of_neg (by simp [visible])]

/-- Characters that the written form of a key may start with. -/
def startsKey (c : Char) : Bool := isBare c || c == '"' || c == '\''

theorem exists_writeKey_cons (key : String) : ∃ c r, writeKey key = c :: r ∧ startsKey c := by
  unfold writeKey
  dsimp only
  split
  · next bare =>
    simp only [Bool.and_eq_true, Bool.not_eq_true', List.isEmpty_eq_false_iff, List.all_eq_true] at bare
    obtain ⟨c, r, same⟩ := List.exists_cons_of_ne_nil bare.1
    have front := bare.2 c (same ▸ List.mem_cons_self)
    exact ⟨c, r, same, by simp [startsKey, front]⟩
  split
  · exact ⟨_, _, rfl, by decide⟩
  split <;> exact ⟨_, _, rfl, by decide⟩

theorem ne_of_startsKey {d : Char} (front : startsKey c) (none : startsKey d = false) : c ≠ d := by
  rintro rfl
  simp [front] at none

theorem isSpace_of_startsKey (front : startsKey c) : isSpace c = false := by
  have space := ne_of_startsKey (d := ' ') front (by decide)
  have tab := ne_of_startsKey (d := '\t') front (by decide)
  simp [isSpace, space, tab]

theorem skipSpace_writeKey (key : String) : skipSpace (writeKey key ++ rest) = writeKey key ++ rest := by
  obtain ⟨c, r, same, front⟩ := exists_writeKey_cons key
  rw [same]
  exact skipSpace_of_visible (isSpace_of_startsKey front)

theorem writePath_singleton (key : String) : writePath [key] = writeKey key := by
  simp [writePath, List.intercalate]

theorem writePath_cons (key next : String) (path : List String) :
    writePath (key :: next :: path) = writeKey key ++ '.' :: writePath (next :: path) := by
  simp [writePath, List.intercalate]

theorem length_le_writePath (path : List String) : path.length ≤ (writePath path).length := by
  induction path with
  | nil => exact Nat.zero_le _
  | cons key path ih =>
    obtain ⟨c, r, same, -⟩ := exists_writeKey_cons key
    cases path with
    | nil => simp [writePath_singleton, same]
    | cons next path =>
      have some : 0 < (writeKey key).length := by simp [same]
      simp only [writePath_cons, List.length_append, List.length_cons] at ih ⊢
      omega

/-- The parts of a path read back up to where it ends. -/
theorem keyParts?_writePath {path : List String} {fuel : Nat} (nonempty : path ≠ [])
    (enough : path.length ≤ fuel) (bare : Stops isBare rest) (dot : Stops (· == '.') (skipSpace rest)) :
    keyParts? fuel (writePath path ++ rest) = some (path, skipSpace rest) := by
  induction path generalizing fuel with
  | nil => exact absurd rfl nonempty
  | cons key path ih =>
    obtain ⟨fuel, rfl⟩ := Nat.exists_eq_add_one_of_ne_zero (Nat.ne_zero_of_lt enough)
    cases path with
    | nil =>
      rw [writePath_singleton, keyParts?, skipSpace_writeKey, keyPart?_writeKey key bare]
      simp only [Option.bind_eq_bind, Option.bind_some]
      split
      · next r same => exact absurd (dot '.' r same) (by decide)
      · rfl
    | cons next path =>
      have later := ih (List.cons_ne_nil _ _) (Nat.le_of_succ_le_succ enough)
      have stops : Stops isBare ('.' :: (writePath (next :: path) ++ rest)) := stops_cons (by decide)
      have dotted : ∀ r, skipSpace ('.' :: r) = '.' :: r := fun r => skipSpace_of_visible (by decide)
      rw [writePath_cons, List.append_assoc, List.cons_append, keyParts?, skipSpace_writeKey,
        keyPart?_writeKey key stops]
      simp [dotted, later]

/-- A key reads back with the path before it, if the path is not too long. -/
theorem key?_writePath {parents : List String} (key : String) (short : parents.length < nestingLimit)
    (bare : Stops isBare rest) (dot : Stops (· == '.') (skipSpace rest)) :
    key? (writePath (parents ++ [key]) ++ rest) = some (parents, key, skipSpace rest) := by
  have enough : (parents ++ [key]).length ≤ (writePath (parents ++ [key]) ++ rest).length :=
    Nat.le_trans (length_le_writePath _) (by simp)
  have parts := keyParts?_writePath (by simp) enough bare dot
  rw [key?, parts]
  simp [Nat.not_lt.2 (Nat.succ_le_of_lt short)]

theorem exists_writePath_cons (path : List String) (nonempty : path ≠ []) :
    ∃ c r, writePath path = c :: r ∧ startsKey c := by
  obtain ⟨key, path, rfl⟩ := List.exists_cons_of_ne_nil nonempty
  obtain ⟨c, r, same, front⟩ := exists_writeKey_cons key
  cases path with
  | nil => exact ⟨c, r, by rw [writePath_singleton, same], front⟩
  | cons next path => exact ⟨c, _, by rw [writePath_cons, same, List.cons_append], front⟩

/-- A key between brackets, and the path before it. -/
theorem key?_bracketed {parents : List String} (key : String) (short : parents.length < nestingLimit) :
    key? (writePath (parents ++ [key]) ++ ']' :: rest) = some (parents, key, ']' :: rest) := by
  have skipped : skipSpace (']' :: rest) = ']' :: rest := skipSpace_of_visible (by decide)
  have read := key?_writePath key short (stops_cons (by decide)) (skipped ▸ stops_cons (by decide))
  rwa [skipped] at read

/-- A key in front of its value. -/
theorem key?_entry (key : String) :
    key? (writeKey key ++ ' ' :: '=' :: rest) = some ([], key, '=' :: rest) := by
  have skipped : skipSpace (' ' :: '=' :: rest) = '=' :: rest := rfl
  have read : key? (writePath ([] ++ [key]) ++ ' ' :: '=' :: rest) =
      some ([], key, skipSpace (' ' :: '=' :: rest)) :=
    key?_writePath key (by decide) (stops_cons (by decide)) (skipped ▸ stops_cons (by decide))
  rwa [skipped, List.nil_append, writePath_singleton] at read

end Keys

/-- Whether a header names a table that its line reads back as. -/
def Header.IsShort : Header → Prop
  | .document => True
  | .table path => ∃ parents key, path = parents ++ [key] ∧ parents.length < nestingLimit
  | .item path => ∃ parents key, path = parents ++ [key] ∧ parents.length < nestingLimit

/-- What the line of a header says. -/
def Header.statements : Header → List Statement
  | .document => []
  | .table path => path.getLast?.toList.map (.table path.dropLast)
  | .item path => path.getLast?.toList.map (.item path.dropLast)

/-- What the lines of entries say. -/
def entryStatements (entries : List (String × Scalar)) : List Statement :=
  entries.map fun (key, value) => .entry [] key value.item

/-- What the lines of a section say. -/
def Section.statements (s : Section) : List Statement :=
  s.header.statements ++ entryStatements s.entries

/-- A section whose lines read back. -/
structure Section.IsReadable (s : Section) : Prop where
  header : s.header.IsShort
  entries : ∀ entry ∈ s.entries, entry.2.IsExact

section Lines

variable {c : Char} {w rest : List Char} {t : Statement} {ts : List Statement}

theorem afterLine?_newline : afterLine? ('\n' :: rest) = some rest := by
  rw [afterLine?, skipSpace_of_visible (by decide)]
  rfl

theorem header?_table {parents : List String} {key : String} (short : parents.length < nestingLimit) :
    header? ('[' :: (writePath (parents ++ [key]) ++ ']' :: '\n' :: rest)) =
      some (.table parents key, rest) := by
  obtain ⟨c, r, same, front⟩ := exists_writePath_cons (parents ++ [key]) (by simp)
  have single : ∀ r', writePath (parents ++ [key]) ++ ']' :: '\n' :: rest ≠ '[' :: r' := by
    intro r' bracket
    rw [same] at bracket
    exact ne_of_startsKey front (by decide) (List.cons.inj bracket).1
  rw [header?.eq_2 _ single, key?_bracketed key short]
  simp [afterLine?_newline]

theorem header?_item {parents : List String} {key : String} (short : parents.length < nestingLimit) :
    header? ('[' :: '[' :: (writePath (parents ++ [key]) ++ ']' :: ']' :: '\n' :: rest)) =
      some (.item parents key, rest) := by
  rw [header?, key?_bracketed key short]
  simp [afterLine?_newline]

theorem exists_write_cons {value : Scalar} (exact : value.IsExact) :
    ∃ c r, value.write = c :: r ∧ isSpace c = false := by
  cases value with
  | text s =>
    obtain ⟨c, r, same, front⟩ := quoteText_front s.toList
    exact ⟨c, r, same, by rcases front with rfl | rfl <;> decide⟩
  | integer n =>
    obtain ⟨c, r, same, front⟩ := exists_toString_cons n.toInt
    refine ⟨c, r, same, Bool.eq_false_iff.2 fun blank => ?_⟩
    simp only [isSpace, Bool.or_eq_true, beq_iff_eq] at blank
    rcases blank with rfl | rfl <;> exact absurd front (by decide)
  | float x => exact exact.elim
  | boolean b => cases b <;> exact ⟨_, _, rfl, by decide⟩
  | emptyArray => exact ⟨_, _, rfl, by decide⟩

theorem writeEntry_append (key : String) (value : Scalar) (rest : List Char) :
    writeEntry key value ++ rest =
      writeKey key ++ ' ' :: '=' :: ' ' :: (value.write ++ '\n' :: rest) := by
  simp [writeEntry]

theorem entry?_writeEntry (key : String) {value : Scalar} (exact : value.IsExact) (rest : List Char) :
    entry? (writeEntry key value ++ rest) = some (.entry [] key value.item, rest) := by
  obtain ⟨c, r, same, visible⟩ := exists_write_cons exact
  have skipped : skipSpace (' ' :: (value.write ++ '\n' :: rest)) = value.write ++ '\n' :: rest := by
    rw [same]
    exact skipSpace_of_visible visible
  obtain ⟨k, fuel⟩ : ∃ k, 2 * (value.write ++ '\n' :: rest).length + 1 = k + 2 :=
    ⟨2 * (value.write ++ rest).length + 1, by simp; omega⟩
  rw [writeEntry_append, entry?, key?_entry]
  simp only [Option.bind_eq_bind, Option.bind_some, skipped]
  rw [fuel, nestingLimit, value?_write exact]
  simp [afterLine?_newline]

theorem toList_write_singleton (s : Section) : (write [s]).toList = s.write := by
  simp [write, List.intercalate]

theorem toList_write_cons (s next : Section) (sections : List Section) :
    (write (s :: next :: sections)).toList = s.write ++ '\n' :: (write (next :: sections)).toList := by
  simp [write, List.intercalate]

theorem Section.write_front {s : Section} {c : Char} {r : List Char} (same : s.write = c :: r) :
    startsKey c ∨ c = '[' := by
  obtain ⟨h, es⟩ := s
  cases h with
  | table path => exact .inr (List.cons.inj same).1.symm
  | item path => exact .inr (List.cons.inj same).1.symm
  | document =>
    cases es with
    | nil => simp [Section.write, Header.write] at same
    | cons entry es =>
      obtain ⟨d, r', key, front⟩ := exists_writeKey_cons entry.1
      rw [Section.write, Header.write, List.nil_append, List.flatMap_cons, writeEntry_append, key]
        at same
      obtain ⟨rfl, -⟩ := List.cons.inj same
      exact .inl front

theorem write_front {sections : List Section} {c : Char} {r : List Char}
    (same : (write sections).toList = c :: r) : startsKey c ∨ c = '[' ∨ c = '\n' := by
  cases sections with
  | nil => simp [write, List.intercalate] at same
  | cons s sections =>
    cases sections with
    | nil => exact (Section.write_front (toList_write_singleton s ▸ same)).imp_right .inl
    | cons next sections =>
      rw [toList_write_cons] at same
      cases text : s.write with
      | nil =>
        rw [text] at same
        exact .inr (.inr (List.cons.inj same).1.symm)
      | cons d r' =>
        rw [text] at same
        obtain ⟨rfl, -⟩ := List.cons.inj same
        exact (Section.write_front text).imp_right .inl

/-- A text reads back as statements, whatever the fuel beyond its length. -/
def Reads (s : List Char) (ts : List Statement) : Prop :=
  ∀ fuel, s.length < fuel → statements? fuel s = some ts

namespace Reads

protected theorem nil : Reads [] [] := by
  intro fuel enough
  obtain ⟨fuel, rfl⟩ := Nat.exists_eq_add_one_of_ne_zero (Nat.ne_zero_of_lt enough)
  rfl

theorem newline (reads : Reads rest ts) : Reads ('\n' :: rest) ts := by
  intro fuel enough
  obtain ⟨fuel, rfl⟩ := Nat.exists_eq_add_one_of_ne_zero (Nat.ne_zero_of_lt enough)
  rw [statements?, skipSpace_of_visible (by decide)]
  simpa [afterLine?_newline] using reads fuel (Nat.lt_of_succ_lt_succ enough)

theorem header (read : header? ('[' :: (w ++ rest)) = some (t, rest)) (reads : Reads rest ts) :
    Reads ('[' :: (w ++ rest)) (t :: ts) := by
  intro fuel enough
  obtain ⟨fuel, rfl⟩ := Nat.exists_eq_add_one_of_ne_zero (Nat.ne_zero_of_lt enough)
  have later := reads fuel (by simp at enough; omega)
  rw [statements?, skipSpace_of_visible (by decide)]
  simp [read, later]

theorem entry (key : String) {value : Scalar} (exact : value.IsExact) (reads : Reads rest ts) :
    Reads (writeEntry key value ++ rest) (.entry [] key value.item :: ts) := by
  intro fuel enough
  obtain ⟨fuel, rfl⟩ := Nat.exists_eq_add_one_of_ne_zero (Nat.ne_zero_of_lt enough)
  have read := entry?_writeEntry key exact rest
  have later := reads fuel (by simp [writeEntry] at enough; omega)
  obtain ⟨c, r, same, front⟩ := exists_writeKey_cons key
  rw [writeEntry_append, same, List.cons_append] at read ⊢
  have other : ∀ d, startsKey d = false → c ≠ d := fun d => ne_of_startsKey front
  rw [statements?, skipSpace_of_visible (isSpace_of_startsKey front)]
  simp [other '#' (by decide), other '\n' (by decide), other '\r' (by decide),
    other '[' (by decide), read, later]

theorem entries {entries : List (String × Scalar)} (exact : ∀ entry ∈ entries, entry.2.IsExact)
    (reads : Reads rest ts) :
    Reads ((entries.flatMap fun (key, value) => writeEntry key value) ++ rest)
      (entryStatements entries ++ ts) := by
  induction entries with
  | nil => exact reads
  | cons entry entries ih =>
    obtain ⟨first, others⟩ := List.forall_mem_cons.1 exact
    rw [List.flatMap_cons, List.append_assoc]
    exact .entry entry.1 first (ih others)

theorem ofSection {s : Section} (readable : s.IsReadable) (reads : Reads rest ts) :
    Reads (s.write ++ rest) (s.statements ++ ts) := by
  have lines := entries readable.entries reads
  obtain ⟨h, es⟩ := s
  rw [Section.write, Section.statements, List.append_assoc, List.append_assoc]
  cases h with
  | document => exact lines
  | table path =>
    obtain ⟨parents, key, rfl, short⟩ := readable.header
    have line := header (w := writePath (parents ++ [key]) ++ [']', '\n'])
      (by simpa using header?_table short) lines
    simpa [Header.write, Header.statements] using line
  | item path =>
    obtain ⟨parents, key, rfl, short⟩ := readable.header
    have line := header (w := '[' :: writePath (parents ++ [key]) ++ [']', ']', '\n'])
      (by simpa using header?_item short) lines
    simpa [Header.write, Header.statements] using line

theorem ofSections {sections : List Section} (readable : ∀ s ∈ sections, s.IsReadable) :
    Reads (Toml.write sections).toList (sections.flatMap Section.statements) := by
  induction sections with
  | nil => exact .nil
  | cons s sections ih =>
    obtain ⟨first, others⟩ := List.forall_mem_cons.1 readable
    rw [List.flatMap_cons]
    cases sections with
    | nil =>
      have reads := Reads.ofSection first .nil
      rwa [List.append_nil, ← toList_write_singleton] at reads
    | cons next sections =>
      rw [toList_write_cons]
      exact .ofSection first (.newline (ih others))

end Reads

theorem read?_write {sections : List Section} (readable : ∀ s ∈ sections, s.IsReadable) :
    read? (Toml.write sections) = Document.ofStatements? (sections.flatMap Section.statements) := by
  -- A mark of the byte order in front would be dropped, but no line starts with one.
  have unmarked : ∀ r, (Toml.write sections).toList ≠ '\uFEFF' :: r := by
    intro r same
    rcases write_front same with front | front | front <;> exact absurd front (by decide)
  rw [read?, skipByteOrderMark.eq_2 _ unmarked, Reads.ofSections readable _ (Nat.lt_succ_self _)]
  rfl

end Lines

end FrameFlow.Toml
