/-! Blank characters and trimming. Blank is the Unicode property White_Space, so a
no-break space is blank and a zero-width space is not. Trimming takes the blanks off both ends, and a text
that is trimmed already keeps all it has. -/
namespace FrameFlow.Text

def isBlank (c : Char) : Bool :=
  let n := c.toNat
  (0x09 ≤ n && n ≤ 0x0D) || n == 0x20 || n == 0x85 || n == 0xA0 || n == 0x1680 ||
    (0x2000 ≤ n && n ≤ 0x200A) || n == 0x2028 || n == 0x2029 || n == 0x202F ||
    n == 0x205F || n == 0x3000

/-- What is left of a text without the blanks at its two ends. -/
def trim (s : List Char) : List Char :=
  ((s.dropWhile isBlank).reverse.dropWhile isBlank).reverse

theorem trim_of_ends {s : List Char} (first : ∀ c ∈ s.head?, isBlank c = false)
    (last : ∀ c ∈ s.getLast?, isBlank c = false) : trim s = s := by
  have front : s.dropWhile isBlank = s := by
    cases s with
    | nil => rfl
    | cons c r => simp [first c (by simp)]
  have back : s.reverse.dropWhile isBlank = s.reverse := by
    cases e : s.reverse with
    | nil => rfl
    | cons c r =>
      have : s.getLast? = some c := by
        rw [← List.head?_reverse, e]; rfl
      simp [last c (by simp [this])]
  rw [trim, front, back, List.reverse_reverse]

/-- A text with blanks around another, perhaps none. -/
def Around (core text : List Char) : Prop :=
  ∃ front back, text = front ++ core ++ back ∧ (∀ c ∈ front, isBlank c) ∧ ∀ c ∈ back, isBlank c

theorem around_self (text : List Char) : Around text text := ⟨[], [], by simp⟩

theorem around_trim (text : List Char) : Around (trim text) text := by
  refine ⟨text.takeWhile isBlank, ((text.dropWhile isBlank).reverse.takeWhile isBlank).reverse, ?_, ?_, ?_⟩
  · rw [List.append_assoc, trim, ← List.reverse_append, List.takeWhile_append_dropWhile,
      List.reverse_reverse, List.takeWhile_append_dropWhile]
  · intro c member
    exact List.all_eq_true.1 List.all_takeWhile c member
  · intro c member
    exact List.all_eq_true.1 List.all_takeWhile c (List.mem_reverse.1 member)

theorem dropWhile_of_blank {s : List Char} (blank : ∀ c ∈ s, isBlank c) : s.dropWhile isBlank = [] := by
  simpa using @List.dropWhile_append_of_pos _ isBlank s [] blank

theorem trim_of_around {core text : List Char} (around : Around core text) : trim text = trim core := by
  obtain ⟨front, back, rfl, before, after⟩ := around
  have after' : ∀ c ∈ back.reverse, isBlank c := fun c member => after c (List.mem_reverse.1 member)
  rw [trim, trim, List.append_assoc, List.dropWhile_append_of_pos before, List.dropWhile_append]
  split
  · next none =>
    rw [dropWhile_of_blank after, List.isEmpty_iff.1 none]
  · rw [List.reverse_append, List.dropWhile_append_of_pos after']

end FrameFlow.Text
