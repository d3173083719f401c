import FrameFlow.Json.Reader
import FrameFlow.Json.Writer
import FrameFlow.Proofs.Text.Digits

/-! Texts between quotes read back as they were, whatever characters they have: each character is written
as itself or as an escape that stands for it. -/
namespace FrameFlow.Json

section Escapes

variable {c : Char} {r : List Char}

/-- What a character of a text adds to what was scanned. -/
def addUnit (n : Nat) (scanned : List Nat × List Char) : List Nat × List Char :=
  (n :: scanned.1, scanned.2)

theorem scanText_plain (quote : c ≠ '"') (backslash : c ≠ '\\') (visible : 0x20 ≤ c.toNat) :
    scanText (c :: r) = (scanText r).map (addUnit c.toNat) := by
  rw [scanText.eq_5 c r quote (fun _ _ _ _ _ same => absurd same backslash)
    (fun _ _ same => absurd same backslash), if_neg (Nat.not_lt.2 visible)]
  rfl

theorem scanText_escape {e : Char} (escaped : escape? e = some c) (other : e ≠ 'u') :
    scanText ('\\' :: e :: r) = (scanText r).map (addUnit c.toNat) := by
  rw [scanText.eq_4 e r fun _ _ _ _ _ same => absurd same other, escaped]
  cases scanText r <;> rfl

theorem scanText_code {a b d e : Char} (coded : hexValue? [a, b, d, e] = some c.toNat) :
    scanText ('\\' :: 'u' :: a :: b :: d :: e :: r) = (scanText r).map (addUnit c.toNat) := by
  rw [scanText, coded]
  cases scanText r <;> rfl

/-- The last digit of a code. -/
def lastDigit (n : Nat) : Char := (Nat.digitChar (n % 16)).toLower

theorem hex_of_lt {n : Nat} (single : n < 0x10) : (Text.hex n).toList = [lastDigit n] := by
  simp [Text.hex, Nat.toDigits_of_lt_base single, lastDigit, Nat.mod_eq_of_lt single]

theorem hex_of_control {n : Nat} (two : 0x10 ≤ n) (control : n < 0x20) :
    (Text.hex n).toList = ['1', lastDigit n] := by
  have first : n / 16 = 1 := by omega
  rw [Text.hex, String.toList_ofList, Nat.toDigits_of_base_le (by decide) two, first]
  rfl

theorem hexValue?_low : ∀ n < 0x10, hexValue? ['0', '0', '0', lastDigit n] = some n := by decide

theorem hexValue?_control :
    ∀ n < 0x20, 0x10 ≤ n → hexValue? ['0', '0', '1', lastDigit n] = some n := by decide

theorem scanText_escapeChar (c : Char) (r : List Char) :
    scanText ((escapeChar c).toList ++ r) = (scanText r).map (addUnit c.toNat) := by
  unfold escapeChar
  split
  · next same => exact same ▸ scanText_escape rfl (by decide)
  split
  · next same => exact same ▸ scanText_escape rfl (by decide)
  split
  · next same => exact same ▸ scanText_escape rfl (by decide)
  split
  · next same => exact same ▸ scanText_escape rfl (by decide)
  split
  · next same => exact same ▸ scanText_escape rfl (by decide)
  split
  · next same => exact same ▸ scanText_escape rfl (by decide)
  split
  · next same => exact same ▸ scanText_escape rfl (by decide)
  split
  · next low =>
    rw [String.toList_append, hex_of_lt low]
    exact scanText_code (hexValue?_low c.toNat low)
  split
  · next two control =>
    rw [String.toList_append, hex_of_control (Nat.not_lt.1 two) control]
    exact scanText_code (hexValue?_control c.toNat control (Nat.not_lt.1 two))
  · next quote backslash _ _ _ _ _ _ visible =>
    simpa using scanText_plain quote backslash (Nat.not_lt.1 visible)

end Escapes

/-- A text between quotes, up to the closing one, is scanned as its code points. -/
theorem scanText_quoted (s rest : List Char) :
    scanText (s.flatMap (fun c => (escapeChar c).toList) ++ '"' :: rest) =
      some (s.map Char.toNat, rest) := by
  induction s with
  | nil => simp [scanText]
  | cons c r ih =>
    rw [List.flatMap_cons, List.append_assoc, scanText_escapeChar, ih]
    rfl

theorem not_surrogate (c : Char) : isLow c.toNat = false ∧ isHigh c.toNat = false := by
  have valid := c.valid
  simp only [UInt32.isValidChar, Nat.isValidChar] at valid
  have same : c.toNat = c.val.toNat := rfl
  simp only [isLow, isHigh, Bool.and_eq_false_iff, decide_eq_false_iff_not]
  omega

theorem joinPairs_map (s : List Char) : joinPairs (s.map Char.toNat) = some s := by
  induction s with
  | nil => rfl
  | cons c r ih =>
    obtain ⟨low, high⟩ := not_surrogate c
    rw [List.map_cons, joinPairs.eq_def]
    simp [low, high, ih]

theorem toList_quote (s : String) :
    (quote s).toList = '"' :: s.toList.flatMap (fun c => (escapeChar c).toList) ++ ['"'] := by
  simp [quote, String.toList_append, String.toList_join, List.flatMap_map]

theorem scan_quote (s : String) (rest : List Char) :
    Token.scan ((quote s).toList ++ rest) = some (.text (some s), rest) := by
  have none : Mark.ofChar? '"' = none := by decide
  have scanned := scanText_quoted s.toList rest
  rw [toList_quote, List.cons_append, List.cons_append, List.append_assoc, List.cons_append,
    List.nil_append]
  simp only [Token.scan, none, if_true, scanned, Option.map_some, joinPairs_map,
    String.ofList_toList]

end FrameFlow.Json
