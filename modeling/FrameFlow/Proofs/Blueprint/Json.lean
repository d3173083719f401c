import FrameFlow.Blueprint.Json
import FrameFlow.Proofs.Blueprint.Datum
import FrameFlow.Proofs.Json.Reading

/-! Blueprints read back from the JSON that they are written as. -/
namespace FrameFlow

namespace Json

theorem plainItems_iff {items : List Value} : PlainItems items ↔ ∀ v ∈ items, v.Plain := by
  induction items with
  | nil => simp [PlainItems]
  | cons v rest ih => simp [PlainItems, ih]

theorem plain_record_iff {members : List (String × Value)} :
    (Value.record members).Plain ↔ ∀ member ∈ members, member.2.Plain := by
  rw [Value.record, Value.Plain]
  induction members with
  | nil => simp [PlainMembers]
  | cons member rest ih =>
    rw [List.map_cons, PlainMembers, List.forall_mem_cons, ih]
    simp

theorem plain_ofInt (n : Int) : (Value.ofInt n).Plain := Decimal.Numeral.proper_ofInt n

theorem plain_ofNat (n : Nat) : (Value.ofNat n).Plain := by
  rw [Value.ofNat, Decimal.Numeral.ofNat_eq_ofInt]
  exact plain_ofInt n

theorem integer?_ofInt {n : Int} (low : -0x8000000000000000 ≤ n) (high : n < 0x8000000000000000) :
    integer? (.ofInt n) = some n := by
  by_cases negative : n < 0
  · obtain ⟨m, rfl⟩ : ∃ m : Nat, n = -(m : Int) := ⟨n.natAbs, by omega⟩
    have bounds : 0 < m ∧ m ≤ 0x8000000000000000 := by omega
    simp [integer?, bounds]
  · obtain ⟨m, rfl⟩ : ∃ m : Nat, n = m := ⟨n.natAbs, by omega⟩
    have bound : m < 0x8000000000000000 := by omega
    simp [integer?, negative, bound]

theorem natural?_ofInt {n : Nat} (high : n < 0x10000000000000000) :
    natural? (.ofInt n) = some n := by
  simp [natural?, high]

end Json

namespace Datum
open Json (Value)

theorem listOfJson_eq (items : List Value) : listOfJson items = items.map ofJson := by
  induction items with
  | nil => rfl
  | cons v rest ih => rw [listOfJson, ih]; rfl

theorem ofJson_record (members : List (String × Value)) :
    ofJson (.record members) = .record (members.map fun (key, v) => (some key, ofJson v)) := by
  rw [Value.record, ofJson]
  congr 1
  induction members with
  | nil => rfl
  | cons member rest ih => rw [List.map_cons, membersOfJson, ih]; rfl

theorem ofJson_ofInt64 (n : Int64) : ofJson (.ofInt n.toInt) = .integer n.toInt := by
  rw [Value.ofInt, ofJson, ofNumeral, Json.integer?_ofInt n.le_toInt n.toInt_lt]

theorem ofJson_ofNat {n : Nat} (high : n < 0x10000000000000000) : ofJson (.ofNat n) = .integer n := by
  rw [Value.ofNat, ofJson, Decimal.Numeral.ofNat_eq_ofInt, ofNumeral, Json.natural?_ofInt high]
  by_cases signed : n < 0x8000000000000000
  · rw [Json.integer?_ofInt (by omega) (by omega)]
  · have positive : ¬(n : Int) < 0 := by omega
    have none : Json.integer? (.ofInt n) = none := by simp [Json.integer?, positive, signed]
    rw [none]

end Datum

namespace Literal

theorem plain_toJson {l : Literal} (exact : l.IsExact) : l.toJson.Plain := by
  cases l with
  | boolean b => trivial
  | integer n => exact Json.plain_ofInt n.toInt
  | float x => exact exact.elim
  | text s => exact rfl

theorem ofJson_toJson {l : Literal} (exact : l.IsExact) : Datum.ofJson l.toJson = l.datum := by
  cases l with
  | boolean b => rfl
  | integer n => exact Datum.ofJson_ofInt64 n
  | float x => exact exact.elim
  | text s => rfl

end Literal

namespace Blueprint
open Json (Value plain_record_iff plainItems_iff)

theorem GraphOptions.plain_toJson (o : GraphOptions) : (toJson o).Plain := by
  simp [toJson, plain_record_iff, Json.plain_ofNat]

theorem GraphOptions.ofJson_toJson {o : GraphOptions}
    (feedCapacity : o.feedCapacity < 0x10000000000000000) (reserve : o.reserve < 0x10000000000000000) :
    Datum.ofJson (toJson o) = o.datum := by
  simp [toJson, Datum.ofJson_record, Datum.ofJson_ofNat, feedCapacity, reserve, GraphOptions.datum]

theorem Node.plain_options {n : Node} (exact : n.IsExact) :
    (Value.record (n.options.entries.map fun (key, l) => (key, l.toJson))).Plain := by
  refine plain_record_iff.2 (List.forall_mem_map.2 fun entry mem => ?_)
  exact Literal.plain_toJson (exact entry mem)

theorem Node.plain_toJson {n : Node} (exact : n.IsExact) : n.toJson.Plain := by
  rw [toJson]
  split
  · simp [plain_record_iff, Value.string, Value.Plain]
  · simp [plain_record_iff, Value.string, Value.Plain, plain_options exact]

theorem Node.ofJson_options {n : Node} (exact : n.IsExact) :
    (n.options.entries.map fun (key, l) => (some key, Datum.ofJson l.toJson)) =
      n.options.entries.map fun (key, l) => (some key, l.datum) :=
  List.map_congr_left fun entry mem => by simp only [Literal.ofJson_toJson (exact entry mem)]

theorem Node.ofJson_toJson {n : Node} (exact : n.IsExact) : Datum.ofJson n.toJson = n.datum := by
  rw [toJson, datum, optionsField, ← ofJson_options exact, Datum.ofJson_record]
  split
  · simp [Value.string, Datum.ofJson]
  · simp [Value.string, Datum.ofJson, Datum.ofJson_record]

theorem Link.plain_toJson (l : Link) : l.toJson.Plain := by
  simp [toJson, plain_record_iff, Json.plain_ofNat, Value.string, Value.Plain, or_imp, forall_and]

theorem Link.ofJson_toJson {l : Link} (output : l.output < 0x10000000000000000)
    (input : l.input < 0x10000000000000000) : Datum.ofJson l.toJson = l.datum := by
  simp [toJson, Datum.ofJson_record, Datum.ofJson_ofNat, output, input, Link.datum, Value.string,
    Datum.ofJson]

theorem plain_toJson {b : Blueprint} (exact : b.IsExact) : b.toJson.Plain := by
  have nodes : ∀ n ∈ b.nodes, n.toJson.Plain := fun n mem => Node.plain_toJson (exact n mem)
  have links : ∀ l ∈ b.links, l.toJson.Plain := fun l _ => l.plain_toJson
  simpa [toJson, plain_record_iff, GraphOptions.plain_toJson, Value.Plain, plainItems_iff] using
    ⟨nodes, links⟩

/-- The JSON of a blueprint says what the blueprint says. -/
theorem describes_ofJson {b : Blueprint} (exact : b.IsExact)
    (below : b.NumbersBelow 0x10000000000000000) :
    ∃ fields, Datum.ofJson b.toJson = .record fields ∧ Datum.Describes fields b := by
  have options := GraphOptions.ofJson_toJson below.feedCapacity below.reserve
  have nodes : (b.nodes.map Node.toJson).map Datum.ofJson = b.nodes.map Node.datum := by
    rw [List.map_map]
    exact List.map_congr_left fun n mem => Node.ofJson_toJson (exact n mem)
  have links : (b.links.map Link.toJson).map Datum.ofJson = b.links.map Link.datum := by
    rw [List.map_map]
    exact List.map_congr_left fun l mem =>
      Link.ofJson_toJson (below.output l mem) (below.input l mem)
  refine ⟨_, Datum.ofJson_record _, ?_⟩
  simp only [List.map_cons, List.map_nil, options, Datum.ofJson, Datum.listOfJson_eq, nodes, links]
  exact ⟨by simp, by simp [Datum.field?], by simp [Datum.field?], by simp [Datum.field?]⟩

/-- A blueprint without floats reads back from its JSON text. -/
theorem readJson_writeJson {b : Blueprint} (exact : b.IsExact)
    (below : b.NumbersBelow 0x10000000000000000) : readJson b.writeJson = .ok b := by
  obtain ⟨fields, same, describes⟩ := describes_ofJson exact below
  rw [readJson, writeJson, Json.read?_write (plain_toJson exact), Option.bind_some, same,
    describes.blueprint?_eq false exact]

end Blueprint
end FrameFlow
