import Storyboard.Proofs.Number.DecimalText
import Storyboard.Proofs.Records.Queries

/-!
# Equality and order in filters

Filters take two values to be equal when their texts are, and compare two numbers by their
values. The two notions agree but for numbers that are spelt apart: a whole number and the double
of the same value have two texts, as the two zeros have, and a double that is no number comes
neither before nor behind any other. Equality then says no although no order holds.
-/
namespace Storyboard

namespace Json

/-- Two numbers of different texts that have one value, or of which one has none. -/
def SpeltApart (a b : Json) : Prop :=
  a.display ≠ b.display ∧ ∃ x y, a.number? = some x ∧ b.number? = some y ∧
    (x.value? = y.value? ∨ x.value? = none ∨ y.value? = none)

variable {a b : Json}

theorem before_of_numbers {x y : Quantity} (hx : a.number? = some x) (hy : b.number? = some y) :
    a.Before b ↔ ∃ p ∈ x.value?, ∃ q ∈ y.value?, p < q := by
  rw [Before, hx, hy]

theorem before_of_texts (h : a.number? = none ∨ b.number? = none) :
    a.Before b ↔ a.display < b.display := by
  unfold Before
  rcases h with h | h
  · rw [h]
  · rw [h]
    cases a.number? <;> rfl

/-- Two values that are not both numbers, or two numbers. -/
theorem texts_or_numbers (a b : Json) : (a.number? = none ∨ b.number? = none) ∨
    ∃ x y, a.number? = some x ∧ b.number? = some y := by
  cases a.number? with
  | none => exact .inl (.inl rfl)
  | some x =>
    cases b.number? with
    | none => exact .inl (.inr rfl)
    | some y => exact .inr ⟨x, y, rfl, rfl⟩

theorem Before.asymm (h : a.Before b) : ¬ b.Before a := by
  rcases texts_or_numbers a b with htexts | ⟨x, y, hx, hy⟩
  · rw [before_of_texts htexts.symm]
    exact lt_asymm ((before_of_texts htexts).mp h)
  · obtain ⟨p, hp, q, hq, hlt⟩ := (before_of_numbers hx hy).mp h
    rw [before_of_numbers hy hx]
    rintro ⟨q', hq', p', hp', hlt'⟩
    cases Option.mem_unique hp hp'
    cases Option.mem_unique hq hq'
    exact lt_asymm hlt hlt'

/-- Of two values of one text none comes before the other. -/
theorem not_before_of_display (ha : a.Proper) (hb : b.Proper) (h : a.display = b.display) :
    ¬ a.Before b := by
  rcases texts_or_numbers a b with htexts | ⟨x, y, hx, hy⟩
  · rw [before_of_texts htexts, h]
    exact lt_irrefl _
  · rcases eq_of_display ha hb (by rw [hx]; rfl) (by rw [hy]; rfl) h with rfl | ⟨hnone, -⟩
    · exact fun hbefore => hbefore.asymm hbefore
    · rw [before_of_numbers hnone hy]
      rintro ⟨p, hp, -⟩
      cases hp

/-- Nor of two that are spelt apart. -/
theorem SpeltApart.not_before (h : a.SpeltApart b) : ¬ a.Before b ∧ ¬ b.Before a := by
  obtain ⟨-, x, y, hx, hy, hvalues⟩ := h
  rw [before_of_numbers hx hy, before_of_numbers hy hx]
  rcases hvalues with heq | hnone | hnone
  · rw [heq]
    constructor <;>
    · rintro ⟨p, hp, q, hq, hlt⟩
      cases Option.mem_unique hp hq
      exact lt_irrefl p hlt
  · rw [hnone]
    exact ⟨fun ⟨_, hp, _⟩ => (Option.not_mem_none _ hp).elim,
      fun ⟨_, _, _, hq, _⟩ => (Option.not_mem_none _ hq).elim⟩
  · rw [hnone]
    exact ⟨fun ⟨_, _, _, hq, _⟩ => (Option.not_mem_none _ hq).elim,
      fun ⟨_, hp, _⟩ => (Option.not_mem_none _ hp).elim⟩

/-- All other values of two texts come one before the other. -/
theorem before_or_before (htext : a.display ≠ b.display) (h : ¬ a.SpeltApart b) :
    a.Before b ∨ b.Before a := by
  rcases texts_or_numbers a b with htexts | ⟨x, y, hx, hy⟩
  · rw [before_of_texts htexts, before_of_texts htexts.symm]
    exact lt_or_gt_of_ne htext
  · rw [before_of_numbers hx hy, before_of_numbers hy hx]
    have hvalues : ¬ (x.value? = y.value? ∨ x.value? = none ∨ y.value? = none) :=
      fun hvalues => h ⟨htext, x, y, hx, hy, hvalues⟩
    cases hp : x.value? with
    | none => exact absurd (.inr (.inl hp)) hvalues
    | some p =>
      cases hq : y.value? with
      | none => exact absurd (.inr (.inr hq)) hvalues
      | some q =>
        have hne : p ≠ q := fun heq => hvalues (.inl (by rw [hp, hq, heq]))
        exact (lt_or_gt_of_ne hne).imp (fun hlt => ⟨p, rfl, q, rfl, hlt⟩)
          fun hlt => ⟨q, rfl, p, rfl, hlt⟩

end Json

namespace Filter

/-- The record is accepted by a filter with some tests of one field. -/
def Passes (record : Record) (field : String) (tests : List (String × Json)) : Prop :=
  (verdict [(field, .obj tests)] record).accepted = true

instance (record : Record) (field : String) (tests : List (String × Json)) :
    Decidable (Passes record field tests) :=
  inferInstanceAs (Decidable (_ = true))

section Tests

variable {record : Record} {field : String} {value operand : Json}

theorem passes_iff {tests : List (String × Json)} :
    Passes record field tests ↔ ∀ test ∈ tests, Asks record field test.1 test.2 := by
  rw [Passes, verdict_accepted, Meets, List.forall_mem_singleton]
  rfl

theorem valued_some (there : value ≠ .null) {p : Json → Prop} : Valued (some value) p ↔ p value :=
  ⟨fun ⟨_, heq, _, hp⟩ => Option.some.inj heq ▸ hp, fun hp => ⟨value, rfl, there, hp⟩⟩

theorem passes_pair {name other : String} :
    Passes record field [(name, operand), (other, operand)] ↔
      Passes record field [(name, operand)] ∧ Passes record field [(other, operand)] := by
  simp only [passes_iff, List.forall_mem_cons, List.not_mem_nil, false_imp_iff, implies_true,
    and_true]

variable (found : Assoc.get? record field = some value) (there : value ≠ .null)

include found

theorem passes_named {name : String} (op : Operator) (known : Operator.ofName? name = some op) :
    Passes record field [(name, operand)] ↔ op.Holds (some value) operand := by
  rw [passes_iff, List.forall_mem_singleton, Asks, known, found]

include there

theorem passes_eq : Passes record field [("eq", operand)] ↔ value.display = operand.display :=
  (passes_named found .eq rfl).trans (valued_some there)

theorem passes_ne : Passes record field [("ne", operand)] ↔ value.display ≠ operand.display :=
  (passes_named found .ne rfl).trans (valued_some there)

theorem passes_lt : Passes record field [("lt", operand)] ↔ value.Before operand :=
  (passes_named found .lt rfl).trans (valued_some there)

theorem passes_gt : Passes record field [("gt", operand)] ↔ operand.Before value :=
  (passes_named found .gt rfl).trans (valued_some there)

theorem passes_range : Passes record field [("gte", operand), ("lte", operand)] ↔
    ¬ value.Before operand ∧ ¬ operand.Before value :=
  passes_pair.trans (and_congr ((passes_named found .gte rfl).trans (valued_some there))
    ((passes_named found .lte rfl).trans (valued_some there)))

theorem passes_in {items : List Json} : Passes record field [("in", .arr items)] ↔
    ∃ item ∈ items, value.display = item.display := by
  refine ((passes_named found .oneOf rfl).trans (valued_some there)).trans
    ⟨?_, fun hitem => ⟨items, rfl, hitem⟩⟩
  rintro ⟨_, heq, hitem⟩
  cases heq
  exact hitem

end Tests

/-- One of three names has a property and the others have not. -/
theorem existsUnique_mem_three {a b c : String} (hab : a ≠ b) (hac : a ≠ c) (hbc : b ≠ c)
    (p : String → Prop) : (∃! name, name ∈ [a, b, c] ∧ p name) ↔
      p a ∧ ¬ p b ∧ ¬ p c ∨ ¬ p a ∧ p b ∧ ¬ p c ∨ ¬ p a ∧ ¬ p b ∧ p c := by
  constructor
  · rintro ⟨name, ⟨hmem, hp⟩, hunique⟩
    have hother : ∀ other ∈ [a, b, c], other ≠ name → ¬ p other := fun other hother hne h =>
      hne (hunique other ⟨hother, h⟩)
    simp only [List.mem_cons, List.not_mem_nil, or_false] at hmem hother
    rcases hmem with rfl | rfl | rfl
    · exact .inl ⟨hp, hother b (.inr (.inl rfl)) hab.symm, hother c (.inr (.inr rfl)) hac.symm⟩
    · exact .inr (.inl ⟨hother a (.inl rfl) hab, hp, hother c (.inr (.inr rfl)) hbc.symm⟩)
    · exact .inr (.inr ⟨hother a (.inl rfl) hac, hother b (.inr (.inl rfl)) hbc, hp⟩)
  · rintro (⟨ha, hb, hc⟩ | ⟨ha, hb, hc⟩ | ⟨ha, hb, hc⟩)
    · exact ⟨a, by simp [ha], by simp [hb, hc]⟩
    · exact ⟨b, by simp [hb], by simp [ha, hc]⟩
    · exact ⟨c, by simp [hc], by simp [ha, hb]⟩

/-- Of a value that is there, `ne` says the opposite of `eq`, and `in` says what `eq` says of one
of the items. Equality and order agree exactly if the value and the operand are not spelt apart:
then `eq` says what `gte` and `lte` say together, and one of `lt`, `eq` and `gt` accepts and the
others do not. -/
theorem equality_agrees_iff {record : Record} {field : String} {value : Json}
    (found : Assoc.get? record field = some value) (there : value ≠ .null) (proper : value.Proper) :
    (∀ operand : Json,
      Passes record field [("ne", operand)] ↔ ¬ Passes record field [("eq", operand)]) ∧
    (∀ items : List Json, Passes record field [("in", .arr items)] ↔
      ∃ item ∈ items, Passes record field [("eq", item)]) ∧
    ∀ operand : Json, operand.Proper →
      ((Passes record field [("eq", operand)] ↔
          Passes record field [("gte", operand), ("lte", operand)]) ↔
        ¬ value.SpeltApart operand) ∧
      ((∃! name, name ∈ ["lt", "eq", "gt"] ∧ Passes record field [(name, operand)]) ↔
        ¬ value.SpeltApart operand) := by
  refine ⟨fun operand => ?_, fun items => ?_, fun operand hproper => ?_⟩
  · rw [passes_ne found there, passes_eq found there]
  · rw [passes_in found there]
    exact exists_congr fun item => and_congr_right fun _ => (passes_eq found there).symm
  · have hsame : value.display = operand.display →
        ¬ value.Before operand ∧ ¬ operand.Before value := fun htext =>
      ⟨Json.not_before_of_display proper hproper htext,
        Json.not_before_of_display hproper proper htext.symm⟩
    have hapart : value.SpeltApart operand → value.display ≠ operand.display ∧
        ¬ value.Before operand ∧ ¬ operand.Before value := fun h => ⟨h.1, h.not_before⟩
    have hother : value.display ≠ operand.display → ¬ value.SpeltApart operand →
        value.Before operand ∧ ¬ operand.Before value ∨
          ¬ value.Before operand ∧ operand.Before value := fun htext h =>
      (Json.before_or_before htext h).imp (fun hlt => ⟨hlt, hlt.asymm⟩)
        fun hgt => ⟨hgt.asymm, hgt⟩
    rw [existsUnique_mem_three (by decide) (by decide) (by decide), passes_eq found there,
      passes_range found there, passes_lt found there, passes_gt found there]
    constructor <;> tauto

/-- The double one, as it is read from a text. -/
def oneDouble : Json := .float (.ofDecimal false 10 (-1))

theorem oneDouble_proper : oneDouble.Proper := by
  rw [oneDouble]
  exact Binary64.proper_ofDecimal false 10 (-1)

theorem oneDouble_number : oneDouble.number? = some (.exact (2 ^ 52) (-52)) := by
  have hone : Binary64.ofDecimal false 10 (-1) = .finite false (2 ^ 52) (-52) := by
    decide +kernel
  rw [oneDouble, hone]
  rfl

theorem oneDouble_value :
    (Quantity.exact (2 ^ 52) (-52)).value? = (Quantity.ofInt 1).value? := by
  norm_num [Quantity.value?, Quantity.ofInt]

theorem one_speltApart : (Json.int 1).SpeltApart oneDouble :=
  ⟨by decide +kernel, _, _, rfl, oneDouble_number, .inl oneDouble_value.symm⟩

theorem two_not_speltApart : ¬ (Json.int 2).SpeltApart oneDouble := by
  rintro ⟨-, x, y, hx, hy, hvalues⟩
  rw [oneDouble_number] at hy
  cases hx
  cases hy
  rw [oneDouble_value] at hvalues
  simp [Quantity.value?, Quantity.ofInt] at hvalues

/-- Equality and order agree on two and the double one, and not on one and the double one. -/
theorem two_agrees_with_oneDouble :
    oneDouble.Proper ∧
      (∃! name, name ∈ ["lt", "eq", "gt"] ∧ Passes [("n", .int 2)] "n" [(name, oneDouble)]) ∧
      ¬ ∃! name, name ∈ ["lt", "eq", "gt"] ∧ Passes [("n", .int 1)] "n" [(name, oneDouble)] := by
  obtain ⟨-, -, htwo⟩ := @equality_agrees_iff [("n", .int 2)] "n" (.int 2) rfl nofun trivial
  obtain ⟨-, -, hone⟩ := @equality_agrees_iff [("n", .int 1)] "n" (.int 1) rfl nofun trivial
  exact ⟨oneDouble_proper, (htwo oneDouble oneDouble_proper).2.mpr two_not_speltApart,
    fun hunique => (hone oneDouble oneDouble_proper).2.mp hunique one_speltApart⟩

/-- One is no equal of the double one, although it is neither less nor greater. -/
theorem one_apart_from_oneDouble :
    ¬ Passes [("n", .int 1)] "n" [("eq", oneDouble)] ∧
      Passes [("n", .int 1)] "n" [("gte", oneDouble), ("lte", oneDouble)] ∧
      ¬ Passes [("n", .int 1)] "n" [("lt", oneDouble)] ∧
      ¬ Passes [("n", .int 1)] "n" [("gt", oneDouble)] := by
  decide +kernel

end Filter

end Storyboard
