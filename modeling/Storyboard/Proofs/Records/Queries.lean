import Storyboard.Proofs.Records.Comparison
import Storyboard.Proofs.Records.Sorting

/-!
# What a query selects

A query gives the records of a table that meet every condition of its filter, each as often as
it is stored. Without an order they come as stored; with one they are arranged by the place of
the value in one field, and records with equal places come as stored in either direction. A
limit keeps the first of them.
-/
namespace Storyboard

namespace Filter

/-- A field that has a value, about which more is asked. -/
def Valued (found : Option Json) (p : Json → Prop) : Prop :=
  ∃ value, found = some value ∧ value ≠ .null ∧ p value

/-- What an operator asks of a field, which may be missing. Letter case does not count in the
tests for a part of a text. -/
def Operator.Holds (found : Option Json) (operand : Json) : Operator → Prop
  | .isNull => found.getD .null = .null ↔ operand.truthy = true
  | .hasKey => found.isSome = true ↔ operand.truthy = true
  | .eq => Valued found fun value => value.display = operand.display
  | .ne => Valued found fun value => value.display ≠ operand.display
  | .contains => Valued found fun value => lowered operand <:+: lowered value
  | .startsWith => Valued found fun value => lowered operand <+: lowered value
  | .endsWith => Valued found fun value => lowered operand <:+ lowered value
  | .gt => Valued found fun value => operand.Before value
  | .gte => Valued found fun value => ¬ value.Before operand
  | .lt => Valued found fun value => value.Before operand
  | .lte => Valued found fun value => ¬ operand.Before value
  | .oneOf => Valued found fun value =>
    ∃ items, operand = .arr items ∧ ∃ item ∈ items, value.display = item.display

/-- What a named test asks of a field; under an unknown name, only that there is a value. -/
def Asks (record : Record) (field name : String) (operand : Json) : Prop :=
  match Operator.ofName? name with
  | some op => op.Holds (Assoc.get? record field) operand
  | none => Valued (Assoc.get? record field) fun _ => True

/-- One condition: all tests of an object, or the text of any other value. -/
def Condition (record : Record) (field : String) : Json → Prop
  | .obj tests => ∀ test ∈ tests, Asks record field test.1 test.2
  | expected => ∃ value, Assoc.get? record field = some value ∧ value.display = expected.display

/-- The record meets every condition of the filter. -/
def Meets (filter : Assoc Json) (record : Record) : Prop :=
  ∀ entry ∈ filter, Condition record entry.1 entry.2

theorem isNull_iff {v : Json} : v.isNull = true ↔ v = .null := by
  cases v <;> simp [Json.isNull]

/-- A test that fails without a value asks for one. -/
theorem valued_iff {found : Option Json} {p : Json → Prop} :
    Valued found p ↔ ¬ (found.getD .null).isNull = true ∧ p (found.getD .null) := by
  cases found with
  | none => simp [Valued, Json.isNull]
  | some value => simp [Valued, ← isNull_iff]

theorem occursIn_iff {part whole : List Char} : occursIn part whole = true ↔ part <:+: whole := by
  induction whole with
  | nil => simp [occursIn]
  | cons c rest ih =>
    rw [occursIn, Bool.or_eq_true, ih, List.isPrefixOf_iff_prefix, List.infix_cons_iff]

/-- But for the two tests for absence, an operator accepts the values that it asks for. -/
theorem holds_iff_acceptsValue {op : Operator} {found : Option Json} {operand : Json}
    (hnull : op ≠ .isNull) (hkey : op ≠ .hasKey) :
    op.Holds found operand ↔ Valued found fun value => op.acceptsValue value operand = true := by
  cases op
  case isNull => exact absurd rfl hnull
  case hasKey => exact absurd rfl hkey
  all_goals
    refine exists_congr fun value => and_congr_right fun _ => and_congr_right fun _ => Iff.symm ?_
  case eq => exact beq_iff_eq
  case ne => exact bne_iff_ne
  case contains => exact occursIn_iff
  case startsWith => exact List.isPrefixOf_iff_prefix
  case endsWith => exact List.isPrefixOf_iff_prefix.trans List.reverse_prefix
  case gt => exact beq_iff_eq.trans order_eq_gt
  case gte => exact bne_iff_ne.trans (not_congr order_eq_lt)
  case lt => exact beq_iff_eq.trans order_eq_lt
  case lte => exact bne_iff_ne.trans (not_congr order_eq_gt)
  case oneOf => cases operand <;> simp [Operator.acceptsValue, sameText]

theorem accepts_iff {op : Operator} {found : Option Json} {operand : Json} :
    op.accepts found operand = true ↔ op.Holds found operand := by
  fun_cases Operator.accepts op found operand
  case case1 => rw [Operator.Holds, ← isNull_iff, beq_iff_eq, Bool.eq_iff_iff]
  case case2 => rw [Operator.Holds, beq_iff_eq, Bool.eq_iff_iff]
  case case3 value hnone hnull hkey =>
    rw [holds_iff_acceptsValue hnull hkey, valued_iff]
    exact ⟨fun h => absurd h Bool.false_ne_true, fun h => absurd hnone h.1⟩
  case case4 value hsome hnull hkey =>
    rw [holds_iff_acceptsValue hnull hkey, valued_iff]
    exact ⟨fun h => ⟨hsome, h⟩, And.right⟩

theorem test_accepted {record : Record} {field name : String} {operand : Json} :
    (test record field name operand).accepted = true ↔ Asks record field name operand := by
  unfold test Asks
  cases Operator.ofName? name with
  | some op => exact accepts_iff
  | none =>
    rw [valued_iff]
    dsimp only
    split <;> simp_all

theorem accepted_all {l : List Verdict} :
    (Verdict.all l).accepted = true ↔ ∀ v ∈ l, v.accepted = true := by
  induction l with
  | nil => simp [Verdict.all]
  | cons v rest ih =>
    rw [Verdict.all, List.forall_mem_cons, ← ih]
    split <;> simp_all

theorem condition_accepted {record : Record} {field : String} {expected : Json} :
    (condition record field expected).accepted = true ↔ Condition record field expected := by
  cases expected
  case obj tests =>
    rw [condition, Condition, accepted_all, List.forall_mem_map]
    exact forall₂_congr fun _ _ => test_accepted
  all_goals
    simp only [condition, Condition]
    cases Assoc.get? record field <;> simp [sameText]

theorem verdict_accepted {filter : Assoc Json} {record : Record} :
    (verdict filter record).accepted = true ↔ Meets filter record := by
  rw [verdict, accepted_all, List.forall_mem_map]
  exact forall₂_congr fun _ _ => condition_accepted

instance (filter : Assoc Json) (record : Record) : Decidable (Meets filter record) :=
  decidable_of_iff _ verdict_accepted

end Filter

namespace SortOrder

/-- The field an order text names, without leading dashes and without blanks around it. -/
def namedField (text : String) : String :=
  String.ofList (Text.strip (text.toList.dropWhile (· == '-')))

/-- The place of a record in the order by a field. -/
def placeIn (field : String) (record : Record) : SortPlace :=
  ((Assoc.get? record field).getD .null).place

end SortOrder

namespace Store

/-- The records of a table that meet a filter, as stored. -/
def matching (store : Store) (table : String) (filter : Assoc Json) : List Record :=
  (store.rows table).filter fun record => Filter.Meets filter record

/-- Records in the order a text asks for. Without a text they come as stored, and so they do
with an empty one, which names no field. Otherwise they are arranged by their places in the
named field; with a leading dash the places fall. -/
def InOrder (orderBy : Option String) (stored ordered : List Record) : Prop :=
  match orderBy.filter (· ≠ "") with
  | none => ordered = stored
  | some text =>
    Arranged (if text.toList.head? = some '-' then (· ≥ ·) else (· ≤ ·))
      (SortOrder.placeIn (SortOrder.namedField text)) stored ordered

theorem query_eq (store : Store) (table : String) (q : Query) :
    (store.query table q).1 = takeLimit q.limit
      (match q.order with
        | none => store.matching table q.filter
        | some order => order.apply (store.matching table q.filter)) := by
  have haccepted : (((store.rows table).map fun r => (r, Filter.verdict q.filter r)).filter
      fun p => p.2.accepted).map (·.1) = store.matching table q.filter := by
    rw [List.filter_map, List.map_map, matching]
    refine (List.map_id _).trans (List.filter_congr fun record _ => ?_)
    exact Bool.eq_iff_iff.mpr (Filter.verdict_accepted.trans (decide_eq_true_iff).symm)
  rw [← haccepted]
  rfl

def unfinished : Assoc Json := [("done", .obj [("is_null", .bool true)])]

end Store

end Storyboard
