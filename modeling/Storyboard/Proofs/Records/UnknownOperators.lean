import Storyboard.Proofs.Assoc
import Storyboard.Proofs.Records.Queries

/-!
# Operators nobody knows

A test under an unknown name looks at one thing all the same: like every test but the two for
absence, it fails where the field has no value. So a query with such a test selects what the
query without it selects, less the records without a value in the field.
-/
namespace Storyboard

namespace Filter

/-- The names of the operators. -/
def Operator.vocabulary : List String :=
  ["eq", "ne", "contains", "starts_with", "ends_with", "gt", "gte", "lt", "lte", "in", "in_",
    "is_null", "has_key"]

theorem Operator.ofName?_eq_none {name : String} :
    ofName? name = none ↔ name ∉ vocabulary := by
  unfold ofName? vocabulary
  split <;> simp_all

/-- The record has a field with a value other than `null`. -/
def HasValue (record : Record) (field : String) : Prop :=
  ∃ value, Assoc.get? record field = some value ∧ value ≠ .null

instance (record : Record) (field : String) : Decidable (HasValue record field) :=
  match h : Assoc.get? record field with
  | none => isFalse fun ⟨_, hsome, _⟩ => Option.some_ne_none _ (hsome.symm.trans h)
  | some value =>
    if hnull : value.isNull = true then
      isFalse fun ⟨_, hsome, hvalue⟩ =>
        hvalue ((Option.some.inj (hsome.symm.trans h)).trans (isNull_iff.mp hnull))
    else isTrue ⟨value, h, fun heq => hnull (isNull_iff.mpr heq)⟩

/-- The tests that a filter makes of a field, none if it says nothing of the field. A plain value
in the place of tests is none of them. -/
def testsOn? (filter : Assoc Json) (field : String) : Option (Assoc Json) :=
  match Assoc.get? filter field with
  | none => some []
  | some (.obj tests) => some tests
  | some _ => none

/-- A filter with one more test of a field, whatever the order of its tests and conditions. -/
def Extends (filter : Assoc Json) (field name : String) (operand : Json)
    (extended : Assoc Json) : Prop :=
  ∃ tests more, testsOn? filter field = some tests ∧ more.Perm (Assoc.put tests name operand) ∧
    extended.Perm (Assoc.put filter field (.obj more))

section Unknown

variable {record : Record} {field name : String} {operand : Json}

theorem asks_of_unknown (unknown : name ∉ Operator.vocabulary) :
    Asks record field name operand ↔ HasValue record field := by
  rw [Asks, Operator.ofName?_eq_none.mpr unknown]
  simp only [Valued, HasValue, and_true]

/-- Among other tests, one under an unknown name adds that there must be a value. -/
theorem asks_put (unknown : name ∉ Operator.vocabulary) (tests : Assoc Json) :
    (∀ test ∈ Assoc.put tests name operand, Asks record field test.1 test.2) ↔
      (∀ test ∈ tests, Asks record field test.1 test.2) ∧ HasValue record field := by
  constructor
  · intro hall
    have hvalue : HasValue record field :=
      (asks_of_unknown unknown).mp (hall _ (Assoc.mem_put_self tests name operand))
    refine ⟨fun test htest => ?_, hvalue⟩
    obtain hput | ⟨hname, -⟩ : test ∈ Assoc.put tests name operand ∨ test.1 = name ∧ _ :=
      Assoc.mem_put_of_mem htest
    · exact hall test hput
    · rw [hname]
      exact (asks_of_unknown unknown).mpr hvalue
  · rintro ⟨hall, hvalue⟩ test htest
    rcases Assoc.mem_put htest with htest | rfl
    · exact hall test htest
    · exact (asks_of_unknown unknown).mpr hvalue

/-- A filter asks for its tests of a field, among other things. -/
theorem Meets.asks {filter tests : Assoc Json} (h : Meets filter record)
    (given : testsOn? filter field = some tests) :
    ∀ test ∈ tests, Asks record field test.1 test.2 := by
  unfold testsOn? at given
  split at given
  · cases given
    exact List.forall_mem_nil _
  · rename_i hfield
    cases given
    exact h _ (Assoc.mem_of_get? hfield)
  · cases given

/-- A filter extended by a test under an unknown name asks for a value besides. -/
theorem meets_extended {filter extended : Assoc Json} (unknown : name ∉ Operator.vocabulary)
    (h : Extends filter field name operand extended) :
    Meets extended record ↔ Meets filter record ∧ HasValue record field := by
  obtain ⟨tests, more, given, hmore, hextended⟩ := h
  have hasks : (∀ test ∈ more, Asks record field test.1 test.2) ↔
      (∀ test ∈ tests, Asks record field test.1 test.2) ∧ HasValue record field := by
    rw [← asks_put unknown]
    exact forall_congr' fun test => imp_congr_left hmore.mem_iff
  constructor
  · intro hmeets
    have hput : ∀ entry ∈ Assoc.put filter field (.obj more),
        Condition record entry.1 entry.2 := fun entry hentry =>
      hmeets entry (hextended.mem_iff.mpr hentry)
    obtain ⟨htests, hvalue⟩ := hasks.mp (hput _ (Assoc.mem_put_self filter field (.obj more)))
    refine ⟨fun entry hentry => ?_, hvalue⟩
    rcases Assoc.mem_put_of_mem hentry with hentry | ⟨hfield, hfound⟩
    · exact hput entry hentry
    · obtain ⟨key, expected⟩ := entry
      -- What the extension replaced is the condition with the tests it had before.
      have hexpected : expected = .obj tests := by
        unfold testsOn? at given
        rw [hfound] at given
        split at given <;> simp_all
      rw [hfield, hexpected]
      exact htests
  · rintro ⟨hmeets, hvalue⟩ entry hentry
    rcases Assoc.mem_put (hextended.mem_iff.mp hentry) with hentry | rfl
    · exact hmeets entry hentry
    · exact hasks.mpr ⟨hmeets.asks given, hvalue⟩

end Unknown

end Filter

namespace Store

open Storyboard.Filter

variable {filter extended : Assoc Json} {field name : String} {operand : Json}

theorem matching_extended (store : Store) (table : String)
    (unknown : name ∉ Operator.vocabulary) (more : Extends filter field name operand extended) :
    store.matching table extended =
      (store.matching table filter).filter fun record => HasValue record field := by
  rw [matching, matching, List.filter_filter]
  refine List.filter_congr fun record _ => ?_
  rw [Bool.eq_iff_iff, Bool.and_eq_true, decide_eq_true_iff, decide_eq_true_iff,
    decide_eq_true_iff, meets_extended unknown more, and_comm]

/-- A test under an unknown name selects the records with a value. So it changes no query, of any
order and limit, exactly if every record that meets the filter has a value in the field. -/
theorem unknown_operator_ignored_iff (store : Store) (table : String)
    (unknown : name ∉ Operator.vocabulary) (more : Extends filter field name operand extended) :
    store.matching table extended =
        (store.matching table filter).filter (fun record => HasValue record field) ∧
      ((∀ order limit, (store.query table ⟨extended, order, limit⟩).1 =
          (store.query table ⟨filter, order, limit⟩).1) ↔
        ∀ record ∈ store.matching table filter, HasValue record field) := by
  have hmatching := matching_extended store table unknown more
  refine ⟨hmatching, ?_⟩
  have hsame : store.matching table extended = store.matching table filter ↔
      ∀ record ∈ store.matching table filter, HasValue record field := by
    rw [hmatching, List.filter_eq_self]
    exact forall₂_congr fun _ _ => decide_eq_true_iff
  rw [← hsame]
  constructor
  · intro hqueries
    have hquery := hqueries none none
    rw [query_eq, query_eq] at hquery
    exact hquery
  · intro heq order limit
    rw [query_eq, query_eq, heq]

/-- A chore with a weight, one whose weight is `null`, and one without. -/
def chores : Store :=
  ⟨[("chores", [
    [("id", .str "a"), ("weight", .int 2)],
    [("id", .str "b"), ("weight", .null)],
    [("id", .str "c")]])]⟩

/-- Whatever `between` says of the weight. -/
def betweenWeights : Assoc Json := [("weight", .obj [("between", .arr [.int 1, .int 3])])]

theorem betweenWeights_extends :
    Extends [] "weight" "between" (.arr [.int 1, .int 3]) betweenWeights :=
  ⟨[], _, rfl, .refl _, .refl _⟩

theorem between_not_ignored :
    "between" ∉ Operator.vocabulary ∧
      Extends [] "weight" "between" (.arr [.int 1, .int 3]) betweenWeights ∧
      ¬ ∀ order limit, (chores.query "chores" ⟨betweenWeights, order, limit⟩).1 =
        (chores.query "chores" ⟨[], order, limit⟩).1 := by
  have hunknown : "between" ∉ Operator.vocabulary := by decide
  have hqueries :=
    (unknown_operator_ignored_iff chores "chores" hunknown betweenWeights_extends).2
  refine ⟨hunknown, betweenWeights_extends, fun hsame => ?_⟩
  have hall : chores.matching "chores" [] = chores.rows "chores" := rfl
  have hvalued := hqueries.mp hsame
  rw [hall] at hvalued
  obtain ⟨value, hfound, hvalue⟩ :=
    hvalued _ (List.mem_cons_of_mem _ List.mem_cons_self)
  exact hvalue (Option.some.inj hfound).symm

/-- Without the test all chores are selected, with it those without a weight are missed. -/
theorem weightless_chores_missed :
    (chores.query "chores" ⟨[], none, none⟩).1.map (fun r => (Record.id r).display) =
        ["a", "b", "c"] ∧
      (chores.query "chores" ⟨betweenWeights, none, none⟩).1.map
        (fun r => (Record.id r).display) = ["a"] :=
  ⟨rfl, rfl⟩

end Store

end Storyboard
