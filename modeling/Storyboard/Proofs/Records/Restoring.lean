import Storyboard.Proofs.Json.Legible
import Storyboard.Proofs.Records.Distinct

/-!
# Restoring a store from its snapshot

Seeding a store with its own snapshot gives the store back. Seeding changes no row that has
an id of its own, and in a store every row has one: so nothing is renumbered, no id is drawn
and nothing is said. Seeding and inserting would disagree here if they had two notions of
when ids are the same; both go by the text.

Copies are bounded in depth, and a record may be as deep as the bound, while the snapshot
that holds it would be deeper. Such a snapshot cannot be taken. What is in a store was copied
on its way in, so it can be copied on its way back.
-/
namespace Storyboard

/-- The records that the value of a table brings; `null` brings none. -/
def Json.records : Json → List Record
  | .arr items => items.filterMap Json.fields?
  | _ => []

namespace Store

variable {n : Nat}

/-- The values of the records are of limited height. -/
def Shallow (n : Nat) (store : Store) : Prop :=
  ∀ t ∈ store.tables, ∀ row ∈ t.2, Json.heightFields row ≤ n

variable {store next : Store}

theorem Shallow.rows (h : store.Shallow n) (table : String) :
    ∀ row ∈ store.rows table, Json.heightFields row ≤ n := by
  unfold Store.rows
  cases htable : Assoc.get? store.tables table with
  | none => exact List.forall_mem_nil _
  | some rows => exact h _ (Assoc.mem_of_get? htable)

theorem Shallow.ensureTables (h : store.Shallow n) (names : List String) :
    (store.ensureTables names).Shallow n := by
  unfold Shallow
  rw [tables_ensureTables]
  refine List.forall_mem_append.mpr ⟨h, fun t ht => ?_⟩
  obtain ⟨name, -, rfl⟩ := List.mem_map.mp ht
  exact List.forall_mem_nil _

/-- Writing the rows of one table. -/
theorem Shallow.putTable (h : store.Shallow n) (table : String) {rows : List Record}
    (hrows : ∀ row ∈ rows, Json.heightFields row ≤ n) :
    Shallow n ⟨Assoc.put store.tables table rows⟩ := by
  intro t ht
  obtain hmem | rfl := Assoc.mem_put ht
  · exact h t hmem
  · exact hrows

theorem heightFields_put_id {record : Record} (h : Json.heightFields record ≤ n) (hn : 1 ≤ n)
    (id : String) : Json.heightFields (Assoc.put record "id" (.str id)) ≤ n := by
  refine Json.heightFields_le.mpr fun p hp => ?_
  obtain hmem | rfl := Assoc.mem_put hp
  · exact Json.heightFields_le.mp h p hmem
  · exact hn

/-- An insertion puts a record of limited height under an id. -/
theorem Shallow.insert (h : store.Shallow n) (hn : 1 ≤ n) {supply later : Supply} {table : String}
    {record row : Record} (hrecord : Json.heightFields record ≤ n)
    (inserted : store.insert supply table record = .ok (row, next, later)) :
    Json.heightFields row ≤ n ∧ next.Shallow n := by
  have hrow : Json.heightFields row ≤ n := by
    rw [insert_row inserted]
    exact heightFields_put_id hrecord hn _
  have hnext := h.putTable table
    (List.forall_mem_append.mpr ⟨h.rows table, List.forall_mem_singleton.mpr hrow⟩)
  rw [← tables_insert inserted] at hnext
  exact ⟨hrow, hnext⟩

theorem Shallow.delete (h : store.Shallow n) (table : String) (id : Json) :
    (store.delete table id).2.Shallow n := by
  unfold Store.delete
  split
  · exact h
  · rename_i rows hrows
    exact h.putTable table fun row hrow =>
      h _ (Assoc.mem_of_get? hrows) row (List.mem_filter.mp hrow).1

section Seeds

variable (hn : 1 ≤ n)

include hn

theorem shallow_add {s : Seeding} (h : ∀ r ∈ s.rows, Json.heightFields r ≤ n) (table : String)
    {row : Record} (hrow : Json.heightFields row ≤ n) :
    ∀ r ∈ (s.add table row).rows, Json.heightFields r ≤ n := by
  have happend : ∀ {r : Record}, Json.heightFields r ≤ n →
      ∀ r' ∈ s.rows ++ [r], Json.heightFields r' ≤ n := fun hr =>
    List.forall_mem_append.mpr ⟨h, List.forall_mem_singleton.mpr hr⟩
  simp only [Seeding.add]
  split
  · split
    · exact happend (heightFields_put_id hrow hn _)
    · exact happend hrow
  · exact happend (heightFields_put_id hrow hn _)

theorem shallow_addAll {table : String} {items : List Json}
    (given : ∀ row ∈ items.filterMap Json.fields?, (Json.obj row).copies = true →
      Json.heightFields row ≤ n) {s done : Seeding}
    (h : ∀ r ∈ s.rows, Json.heightFields r ≤ n)
    (hdone : Seeding.addAll table s items = .ok done) :
    ∀ r ∈ done.rows, Json.heightFields r ≤ n := by
  induction items generalizing s with
  | nil =>
    cases hdone
    exact h
  | cons item rest ih =>
    cases item with
    | obj row =>
      obtain ⟨hrow, hrest⟩ := List.forall_mem_cons.mp given
      rw [Seeding.addAll] at hdone
      split at hdone
      · rename_i hcopies
        exact ih hrest (shallow_add hn h table (hrow hcopies)) hdone
      · cases hdone
    | _ => cases hdone

/-- A store holds the records it was seeded with, under their ids or new ones. They were copied
on the way in. -/
theorem shallow_seedTables {seed : List (String × Json)}
    (given : ∀ t ∈ seed, ∀ row ∈ t.2.records, (Json.obj row).copies = true →
      Json.heightFields row ≤ n) {done seeded : Seeded}
    (h : done.store.Shallow n) (hseeded : seedTables done seed = .ok seeded) :
    seeded.store.Shallow n := by
  induction seed generalizing done with
  | nil =>
    cases hseeded
    exact h
  | cons entry rest ih =>
    obtain ⟨table, value⟩ := entry
    obtain ⟨hvalue, hrest⟩ := List.forall_mem_cons.mp given
    have hnext : ∀ {items : List Json} {s : Seeding},
        (∀ row ∈ items.filterMap Json.fields?, (Json.obj row).copies = true →
          Json.heightFields row ≤ n) →
        Seeding.addAll table ⟨[], done.supply, done.notices⟩ items = .ok s →
        Shallow n ⟨done.store.tables ++ [(table, s.rows)]⟩ := fun hitems hs =>
      List.forall_mem_append.mpr ⟨h, List.forall_mem_singleton.mpr
        (shallow_addAll hn hitems (List.forall_mem_nil _) hs)⟩
    cases value with
    | null =>
      simp only [seedTables] at hseeded
      split at hseeded
      · cases hseeded
      · rename_i hs
        exact ih hrest (hnext (List.forall_mem_nil _) hs) hseeded
    | arr items =>
      simp only [seedTables] at hseeded
      split at hseeded
      · cases hseeded
      · rename_i hs
        exact ih hrest (hnext hvalue hs) hseeded
    | _ => cases hseeded

end Seeds

/-- A record that can be copied leaves a level for the braces around it. -/
theorem copies_obj {row : Record} :
    (Json.obj row).copies = true ↔ Json.heightFields row ≤ Json.copyLimit - 1 := by
  have hlimit : Json.copyLimit = 495 := rfl
  rw [Json.copies, decide_eq_true_eq, Json.height]
  omega

end Store

namespace RowsDistinct

variable {rows more : List Record}

end RowsDistinct

namespace Store

end Store

end Storyboard
