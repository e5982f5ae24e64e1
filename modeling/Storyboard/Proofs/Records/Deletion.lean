import Mathlib.Data.List.Nodup
import Storyboard.Proofs.App.DistinctIds
import Storyboard.Proofs.Records.Writes

/-!
# Deleting records

A deletion rebuilds a table from the rows whose ids have another text. In a table of distinct
ids that leaves out one row at most, and every store that a program comes to have is made of
such tables. So a deletion takes out the one row that it names and nothing else, a second one
finds nothing to take, and an insertion is undone by deleting the id that it gave.
-/
namespace Storyboard

/-- The id of the row has the text of the given one. `null` is no id and has none. -/
structure Record.Bears (row : Record) (id : Json) : Prop where
  given : Record.id row ≠ .null
  asked : id ≠ .null
  text : (Record.id row).display = id.display

theorem Record.hasId_iff {row : Record} {id : Json} :
    Record.hasId row id = true ↔ row.Bears id := by
  unfold Record.hasId sameId
  by_cases hrow : Record.id row = .null
  · rw [hrow]
    exact ⟨nofun, fun h => absurd hrow h.given⟩
  · by_cases hid : id = .null
    · rw [hid, idText?_eq_display hrow]
      exact ⟨nofun, fun h => absurd rfl h.asked⟩
    · rw [idText?_eq_display hrow, idText?_eq_display hid]
      exact beq_iff_eq.trans ⟨fun h => ⟨hrow, hid, h⟩, Bears.text⟩

theorem Record.hasId_eq_false {row : Record} {id : Json} :
    Record.hasId row id = false ↔ ¬ row.Bears id := by
  rw [← Bool.not_eq_true, hasId_iff]

/-- The rows that a deletion keeps. -/
def keptRows (rows : List Record) (id : Json) : List Record :=
  rows.filter fun row => !Record.hasId row id

theorem keptRows_append (rows more : List Record) (id : Json) :
    keptRows (rows ++ more) id = keptRows rows id ++ keptRows more id :=
  List.filter_append rows more

theorem keptRows_cons_of_bears {row : Record} {id : Json} (bears : row.Bears id)
    (rest : List Record) : keptRows (row :: rest) id = keptRows rest id := by
  simp [keptRows, Record.hasId_iff.mpr bears]

theorem keptRows_eq_self {rows : List Record} {id : Json}
    (h : ∀ row ∈ rows, ¬ Record.Bears row id) : keptRows rows id = rows := by
  refine List.filter_eq_self.mpr fun row hrow => ?_
  rw [Record.hasId_eq_false.mpr (h row hrow)]
  rfl

/-- No row that is kept has the id. -/
theorem not_bears_of_mem_keptRows {rows : List Record} {id : Json} :
    ∀ row ∈ keptRows rows id, ¬ Record.Bears row id := by
  intro row hrow hbears
  have hkept := (List.mem_filter.mp hrow).2
  rw [Record.hasId_iff.mpr hbears] at hkept
  exact Bool.false_ne_true hkept

namespace RowsDistinct

variable {before behind : List Record} {row : Record}

/-- The rows around one row have ids of other texts. -/
theorem apart (h : RowsDistinct (before ++ row :: behind)) {id : Json} (bears : row.Bears id) :
    ∀ other ∈ before ++ behind, ¬ Record.Bears other id := by
  intro other hother hbears
  have hdistinct := h.distinct
  rw [List.map_append, List.map_cons, List.nodup_middle, ← List.map_append,
    List.nodup_cons] at hdistinct
  exact hdistinct.1 (List.mem_map.mpr ⟨other, hother, hbears.text.trans bears.text.symm⟩)

/-- All rows but the one of the id are kept, in their order. -/
theorem keptRows_eq (h : RowsDistinct (before ++ row :: behind)) {id : Json}
    (bears : row.Bears id) : keptRows (before ++ row :: behind) id = before ++ behind := by
  rw [keptRows_append, keptRows_cons_of_bears bears, ← keptRows_append]
  exact keptRows_eq_self (h.apart bears)

end RowsDistinct

namespace Store

theorem delete_of_get? {store : Store} {table : String} {rows : List Record}
    (h : Assoc.get? store.tables table = some rows) (id : Json) :
    store.delete table id =
      ((keptRows rows id).length != rows.length,
        ⟨Assoc.put store.tables table (keptRows rows id)⟩) := by
  unfold delete
  rw [h]
  rfl

/-- A table with rows is there. -/
theorem get?_of_mem_rows {store : Store} {table : String} {row : Record}
    (h : row ∈ store.rows table) : Assoc.get? store.tables table = some (store.rows table) := by
  unfold Store.rows at h ⊢
  cases hrows : Assoc.get? store.tables table with
  | none => rw [hrows] at h; cases h
  | some rows => rfl

/-- Where no row has the id, the deletion changes nothing and says so. -/
theorem delete_of_not_bears {store : Store} {table : String} {id : Json}
    (h : ∀ row ∈ store.rows table, ¬ Record.Bears row id) :
    store.delete table id = (false, store) := by
  cases hrows : Assoc.get? store.tables table with
  | none => simp only [delete, hrows]
  | some rows =>
    rw [rows_of_get? hrows] at h
    rw [delete_of_get? hrows, keptRows_eq_self h, Assoc.put_of_get? hrows, bne_self_eq_false]

/-- One row fewer: the rows before and behind it, all other tables and the order of the tables
are as they were. -/
def Without (store : Store) (table : String) (row : Record) (after : Store) : Prop :=
  ∃ front rest before behind,
    store.tables = front ++ (table, before ++ row :: behind) :: rest ∧
      table ∉ Assoc.keys front ∧
      after.tables = front ++ (table, before ++ behind) :: rest

theorem Without.ne {store after : Store} {table : String} {row : Record}
    (h : store.Without table row after) : after ≠ store := by
  rintro rfl
  obtain ⟨front, rest, before, behind, htables, -, hafter⟩ := h
  rw [htables] at hafter
  simp at hafter

theorem delete_of_bears {store : Store} (distinct : store.IdsDistinct) {table : String}
    {before behind : List Record} {row : Record} {id : Json} (bears : row.Bears id)
    (found : Assoc.get? store.tables table = some (before ++ row :: behind)) :
    store.delete table id = (true, ⟨Assoc.put store.tables table (before ++ behind)⟩) := by
  have hrows : RowsDistinct (before ++ row :: behind) := distinct _ (Assoc.mem_of_get? found)
  have hfewer : (before ++ behind).length ≠ (before ++ row :: behind).length := by
    simp
  rw [delete_of_get? found, hrows.keptRows_eq bears, bne_iff_ne.mpr hfewer]

/-- A row that has the id is taken out, and only that row. -/
theorem without_delete {store : Store} (distinct : store.IdsDistinct) {table : String}
    {row : Record} {id : Json} (there : row ∈ store.rows table) (bears : row.Bears id) :
    (store.delete table id).1 = true ∧
      store.Without table row (store.delete table id).2 := by
  have hfound := get?_of_mem_rows there
  obtain ⟨before, behind, hrows⟩ := List.append_of_mem there
  rw [hrows] at hfound
  obtain ⟨front, rest, htables, hfront⟩ := Assoc.exists_append_of_get? hfound
  rw [delete_of_bears distinct bears hfound]
  refine ⟨rfl, front, rest, before, behind, htables, hfront, ?_⟩
  dsimp only
  rw [htables, Assoc.put_append hfront]

/-- Behind a deletion no row has the id. -/
theorem not_bears_delete (store : Store) (table : String) (id : Json) :
    ∀ row ∈ (store.delete table id).2.rows table, ¬ Record.Bears row id := by
  cases hrows : Assoc.get? store.tables table with
  | none =>
    have hnone : ∀ row ∈ store.rows table, ¬ Record.Bears row id := by
      rw [Store.rows, hrows]
      exact List.forall_mem_nil _
    rw [delete_of_not_bears hnone]
    exact hnone
  | some rows =>
    rw [delete_of_get? hrows, Store.rows, Assoc.get?_put, if_pos rfl]
    exact not_bears_of_mem_keptRows

theorem get?_eq_none {store : Store} {table : String} {id : Json}
    (h : ∀ row ∈ store.rows table, ¬ Record.Bears row id) : store.get? table id = none := by
  refine List.find?_eq_none.mpr fun row hrow => ?_
  rw [Record.hasId_iff]
  exact h row hrow

/-- Deleting the id that an insertion gave restores the store. -/
theorem delete_insert {store next : Store} (distinct : store.IdsDistinct) {supply later : Supply}
    {table : String} {record row : Record}
    (inserted : store.insert supply table record = .ok (row, next, later)) {id : Json}
    (asked : id ≠ .null) (text : id.display = (Record.id row).display) :
    next.delete table id = (true, store) := by
  have hrow := insert_row inserted
  have hgiven : Record.id row ≠ .null := by
    rw [hrow, Record.id_put]
    exact Json.noConfusion
  have htables := tables_insert inserted
  have hthere : Assoc.get? store.tables table = some (store.rows table) := by
    obtain ⟨rows, hrows, -⟩ := insert_eq_ok.mp inserted
    rw [hrows, rows_of_get? hrows]
  have hfound : Assoc.get? next.tables table = some (store.rows table ++ row :: []) := by
    rw [htables, Assoc.get?_put, if_pos rfl]
  have hdistinct : next.IdsDistinct := distinct.insert inserted
  have hkey : table ∈ Assoc.keys store.tables :=
    Assoc.has_eq_true.mp (by rw [Assoc.has, hthere]; rfl)
  rw [delete_of_bears hdistinct ⟨hgiven, asked, text.symm⟩ hfound, htables, List.append_nil,
    Assoc.put_put hkey, Assoc.put_of_get? hthere]

/-- A store that was seeded and written to, or that a running app holds. -/
inductive Reached : Store → Prop
  | written {supply : Supply} {seed : Assoc Json} {seeded : Seeded}
      (accepted : ofSeed supply seed = .ok seeded) (writes : List Write) :
      Reached (afterWrites writes (seeded.store, seeded.supply)).1
  | held {settings : Settings} {verifier : Verifier} {supply : Supply} {definition : Definition}
      {seed : Assoc Json} {app : App} {notices : List Notice}
      (started : App.ofDefinition settings verifier supply definition seed = .ok (app, notices))
      (ops : List App.Operation) :
      Reached (app.after ops).context.store

theorem Reached.idsDistinct {store : Store} (h : store.Reached) : store.IdsDistinct := by
  cases h with
  | written accepted writes => exact idsDistinct_afterWrites writes (idsDistinct_ofSeed accepted)
  | held started ops => exact idsDistinct_lasting.run _ (App.idsDistinct_ofDefinition started) ops

/-- In every store there is, a deletion takes out the row whose id has the text and says that it
did, and there is no other such row; without such a row it changes nothing. What is deleted is
not found any more and cannot be deleted again. And what an insertion appended is taken back by
deleting the id that it gave, or any value with the text of that id. -/
theorem deletion_exact {store : Store} (reached : store.Reached) (table : String) :
    (∀ id, (store.delete table id).1 = true ↔ ∃ row ∈ store.rows table, Record.Bears row id) ∧
    (∀ id, ∀ row ∈ store.rows table, row.Bears id →
      store.Without table row (store.delete table id).2) ∧
    (∀ id, (∀ row ∈ store.rows table, ¬ Record.Bears row id) →
      (store.delete table id).2 = store) ∧
    (∀ id, let after := (store.delete table id).2
      after.delete table id = (false, after) ∧ after.get? table id = none) ∧
    (∀ supply record row next later,
      store.insert supply table record = .ok (row, next, later) →
        ∀ id, id ≠ .null → id.display = (Record.id row).display →
          next.delete table id = (true, store)) := by
  have hdistinct := reached.idsDistinct
  refine ⟨fun id => ?_, fun id row hrow hbears => ?_, fun id hnone => ?_, fun id => ?_, ?_⟩
  · constructor
    · intro hdeleted
      by_contra hnone
      rw [delete_of_not_bears fun row hrow hbears => hnone ⟨row, hrow, hbears⟩] at hdeleted
      exact Bool.false_ne_true hdeleted
    · rintro ⟨row, hrow, hbears⟩
      exact (without_delete hdistinct hrow hbears).1
  · exact (without_delete hdistinct hrow hbears).2
  · rw [delete_of_not_bears hnone]
  · have hgone := store.not_bears_delete table id
    exact ⟨delete_of_not_bears hgone, get?_eq_none hgone⟩
  · exact fun supply record row next later hinserted id => delete_insert hdistinct hinserted

/-- The row whose id is `true` goes by the text of that id and is not found again, and a row that
asks for the same id gets another, by which it goes. -/
theorem clashing_row_deleted :
    ∃ store : Store, store.Reached ∧
      (store.delete "tags" (.str "True")).1 = true ∧
      (store.delete "tags" (.str "True")).2.get? "tags" (.bool true) = none ∧
      ∃ row next later,
        store.insert ⟨.counter, 2⟩ "tags" [("id", .bool true)] = .ok (row, next, later) ∧
          next.delete "tags" (Record.id row) = (true, store) := by
  have reached := @Reached.written ⟨.counter, 0⟩ clashingSeed _ rfl []
  obtain ⟨hdeleted, -, -, -, hundone⟩ := deletion_exact reached "tags"
  refine ⟨_, reached, ?_, rfl, _, _, _, rfl, ?_⟩
  · exact (hdeleted _).mpr ⟨_, List.mem_cons_self, ⟨nofun, nofun, rfl⟩⟩
  · exact hundone ⟨.counter, 2⟩ [("id", .bool true)] _ _ _ rfl _ Json.noConfusion rfl

end Store

end Storyboard
