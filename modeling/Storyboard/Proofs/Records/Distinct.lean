import Storyboard.Proofs.Records.Writes

/-!
# Distinct ids

Every row of a store has an id, and the texts of the ids of one table are distinct.
Ids themselves need not tell rows apart: `true` and `"True"` are two values with one
text, so distinctness is stated of texts. Seeding establishes the property row by row,
each new id being drawn against the rows so far; the three writes preserve it.
-/
namespace Storyboard

/-- Every row has an id, and no two rows have ids of one text. -/
structure RowsDistinct (rows : List Record) : Prop where
  given : ∀ r ∈ rows, Record.id r ≠ .null
  distinct : (rows.map fun r => (Record.id r).display).Nodup

/-- The rows of each table are distinct. -/
def Store.IdsDistinct (store : Store) : Prop := ∀ t ∈ store.tables, RowsDistinct t.2

theorem idText?_eq_display {id : Json} (h : id ≠ .null) : idText? id = some id.display := by
  cases id <;> first | exact absurd rfl h | rfl

theorem ne_null_of_idText? {id : Json} {text : String} (h : idText? id = some text) :
    id ≠ .null ∧ id.display = text := by
  have hn : id ≠ .null := by
    rintro rfl
    simp [idText?] at h
  rw [idText?_eq_display hn] at h
  exact ⟨hn, Option.some.inj h⟩

/-- The text of every id that is there is among the texts of the rows. -/
theorem display_mem_idTexts {rows : List Record} {r : Record} (hr : r ∈ rows)
    (h : Record.id r ≠ .null) : (Record.id r).display ∈ idTexts rows :=
  List.mem_filterMap.mpr ⟨r, hr, idText?_eq_display h⟩

@[simp] theorem Record.id_put (r : Record) (v : Json) : Record.id (Assoc.put r "id" v) = v := by
  simp [Record.id, Assoc.get?_put]

namespace RowsDistinct

theorem nil : RowsDistinct [] := ⟨by simp, List.nodup_nil⟩

/-- A row is added whose id has a text of its own. -/
theorem append {rows : List Record} (h : RowsDistinct rows) {row : Record}
    (hn : Record.id row ≠ .null) (hf : (Record.id row).display ∉ idTexts rows) :
    RowsDistinct (rows ++ [row]) := by
  constructor
  · intro r hr
    rcases List.mem_append.mp hr with hr | hr
    · exact h.given r hr
    · rw [List.mem_singleton.mp hr]
      exact hn
  · rw [List.map_append, List.map_singleton]
    refine List.nodup_append.mpr ⟨h.distinct, by simp, ?_⟩
    intro a ha b hb hab
    obtain ⟨r, hr, rfl⟩ := List.mem_map.mp ha
    rw [List.mem_singleton.mp hb] at hab
    exact hf (hab ▸ display_mem_idTexts hr (h.given r hr))

/-- A row is added under an id that was drawn for it. -/
theorem append_fresh {rows : List Record} (h : RowsDistinct rows) (row : Record)
    (supply : Supply) :
    RowsDistinct (rows ++ [Assoc.put row "id" (.str (supply.next (idTexts rows)).1)]) := by
  apply h.append
  · rw [Record.id_put]
    exact Json.noConfusion
  · rw [Record.id_put]
    exact supply.next_not_mem (idTexts rows)

theorem filter {rows : List Record} (h : RowsDistinct rows) (keep : Record → Bool) :
    RowsDistinct (rows.filter keep) :=
  ⟨fun r hr => h.given r ((List.mem_filter.mp hr).1),
    h.distinct.sublist (List.filter_sublist.map _)⟩

end RowsDistinct

namespace Store

theorem rowsDistinct_add {s : Seeding} (h : RowsDistinct s.rows) (table : String)
    (row : Record) : RowsDistinct (s.add table row).rows := by
  simp only [Seeding.add]
  split
  · rename_i text hi
    obtain ⟨hn, ht⟩ := ne_null_of_idText? hi
    split
    · exact h.append_fresh row s.supply
    · rename_i hc
      exact h.append hn (by simpa [ht] using hc)
  · exact h.append_fresh row s.supply

theorem rowsDistinct_addAll {table : String} {s done : Seeding} {items : List Json}
    (h : RowsDistinct s.rows) (hs : Seeding.addAll table s items = .ok done) :
    RowsDistinct done.rows := by
  induction items generalizing s with
  | nil => cases hs; exact h
  | cons item rest ih =>
    cases item with
    | obj row =>
      rw [Seeding.addAll] at hs
      split at hs
      · exact ih (rowsDistinct_add h table row) hs
      · cases hs
    | _ => cases hs

theorem idsDistinct_append {tables : Assoc (List Record)} (h : IdsDistinct ⟨tables⟩)
    (table : String) {rows : List Record} (hr : RowsDistinct rows) :
    IdsDistinct ⟨tables ++ [(table, rows)]⟩ := by
  intro t ht
  rcases List.mem_append.mp ht with ht | ht
  · exact h t ht
  · rw [List.mem_singleton.mp ht]
    exact hr

/-- Seeding goes on with the rows it has read for the first table. -/
theorem seedTables_cons {done seeded : Seeded} {table : String} {value : Json}
    {rest : List (String × Json)} (h : seedTables done ((table, value) :: rest) = .ok seeded) :
    ∃ items s, Seeding.addAll table ⟨[], done.supply, done.notices⟩ items = .ok s ∧
      seedTables ⟨⟨done.store.tables ++ [(table, s.rows)]⟩, s.supply, s.notices⟩ rest =
        .ok seeded := by
  -- Only `null` and lists come this far.
  obtain ⟨items, hvalue⟩ : ∃ items, value = .null ∧ items = [] ∨ value = .arr items := by
    cases value with
    | null => exact ⟨[], .inl ⟨rfl, rfl⟩⟩
    | arr items => exact ⟨items, .inr rfl⟩
    | _ => cases h
  cases hs : Seeding.addAll table ⟨[], done.supply, done.notices⟩ items with
  | error e => rcases hvalue with ⟨rfl, rfl⟩ | rfl <;> simp [seedTables, hs] at h
  | ok s =>
    refine ⟨items, s, hs, ?_⟩
    rcases hvalue with ⟨rfl, rfl⟩ | rfl <;> simpa only [seedTables, hs] using h

theorem idsDistinct_seedTables {done seeded : Seeded} {seed : List (String × Json)}
    (h : done.store.IdsDistinct) (hs : seedTables done seed = .ok seeded) :
    seeded.store.IdsDistinct := by
  induction seed generalizing done with
  | nil => cases hs; exact h
  | cons entry rest ih =>
    obtain ⟨items, s, hadd, hrest⟩ := seedTables_cons hs
    exact ih (idsDistinct_append h entry.1 (rowsDistinct_addAll .nil hadd)) hrest

/-- Whatever ids a seed brings, a store made from it has distinct ones. -/
theorem idsDistinct_ofSeed {supply : Supply} {seed : Assoc Json} {seeded : Seeded}
    (h : ofSeed supply seed = .ok seeded) : seeded.store.IdsDistinct :=
  idsDistinct_seedTables (by simp [IdsDistinct, empty]) h

theorem idsDistinct_put {store : Store} (h : store.IdsDistinct) (table : String)
    {rows : List Record} (hr : RowsDistinct rows) :
    IdsDistinct ⟨Assoc.put store.tables table rows⟩ := by
  intro t ht
  rcases Assoc.mem_put ht with ht | rfl
  · exact h t ht
  · exact hr

theorem IdsDistinct.ensureTables {store : Store} (h : store.IdsDistinct) (names : List String) :
    (store.ensureTables names).IdsDistinct := by
  unfold Store.ensureTables
  induction names generalizing store with
  | nil => exact h
  | cons name rest ih =>
    rw [List.foldl_cons]
    split
    · exact ih h
    · have hput := idsDistinct_put h name .nil
      exact ih hput

theorem IdsDistinct.insert {store : Store} (h : store.IdsDistinct) {supply : Supply}
    {table : String} {record : Record} {result : Record × Store × Supply}
    (hi : store.insert supply table record = .ok result) : result.2.1.IdsDistinct := by
  obtain ⟨rows, hrows, -, hrow, hnext, -⟩ := insert_eq_ok.mp hi
  rw [hnext, hrow]
  exact idsDistinct_put h table ((h _ (Assoc.mem_of_get? hrows)).append_fresh record supply)

theorem IdsDistinct.delete {store : Store} (h : store.IdsDistinct) (table : String) (id : Json) :
    (store.delete table id).2.IdsDistinct := by
  unfold Store.delete
  split
  · exact h
  · rename_i rows hrows
    exact idsDistinct_put h table ((h _ (Assoc.mem_of_get? hrows)).filter _)

/-- A request to change a store. -/
inductive Write where
  | ensureTables (names : List String)
  | insert (table : String) (record : Record)
  | delete (table : String) (id : Json)

/-- A store and its supply after a request. What cannot be inserted changes nothing. -/
def Write.apply : Write → Store × Supply → Store × Supply
  | .ensureTables names, (store, supply) => (store.ensureTables names, supply)
  | .insert table record, (store, supply) =>
    match store.insert supply table record with
    | .ok (_, store, supply) => (store, supply)
    | .error _ => (store, supply)
  | .delete table id, (store, supply) => ((store.delete table id).2, supply)

/-- A store and its supply after requests, one after the other. -/
def afterWrites (writes : List Write) (start : Store × Supply) : Store × Supply :=
  writes.foldl (fun state write => write.apply state) start

theorem Write.idsDistinct_apply (write : Write) {state : Store × Supply}
    (h : state.1.IdsDistinct) : (write.apply state).1.IdsDistinct := by
  obtain ⟨store, supply⟩ := state
  cases write with
  | ensureTables names => exact h.ensureTables names
  | insert table record =>
    cases hi : store.insert supply table record with
    | error fault => simpa only [Write.apply, hi] using h
    | ok result => simpa only [Write.apply, hi] using h.insert hi
  | delete table id => exact h.delete table id

theorem idsDistinct_afterWrites (writes : List Write) {state : Store × Supply}
    (h : state.1.IdsDistinct) : (afterWrites writes state).1.IdsDistinct := by
  induction writes generalizing state with
  | nil => exact h
  | cons write rest ih => exact ih (write.idsDistinct_apply h)

end Store

end Storyboard
