import Storyboard.Proofs.Assoc
import Storyboard.Records.Store

/-!
# What writes do to the rows

The rows of every table after each write of a store: creating tables adds no rows, an
insertion appends one row to one table, a deletion keeps the rows with other ids.
-/
namespace Storyboard.Store

/-- Creating tables changes the rows of none. -/
@[simp] theorem rows_ensureTables (store : Store) (names : List String) (table : String) :
    (store.ensureTables names).rows table = store.rows table := by
  unfold ensureTables
  induction names generalizing store with
  | nil => rfl
  | cons name rest ih =>
    rw [List.foldl_cons]
    split
    · exact ih store
    · rename_i hn
      have hnone : Assoc.get? store.tables name = none := by simpa [Assoc.has] using hn
      refine (ih ⟨Assoc.put store.tables name []⟩).trans ?_
      simp only [rows, Assoc.get?_put]
      split
      · rename_i heq
        subst heq
        rw [hnone]
        rfl
      · rfl

theorem rows_of_get? {store : Store} {table : String} {rows : List Record}
    (h : Assoc.get? store.tables table = some rows) : store.rows table = rows := by
  rw [Store.rows, h]
  rfl

section Insertion

variable {store next : Store} {supply later : Supply} {table : String} {record row : Record}

/-- What an insertion does, if it does anything: the table is there, the record can be copied,
and the row behind the others is the record under an id that was drawn against them. -/
theorem insert_eq_ok :
    store.insert supply table record = .ok (row, next, later) ↔
      ∃ rows, Assoc.get? store.tables table = some rows ∧ (Json.obj record).copies = true ∧
        row = Assoc.put record "id" (.str (supply.next (idTexts rows)).1) ∧
        next = ⟨Assoc.put store.tables table (rows ++ [row])⟩ ∧
        later = (supply.next (idTexts rows)).2 := by
  unfold insert
  cases Assoc.get? store.tables table with
  | none => exact ⟨nofun, fun ⟨_, h, _⟩ => nomatch h⟩
  | some rows =>
    dsimp only
    cases hcopies : (Json.obj record).copies with
    | false => exact ⟨nofun, fun ⟨_, _, h, _⟩ => nomatch h⟩
    | true =>
      rw [if_pos rfl]
      constructor
      · intro h
        cases h
        exact ⟨rows, rfl, rfl, rfl, rfl, rfl⟩
      · rintro ⟨_, ⟨⟩, -, rfl, rfl, rfl⟩
        rfl

/-- An insertion into a table that is there fails at records that cannot be copied. -/
theorem insert_eq_error (there : store.hasTable table = true) {fault : InsertFault} :
    store.insert supply table record = .error fault ↔
      (Json.obj record).copies = false ∧ fault = .tooDeep := by
  obtain ⟨rows, hrows⟩ := Option.isSome_iff_exists.mp there
  unfold insert
  rw [hrows]
  dsimp only
  cases (Json.obj record).copies with
  | true => exact ⟨nofun, fun h => nomatch h.1⟩
  | false => exact ⟨fun h => ⟨rfl, (Except.error.inj h).symm⟩, fun h => h.2 ▸ rfl⟩

/-- An insertion appends the record it gives back, and changes no other table. -/
theorem rows_insert (h : store.insert supply table record = .ok (row, next, later))
    (other : String) :
    next.rows other = if table = other then store.rows table ++ [row] else store.rows other := by
  obtain ⟨rows, hrows, -, -, rfl, -⟩ := insert_eq_ok.mp h
  rw [rows_of_get? hrows]
  simp only [Store.rows, Assoc.get?_put]
  split <;> rfl

/-- An inserted record is the given one under an id that was drawn against its table. -/
theorem insert_row (h : store.insert supply table record = .ok (row, next, later)) :
    row = Assoc.put record "id" (.str (supply.next (idTexts (store.rows table))).1) := by
  obtain ⟨rows, hrows, -, hrow, -⟩ := insert_eq_ok.mp h
  rw [rows_of_get? hrows, hrow]

/-- An insertion writes the rows of one table. -/
theorem tables_insert (h : store.insert supply table record = .ok (row, next, later)) :
    next.tables = Assoc.put store.tables table (store.rows table ++ [row]) := by
  obtain ⟨rows, hrows, -, -, rfl, -⟩ := insert_eq_ok.mp h
  rw [rows_of_get? hrows]

end Insertion

theorem hasTable_iff {store : Store} {table : String} :
    store.hasTable table = true ↔ table ∈ Assoc.keys store.tables :=
  Assoc.has_eq_true

@[simp] theorem hasTable_ensureTables (store : Store) (names : List String) (table : String) :
    (store.ensureTables names).hasTable table = (store.hasTable table || names.contains table) := by
  unfold ensureTables
  induction names generalizing store with
  | nil => exact (Bool.or_false _).symm
  | cons name rest ih =>
    have hput : (⟨Assoc.put store.tables name []⟩ : Store).hasTable table =
        (store.hasTable table || table == name) := by
      rw [Bool.eq_iff_iff, Bool.or_eq_true, hasTable_iff, hasTable_iff, Assoc.mem_keys_put,
        beq_iff_eq, or_comm]
    have hcons : (name :: rest).contains table = (table == name || rest.contains table) :=
      List.contains_cons
    rw [List.foldl_cons, hcons]
    split
    · rename_i hthere
      refine (ih store).trans ?_
      by_cases heq : table = name
      · subst heq
        have hthere : store.hasTable table = true := hthere
        rw [hthere, Bool.true_or, Bool.true_or]
      · rw [beq_eq_false_iff_ne.mpr heq, Bool.false_or]
    · refine (ih ⟨Assoc.put store.tables name []⟩).trans ?_
      rw [hput, Bool.or_assoc]

section

variable (store : Store)

/-- One name in front of the tables that are created so far. -/
private def create (created : List String) (name : String) : List String :=
  if store.hasTable name || created.contains name then created else created ++ [name]

private theorem mem_foldl_create (created names : List String) (name : String) :
    name ∈ names.foldl store.create created ↔
      name ∈ created ∨ name ∈ names ∧ store.hasTable name = false := by
  induction names generalizing created with
  | nil => simp
  | cons first rest ih =>
    rw [List.foldl_cons, ih, create]
    split
    · rename_i hthere
      rw [Bool.or_eq_true, List.contains_iff_mem] at hthere
      constructor
      · rintro (hcreated | ⟨hrest, hnew⟩)
        · exact .inl hcreated
        · exact .inr ⟨List.mem_cons_of_mem _ hrest, hnew⟩
      · rintro (hcreated | ⟨hnames, hnew⟩)
        · exact .inl hcreated
        · rcases List.mem_cons.mp hnames with rfl | hrest
          · exact .inl (hthere.resolve_left (Bool.eq_false_iff.mp hnew))
          · exact .inr ⟨hrest, hnew⟩
    · rename_i hnew
      rw [Bool.or_eq_true, not_or, Bool.not_eq_true] at hnew
      simp only [List.mem_append, List.mem_cons, List.not_mem_nil, or_false]
      constructor
      · rintro ((hcreated | rfl) | ⟨hrest, hmissing⟩)
        · exact .inl hcreated
        · exact .inr ⟨.inl rfl, hnew.1⟩
        · exact .inr ⟨.inr hrest, hmissing⟩
      · rintro (hcreated | ⟨rfl | hrest, hmissing⟩)
        · exact .inl (.inl hcreated)
        · exact .inl (.inr rfl)
        · exact .inr ⟨hrest, hmissing⟩

private theorem nodup_foldl_create (created names : List String) (h : created.Nodup) :
    (names.foldl store.create created).Nodup := by
  induction names generalizing created with
  | nil => exact h
  | cons first rest ih =>
    rw [List.foldl_cons]
    refine ih _ ?_
    unfold create
    split
    · exact h
    · rename_i hnew
      rw [Bool.or_eq_true, not_or, List.contains_iff_mem] at hnew
      refine List.nodup_append.mpr ⟨h, List.nodup_cons.mpr ⟨List.not_mem_nil, List.nodup_nil⟩, ?_⟩
      intro name hname other hother heq
      rw [List.mem_singleton.mp hother] at heq
      exact hnew.2 (heq ▸ hname)

/-- The tables that are created are the named ones that are missing, each once. -/
theorem mem_newTables {names : List String} {name : String} :
    name ∈ store.newTables names ↔ name ∈ names ∧ store.hasTable name = false := by
  refine (store.mem_foldl_create [] names name).trans ?_
  simp

theorem nodup_newTables (names : List String) : (store.newTables names).Nodup :=
  store.nodup_foldl_create [] names List.nodup_nil

/-- Created tables are appended, empty. -/
theorem tables_ensureTables (names : List String) :
    (store.ensureTables names).tables =
      store.tables ++ (store.newTables names).map fun name => (name, []) := by
  have hfold : ∀ created : List String,
      names.foldl (fun t n => if Assoc.has t n then t else Assoc.put t n [])
          (store.tables ++ created.map fun name => (name, [])) =
        store.tables ++ (names.foldl store.create created).map fun name => (name, []) := by
    induction names with
    | nil => exact fun _ => rfl
    | cons first rest ih =>
      intro created
      have hkeys : Assoc.keys (store.tables ++ created.map fun name => (name, [])) =
          Assoc.keys store.tables ++ created := by
        simp [Assoc.keys, Function.comp_def]
      have hhas : Assoc.has (store.tables ++ created.map fun name => (name, [])) first =
          (store.hasTable first || created.contains first) := by
        rw [Bool.eq_iff_iff, Assoc.has_eq_true, hkeys, Bool.or_eq_true, hasTable_iff,
          List.contains_iff_mem, List.mem_append]
      rw [List.foldl_cons, List.foldl_cons, hhas, create]
      cases hthere : store.hasTable first || created.contains first with
      | true => exact ih created
      | false =>
        have hmissing : first ∉ Assoc.keys
            (store.tables ++ created.map fun name => (name, ([] : List Record))) := by
          rw [← Assoc.has_eq_true, hhas, hthere]
          exact Bool.false_ne_true
        have happend := ih (created ++ [first])
        rw [List.map_append, ← List.append_assoc] at happend
        rw [Assoc.put_of_not_mem hmissing]
        exact happend
  have hstart := hfold []
  rw [List.map_nil, List.append_nil] at hstart
  exact hstart

end

theorem hasTable_created (store : Store) (table : String) :
    (store.ensureTables [table]).hasTable table = true := by
  rw [hasTable_ensureTables, List.contains_iff_mem.mpr List.mem_cons_self, Bool.or_true]

/-- Once its table is created, a record stays out only if it cannot be copied. -/
theorem insert_created_eq_error {store : Store} {supply : Supply} {table : String}
    {record : Record} {fault : InsertFault}
    (h : (store.ensureTables [table]).insert supply table record = .error fault) :
    (Json.obj record).copies = false :=
  ((insert_eq_error (hasTable_created store table)).mp h).1

/-- Once its table is created, a record that can be copied goes into it. -/
theorem exists_insert_created (store : Store) (supply : Supply) (table : String)
    {record : Record} (copied : (Json.obj record).copies = true) :
    ∃ row next later,
      (store.ensureTables [table]).insert supply table record = .ok (row, next, later) := by
  cases hinserted : (store.ensureTables [table]).insert supply table record with
  | ok result => exact ⟨_, _, _, rfl⟩
  | error fault => exact absurd copied (Bool.eq_false_iff.mp (insert_created_eq_error hinserted))

/-- No insertion drops a table. -/
theorem hasTable_insert {store next : Store} {supply later : Supply} {table : String}
    {record row : Record} (h : store.insert supply table record = .ok (row, next, later))
    {other : String} (ho : store.hasTable other = true) : next.hasTable other = true := by
  rw [hasTable_iff, tables_insert h, Assoc.mem_keys_put]
  exact .inr (hasTable_iff.mp ho)

/-- No deletion drops a table. -/
theorem hasTable_delete {store : Store} (table : String) (id : Json) {other : String}
    (ho : store.hasTable other = true) : (store.delete table id).2.hasTable other = true := by
  unfold delete
  split
  · exact ho
  · rw [hasTable_iff, Assoc.mem_keys_put]
    exact .inr (hasTable_iff.mp ho)

end Storyboard.Store
