import Storyboard.Proofs.App.Signup
import Storyboard.Proofs.Assoc

/-!
# Submits to a table

A submit to the database appends one row to its table, with the values that the form has when
the submit arrives, and empties the fields the values came from. The values are taken before
the fields are emptied, so several columns may come from one field. An id that is submitted
makes way for a drawn one. A submit that names no table, no fields or a table that nobody knows
changes nothing, and its follow-up for errors is next.

A record is copied into its table. One that is nested too deeply for that is not stored, and the
submit takes a third way: the table is there from then on, the form stays as it was, and no
follow-up is next.
-/
namespace Storyboard

namespace Form

variable {form : Form} {key : Key} {id : String}

theorem Key.agrees_id {k : Key} : k.agrees (.id id) = true ↔ k = .id id := by
  cases k <;> simp [Key.agrees]

theorem get?_cons (k : Key) (v : Json) (rest : Form) (key : Key) :
    get? ((k, v) :: rest) key = if k.agrees key then some v else get? rest key := by
  rw [get?, List.find?_cons]
  cases k.agrees key <;> rfl

theorem get?_put_self (form : Form) (id : String) (v : Json) :
    get? (put form (.id id) v) (.id id) = some v := by
  induction form with
  | nil => rw [put, get?_cons, if_pos (Key.agrees_id.mpr rfl)]
  | cons entry rest ih =>
    obtain ⟨k, old⟩ := entry
    rw [put]
    split
    · rename_i hsame
      rw [get?_cons, if_pos hsame]
    · rename_i hother
      rw [get?_cons, if_neg hother]
      exact ih

/-- A value that is filed leaves the other fields alone. -/
theorem get?_put_of_ne (h : key ≠ .id id) (v : Json) :
    get? (put form (.id id) v) key = get? form key := by
  have hapart : (Key.id id).agrees key = false := by
    cases key with
    | id other => exact beq_eq_false_iff_ne.mpr fun heq => h (congrArg Key.id heq.symm)
    | scalar _ => rfl
  induction form with
  | nil => rw [put, get?_cons, hapart, if_neg Bool.false_ne_true]
  | cons entry rest ih =>
    obtain ⟨k, old⟩ := entry
    rw [put]
    split
    · rename_i hsame
      rw [Key.agrees_id.mp hsame, get?_cons, get?_cons, hapart, if_neg Bool.false_ne_true,
        if_neg Bool.false_ne_true]
    · rw [get?_cons, get?_cons, ih]

/-- Fields that are not named keep what they have. -/
theorem get?_clear_of_not_mem {ids : List String} (h : ∀ id ∈ ids, key ≠ .id id) :
    get? (clear form ids) key = get? form key := by
  rw [clear]
  induction ids generalizing form with
  | nil => rfl
  | cons id rest ih =>
    obtain ⟨hid, hrest⟩ := List.forall_mem_cons.mp h
    rw [List.foldl_cons, ih hrest, get?_put_of_ne hid]

/-- Fields that are named hold the empty text. -/
theorem get?_clear_of_mem {ids : List String} (h : id ∈ ids) :
    get? (clear form ids) (.id id) = some (.str "") := by
  induction ids generalizing form with
  | nil => cases h
  | cons first rest ih =>
    by_cases hrest : id ∈ rest
    · exact ih hrest
    · have hfirst : id = first := (List.mem_cons.mp h).resolve_right hrest
      subst hfirst
      have hapart : ∀ other ∈ rest, Key.id id ≠ .id other := fun other hother heq =>
        hrest (Key.id.inj heq ▸ hother)
      exact (get?_clear_of_not_mem hapart).trans (get?_put_self form id _)

end Form

namespace Performer

variable {p : Performer} {c : Context} {a : Submit} {table : String} {fields : Assoc String}

/-- A submit names fields, and a table that is there or that the document declares. -/
structure Lands (p : Performer) (c : Context) (a : Submit) (table : String)
    (fields : Assoc String) : Prop where
  names : a.table.toOption = some table
  named : table ≠ ""
  takes : a.fields.toOption = some fields
  filled : fields ≠ []
  known : c.store.hasTable table = true ∨ table ∈ p.definition.tableNames

/-- A row holds the form values of some fields under their columns, an id, and nothing else. -/
structure HoldsFields (form : Form) (fields : Assoc String) (fresh : String) (row : Record) :
    Prop where
  columns : Assoc.keys row =
    if "id" ∈ Assoc.keys fields then Assoc.keys fields else Assoc.keys fields ++ ["id"]
  values : ∀ name id, Assoc.get? fields name = some id → name ≠ "id" →
    Assoc.get? row name = some (Form.value form id)
  id : Assoc.get? row "id" = some (.str fresh)

/-- One context comes from another by storing a row of form values, under an id of its own, at
the end of a table, and emptying the fields they came from. -/
structure StoresRow (c : Context) (table : String) (fields : Assoc String) (next : Context) :
    Prop where
  row : ∃ row, next.store.rows table = c.store.rows table ++ [row] ∧
    HoldsFields c.form fields (c.supply.next (idTexts (c.store.rows table))).1 row
  fresh : (c.supply.next (idTexts (c.store.rows table))).1 ∉ idTexts (c.store.rows table)
  tables : next.store.tableNames =
    if c.store.hasTable table then c.store.tableNames else c.store.tableNames ++ [table]
  others : ∀ other, other ≠ table →
    Assoc.get? next.store.tables other = Assoc.get? c.store.tables other
  emptied : ∀ id ∈ fields.map (·.2), next.form.get? (.id id) = some (.str "")
  kept : ∀ key, (∀ id ∈ fields.map (·.2), key ≠ .id id) → next.form.get? key = c.form.get? key
  session : next.session = c.session
  screen : next.screen = c.screen

theorem get?_submittedRecord (form : Form) (fields : Assoc String) (name : String) :
    Assoc.get? (submittedRecord form fields) name =
      (Assoc.get? fields name).map (Form.value form) :=
  Assoc.get?_mapValues (Form.value form) fields name

theorem keys_submittedRecord (form : Form) (fields : Assoc String) :
    Assoc.keys (submittedRecord form fields) = Assoc.keys fields :=
  Assoc.keys_mapValues (Form.value form) fields

theorem holdsFields_put (form : Form) (fields : Assoc String) (fresh : String) :
    HoldsFields form fields fresh
      (Assoc.put (submittedRecord form fields) "id" (.str fresh)) := by
  constructor
  · rw [Assoc.keys_put, keys_submittedRecord]
  · intro name id hname hid
    rw [Assoc.get?_put, if_neg (Ne.symm hid), get?_submittedRecord, hname]
    rfl
  · rw [Assoc.get?_put, if_pos rfl]

/-- Creating a table leaves the others as they are. -/
theorem get?_ensureTables {store : Store} {other : String} (h : other ≠ table) :
    Assoc.get? (store.ensureTables [table]).tables other = Assoc.get? store.tables other := by
  rw [Store.ensureTables, List.foldl_cons, List.foldl_nil]
  split
  · rfl
  · rw [Assoc.get?_put, if_neg (Ne.symm h)]

theorem tableNames_ensureTables (store : Store) (table : String) :
    (store.ensureTables [table]).tableNames =
      if store.hasTable table then store.tableNames else store.tableNames ++ [table] := by
  rw [Store.ensureTables, List.foldl_cons, List.foldl_nil, Store.hasTable, Store.tableNames]
  split
  · rfl
  · rename_i hmissing
    have hkeys : table ∉ Assoc.keys store.tables := fun hmem =>
      hmissing (Assoc.has_eq_true.mpr hmem)
    exact (Assoc.keys_put _ _ _).trans (if_neg hkeys)

theorem storesRow_of_insert {row : Record} {store : Store} {supply : Supply}
    (inserted : (c.store.ensureTables [table]).insert c.supply table
      (submittedRecord c.form fields) = .ok (row, store, supply)) :
    StoresRow c table fields
      { c with store, supply, form := c.form.clear (fields.map (·.2)) } := by
  have hrow := Store.insert_row inserted
  have hrows := Store.rows_insert inserted table
  have htables := Store.tables_insert inserted
  rw [Store.rows_ensureTables] at hrow
  rw [if_pos rfl, Store.rows_ensureTables] at hrows
  have hthere : table ∈ Assoc.keys (c.store.ensureTables [table]).tables := by
    rw [← Store.hasTable_iff, Store.hasTable_ensureTables,
      List.contains_iff_mem.mpr List.mem_cons_self, Bool.or_true]
  refine ⟨⟨row, hrows, ?_⟩, c.supply.next_not_mem _, ?_, ?_, ?_, ?_, rfl, rfl⟩
  · rw [hrow]
    exact holdsFields_put c.form fields _
  · rw [← tableNames_ensureTables, Store.tableNames, htables, Assoc.keys_put, if_pos hthere]
    rfl
  · intro other hother
    rw [htables, Assoc.get?_put, if_neg (Ne.symm hother), get?_ensureTables hother]
  · exact fun id hid => Form.get?_clear_of_mem hid
  · exact fun key hkey => Form.get?_clear_of_not_mem hkey

/-- The context that a record leaves behind that cannot be copied into its table. -/
def unstored (c : Context) (table : String) : Context :=
  { c with store := c.store.ensureTables [table] }

theorem rows_unstored (c : Context) (table other : String) :
    (unstored c table).store.rows other = c.store.rows other :=
  Store.rows_ensureTables c.store [table] other

theorem isDatabase_of_target (database : a.target.toOption = some "database") :
    a.isDatabase = true := by
  rw [Submit.isDatabase, database]
  rfl

/-- A submit that lands hands its record over to its table. -/
theorem submit_of_lands (database : a.target.toOption = some "database")
    (h : Lands p c a table fields) :
    p.perform c (.submit a) =
      match (c.store.ensureTables [table]).insert c.supply table
        (submittedRecord c.form fields) with
      | .error _ => .ignored (unstored c table) (.handlerFailed ActionKind.submit.tag)
      | .ok (row, store, supply) =>
        { context := { c with store, supply, form := c.form.clear (fields.map (·.2)) }
          effects := []
          notices := [.submitted (Record.id row) table]
          next := .ofSlot a.onSuccess } := by
  have hdatabase := isDatabase_of_target database
  have hgiven : (table == "" || fields.isEmpty) = false := by
    rw [beq_false_of_ne h.named, Bool.false_or, List.isEmpty_eq_false_iff]
    exact h.filled
  have hknown : (!c.store.hasTable table && !p.definition.tableNames.contains table) = false := by
    rcases h.known with hthere | hdeclared
    · rw [hthere]
      rfl
    · rw [List.contains_iff_mem.mpr hdeclared, Bool.not_true, Bool.and_false]
  have hnames := h.names
  have htakes := h.takes
  obtain ⟨target, endpoint, method, headers, named, taken, onSuccess, onError, extra⟩ := a
  rw [perform, submit, if_pos hdatabase, hnames, htakes]
  dsimp only
  rw [hgiven, if_neg Bool.false_ne_true, submitToTable, hknown, if_neg Bool.false_ne_true]
  rfl

theorem submit_of_copied (database : a.target.toOption = some "database")
    (h : Lands p c a table fields)
    (copied : (Json.obj (submittedRecord c.form fields)).copies = true) :
    ∃ step, p.perform c (.submit a) = step ∧ StoresRow c table fields step.context ∧
      step.effects = [] ∧ step.next = .ofSlot a.onSuccess := by
  obtain ⟨row, store, supply, hinserted⟩ :=
    Store.exists_insert_created c.store c.supply table copied
  refine ⟨_, submit_of_lands database h, ?_⟩
  rw [hinserted]
  exact ⟨storesRow_of_insert hinserted, rfl, rfl⟩

theorem submit_of_deep (database : a.target.toOption = some "database")
    (h : Lands p c a table fields)
    (deep : (Json.obj (submittedRecord c.form fields)).copies = false) :
    p.perform c (.submit a) =
      .ignored (unstored c table) (.handlerFailed ActionKind.submit.tag) := by
  rw [submit_of_lands database h]
  cases hinserted : (c.store.ensureTables [table]).insert c.supply table
      (submittedRecord c.form fields) with
  | error fault => rfl
  | ok result =>
    obtain ⟨_, -, hcopied, -⟩ := Store.insert_eq_ok.mp hinserted
    exact absurd hcopied (Bool.eq_false_iff.mp deep)

theorem submit_of_not_lands (database : a.target.toOption = some "database")
    (h : ¬ ∃ table fields, Lands p c a table fields) :
    ∃ notices, p.perform c (.submit a) = .refused c notices a.onError := by
  have hdatabase := isDatabase_of_target database
  obtain ⟨target, endpoint, method, headers, named, taken, onSuccess, onError, extra⟩ := a
  rw [perform, submit, if_pos hdatabase]
  split
  · rename_i table fields hnames htakes
    split
    · exact ⟨_, rfl⟩
    · rename_i hgiven
      rw [Bool.or_eq_true, not_or, beq_iff_eq, List.isEmpty_iff] at hgiven
      have hunknown : ¬ (c.store.hasTable table = true ∨ table ∈ p.definition.tableNames) :=
        fun hknown => h ⟨table, fields, hnames, hgiven.1, htakes, hgiven.2, hknown⟩
      rw [not_or, Bool.not_eq_true, ← List.contains_iff_mem, Bool.not_eq_true] at hunknown
      rw [submitToTable, hunknown.1, hunknown.2]
      exact ⟨_, rfl⟩
  · exact ⟨_, rfl⟩

/-- A chain stores the row of a submit, and the follow-up for successes is dispatched right behind
it, if there is one. -/
def Stores (p : Performer) (c : Context) (a : Submit) (table : String) (fields : Assoc String)
    (allowance : Nat) (chain : Chain) : Prop :=
  ∃ step, StoresRow c table fields step.context ∧ step.effects = [] ∧
    chain = .after (.submit a) step (p.branch allowance a.onSuccess step.context)

/-- A chain that is at its end with the rows as they were has stored nothing. -/
theorem not_stores_of_rows {allowance : Nat} {left : Context} {step : Step}
    (rows : left.store.rows table = c.store.rows table) :
    ¬ Stores p c a table fields allowance (.after (.submit a) step (.idle left)) := by
  rintro ⟨stored, hstores, -, hchain⟩
  have halone : (p.branch allowance a.onSuccess stored.context).performed = [] :=
    (List.cons.inj (congrArg Chain.performed hchain)).2.symm
  have hleft : left = stored.context :=
    (congrArg Chain.context hchain).trans (context_branch halone)
  obtain ⟨row, hrow, -⟩ := hstores.row
  rw [← hleft] at hrow
  exact rows_ne_of_append hrow rows

/-- A submit to the database that names fields and a table that is known stores one row exactly if
the form values can be copied, and the follow-up for successes is dispatched right behind it. If
they cannot, the table is there and that is all: no row, the form as it was, and no follow-up. Any
other submit to the database is refused. -/
theorem database_submit_stores_row_iff (database : a.target.toOption = some "database")
    (p : Performer) (c : Context) (allowance : Nat) :
    (∀ table fields, Lands p c a table fields →
      (Stores p c a table fields allowance (p.run (allowance + 1) (.submit a) c) ↔
        (Json.obj (submittedRecord c.form fields)).copies = true) ∧
      ((Json.obj (submittedRecord c.form fields)).copies = false →
        p.run (allowance + 1) (.submit a) c = .after (.submit a)
          (.ignored (unstored c table) (.handlerFailed ActionKind.submit.tag))
          (.idle (unstored c table)))) ∧
    ((¬ ∃ table fields, Lands p c a table fields) →
      Refuses p c (.submit a) a.onError allowance (p.run (allowance + 1) (.submit a) c)) := by
  refine ⟨fun table fields hlands => ?_, fun hstray => ?_⟩
  · have hdeep : (Json.obj (submittedRecord c.form fields)).copies = false →
        p.run (allowance + 1) (.submit a) c = .after (.submit a)
          (.ignored (unstored c table) (.handlerFailed ActionKind.submit.tag))
          (.idle (unstored c table)) := fun deep => by
      rw [run, submit_of_deep database hlands deep]
      rfl
    refine ⟨⟨fun hstores => ?_, fun hcopied => ?_⟩, hdeep⟩
    · by_contra hcopied
      rw [hdeep (Bool.eq_false_iff.mpr hcopied)] at hstores
      exact not_stores_of_rows (rows_unstored c table table) hstores
    · obtain ⟨step, hperform, hstores, hsilent, hnext⟩ := submit_of_copied database hlands hcopied
      exact ⟨step, hstores, hsilent, run_of_slot hperform hnext allowance⟩
  · obtain ⟨notices, hperform⟩ := submit_of_not_lands database hstray
    exact ⟨notices, run_of_refused hperform allowance⟩

/-- A title that goes into two columns, an id of its own, and a field that was never set. -/
def noteFields : Assoc String :=
  [("title", "box"), ("id", "word"), ("copy", "box"), ("tag", "none")]

def noteSubmit : Submit :=
  ⟨.value "database", .absent, .absent, .absent, .value "notes", .value noteFields,
    .value (.navigate ⟨"home", .absent, .absent, []⟩), .absent, []⟩

/-- The first id that would be drawn is taken. -/
def noteContext : Context :=
  { clubContext with
    store := ⟨[("notes", [[("id", .str "00000000000000000000000000000001")]])]⟩ }

theorem note_stored_under_next_id :
    noteSubmit.target.toOption = some "database" ∧
      Stores (club .plaintext) noteContext noteSubmit "notes" noteFields 15
        ((club .plaintext).run 16 (.submit noteSubmit) noteContext) ∧
      ((club .plaintext).run 16 (.submit noteSubmit) noteContext).context.screen = "home" := by
  have hlands : Lands (club .plaintext) noteContext noteSubmit "notes" noteFields :=
    ⟨rfl, by decide, rfl, List.cons_ne_nil _ _, .inl (by decide)⟩
  refine ⟨rfl, ?_, by rfl⟩
  exact ((@database_submit_stores_row_iff noteSubmit rfl (club .plaintext) noteContext 15).1 "notes"
    noteFields hlands).1.mpr rfl

/-- The title is in as many lists as are too many for a copy. -/
def deepContext : Context := { noteContext with form := [(.id "box", .wrapped 494)] }

/-- The submit does not store the note, and neither follow-up is dispatched: the context is as it
was, on its screen. -/
theorem deep_note_not_stored :
    ((club .plaintext).runFully (.submit noteSubmit) deepContext).context = deepContext ∧
      ¬ ∀ (p : Performer) (c : Context) (a : Submit) (table : String) (fields : Assoc String)
        (allowance : Nat), a.target.toOption = some "database" → Lands p c a table fields →
          Stores p c a table fields allowance (p.run (allowance + 1) (.submit a) c) := by
  have hlands : Lands (club .plaintext) deepContext noteSubmit "notes" noteFields :=
    ⟨rfl, by decide, rfl, List.cons_ne_nil _ _, .inl (by decide)⟩
  have hdeep : (Json.obj (submittedRecord deepContext.form noteFields)).copies = false := by
    refine decide_eq_false (Nat.not_le.mpr ?_)
    have hrecord : submittedRecord deepContext.form noteFields =
        [("title", .wrapped 494), ("id", .null), ("copy", .wrapped 494), ("tag", .null)] := rfl
    have hlimit : Json.copyLimit = 495 := rfl
    rw [hrecord, Json.height, Json.heightFields, Json.height_wrapped, hlimit]
    omega
  have hchain : (club .plaintext).run 16 (.submit noteSubmit) deepContext =
      .after (.submit noteSubmit)
        (.ignored (unstored deepContext "notes") (.handlerFailed ActionKind.submit.tag))
        (.idle (unstored deepContext "notes")) := by
    rw [run, submit_of_deep rfl hlands hdeep]
    rfl
  have hleft : unstored deepContext "notes" = deepContext := rfl
  refine ⟨(congrArg Chain.context hchain).trans hleft, fun always => ?_⟩
  have hstores := always _ _ _ _ _ 15 rfl hlands
  rw [hchain] at hstores
  exact not_stores_of_rows (rows_unstored deepContext "notes" "notes") hstores

end Performer

end Storyboard
