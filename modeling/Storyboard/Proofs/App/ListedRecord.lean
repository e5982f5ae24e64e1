import Storyboard.Proofs.Action.Restated
import Storyboard.Proofs.App.InlineCourse
import Storyboard.Proofs.Records.Deletion
import Storyboard.Template.Bindings
import Storyboard.Template.Resolve

/-!
# Deleting a listed record

A list shows the records of a table, and its entries offer to delete the record they show: the
id of the record is filled in for a placeholder and goes into the data of an action. On its way
the id is a binding, the value of a template, the field of an action and at last a text that the
ids of a table are compared with. Texts and whole numbers pass all of this unchanged. What
cannot be the id in an action is refused there, and then nothing changes.
-/
namespace Storyboard

/-- The placeholder for the id of the record that is shown. -/
def idTemplate : Json := .str "\x7b\x7bid\x7d\x7d"

/-- Data for an action that deletes a record. -/
def deletionOf (table : String) (id : Json) : Json :=
  .obj [("type", .str ActionKind.deleteRecord.tag), ("table", .str table), ("recordId", id)]

theorem get?_bindings_id (session : Option (Assoc Json)) (row : Record) :
    Assoc.get? (bindings session row []) "id" = Assoc.get? row "id" := by
  rw [bindings, Assoc.get?_put, if_neg (by decide)]
  rfl

theorem Path.step_obj {fields : Assoc Json} {piece : List Char} {v : Json} (hv : v ≠ .null)
    (found : Assoc.get? fields (String.ofList piece) = some v) :
    Path.step (.obj fields) piece = some v := by
  unfold Path.step
  dsimp only
  rw [found]
  cases v with
  | null => exact absurd rfl hv
  | _ => rfl

/-- The placeholder becomes the id itself, whatever kind of value it is. -/
theorem resolve_idTemplate (session : Option (Assoc Json)) (tokens : Assoc Json) {row : Record}
    (given : Record.id row ≠ .null) :
    resolveValue (.obj (bindings session row [])) tokens idTemplate = Record.id row := by
  have hfound : Assoc.get? (bindings session row []) "id" = some (Record.id row) := by
    rw [get?_bindings_id]
    unfold Record.id at given ⊢
    cases hid : Assoc.get? row "id" with
    | none => rw [hid] at given; exact absurd rfl given
    | some id => rfl
  have hpath : ∀ context : Json, resolveValue context tokens idTemplate =
      ((Path.step context ['i', 'd']).bind some).getD (.str "") := fun _ => rfl
  rw [hpath, Path.step_obj given hfound]
  rfl

namespace Action

/-- Of the fields of such data only the id can be at fault. -/
theorem ofJson_deletionOf (table : String) (id : Json) :
    ofJson (deletionOf table id) =
      Check.under ActionKind.deleteRecord.tag (Check.under Keys.recordId.external
        ((recordId id).map fun given => .deleteRecord ⟨table, given, []⟩)) := by
  rw [ofJson, read_eq]
  refine congrArg (Check.under ActionKind.deleteRecord.tag) ?_
  show Check.both _ (Check.under Keys.recordId.external (recordId id)) = _
  cases recordId id <;> rfl

theorem accept_deletionOf (table : String) (id : Json) :
    accept (deletionOf table id) =
      match ofJson (deletionOf table id) with
      | .ok a => .ok ⟨some a, []⟩
      | .bad issues => .ok (.refused
          (.invalidAction ActionKind.deleteRecord.tag (issues.map Issue.text))) :=
  rfl

end Action

/-- The ids that an action cannot have: containers, and doubles that are no whole numbers or
too large ones. -/
inductive Json.NoRecordId : Json → Prop
  | list (items : List Json) : NoRecordId (.arr items)
  | object (fields : List (String × Json)) : NoRecordId (.obj fields)
  | double {x : Binary64}
    (h : ∀ n, x.toInt? = some n → (Read.withinWord n && n != Read.leastWord) = false) :
    NoRecordId (.float x)

theorem Json.NoRecordId.recordId_bad {id : Json} (h : id.NoRecordId) :
    ∃ issues, Action.recordId id = .bad issues := by
  cases h with
  | list items => exact ⟨_, rfl⟩
  | object fields => exact ⟨_, rfl⟩
  | @double x h =>
    obtain ⟨issues, hissues⟩ : ∃ issues, Read.whole (.float x) = .bad issues := by
      unfold Read.whole
      dsimp only
      split
      · exact ⟨_, rfl⟩
      · split
        · exact ⟨_, rfl⟩
        · rename_i n hn
          rw [h n hn]
          exact ⟨_, rfl⟩
    exact ⟨_, by rw [Action.recordId, hissues]; rfl⟩

namespace App

/-- An app with other records and nothing else changed. -/
def withStore (app : App) (store : Store) : App :=
  { app with context := { app.context with store } }

/-- A deletion is a chain of one action, which changes the records of the table alone. -/
theorem runFully_deleteRecord (p : Performer) (a : DeleteRecord) {c : Context}
    (there : c.store.hasTable a.table = true) :
    p.runFully (.deleteRecord a) c =
      ⟨{ c with store := (c.store.delete a.table a.recordId.toJson).2 }, [], [],
        [.deleteRecord a], none⟩ := by
  have hstep : p.perform c (.deleteRecord a) =
      .changed { c with store := (c.store.delete a.table a.recordId.toJson).2 } := if_pos there
  obtain ⟨allowance, hdepth⟩ :=
    Nat.exists_eq_add_one_of_ne_zero (Nat.ne_of_gt p.settings.maxActionDepth.positive)
  rw [Performer.runFully, hdepth, Performer.run, hstep]
  rfl

/-- Nothing is published and nothing is sent, so both carriers do the same. -/
theorem perform_deleteRecord (carrier : Carrier) (a : DeleteRecord) {app : App}
    (there : app.context.store.hasTable a.table = true) :
    app.perform carrier (.deleteRecord a) =
      (app.withStore (app.context.store.delete a.table a.recordId.toJson).2, .silent) := by
  have hchain := runFully_deleteRecord app.performer a there
  cases carrier with
  | inline submitter =>
    simp only [perform, performInline, hchain, publish_nil]
    rfl
  | scheduled =>
    simp only [perform, performScheduled, hchain, publish_nil]
    rfl

end App

theorem Store.hasTable_of_mem_rows {store : Store} {table : String} {row : Record}
    (h : row ∈ store.rows table) : store.hasTable table = true := by
  rw [hasTable, Assoc.has, get?_of_mem_rows h]
  rfl

/-- A record that is listed under an id that is a text or a whole number is deleted by the
action that its entry offers, in every session and under either carrier: that record and nothing
else. Under an id that no action can have the action is refused, and nothing changes. -/
theorem listed_record_deleted {app : App} (reached : app.context.store.Reached)
    (carrier : Carrier) (session : Option (Assoc Json)) (tokens : Assoc Json) {table : String}
    {row : Record} (listed : row ∈ app.context.store.rows table) :
    let id := resolveValue (.obj (bindings session row [])) tokens idTemplate
    (∀ given : RecordId, Record.id row = given.toJson →
      ∃ after, app.dispatch carrier (deletionOf table id) = .ok (app.withStore after, .silent) ∧
        app.context.store.Without table row after) ∧
    ((Record.id row).NoRecordId →
      ∃ texts, app.dispatch carrier (deletionOf table id) =
        .ok (app, .said [.invalidAction ActionKind.deleteRecord.tag texts])) := by
  intro id
  have hdistinct := reached.idsDistinct
  have hgiven : Record.id row ≠ .null :=
    (hdistinct _ (Assoc.mem_of_get? (Store.get?_of_mem_rows listed))).given row listed
  have hid : id = Record.id row := resolve_idTemplate session tokens hgiven
  rw [hid]
  constructor
  · intro given hrow
    have hread : Action.recordId (Record.id row) = .ok given := by
      rw [hrow]
      cases given <;> rfl
    have haccept : Action.accept (deletionOf table (Record.id row)) =
        .ok ⟨some (.deleteRecord ⟨table, given, []⟩), []⟩ := by
      rw [Action.accept_deletionOf, Action.ofJson_deletionOf, hread]
      rfl
    have hbears : row.Bears given.toJson :=
      ⟨hgiven, hrow ▸ hgiven, congrArg Json.display hrow⟩
    refine ⟨_, ?_, (Store.without_delete hdistinct listed hbears).2⟩
    rw [App.dispatch, haccept]
    exact congrArg Except.ok (App.perform_deleteRecord carrier ⟨table, given, []⟩
      (Store.hasTable_of_mem_rows listed))
  · intro hbad
    obtain ⟨issues, hissues⟩ := hbad.recordId_bad
    have haccept := Action.accept_deletionOf table (Record.id row)
    rw [Action.ofJson_deletionOf, hissues] at haccept
    exact ⟨_, by rw [App.dispatch, haccept]; rfl⟩

/-- Notes whose ids are a number, a text and a list. -/
def boxedNotesSeed : Assoc Json :=
  [("notes", .arr [.obj [("id", .int 7)], .obj [("id", .str "b")], .obj [("id", .arr [.int 7])]])]

/-- An app that was started with these notes. -/
def boxedNotesApp : App :=
  ⟨.default, .plaintext, tagsDefinition,
    .start ⟨[("notes", [[("id", .int 7)], [("id", .str "b")], [("id", .arr [.int 7])]])]⟩
      ⟨.counter, 0⟩ "home", [], [], .none, []⟩

theorem boxedNotesApp_started :
    App.ofDefinition .default .plaintext ⟨.counter, 0⟩ tagsDefinition boxedNotesSeed =
      .ok (boxedNotesApp, []) :=
  rfl

/-- What the entry of a note offers. -/
def offeredDeletion (id : Json) : Json :=
  deletionOf "notes" (resolveValue (.obj (bindings none [("id", id)] [])) [] idTemplate)

/-- Of the notes the first is deleted from its entry, and the deletion of the last is refused. -/
theorem listed_note_deleted :
    boxedNotesApp.context.store.Reached ∧
      (∃ after, boxedNotesApp.dispatch .scheduled (offeredDeletion (.int 7)) =
          .ok (boxedNotesApp.withStore after, .silent) ∧
        boxedNotesApp.context.store.Without "notes" [("id", .int 7)] after) ∧
      ∃ texts, boxedNotesApp.dispatch .scheduled (offeredDeletion (.arr [.int 7])) =
        .ok (boxedNotesApp, .said [.invalidAction ActionKind.deleteRecord.tag texts]) := by
  have reached : boxedNotesApp.context.store.Reached := .held boxedNotesApp_started []
  have hnumbered : [("id", Json.int 7)] ∈ boxedNotesApp.context.store.rows "notes" :=
    List.mem_cons_self
  have hboxed : [("id", Json.arr [.int 7])] ∈ boxedNotesApp.context.store.rows "notes" :=
    List.mem_cons_of_mem _ (List.mem_cons_of_mem _ List.mem_cons_self)
  exact ⟨reached,
    (listed_record_deleted reached .scheduled none [] hnumbered).1 (.whole 7) rfl,
    (listed_record_deleted reached .scheduled none [] hboxed).2 (.list [.int 7])⟩

/-- The last note is listed, and what its entry offers does not delete it. -/
theorem boxed_note_stays :
    boxedNotesApp.context.store.Reached ∧
      [("id", .arr [.int 7])] ∈ boxedNotesApp.context.store.rows "notes" ∧
      ∃ next report, boxedNotesApp.dispatch .scheduled (offeredDeletion (.arr [.int 7])) =
          .ok (next, report) ∧
        ¬ boxedNotesApp.context.store.Without "notes" [("id", .arr [.int 7])] next.context.store :=
  ⟨.held boxedNotesApp_started [],
    List.mem_cons_of_mem _ (List.mem_cons_of_mem _ List.mem_cons_self), boxedNotesApp, _, rfl,
    fun h => h.ne rfl⟩

end Storyboard
