import Storyboard.App.Facade
import Storyboard.Proofs.App.Legs
import Storyboard.Proofs.App.Step

/-!
# Reloading keeps facade and dispatcher in step

Whatever a host and the event loop do, the two copies of the document stay the same one,
and the tables it declares exist. A reload that breaks off or is refused leaves everything
as it was; one that is accepted swaps in the document, adds the tables that are missing,
and leaves the screen as long as the document has it.
-/
namespace Storyboard

namespace App

theorem definition_handle (app : App) (w : Wakeup) :
    (app.handle w).1.definition = app.definition := by
  cases w with
  | start r =>
    rw [handle, start_eq]
  | granted r => rfl
  | answered r outcome =>
    rw [handle, conclude_eq, release_eq]
    rfl

theorem definition_handleAll (fuel : Nat) (app : App) :
    (handleAll fuel app).1.definition = app.definition := by
  induction fuel generalizing app with
  | zero => rfl
  | succ fuel ih =>
    unfold handleAll
    cases app.tasks.ready with
    | nil => rfl
    | cons w rest => exact (ih _).trans (definition_handle _ w)

theorem definition_perform (carrier : Carrier) (action : Action) (app : App) :
    (app.perform carrier action).1.definition = app.definition := by
  cases carrier with
  | scheduled => rfl
  | inline submitter =>
    rw [perform, performInline_eq]
    rfl

/-- No operation but a reload changes the document that actions are performed under. -/
theorem Operation.definition_apply {op : Operation} (kept : ∀ source, op ≠ .reload source)
    (app : App) : (op.apply app).definition = app.definition := by
  cases op with
  | dispatch carrier data =>
    simp only [apply, App.dispatch]
    cases Action.accept data with
    | error fault => rfl
    | ok intake =>
      obtain ⟨_ | action, notices⟩ := intake
      · rfl
      · exact definition_perform carrier action app
  | perform carrier action => exact definition_perform carrier action app
  | dismiss carrier index =>
    simp only [apply, App.dismiss]
    cases app.popups with
    | nil => rfl
    | cons shown rest =>
      dsimp only
      cases shown.action? index with
      | none => rfl
      | some action => exact definition_perform carrier action { app with popups := rest }
  | setForm values => rfl
  | reload source => exact absurd rfl (kept source)
  | currentScreen => rfl
  | settle => exact definition_handleAll _ app
  | answer number outcome =>
    simp only [apply, App.answer]
    cases app.tasks.answer? number outcome with
    | none => rfl
    | some tasks => exact definition_handleAll _ { app with tasks }

/-- The event loop does not change the document either. -/
theorem Event.definition_next {e : Event} (loop : ∀ deed, e ≠ .host deed) (app : App) :
    (e.next app).definition = app.definition := by
  cases e with
  | host deed => exact absurd rfl (loop deed)
  | turn =>
    simp only [next, happen]
    cases app.tasks.ready with
    | nil => rfl
    | cons w rest => exact definition_handle (app.awake rest) w
  | arrive number outcome =>
    simp only [next, happen]
    cases app.tasks.answer? number outcome <;> rfl
  | prompt number outcome =>
    simp only [next, happen]
    cases app.tasks.call? number with
    | none => rfl
    | some call =>
      dsimp only
      rw [conclude_eq, release_eq]
      rfl

/-- Logging a user in changes neither the document nor the store. -/
theorem login_keeps (app : App) (user : Json) :
    (app.login user).1.definition = app.definition ∧
      (app.login user).1.context.store = app.context.store := by
  unfold login
  cases Form.table? user with
  | error fault => exact ⟨rfl, rfl⟩
  | ok form =>
    dsimp only
    cases keyIssues form with
    | nil => exact ⟨rfl, rfl⟩
    | cons issue rest => exact ⟨rfl, rfl⟩

end App

/-- A lasting property lasts through a leg. -/
theorem Lasting.leg {P : List Execution → Context → Prop} (hP : Lasting P)
    (past : List Execution) (leg : Leg) (h : P past leg.before) :
    P (past ++ leg.performer.trace leg.before leg.chain.performed) leg.chain.context := by
  have hcontext : leg.chain.context =
      leg.performer.performAll leg.before leg.chain.performed := by
    obtain ⟨p, c, cause⟩ := leg
    cases cause with
    | dispatched action => exact Performer.run_context p _ action c
    | concluded r outcome => exact Performer.resume_context p r outcome c
  rw [hcontext]
  exact hP.performAll leg.performer leg.chain.performed h

/-- No action drops a table. -/
theorem hasTable_lasting (table : String) :
    Lasting fun _ c => c.store.hasTable table = true where
  perform {_ c} p action h := by
    have hc := p.perform_changes c action
    generalize (p.perform c action).context = after at hc ⊢
    have hensured : ∀ {store : Store} (names : List String), store.hasTable table = true →
        (store.ensureTables names).hasTable table = true := by
      intro store names hthere
      rw [Store.hasTable_ensureTables, hthere, Bool.true_or]
    cases hc with
    | submitted _ name _ _ _ _ hi => exact Store.hasTable_insert hi (hensured [name] h)
    | submitFailed _ name => exact hensured [name] h
    | deleted a => exact Store.hasTable_delete a.table a.recordId.toJson h
    | signedUp _ auth _ _ _ _ _ hi => exact Store.hasTable_insert hi (hensured [auth.userTable] h)
    | signupFailed _ auth => exact hensured [auth.userTable] h
    | _ => exact h
  navigate _ h := h
  form _ h := h
  ensureTables names h := by
    rw [Store.hasTable_ensureTables, h, Bool.true_or]

/-- No event of the loop drops a table. -/
theorem App.Event.hasTable_next {app : App} {e : Event} (loop : ∀ deed, e ≠ .host deed)
    {table : String} (h : app.context.store.hasTable table = true) :
    (e.next app).context.store.hasTable table = true := by
  cases hleg : e.leg? app with
  | none =>
    obtain ⟨-, _, _, _, _, _, -, hnext, hcontext⟩ := of_rest hleg
    rw [hnext]
    exact hcontext loop ▸ h
  | some leg =>
    obtain ⟨-, hbefore, _, _, -, hnext, -⟩ := of_leg hleg
    rw [hnext]
    exact (hasTable_lasting table).leg [] leg (hbefore ▸ h)

namespace App

/-- A reload breaks off or is refused, and then changes nothing, or it replaces the document. -/
theorem Operation.apply_reload (app : App) (source : Source) :
    (Operation.reload source).apply app = app ∨
      ∃ definition, (Operation.reload source).apply app = app.withDefinition definition := by
  simp only [apply, App.reload]
  cases Validation.ofSource app.settings.maxDefinitionBytes source with
  | error b => exact .inl rfl
  | ok v =>
    dsimp only
    cases v.definition with
    | none => exact .inl rfl
    | some definition => exact .inr ⟨definition, rfl⟩

/-- The tables that the document declares exist. -/
def Declared (app : App) : Prop :=
  ∀ table ∈ app.definition.tableNames, app.context.store.hasTable table = true

theorem Declared.of_eq {app next : App} (h : app.Declared)
    (definition : next.definition = app.definition)
    (store : next.context.store = app.context.store) : next.Declared := by
  unfold Declared
  rw [definition, store]
  exact h

theorem Declared.withDefinition (app : App) (definition : Definition) :
    (app.withDefinition definition).Declared := by
  intro table htable
  have hdeclared : definition.tableNames.contains table = true := List.contains_iff_mem.mpr htable
  change (app.context.store.ensureTables definition.tableNames).hasTable table = true
  rw [Store.hasTable_ensureTables, hdeclared, Bool.or_true]

theorem Declared.apply {app : App} (h : app.Declared) (op : Operation) :
    (op.apply app).Declared := by
  by_cases hreload : ∃ source, op = .reload source
  · obtain ⟨source, rfl⟩ := hreload
    rcases Operation.apply_reload app source with hsame | ⟨definition, hnext⟩
    · rw [hsame]
      exact h
    · rw [hnext]
      exact .withDefinition app definition
  · intro table htable
    rw [Operation.definition_apply fun source heq => hreload ⟨source, heq⟩] at htable
    exact @Lasting.apply _ [] app (hasTable_lasting table) (h table htable) op

theorem Declared.next {app : App} (h : app.Declared) (e : Event) : (e.next app).Declared := by
  by_cases hhost : ∃ deed, e = .host deed
  · obtain ⟨deed, rfl⟩ := hhost
    exact h.apply deed.operation
  · have hloop : ∀ deed, e ≠ .host deed := fun deed heq => hhost ⟨deed, heq⟩
    intro table htable
    rw [Event.definition_next hloop] at htable
    exact Event.hasTable_next hloop (h table htable)

theorem Declared.ofDefinition {settings : Settings} {verifier : Verifier} {supply : Supply}
    {definition : Definition} {seed : Assoc Json} {app : App} {notices : List Notice}
    (h : ofDefinition settings verifier supply definition seed = .ok (app, notices)) :
    app.definition = definition ∧ app.Declared := by
  unfold App.ofDefinition at h
  cases hseed : Store.ofSeed supply seed with
  | error e =>
    rw [hseed] at h
    cases h
  | ok seeded =>
    rw [hseed] at h
    cases h
    refine ⟨rfl, fun table htable => ?_⟩
    change (seeded.store.ensureTables definition.tableNames).hasTable table = true
    rw [Store.hasTable_ensureTables, List.contains_iff_mem.mpr htable, Bool.or_true]

end App

namespace Facade

/-- What happens to a facade: what its host does, and what the event loop does. -/
inductive Move where
  | operation (op : App.Operation)
  | loop (e : App.Event)
  | subscribe (listener : Listener)
  | unsubscribe (id : Nat)
  | login (user : Json)
  | logout

/-- The facade after an operation. Screens and reloads go by the document of the facade. -/
def operate (f : Facade) : App.Operation → Facade
  | .reload source => (f.reload source).1
  | .currentScreen => f.currentScreen.2.1
  | op => { f with app := op.apply f.app }

def move (f : Facade) : Move → Facade
  | .operation op => f.operate op
  | .loop (.host deed) => f.operate deed.operation
  | .loop e => { f with app := e.next f.app }
  | .subscribe listener => { f with app := f.app.subscribe listener }
  | .unsubscribe id => { f with app := f.app.unsubscribe id }
  | .login user => { f with app := (f.app.login user).1 }
  | .logout => { f with app := f.app.logout }

/-- The facade after a run. -/
def after (f : Facade) : List Move → Facade
  | [] => f
  | m :: rest => after (f.move m) rest

/-- Both copies of the document are the same one, and its tables exist. -/
structure InStep (f : Facade) : Prop where
  same : f.app.definition = f.definition
  tables : ∀ table ∈ f.definition.tableNames, f.app.context.store.hasTable table = true

/-- What an accepted reload makes of a facade. -/
structure Reloaded (f : Facade) (definition : Definition) (next : Facade) : Prop where
  facade : next.definition = definition
  dispatcher : next.app.definition = definition
  session : next.app.context.session = f.app.context.session
  form : next.app.context.form = f.app.context.form
  popups : next.app.popups = f.app.popups
  /-- Tables are only added, empty. -/
  tables : next.app.context.store.tables = f.app.context.store.tables ++
    (f.app.context.store.newTables definition.tableNames).map fun table => (table, [])
  /-- The added ones are those that are declared and were missing, each once. -/
  missing : (f.app.context.store.newTables definition.tableNames).Nodup ∧
    ∀ table, table ∈ f.app.context.store.newTables definition.tableNames ↔
      table ∈ definition.tableNames ∧ f.app.context.store.hasTable table = false
  rows : ∀ table, next.app.context.store.rows table = f.app.context.store.rows table
  /-- The active screen stays if the document has it or it is a built-in one. -/
  screen : next.app.context.screen =
    if f.app.context.screen ≠ "" ∧ (f.app.context.screen ∈ Assoc.keys definition.screens ∨
      f.app.context.screen = "auth:login" ∨ f.app.context.screen = "auth:signup")
    then f.app.context.screen else definition.initialScreen

/-- Swapping in a document, the dispatcher gets what replacing the one of an app makes. -/
theorem swapIn_eq (f : Facade) (definition : Definition) :
    f.swapIn definition = ⟨definition, f.app.withDefinition definition⟩ := by
  unfold swapIn keepScreen ensureTables App.withDefinition Context.navigate
  cases hempty : f.app.context.screen == "" <;>
    cases hnamed : definition.namesScreen f.app.context.screen <;>
    simp [bne, hempty, hnamed]

theorem currentScreen_eq {f : Facade} (same : f.app.definition = f.definition) :
    f.currentScreen.2.1 = ⟨f.definition, f.app.currentScreen.2.1⟩ := by
  unfold currentScreen
  rw [← same]
  rfl

/-- In step, a facade goes through an operation as its app does. -/
theorem operate_eq {f : Facade} (same : f.app.definition = f.definition) (op : App.Operation) :
    f.operate op = ⟨(op.apply f.app).definition, op.apply f.app⟩ := by
  have hother : (∀ source, op ≠ .reload source) →
      ({ f with app := op.apply f.app } : Facade) = ⟨(op.apply f.app).definition, op.apply f.app⟩ :=
    fun kept => by rw [App.Operation.definition_apply kept, same]
  cases op with
  | reload source =>
    simp only [operate, reload, App.Operation.apply, App.reload]
    cases Validation.ofSource f.app.settings.maxDefinitionBytes source with
    | error b => rw [same]
    | ok v =>
      dsimp only
      cases v.definition with
      | none =>
        dsimp only
        rw [same]
      | some definition => exact f.swapIn_eq definition
  | currentScreen => exact (currentScreen_eq same).trans (hother fun _ heq => by cases heq)
  | _ => exact hother (fun _ heq => by cases heq)

/-- What a move makes of the app of a facade. -/
def Move.next (app : App) : Move → App
  | .operation op => op.apply app
  | .loop e => e.next app
  | .subscribe listener => app.subscribe listener
  | .unsubscribe id => app.unsubscribe id
  | .login user => (app.login user).1
  | .logout => app.logout

/-- In step, a facade goes through a move as its app does. -/
theorem move_eq {f : Facade} (same : f.app.definition = f.definition) (m : Move) :
    f.move m = ⟨(m.next f.app).definition, m.next f.app⟩ := by
  cases m with
  | operation op => exact operate_eq same op
  | loop e =>
    by_cases hhost : ∃ deed, e = .host deed
    · obtain ⟨deed, rfl⟩ := hhost
      exact operate_eq same deed.operation
    · have hloop : ∀ deed, e ≠ .host deed := fun deed heq => hhost ⟨deed, heq⟩
      simp only [move, Move.next, App.Event.definition_next hloop, same]
  | subscribe listener => rw [move, ← same]; rfl
  | unsubscribe id => rw [move, ← same]; rfl
  | login user => simp only [move, Move.next, (f.app.login_keeps user).1, same]
  | logout => rw [move, ← same]; rfl

theorem InStep.move {f : Facade} (h : f.InStep) (m : Move) : (f.move m).InStep := by
  rw [move_eq h.same]
  have hdeclared : f.app.Declared := by
    unfold App.Declared
    rw [h.same]
    exact h.tables
  refine ⟨rfl, ?_⟩
  cases m with
  | operation op => exact hdeclared.apply op
  | loop e => exact hdeclared.next e
  | login user =>
    obtain ⟨hdefinition, hstore⟩ := f.app.login_keeps user
    exact hdeclared.of_eq hdefinition hstore
  | subscribe _ | unsubscribe _ | logout => exact hdeclared.of_eq rfl rfl

theorem InStep.after {f : Facade} (h : f.InStep) (moves : List Move) : (f.after moves).InStep := by
  induction moves generalizing f with
  | nil => exact h
  | cons m rest ih => exact ih (h.move m)

theorem InStep.ofDefinition {settings : Settings} {verifier : Verifier} {supply : Supply}
    {definition : Definition} {seed : Assoc Json} {f : Facade} {notices : List Notice}
    (h : ofDefinition settings verifier supply definition seed = .ok (f, notices)) : f.InStep := by
  unfold Facade.ofDefinition at h
  cases happ : App.ofDefinition settings verifier supply definition seed with
  | error e =>
    rw [happ] at h
    cases h
  | ok started =>
    obtain ⟨app, said⟩ := started
    rw [happ] at h
    cases h
    obtain ⟨hsame, hdeclared⟩ := App.Declared.ofDefinition happ
    refine ⟨hsame, ?_⟩
    unfold App.Declared at hdeclared
    rw [hsame] at hdeclared
    exact hdeclared

theorem reloaded (f : Facade) (definition : Definition) :
    Reloaded f definition (f.swapIn definition) := by
  rw [swapIn_eq]
  refine ⟨rfl, rfl, rfl, rfl, rfl, Store.tables_ensureTables _ _,
    ⟨Store.nodup_newTables _ _, fun _ => Store.mem_newTables _⟩,
    fun table => Store.rows_ensureTables _ _ table, ?_⟩
  have hnamed : definition.namesScreen f.app.context.screen = true ↔
      f.app.context.screen ∈ Assoc.keys definition.screens ∨
        f.app.context.screen = "auth:login" ∨ f.app.context.screen = "auth:signup" := by
    unfold Definition.namesScreen
    rw [Bool.or_eq_true, Bool.or_eq_true, Assoc.has_eq_true, beq_iff_eq, beq_iff_eq, or_assoc]
    rfl
  unfold App.withDefinition
  dsimp only
  refine if_congr ?_ rfl rfl
  rw [Bool.and_eq_true, bne_iff_ne, hnamed]

theorem reload_accepted {f : Facade} {source : Source} {v : Validation} {definition : Definition}
    (validated : Validation.ofSource f.app.settings.maxDefinitionBytes source = .ok v)
    (accepted : v.definition = some definition) :
    f.reload source = (f.swapIn definition, .ok (v, v.notices)) := by
  rw [reload, validated]
  dsimp only
  rw [accepted]

/-- A reload that goes through swaps the document in; any other leaves everything as it was. -/
theorem reload_cases (f : Facade) (source : Source) :
    ((f.reload source).1 = f ∧ ∀ v notices, (f.reload source).2 = .ok (v, notices) →
      v.definition = none) ∨
    ∃ v notices definition, (f.reload source).2 = .ok (v, notices) ∧
      v.definition = some definition ∧ (f.reload source).1 = f.swapIn definition := by
  cases hvalidated : Validation.ofSource f.app.settings.maxDefinitionBytes source with
  | error b =>
    rw [reload, hvalidated]
    exact .inl ⟨rfl, fun _ _ heq => by cases heq⟩
  | ok v =>
    cases haccepted : v.definition with
    | none =>
      rw [reload, hvalidated]
      dsimp only
      rw [haccepted]
      refine .inl ⟨rfl, fun _ _ heq => ?_⟩
      cases heq
      exact haccepted
    | some definition =>
      rw [reload_accepted hvalidated haccepted]
      exact .inr ⟨v, v.notices, definition, rfl, haccepted, rfl⟩

end Facade

/-- In every state that a facade gets into, both copies of its document are the same one and
the declared tables exist. A reload that breaks off or is refused leaves that state as it is;
one that is accepted replaces both copies, adds the missing tables and keeps the rest. -/
theorem reload_is_atomic {settings : Settings} {verifier : Verifier} {supply : Supply}
    {definition : Definition} {seed : Assoc Json} {f : Facade} {notices : List Notice}
    (started : Facade.ofDefinition settings verifier supply definition seed = .ok (f, notices))
    (moves : List Facade.Move) (source : Source) :
    (f.after moves).InStep ∧
    (∀ b, ((f.after moves).reload source).2 = .error b →
      ((f.after moves).reload source).1 = f.after moves) ∧
    (∀ v said, ((f.after moves).reload source).2 = .ok (v, said) →
      match v.definition with
      | none => ((f.after moves).reload source).1 = f.after moves
      | some fresh => (f.after moves).Reloaded fresh ((f.after moves).reload source).1) := by
  refine ⟨(Facade.InStep.ofDefinition started).after moves, fun b hb => ?_, fun v said hv => ?_⟩
  · rcases (f.after moves).reload_cases source with ⟨hsame, -⟩ | ⟨v, said, fresh, hv, -, -⟩
    · exact hsame
    · rw [hv] at hb
      cases hb
  · rcases (f.after moves).reload_cases source with
      ⟨hsame, hnone⟩ | ⟨v', said', fresh, hv', hfresh, hnext⟩
    · rw [hnone v said hv]
      exact hsame
    · rw [hv'] at hv
      cases hv
      rw [hfresh, hnext]
      exact Facade.reloaded _ fresh

/-- A folder with a login, of which the home screen is seen first. -/
def folderDefinition : Definition where
  version := "1"
  app := ⟨"Folder", .absent, .absent, .absent,
    .value ⟨true, "users", "email", "password", "home", "auth:login", []⟩, []⟩
  screens := [("home", ⟨.absent, .absent, none, .absent, none, []⟩)]
  initialScreen := "home"
  extra := []

/-- The text of another folder, with a table of files and without the login. -/
def folderText : String :=
  Json.write .compact (.obj [("version", .str "2"), ("initialScreen", .str "start"),
    ("app", .obj [("name", .str "Folder"),
      ("databaseSchema", .obj [("files", .obj [("fields", .obj [])])])]),
    ("screens", .obj [("home", .obj [])])])

/-- Somebody logs in, and an empty text is refused. -/
def folderVisit : List Facade.Move :=
  [.login (.obj [("id", .str "ada")]), .operation (.reload (.text "")),
    .loop (.host .currentScreen)]

/-- After the visit the empty text changes nothing again, and the other folder is swapped in. -/
theorem folder_reload_is_atomic :
    ∃ f notices, Facade.ofDefinition .default .plaintext ⟨.counter, 0⟩ folderDefinition [] =
        .ok (f, notices) ∧
      (f.after folderVisit).app.context.session.isSome = true ∧
      (f.after folderVisit).InStep ∧
      ((f.after folderVisit).reload (.text "")).1 = f.after folderVisit ∧
      ∃ fresh, fresh.tableNames = ["files"] ∧ fresh.initialScreen = "start" ∧
        (f.after folderVisit).Reloaded fresh
          ((f.after folderVisit).reload (.text folderText)).1 := by
  obtain ⟨f, notices, started, login, limit, v, said, refused, absent⟩ :
      ∃ f notices, Facade.ofDefinition .default .plaintext ⟨.counter, 0⟩ folderDefinition [] =
          .ok (f, notices) ∧
        (f.after folderVisit).app.context.session.isSome = true ∧
        (f.after folderVisit).app.settings.maxDefinitionBytes = 2000000 ∧
        ∃ v said, ((f.after folderVisit).reload (.text "")).2 = .ok (v, said) ∧
          v.definition = none := ⟨_, _, rfl, rfl, rfl, _, _, rfl, rfl⟩
  have hfresh : (match Validation.ofSource 2000000 (.text folderText) with
      | .ok v => v.definition.map fun d => (d.tableNames, d.initialScreen)
      | .error _ => none) = some (["files"], "start") := by decide +kernel
  obtain ⟨hstep, -, hrefused⟩ := reload_is_atomic started folderVisit (.text "")
  obtain ⟨-, -, hread⟩ := reload_is_atomic started folderVisit (.text folderText)
  have hsame := hrefused v said refused
  rw [absent] at hsame
  refine ⟨f, notices, started, login, hstep, hsame, ?_⟩
  rw [← limit] at hfresh
  cases hvalidated : Validation.ofSource (f.after folderVisit).app.settings.maxDefinitionBytes
    (.text folderText) with
  | error b =>
    rw [hvalidated] at hfresh
    cases hfresh
  | ok v =>
    rw [hvalidated] at hfresh
    obtain ⟨fresh, haccepted, hshape⟩ := Option.map_eq_some_iff.mp hfresh
    obtain ⟨htables, hinitial⟩ := Prod.mk.inj hshape
    have hswapped := Facade.reload_accepted hvalidated haccepted
    have hreloaded := hread v v.notices (congrArg Prod.snd hswapped)
    rw [haccepted] at hreloaded
    exact ⟨fresh, htables, hinitial, hreloaded⟩

end Storyboard
