import Storyboard.App.Dispatch

/-!
# Runs and their history

A host drives an app by operations, in any number and order. The history of a run lists
every action that was performed on the way, follow-ups included, with the context it
started from and the document it was performed under. A property of the history and the
context is lasting when the few things that change a context keep it; then it holds
after every run that it held before.
-/
namespace Storyboard

/-- One action that was performed, and the context it started from. -/
structure Execution where
  performer : Performer
  action : Action
  before : Context

/-- The context an execution led to. -/
def Execution.after (e : Execution) : Context := (e.performer.perform e.before e.action).context

namespace Performer

/-- The executions of actions that are performed one after the other. -/
def trace (p : Performer) (c : Context) : List Action → List Execution
  | [] => []
  | action :: rest => ⟨p, action, c⟩ :: trace p (p.perform c action).context rest

/-- The context after actions that are performed one after the other. -/
def performAll (p : Performer) (c : Context) : List Action → Context
  | [] => c
  | action :: rest => performAll p (p.perform c action).context rest

/-- A chain leads where its performed actions lead. -/
theorem run_context (p : Performer) (allowance : Nat) (action : Action) (c : Context) :
    (p.run allowance action c).context = p.performAll c (p.run allowance action c).performed := by
  induction allowance generalizing action c with
  | zero => rfl
  | succ allowance ih =>
    simp only [run]
    split
    · rfl
    · exact ih _ _
    · rfl

theorem resume_context (p : Performer) (r : RemoteSubmit) (outcome : Outcome) (c : Context) :
    (p.resume r outcome c).context = p.performAll c (p.resume r outcome c).performed := by
  simp only [resume]
  split
  · exact run_context p _ _ c
  · rfl

end Performer

namespace App

@[simp] theorem publish_context (app : App) (effects : List Effect) :
    (app.publish effects).1.context = app.context := rfl

@[simp] theorem start_context (app : App) (r : RemoteSubmit) :
    (app.start r).context = app.context := by
  unfold start
  split
  · split <;> rfl
  · rfl

theorem conclude_context (app : App) (r : RemoteSubmit) (outcome : Outcome) :
    (app.conclude r outcome).1.context =
      (app.performer.resume r outcome app.context).context := by
  unfold conclude release
  split <;> rfl

/-- The executions of a chain that starts in an app. -/
def executionsOf (app : App) (chain : Chain) : List Execution :=
  app.performer.trace app.context chain.performed

/-- The executions of a submit that is a task of its own. -/
def asideExecutions (submitter : Submitter) (r : RemoteSubmit) (app : App) : List Execution :=
  if (app.request submitter r).1.isAtOnce then app.executionsOf (app.complete submitter r).1
  else []

/-- The executions of an action whose remote submits are completed before it returns. -/
def inlineExecutions (submitter : Submitter) (action : Action) (app : App) : List Execution :=
  let first := app.performer.runFully action app.context
  let between : App := { app with context := first.context }
  app.executionsOf first ++
    match first.remote with
    | none => []
    | some r =>
      let (second, later, _) := between.complete submitter r
      between.executionsOf second ++
        match second.remote with
        | none => []
        | some r => later.asideExecutions submitter r

/-- The executions of an action at the start of a chain. -/
def performExecutions (carrier : Carrier) (action : Action) (app : App) : List Execution :=
  match carrier with
  | .inline submitter => app.inlineExecutions submitter action
  | .scheduled => app.executionsOf (app.performer.runFully action app.context)

/-- The executions of one wake-up: only an answer leads to any. -/
def wakeupExecutions (app : App) : Wakeup → List Execution
  | .start _ => []
  | .granted _ => []
  | .answered r outcome => app.executionsOf (app.performer.resume r outcome app.context)

/-- The executions of wake-ups, at most a number of them. -/
def handleAllExecutions : Nat → App → List Execution
  | 0, _ => []
  | fuel + 1, app =>
    match app.tasks.ready with
    | [] => []
    | wakeup :: rest =>
      let app : App := { app with tasks := { app.tasks with ready := rest } }
      app.wakeupExecutions wakeup ++ handleAllExecutions fuel (app.handle wakeup).1

def settleExecutions (app : App) : List Execution := handleAllExecutions app.tasks.weight app

/-- What a host does with an app, the scheduler and the other side of its submits
included. -/
inductive Operation where
  | dispatch (carrier : Carrier) (data : Json)
  | perform (carrier : Carrier) (action : Action)
  | dismiss (carrier : Carrier) (index : Int)
  | setForm (values : Json)
  | reload (source : Source)
  | currentScreen
  | settle
  | answer (number : Nat) (outcome : Outcome)

namespace Operation

/-- The app after an operation. One that breaks off before it began changes nothing. -/
def apply (app : App) : Operation → App
  | .dispatch carrier data =>
    match app.dispatch carrier data with
    | .ok (next, _) => next
    | .error _ => app
  | .perform carrier action => (app.perform carrier action).1
  | .dismiss carrier index => (app.dismiss carrier index).1
  | .setForm values => (app.setForm values).1
  | .reload source =>
    match app.reload source with
    | .ok (_, next, _) => next
    | .error _ => app
  | .currentScreen => app.currentScreen.2.1
  | .settle => app.settle.1
  | .answer number outcome => (app.answer number outcome).2.1

/-- The executions of an operation. -/
def executions (app : App) : Operation → List Execution
  | .dispatch carrier data =>
    match Action.accept data with
    | .ok ⟨some action, _⟩ => app.performExecutions carrier action
    | _ => []
  | .perform carrier action => app.performExecutions carrier action
  | .dismiss carrier index =>
    match app.popups with
    | [] => []
    | shown :: rest =>
      match shown.action? index with
      | some action => performExecutions carrier action { app with popups := rest }
      | none => []
  | .setForm _ => []
  | .reload _ => []
  | .currentScreen => []
  | .settle => app.settleExecutions
  | .answer number outcome =>
    match app.tasks.answer? number outcome with
    | some tasks => settleExecutions { app with tasks }
    | none => []

end Operation

/-- The app after a run. -/
def after (app : App) : List Operation → App
  | [] => app
  | op :: rest => after (op.apply app) rest

/-- The executions of a run, in order. -/
def history (app : App) : List Operation → List Execution
  | [] => []
  | op :: rest => op.executions app ++ history (op.apply app) rest

end App

/-- A property of the executions so far and the context they led to that nothing breaks
which changes a context. -/
structure Lasting (P : List Execution → Context → Prop) : Prop where
  perform : ∀ {past c} (p : Performer) (action : Action), P past c →
    P (past ++ [⟨p, action, c⟩]) (p.perform c action).context
  navigate : ∀ {past c} (screen : String), P past c → P past (c.navigate screen)
  form : ∀ {past c} (form : Form), P past c → P past { c with form }
  ensureTables : ∀ {past c} (names : List String), P past c →
    P past { c with store := c.store.ensureTables names }

namespace Lasting

variable {P : List Execution → Context → Prop} {past : List Execution} (app : App)

theorem performAll (hP : Lasting P) (p : Performer) (actions : List Action) {c : Context}
    (h : P past c) : P (past ++ p.trace c actions) (p.performAll c actions) := by
  induction actions generalizing past c with
  | nil => simpa [Performer.trace, Performer.performAll] using h
  | cons action rest ih =>
    have hstep := ih (hP.perform p action h)
    rwa [List.append_assoc, List.singleton_append] at hstep

theorem chain (hP : Lasting P) (h : P past app.context) {c : Chain}
    (hc : c.context = app.performer.performAll app.context c.performed) :
    P (past ++ app.executionsOf c) c.context := by
  rw [hc]
  exact hP.performAll app.performer c.performed h

theorem runFully (hP : Lasting P) (h : P past app.context) (action : Action) :
    P (past ++ app.executionsOf (app.performer.runFully action app.context))
      (app.performer.runFully action app.context).context :=
  hP.chain app h (Performer.run_context _ _ _ _)

theorem resume (hP : Lasting P) (h : P past app.context) (r : RemoteSubmit)
    (outcome : Outcome) :
    P (past ++ app.executionsOf (app.performer.resume r outcome app.context))
      (app.performer.resume r outcome app.context).context :=
  hP.chain app h (Performer.resume_context _ _ _ _)

/-- Sending a submit and running its follow-up. -/
theorem complete (hP : Lasting P) (h : P past app.context) (submitter : Submitter)
    (r : RemoteSubmit) :
    P (past ++ app.executionsOf (app.complete submitter r).1)
      (app.complete submitter r).2.1.context :=
  hP.resume app h r _

theorem completeAside (hP : Lasting P) (h : P past app.context) (submitter : Submitter)
    (r : RemoteSubmit) :
    P (past ++ app.asideExecutions submitter r) (app.completeAside submitter r).1.context := by
  unfold App.asideExecutions App.completeAside
  dsimp only
  split
  · exact hP.complete app h submitter r
  · rw [List.append_nil]
    exact h

theorem performInline (hP : Lasting P) (h : P past app.context)
    (submitter : Submitter) (action : Action) :
    P (past ++ app.inlineExecutions submitter action)
      (app.performInline submitter action).1.context := by
  have hfirst := hP.runFully app h action
  cases hr : (app.performer.runFully action app.context).remote with
  | none =>
    simp only [App.inlineExecutions, App.performInline, hr, List.append_nil, App.publish_context]
    exact hfirst
  | some r =>
    let between : App := { app with context := (app.performer.runFully action app.context).context }
    have hsecond := hP.complete between hfirst submitter r
    simp only [App.inlineExecutions, App.performInline, hr, App.publish_context]
    cases hs : (between.complete submitter r).1.remote with
    | none =>
      simp only [List.append_nil, ← List.append_assoc]
      exact hsecond
    | some r' =>
      have hthird := hP.completeAside (between.complete submitter r).2.1 hsecond submitter r'
      rw [← List.append_assoc, ← List.append_assoc]
      exact hthird

theorem performWith (hP : Lasting P) (h : P past app.context) (carrier : Carrier)
    (action : Action) :
    P (past ++ app.performExecutions carrier action) (app.perform carrier action).1.context := by
  cases carrier with
  | inline submitter => exact hP.performInline app h submitter action
  | scheduled => exact hP.runFully app h action

/-- An answer runs the follow-up of its submit; other wake-ups run nothing. -/
theorem handle (hP : Lasting P) (h : P past app.context) (wakeup : Wakeup) :
    P (past ++ app.wakeupExecutions wakeup) (app.handle wakeup).1.context := by
  cases wakeup with
  | start r =>
    rw [App.wakeupExecutions, List.append_nil, App.handle, App.start_context]
    exact h
  | granted r =>
    rw [App.wakeupExecutions, List.append_nil]
    exact h
  | answered r outcome =>
    rw [App.handle, App.conclude_context]
    exact hP.resume app h r outcome

theorem handleAll (hP : Lasting P) (fuel : Nat) (h : P past app.context) :
    P (past ++ App.handleAllExecutions fuel app) (App.handleAll fuel app).1.context := by
  induction fuel generalizing past app with
  | zero => simpa [App.handleAllExecutions, App.handleAll] using h
  | succ fuel ih =>
    cases hready : app.tasks.ready with
    | nil => simpa [App.handleAllExecutions, App.handleAll, hready] using h
    | cons wakeup rest =>
      let taken : App := { app with tasks := { app.tasks with ready := rest } }
      have hhere := hP.handle taken h wakeup
      have hrest := ih _ hhere
      rw [List.append_assoc] at hrest
      simp only [App.handleAllExecutions, App.handleAll, hready]
      exact hrest

theorem settle (hP : Lasting P) (h : P past app.context) :
    P (past ++ app.settleExecutions) app.settle.1.context :=
  hP.handleAll app _ h

theorem withDefinition (hP : Lasting P) (h : P past app.context)
    (definition : Definition) : P past (app.withDefinition definition).context :=
  hP.navigate _ (hP.ensureTables _ h)

theorem reload (hP : Lasting P) (h : P past app.context) {next : App} {source : Source}
    {v : Validation} {notices : List Notice}
    (hr : app.reload source = .ok (v, next, notices)) : P past next.context := by
  unfold App.reload at hr
  split at hr
  · cases hr
  · split at hr
    · cases hr
      exact h
    · cases hr
      exact hP.withDefinition app h _

/-- A lasting property holds after an operation if it held before. -/
theorem apply (hP : Lasting P) (h : P past app.context) (op : App.Operation) :
    P (past ++ op.executions app) (op.apply app).context := by
  cases op with
  | dispatch carrier data =>
    cases ha : Action.accept data with
    | error fault => simpa [App.Operation.executions, App.Operation.apply, App.dispatch, ha] using h
    | ok intake =>
      obtain ⟨action, notices⟩ := intake
      simp only [App.Operation.executions, App.Operation.apply, App.dispatch, ha]
      cases action with
      | none => simpa using h
      | some action => exact hP.performWith app h carrier action
  | perform carrier action => exact hP.performWith app h carrier action
  | dismiss carrier index =>
    cases hp : app.popups with
    | nil => simpa [App.Operation.executions, App.Operation.apply, App.dismiss, hp] using h
    | cons shown rest =>
      simp only [App.Operation.executions, App.Operation.apply, App.dismiss, hp]
      cases ha : shown.action? index with
      | none => simpa using h
      | some action => exact hP.performWith { app with popups := rest } h carrier action
  | setForm values =>
    rw [App.Operation.executions, List.append_nil]
    exact hP.form _ h
  | reload source =>
    rw [App.Operation.executions, List.append_nil]
    cases hr : app.reload source with
    | error b => simpa only [App.Operation.apply, hr] using h
    | ok result => simpa only [App.Operation.apply, hr] using hP.reload app h hr
  | currentScreen =>
    rw [App.Operation.executions, List.append_nil]
    exact hP.navigate _ h
  | settle => exact hP.settle app h
  | answer number outcome =>
    simp only [App.Operation.executions, App.Operation.apply, App.answer]
    cases ht : app.tasks.answer? number outcome with
    | none => simpa using h
    | some tasks => exact hP.settle { app with tasks } h

/-- A lasting property holds after every run if it held before. -/
theorem runFrom (hP : Lasting P) (h : P past app.context) (ops : List App.Operation) :
    P (past ++ app.history ops) (app.after ops).context := by
  induction ops generalizing past app with
  | nil => simpa [App.history, App.after] using h
  | cons op rest ih =>
    have hrest := ih (op.apply app) (hP.apply app h op)
    rwa [List.append_assoc] at hrest

/-- A lasting property that holds when an app starts holds after every run. -/
theorem run (hP : Lasting P) (h : P [] app.context) (ops : List App.Operation) :
    P (app.history ops) (app.after ops).context :=
  hP.runFrom app h ops

end Lasting

end Storyboard
