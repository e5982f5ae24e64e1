import Storyboard.Proofs.App.Regime

/-!
# Trails

What is seen of a run: the actions that were performed, what was reported, and the app it led
to. What holds of a trail and is kept by every wake-up holds when the scheduler is done.
-/
namespace Storyboard

namespace App

/-- What listeners receive during an operation. -/
def Operation.deliveries (app : App) : Operation → List Delivery
  | .dispatch carrier data =>
    match app.dispatch carrier data with
    | .ok (_, report) => report.deliveries
    | .error _ => []
  | .perform carrier action => (app.perform carrier action).2.deliveries
  | .dismiss carrier index => (app.dismiss carrier index).2.deliveries
  | .settle => app.settle.2.deliveries
  | .answer number outcome => (app.answer number outcome).2.2.deliveries
  | _ => []

/-- The report of an operation. -/
def Operation.report (app : App) (op : Operation) : Report := ⟨op.notices app, op.deliveries app⟩

/-- The report of a run. -/
def report (app : App) : List Operation → Report
  | [] => .silent
  | op :: rest => op.report app ++ report (op.apply app) rest

end App

/-- What is seen of a run: the actions that were performed, what was reported, and the app
it led to. -/
structure Trail where
  performed : List Action
  report : Report
  app : App

namespace Trail

/-- A trail that goes on. -/
def go (t : Trail) (executions : List Execution) (report : Report) (app : App) : Trail :=
  ⟨t.performed ++ executions.map (·.action), t.report ++ report, app⟩

theorem go_nothing (t : Trail) (app : App) : t.go [] .silent app = { t with app } := by
  simp [go]

theorem go_go (t : Trail) (first second : List Execution) (report other : Report)
    (between app : App) :
    (t.go first report between).go second other app =
      t.go (first ++ second) (report ++ other) app := by
  simp [go, Report.append_assoc]

end Trail

/-- The trail of a run. -/
def App.trail (app : App) (ops : List App.Operation) : Trail :=
  ⟨(app.history ops).map (·.action), app.report ops, app.after ops⟩

theorem App.trail_cons (app : App) (op : Operation) (rest : List Operation) :
    app.trail (op :: rest) =
      (app.trail [op]).go ((op.apply app).history rest) ((op.apply app).report rest)
        ((op.apply app).after rest) := by
  simp [trail, Trail.go, history, report, after]

/-- What every wake-up keeps of a trail holds after any number of them. -/
theorem Trail.handleAll {P : Trail → Prop}
    (step : ∀ (t : Trail) (w : Wakeup) (rest : List Wakeup), P t → t.app.tasks.ready = w :: rest →
      let taken : App := { t.app with tasks := { t.app.tasks with ready := rest } }
      P (t.go (taken.wakeupExecutions w) (taken.handle w).2 (taken.handle w).1))
    (fuel : Nat) {t : Trail} (h : P t) :
    P (t.go (App.handleAllExecutions fuel t.app) (App.handleAll fuel t.app).2
      (App.handleAll fuel t.app).1) := by
  induction fuel generalizing t with
  | zero =>
    rw [App.handleAllExecutions, App.handleAll, go_nothing]
    exact h
  | succ fuel ih =>
    cases hready : t.app.tasks.ready with
    | nil =>
      simp only [App.handleAllExecutions, App.handleAll, hready, go_nothing]
      exact h
    | cons w rest =>
      have hrest := ih (step t w rest h hready)
      rw [go_go] at hrest
      simp only [App.handleAllExecutions, App.handleAll, hready]
      exact hrest

end Storyboard
