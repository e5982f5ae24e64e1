import Storyboard.Proofs.App.Regime

/-!
# Regimes kept step by step

What one action does decides what chains do. A regime that is kept by every single action
is stable, and every action of a run is performed within it, so what it says of contexts
holds between any two actions of a chain, too.
-/
namespace Storyboard

namespace Regime

/-- What an action did keeps within a regime. -/
structure Keeps (R : Regime) (step : Step) : Prop where
  context : R.context step.context
  effects : ∀ e ∈ step.effects, ∀ shown ∈ e.popup?, ∀ b, shown.Offers b → R.action b
  notices : ∀ n ∈ step.notices, R.notice n
  follow : ∀ b, step.next = .follow b → R.action b
  send : ∀ endpoint s, step.next = .send endpoint s →
    ∀ form allowance, R.submit (.ofAction endpoint form allowance s)

/-- A regime is kept by every action, and by what happens around them. -/
structure Stepwise (R : Regime) : Prop where
  step : ∀ {p a c}, R.performer p → R.action a → R.context c → R.Keeps (p.perform c a)
  branch : ∀ {r : RemoteSubmit}, R.submit r → ∀ outcome, ∀ a ∈ r.followUp outcome, R.action a
  cut : ∀ depth, R.notice (.depthExceeded depth)
  outcome : ∀ (r : RemoteSubmit) (outcome : Outcome), ∀ n ∈ r.outcomeNotices outcome, R.notice n
  form : ∀ {c : Context} (form : Form), R.context c → R.context { c with form }
  screen : ∀ {app : App}, R.performer app.performer → R.context app.context →
    R.context app.currentScreen.2.1.context ∧ ∀ n ∈ app.currentScreen.2.2, R.notice n
  listener : R.notice .listenerFailed

/-- An action was performed within a regime. -/
structure Executes (R : Regime) (e : Execution) : Prop where
  performer : R.performer e.performer
  action : R.action e.action
  before : R.context e.before
  after : R.context e.after

namespace Stepwise

variable {R : Regime}

section Chains

variable {p : Performer} {a : Action} {c : Context}

/-- A chain keeps within a regime, by induction on its allowance. -/
theorem allows_run (steps : R.Stepwise) (hp : R.performer p) (allowance : Nat) (ha : R.action a)
    (hc : R.context c) : R.Allows (p.run allowance a c) := by
  induction allowance generalizing a c with
  | zero => exact ⟨hc, nofun, nofun, List.forall_mem_singleton.mpr (steps.cut _)⟩
  | succ allowance ih =>
    obtain ⟨hcontext, heffects, hnotices, hfollow, hsend⟩ := steps.step hp ha hc
    unfold Performer.run
    dsimp only
    split
    · exact ⟨hcontext, nofun, List.forall_mem_append.mpr ⟨heffects, nofun⟩,
        List.forall_mem_append.mpr ⟨hnotices, nofun⟩⟩
    · rename_i b hnext
      have hrest := ih (hfollow b hnext) hcontext
      exact ⟨hrest.context, hrest.remote, List.forall_mem_append.mpr ⟨heffects, hrest.effects⟩,
        List.forall_mem_append.mpr ⟨hnotices, hrest.notices⟩⟩
    · rename_i endpoint s hnext
      refine ⟨hcontext, ?_, List.forall_mem_append.mpr ⟨heffects, nofun⟩,
        List.forall_mem_append.mpr ⟨hnotices, nofun⟩⟩
      rintro r ⟨⟩
      exact hsend endpoint s hnext _ _

/-- Every action of a chain is performed within a regime. -/
theorem executes_run (steps : R.Stepwise) (hp : R.performer p) (allowance : Nat)
    (ha : R.action a) (hc : R.context c) :
    ∀ e ∈ p.trace c (p.run allowance a c).performed, R.Executes e := by
  induction allowance generalizing a c with
  | zero => exact List.forall_mem_nil _
  | succ allowance ih =>
    obtain ⟨hcontext, -, -, hfollow, -⟩ := steps.step hp ha hc
    have hfirst : R.Executes ⟨p, a, c⟩ := ⟨hp, ha, hc, hcontext⟩
    unfold Performer.run
    dsimp only
    split
    · exact List.forall_mem_singleton.mpr hfirst
    · rename_i b hnext
      exact List.forall_mem_cons.mpr ⟨hfirst, ih (hfollow b hnext) hcontext⟩
    · exact List.forall_mem_singleton.mpr hfirst

variable {r : RemoteSubmit} (outcome : Outcome)

theorem allows_resume (steps : R.Stepwise) (hp : R.performer p) (hr : R.submit r)
    (hc : R.context c) : R.Allows (p.resume r outcome c) := by
  have houtcome := steps.outcome r outcome
  unfold Performer.resume
  cases hnext : r.followUp outcome with
  | none => exact ⟨hc, nofun, nofun, List.forall_mem_append.mpr ⟨houtcome, nofun⟩⟩
  | some b =>
    have hrun := steps.allows_run hp r.allowance (steps.branch hr outcome b hnext) hc
    exact ⟨hrun.context, hrun.remote, hrun.effects,
      List.forall_mem_append.mpr ⟨houtcome, hrun.notices⟩⟩

theorem executes_resume (steps : R.Stepwise) (hp : R.performer p) (hr : R.submit r)
    (hc : R.context c) : ∀ e ∈ p.trace c (p.resume r outcome c).performed, R.Executes e := by
  unfold Performer.resume
  cases hnext : r.followUp outcome with
  | none => exact List.forall_mem_nil _
  | some b => exact steps.executes_run hp r.allowance (steps.branch hr outcome b hnext) hc

end Chains

theorem stable (steps : R.Stepwise) : R.Stable where
  run hp ha hc := steps.allows_run hp _ ha hc
  resume outcome hp hr hc := steps.allows_resume outcome hp hr hc
  form := steps.form
  screen := steps.screen
  listener := steps.listener

variable {app : App}

theorem executes_runFully (steps : R.Stepwise) (h : R.Governs app) {a : Action} (ha : R.action a) :
    ∀ e ∈ app.executionsOf (app.performer.runFully a app.context), R.Executes e :=
  steps.executes_run h.performer _ ha h.context

theorem executes_inline (steps : R.Stepwise) (h : R.Governs app) (submitter : Submitter)
    {a : Action} (ha : R.action a) : ∀ e ∈ app.inlineExecutions submitter a, R.Executes e := by
  have hfirst := steps.stable.run h.performer ha h.context
  refine List.forall_mem_append.mpr ⟨steps.executes_runFully h ha, ?_⟩
  split
  · exact List.forall_mem_nil _
  · rename_i r hr
    have hsubmit := hfirst.remote r hr
    have hsecond := steps.allows_resume (submitter.send app.calls.length r.toPosting).outcome
      h.performer hsubmit hfirst.context
    refine List.forall_mem_append.mpr
      ⟨steps.executes_resume _ h.performer hsubmit hfirst.context, ?_⟩
    split
    · exact List.forall_mem_nil _
    · rename_i r' hr'
      unfold App.asideExecutions
      split
      · exact steps.executes_resume _ h.performer (hsecond.remote r' hr') hsecond.context
      · exact List.forall_mem_nil _

theorem executes_perform (steps : R.Stepwise) (h : R.Governs app) (carrier : Carrier)
    {a : Action} (ha : R.action a) : ∀ e ∈ app.performExecutions carrier a, R.Executes e := by
  cases carrier with
  | inline submitter => exact steps.executes_inline h submitter ha
  | scheduled => exact steps.executes_runFully h ha

theorem executes_handleAll (steps : R.Stepwise) (fuel : Nat) (h : R.Governs app) :
    ∀ e ∈ App.handleAllExecutions fuel app, R.Executes e := by
  induction fuel generalizing app with
  | zero => exact List.forall_mem_nil _
  | succ fuel ih =>
    unfold App.handleAllExecutions
    cases hready : app.tasks.ready with
    | nil => exact List.forall_mem_nil _
    | cons w rest =>
      obtain ⟨hw, htaken⟩ := h.taken hready
      refine List.forall_mem_append.mpr ⟨?_, ih (htaken.handle steps.stable hw).governs⟩
      cases w with
      | start r => exact List.forall_mem_nil _
      | granted r => exact List.forall_mem_nil _
      | answered r outcome => exact steps.executes_resume outcome h.performer hw h.context

/-- Every action of an operation is performed within a regime. -/
theorem executes_apply (steps : R.Stepwise) (h : R.Governs app) {op : App.Operation}
    (ha : R.Admits app op) : ∀ e ∈ op.executions app, R.Executes e := by
  cases op with
  | dispatch carrier data =>
    simp only [App.Operation.executions]
    cases haccept : Action.accept data with
    | error fault => exact List.forall_mem_nil _
    | ok intake =>
      obtain ⟨_ | action, notices⟩ := intake
      · exact List.forall_mem_nil _
      · exact steps.executes_perform h carrier ((ha.2 _ haccept).1 action rfl)
  | perform carrier action => exact steps.executes_perform h carrier ha.2
  | dismiss carrier index =>
    simp only [App.Operation.executions]
    cases hpopups : app.popups with
    | nil => exact List.forall_mem_nil _
    | cons shown rest =>
      obtain ⟨hshown, htaken⟩ := h.dismissed hpopups
      dsimp only
      cases haction : shown.action? index with
      | none => exact List.forall_mem_nil _
      | some action =>
        have hoffered := hshown action (shown.offers_of_action? haction)
        exact steps.executes_perform htaken carrier hoffered
  | setForm values => exact List.forall_mem_nil _
  | reload source => exact List.forall_mem_nil _
  | currentScreen => exact List.forall_mem_nil _
  | settle => exact steps.executes_handleAll _ h
  | answer number outcome =>
    simp only [App.Operation.executions]
    cases hanswer : app.tasks.answer? number outcome with
    | none => exact List.forall_mem_nil _
    | some tasks => exact steps.executes_handleAll _ (h.answered hanswer)

/-- Every action of a run is performed within a regime. -/
theorem executes_history (steps : R.Stepwise) {ops : List App.Operation}
    (admits : ∀ op ∈ ops, ∀ app, R.Governs app → R.Admits app op) (h : R.Governs app) :
    ∀ e ∈ app.history ops, R.Executes e := by
  induction ops generalizing app with
  | nil => exact List.forall_mem_nil _
  | cons op rest ih =>
    obtain ⟨hop, hrest⟩ := List.forall_mem_cons.mp admits
    have hnext := (h.apply steps.stable (hop app h)).1
    exact List.forall_mem_append.mpr ⟨steps.executes_apply h (hop app h), ih hrest hnext⟩

end Stepwise

end Regime

end Storyboard
