import Storyboard.Proofs.App.InlineCourse

/-!
# Regimes

A regime says what is known of everything an app runs: of the documents it runs under, of
the contexts, of the actions that can be dispatched, of the submits that are pending and of
what is said. It is stable when the few ways to go on keep within it; then an app that is
governed by it stays governed, whatever the host does within the regime, in any order and
under either carrier.
-/
namespace Storyboard

/-- A popup offers the actions behind its buttons. -/
def ShownPopup.Offers (shown : ShownPopup) (a : Action) : Prop :=
  ∃ button ∈ shown.buttons, button.action = some a

/-- The action of a pressed button is on offer. -/
theorem ShownPopup.offers_of_action? {shown : ShownPopup} {index : Int} {a : Action}
    (h : shown.action? index = some a) : shown.Offers a := by
  unfold ShownPopup.action? at h
  split at h
  · obtain ⟨button, hbutton, hbehind⟩ := Option.bind_eq_some_iff.mp h
    exact ⟨button, List.mem_of_getElem? hbutton, hbehind⟩
  · cases h

namespace Wakeup

def submit : Wakeup → RemoteSubmit
  | .start r => r
  | .granted r => r
  | .answered r _ => r

end Wakeup

namespace Tasks

/-- A property of all pending submits. -/
structure All (P : RemoteSubmit → Prop) (t : Tasks) : Prop where
  ready : ∀ w ∈ t.ready, P w.submit
  waiting : ∀ r ∈ t.waiting, P r
  openCalls : ∀ call ∈ t.openCalls, P call.submit

variable {P : RemoteSubmit → Prop} {t : Tasks}

theorem All.none : Tasks.none.All P := ⟨nofun, nofun, nofun⟩

theorem All.spawn (h : t.All P) {remote : Option RemoteSubmit} (hr : ∀ r ∈ remote, P r) :
    (t.spawn remote).All P := by
  cases remote with
  | none => exact h
  | some r =>
    refine ⟨fun w hw => ?_, h.waiting, h.openCalls⟩
    rcases List.mem_append.mp hw with hw | hw
    · exact h.ready w hw
    · rw [List.mem_singleton.mp hw]
      exact hr r rfl

/-- Taking a waiting submit out leaves the others. -/
theorem mem_of_takeWaiting {endpoint : String} {waiting others : List RemoteSubmit}
    {next : RemoteSubmit} (h : takeWaiting endpoint waiting = some (next, others)) :
    next ∈ waiting ∧ ∀ r ∈ others, r ∈ waiting := by
  induction waiting generalizing others with
  | nil => cases h
  | cons first rest ih =>
    unfold takeWaiting at h
    split at h
    · cases h
      exact ⟨List.mem_cons_self, fun r hr => List.mem_cons_of_mem _ hr⟩
    · cases htake : takeWaiting endpoint rest with
      | none =>
        rw [htake] at h
        cases h
      | some found =>
        obtain ⟨_, later⟩ := found
        rw [htake] at h
        cases h
        obtain ⟨hnext, hothers⟩ := ih htake
        refine ⟨List.mem_cons_of_mem _ hnext, fun r hr => ?_⟩
        rcases List.mem_cons.mp hr with rfl | hr
        · exact List.mem_cons_self
        · exact List.mem_cons_of_mem _ (hothers r hr)

theorem All.release (h : t.All P) (endpoint : String) : (t.release endpoint).All P := by
  unfold Tasks.release
  split
  · rename_i next others htake
    obtain ⟨hnext, hothers⟩ := mem_of_takeWaiting htake
    refine ⟨fun w hw => ?_, fun r hr => h.waiting r (hothers r hr), h.openCalls⟩
    rcases List.mem_append.mp hw with hw | hw
    · exact h.ready w hw
    · rw [List.mem_singleton.mp hw]
      exact h.waiting next hnext
  · exact ⟨h.ready, h.waiting, h.openCalls⟩

theorem All.answer (h : t.All P) {number : Nat} {outcome : Outcome} {next : Tasks}
    (ha : t.answer? number outcome = some next) : next.All P := by
  unfold answer? at ha
  obtain ⟨call, hcall, rfl⟩ := Option.map_eq_some_iff.mp ha
  refine ⟨fun w hw => ?_, h.waiting, fun other hother => ?_⟩
  · rcases List.mem_append.mp hw with hw | hw
    · exact h.ready w hw
    · rw [List.mem_singleton.mp hw]
      exact h.openCalls call (List.mem_of_find?_eq_some hcall)
  · exact h.openCalls other (List.mem_of_mem_filter hother)

end Tasks

namespace App

/-- Listeners say nothing but that they fail. -/
theorem publish_notices (app : App) (effects : List Effect) :
    ∀ n ∈ (app.publish effects).2.notices, n = .listenerFailed := by
  have hdeliver : ∀ listeners : List Listener,
      ∀ n ∈ (deliver effects listeners).notices, n = .listenerFailed := by
    intro listeners
    induction listeners with
    | nil => nofun
    | cons l rest ih =>
      refine List.forall_mem_append.mpr ⟨fun n hn => ?_, ih⟩
      split at hn
      · cases hn
      · exact List.mem_singleton.mp hn
  unfold publish
  dsimp only
  split
  · nofun
  · exact hdeliver app.listeners

/-- What is said during an operation. -/
def Operation.notices (app : App) : Operation → List Notice
  | .dispatch carrier data =>
    match app.dispatch carrier data with
    | .ok (_, report) => report.notices
    | .error _ => []
  | .perform carrier action => (app.perform carrier action).2.notices
  | .dismiss carrier index => (app.dismiss carrier index).2.notices
  | .setForm _ => []
  | .reload source =>
    match app.reload source with
    | .ok (_, _, notices) => notices
    | .error _ => []
  | .currentScreen => app.currentScreen.2.2
  | .settle => app.settle.2.notices
  | .answer number outcome => (app.answer number outcome).2.2.notices

/-- What is said during a run, in order. -/
def said (app : App) : List Operation → List Notice
  | [] => []
  | op :: rest => op.notices app ++ said (op.apply app) rest

end App

/-- What is known of everything an app runs. -/
structure Regime where
  performer : Performer → Prop
  context : Context → Prop
  action : Action → Prop
  submit : RemoteSubmit → Prop
  notice : Notice → Prop

namespace Regime

/-- A chain keeps within a regime. -/
structure Allows (R : Regime) (chain : Chain) : Prop where
  context : R.context chain.context
  remote : ∀ r ∈ chain.remote, R.submit r
  effects : ∀ e ∈ chain.effects, ∀ shown ∈ e.popup?, ∀ a, shown.Offers a → R.action a
  notices : ∀ n ∈ chain.notices, R.notice n

/-- The ways to go on keep within a regime. -/
structure Stable (R : Regime) : Prop where
  run : ∀ {p a c}, R.performer p → R.action a → R.context c → R.Allows (p.runFully a c)
  resume : ∀ {p r c} (outcome : Outcome), R.performer p → R.submit r → R.context c →
    R.Allows (p.resume r outcome c)
  form : ∀ {c : Context} (form : Form), R.context c → R.context { c with form }
  screen : ∀ {app : App}, R.performer app.performer → R.context app.context →
    R.context app.currentScreen.2.1.context ∧ ∀ n ∈ app.currentScreen.2.2, R.notice n
  listener : R.notice .listenerFailed

/-- An app is governed by a regime. -/
structure Governs (R : Regime) (app : App) : Prop where
  performer : R.performer app.performer
  context : R.context app.context
  popups : ∀ shown ∈ app.popups, ∀ a, shown.Offers a → R.action a
  pending : app.tasks.All R.submit

/-- An app and what was said on the way to it keep within a regime. -/
structure Passes (R : Regime) (result : App × Report) : Prop where
  governs : R.Governs result.1
  notices : ∀ n ∈ result.2.notices, R.notice n

/-- What the other side says keeps within a regime. -/
def Hears (R : Regime) : Carrier → Prop
  | .inline submitter => ∀ number posting, ∀ n ∈ (submitter.send number posting).notices, R.notice n
  | .scheduled => True

/-- An operation brings nothing into an app from outside a regime. -/
def Admits (R : Regime) (app : App) : App.Operation → Prop
  | .dispatch carrier data =>
    R.Hears carrier ∧ ∀ intake, Action.accept data = .ok intake →
      (∀ a ∈ intake.action, R.action a) ∧ ∀ n ∈ intake.notices, R.notice n
  | .perform carrier action => R.Hears carrier ∧ R.action action
  | .dismiss carrier _ => R.Hears carrier
  | .reload source => ∀ v next notices, app.reload source = .ok (v, next, notices) →
      R.Governs next ∧ ∀ n ∈ notices, R.notice n
  | _ => True

variable {R : Regime} {app : App}

namespace Allows

variable {first second : Chain}

theorem saying (h : R.Allows first) {notices : List Notice} (hn : ∀ n ∈ notices, R.notice n) :
    R.Allows (first.saying notices) :=
  ⟨h.context, h.remote, h.effects, List.forall_mem_append.mpr ⟨h.notices, hn⟩⟩

theorem followedBy (h : R.Allows first) (hsecond : R.Allows second) :
    R.Allows (first.followedBy second) :=
  ⟨hsecond.context, hsecond.remote, List.forall_mem_append.mpr ⟨h.effects, hsecond.effects⟩,
    List.forall_mem_append.mpr ⟨h.notices, hsecond.notices⟩⟩

/-- A course through interludes that keep within a regime. -/
theorem course (stable : R.Stable) {p : Performer} {world : List Interlude}
    (said : ∀ between ∈ world, ∀ posting, ∀ n ∈ between.said posting, R.notice n)
    (performer : ∀ between ∈ world, R.performer { p with definition := between.definition })
    (change : ∀ between ∈ world, ∀ c, R.context c → R.context (between.change c))
    {chain : Chain} (h : R.Allows chain) : R.Allows (p.course world chain) := by
  induction world generalizing chain with
  | nil => exact h
  | cons between later ih =>
    obtain ⟨hsaid, said⟩ := List.forall_mem_cons.mp said
    obtain ⟨hperformer, performer⟩ := List.forall_mem_cons.mp performer
    obtain ⟨hchange, change⟩ := List.forall_mem_cons.mp change
    cases hr : chain.remote with
    | none =>
      rw [Performer.course_of_no_remote _ _ hr]
      exact h
    | some r =>
      rw [Performer.course_cons hr]
      have hhere := h.saying (hsaid r.toPosting)
      cases between.outcome r.toPosting with
      | none => exact hhere
      | some outcome =>
        refine ih said performer change (hhere.followedBy ?_)
        exact stable.resume outcome hperformer (h.remote r hr) (hchange _ h.context)

end Allows

namespace Governs

/-- Publishing what a chain led to. -/
theorem publish (stable : R.Stable) (h : R.Governs app) {effects : List Effect}
    (heffects : ∀ e ∈ effects, ∀ shown ∈ e.popup?, ∀ a, shown.Offers a → R.action a) :
    R.Passes (app.publish effects) := by
  refine ⟨⟨h.performer, h.context, ?_, h.pending⟩, ?_⟩
  · refine List.forall_mem_append.mpr ⟨h.popups, fun shown hshown => ?_⟩
    obtain ⟨e, he, hpopup⟩ := List.mem_filterMap.mp hshown
    exact heffects e he shown hpopup
  · intro n hn
    rw [app.publish_notices effects n hn]
    exact stable.listener

/-- A chain that a governed app ran, with its submit left to the tasks or not. -/
theorem ran (stable : R.Stable) (h : R.Governs app) {chain : Chain} (hchain : R.Allows chain)
    {tasks : Tasks} (htasks : tasks.All R.submit) (calls : List RemoteSubmit) :
    let next : App := { app with context := chain.context, tasks, calls }
    R.Passes ((next.publish chain.effects).1,
      .said chain.notices ++ (next.publish chain.effects).2) := by
  intro next
  have hnext : R.Governs next := ⟨h.performer, hchain.context, h.popups, htasks⟩
  have hpublished := hnext.publish stable hchain.effects
  exact ⟨hpublished.governs, List.forall_mem_append.mpr ⟨hchain.notices, hpublished.notices⟩⟩

theorem perform (stable : R.Stable) (h : R.Governs app) {carrier : Carrier}
    (hears : R.Hears carrier) {action : Action} (ha : R.action action) :
    R.Passes (app.perform carrier action) := by
  have hfirst := stable.run h.performer ha h.context
  cases carrier with
  | scheduled => exact h.ran stable hfirst (h.pending.spawn hfirst.remote) app.calls
  | inline submitter =>
    have hworld : ∀ between ∈ app.inlineWorld submitter,
        (∀ posting, ∀ n ∈ between.said posting, R.notice n) ∧
          between.definition = app.definition ∧ between.change = id := by
      refine List.forall_mem_cons.mpr ⟨⟨fun posting => hears _ posting, rfl, rfl⟩,
        List.forall_mem_singleton.mpr
          ⟨fun posting n hn => hears (app.calls.length + 1) posting n ?_, rfl, rfl⟩⟩
      dsimp only [Submitter.unwaited] at hn
      split at hn
      · exact hn
      · exact List.mem_append_left _ hn
    have hcourse : R.Allows (app.inlineCourse submitter action) := by
      refine Allows.course stable (fun between hb => (hworld between hb).1)
        (fun between hb => ?_) (fun between hb c hc => ?_) hfirst
      · rw [(hworld between hb).2.1]
        exact h.performer
      · rw [(hworld between hb).2.2]
        exact hc
    have hran := h.ran stable hcourse h.pending
      (app.calls ++ app.inlineRequests submitter action)
    change R.Passes (app.performInline submitter action)
    rw [App.performInline_eq]
    exact hran

theorem openCall (h : R.Governs app) {r : RemoteSubmit} (hr : R.submit r) :
    R.Governs (app.openCall r) := by
  refine ⟨h.performer, h.context, h.popups, h.pending.ready, h.pending.waiting, ?_⟩
  exact List.forall_mem_append.mpr ⟨h.pending.openCalls, List.forall_mem_singleton.mpr hr⟩

theorem start (h : R.Governs app) {r : RemoteSubmit} (hr : R.submit r) :
    R.Governs (app.start r) := by
  unfold App.start
  split
  · split
    · refine ⟨h.performer, h.context, h.popups, h.pending.ready, ?_, h.pending.openCalls⟩
      exact List.forall_mem_append.mpr ⟨h.pending.waiting, List.forall_mem_singleton.mpr hr⟩
    · have hheld : R.Governs
          { app with tasks := { app.tasks with held := app.tasks.held ++ [r.endpoint] } } :=
        ⟨h.performer, h.context, h.popups, h.pending.ready, h.pending.waiting, h.pending.openCalls⟩
      exact hheld.openCall hr
  · exact h.openCall hr

theorem release (h : R.Governs app) (r : RemoteSubmit) : R.Governs (app.release r) := by
  unfold App.release
  split
  · exact ⟨h.performer, h.context, h.popups, h.pending.release _⟩
  · exact h

theorem conclude (stable : R.Stable) (h : R.Governs app) {r : RemoteSubmit} (hr : R.submit r)
    (outcome : Outcome) : R.Passes (app.conclude r outcome) := by
  have hreleased := h.release r
  have hchain := stable.resume outcome hreleased.performer hr hreleased.context
  exact hreleased.ran stable hchain (hreleased.pending.spawn hchain.remote) _

theorem handle (stable : R.Stable) (h : R.Governs app) {w : Wakeup} (hw : R.submit w.submit) :
    R.Passes (app.handle w) := by
  cases w with
  | start r => exact ⟨h.start hw, List.forall_mem_nil _⟩
  | granted r => exact ⟨h.openCall hw, List.forall_mem_nil _⟩
  | answered r outcome => exact h.conclude stable hw outcome

/-- The first wake-up is taken to be handled. -/
theorem taken (h : R.Governs app) {w : Wakeup} {rest : List Wakeup}
    (hready : app.tasks.ready = w :: rest) :
    R.submit w.submit ∧ R.Governs { app with tasks := { app.tasks with ready := rest } } := by
  have hpending := h.pending.ready
  rw [hready] at hpending
  obtain ⟨hw, hrest⟩ := List.forall_mem_cons.mp hpending
  exact ⟨hw, h.performer, h.context, h.popups, hrest, h.pending.waiting, h.pending.openCalls⟩

theorem handleAll (stable : R.Stable) (fuel : Nat) (h : R.Governs app) :
    R.Passes (App.handleAll fuel app) := by
  induction fuel generalizing app with
  | zero => exact ⟨h, List.forall_mem_nil _⟩
  | succ fuel ih =>
    unfold App.handleAll
    cases hready : app.tasks.ready with
    | nil => exact ⟨h, List.forall_mem_nil _⟩
    | cons w rest =>
      obtain ⟨hw, htaken⟩ := h.taken hready
      have hhandled := htaken.handle stable hw
      have hothers := ih hhandled.governs
      exact ⟨hothers.governs, List.forall_mem_append.mpr ⟨hhandled.notices, hothers.notices⟩⟩

theorem settle (stable : R.Stable) (h : R.Governs app) : R.Passes app.settle :=
  h.handleAll stable _

/-- The shown popup is taken away. -/
theorem dismissed (h : R.Governs app) {shown : ShownPopup} {rest : List ShownPopup}
    (hpopups : app.popups = shown :: rest) :
    (∀ a, shown.Offers a → R.action a) ∧ R.Governs { app with popups := rest } := by
  have hall := h.popups
  rw [hpopups] at hall
  obtain ⟨hshown, hrest⟩ := List.forall_mem_cons.mp hall
  exact ⟨hshown, h.performer, h.context, hrest, h.pending⟩

theorem dismiss (stable : R.Stable) (h : R.Governs app) {carrier : Carrier}
    (hears : R.Hears carrier) (index : Int) : R.Passes (app.dismiss carrier index) := by
  unfold App.dismiss
  cases hpopups : app.popups with
  | nil => exact ⟨h, List.forall_mem_nil _⟩
  | cons shown rest =>
    obtain ⟨hshown, htaken⟩ := h.dismissed hpopups
    cases ha : shown.action? index with
    | none =>
      have hsilent : R.Passes ({ app with popups := rest }, .silent) :=
        ⟨htaken, List.forall_mem_nil _⟩
      simpa only [ha] using hsilent
    | some action =>
      simpa only [ha] using htaken.perform stable hears (hshown action (shown.offers_of_action? ha))

/-- An open call is answered. -/
theorem answered (h : R.Governs app) {number : Nat} {outcome : Outcome} {tasks : Tasks}
    (hanswer : app.tasks.answer? number outcome = some tasks) : R.Governs { app with tasks } :=
  ⟨h.performer, h.context, h.popups, h.pending.answer hanswer⟩

/-- An operation within a regime keeps an app governed by it. -/
theorem apply (stable : R.Stable) (h : R.Governs app) {op : App.Operation}
    (ha : R.Admits app op) : R.Governs (op.apply app) ∧ ∀ n ∈ op.notices app, R.notice n := by
  cases op with
  | dispatch carrier data =>
    obtain ⟨hears, hintake⟩ := ha
    simp only [App.Operation.apply, App.Operation.notices, App.dispatch]
    cases haccept : Action.accept data with
    | error fault => exact ⟨h, List.forall_mem_nil _⟩
    | ok intake =>
      obtain ⟨haction, hnotices⟩ := hintake intake haccept
      obtain ⟨_ | action, notices⟩ := intake
      · exact ⟨h, hnotices⟩
      · have hnext := h.perform stable hears (haction action rfl)
        exact ⟨hnext.governs, hnext.notices⟩
  | perform carrier action =>
    have hnext := h.perform stable ha.1 ha.2
    exact ⟨hnext.governs, hnext.notices⟩
  | dismiss carrier index =>
    have hnext := h.dismiss stable ha index
    exact ⟨hnext.governs, hnext.notices⟩
  | setForm values =>
    exact ⟨⟨h.performer, stable.form _ h.context, h.popups, h.pending⟩, List.forall_mem_nil _⟩
  | reload source =>
    simp only [App.Operation.apply, App.Operation.notices]
    cases hr : app.reload source with
    | error b => exact ⟨h, List.forall_mem_nil _⟩
    | ok result => exact ha _ _ _ hr
  | currentScreen =>
    obtain ⟨hcontext, hnotices⟩ := stable.screen h.performer h.context
    exact ⟨⟨h.performer, hcontext, h.popups, h.pending⟩, hnotices⟩
  | settle =>
    have hnext := h.settle stable
    exact ⟨hnext.governs, hnext.notices⟩
  | answer number outcome =>
    simp only [App.Operation.apply, App.Operation.notices, App.answer]
    cases hanswer : app.tasks.answer? number outcome with
    | none => exact ⟨h, List.forall_mem_nil _⟩
    | some tasks =>
      have hnext := (h.answered hanswer).settle stable
      exact ⟨hnext.governs, hnext.notices⟩

/-- A run within a regime keeps an app governed by it. -/
theorem run (stable : R.Stable) {ops : List App.Operation}
    (admits : ∀ op ∈ ops, ∀ app, R.Governs app → R.Admits app op) (h : R.Governs app) :
    R.Governs (app.after ops) ∧ ∀ n ∈ app.said ops, R.notice n := by
  induction ops generalizing app with
  | nil => exact ⟨h, List.forall_mem_nil _⟩
  | cons op rest ih =>
    obtain ⟨hop, hrest⟩ := List.forall_mem_cons.mp admits
    obtain ⟨hnext, hsaid⟩ := h.apply stable (hop app h)
    obtain ⟨hafter, hothers⟩ := ih hrest hnext
    exact ⟨hafter, List.forall_mem_append.mpr ⟨hsaid, hothers⟩⟩

end Governs

end Regime

end Storyboard
