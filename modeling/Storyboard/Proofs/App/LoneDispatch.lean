import Storyboard.Proofs.App.Threads

/-!
# A dispatch on its own

A host may dispatch one action and attend to the app from then on: it lets the scheduler
work and answers requests, and fills in the form, looks at screens and reloads the document
meanwhile. A single chain then accounts for everything that comes of the dispatch.
-/
namespace Storyboard

/-- What a report says about chains that were cut. -/
def Report.warnings (report : Report) : List Notice := report.notices.filter Notice.isDepthWarning

theorem Report.warnings_append (a b : Report) : (a ++ b).warnings = a.warnings ++ b.warnings :=
  List.filter_append ..

/-- What goes on behind a chain, if the chain did not end. -/
structure Chain.Extends (chain later : Chain) : Prop where
  performed : chain.performed <+: later.performed
  ended : chain.remote = none → later = chain

namespace Chain.Extends

theorem refl (chain : Chain) : chain.Extends chain := ⟨List.prefix_rfl, fun _ => rfl⟩

theorem trans {first second third : Chain} (h : first.Extends second) (h' : second.Extends third) :
    first.Extends third := by
  refine ⟨h.performed.trans h'.performed, fun hended => ?_⟩
  have hsame := h.ended hended
  rw [h'.ended (hsame ▸ hended), hsame]

/-- The follow-up of a submit goes on behind its chain. -/
theorem followedBy {first : Chain} {r : RemoteSubmit} (hr : first.remote = some r)
    (second : Chain) : first.Extends (first.followedBy second) :=
  ⟨List.prefix_append _ _, fun hended => absurd (hr.symm.trans hended) (Option.some_ne_none r)⟩

end Chain.Extends

namespace App

/-- An operation that leaves dispatches alone. -/
inductive Operation.Aside : Operation → Prop
  | setForm (values : Json) : Aside (.setForm values)
  | reload (source : Source) : Aside (.reload source)
  | currentScreen : Aside .currentScreen

/-- An operation that dispatches nothing. -/
inductive Operation.Attends : Operation → Prop
  | aside {op : Operation} (aside : op.Aside) : Attends op
  | settle : Attends .settle
  | answer (number : Nat) (outcome : Outcome) : Attends (.answer number outcome)

/-- Listeners do not speak of chains. -/
theorem publish_warnings (app : App) (effects : List Effect) :
    (app.publish effects).2.warnings = [] := by
  refine List.filter_eq_nil_iff.mpr fun n hn => ?_
  rw [app.publish_notices effects n hn]
  exact Bool.false_ne_true

/-- What listeners receive is up to the listeners. -/
theorem publish_report {app other : App} (h : app.listeners = other.listeners)
    (effects : List Effect) : (app.publish effects).2 = (other.publish effects).2 := by
  unfold publish
  rw [h]

/-- Looking at a screen says nothing about chains. -/
theorem currentScreen_warnings (app : App) :
    app.currentScreen.2.2.filter Notice.isDepthWarning = [] := by
  simp only [currentScreen, resolve, Definition.resolve]
  split
  · split
    · rfl
    · split <;> rfl
  · rfl

/-- Neither does the check of a document. -/
theorem ofSource_warnings {limit : Int} {source : Source} {v : Validation}
    (h : Validation.ofSource limit source = .ok v) :
    v.notices.filter Notice.isDepthWarning = [] := by
  have hdangling : ∀ refs : List Reference,
      (danglingNotices refs).filter Notice.isDepthWarning = [] := by
    intro refs
    unfold danglingNotices
    split <;> rfl
  unfold Validation.ofSource at h
  split at h
  · cases h
  · cases h
    rfl
  · unfold Validation.ofJson at h
    split at h
    · cases h
      rfl
    · split at h
      · cases h
      · cases h
        exact hdangling _

theorem reload_warnings {app next : App} {source : Source} {v : Validation}
    {notices : List Notice} (h : app.reload source = .ok (v, next, notices)) :
    notices.filter Notice.isDepthWarning = [] := by
  unfold reload at h
  split at h
  · cases h
  · rename_i hsource
    have hnone := ofSource_warnings hsource
    split at h
    · cases h
      rw [List.filter_append, hnone]
      rfl
    · cases h
      exact hnone

/-- The chain behind which a wake-up is handled. -/
def prolong (app : App) (chain : Chain) : Wakeup → Chain
  | .answered r outcome => chain.followedBy (app.performer.resume r outcome app.context)
  | _ => chain

end App

/-- A trail, from the dispatch of an action on, is what a chain did. -/
structure Sole (start : App) (action : Action) (chain : Chain) (t : Trail) : Prop where
  settings : t.app.settings = start.settings
  verifier : t.app.verifier = start.verifier
  listeners : t.app.listeners = start.listeners
  popups : t.app.popups = (start.publish chain.effects).1.popups
  pending : t.app.tasks.unfinished = chain.remote.toList
  performed : t.performed = chain.performed
  deliveries : t.report.deliveries = (start.publish chain.effects).2.deliveries
  warnings : t.report.warnings = chain.warnings
  linear : chain.Linear start.settings.maxActionDepth.depth (· = action)
  cutOnce : start.performer.Quiet → chain.CutOnce

theorem eq_toList_of_perm {α : Type} {o : Option α} {l : List α} (h : l.Perm o.toList) :
    l = o.toList := by
  cases o with
  | none => exact h.eq_nil
  | some a => exact List.perm_singleton.mp h

namespace Sole

variable {start : App} {action : Action} {chain : Chain} {t : Trail}

/-- A dispatch in an idle app. -/
theorem dispatched (idle : start.tasks = .none) (action : Action) :
    Sole start action (start.performer.runFully action start.context)
      (start.trail [.perform .scheduled action]) := by
  have hlinear := start.performer.linear_run start.settings.maxActionDepth.depth action
    start.context
  have hpending := start.tasks.unfinished_spawn
    (start.performer.runFully action start.context).remote
  have hnone : start.tasks.unfinished = [] := by rw [idle]; rfl
  rw [hnone, List.append_nil] at hpending
  have hreport : start.report [.perform .scheduled action] =
      (start.performScheduled action).2 := Report.append_silent _
  have hperformed : (start.history [.perform .scheduled action]).map (·.action) =
      (start.performer.runFully action start.context).performed := by
    rw [App.history, App.history, List.append_nil]
    exact App.trace_actions _ _ _
  refine ⟨rfl, rfl, rfl, rfl, eq_toList_of_perm hpending, hperformed, ?_, ?_, hlinear,
    fun quiet => Performer.cutOnce_run quiet _ action start.context⟩
  · rw [App.trail, hreport]
    rfl
  · rw [App.trail, hreport, App.performScheduled_eq, App.absorb, Report.warnings_append,
      App.publish_warnings, List.append_nil]
    rfl

/-- The app moved on, with the same submits pending. -/
theorem moved (h : Sole start action chain t) {next : App}
    (settings : next.settings = t.app.settings) (verifier : next.verifier = t.app.verifier)
    (listeners : next.listeners = t.app.listeners) (popups : next.popups = t.app.popups)
    (pending : next.tasks.unfinished.Perm t.app.tasks.unfinished) :
    Sole start action chain { t with app := next } := by
  rw [h.pending] at pending
  exact ⟨settings.trans h.settings, verifier.trans h.verifier, listeners.trans h.listeners,
    popups.trans h.popups, eq_toList_of_perm pending, h.performed, h.deliveries,
    h.warnings, h.linear, h.cutOnce⟩

/-- Something was said that is not about chains. -/
theorem said (h : Sole start action chain t) {notices : List Notice}
    (quiet : notices.filter Notice.isDepthWarning = []) :
    Sole start action chain { t with report := t.report ++ .said notices } := by
  refine { h with deliveries := ?_, warnings := ?_ }
  · rw [Report.append_deliveries, Report.said, List.append_nil]
    exact h.deliveries
  · have hsaid : (Report.said notices).warnings = [] := quiet
    rw [Report.warnings_append, hsaid, List.append_nil]
    exact h.warnings

/-- Only one submit is pending, so a wake-up is about that one. -/
theorem taken (h : Sole start action chain t) {w : Wakeup} {rest : List Wakeup}
    (hready : t.app.tasks.ready = w :: rest) :
    chain.remote = some w.submit ∧
      ({ t.app with tasks := { t.app.tasks with ready := rest } } : App).tasks.unfinished = [] := by
  have hpending := h.pending
  simp only [Tasks.unfinished_eq, hready, List.map_cons, List.cons_append] at hpending ⊢
  cases hr : chain.remote with
  | none =>
    rw [hr] at hpending
    cases hpending
  | some r =>
    rw [hr] at hpending
    obtain ⟨hsubmit, hrest⟩ := List.cons.inj hpending
    exact ⟨congrArg some hsubmit.symm, hrest⟩

/-- The follow-up of the submit that was pending. -/
theorem absorb (h : Sole start action chain t) {r : RemoteSubmit}
    (hr : chain.remote = some r) {tasks : Tasks} (none : tasks.unfinished = []) {second : Chain}
    (linear : second.Linear r.allowance fun b => ∃ o, b ∈ r.followUp o)
    (cutOnce : start.performer.Quiet → second.CutOnce) {executions : List Execution}
    (hexecutions : executions.map (·.action) = second.performed) :
    let next : App := { t.app with tasks }
    Sole start action (chain.followedBy second)
      (t.go executions (next.absorb second).2 (next.absorb second).1) := by
  intro next
  obtain ⟨hnone, -⟩ := h.linear.pending r hr
  have hpopups := h.popups
  have hdeliveries := h.deliveries
  rw [hnone, App.publish_nil] at hpopups hdeliveries
  have heffects : (chain.followedBy second).effects = second.effects := by
    rw [Chain.followedBy, hnone, List.nil_append]
  have hpending := tasks.unfinished_spawn second.remote
  rw [none, List.append_nil] at hpending
  refine ⟨h.settings, h.verifier, h.listeners, ?_, eq_toList_of_perm hpending, ?_, ?_, ?_,
    h.linear.followedBy hr linear, fun quiet => ?_⟩
  · rw [heffects]
    exact congrArg (· ++ second.effects.filterMap Effect.popup?) hpopups
  · rw [Trail.go, hexecutions, h.performed]
    rfl
  · have hreport := App.publish_report h.listeners second.effects
    rw [heffects, ← hreport, Trail.go, Report.append_deliveries, hdeliveries]
    rfl
  · rw [Trail.go, Report.warnings_append, h.warnings, Chain.warnings_followedBy, App.absorb,
      Report.warnings_append, App.publish_warnings, List.append_nil]
    rfl
  · exact (h.cutOnce quiet).followedBy (hr ▸ rfl) (cutOnce quiet)

/-- Handling a wake-up. -/
theorem handle (h : Sole start action chain t) {w : Wakeup} {rest : List Wakeup}
    (hready : t.app.tasks.ready = w :: rest) :
    let taken : App := { t.app with tasks := { t.app.tasks with ready := rest } }
    Sole start action (taken.prolong chain w)
      (t.go (taken.wakeupExecutions w) (taken.handle w).2 (taken.handle w).1) := by
  intro taken
  obtain ⟨hr, hnone⟩ := h.taken hready
  have hwaiting : [w.submit].Perm t.app.tasks.unfinished := by
    rw [h.pending, hr]
    exact .refl _
  cases w with
  | start r =>
    have hpending := taken.unfinished_start r
    rw [hnone] at hpending
    rw [App.wakeupExecutions, App.handle, Trail.go_nothing, App.start_eq]
    exact h.moved rfl rfl rfl rfl (hpending.trans hwaiting)
  | granted r =>
    have hpending := taken.unfinished_openCall r
    rw [hnone] at hpending
    rw [App.wakeupExecutions, App.handle, Trail.go_nothing]
    exact h.moved rfl rfl rfl rfl (hpending.trans hwaiting)
  | answered r outcome =>
    have hreleased := taken.unfinished_release r
    rw [hnone] at hreleased
    have hquiet : start.performer.Quiet → taken.performer.Quiet := fun quiet =>
      quiet.of_verifier h.verifier
    rw [App.handle, App.conclude_eq, App.release_eq]
    exact h.absorb hr hreleased.eq_nil (Performer.linear_resume _ r outcome _)
      (fun quiet => Performer.cutOnce_resume (hquiet quiet) r outcome _) (App.trace_actions _ _ _)

theorem handleAll (fuel : Nat) (h : Sole start action chain t) :
    ∃ later, chain.Extends later ∧
      Sole start action later
        (t.go (App.handleAllExecutions fuel t.app) (App.handleAll fuel t.app).2
          (App.handleAll fuel t.app).1) := by
  refine Trail.handleAll (P := fun t => ∃ later, chain.Extends later ∧ Sole start action later t)
    ?_ fuel ⟨chain, .refl chain, h⟩
  rintro t w rest ⟨between, hextends, hbetween⟩ hready
  refine ⟨_, hextends.trans ?_, hbetween.handle hready⟩
  cases w with
  | start r => exact .refl between
  | granted r => exact .refl between
  | answered r outcome => exact .followedBy (hbetween.taken hready).1 _

theorem settle (h : Sole start action chain t) :
    ∃ later, chain.Extends later ∧
      Sole start action later (t.go t.app.settleExecutions t.app.settle.2 t.app.settle.1) :=
  h.handleAll _

/-- The only call is answered. -/
theorem answered (h : Sole start action chain t) {number : Nat} {outcome : Outcome}
    {tasks : Tasks} (hanswer : t.app.tasks.answer? number outcome = some tasks) :
    Sole start action chain { t with app := { t.app with tasks } } := by
  obtain ⟨dropped, hpending⟩ := Tasks.unfinished_answer hanswer
  have hone : t.app.tasks.unfinished.length ≤ 1 := by
    rw [h.pending]
    cases chain.remote <;> simp
  have hmore : 1 ≤ tasks.unfinished.length := by
    obtain ⟨call, -, rfl⟩ := Option.map_eq_some_iff.mp hanswer
    simp only [Tasks.unfinished_eq, List.map_append, List.length_append, List.map_singleton,
      List.length_singleton]
    omega
  have hlength := hpending.length_eq
  rw [List.length_append] at hlength
  have hnone : dropped = [] := List.eq_nil_of_length_eq_zero (by omega)
  rw [hnone, List.append_nil] at hpending
  exact h.moved rfl rfl rfl rfl hpending.symm

/-- An operation that leaves the dispatch alone. -/
theorem aside (h : Sole start action chain t) {op : App.Operation} (aside : op.Aside) :
    Sole start action chain (t.go (op.executions t.app) (op.report t.app) (op.apply t.app)) := by
  have hsame : ∀ {next : App} {notices : List Notice},
      Sole start action chain { t with app := next } →
      notices.filter Notice.isDepthWarning = [] →
        Sole start action chain (t.go [] (.said notices) next) := by
    intro next notices hnext hquiet
    rw [Trail.go, List.map_nil, List.append_nil]
    exact hnext.said hquiet
  cases aside with
  | setForm values => exact hsame (h.moved rfl rfl rfl rfl (.refl _)) rfl
  | currentScreen =>
    exact hsame (h.moved rfl rfl rfl rfl (.refl _)) t.app.currentScreen_warnings
  | reload source =>
    simp only [App.Operation.executions, App.Operation.apply, App.Operation.report,
      App.Operation.notices, App.Operation.deliveries]
    cases hreload : t.app.reload source with
    | error b => exact hsame h rfl
    | ok result =>
      obtain ⟨v, next, notices⟩ := result
      refine hsame ?_ (App.reload_warnings hreload)
      unfold App.reload at hreload
      split at hreload
      · cases hreload
      · split at hreload <;> cases hreload
        · exact h
        · exact h.moved rfl rfl rfl rfl (.refl _)

/-- An operation besides the dispatch. -/
theorem apply (h : Sole start action chain t) {op : App.Operation} (attends : op.Attends) :
    ∃ later, chain.Extends later ∧
      Sole start action later (t.go (op.executions t.app) (op.report t.app) (op.apply t.app)) := by
  cases attends with
  | aside haside => exact ⟨chain, .refl chain, h.aside haside⟩
  | settle => exact h.settle
  | answer number outcome =>
    simp only [App.Operation.executions, App.Operation.apply, App.Operation.report,
      App.Operation.notices, App.Operation.deliveries, App.answer]
    cases hanswer : t.app.tasks.answer? number outcome with
    | none =>
      have hnothing : Sole start action chain (t.go [] .silent t.app) := by
        rw [Trail.go_nothing]
        exact h
      exact ⟨chain, .refl chain, hnothing⟩
    | some tasks => exact (h.answered hanswer).settle

/-- A run that goes on with what comes of one dispatch. -/
theorem run (h : Sole start action chain t) {ops : List App.Operation}
    (attends : ∀ op ∈ ops, op.Attends) :
    ∃ later, chain.Extends later ∧
      Sole start action later
        (t.go (t.app.history ops) (t.app.report ops) (t.app.after ops)) := by
  induction ops generalizing chain t with
  | nil =>
    rw [App.history, App.report, App.after, Trail.go_nothing]
    exact ⟨chain, .refl chain, h⟩
  | cons op rest ih =>
    obtain ⟨hop, hrest⟩ := List.forall_mem_cons.mp attends
    obtain ⟨between, hbetween, hnext⟩ := h.apply hop
    obtain ⟨later, hlater, hafter⟩ := ih hnext hrest
    refine ⟨later, hbetween.trans hlater, ?_⟩
    rw [Trail.go_go] at hafter
    exact hafter

end Sole

end Storyboard
