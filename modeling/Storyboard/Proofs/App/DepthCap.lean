import Storyboard.Proofs.App.Abreast

/-!
# The cap on chains

What a dispatch runs, follow-ups of its remote submits included, is one path through the
branches of its action, no longer than the cap. Raising the cap prolongs the path, and
changes nothing when nothing was cut.

The course of an action stands for the dispatch under either carrier: without a scheduler
the dispatch is a course by `performInline_eq`; under a scheduler the threads of a run account
for whatever is performed in it. When nothing else is dispatched meanwhile, the whole run is
compared with the run under a larger cap.
-/
namespace Storyboard

namespace Chain

/-- A chain that runs one path from an action within a cap, and asks the host for one thing
at most. -/
structure OnePath (action : Action) (cap : DepthCap) (chain : Chain) : Prop where
  path : action.Path chain.performed
  length : chain.performed.length ≤ cap.depth
  effects : chain.effects.length ≤ 1

/-- A chain runs the beginning of another one, and all of it if it was not cut. -/
structure BeginsLike (small big : Chain) : Prop where
  performed : small.performed <+: big.performed
  uncut : small.warnings = [] → small.context = big.context ∧ small.effects = big.effects ∧
    small.notices = big.notices ∧ small.performed = big.performed

/-- A linear chain that goes on behind a full run is one path. -/
theorem OnePath.of_linear {p : Performer} {c : Context} {action : Action} {cap : DepthCap}
    {chain : Chain} (begins : (p.runFully action c).performed <+: chain.performed)
    (linear : chain.Linear cap.depth (· = action)) : chain.OnePath action cap := by
  refine ⟨⟨?_, linear.linked⟩, ?_, linear.effects⟩
  · obtain ⟨rest, hrest⟩ := begins
    rw [← hrest, List.head?_append, Performer.performed_runFully]
    rfl
  · have hbounded := linear.bounded
    exact (Nat.le_add_right _ _).trans hbounded

theorem Within.beginsLike {small big : Chain} (h : small.Within big) : small.BeginsLike big := by
  refine ⟨h.performed_prefix, fun huncut => ?_⟩
  cases h with
  | ended same => exact same ▸ ⟨rfl, rfl, rfl, rfl⟩
  | pending r allowance le remote same => exact same ▸ ⟨rfl, rfl, rfl, rfl⟩
  | cut performed ended warned => exact absurd huncut warned

end Chain

namespace Performer

variable (p : Performer) (world : List Interlude) (action : Action) (c : Context)

/-- A course is one path within the cap. -/
theorem courseOf_onePath (cap : DepthCap) :
    ((p.withCap cap).courseOf world action c).OnePath action cap := by
  have hlinear := (p.withCap cap).linear_course world
    ((p.withCap cap).linear_run cap.depth action c)
  exact .of_linear ((p.withCap cap).performed_prefix_course world _) hlinear

/-- A course is cut once at most, if nobody else says so. -/
theorem courseOf_warnings (quiet : p.Quiet)
    (silent : ∀ between ∈ world, between.Quiet) :
    (p.courseOf world action c).warnings.length ≤ 1 :=
  (cutOnce_course quiet silent (cutOnce_run quiet _ action c)).once

/-- A course under a larger cap begins like the one under a smaller cap. -/
theorem courseOf_beginsLike {n m : DepthCap} (le : n.depth ≤ m.depth) :
    ((p.withCap n).courseOf world action c).BeginsLike ((p.withCap m).courseOf world action c) :=
  (within_course n m world (within_run n m le action c)).beginsLike

end Performer

namespace Trail

/-- A run that takes one path from an action within a cap, and hands the host of an app one
effect at most. -/
structure OnePath (start : App) (action : Action) (cap : DepthCap) (t : Trail) : Prop where
  path : action.Path t.performed
  length : t.performed.length ≤ cap.depth
  effects : ∃ effects : List Effect, effects.length ≤ 1 ∧
    t.app.popups = (start.publish effects).1.popups ∧
    t.report.deliveries = (start.publish effects).2.deliveries

/-- A run begins like another one, and is the same if it was not cut. -/
structure BeginsLike (t u : Trail) : Prop where
  performed : t.performed <+: u.performed
  uncut : t.report.warnings = [] → t.app.context = u.app.context ∧ t.app.popups = u.app.popups ∧
    t.report = u.report ∧ t.performed = u.performed

end Trail

theorem Sole.onePath {start : App} {action : Action} {cap : DepthCap} {chain : Chain} {t : Trail}
    (h : Sole (start.withCap cap) action chain t) (path : chain.OnePath action cap) :
    t.OnePath start action cap := by
  refine ⟨?_, ?_, chain.effects, path.effects, h.popups, h.deliveries⟩
  · rw [h.performed]
    exact path.path
  · rw [h.performed]
    exact path.length

theorem Abreast.beginsLike {n m : DepthCap} {start : App} {action : Action} {first second : Chain}
    {t u : Trail} (h : Abreast n m start action first second t u) : t.BeginsLike u := by
  have hbegins := h.within.beginsLike
  refine ⟨?_, fun huncut => ?_⟩
  · rw [h.small.performed, h.big.performed]
    exact hbegins.performed
  · rw [h.small.warnings] at huncut
    obtain ⟨happ, hreport⟩ := h.level.resolve_left fun hcut => hcut.2 huncut
    have hperformed := (hbegins.uncut huncut).2.2.2
    rw [← h.small.performed, ← h.big.performed] at hperformed
    exact ⟨congrArg (·.context) happ, congrArg (·.popups) happ, hreport, hperformed⟩

/-- The other side does not say that a chain was cut. -/
def Submitter.Quiet (submitter : Submitter) : Prop :=
  ∀ number posting, ∀ n ∈ (submitter.send number posting).notices, n.isDepthWarning = false

namespace App

variable (app : App)

theorem inlineWorld_quiet {submitter : Submitter} (quiet : submitter.Quiet) :
    ∀ between ∈ app.inlineWorld submitter, between.Quiet := by
  refine List.forall_mem_cons.mpr ⟨fun posting => quiet _ posting,
    List.forall_mem_singleton.mpr fun posting n hn => quiet (app.calls.length + 1) posting n ?_⟩
  dsimp only [Submitter.unwaited] at hn
  split at hn
  · exact hn
  · exact List.mem_append_left _ hn

/-- The trail of a dispatch without a scheduler is what its course leads to. -/
theorem trail_inline (submitter : Submitter) (action : Action) :
    app.trail [.perform (.inline submitter) action] =
      let chain := app.inlineCourse submitter action
      let (next, report) := app.afterChain chain (app.inlineRequests submitter action)
      ⟨chain.performed, report, next⟩ := by
  have hexecutions := app.inlineExecutions_actions submitter action
  have hreport : app.report [.perform (.inline submitter) action] =
      (app.performInline submitter action).2 := Report.append_silent _
  have hafter : app.after [.perform (.inline submitter) action] =
      (app.performInline submitter action).1 := rfl
  have hhistory : app.history [.perform (.inline submitter) action] =
      app.inlineExecutions submitter action := List.append_nil _
  rw [trail, hreport, hafter, hhistory, hexecutions, performInline_eq]

theorem warnings_afterChain (chain : Chain) (requests : List RemoteSubmit) :
    (app.afterChain chain requests).2.warnings = chain.warnings := by
  unfold afterChain
  rw [Report.warnings_append, publish_warnings, List.append_nil]
  rfl

theorem inline_onePath (cap : DepthCap) (submitter : Submitter) (action : Action) :
    ((app.withCap cap).trail [.perform (.inline submitter) action]).OnePath app action cap := by
  have hpath := app.performer.courseOf_onePath (app.inlineWorld submitter) action app.context cap
  rw [trail_inline]
  exact ⟨hpath.path, hpath.length, _, hpath.effects, rfl, rfl⟩

theorem inline_beginsLike {n m : DepthCap} (le : n.depth ≤ m.depth) (submitter : Submitter)
    (action : Action) :
    ((app.withCap n).trail [.perform (.inline submitter) action]).BeginsLike
      ((app.withCap m).trail [.perform (.inline submitter) action]) := by
  have hbegins := app.performer.courseOf_beginsLike (app.inlineWorld submitter) action
    app.context le
  rw [trail_inline, trail_inline]
  refine ⟨hbegins.performed, fun huncut => ?_⟩
  rw [warnings_afterChain] at huncut
  obtain ⟨hcontext, heffects, hnotices, hperformed⟩ := hbegins.uncut huncut
  refine ⟨hcontext, ?_, ?_, hperformed⟩
  · exact congrArg (fun effects => (app.publish effects).1.popups) heffects
  · exact congrArg₂ (fun notices effects => Report.said notices ++ (app.publish effects).2)
      hnotices heffects

theorem inline_warnings (cap : DepthCap) {submitter : Submitter} (action : Action)
    (quiet : app.performer.Quiet) (silent : submitter.Quiet) :
    ((app.withCap cap).trail [.perform (.inline submitter) action]).report.warnings.length ≤ 1 := by
  rw [trail_inline, warnings_afterChain]
  exact (app.performer.withCap cap).courseOf_warnings (app.inlineWorld submitter) action
    app.context quiet (app.inlineWorld_quiet silent)

section Scheduled

variable {app} (idle : app.tasks = .none) (action : Action) {later : List Operation}
  (attends : ∀ op ∈ later, op.Attends)

include idle attends

/-- All that comes of a dispatch is what a chain did. -/
theorem scheduled_chain (cap : DepthCap) :
    ∃ chain, chain.OnePath action cap ∧ Sole (app.withCap cap) action chain
      ((app.withCap cap).trail (.perform .scheduled action :: later)) := by
  have hidle : (app.withCap cap).tasks = .none := idle
  obtain ⟨chain, hextends, hsole⟩ := (Sole.dispatched hidle action).run attends
  rw [trail_cons]
  exact ⟨chain, .of_linear hextends.performed hsole.linear, hsole⟩

theorem scheduled_onePath (cap : DepthCap) :
    ((app.withCap cap).trail (.perform .scheduled action :: later)).OnePath app action cap := by
  obtain ⟨chain, hpath, hsole⟩ := scheduled_chain idle action attends cap
  exact hsole.onePath hpath

theorem scheduled_warnings (cap : DepthCap) (quiet : app.performer.Quiet) :
    ((app.withCap cap).trail
      (.perform .scheduled action :: later)).report.warnings.length ≤ 1 := by
  obtain ⟨chain, -, hsole⟩ := scheduled_chain idle action attends cap
  rw [hsole.warnings]
  exact (hsole.cutOnce quiet).once

theorem scheduled_beginsLike {n m : DepthCap} (le : n.depth ≤ m.depth) :
    ((app.withCap n).trail (.perform .scheduled action :: later)).BeginsLike
      ((app.withCap m).trail (.perform .scheduled action :: later)) := by
  obtain ⟨first, second, habreast⟩ := (Abreast.dispatched le idle action).run attends
  rw [trail_cons (app.withCap n), trail_cons (app.withCap m)]
  exact habreast.beginsLike

end Scheduled

/-- What is performed in a run are the paths of its dispatches, each in its order, whatever the
scheduler does. -/
theorem paths_of_run {app : App} (idle : app.tasks = .none) (ops : List Operation) :
    ∃ threads : List Thread, threads.map (·.root) = app.roots ops ∧
      ((app.history ops).map (·.action)).Perm (threads.flatMap (·.course.performed)) ∧
      ∀ t ∈ threads, t.course.performed.Sublist ((app.history ops).map (·.action)) ∧
        t.course.OnePath t.root app.settings.maxActionDepth ∧
        (app.performer.Quiet → t.closed = false → t.course.warnings.length ≤ 1) := by
  obtain ⟨threads, hroots, hledger⟩ := threads_of_run idle ops
  refine ⟨threads, hroots, hledger.performed, fun t ht => ⟨hledger.inOrder t ht, ?_, ?_⟩⟩
  · rw [← hledger.settings t ht]
    exact t.performer.courseOf_onePath t.world t.root t.start t.performer.settings.maxActionDepth
  · intro quiet hopen
    have hquiet : t.performer.Quiet := quiet.of_verifier (hledger.verifier t ht)
    exact t.performer.courseOf_warnings t.world t.root t.start hquiet fun between hb =>
      (hledger.answered t ht hopen between hb).1

end App

/-- A dispatch runs one path of its action within the cap, and under a larger cap it begins alike,
whether nothing schedules it, a loop does with whatever else happens meanwhile, or its submits
lead to given interludes. In a run of several dispatches, what is performed is made up of such
paths, one for each of them. -/
theorem dispatch_runs_one_path (app : App) (action : Action) {n m : DepthCap}
    (le : n.depth ≤ m.depth) :
    (∀ submitter : Submitter,
      let run := [App.Operation.perform (.inline submitter) action]
      let small := (app.withCap n).trail run
      small.OnePath app action n ∧ small.BeginsLike ((app.withCap m).trail run) ∧
        (app.performer.Quiet → submitter.Quiet → small.report.warnings.length ≤ 1)) ∧
    (app.tasks = .none → ∀ later : List App.Operation, (∀ op ∈ later, op.Attends) →
      let run := .perform .scheduled action :: later
      let small := (app.withCap n).trail run
      small.OnePath app action n ∧ small.BeginsLike ((app.withCap m).trail run) ∧
        (app.performer.Quiet → small.report.warnings.length ≤ 1)) ∧
    (∀ world : List Interlude,
      let small := (app.withCap n).performer.courseOf world action app.context
      let big := (app.withCap m).performer.courseOf world action app.context
      small.OnePath action n ∧ small.BeginsLike big ∧
        (app.performer.Quiet → (∀ between ∈ world, between.Quiet) → small.warnings.length ≤ 1)) ∧
    (app.tasks = .none → ∀ ops : List App.Operation,
      ∃ threads : List Thread, threads.map (·.root) = app.roots ops ∧
        ((app.history ops).map (·.action)).Perm (threads.flatMap (·.course.performed)) ∧
        ∀ t ∈ threads, t.course.performed.Sublist ((app.history ops).map (·.action)) ∧
          t.course.OnePath t.root app.settings.maxActionDepth ∧
          (app.performer.Quiet → t.closed = false → t.course.warnings.length ≤ 1)) := by
  refine ⟨fun submitter => ⟨?_, ?_, ?_⟩, fun idle later attends => ⟨?_, ?_, ?_⟩,
    fun world => ⟨?_, ?_, ?_⟩, App.paths_of_run⟩
  · exact app.inline_onePath n submitter action
  · exact app.inline_beginsLike le submitter action
  · exact app.inline_warnings n action
  · exact App.scheduled_onePath idle action attends n
  · exact App.scheduled_beginsLike idle action attends le
  · exact App.scheduled_warnings idle action attends n
  · exact app.performer.courseOf_onePath world action app.context n
  · exact app.performer.courseOf_beginsLike world action app.context le
  · exact (app.performer.withCap n).courseOf_warnings world action app.context

/-- An app without screens of its own. -/
def greeter : App where
  settings := .default
  verifier := .plaintext
  definition := ⟨"1", ⟨"Greeter", .absent, .absent, .absent, .absent, []⟩, [], "home", []⟩
  context := .start .empty ⟨.counter, 0⟩ "home"
  popups := []
  listeners := [⟨0, fun _ => true⟩]
  tasks := .none
  calls := []

/-- A logout, then a submit, then a popup. -/
def farewell : Action :=
  .logout ⟨.value (.submit ⟨.absent, .value "https://a.example", .absent, .absent, .absent, .absent,
    .value (.popup ⟨.absent, "Bye", .absent, .absent, []⟩), .absent, []⟩), []⟩

theorem Submitter.prompt_quiet : prompt.Quiet := fun _ _ _ hn => absurd hn List.not_mem_nil

theorem greeter_quiet : greeter.performer.Quiet :=
  fun n hn => absurd hn (Verifier.not_says_plaintext n)

/-- The submit of the farewell is started and answered. -/
def farewellAnswered : List App.Operation := [.settle, .answer 0 .succeeded]

theorem farewellAnswered_attends : ∀ op ∈ farewellAnswered, op.Attends :=
  List.forall_mem_cons.mpr ⟨.settle, List.forall_mem_singleton.mpr (.answer 0 .succeeded)⟩

theorem farewell_runs_one_path :
    ∃ n m : DepthCap, n.depth = 3 ∧ m.depth = 4 ∧
      (let run := [App.Operation.perform (.inline .prompt) farewell]
        let small := (greeter.withCap n).trail run
        small.performed.length = 3 ∧ small.app.popups.length = 1 ∧
          small.report.warnings.length ≤ 1 ∧
          small.report = ((greeter.withCap m).trail run).report) ∧
      (let run := .perform .scheduled farewell :: farewellAnswered
        let small := (greeter.withCap n).trail run
        small.performed.length = 3 ∧ small.app.popups.length = 1 ∧
          small.report.warnings.length ≤ 1 ∧
          small.report = ((greeter.withCap m).trail run).report ∧
          ∃ threads : List Thread, threads.map (·.root) = [farewell] ∧
            ((greeter.history run).map (·.action)).Perm (threads.flatMap (·.course.performed))) ∧
      ((greeter.withCap n).performer.courseOf [] farewell
        greeter.context).warnings.length ≤ 1 := by
  have le : 3 ≤ 4 := by decide
  obtain ⟨hinline, hscheduled, hcourse, hthreads⟩ := dispatch_runs_one_path greeter farewell
    (n := ⟨3, by decide⟩) (m := ⟨4, by decide⟩) le
  obtain ⟨-, hinlineLike, hinlineOnce⟩ := hinline .prompt
  obtain ⟨-, hlike, honce⟩ := hscheduled rfl farewellAnswered farewellAnswered_attends
  obtain ⟨-, -, hreport, -⟩ := hinlineLike.uncut rfl
  obtain ⟨-, -, hreport', -⟩ := hlike.uncut rfl
  obtain ⟨threads, hroots, hperformed, -⟩ := hthreads rfl
    (.perform .scheduled farewell :: farewellAnswered)
  have hfirst := (hcourse []).2.2 greeter_quiet fun _ hb => absurd hb List.not_mem_nil
  refine ⟨⟨3, by decide⟩, ⟨4, by decide⟩, rfl, rfl, ?_, ?_, hfirst⟩
  · exact ⟨rfl, rfl, hinlineOnce greeter_quiet Submitter.prompt_quiet, hreport⟩
  · exact ⟨rfl, rfl, honce greeter_quiet, hreport', threads, hroots, hperformed⟩

end Storyboard
