import Storyboard.Proofs.App.LoneDispatch

/-!
# One dispatch under two caps

Two apps are level when they differ in the cap and in the allowances of their submits alone.
An app and the app that is level with it stay level while the host does the same with both,
until a chain is cut under the smaller cap.
-/
namespace Storyboard

/-- A chain was cut. -/
def Chain.Cut (chain : Chain) : Prop := chain.remote = none ∧ chain.warnings ≠ []

/-- A submit, its allowance aside. -/
def RemoteSubmit.leveled (r : RemoteSubmit) : RemoteSubmit := { r with allowance := 0 }

def Wakeup.leveled : Wakeup → Wakeup
  | .start r => .start r.leveled
  | .granted r => .granted r.leveled
  | .answered r outcome => .answered r.leveled outcome

def OpenCall.leveled (call : OpenCall) : OpenCall := { call with submit := call.submit.leveled }

namespace Tasks

/-- Pending submits, their allowances aside. -/
def leveled (t : Tasks) : Tasks :=
  ⟨t.ready.map Wakeup.leveled, t.waiting.map RemoteSubmit.leveled, t.held,
    t.openCalls.map OpenCall.leveled⟩

theorem leveled_spawn (t : Tasks) (remote : Option RemoteSubmit) :
    (t.spawn remote).leveled = t.leveled.spawn (remote.map RemoteSubmit.leveled) := by
  cases remote with
  | none => rfl
  | some r => simp [spawn, leveled, Wakeup.leveled]

theorem takeWaiting_leveled (endpoint : String) (waiting : List RemoteSubmit) :
    takeWaiting endpoint (waiting.map RemoteSubmit.leveled) =
      (takeWaiting endpoint waiting).map fun (next, others) =>
        (next.leveled, others.map RemoteSubmit.leveled) := by
  induction waiting with
  | nil => rfl
  | cons first rest ih =>
    have hendpoint : first.leveled.endpoint = first.endpoint := rfl
    rw [List.map_cons, takeWaiting, takeWaiting, hendpoint, ih]
    split
    · rfl
    · simp [Function.comp_def]

theorem leveled_release (t : Tasks) (endpoint : String) :
    (t.release endpoint).leveled = t.leveled.release endpoint := by
  have htake := takeWaiting_leveled endpoint t.waiting
  have hwaiting : t.leveled.waiting = t.waiting.map RemoteSubmit.leveled := rfl
  unfold release
  rw [hwaiting, htake]
  cases takeWaiting endpoint t.waiting with
  | none => rfl
  | some found => simp [leveled, Wakeup.leveled]

theorem leveled_answer (t : Tasks) (number : Nat) (outcome : Outcome) :
    (t.answer? number outcome).map leveled = t.leveled.answer? number outcome := by
  simp [answer?, leveled, List.find?_map, List.filter_map, Function.comp_def, Wakeup.leveled,
    OpenCall.leveled]

theorem weight_leveled (t : Tasks) : t.leveled.weight = t.weight := by
  have hweight : ∀ w : Wakeup, w.leveled.weight = w.weight := fun w => by cases w <;> rfl
  simp [weight, leveled, Function.comp_def, hweight]

end Tasks

namespace App

/-- An app, the cap and the allowances aside. -/
def leveled (app : App) : App :=
  { app with
    settings := app.settings.withCap ⟨1, Nat.one_pos⟩
    tasks := app.tasks.leveled
    calls := app.calls.map RemoteSubmit.leveled }

/-- The app with other wake-ups. -/
def withReady (app : App) (ready : List Wakeup) : App :=
  { app with tasks := { app.tasks with ready } }

theorem leveled_withTasks (app : App) (tasks : Tasks) :
    App.leveled { app with tasks } = { app.leveled with tasks := tasks.leveled } := rfl

theorem leveled_withReady (app : App) (ready : List Wakeup) :
    (app.withReady ready).leveled = app.leveled.withReady (ready.map Wakeup.leveled) := rfl

theorem leveled_openCall (app : App) (r : RemoteSubmit) :
    (app.openCall r).leveled = app.leveled.openCall r.leveled := by
  simp [openCall, leveled, Tasks.leveled, OpenCall.leveled]

theorem leveled_start (app : App) (r : RemoteSubmit) :
    (app.start r).leveled = app.leveled.start r.leveled := by
  have hserialize : app.leveled.settings.serializeSubmits = app.settings.serializeSubmits := rfl
  have hheld : app.leveled.tasks.held.contains r.leveled.endpoint =
      app.tasks.held.contains r.endpoint := rfl
  unfold start
  rw [hserialize, hheld]
  split
  · split
    · simp [leveled, Tasks.leveled]
    · exact leveled_openCall _ r
  · exact leveled_openCall app r

theorem leveled_release (app : App) (r : RemoteSubmit) :
    (app.release r).leveled = app.leveled.release r.leveled := by
  have hserialize : app.leveled.settings.serializeSubmits = app.settings.serializeSubmits := rfl
  have htasks := app.tasks.leveled_release r.endpoint
  unfold release
  rw [hserialize]
  split
  · exact congrArg (fun tasks => { app.leveled with tasks }) htasks
  · rfl

/-- What a chain leads to, cap and allowances aside. -/
theorem leveled_absorb (app : App) (chain : Chain) :
    (app.absorb chain).1.leveled =
        (app.leveled.absorb { chain with remote := chain.remote.map RemoteSubmit.leveled }).1 ∧
      (app.absorb chain).2 =
        (app.leveled.absorb { chain with remote := chain.remote.map RemoteSubmit.leveled }).2 := by
  refine ⟨?_, rfl⟩
  have htasks := app.tasks.leveled_spawn chain.remote
  simp only [absorb, publish, leveled, htasks]

/-- What a host does besides dispatches has nothing to do with the cap. -/
theorem leveled_aside (app : App) {op : Operation} (aside : op.Aside) :
    (op.apply app).leveled = op.apply app.leveled ∧ op.report app = op.report app.leveled := by
  cases aside with
  | setForm values => exact ⟨rfl, rfl⟩
  | currentScreen => exact ⟨rfl, rfl⟩
  | reload source =>
    have hreload : app.leveled.reload source =
        (app.reload source).map fun (v, next, notices) => (v, next.leveled, notices) := by
      have hlimit : app.leveled.settings.maxDefinitionBytes = app.settings.maxDefinitionBytes := rfl
      unfold reload
      rw [hlimit]
      split
      · rfl
      · split <;> rfl
    simp only [Operation.apply, Operation.report, Operation.notices, hreload]
    cases app.reload source with
    | error b => exact ⟨rfl, rfl⟩
    | ok result => exact ⟨rfl, rfl⟩

/-- The app with another cap. -/
def withCap (app : App) (cap : DepthCap) : App :=
  { app with settings := app.settings.withCap cap }

/-- What two chains lead to that differ in the cap alone. -/
theorem absorb_level {small big : App} (level : small.leveled = big.leveled) {first second : Chain}
    (within : first.Within second) :
    first.Cut ∨ ((small.absorb first).1.leveled = (big.absorb second).1.leveled ∧
      (small.absorb first).2 = (big.absorb second).2) := by
  obtain ⟨happ, hreport⟩ := small.leveled_absorb first
  obtain ⟨happ', hreport'⟩ := big.leveled_absorb second
  rw [happ, happ', hreport, hreport', level]
  cases within with
  | ended same ended => exact .inr (same ▸ ⟨rfl, rfl⟩)
  | cut performed ended warned => exact .inl ⟨ended, warned⟩
  | pending r allowance le remote same =>
    have hsame : { second with remote := second.remote.map RemoteSubmit.leveled } =
        { first with remote := first.remote.map RemoteSubmit.leveled } := by
      rw [same, remote]
      rfl
    exact .inr (hsame ▸ ⟨rfl, rfl⟩)

end App

/-- Two trails are level. -/
structure Trail.Level (t u : Trail) : Prop where
  app : t.app.leveled = u.app.leveled
  report : t.report = u.report

theorem Trail.Level.go {t u : Trail} (h : t.Level u) (executions others : List Execution)
    {report other : Report} {app next : App} (same : report = other)
    (level : app.leveled = next.leveled) :
    (t.go executions report app).Level (u.go others other next) :=
  ⟨level, congrArg₂ (· ++ ·) h.report same⟩

/-- The trails of one dispatch under two caps: they are level, or the chain was cut under the
first one. -/
structure Abreast (n m : DepthCap) (start : App) (action : Action) (first second : Chain)
    (t u : Trail) : Prop where
  small : Sole (start.withCap n) action first t
  big : Sole (start.withCap m) action second u
  within : first.Within second
  level : first.Cut ∨ t.Level u

namespace Abreast

variable {n m : DepthCap} {start : App} {action : Action} {first second : Chain} {t u : Trail}

/-- Two dispatches in an idle app. -/
theorem dispatched (le : n.depth ≤ m.depth) (idle : start.tasks = .none) (action : Action) :
    Abreast n m start action ((start.withCap n).performer.runFully action start.context)
      ((start.withCap m).performer.runFully action start.context)
      ((start.withCap n).trail [.perform .scheduled action])
      ((start.withCap m).trail [.perform .scheduled action]) := by
  have hwithin : ((start.withCap n).performer.runFully action start.context).Within
      ((start.withCap m).performer.runFully action start.context) :=
    start.performer.within_run n m le action start.context
  have hlevel : (start.withCap n).leveled = (start.withCap m).leveled := rfl
  have hidle : ∀ cap : DepthCap, (start.withCap cap).tasks = .none := fun _ => idle
  refine ⟨.dispatched (hidle n) action, .dispatched (hidle m) action, hwithin, ?_⟩
  refine (App.absorb_level hlevel hwithin).imp_right fun ⟨happ, hreport⟩ => ⟨happ, ?_⟩
  exact congrArg (· ++ Report.silent) hreport

/-- Once the chain was cut under the first cap, it only goes on under the second one, so it is
enough to look at trails that are level. -/
theorem onward (h : Abreast n m start action first second t u) {t' u' : Trail}
    (hsmall : ∃ now, first.Extends now ∧ Sole (start.withCap n) action now t')
    (hbig : ∃ later, second.Extends later ∧ Sole (start.withCap m) action later u')
    (hlevel : t.Level u → ∃ now later, Abreast n m start action now later t' u') :
    ∃ now later, Abreast n m start action now later t' u' := by
  rcases h.level with hcut | level
  · obtain ⟨now, hextends, hnow⟩ := hsmall
    obtain ⟨later, hprolongs, hlater⟩ := hbig
    obtain rfl := hextends.ended hcut.1
    have hprefix := h.within.performed_prefix.trans hprolongs.performed
    exact ⟨now, later, hnow, hlater, .cut hprefix hcut.1 hcut.2, .inl hcut⟩
  · exact hlevel level

/-- The same answer in both, to submits that differ in the allowance. -/
theorem resumed (h : Abreast n m start action first second t u) {taken other : App}
    (settings : taken.settings = t.app.settings ∧ other.settings = u.app.settings)
    (level : taken.leveled = other.leveled) {r r' : RemoteSubmit} (hr : first.remote = some r)
    (hr' : second.remote = some r') (outcome : Outcome) :
    (first.followedBy (taken.performer.resume r outcome taken.context)).Within
        (second.followedBy (other.performer.resume r' outcome other.context)) ∧
      (taken.performer.resume r outcome taken.context).Within
        (other.performer.resume r' outcome other.context) := by
  cases h.within with
  | ended same ended => cases ended.symm.trans hr
  | cut performed ended warned => cases ended.symm.trans hr
  | pending r₀ allowance le remote same =>
    cases remote.symm.trans hr
    subst same
    cases hr'
    have hsettings : taken.settings = start.settings.withCap n :=
      settings.1.trans h.small.settings
    have hsettings' : other.settings = start.settings.withCap m :=
      settings.2.trans h.big.settings
    have hdefinition : taken.definition = other.definition := congrArg (·.definition) level
    have hverifier : taken.verifier = other.verifier := congrArg (·.verifier) level
    have hcontext : taken.context = other.context := congrArg (·.context) level
    let p : Performer := ⟨taken.definition, taken.verifier, start.settings⟩
    have hp : taken.performer = p.withCap n := by
      rw [App.performer, hsettings]
      rfl
    have hp' : other.performer = p.withCap m := by
      rw [App.performer, hsettings', ← hdefinition, ← hverifier]
      rfl
    have hresumed := p.within_resume n m r le outcome taken.context
    rw [hp, hp', ← hcontext]
    exact ⟨hresumed.followedBy first, hresumed⟩

/-- Handling the same wake-up in both. -/
theorem handle (h : Abreast n m start action first second t u) (level : t.Level u) {w : Wakeup}
    {rest : List Wakeup} (hready : t.app.tasks.ready = w :: rest) :
    ∃ v others, u.app.tasks.ready = v :: others ∧
      let taken := t.app.withReady rest
      let other := u.app.withReady others
      Abreast n m start action (taken.prolong first w) (other.prolong second v)
        (t.go (taken.wakeupExecutions w) (taken.handle w).2 (taken.handle w).1)
        (u.go (other.wakeupExecutions v) (other.handle v).2 (other.handle v).1) := by
  have hmap : t.app.tasks.ready.map Wakeup.leveled = u.app.tasks.ready.map Wakeup.leveled :=
    congrArg (·.tasks.ready) level.app
  rw [hready, List.map_cons] at hmap
  obtain ⟨v, others, hready', hv, hothers⟩ := List.map_eq_cons_iff.mp hmap.symm
  refine ⟨v, others, hready', ?_⟩
  intro taken other
  have htaken : taken.leveled = other.leveled := by
    rw [App.leveled_withReady, App.leveled_withReady, level.app, hothers]
  have hsmall := h.small.handle hready
  have hbig := h.big.handle hready'
  obtain ⟨hr, -⟩ := h.small.taken hready
  obtain ⟨hr', -⟩ := h.big.taken hready'
  cases w with
  | start r =>
    cases v with
    | start r' =>
      have hstart : (taken.start r).leveled = (other.start r').leveled := by
        injection hv with hsubmit
        rw [App.leveled_start, App.leveled_start, htaken, hsubmit]
      exact ⟨hsmall, hbig, h.within, .inr (level.go [] [] rfl hstart)⟩
    | granted r' => cases hv
    | answered r' outcome => cases hv
  | granted r =>
    cases v with
    | granted r' =>
      have hgranted : (taken.openCall r).leveled = (other.openCall r').leveled := by
        injection hv with hsubmit
        rw [App.leveled_openCall, App.leveled_openCall, htaken, hsubmit]
      exact ⟨hsmall, hbig, h.within, .inr (level.go [] [] rfl hgranted)⟩
    | start r' => cases hv
    | answered r' outcome => cases hv
  | answered r outcome =>
    cases v with
    | answered r' outcome' =>
      injection hv with hsubmit houtcome
      subst houtcome
      have hsettings : taken.settings = t.app.settings ∧ other.settings = u.app.settings :=
        ⟨rfl, rfl⟩
      obtain ⟨hwithin, hresumed⟩ := h.resumed hsettings htaken hr hr' outcome'
      have hreleased : (taken.release r).leveled = (other.release r').leveled := by
        rw [App.leveled_release, App.leveled_release, htaken, hsubmit]
      refine ⟨hsmall, hbig, hwithin, ?_⟩
      rcases App.absorb_level hreleased hresumed with ⟨hended, hwarned⟩ | ⟨happ, hreport⟩
      · refine .inl ⟨hended, ?_⟩
        rw [App.prolong, Chain.warnings_followedBy]
        exact fun hnil => hwarned (List.append_eq_nil_iff.mp hnil).2
      · rw [App.handle, App.handle, App.conclude_eq, App.conclude_eq]
        exact .inr (level.go _ _ hreport happ)
    | start r' => cases hv
    | granted r' => cases hv

theorem handleAll (fuel : Nat) (h : Abreast n m start action first second t u)
    (level : t.Level u) :
    ∃ now later, Abreast n m start action now later
      (t.go (App.handleAllExecutions fuel t.app) (App.handleAll fuel t.app).2
        (App.handleAll fuel t.app).1)
      (u.go (App.handleAllExecutions fuel u.app) (App.handleAll fuel u.app).2
        (App.handleAll fuel u.app).1) := by
  induction fuel generalizing first second t u with
  | zero =>
    simp only [App.handleAllExecutions, App.handleAll, Trail.go_nothing]
    exact ⟨first, second, h⟩
  | succ fuel ih =>
    cases hready : t.app.tasks.ready with
    | nil =>
      have hmap : t.app.tasks.ready.map Wakeup.leveled = u.app.tasks.ready.map Wakeup.leveled :=
        congrArg (·.tasks.ready) level.app
      rw [hready, List.map_nil, eq_comm, List.map_eq_nil_iff] at hmap
      simp only [App.handleAllExecutions, App.handleAll, hready, hmap, Trail.go_nothing]
      exact ⟨first, second, h⟩
    | cons w rest =>
      obtain ⟨v, others, hready', hnext⟩ := h.handle level hready
      have hrest := hnext.onward (hnext.small.handleAll fuel) (hnext.big.handleAll fuel) (ih hnext)
      simp only [Trail.go_go] at hrest
      simp only [App.handleAllExecutions, App.handleAll, hready, hready']
      exact hrest

theorem settle (h : Abreast n m start action first second t u) :
    ∃ now later, Abreast n m start action now later
      (t.go t.app.settleExecutions t.app.settle.2 t.app.settle.1)
      (u.go u.app.settleExecutions u.app.settle.2 u.app.settle.1) := by
  refine h.onward h.small.settle h.big.settle fun hlevel => ?_
  have htasks : t.app.tasks.leveled = u.app.tasks.leveled := congrArg (·.tasks) hlevel.app
  have hweight : u.app.tasks.weight = t.app.tasks.weight := by
    rw [← Tasks.weight_leveled, ← htasks, Tasks.weight_leveled]
  unfold App.settleExecutions App.settle
  rw [hweight]
  exact h.handleAll t.app.tasks.weight hlevel

/-- The same operation on both. -/
theorem apply (h : Abreast n m start action first second t u) {op : App.Operation}
    (attends : op.Attends) :
    ∃ now later, Abreast n m start action now later
      (t.go (op.executions t.app) (op.report t.app) (op.apply t.app))
      (u.go (op.executions u.app) (op.report u.app) (op.apply u.app)) := by
  refine h.onward (h.small.apply attends) (h.big.apply attends) fun hlevel => ?_
  cases attends with
  | settle => exact h.settle
  | aside haside =>
    obtain ⟨happ, hreport⟩ := t.app.leveled_aside haside
    obtain ⟨happ', hreport'⟩ := u.app.leveled_aside haside
    have hnext : (op.apply t.app).leveled = (op.apply u.app).leveled := by
      rw [happ, happ', hlevel.app]
    have hsame : op.report t.app = op.report u.app := by rw [hreport, hreport', hlevel.app]
    exact ⟨first, second, h.small.aside haside, h.big.aside haside, h.within,
      .inr (hlevel.go _ _ hsame hnext)⟩
  | answer number outcome =>
    have hanswer : (t.app.tasks.answer? number outcome).map Tasks.leveled =
        (u.app.tasks.answer? number outcome).map Tasks.leveled := by
      have htasks : t.app.tasks.leveled = u.app.tasks.leveled := congrArg (·.tasks) hlevel.app
      rw [Tasks.leveled_answer, Tasks.leveled_answer, htasks]
    simp only [App.Operation.executions, App.Operation.apply, App.Operation.report,
      App.Operation.notices, App.Operation.deliveries, App.answer]
    cases hsmall : t.app.tasks.answer? number outcome with
    | none =>
      rw [hsmall, Option.map_none, eq_comm, Option.map_eq_none_iff] at hanswer
      have hnothing : ∀ trail : Trail, trail.go [] .silent trail.app = trail := fun trail =>
        trail.go_nothing trail.app
      rw [hanswer]
      refine ⟨first, second, ?_⟩
      change Abreast n m start action first second (t.go [] .silent t.app) (u.go [] .silent u.app)
      rw [hnothing, hnothing]
      exact h
    | some tasks =>
      rw [hsmall, Option.map_some, eq_comm, Option.map_eq_some_iff] at hanswer
      obtain ⟨others, hbig, hsame⟩ := hanswer
      have hanswered : App.leveled { t.app with tasks } =
          App.leveled { u.app with tasks := others } := by
        rw [t.app.leveled_withTasks, u.app.leveled_withTasks, hlevel.app, hsame]
      have hnext : Abreast n m start action first second
          { t with app := { t.app with tasks } } { u with app := { u.app with tasks := others } } :=
        ⟨h.small.answered hsmall, h.big.answered hbig, h.within,
          .inr ⟨hanswered, hlevel.report⟩⟩
      rw [hbig]
      exact hnext.settle

/-- The same run of both, from a dispatch on. -/
theorem run (h : Abreast n m start action first second t u) {ops : List App.Operation}
    (attends : ∀ op ∈ ops, op.Attends) :
    ∃ now later, Abreast n m start action now later
      (t.go (t.app.history ops) (t.app.report ops) (t.app.after ops))
      (u.go (u.app.history ops) (u.app.report ops) (u.app.after ops)) := by
  induction ops generalizing first second t u with
  | nil =>
    simp only [App.history, App.report, App.after, Trail.go_nothing]
    exact ⟨first, second, h⟩
  | cons op rest ih =>
    obtain ⟨hop, hrest⟩ := List.forall_mem_cons.mp attends
    obtain ⟨_, _, hnext⟩ := h.apply hop
    have hafter := ih hnext hrest
    simp only [Trail.go_go] at hafter
    exact hafter

end Abreast

end Storyboard
