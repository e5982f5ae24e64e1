import Mathlib.Data.List.Perm.Basic
import Storyboard.Proofs.App.Trail

/-!
# The threads of a run

Each dispatch of a run starts a thread: the course of its action, through whatever comes
between its submits and their follow-ups. The threads of a run account for everything that
is performed in it, in whatever order the scheduler lets them go on, and for every submit
that is still pending.
-/
namespace Storyboard

/-- What became of a dispatch. A thread without a scheduler is closed when the dispatch
returns: what it left undone is dropped. -/
structure Thread where
  performer : Performer
  root : Action
  start : Context
  world : List Interlude
  closed : Bool

namespace Thread

/-- The course of the action that was dispatched. -/
def course (t : Thread) : Chain := t.performer.courseOf t.world t.root t.start

/-- The submit a thread waits for. -/
def pending (t : Thread) : List RemoteSubmit := if t.closed then [] else t.course.remote.toList

/-- Every request of a thread was answered, and nothing is said about chains meanwhile. -/
def Answered (t : Thread) : Prop :=
  ∀ between ∈ t.world, between.Quiet ∧ ∀ posting, (between.outcome posting).isSome = true

end Thread

/-- A submit was answered to a performer in a context. -/
def Performer.answered (p : Performer) (outcome : Outcome) (c : Context) : Interlude where
  said _ := []
  outcome _ := some outcome
  definition := p.definition
  change _ := c

/-- A thread goes on when its submit is answered. -/
def Thread.resumed (t : Thread) (later : Performer) (outcome : Outcome) (now : Context) : Thread :=
  { t with world := t.world ++ [later.answered outcome now] }

theorem Thread.course_resumed {t : Thread} {later : Performer}
    (settings : later.settings = t.performer.settings)
    (verifier : later.verifier = t.performer.verifier) (answered : t.Answered) {r : RemoteSubmit}
    (hr : t.course.remote = some r) (outcome : Outcome) (now : Context) :
    (t.resumed later outcome now).course = t.course.followedBy (later.resume r outcome now) := by
  have hlater : (⟨later.definition, t.performer.verifier, t.performer.settings⟩ : Performer) =
      later := by rw [← settings, ← verifier]
  unfold course at hr ⊢
  unfold Performer.courseOf at hr ⊢
  rw [resumed, t.performer.course_append fun between hb => (answered between hb).2,
    Performer.course_cons hr]
  dsimp only [Performer.answered, Performer.onward, Performer.course]
  rw [hlater]
  simp [Chain.saying]

namespace Tasks

theorem unfinished_eq (t : Tasks) :
    t.unfinished = t.ready.map Wakeup.submit ++ t.waiting ++ t.openCalls.map (·.submit) := by
  refine congrArg (· ++ t.waiting ++ t.openCalls.map (·.submit)) ?_
  exact List.map_congr_left fun w _ => by cases w <;> rfl

theorem unfinished_spawn (t : Tasks) (remote : Option RemoteSubmit) :
    (t.spawn remote).unfinished.Perm (remote.toList ++ t.unfinished) := by
  cases remote with
  | none => exact .refl _
  | some r =>
    simp only [unfinished_eq, spawn, List.map_append, List.map_singleton, List.append_assoc]
    exact List.perm_middle

/-- Taking a waiting submit out reorders the waiting ones. -/
theorem perm_takeWaiting {endpoint : String} {waiting others : List RemoteSubmit}
    {next : RemoteSubmit} (h : takeWaiting endpoint waiting = some (next, others)) :
    waiting.Perm (next :: others) := by
  induction waiting generalizing others with
  | nil => cases h
  | cons first rest ih =>
    unfold takeWaiting at h
    split at h
    · cases h
      exact .refl _
    · obtain ⟨⟨found, later⟩, htake, heq⟩ := Option.map_eq_some_iff.mp h
      cases heq
      exact ((ih htake).cons first).trans (.swap _ _ _)

theorem unfinished_release (t : Tasks) (endpoint : String) :
    (t.release endpoint).unfinished.Perm t.unfinished := by
  unfold release
  split
  · rename_i next others htake
    simp only [unfinished_eq, List.map_append, List.map_singleton, List.append_assoc]
    refine List.Perm.append_left _ ?_
    exact (perm_takeWaiting htake).symm.append_right _
  · exact .refl _

/-- An answer takes no submit away but those that share the number of the call. -/
theorem unfinished_answer {t next : Tasks} {number : Nat} {outcome : Outcome}
    (h : t.answer? number outcome = some next) :
    ∃ dropped, t.unfinished.Perm (next.unfinished ++ dropped) := by
  unfold answer? at h
  obtain ⟨call, hcall, rfl⟩ := Option.map_eq_some_iff.mp h
  have hnumber : (call.number == number) = true :=
    List.find?_some (p := fun c : OpenCall => c.number == number) hcall
  have hmem : call ∈ t.openCalls.filter fun c => c.number == number :=
    List.mem_filter.mpr ⟨List.mem_of_find?_eq_some hcall, hnumber⟩
  obtain ⟨before, after, hfound⟩ := List.append_of_mem hmem
  have hsplit := List.filter_append_perm (fun c : OpenCall => c.number == number) t.openCalls
  rw [hfound] at hsplit
  have hcalls : t.openCalls.Perm
      (call :: (t.openCalls.filter fun c => c.number != number) ++ (before ++ after)) := by
    refine hsplit.symm.trans (.trans (List.perm_middle.append_right _) (.cons call ?_))
    exact List.perm_append_comm
  refine ⟨(before ++ after).map (·.submit), ?_⟩
  simp only [unfinished_eq, List.map_append, List.map_singleton, List.append_assoc]
  refine List.Perm.append_left _ ?_
  refine (List.Perm.append_left _ (hcalls.map (·.submit))).trans ?_
  simp only [List.map_append, List.map_cons, List.cons_append, List.nil_append, Wakeup.submit]
  exact List.perm_middle

end Tasks

/-- Threads account for actions that were performed and for submits that are pending, and
for nothing else but submits that were dropped. -/
structure Ledger (settings : Settings) (verifier : Verifier) (past : List Action)
    (pending : List RemoteSubmit) (threads : List Thread) : Prop where
  settings : ∀ t ∈ threads, t.performer.settings = settings
  verifier : ∀ t ∈ threads, t.performer.verifier = verifier
  answered : ∀ t ∈ threads, t.closed = false → t.Answered
  performed : past.Perm (threads.flatMap (·.course.performed))
  inOrder : ∀ t ∈ threads, t.course.performed.Sublist past
  pending : ∃ dropped, (threads.flatMap Thread.pending).Perm (pending ++ dropped)

namespace Ledger

variable {settings : Settings} {verifier : Verifier} {past : List Action}
  {pending : List RemoteSubmit} {threads : List Thread}

theorem empty : Ledger settings verifier [] [] [] :=
  ⟨List.forall_mem_nil _, List.forall_mem_nil _, List.forall_mem_nil _, .refl _,
    List.forall_mem_nil _, [], .refl _⟩

/-- Pending submits in another order, some of them dropped. -/
theorem reorder (h : Ledger settings verifier past pending threads)
    {now dropped : List RemoteSubmit} (perm : pending.Perm (now ++ dropped)) :
    Ledger settings verifier past now threads := by
  obtain ⟨others, hpending⟩ := h.pending
  refine ⟨h.settings, h.verifier, h.answered, h.performed, h.inOrder, dropped ++ others, ?_⟩
  rw [← List.append_assoc]
  exact hpending.trans (perm.append_right others)

theorem perm (h : Ledger settings verifier past pending threads) {now : List RemoteSubmit}
    (perm : now.Perm pending) : Ledger settings verifier past now threads := by
  have hkept : pending.Perm (now ++ []) := by
    rw [List.append_nil]
    exact perm.symm
  exact h.reorder hkept

/-- A dispatch starts a thread. -/
theorem start (h : Ledger settings verifier past pending threads) {t : Thread}
    (hsettings : t.performer.settings = settings) (hverifier : t.performer.verifier = verifier)
    (hanswered : t.closed = false → t.Answered) :
    Ledger settings verifier (past ++ t.course.performed) (t.pending ++ pending)
      (threads ++ [t]) := by
  obtain ⟨dropped, hpending⟩ := h.pending
  refine ⟨?_, ?_, ?_, ?_, ?_, dropped, ?_⟩
  · exact List.forall_mem_append.mpr ⟨h.settings, List.forall_mem_singleton.mpr hsettings⟩
  · exact List.forall_mem_append.mpr ⟨h.verifier, List.forall_mem_singleton.mpr hverifier⟩
  · exact List.forall_mem_append.mpr ⟨h.answered, List.forall_mem_singleton.mpr hanswered⟩
  · rw [List.flatMap_append, List.flatMap_singleton]
    exact h.performed.append_right _
  · refine List.forall_mem_append.mpr ⟨fun other hother => ?_, List.forall_mem_singleton.mpr ?_⟩
    · exact (h.inOrder other hother).trans (List.sublist_append_left _ _)
    · exact List.sublist_append_right _ _
  · rw [List.flatMap_append, List.flatMap_singleton, List.append_assoc]
    exact List.perm_append_comm.trans (hpending.append_left _)

/-- An answer prolongs the thread that waits for it. -/
theorem resume {r : RemoteSubmit} (h : Ledger settings verifier past (r :: pending) threads)
    (later : Performer) (hsettings : later.settings = settings)
    (hverifier : later.verifier = verifier) (outcome : Outcome) (now : Context) :
    ∃ next : List Thread, next.map (·.root) = threads.map (·.root) ∧
      Ledger settings verifier (past ++ (later.resume r outcome now).performed)
        ((later.resume r outcome now).remote.toList ++ pending) next := by
  obtain ⟨dropped, hpending⟩ := h.pending
  have hmem : r ∈ threads.flatMap Thread.pending := hpending.mem_iff.mpr List.mem_cons_self
  obtain ⟨t, ht, hr⟩ := List.mem_flatMap.mp hmem
  obtain ⟨hopen, hremote⟩ : t.closed = false ∧ t.course.remote = some r := by
    unfold Thread.pending at hr
    split at hr
    · cases hr
    · rename_i hopen
      exact ⟨Bool.eq_false_iff.mpr hopen, Option.mem_toList.mp hr⟩
  have hcourse := Thread.course_resumed (hsettings.trans (h.settings t ht).symm)
    (hverifier.trans (h.verifier t ht).symm) (h.answered t ht hopen) hremote outcome now
  have hanswered : (t.resumed later outcome now).Answered :=
    List.forall_mem_append.mpr ⟨h.answered t ht hopen,
      List.forall_mem_singleton.mpr ⟨nofun, fun _ => rfl⟩⟩
  generalize later.resume r outcome now = second at hcourse ⊢
  have hperformed : (t.resumed later outcome now).course.performed =
      t.course.performed ++ second.performed := congrArg Chain.performed hcourse
  have hwaits : t.pending = [r] := by
    rw [Thread.pending, hopen, hremote]
    rfl
  have hwaits' : (t.resumed later outcome now).pending = second.remote.toList := by
    have hopen' : (t.resumed later outcome now).closed = false := hopen
    rw [Thread.pending, hopen', hcourse]
    rfl
  obtain ⟨before, after, rfl⟩ := List.append_of_mem ht
  obtain ⟨hsettings, hverifier, hanswers, hpast, hinOrder, -⟩ := h
  simp only [List.forall_mem_append, List.forall_mem_cons, List.flatMap_append, List.flatMap_cons]
    at hsettings hverifier hanswers hpast hinOrder hpending
  refine ⟨before ++ t.resumed later outcome now :: after, by simp [Thread.resumed], ?_, ?_, ?_, ?_,
    ?_, dropped, ?_⟩
  all_goals simp only [List.forall_mem_append, List.forall_mem_cons, List.flatMap_append,
    List.flatMap_cons]
  · exact hsettings
  · exact hverifier
  · exact ⟨hanswers.1, fun _ => hanswered, hanswers.2.2⟩
  · rw [hperformed]
    refine (hpast.append_right _).trans ?_
    simp only [List.append_assoc]
    exact .append_left _ (.append_left _ List.perm_append_comm)
  · have hlonger : ∀ {actions : List Action}, actions.Sublist past →
        actions.Sublist (past ++ second.performed) := fun hsub =>
      hsub.trans (List.sublist_append_left _ _)
    refine ⟨fun other ho => hlonger (hinOrder.1 other ho), ?_,
      fun other ho => hlonger (hinOrder.2.2 other ho)⟩
    rw [hperformed]
    exact hinOrder.2.1.append (.refl _)
  · rw [hwaits] at hpending
    rw [hwaits', List.append_assoc]
    have hrest := (List.perm_middle.symm.trans hpending).cons_inv
    exact (List.perm_append_comm_assoc _ _ _).trans (hrest.append_left _)

end Ledger

namespace App

/-- Goes on with what a chain led to. -/
def absorb (chain : Chain) (app : App) : App × Report :=
  let next : App := { app with context := chain.context, tasks := app.tasks.spawn chain.remote }
  ((next.publish chain.effects).1, .said chain.notices ++ (next.publish chain.effects).2)

theorem performScheduled_eq (app : App) (action : Action) :
    app.performScheduled action = app.absorb (app.performer.runFully action app.context) := rfl

theorem release_eq (app : App) (r : RemoteSubmit) :
    app.release r = { app with tasks := (app.release r).tasks } := by
  unfold release
  split <;> rfl

theorem conclude_eq (app : App) (r : RemoteSubmit) (outcome : Outcome) :
    app.conclude r outcome =
      (app.release r).absorb (app.performer.resume r outcome app.context) := by
  unfold conclude release
  split <;> rfl

theorem start_eq (app : App) (r : RemoteSubmit) :
    app.start r = { app with tasks := (app.start r).tasks, calls := (app.start r).calls } := by
  unfold start
  split
  · split <;> rfl
  · rfl

/-- The action an operation dispatches. -/
def Operation.root? (app : App) : Operation → Option Action
  | .dispatch _ data =>
    match Action.accept data with
    | .ok intake => intake.action
    | .error _ => none
  | .perform _ action => some action
  | .dismiss _ index => app.popups.head?.bind (·.action? index)
  | _ => none

/-- The actions that are dispatched in a run, in order. -/
def roots (app : App) : List Operation → List Action
  | [] => []
  | op :: rest => (op.root? app).toList ++ roots (op.apply app) rest

theorem unfinished_openCall (app : App) (r : RemoteSubmit) :
    (app.openCall r).tasks.unfinished.Perm (r :: app.tasks.unfinished) := by
  simp only [Tasks.unfinished_eq, openCall, List.map_append, List.map_singleton]
  rw [← List.append_assoc]
  exact List.perm_append_singleton _ _

theorem unfinished_start (app : App) (r : RemoteSubmit) :
    (app.start r).tasks.unfinished.Perm (r :: app.tasks.unfinished) := by
  unfold start
  split
  · split
    · simp only [Tasks.unfinished_eq, List.append_assoc]
      refine .trans (List.Perm.append_left _ List.perm_middle) ?_
      exact List.perm_middle
    · let holding : App :=
        { app with tasks := { app.tasks with held := app.tasks.held ++ [r.endpoint] } }
      exact holding.unfinished_openCall r
  · exact unfinished_openCall app r

theorem unfinished_release (app : App) (r : RemoteSubmit) :
    (app.release r).tasks.unfinished.Perm app.tasks.unfinished := by
  unfold release
  split
  · exact app.tasks.unfinished_release r.endpoint
  · exact .refl _

/-- Handling a wake-up leaves the settings and the verifier alone. -/
theorem handle_performer (app : App) (w : Wakeup) :
    (app.handle w).1.settings = app.settings ∧ (app.handle w).1.verifier = app.verifier := by
  cases w with
  | start r =>
    rw [handle, start_eq]
    exact ⟨rfl, rfl⟩
  | granted r => exact ⟨rfl, rfl⟩
  | answered r outcome =>
    rw [handle, conclude_eq, release_eq]
    exact ⟨rfl, rfl⟩

end App

/-- Threads account for a trail: for what was performed on it, from the actions that were
dispatched, and for what is pending where it led. -/
structure Tracked (settings : Settings) (verifier : Verifier) (roots : List Action)
    (t : Trail) : Prop where
  settings_eq : t.app.settings = settings
  verifier_eq : t.app.verifier = verifier
  threads : ∃ threads : List Thread, threads.map (·.root) = roots ∧
    Ledger settings verifier t.performed t.app.tasks.unfinished threads

namespace Tracked

variable {settings : Settings} {verifier : Verifier} {roots : List Action} {t : Trail}

theorem perform (h : Tracked settings verifier roots t) (carrier : Carrier) (a : Action) :
    Tracked settings verifier (roots ++ [a])
      (t.go (t.app.performExecutions carrier a) (t.app.perform carrier a).2
        (t.app.perform carrier a).1) := by
  obtain ⟨rfl, rfl, threads, rfl, hledger⟩ := h
  cases carrier with
  | scheduled =>
    let thread : Thread := ⟨t.app.performer, a, t.app.context, [], false⟩
    have hstarted := hledger.start (t := thread) rfl rfl fun _ => List.forall_mem_nil _
    have hpending := t.app.tasks.unfinished_spawn
      (t.app.performer.runFully a t.app.context).remote
    refine ⟨rfl, rfl, threads ++ [thread], by simp [thread], ?_⟩
    rw [Trail.go, App.performExecutions, App.executionsOf, App.trace_actions]
    exact hstarted.perm hpending
  | inline submitter =>
    let thread : Thread :=
      ⟨t.app.performer, a, t.app.context, t.app.inlineWorld submitter, true⟩
    have hstarted := hledger.start (t := thread) rfl rfl fun hnot => absurd hnot (by simp)
    have htasks : (t.app.perform (.inline submitter) a).1.tasks = t.app.tasks := by
      rw [App.perform, App.performInline_eq]
      rfl
    refine ⟨?_, ?_, threads ++ [thread], by simp [thread], ?_⟩
    · rw [Trail.go, App.perform, App.performInline_eq]
      rfl
    · rw [Trail.go, App.perform, App.performInline_eq]
      rfl
    · rw [Trail.go, App.performExecutions, App.inlineExecutions_actions, htasks]
      exact hstarted

/-- Handling a wake-up. -/
theorem handle (h : Tracked settings verifier roots t) {w : Wakeup} {rest : List Wakeup}
    (hready : t.app.tasks.ready = w :: rest) :
    let taken : App := { t.app with tasks := { t.app.tasks with ready := rest } }
    Tracked settings verifier roots
      (t.go (taken.wakeupExecutions w) (taken.handle w).2 (taken.handle w).1) := by
  intro taken
  obtain ⟨rfl, rfl, threads, rfl, hledger⟩ := h
  have htaken : t.app.tasks.unfinished = w.submit :: taken.tasks.unfinished := by
    simp only [Tasks.unfinished_eq, hready, List.map_cons, List.cons_append, taken]
  rw [htaken] at hledger
  obtain ⟨hsettings, hverifier⟩ := taken.handle_performer w
  cases w with
  | start r =>
    have hpending := taken.unfinished_start r
    refine ⟨hsettings, hverifier, threads, rfl, ?_⟩
    rw [App.wakeupExecutions, Trail.go, List.map_nil, List.append_nil]
    exact hledger.perm hpending
  | granted r =>
    have hpending := taken.unfinished_openCall r
    refine ⟨hsettings, hverifier, threads, rfl, ?_⟩
    rw [App.wakeupExecutions, Trail.go, List.map_nil, List.append_nil]
    exact hledger.perm hpending
  | answered r outcome =>
    obtain ⟨next, hroots, hnext⟩ :=
      hledger.resume taken.performer rfl rfl outcome taken.context
    have hspawned := (taken.release r).tasks.unfinished_spawn
      (taken.performer.resume r outcome taken.context).remote
    have hpending := hspawned.trans ((taken.unfinished_release r).append_left _)
    refine ⟨hsettings, hverifier, next, hroots, ?_⟩
    rw [App.wakeupExecutions, Trail.go, App.executionsOf, App.trace_actions, App.handle,
      App.conclude_eq]
    exact hnext.perm hpending

theorem settle (h : Tracked settings verifier roots t) :
    Tracked settings verifier roots
      (t.go t.app.settleExecutions t.app.settle.2 t.app.settle.1) :=
  Trail.handleAll (fun _ _ _ h hready => h.handle hready) _ h

theorem answered (h : Tracked settings verifier roots t) {number : Nat} {outcome : Outcome}
    {tasks : Tasks} (hanswer : t.app.tasks.answer? number outcome = some tasks) :
    Tracked settings verifier roots { t with app := { t.app with tasks } } := by
  obtain ⟨hsettings, hverifier, threads, hroots, hledger⟩ := h
  obtain ⟨dropped, hpending⟩ := Tasks.unfinished_answer hanswer
  exact ⟨hsettings, hverifier, threads, hroots, hledger.reorder hpending⟩

/-- The app moved on with the same settings and tasks, and nothing was performed. -/
theorem rests (h : Tracked settings verifier roots t) (report : Report) {next : App}
    (hsettings : next.settings = t.app.settings) (hverifier : next.verifier = t.app.verifier)
    (htasks : next.tasks = t.app.tasks) :
    Tracked settings verifier (roots ++ none.toList) (t.go [] report next) := by
  rw [Option.toList_none, List.append_nil, Trail.go, List.map_nil, List.append_nil]
  exact ⟨hsettings.trans h.settings_eq, hverifier.trans h.verifier_eq, htasks ▸ h.threads⟩

/-- An operation starts one thread at most, and prolongs others. -/
theorem apply (h : Tracked settings verifier roots t) (op : App.Operation) :
    Tracked settings verifier (roots ++ (op.root? t.app).toList)
      (t.go (op.executions t.app) (op.report t.app) (op.apply t.app)) := by
  cases op with
  | dispatch carrier data =>
    simp only [App.Operation.executions, App.Operation.apply, App.Operation.root?,
      App.Operation.report, App.Operation.notices, App.Operation.deliveries, App.dispatch]
    cases haccept : Action.accept data with
    | error fault => exact h.rests _ rfl rfl rfl
    | ok intake =>
      obtain ⟨_ | action, notices⟩ := intake
      · exact h.rests _ rfl rfl rfl
      · exact h.perform carrier action
  | perform carrier action => exact h.perform carrier action
  | dismiss carrier index =>
    simp only [App.Operation.executions, App.Operation.apply, App.Operation.root?,
      App.Operation.report, App.Operation.notices, App.Operation.deliveries, App.dismiss]
    cases hpopups : t.app.popups with
    | nil => exact h.rests _ rfl rfl rfl
    | cons shown rest =>
      have htaken : Tracked settings verifier roots
          { t with app := { t.app with popups := rest } } :=
        ⟨h.settings_eq, h.verifier_eq, h.threads⟩
      simp only [List.head?_cons, Option.bind_some]
      cases haction : shown.action? index with
      | none => exact htaken.rests _ rfl rfl rfl
      | some action => exact htaken.perform carrier action
  | setForm values => exact h.rests _ rfl rfl rfl
  | reload source =>
    simp only [App.Operation.executions, App.Operation.apply, App.Operation.root?, App.reload]
    split
    · rename_i hreload
      split at hreload
      · cases hreload
      · split at hreload <;> cases hreload
        · exact h.rests _ rfl rfl rfl
        · exact h.rests _ rfl rfl rfl
    · exact h.rests _ rfl rfl rfl
  | currentScreen => exact h.rests _ rfl rfl rfl
  | settle =>
    simp only [App.Operation.root?, Option.toList_none, List.append_nil]
    exact h.settle
  | answer number outcome =>
    simp only [App.Operation.executions, App.Operation.apply, App.Operation.root?,
      App.Operation.report, App.Operation.notices, App.Operation.deliveries, App.answer]
    cases hanswer : t.app.tasks.answer? number outcome with
    | none => exact h.rests _ rfl rfl rfl
    | some tasks =>
      rw [Option.toList_none, List.append_nil]
      exact (h.answered hanswer).settle

theorem run (h : Tracked settings verifier roots t) (ops : List App.Operation) :
    Tracked settings verifier (roots ++ t.app.roots ops)
      (t.go (t.app.history ops) (t.app.report ops) (t.app.after ops)) := by
  induction ops generalizing roots t with
  | nil =>
    rw [App.roots, List.append_nil, App.history, App.report, App.after, Trail.go_nothing]
    exact h
  | cons op rest ih =>
    have hrest := ih (h.apply op)
    rw [List.append_assoc, Trail.go_go] at hrest
    exact hrest

end Tracked

/-- The threads of a run of an app that was idle. -/
theorem App.threads_of_run {app : App} (idle : app.tasks = .none) (ops : List Operation) :
    ∃ threads : List Thread, threads.map (·.root) = app.roots ops ∧
      Ledger app.settings app.verifier ((app.history ops).map (·.action))
        (app.after ops).tasks.unfinished threads := by
  have hstart : Tracked app.settings app.verifier [] ⟨[], .silent, app⟩ :=
    ⟨rfl, rfl, [], rfl, idle ▸ .empty⟩
  exact (hstart.run ops).threads

end Storyboard
