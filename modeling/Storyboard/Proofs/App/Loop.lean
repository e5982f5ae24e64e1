import Storyboard.Proofs.App.Pending

/-!
# Apps under an event loop

While its event loop is running, what a host does comes between the turns of the loop in
any order, and so do the outcomes of open calls. A turn handles one wake-up. What is said
of settling and of answering is said of several turns in a row.
-/
namespace Storyboard

namespace Tasks

/-- The open call with a number. -/
def call? (t : Tasks) (number : Nat) : Option OpenCall :=
  t.openCalls.find? fun c => c.number == number

/-- The calls that stay open when one is not any more. -/
def close (t : Tasks) (number : Nat) : Tasks :=
  { t with openCalls := t.openCalls.filter fun c => c.number != number }

/-- Closing a call leaves the others, when their numbers are distinct. -/
theorem split_call? {t : Tasks} (distinct : (t.openCalls.map (·.number)).Nodup) {number : Nat}
    {call : OpenCall} (h : t.call? number = some call) :
    ∃ calls later, t.openCalls = calls ++ call :: later ∧
      (t.close number).openCalls = calls ++ later := by
  obtain ⟨hnumber, calls, later, hcalls, hfirst⟩ := List.find?_eq_some_iff_append.mp h
  refine ⟨calls, later, hcalls, ?_⟩
  have hlater : ∀ c ∈ later, (c.number != number) = true := by
    intro c hc
    rw [hcalls, List.map_append, List.map_cons] at distinct
    have hfresh := (List.nodup_cons.mp (List.nodup_append.mp distinct).2.1).1
    refine bne_iff_ne.mpr fun heq => hfresh ?_
    rw [eq_of_beq hnumber, ← heq]
    exact List.mem_map_of_mem hc
  have hbefore : ∀ c ∈ calls, (c.number != number) = true := hfirst
  have hgone : (call.number != number) = false := by rw [bne, hnumber, Bool.not_true]
  rw [close, hcalls, List.filter_append, List.filter_cons, hgone, List.filter_eq_self.mpr hbefore,
    List.filter_eq_self.mpr hlater]
  rfl

end Tasks

namespace App

/-- What a host does between two turns of the loop. -/
inductive Deed where
  | dispatch (data : Json)
  | perform (action : Action)
  | dismiss (index : Int)
  | setForm (values : Json)
  | reload (source : Source)
  | currentScreen

namespace Deed

/-- A deed leaves remote submits to the loop. -/
def operation : Deed → Operation
  | .dispatch data => .dispatch .scheduled data
  | .perform action => .perform .scheduled action
  | .dismiss index => .dismiss .scheduled index
  | .setForm values => .setForm values
  | .reload source => .reload source
  | .currentScreen => .currentScreen

/-- The popup that a deed takes away. -/
def dismissed (app : App) : Deed → List ShownPopup
  | .dismiss _ => app.popups.take 1
  | _ => []

end Deed

/-- What can happen next under an event loop. -/
inductive Event where
  | host (deed : Deed)
  /-- The loop handles the first wake-up. -/
  | turn
  /-- The outcome of an open call arrives: its submit goes on when the loop comes to it. -/
  | arrive (number : Nat) (outcome : Outcome)
  /-- An open call did not have to wait for its outcome: its submit goes on at once. -/
  | prompt (number : Nat) (outcome : Outcome)

/-- The app without its first wake-up. -/
def awake (app : App) (rest : List Wakeup) : App :=
  { app with tasks := { app.tasks with ready := rest } }

/-- The app without an open call. -/
def closed (app : App) (number : Nat) : App := { app with tasks := app.tasks.close number }

namespace Event

/-- What an event makes of an app, and what is reported meanwhile. -/
def happen (app : App) : Event → App × Report
  | .host deed => (deed.operation.apply app, deed.operation.report app)
  | .turn =>
    match app.tasks.ready with
    | [] => (app, .silent)
    | wakeup :: rest => (app.awake rest).handle wakeup
  | .arrive number outcome =>
    match app.tasks.answer? number outcome with
    | some tasks => ({ app with tasks }, .silent)
    | none => (app, .silent)
  | .prompt number outcome =>
    match app.tasks.call? number with
    | some call => (app.closed number).conclude call.submit outcome
    | none => (app, .silent)

def next (app : App) (e : Event) : App := (e.happen app).1

end Event

/-- The app after events. -/
def through (app : App) : List Event → App
  | [] => app
  | e :: rest => through (e.next app) rest

/-- Handling wake-ups is taking turns. -/
theorem handleAll_eq_through (fuel : Nat) (app : App) :
    (handleAll fuel app).1 = app.through (List.replicate fuel .turn) := by
  induction fuel generalizing app with
  | zero => rfl
  | succ fuel ih =>
    rw [List.replicate_succ, through]
    cases hready : app.tasks.ready with
    | nil =>
      have hstays : ∀ n, app.through (List.replicate n .turn) = app := by
        intro n
        induction n with
        | zero => rfl
        | succ n ih =>
          simp only [List.replicate_succ, through, Event.next, Event.happen, hready, ih]
      simp only [handleAll, Event.next, Event.happen, hready, hstays]
    | cons w rest =>
      simp only [handleAll, Event.next, Event.happen, hready]
      exact ih _

/-- Letting the tasks run is a sequence of events. What every sequence of them keeps is kept by
it. -/
theorem settle_eq_through (app : App) :
    app.settle.1 = app.through (List.replicate app.tasks.weight .turn) :=
  app.handleAll_eq_through app.tasks.weight

end App

/-- What starts a chain under the loop. -/
inductive Cause where
  | dispatched (action : Action)
  | concluded (r : RemoteSubmit) (outcome : Outcome)

/-- A chain that ran under the loop, with the performer and the context it found. -/
structure Leg where
  performer : Performer
  before : Context
  cause : Cause

namespace Leg

def chain (leg : Leg) : Chain :=
  match leg.cause with
  | .dispatched action => leg.performer.runFully action leg.before
  | .concluded r outcome => leg.performer.resume r outcome leg.before

/-- The submit a leg concludes, with its outcome. -/
def conclusion? (leg : Leg) : Option (RemoteSubmit × Outcome) :=
  match leg.cause with
  | .dispatched _ => none
  | .concluded r outcome => some (r, outcome)

end Leg

namespace App

namespace Event

/-- The chain that runs when an event happens. -/
def leg? (app : App) : Event → Option Leg
  | .host deed =>
    (deed.operation.root? app).map fun a => ⟨app.performer, app.context, .dispatched a⟩
  | .turn =>
    match app.tasks.ready with
    | .answered r outcome :: _ => some ⟨app.performer, app.context, .concluded r outcome⟩
    | _ => none
  | .arrive _ _ => none
  | .prompt number outcome =>
    (app.tasks.call? number).map fun call =>
      ⟨app.performer, app.context, .concluded call.submit outcome⟩

/-- The submit that starts when an event happens, if its endpoint is held. -/
def waited (app : App) : Event → List RemoteSubmit
  | .turn =>
    match app.tasks.ready with
    | .start r :: _ =>
      if app.settings.serializeSubmits && app.tasks.held.contains r.endpoint then [r] else []
    | _ => []
  | _ => []

/-- The request that is made when an event happens. -/
def made (app : App) : Event → List OpenCall
  | .turn =>
    match app.tasks.ready with
    | .start r :: _ =>
      if app.settings.serializeSubmits && app.tasks.held.contains r.endpoint then []
      else [⟨app.calls.length, r⟩]
    | .granted r :: _ => [⟨app.calls.length, r⟩]
    | _ => []
  | _ => []

/-- The outcome that arrives when an event happens. -/
def arrival? (app : App) : Event → Option Arrival
  | .arrive number outcome => (app.tasks.call? number).map fun call => ⟨call, outcome⟩
  | .prompt number outcome => (app.tasks.call? number).map fun call => ⟨call, outcome⟩
  | _ => none

/-- What an event enters in the books. -/
def entry (app : App) (e : Event) : Books where
  sent := ((e.leg? app).bind (·.chain.remote)).toList
  waited := e.waited app
  made := e.made app
  arrived := (e.arrival? app).toList
  concluded := ((e.leg? app).bind Leg.conclusion?).toList

end Event

/-- The books of a run. -/
def books (app : App) : List Event → Books
  | [] => .empty
  | e :: rest => e.entry app ++ books (e.next app) rest

/-- A deed that performs no action changes the document and the context at most, and
nobody receives anything. Another one runs a chain, the dismissed popup being gone. -/
theorem Deed.apply_cases (app : App) (deed : Deed) :
    ∃ popups, app.popups = deed.dismissed app ++ popups ∧
      match deed.operation.root? app with
      | none => deed.operation.deliveries app = [] ∧
        ∃ definition context,
          deed.operation.apply app = { app with definition, context, popups }
      | some action =>
        let chain := app.performer.runFully action app.context
        deed.operation.apply app = (absorb chain { app with popups }).1 ∧
          deed.operation.deliveries app = (absorb chain { app with popups }).2.deliveries := by
  cases deed with
  | dispatch data =>
    refine ⟨app.popups, rfl, ?_⟩
    simp only [operation, Operation.root?, Operation.deliveries, Operation.apply, App.dispatch]
    cases Action.accept data with
    | error fault => exact ⟨rfl, app.definition, app.context, rfl⟩
    | ok intake =>
      obtain ⟨_ | action, notices⟩ := intake
      · exact ⟨rfl, app.definition, app.context, rfl⟩
      · exact ⟨rfl, rfl⟩
  | perform action => exact ⟨app.popups, rfl, rfl, rfl⟩
  | dismiss index =>
    obtain ⟨settings, verifier, definition, context, _ | ⟨shown, rest⟩, listeners, tasks, calls⟩ :=
      app
    · exact ⟨[], rfl, rfl, definition, context, rfl⟩
    · refine ⟨rest, rfl, ?_⟩
      simp only [operation, Operation.root?, Operation.deliveries, Operation.apply, App.dismiss,
        List.head?_cons, Option.bind_some]
      cases shown.action? index with
      | none => exact ⟨rfl, definition, context, rfl⟩
      | some action => exact ⟨rfl, rfl⟩
  | setForm values => exact ⟨app.popups, rfl, rfl, app.definition, _, rfl⟩
  | reload source =>
    refine ⟨app.popups, rfl, rfl, ?_⟩
    simp only [operation, Operation.apply, App.reload]
    split
    · rename_i hreload
      split at hreload
      · cases hreload
      · split at hreload <;> cases hreload
        · exact ⟨app.definition, app.context, rfl⟩
        · exact ⟨_, _, rfl⟩
    · exact ⟨app.definition, app.context, rfl⟩
  | currentScreen => exact ⟨app.popups, rfl, rfl, app.definition, _, rfl⟩

theorem release_eq_released (app : App) (r : RemoteSubmit) :
    app.release r =
      { app with tasks := app.tasks.released app.settings.serializeSubmits r.endpoint } := by
  unfold release Tasks.released
  split <;> rfl

/-- An app goes on from another one: submits made moves, and books were kept of them. -/
structure Kept (base : App) (books : Books) (app : App) : Prop where
  settings : app.settings = base.settings
  moves : Tasks.Moves base.settings.serializeSubmits base.calls.length base.tasks books app.tasks
  calls : app.calls = base.calls ++ books.made.map (·.submit)

namespace Kept

variable {base app : App} {books : Books}

theorem refl (app : App) : Kept app .empty app := ⟨rfl, .none, (List.append_nil _).symm⟩

theorem nothing (h : Kept base books app) : Kept base (books ++ .empty) app := by
  rw [Books.append_empty]
  exact h

theorem number (h : Kept base books app) :
    app.calls.length = base.calls.length + books.made.length := by
  rw [h.calls, List.length_append, List.length_map]

/-- Submits move on and no request is made. -/
theorem move (h : Kept base books app) {entry : Books} {tasks : Tasks}
    (step : Tasks.Move app.settings.serializeSubmits app.calls.length app.tasks entry tasks)
    (made : entry.made = []) : Kept base (books ++ entry) { app with tasks } := by
  rw [h.number, h.settings] at step
  refine ⟨h.settings, h.moves.more step, ?_⟩
  rw [Books.made_append, made, List.append_nil]
  exact h.calls

/-- A request is made. -/
theorem call (h : Kept base books app) {r : RemoteSubmit} {tasks : Tasks}
    (step : Tasks.Move app.settings.serializeSubmits app.calls.length app.tasks
      ⟨[], [], [⟨app.calls.length, r⟩], [], []⟩ tasks) :
    Kept base (books ++ ⟨[], [], [⟨app.calls.length, r⟩], [], []⟩)
      { app with tasks, calls := app.calls ++ [r] } := by
  have hstep := step
  rw [h.number, h.settings] at hstep
  refine ⟨h.settings, ?_, ?_⟩
  · rw [h.number]
    exact h.moves.more hstep
  · rw [Books.made_append, List.map_append, List.map_singleton, ← List.append_assoc, ← h.calls]

/-- A chain ran, and its submit is sent off. -/
theorem absorb (h : Kept base books app) (chain : Chain) :
    Kept base (books ++ ⟨chain.remote.toList, [], [], [], []⟩) (App.absorb chain app).1 := by
  cases hremote : chain.remote with
  | none =>
    have htasks : (App.absorb chain app).1.tasks = app.tasks := by
      change app.tasks.spawn chain.remote = _
      rw [hremote]
      rfl
    have hkept := h.nothing
    exact ⟨h.settings, htasks ▸ hkept.moves, hkept.calls⟩
  | some r =>
    have htasks : (App.absorb chain app).1.tasks = app.tasks.spawn (some r) := by
      change app.tasks.spawn chain.remote = _
      rw [hremote]
    have hkept := h.move (.send r) rfl
    exact ⟨h.settings, htasks ▸ hkept.moves, hkept.calls⟩

/-- A submit with an outcome is concluded. -/
theorem conclude (h : Kept base books app) {r : RemoteSubmit} {outcome : Outcome}
    {rest : List Wakeup} (ready : app.tasks.ready = .answered r outcome :: rest) :
    Kept base (books ++ ⟨(app.performer.resume r outcome app.context).remote.toList, [], [], [],
        [(r, outcome)]⟩) ((app.awake rest).conclude r outcome).1 := by
  have hreleased := h.move (.conclude r outcome rest ready) rfl
  have hconcluded := hreleased.absorb (app.performer.resume r outcome app.context)
  rw [Books.append_assoc] at hconcluded
  rw [conclude_eq, release_eq_released]
  exact hconcluded

/-- A submit starts: its endpoint is held, or it makes its request. -/
theorem start (h : Kept base books app) {r : RemoteSubmit} {rest : List Wakeup}
    (ready : app.tasks.ready = .start r :: rest) :
    let blocked := app.settings.serializeSubmits && app.tasks.held.contains r.endpoint
    Kept base (books ++ ⟨[], if blocked then [r] else [],
      if blocked then [] else [⟨app.calls.length, r⟩], [], []⟩) ((app.awake rest).start r) := by
  unfold App.start awake
  cases hserial : app.settings.serializeSubmits with
  | false => exact h.call (.call r rest hserial ready)
  | true =>
    cases hheld : app.tasks.held.contains r.endpoint with
    | false =>
      refine h.call (.hold r rest hserial ready fun hmem => ?_)
      exact Bool.false_ne_true (hheld.symm.trans (List.contains_iff_mem.mpr hmem))
    | true => exact h.move (.wait r rest hserial ready (List.contains_iff_mem.mp hheld)) rfl

theorem turn (h : Kept base books app) :
    Kept base (books ++ Event.turn.entry app) (Event.turn.next app) := by
  cases hready : app.tasks.ready with
  | nil =>
    simp only [Event.entry, Event.leg?, Event.waited, Event.made, Event.arrival?, Event.next,
      Event.happen, hready]
    exact h.nothing
  | cons w rest =>
    simp only [Event.entry, Event.leg?, Event.waited, Event.made, Event.arrival?, Event.next,
      Event.happen, hready]
    cases w with
    | start r => exact h.start hready
    | granted r => exact h.call (.resume r rest hready)
    | answered r outcome => exact h.conclude hready

theorem host (h : Kept base books app) (deed : Deed) :
    Kept base (books ++ (Event.host deed).entry app) ((Event.host deed).next app) := by
  obtain ⟨popups, -, hdeed⟩ := deed.apply_cases app
  simp only [Event.entry, Event.leg?, Event.waited, Event.made, Event.arrival?, Event.next,
    Event.happen]
  cases hroot : deed.operation.root? app with
  | none =>
    rw [hroot] at hdeed
    obtain ⟨-, definition, context, hnext⟩ := hdeed
    rw [hnext]
    have hkept := h.nothing
    exact ⟨hkept.settings, hkept.moves, hkept.calls⟩
  | some action =>
    rw [hroot] at hdeed
    rw [hdeed.1]
    have htaken : Kept base books { app with popups } := ⟨h.settings, h.moves, h.calls⟩
    exact htaken.absorb (app.performer.runFully action app.context)

theorem arrive (h : Kept base books app) (distinct : (app.tasks.openCalls.map (·.number)).Nodup)
    (number : Nat) (outcome : Outcome) :
    Kept base (books ++ (Event.arrive number outcome).entry app)
      ((Event.arrive number outcome).next app) := by
  simp only [Event.entry, Event.leg?, Event.waited, Event.made, Event.arrival?, Event.next,
    Event.happen]
  cases hcall : app.tasks.call? number with
  | none =>
    have hanswer : app.tasks.answer? number outcome = none := congrArg (Option.map _) hcall
    rw [hanswer]
    exact h.nothing
  | some call =>
    obtain ⟨calls, later, hfound, hclosed⟩ := Tasks.split_call? distinct hcall
    have hanswer : app.tasks.answer? number outcome =
        some { app.tasks with
          openCalls := calls ++ later
          ready := app.tasks.ready ++ [.answered call.submit outcome] } := by
      rw [← hclosed]
      exact congrArg (Option.map _) hcall
    rw [hanswer]
    exact h.move (.arrive call outcome calls later app.tasks.ready [] hfound
      (List.append_nil _).symm) rfl

/-- An outcome that is there at once arrives ahead of all wake-ups. -/
theorem prompt (h : Kept base books app) (distinct : (app.tasks.openCalls.map (·.number)).Nodup)
    (number : Nat) (outcome : Outcome) :
    Kept base (books ++ (Event.prompt number outcome).entry app)
      ((Event.prompt number outcome).next app) := by
  simp only [Event.entry, Event.leg?, Event.waited, Event.made, Event.arrival?, Event.next,
    Event.happen]
  cases hcall : app.tasks.call? number with
  | none => exact h.nothing
  | some call =>
    obtain ⟨calls, later, hfound, hclosed⟩ := Tasks.split_call? distinct hcall
    have harrived := h.move (.arrive call outcome calls later [] app.tasks.ready hfound rfl) rfl
    have hconcluded := harrived.conclude rfl
    rw [Books.append_assoc, ← hclosed] at hconcluded
    exact hconcluded

/-- An event keeps the books, as long as open calls have numbers of their own. -/
theorem happen (h : Kept base books app)
    (distinct : (app.tasks.openCalls.map (·.number)).Nodup) (e : Event) :
    Kept base (books ++ e.entry app) (e.next app) := by
  cases e with
  | host deed => exact h.host deed
  | turn => exact h.turn
  | arrive number outcome => exact h.arrive distinct number outcome
  | prompt number outcome => exact h.prompt distinct number outcome

end Kept

/-- What an idle app came to, with the books of the way. -/
structure Underway (base : App) (books : Books) (app : App) : Prop extends Kept base books app where
  idle : base.tasks = .none

namespace Underway

variable {base app : App} {books : Books}

theorem reached (h : Underway base books app) :
    Tasks.Moves base.settings.serializeSubmits base.calls.length .none books app.tasks := by
  have hmoves := h.moves
  rw [h.idle] at hmoves
  exact hmoves

theorem distinct (h : Underway base books app) :
    (app.tasks.openCalls.map (·.number)).Nodup :=
  (List.nodup_append.mp (Tasks.Balanced.of_moves h.reached).nodup).2.1

theorem happen (h : Underway base books app) (e : Event) :
    Underway base (books ++ e.entry app) (e.next app) :=
  ⟨h.toKept.happen h.distinct e, h.idle⟩

theorem through (h : Underway base books app) (events : List Event) :
    Underway base (books ++ app.books events) (app.through events) := by
  induction events generalizing books app with
  | nil => exact ⟨h.nothing, h.idle⟩
  | cons e rest ih =>
    have hrest := ih (h.happen e)
    rw [Books.append_assoc] at hrest
    exact hrest

end Underway

/-- The books of every run of an idle app are kept. -/
theorem underway {app : App} (idle : app.tasks = .none) (events : List Event) :
    Underway app (app.books events) (app.through events) :=
  Underway.through ⟨.refl app, idle⟩ events

end App

end Storyboard
