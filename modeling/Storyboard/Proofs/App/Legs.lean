import Storyboard.Proofs.App.Loop
import Storyboard.Proofs.App.Sending

/-!
# The legs of a run

A leg is a chain that runs under an event loop: what a host dispatched, or the follow-up of
a submit that got its outcome. It finds the app as it is by then, listeners receive what it
asks for, and its submit is one that it reached. Every follow-up belongs to the submit of
an earlier leg, one level above it.
-/
namespace Storyboard

namespace Leg

/-- How many actions a leg may run. -/
def allowance (leg : Leg) : Nat :=
  match leg.cause with
  | .dispatched _ => leg.performer.settings.maxActionDepth.depth
  | .concluded r _ => r.allowance

/-- The level on which a leg starts. -/
def level (leg : Leg) : Nat := leg.performer.settings.maxActionDepth.depth - leg.allowance

/-- What a leg performs, with the levels. -/
def levels (leg : Leg) : List (Execution × Nat) :=
  leg.performer.levels leg.level leg.before leg.chain.performed

/-- The requests that a leg asks for. -/
def sent (leg : Leg) : List RemoteSubmit := Performer.sent leg.levels

/-- A leg has no more left to run than the cap. -/
def Bounded (leg : Leg) : Prop := leg.allowance ≤ leg.performer.settings.maxActionDepth.depth

theorem sent_eq {leg : Leg} (bounded : leg.Bounded) : leg.sent = leg.chain.remote.toList := by
  obtain ⟨p, c, cause⟩ := leg
  cases cause with
  | dispatched action => exact Performer.sent_run (Nat.sub_add_cancel bounded) action c
  | concluded r outcome =>
    unfold sent levels chain Performer.resume
    dsimp only
    cases r.followUp outcome with
    | none => rfl
    | some action => exact Performer.sent_run (Nat.sub_add_cancel bounded) action c

/-- A leg performs no more actions than it may run. -/
theorem linear (leg : Leg) : ∃ starts, leg.chain.Linear leg.allowance starts := by
  obtain ⟨p, c, cause⟩ := leg
  cases cause with
  | dispatched action => exact ⟨_, p.linear_run _ action c⟩
  | concluded r outcome => exact ⟨_, p.linear_resume r outcome c⟩

/-- The submit of a leg leaves less to run to its follow-up. -/
theorem allowance_lt {leg : Leg} {r : RemoteSubmit} (h : leg.chain.remote = some r) :
    r.allowance < leg.allowance := by
  obtain ⟨starts, hlinear⟩ := leg.linear
  obtain ⟨-, last, hlast, -⟩ := hlinear.pending r h
  have hbounded := hlinear.bounded
  have hleft := Chain.left_of_remote h
  have hpositive : 0 < leg.chain.performed.length :=
    List.length_pos_of_mem (List.mem_of_getLast? hlast)
  omega

/-- What is left to a request that a leg asks for begins one level below it. -/
theorem level_of_request {leg : Leg} (bounded : leg.Bounded) {e : Execution × Nat}
    (he : e ∈ leg.levels) {r : RemoteSubmit} (hr : e.1.request? e.2 = some r) :
    leg.performer.settings.maxActionDepth.depth - r.allowance = e.2 + 1 := by
  obtain ⟨hallowance, -⟩ := Execution.of_request? hr
  have hlt := Performer.level_lt he
  obtain ⟨starts, hlinear⟩ := leg.linear
  have hlength := hlinear.bounded
  rw [Performer.performer_of_levels he] at hallowance
  unfold Bounded at bounded
  unfold level at hlt
  omega

end Leg

namespace App

/-- An event and the app that it happens to. -/
structure Moment where
  app : App
  event : Event

/-- The moments of a run, in order. -/
def moments (app : App) : List Event → List Moment
  | [] => []
  | e :: rest => ⟨app, e⟩ :: moments (e.next app) rest

/-- The chains of a run, in order. -/
def legs (app : App) (events : List Event) : List Leg :=
  (app.moments events).filterMap fun m => m.event.leg? m.app

/-- The outcomes that arrive in a run, in order. -/
def arrivals (app : App) (events : List Event) : List Arrival :=
  (app.moments events).filterMap fun m => m.event.arrival? m.app

/-- What listeners receive in a run. -/
def received (app : App) (events : List Event) : List Delivery :=
  (app.moments events).flatMap fun m => (m.event.happen m.app).2.deliveries

/-- The popups that an event takes away. -/
def Event.dismissed (app : App) : Event → List ShownPopup
  | .host deed => deed.dismissed app
  | _ => []

/-- The popups that are dismissed in a run. -/
def dismissals (app : App) (events : List Event) : List ShownPopup :=
  (app.moments events).flatMap fun m => m.event.dismissed m.app

theorem legs_cons (app : App) (e : Event) (rest : List Event) :
    app.legs (e :: rest) = (e.leg? app).toList ++ (e.next app).legs rest := by
  unfold legs
  rw [moments, List.filterMap_cons]
  cases e.leg? app <;> rfl

theorem arrivals_cons (app : App) (e : Event) (rest : List Event) :
    app.arrivals (e :: rest) = (e.arrival? app).toList ++ (e.next app).arrivals rest := by
  unfold arrivals
  rw [moments, List.filterMap_cons]
  cases e.arrival? app <;> rfl

theorem dismissals_cons (app : App) (e : Event) (rest : List Event) :
    app.dismissals (e :: rest) = e.dismissed app ++ (e.next app).dismissals rest :=
  List.flatMap_cons

/-- The books of a run are those of its legs and its arrivals. -/
theorem books_eq (app : App) (events : List Event) :
    (app.books events).sent = (app.legs events).flatMap (fun leg => leg.chain.remote.toList) ∧
      (app.books events).arrived = app.arrivals events ∧
      (app.books events).concluded = (app.legs events).filterMap Leg.conclusion? := by
  induction events generalizing app with
  | nil => exact ⟨rfl, rfl, rfl⟩
  | cons e rest ih =>
    obtain ⟨hsent, harrived, hconcluded⟩ := ih (e.next app)
    rw [legs_cons, arrivals_cons, List.flatMap_append, List.filterMap_append, ← hsent, ← harrived,
      ← hconcluded]
    refine ⟨congrArg (· ++ _) ?_, rfl, congrArg (· ++ _) ?_⟩
    · unfold Event.entry
      cases e.leg? app with
      | none => rfl
      | some leg => exact (List.append_nil _).symm
    · unfold Event.entry
      cases e.leg? app with
      | none => rfl
      | some leg => cases hleg : leg.conclusion? <;> simp [hleg]

/-- What listeners receive of the effects of a chain: each one that accepts the batch
receives it, unless it is empty. -/
def handed (effects : List Effect) (listeners : List Listener) : List Delivery :=
  if effects.isEmpty then []
  else (listeners.filter fun l => l.accepts effects).map fun l => ⟨l.id, effects⟩

theorem deliveries_publish (app : App) (effects : List Effect) :
    (app.publish effects).2.deliveries = handed effects app.listeners := by
  have hdeliver : ∀ listeners : List Listener, (deliver effects listeners).deliveries =
      (listeners.filter fun l => l.accepts effects).map fun l => ⟨l.id, effects⟩ := by
    intro listeners
    induction listeners with
    | nil => rfl
    | cons l rest ih =>
      rw [deliver, List.filter_cons]
      cases haccepts : l.accepts effects with
      | false => exact ih
      | true => exact congrArg (⟨l.id, effects⟩ :: ·) ih
  unfold publish handed
  dsimp only
  split
  · rfl
  · exact hdeliver app.listeners

/-- How an event runs a chain: a deed performs an action, or the loop comes to a submit that
has its outcome and concludes it, in an app whose tasks have moved on. -/
inductive Event.Runs (app : App) : Event → Leg → Prop
  | dispatched (deed : Deed) {action : Action} (root : deed.operation.root? app = some action) :
    Runs app (.host deed) ⟨app.performer, app.context, .dispatched action⟩
  | concluded {e : Event} {r : RemoteSubmit} {outcome : Outcome} (tasks : Tasks)
    (loop : ∀ deed, e ≠ .host deed) (inFlight : r ∈ app.tasks.inFlight)
    (held : tasks.held = app.tasks.held) (waiting : tasks.waiting = app.tasks.waiting)
    (happens : e.happen app = { app with tasks }.conclude r outcome) :
    Runs app e ⟨app.performer, app.context, .concluded r outcome⟩

theorem Event.runs_of_leg {app : App} {e : Event} {leg : Leg} (h : e.leg? app = some leg) :
    e.Runs app leg := by
  cases e with
  | host deed =>
    obtain ⟨action, hroot, rfl⟩ := Option.map_eq_some_iff.mp h
    exact .dispatched deed hroot
  | turn =>
    unfold leg? at h
    cases hready : app.tasks.ready with
    | nil =>
      rw [hready] at h
      cases h
    | cons w rest =>
      rw [hready] at h
      cases w with
      | start r => cases h
      | granted r => cases h
      | answered r outcome =>
        cases h
        have hanswered : (r, outcome) ∈ app.tasks.answered := by
          rw [Tasks.answered, hready]
          exact List.mem_cons_self
        have hhappen : turn.happen app = (app.awake rest).conclude r outcome := by
          simp only [happen, hready, App.handle]
        exact .concluded (app.awake rest).tasks (fun _ heq => by cases heq)
          (List.mem_append_right _ (List.mem_map_of_mem hanswered)) rfl rfl hhappen
  | arrive number outcome => cases h
  | prompt number outcome =>
    obtain ⟨call, hcall, rfl⟩ := Option.map_eq_some_iff.mp h
    have hopen := List.mem_of_find?_eq_some hcall
    have hhappen : (prompt number outcome).happen app =
        (app.closed number).conclude call.submit outcome := by
      simp only [happen, hcall]
    exact .concluded (app.closed number).tasks (fun _ heq => by cases heq)
      (List.mem_append_left _ (List.mem_map_of_mem hopen)) rfl rfl hhappen

/-- An event that runs a chain: the chain finds the document and the context of that
moment, and what it leads to is published. -/
theorem Event.of_leg {app : App} {e : Event} {leg : Leg} (h : e.leg? app = some leg) :
    leg.performer = app.performer ∧ leg.before = app.context ∧
      ∃ popups tasks, app.popups = e.dismissed app ++ popups ∧
        e.next app = (absorb leg.chain { app with popups, tasks }).1 ∧
        (e.happen app).2.deliveries =
          (absorb leg.chain { app with popups, tasks }).2.deliveries := by
  cases runs_of_leg h with
  | dispatched deed root =>
    obtain ⟨popups, hpopups, hdeed⟩ := deed.apply_cases app
    rw [root] at hdeed
    exact ⟨rfl, rfl, popups, app.tasks, hpopups, hdeed.1, hdeed.2⟩
  | concluded _ loop _ _ _ happens =>
    rw [conclude_eq, release_eq_released] at happens
    have hstays : e.dismissed app = [] := by
      cases e with
      | host deed => exact absurd rfl (loop deed)
      | _ => rfl
    exact ⟨rfl, rfl, app.popups, _, by rw [hstays, List.nil_append], congrArg (·.1) happens,
      congrArg (·.2.deliveries) happens⟩

/-- An event that runs no chain: nobody receives anything, and what the loop does alone
leaves the context as it is. -/
theorem Event.of_rest {app : App} {e : Event} (h : e.leg? app = none) :
    (e.happen app).2.deliveries = [] ∧
      ∃ definition context popups tasks calls, app.popups = e.dismissed app ++ popups ∧
        e.next app = { app with definition, context, popups, tasks, calls } ∧
        ((∀ deed, e ≠ .host deed) → context = app.context) := by
  cases e with
  | host deed =>
    obtain ⟨popups, hpopups, hdeed⟩ := deed.apply_cases app
    rw [Option.map_eq_none_iff.mp h] at hdeed
    obtain ⟨hdeliveries, definition, context, hnext⟩ := hdeed
    exact ⟨hdeliveries, definition, context, popups, app.tasks, app.calls, hpopups, hnext,
      fun hloop => absurd rfl (hloop deed)⟩
  | turn =>
    unfold leg? at h
    simp only [next, happen]
    cases hready : app.tasks.ready with
    | nil => exact ⟨rfl, app.definition, app.context, app.popups, app.tasks, app.calls, rfl, rfl,
        fun _ => rfl⟩
    | cons w rest =>
      rw [hready] at h
      cases w with
      | start r =>
        dsimp only [App.handle]
        rw [start_eq]
        exact ⟨rfl, app.definition, app.context, app.popups, _, _, rfl, rfl, fun _ => rfl⟩
      | granted r =>
        exact ⟨rfl, app.definition, app.context, app.popups, _, _, rfl, rfl, fun _ => rfl⟩
      | answered r outcome => cases h
  | arrive number outcome =>
    simp only [next, happen]
    cases app.tasks.answer? number outcome with
    | none => exact ⟨rfl, app.definition, app.context, app.popups, app.tasks, app.calls, rfl, rfl,
        fun _ => rfl⟩
    | some tasks => exact ⟨rfl, app.definition, app.context, app.popups, tasks, app.calls, rfl, rfl,
        fun _ => rfl⟩
  | prompt number outcome =>
    simp only [next, happen, Option.map_eq_none_iff.mp h]
    exact ⟨rfl, app.definition, app.context, app.popups, app.tasks, app.calls, rfl, rfl,
      fun _ => rfl⟩

theorem through_append (app : App) (first second : List Event) :
    app.through (first ++ second) = (app.through first).through second := by
  induction first generalizing app with
  | nil => rfl
  | cons e rest ih => exact ih (e.next app)

/-- Listeners stay through every event. -/
theorem Event.listeners_next (app : App) (e : Event) : (e.next app).listeners = app.listeners := by
  cases hleg : e.leg? app with
  | none =>
    obtain ⟨-, _, _, _, _, _, -, hnext, -⟩ := of_rest hleg
    rw [hnext]
  | some leg =>
    obtain ⟨-, -, _, _, -, hnext, -⟩ := of_leg hleg
    rw [hnext]
    rfl

/-- Listeners receive what the chains of a run led to, in order. -/
theorem received_eq (app : App) (events : List Event) :
    app.received events =
      (app.legs events).flatMap fun leg => handed leg.chain.effects app.listeners := by
  induction events generalizing app with
  | nil => rfl
  | cons e rest ih =>
    have hrest := ih (e.next app)
    rw [e.listeners_next app] at hrest
    rw [legs_cons, List.flatMap_append, ← hrest, received, moments, List.flatMap_cons]
    refine congrArg (· ++ _) ?_
    cases hleg : e.leg? app with
    | none => exact (Event.of_rest hleg).1
    | some leg =>
      obtain ⟨-, -, popups, tasks, -, -, hdeliveries⟩ := Event.of_leg hleg
      rw [hdeliveries, Option.toList_some, List.flatMap_singleton]
      let next : App :=
        { app with popups, context := leg.chain.context, tasks := tasks.spawn leg.chain.remote }
      exact next.deliveries_publish leg.chain.effects

/-- The popups that the chains of a run led to join the queue, which the dismissed ones
leave from the front. -/
theorem popups_eq (app : App) (events : List Event) :
    app.popups ++ (app.legs events).flatMap (fun leg => leg.chain.effects.filterMap Effect.popup?) =
      app.dismissals events ++ (app.through events).popups := by
  induction events generalizing app with
  | nil => exact List.append_nil _
  | cons e rest ih =>
    have hrest := ih (e.next app)
    have hhere : app.popups ++ (e.leg? app).toList.flatMap
        (fun leg => leg.chain.effects.filterMap Effect.popup?) =
          e.dismissed app ++ (e.next app).popups := by
      cases hleg : e.leg? app with
      | none =>
        obtain ⟨-, _, _, popups, _, _, hpopups, hnext, -⟩ := Event.of_rest hleg
        rw [hnext]
        exact (List.append_nil _).trans hpopups
      | some leg =>
        obtain ⟨-, -, popups, tasks, hpopups, hnext, -⟩ := Event.of_leg hleg
        rw [hnext, Option.toList_some, List.flatMap_singleton, hpopups, List.append_assoc]
        rfl
    rw [legs_cons, List.flatMap_append, ← List.append_assoc, hhere, List.append_assoc, hrest,
      dismissals_cons, List.append_assoc]
    rfl

/-- A leg with the settings of an app follows earlier ones: what it concludes is the submit
of one of them. -/
structure Follows (app : App) (before : List Leg) (leg : Leg) : Prop where
  settings : leg.performer.settings = app.settings
  bounded : leg.Bounded
  origin : ∀ pair, leg.conclusion? = some pair →
    ∃ earlier ∈ before, earlier.chain.remote = some pair.1

theorem Event.follows {base app : App} {books : Books} (h : Underway base books app)
    {past : List Leg} (hsent : books.sent = past.flatMap fun leg => leg.chain.remote.toList)
    (hpast : ∀ leg ∈ past, leg.performer.settings = base.settings ∧ leg.Bounded)
    {e : Event} {leg : Leg} (hleg : e.leg? app = some leg) : Follows base past leg := by
  obtain ⟨hperformer, -, -⟩ := of_leg hleg
  have hsettings : leg.performer.settings = base.settings := by
    rw [hperformer]
    exact h.settings
  have horigin : ∀ pair, leg.conclusion? = some pair →
      ∃ earlier ∈ past, earlier.chain.remote = some pair.1 := by
    intro pair hpair
    have hinFlight : pair.1 ∈ app.tasks.inFlight := by
      cases runs_of_leg hleg with
      | dispatched => cases hpair
      | concluded _ _ inFlight _ _ _ =>
        cases hpair
        exact inFlight
    have hmem := Tasks.inFlight_sent h.reached _ hinFlight
    rw [hsent] at hmem
    obtain ⟨earlier, hearlier, hremote⟩ := List.mem_flatMap.mp hmem
    exact ⟨earlier, hearlier, Option.mem_toList.mp hremote⟩
  refine ⟨hsettings, ?_, horigin⟩
  unfold Leg.Bounded
  cases hcause : leg.cause with
  | dispatched action => exact Nat.le_of_eq (by simp only [Leg.allowance, hcause])
  | concluded r outcome =>
    obtain ⟨earlier, hearlier, hremote⟩ :=
      horigin (r, outcome) (by simp only [Leg.conclusion?, hcause])
    obtain ⟨hsame, hbounded⟩ := hpast earlier hearlier
    have hlt : r.allowance < earlier.allowance := Leg.allowance_lt hremote
    unfold Leg.Bounded at hbounded
    simp only [Leg.allowance, hcause]
    rw [hsettings, ← hsame]
    omega

theorem Underway.legs_follow {base app : App} {books : Books} (h : Underway base books app)
    {past : List Leg} (hsent : books.sent = past.flatMap fun leg => leg.chain.remote.toList)
    (hpast : ∀ leg ∈ past, leg.performer.settings = base.settings ∧ leg.Bounded)
    (events : List Event) {before after : List Leg} {leg : Leg}
    (hlegs : app.legs events = before ++ leg :: after) : Follows base (past ++ before) leg := by
  induction events generalizing app books past before with
  | nil => cases before <;> cases hlegs
  | cons e rest ih =>
    have hnext := h.happen e
    rw [legs_cons] at hlegs
    cases hleg : e.leg? app with
    | none =>
      rw [hleg] at hlegs
      refine ih hnext ?_ hpast hlegs
      rw [Books.sent_append, Event.entry, hleg]
      exact (List.append_nil _).trans hsent
    | some first =>
      have hfollows := Event.follows h hsent hpast hleg
      rw [hleg] at hlegs
      cases before with
      | nil =>
        obtain ⟨rfl, -⟩ := List.cons.inj hlegs
        rw [List.append_nil]
        exact hfollows
      | cons second earlier =>
        obtain ⟨rfl, hlater⟩ := List.cons.inj hlegs
        rw [List.append_cons]
        refine ih hnext ?_ ?_ hlater
        · rw [Books.sent_append, hsent, List.flatMap_append, List.flatMap_singleton, Event.entry,
            hleg]
          rfl
        · exact List.forall_mem_append.mpr
            ⟨hpast, List.forall_mem_singleton.mpr ⟨hfollows.settings, hfollows.bounded⟩⟩

/-- Every leg of a run of an idle app follows the ones before it. -/
theorem legs_follow {app : App} (idle : app.tasks = .none) (events : List Event)
    {before after : List Leg} {leg : Leg} (hlegs : app.legs events = before ++ leg :: after) :
    Follows app before leg := by
  have hfollows : Follows app ([] ++ before) leg :=
    Underway.legs_follow ⟨.refl app, idle⟩ rfl (List.forall_mem_nil _) events hlegs
  exact hfollows

end App

end Storyboard
