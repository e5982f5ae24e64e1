import Storyboard.Proofs.App.Progress

/-!
# Deferred submits complete once

Under an event loop every remote submit that a chain reaches makes one request, with the
form as it stood; every request gets one outcome; every outcome is followed up once, one
level deeper and in the app as it is by then; and what the follow-up asks of the host is
handed over once. Nothing that happens in between takes a submit away, and when waiting
for the pending submits is over, none is left.
-/
namespace Storyboard

/-- The follow-up of a submit begins with the branch of its outcome, if the submit has that
branch and the cap leaves room for it. -/
theorem Leg.head_performed {leg : Leg} (bounded : leg.Bounded) {r : RemoteSubmit}
    {outcome : Outcome} (h : leg.conclusion? = some (r, outcome)) :
    leg.chain.performed.head? =
      if leg.level < leg.performer.settings.maxActionDepth.depth then r.followUp outcome
      else none := by
  obtain ⟨p, c, cause⟩ := leg
  cases cause with
  | dispatched action => cases h
  | concluded r' outcome' =>
    cases h
    have hroom : 0 < r.allowance ↔ level ⟨p, c, .concluded r outcome⟩ <
        p.settings.maxActionDepth.depth := by
      unfold Bounded at bounded
      unfold level
      dsimp only [allowance] at bounded ⊢
      omega
    rw [← if_congr hroom rfl rfl]
    exact p.head_resume r outcome c

namespace App

/-- The submits of a run are completed once. -/
structure CompletesOnce (app : App) (events : List Event) : Prop where
  /-- Each submit that a chain reached makes one request, or is still to make it. -/
  requested : ∃ requests, (app.through events).calls = app.calls ++ requests ∧
    ((app.legs events).flatMap Leg.sent).Perm (requests ++ (app.through events).tasks.unsent)
  /-- The payload of a request has the form values of the fields that the submit names, at the
  moment it was executed, and its branches are those of the submit. -/
  payload : ∀ leg ∈ app.legs events, ∀ e ∈ leg.levels, ∀ r, e.1.request? e.2 = some r →
    ∃ a, e.1.action = .submit a ∧ a.isDatabase = false ∧ a.remoteEndpoint? = some r.endpoint ∧
      (∀ id, Assoc.get? r.payload id =
        if id ∈ a.fieldIds then some (Form.value e.1.before.form id) else none) ∧
      r.onSuccess = a.onSuccess.toOption ∧ r.onError = a.onError.toOption
  /-- The submit itself leaves the context alone, and so does the loop until its outcome is
  followed up. -/
  untouched : (∀ leg ∈ app.legs events, ∀ e ∈ leg.levels, (e.1.request? e.2).isSome = true →
      e.1.after = e.1.before) ∧
    ∀ m ∈ app.moments events, m.event.leg? m.app = none → (∀ deed, m.event ≠ .host deed) →
      (m.event.next m.app).context = m.app.context
  /-- Each request is open or has had one outcome arrive. -/
  answered : ((app.arrivals events).map (·.call.number) ++
      (app.through events).tasks.openCalls.map (·.number)).Perm
    (List.range' app.calls.length ((app.through events).calls.length - app.calls.length))
  /-- The outcome that arrives for a number is that of the request with the number. -/
  numbered : ∀ a ∈ app.arrivals events,
    (app.through events).calls[a.call.number]? = some a.call.submit
  /-- Each outcome that arrived is followed up by one leg, or is still to be. -/
  concluded : ((app.arrivals events).map fun a => (a.call.submit, a.outcome)).Perm
    ((app.legs events).filterMap Leg.conclusion? ++ (app.through events).tasks.answered)
  /-- What follows an outcome is the branch it takes, within the cap, one level deeper than
  the submit. -/
  followed : ∀ before leg after, app.legs events = before ++ leg :: after →
    ∀ r outcome, leg.conclusion? = some (r, outcome) →
      leg.chain.performed.head? = (if leg.level < app.settings.maxActionDepth.depth
        then r.followUp outcome else none) ∧
      ∃ earlier ∈ before, ∃ e ∈ earlier.levels,
        e.1.request? e.2 = some r ∧ leg.level = e.2 + 1
  /-- A chain finds the document and the context of the moment at which it runs. -/
  present : ∀ m ∈ app.moments events, ∀ leg, m.event.leg? m.app = some leg →
    leg.performer = m.app.performer ∧ leg.before = m.app.context ∧
      (m.event.next m.app).context = leg.chain.context
  /-- Listeners receive the effects of each chain once. -/
  delivered : app.received events =
    (app.legs events).flatMap fun leg => handed leg.chain.effects app.listeners
  /-- The popups of each chain join the queue once. -/
  shown : app.popups ++
      (app.legs events).flatMap (fun leg => leg.chain.effects.filterMap Effect.popup?) =
    app.dismissals events ++ (app.through events).popups

/-- Every submit of a run was concluded by one of its legs, and none is pending. -/
structure AllDone (app : App) (events : List Event) : Prop where
  pending : (app.through events).tasks.unfinished = []
  concluded : ((app.legs events).flatMap Leg.sent).Perm
    (((app.legs events).filterMap Leg.conclusion?).map (·.1))

section

variable {app : App} (idle : app.tasks = .none) (events : List Event)

include idle

theorem legs_bounded : ∀ leg ∈ app.legs events,
    leg.performer.settings = app.settings ∧ leg.Bounded := by
  intro leg hleg
  obtain ⟨before, after, hlegs⟩ := List.append_of_mem hleg
  have hfollows := legs_follow idle events hlegs
  exact ⟨hfollows.settings, hfollows.bounded⟩

theorem flatMap_sent : (app.legs events).flatMap Leg.sent = (app.books events).sent := by
  rw [(app.books_eq events).1]
  exact List.flatMap_congr fun leg hleg => Leg.sent_eq (legs_bounded idle events leg hleg).2

theorem completesOnce : app.CompletesOnce events := by
  have hunderway := underway idle events
  have hreached := hunderway.reached
  have hbalanced := Tasks.Balanced.of_moves hreached
  obtain ⟨-, harrived, hconcluded⟩ := app.books_eq events
  have hnumber := hunderway.number
  refine ⟨⟨_, hunderway.calls, ?_⟩, ?_, ⟨?_, ?_⟩, ?_, ?_, ?_, ?_, ?_, ?_, ?_⟩
  · rw [flatMap_sent idle]
    exact (Tasks.InOrder.of_moves hreached).sent_perm
  · intro leg _ e _ r hr
    exact (Execution.of_request? hr).2
  · intro leg _ e _ hr
    exact Performer.context_of_request? hr
  · intro m _ hrest hloop
    obtain ⟨-, _, _, _, _, _, -, hnext, hcontext⟩ := Event.of_rest hrest
    rw [hnext]
    exact hcontext hloop
  · have hmade := hbalanced.made.map (·.number)
    rw [hbalanced.numbered, List.map_append, List.map_map, harrived] at hmade
    have hlength : (app.through events).calls.length - app.calls.length =
        (app.books events).made.length := by omega
    rw [hlength]
    exact hmade.symm
  · intro a ha
    rw [hunderway.calls]
    refine hbalanced.request rfl (hbalanced.made.mem_iff.mpr (List.mem_append_left _ ?_))
    rw [harrived]
    exact List.mem_map_of_mem ha
  · rw [← harrived, ← hconcluded]
    exact hbalanced.arrived
  · intro before leg after hlegs r outcome hconclusion
    obtain ⟨hsettings, hbounded, horigin⟩ := legs_follow idle events hlegs
    obtain ⟨earlier, hearlier, hremote⟩ := horigin _ hconclusion
    refine ⟨hsettings ▸ Leg.head_performed hbounded hconclusion, earlier, hearlier, ?_⟩
    obtain ⟨hsame, hroom⟩ := legs_bounded idle events earlier
      (hlegs ▸ List.mem_append_left _ hearlier)
    have hsent : r ∈ earlier.sent := by
      rw [Leg.sent_eq hroom, hremote]
      exact List.mem_singleton_self r
    obtain ⟨e, he, hrequest⟩ := List.mem_filterMap.mp hsent
    refine ⟨e, he, hrequest, ?_⟩
    have hlevel := Leg.level_of_request hroom he hrequest
    have hallowance : leg.allowance = r.allowance := by
      unfold Leg.conclusion? at hconclusion
      unfold Leg.allowance
      cases hcause : leg.cause with
      | dispatched action =>
        rw [hcause] at hconclusion
        cases hconclusion
      | concluded r' outcome' =>
        rw [hcause] at hconclusion
        cases hconclusion
        rfl
    rw [Leg.level, hallowance, hsettings, ← hsame]
    exact hlevel
  · intro m _ leg hleg
    obtain ⟨hperformer, hbefore, _, _, -, hnext, -⟩ := Event.of_leg hleg
    rw [hnext]
    exact ⟨hperformer, hbefore, rfl⟩
  · exact app.received_eq events
  · exact app.popups_eq events

theorem allDone (rested : (app.through events).tasks.isBusy = false) : app.AllDone events := by
  obtain ⟨hinFlight, hunsent, hunfinished⟩ := Tasks.of_idle rested
  refine ⟨hunfinished, ?_⟩
  have hsent := Tasks.sent_perm_concluded (underway idle events).reached
  rw [hinFlight, hunsent, List.append_nil, List.append_nil, (app.books_eq events).2.2] at hsent
  rw [flatMap_sent idle]
  exact hsent

end

end App

/-- The submits of every run of an idle app are completed once, in whatever order the host,
the loop and the outcomes come. When waiting for the pending ones is over, all of them are
concluded, those of the follow-ups included; and the loop gets there within a bound, as
long as outcomes keep arriving. -/
theorem deferred_submits_complete_once {app : App} (idle : app.tasks = .none)
    (events : List App.Event) :
    app.CompletesOnce events ∧
    (∀ waited, (app.through events).Awaits waited → app.AllDone (events ++ waited)) ∧
    ((app.through events).tasks.isBusy = true → ∃ e : App.Event, e.Advances (app.through events)) ∧
    (∀ turns, (app.through events).Lively turns →
      turns.length + ((app.through events).through turns).tasks.toil ≤
        (app.through events).tasks.toil) := by
  have hunderway := App.underway idle events
  refine ⟨App.completesOnce idle events, fun waited hwaited => ?_, hunderway.goes_on,
    fun turns lively => hunderway.length_le_toil lively⟩
  refine App.allDone idle _ ?_
  rw [App.through_append]
  exact hwaited.idle

/-- An app that letters can be sent from. -/
def postOffice : App where
  settings := .default
  verifier := .plaintext
  definition := ⟨"1", ⟨"Post office", .absent, .absent, .absent, .absent, []⟩, [], "home", []⟩
  context := .start .empty ⟨.counter, 0⟩ "home"
  popups := []
  listeners := [⟨0, fun _ => true⟩]
  tasks := .none
  calls := []

/-- A submit of one field, with a popup for its success. -/
def letter : Action :=
  .submit ⟨.absent, .value "https://a.example", .absent, .absent, .absent,
    .value [("text", "note")], .value (.popup ⟨.absent, "Sent", .absent, .absent, []⟩), .absent, []⟩

/-- Two letters are sent off, with a change of the form between them. -/
def twoLetters : List App.Event :=
  [.host (.setForm (.obj [("note", .str "first")])), .host (.perform letter),
    .host (.setForm (.obj [("note", .str "second")])), .host (.perform letter), .turn, .turn]

/-- The second one is refused before the first one succeeds. -/
def twoAnswers : List App.Event :=
  [.arrive 1 (.refused "https://a.example" "full"), .arrive 0 .succeeded, .turn, .turn]

theorem two_letters_complete_once :
    postOffice.tasks = .none ∧ postOffice.CompletesOnce twoLetters ∧
      postOffice.AllDone (twoLetters ++ twoAnswers) ∧
      (∃ e : App.Event, e.Advances (postOffice.through twoLetters)) ∧
      (postOffice.through (twoLetters ++ twoAnswers)).calls.map (·.payload) =
        [[("note", .str "first")], [("note", .str "second")]] ∧
      (postOffice.through (twoLetters ++ twoAnswers)).popups.length = 1 := by
  have idle : postOffice.tasks = .none := rfl
  obtain ⟨honce, hdone, hadvances, -⟩ := deferred_submits_complete_once idle twoLetters
  have hawaits : (postOffice.through twoLetters).Awaits (twoAnswers ++ []) := .again rfl (.done rfl)
  rw [List.append_nil] at hawaits
  exact ⟨idle, honce, hdone twoAnswers hawaits, hadvances rfl, rfl, rfl⟩

end Storyboard
