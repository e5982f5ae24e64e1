import Storyboard.Proofs.App.Progress

/-!
# Serialised submits exclude each other

With serialised submits an endpoint has one request in flight at a time, and the submits
that are sent to it make their requests in the order in which they were sent off. A submit
is kept waiting by another one to its own endpoint only. An endpoint is let go of before the
follow-up of its last holder is sent off, so a submit may lead to another one to the same
endpoint, and the pending submits still come to an end.
-/
namespace Storyboard

namespace Tasks

variable {t : Tasks}

/-- An endpoint that is let go of is free, or a submit that waited for it was handed it. -/
theorem freed_or_handed (exclusive : t.held.Nodup) (endpoint : String) :
    endpoint ∉ (t.released true endpoint).held ∨
      ∃ next ∈ t.waiting, next.endpoint = endpoint ∧
        .granted next ∈ (t.released true endpoint).ready := by
  simp only [released, if_true, release]
  split
  · rename_i next others htake
    obtain ⟨hnext, before, after, hwaiting, -, -⟩ := split_takeWaiting htake
    refine .inr ⟨next, ?_, hnext, List.mem_append_right _ (List.mem_singleton_self _)⟩
    rw [hwaiting]
    exact List.mem_append_right _ List.mem_cons_self
  · exact .inl exclusive.not_mem_erase

/-- The endpoint that a submit waits for has a holder. -/
theorem Locked.blocker (h : Locked true t) {r : RemoteSubmit} (hr : r ∈ t.waiting) :
    ∃ holder ∈ t.holders, holder.endpoint = r.endpoint :=
  List.mem_map.mp ((h.held rfl).mem_iff.mpr (h.blocked r hr))

/-- With nothing to be handled, a submit that has made no request waits for an open call to
its own endpoint. -/
theorem Locked.blocked_by_open (h : Locked true t) (hready : t.ready = []) {r : RemoteSubmit}
    (hr : r ∈ t.unsent) : ∃ call ∈ t.openCalls, call.submit.endpoint = r.endpoint := by
  have hwaiting : r ∈ t.waiting := by simpa [unsent, granted, started, hready] using hr
  obtain ⟨holder, hholder, hsame⟩ := h.blocker hwaiting
  have hopen : holder ∈ t.openCalls.map (·.submit) := by
    simpa [holders, inFlight, answered, granted, hready] using hholder
  obtain ⟨call, hcall, rfl⟩ := List.mem_map.mp hopen
  exact ⟨call, hcall, hsame⟩

/-- Each endpoint has one request in flight at most. -/
theorem Locked.inFlight_nodup (h : Locked true t) : (t.inFlight.map (·.endpoint)).Nodup := by
  have hholders := (h.held rfl).nodup_iff.mpr h.exclusive
  rw [holders, List.map_append] at hholders
  exact (List.nodup_append.mp hholders).1

end Tasks

namespace App

/-- A submit that starts makes its request unless another one holds its endpoint. -/
theorem calls_of_start {app : App} (locked : Tasks.Locked true app.tasks)
    (serialised : app.settings.serializeSubmits = true) {r : RemoteSubmit} {rest : List Wakeup}
    (ready : app.tasks.ready = .start r :: rest) :
    (Event.turn.next app).calls = app.calls ++ [r] ↔
      ∀ holder ∈ app.tasks.holders, holder.endpoint ≠ r.endpoint := by
  have hheld : app.tasks.held.contains r.endpoint = true ↔
      ∃ holder ∈ app.tasks.holders, holder.endpoint = r.endpoint := by
    rw [List.contains_iff_mem, ← (locked.held rfl).mem_iff, List.mem_map]
  have hcalls : (Event.turn.next app).calls =
      app.calls ++ (Event.turn.made app).map (·.submit) := (Kept.refl app).turn.calls
  simp only [Event.made, ready, serialised, Bool.true_and] at hcalls
  rw [hcalls]
  constructor
  · intro hmade holder hholder hsame
    rw [if_pos (hheld.mpr ⟨holder, hholder, hsame⟩)] at hmade
    exact List.cons_ne_nil r [] (List.append_cancel_left hmade).symm
  · intro hfree
    rw [if_neg fun hcontains => ?_]
    · rfl
    · obtain ⟨holder, hholder, hsame⟩ := hheld.mp hcontains
      exact hfree holder hholder hsame

/-- Concluding a submit, its endpoint is let go of first, and what its follow-up leads to is
sent off then. -/
theorem Event.released_of_leg {app : App} {e : Event} {leg : Leg} (h : e.leg? app = some leg)
    {r : RemoteSubmit} {outcome : Outcome} (hconclusion : leg.conclusion? = some (r, outcome)) :
    ∃ t : Tasks, t.held = app.tasks.held ∧ t.waiting = app.tasks.waiting ∧
      (e.next app).tasks =
        (t.released app.settings.serializeSubmits r.endpoint).spawn leg.chain.remote := by
  cases runs_of_leg h with
  | dispatched => cases hconclusion
  | concluded _ _ _ held waiting happens =>
    cases hconclusion
    refine ⟨_, held, waiting, ?_⟩
    rw [next, happens, conclude_eq, release_eq_released]
    rfl

/-- An app that a run comes by. -/
theorem through_of_moment {app : App} {events : List Event} {m : Moment}
    (h : m ∈ app.moments events) : ∃ before, m.app = app.through before := by
  induction events generalizing app with
  | nil => cases h
  | cons e rest ih =>
    rcases List.mem_cons.mp h with rfl | hrest
    · exact ⟨[], rfl⟩
    · obtain ⟨before, hbefore⟩ := ih hrest
      exact ⟨e :: before, hbefore⟩

/-- The submits to one endpoint exclude each other, and those to others do not matter. -/
structure ExclusiveEndpoints (app : App) (events : List Event) : Prop where
  /-- One request is in flight at each endpoint, at most. -/
  alone : ((app.through events).tasks.inFlight.map (·.endpoint)).Nodup
  /-- Requests to one endpoint are made in the order in which the submits were sent off. -/
  inOrder : ∃ requests, (app.through events).calls = app.calls ++ requests ∧
    ∀ endpoint, Tasks.submitsTo endpoint requests <+:
      Tasks.submitsTo endpoint ((app.legs events).flatMap fun leg => leg.chain.remote.toList)
  /-- A submit makes its request as soon as the loop comes to it, unless another one holds its
  own endpoint. -/
  begins : ∀ r rest, (app.through events).tasks.ready = .start r :: rest →
    ((Event.turn.next (app.through events)).calls = (app.through events).calls ++ [r] ↔
      ∀ holder ∈ (app.through events).tasks.holders, holder.endpoint ≠ r.endpoint)
  /-- With nothing to be handled, a submit is kept from its request by an open call to its own
  endpoint only. -/
  blocked : (app.through events).tasks.ready = [] → ∀ r ∈ (app.through events).tasks.unsent,
    ∃ call ∈ (app.through events).tasks.openCalls, call.submit.endpoint = r.endpoint
  /-- A submit lets go of its endpoint before its follow-up sends anything off: by then the
  endpoint is free, or it was handed to a submit that had waited for it. -/
  released : ∀ m ∈ app.moments events, ∀ leg, m.event.leg? m.app = some leg →
    ∀ r outcome, leg.conclusion? = some (r, outcome) →
      ∃ freed : Tasks, (m.event.next m.app).tasks = freed.spawn leg.chain.remote ∧
        (r.endpoint ∉ freed.held ∨ ∃ next ∈ m.app.tasks.waiting, next.endpoint = r.endpoint ∧
          .granted next ∈ freed.ready)

end App

/-- Serialised submits exclude each other at each endpoint, in every run of an idle app. None
of them is blocked for good: while submits are pending the loop can go on, and what it does
alone comes to an end, at which no submit is left, those of the follow-ups included. -/
theorem endpoints_exclude_each_other {app : App} (idle : app.tasks = .none)
    (serialised : app.settings.serializeSubmits = true) (events : List App.Event) :
    app.ExclusiveEndpoints events ∧
    ((app.through events).tasks.isBusy = true → ∃ e : App.Event, e.Advances (app.through events)) ∧
    (∀ turns, (app.through events).Lively turns →
      turns.length + ((app.through events).through turns).tasks.toil ≤
        (app.through events).tasks.toil) ∧
    ∃ turns, (app.through events).Lively turns ∧
      ((app.through events).through turns).tasks.unfinished = [] := by
  have hlocked : ∀ before, Tasks.Locked true (app.through before).tasks := fun before =>
    serialised ▸ .of_moves (App.underway idle before).reached
  have hserial : ∀ before, (app.through before).settings.serializeSubmits = true := fun before =>
    (congrArg Settings.serializeSubmits (App.underway idle before).settings).trans serialised
  have hunderway := App.underway idle events
  obtain ⟨turns, hlively, hrested⟩ := hunderway.comes_to_rest
  refine ⟨⟨(hlocked events).inFlight_nodup, ⟨_, hunderway.calls, fun endpoint => ?_⟩, ?_, ?_, ?_⟩,
    hunderway.goes_on, fun turns lively => hunderway.length_le_toil lively,
    turns, hlively, (Tasks.of_idle hrested).2.2⟩
  · rw [← (app.books_eq events).1, Tasks.InOrder.of_moves hunderway.reached endpoint,
      Tasks.submitsTo_append]
    exact List.prefix_append _ _
  · intro r rest ready
    exact App.calls_of_start (hlocked events) (hserial events) ready
  · intro ready r hr
    exact (hlocked events).blocked_by_open ready hr
  · intro m hm leg hleg r outcome hconclusion
    obtain ⟨before, hbefore⟩ := App.through_of_moment hm
    obtain ⟨t, hheld, hwaiting, hnext⟩ := App.Event.released_of_leg hleg hconclusion
    rw [hbefore, hserial before] at hnext
    refine ⟨_, hbefore ▸ hnext, ?_⟩
    rw [← hwaiting]
    refine Tasks.freed_or_handed ?_ r.endpoint
    rw [hheld, hbefore]
    exact (hlocked before).exclusive

/-- An app whose submits are serialised. -/
def switchboard : App where
  settings := { Settings.default with serializeSubmits := true }
  verifier := .plaintext
  definition := ⟨"1", ⟨"Switchboard", .absent, .absent, .absent, .absent, []⟩, [], "home", []⟩
  context := .start .empty ⟨.counter, 0⟩ "home"
  popups := []
  listeners := []
  tasks := .none
  calls := []

/-- A submit to an endpoint, with a follow-up for its success. -/
def ring (endpoint : String) (onSuccess : Slot Action) : Action :=
  .submit ⟨.absent, .value endpoint, .absent, .absent, .absent, .absent, onSuccess, .absent, []⟩

/-- A submit that leads to another one to its own endpoint, a second submit to that endpoint,
and one to another endpoint. -/
def threeRings : List App.Event :=
  [.host (.perform (ring "https://a.example" (.value (ring "https://a.example" .absent)))),
    .host (.perform (ring "https://a.example" .absent)),
    .host (.perform (ring "https://b.example" .absent)), .turn, .turn, .turn]

/-- All of them are answered, the follow-up last. -/
def fourAnswers : List App.Event :=
  [.arrive 0 .succeeded, .turn, .turn, .turn, .arrive 2 .crashed, .turn, .turn,
    .arrive 1 .succeeded, .turn, .prompt 3 .succeeded]

theorem three_rings_exclude_each_other :
    switchboard.tasks = .none ∧ switchboard.settings.serializeSubmits = true ∧
      switchboard.ExclusiveEndpoints threeRings ∧
      (switchboard.through threeRings).tasks.inFlight.map (·.endpoint) =
        ["https://a.example", "https://b.example"] ∧
      (switchboard.through threeRings).tasks.waiting.map (·.endpoint) = ["https://a.example"] ∧
      (∃ e : App.Event, e.Advances (switchboard.through threeRings)) ∧
      fourAnswers.length ≤ (switchboard.through threeRings).tasks.toil ∧
      ((switchboard.through threeRings).through fourAnswers).tasks.unfinished = [] := by
  have idle : switchboard.tasks = .none := rfl
  have serialised : switchboard.settings.serializeSubmits = true := rfl
  obtain ⟨hexclusive, hgoes, hbound, -⟩ := endpoints_exclude_each_other idle serialised threeRings
  have hlively : (switchboard.through threeRings).Lively fourAnswers :=
    ⟨rfl, List.cons_ne_nil _ _, List.cons_ne_nil _ _, List.cons_ne_nil _ _, rfl,
      List.cons_ne_nil _ _, List.cons_ne_nil _ _, rfl, List.cons_ne_nil _ _, rfl, trivial⟩
  have hlength := hbound fourAnswers hlively
  exact ⟨idle, serialised, hexclusive, rfl, rfl, hgoes rfl, by omega, rfl⟩

end Storyboard
