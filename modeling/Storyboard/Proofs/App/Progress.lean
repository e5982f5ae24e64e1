import Storyboard.Proofs.App.Legs

/-!
# Pending submits come to an end

While submits are pending, one of them can go on or waits for an outcome that may arrive.
Whatever the loop does takes one of them further, at the expense of a bound on all that is
left to do. So when nothing is dispatched any more and outcomes keep arriving, the loop is
idle after that many events at the latest, and waiting for the pending submits is over.
-/
namespace Storyboard.App

namespace Event

/-- An event of the loop that finds something to do. -/
def Advances (app : App) : Event → Prop
  | .host _ => False
  | .turn => app.tasks.ready ≠ []
  | .arrive number _ => (app.tasks.call? number).isSome = true
  | .prompt number _ => (app.tasks.call? number).isSome = true

variable {app : App} {e : Event}

/-- An event of the loop that runs a chain concludes a submit, and what its follow-up sends off
has less left to run. -/
theorem Advances.concludes (h : e.Advances app) {leg : Leg} (hleg : e.leg? app = some leg) :
    ∃ pair, leg.conclusion? = some pair ∧ leg.allowance = pair.1.allowance := by
  cases runs_of_leg hleg with
  | dispatched => exact h.elim
  | concluded => exact ⟨_, rfl, rfl⟩

/-- Another one takes a submit one stage further. -/
theorem Advances.moves (h : e.Advances app) (hleg : e.leg? app = none) :
    0 < (e.waited app).length + (e.made app).length + (e.arrival? app).toList.length := by
  cases e with
  | host deed => exact h.elim
  | turn =>
    unfold leg? at hleg
    simp only [waited, made, arrival?]
    cases hready : app.tasks.ready with
    | nil => exact absurd hready h
    | cons w rest =>
      rw [hready] at hleg
      cases w with
      | start r =>
        dsimp only
        split <;> exact Nat.zero_lt_one
      | granted r => exact Nat.zero_lt_one
      | answered r outcome => cases hleg
  | arrive number outcome =>
    obtain ⟨call, hcall⟩ := Option.isSome_iff_exists.mp h
    simp only [waited, made, arrival?, hcall]
    exact Nat.zero_lt_one
  | prompt number outcome =>
    obtain ⟨call, hcall⟩ := Option.isSome_iff_exists.mp h
    rw [leg?, hcall] at hleg
    cases hleg

/-- The loop has less left to do after it did something. -/
theorem Advances.toil_lt (h : e.Advances app)
    (distinct : (app.tasks.openCalls.map (·.number)).Nodup) :
    (e.next app).tasks.toil < app.tasks.toil := by
  have hpaid := ((Kept.refl app).happen distinct e).moves.toil_le
  change _ + ((e.entry app).concluded.map _).sum + ((e.entry app).waited.length +
    (e.entry app).made.length + (e.entry app).arrived.length + (e.entry app).concluded.length) ≤
      _ + ((e.entry app).sent.map _).sum at hpaid
  unfold entry at hpaid
  cases hleg : e.leg? app with
  | none =>
    have hmoves := h.moves hleg
    simp only [hleg, Option.bind_none, Option.toList_none, List.map_nil, List.sum_nil,
      List.length_nil] at hpaid
    omega
  | some leg =>
    obtain ⟨pair, hpair, hallowance⟩ := h.concludes hleg
    simp only [hleg, Option.bind_some, hpair, Option.toList_some, List.map_cons, List.map_nil,
      List.sum_cons, List.sum_nil, List.length_cons, List.length_nil] at hpaid
    cases hremote : leg.chain.remote with
    | none =>
      simp only [hremote, Option.toList_none, List.map_nil, List.sum_nil] at hpaid
      omega
    | some r =>
      have hlt := Leg.allowance_lt hremote
      simp only [hremote, Option.toList_some, List.map_cons, List.map_nil, List.sum_cons,
        List.sum_nil] at hpaid
      omega

end Event

/-- Events of the loop each of which finds something to do. -/
def Lively (app : App) : List Event → Prop
  | [] => True
  | e :: rest => e.Advances app ∧ Lively (e.next app) rest

variable {base app : App} {books : Books}

/-- A busy loop is never stuck: it has a wake-up to handle, or an outcome may arrive. -/
theorem Underway.goes_on (h : Underway base books app) (busy : app.tasks.isBusy = true) :
    ∃ e : Event, e.Advances app := by
  rcases (Tasks.Locked.of_moves h.reached).goes_on busy with hready | hopen
  · exact ⟨.turn, hready⟩
  · obtain ⟨call, hcall⟩ := List.exists_mem_of_ne_nil _ hopen
    refine ⟨.arrive call.number .succeeded, List.find?_isSome.mpr ⟨call, hcall, ?_⟩⟩
    exact beq_self_eq_true call.number

/-- What the loop does alone is bounded by what is left to do. -/
theorem Underway.length_le_toil (h : Underway base books app) {turns : List Event}
    (lively : app.Lively turns) :
    turns.length + (app.through turns).tasks.toil ≤ app.tasks.toil := by
  induction turns generalizing app books with
  | nil => exact Nat.le_of_eq (Nat.zero_add _)
  | cons e rest ih =>
    obtain ⟨hadvances, hrest⟩ := lively
    have hlt := hadvances.toil_lt h.distinct
    have hle := ih (h.happen e) hrest
    rw [List.length_cons]
    change _ + ((e.next app).through rest).tasks.toil ≤ _
    omega

/-- From every moment of a run, the loop can become idle without the host. -/
theorem Underway.comes_to_rest (h : Underway base books app) :
    ∃ turns, app.Lively turns ∧ (app.through turns).tasks.isBusy = false := by
  generalize htoil : app.tasks.toil = toil
  induction toil using Nat.strong_induction_on generalizing app books with
  | h toil ih =>
    cases hbusy : app.tasks.isBusy with
    | false => exact ⟨[], trivial, hbusy⟩
    | true =>
      obtain ⟨e, hadvances⟩ := h.goes_on hbusy
      have hlt := hadvances.toil_lt h.distinct
      obtain ⟨turns, hlively, hidle⟩ := ih _ (by omega) (h.happen e) rfl
      exact ⟨e :: turns, ⟨hadvances, hlively⟩, hidle⟩

/-- Waiting for the pending submits during a part of a run: as long as any is left, events
happen for a while, and then it is looked again. -/
inductive Awaits : App → List Event → Prop
  | done {app : App} (idle : app.tasks.isBusy = false) : Awaits app []
  | again {app : App} {meanwhile later : List Event} (busy : app.tasks.isBusy = true)
    (waits : Awaits (app.through meanwhile) later) : Awaits app (meanwhile ++ later)

/-- When waiting is over, nothing is pending. -/
theorem Awaits.idle {events : List Event} (h : app.Awaits events) :
    (app.through events).tasks.isBusy = false := by
  induction h with
  | done idle => exact idle
  | again busy _ ih =>
    rw [through_append]
    exact ih

end Storyboard.App
