import Mathlib.Algebra.GroupWithZero.Nat
import Mathlib.Data.List.Perm.Lattice
import Storyboard.Proofs.App.Threads

/-!
# The books of the pending submits

A submit that was sent off starts, may have to wait until its endpoint is handed to it,
makes its request, gets an outcome and is concluded. `Move` lists the steps of that way,
with the entry each of them makes in the books. From there the books of every run balance:
no submit is lost or doubled on its way, an endpoint has one holder at a time, and its
submits make their requests in the order in which they were sent off.
-/
namespace Storyboard

/-- The outcome of an open call arrived. -/
structure Arrival where
  call : OpenCall
  outcome : Outcome

/-- What happened to the submits of a run, in order. -/
structure Books where
  /-- Submits that were sent off. -/
  sent : List RemoteSubmit
  /-- Submits that found their endpoint held. -/
  waited : List RemoteSubmit
  /-- Requests that were made. -/
  made : List OpenCall
  arrived : List Arrival
  /-- Submits whose follow-up was run, with the outcome it was run for. -/
  concluded : List (RemoteSubmit × Outcome)

namespace Books

def empty : Books := ⟨[], [], [], [], []⟩

def append (a b : Books) : Books :=
  ⟨a.sent ++ b.sent, a.waited ++ b.waited, a.made ++ b.made, a.arrived ++ b.arrived,
    a.concluded ++ b.concluded⟩

instance : Append Books := ⟨append⟩

variable (a b c : Books)

@[simp] theorem sent_append : (a ++ b).sent = a.sent ++ b.sent := rfl

@[simp] theorem waited_append : (a ++ b).waited = a.waited ++ b.waited := rfl

@[simp] theorem made_append : (a ++ b).made = a.made ++ b.made := rfl

@[simp] theorem arrived_append : (a ++ b).arrived = a.arrived ++ b.arrived := rfl

@[simp] theorem concluded_append : (a ++ b).concluded = a.concluded ++ b.concluded := rfl

theorem append_empty : a ++ empty = a := by
  change append a empty = a
  simp [append, empty]

theorem append_assoc : a ++ b ++ c = a ++ (b ++ c) := by
  change append (append a b) c = append a (append b c)
  simp [append]

end Books

namespace Wakeup

@[simp] def started? : Wakeup → Option RemoteSubmit
  | .start r => some r
  | _ => none

@[simp] def granted? : Wakeup → Option RemoteSubmit
  | .granted r => some r
  | _ => none

@[simp] def answered? : Wakeup → Option (RemoteSubmit × Outcome)
  | .answered r outcome => some (r, outcome)
  | _ => none

end Wakeup

namespace Tasks

variable (t : Tasks)

/-- Submits that the loop has not come to. -/
def started : List RemoteSubmit := t.ready.filterMap Wakeup.started?

/-- Submits that were handed their endpoint and have not made their request. -/
def granted : List RemoteSubmit := t.ready.filterMap Wakeup.granted?

/-- Submits that have an outcome and are not concluded. -/
def answered : List (RemoteSubmit × Outcome) := t.ready.filterMap Wakeup.answered?

/-- Submits whose request was not made. -/
def unsent : List RemoteSubmit := t.granted ++ t.waiting ++ t.started

/-- Submits whose request was made and whose submitter has not returned. -/
def inFlight : List RemoteSubmit := t.openCalls.map (·.submit) ++ t.answered.map (·.1)

/-- Submits that hold their endpoint when submits are serialised. -/
def holders : List RemoteSubmit := t.inFlight ++ t.granted

/-- The tasks after the endpoint of a submit was let go of, if it was held. -/
def released (serial : Bool) (endpoint : String) : Tasks :=
  if serial then t.release endpoint else t

/-- A step on the way of a submit. The next request has a number; calls that are open
are kept apart by theirs. -/
inductive Move (serial : Bool) (number : Nat) (t : Tasks) : Books → Tasks → Prop
  /-- A submit is sent off. -/
  | send (r : RemoteSubmit) : Move serial number t ⟨[r], [], [], [], []⟩ (t.spawn (some r))
  /-- A submit finds its endpoint held. -/
  | wait (r : RemoteSubmit) (rest : List Wakeup) (serialised : serial = true)
    (ready : t.ready = .start r :: rest) (held : r.endpoint ∈ t.held) :
    Move serial number t ⟨[], [r], [], [], []⟩
      { t with ready := rest, waiting := t.waiting ++ [r] }
  /-- A submit finds its endpoint free and makes its request. -/
  | hold (r : RemoteSubmit) (rest : List Wakeup) (serialised : serial = true)
    (ready : t.ready = .start r :: rest) (free : r.endpoint ∉ t.held) :
    Move serial number t ⟨[], [], [⟨number, r⟩], [], []⟩
      { t with
        ready := rest
        held := t.held ++ [r.endpoint]
        openCalls := t.openCalls ++ [⟨number, r⟩] }
  /-- A submit makes its request without asking for its endpoint. -/
  | call (r : RemoteSubmit) (rest : List Wakeup) (unserialised : serial = false)
    (ready : t.ready = .start r :: rest) :
    Move serial number t ⟨[], [], [⟨number, r⟩], [], []⟩
      { t with ready := rest, openCalls := t.openCalls ++ [⟨number, r⟩] }
  /-- A submit that was handed its endpoint makes its request. -/
  | resume (r : RemoteSubmit) (rest : List Wakeup) (ready : t.ready = .granted r :: rest) :
    Move serial number t ⟨[], [], [⟨number, r⟩], [], []⟩
      { t with ready := rest, openCalls := t.openCalls ++ [⟨number, r⟩] }
  /-- The outcome of a call arrives, and the submit goes on after some of the wake-ups. -/
  | arrive (call : OpenCall) (outcome : Outcome) (calls later : List OpenCall)
    (before after : List Wakeup) (found : t.openCalls = calls ++ call :: later)
    (ready : t.ready = before ++ after) :
    Move serial number t ⟨[], [], [], [⟨call, outcome⟩], []⟩
      { t with
        openCalls := calls ++ later
        ready := before ++ .answered call.submit outcome :: after }
  /-- A submit with an outcome lets go of its endpoint. -/
  | conclude (r : RemoteSubmit) (outcome : Outcome) (rest : List Wakeup)
    (ready : t.ready = .answered r outcome :: rest) :
    Move serial number t ⟨[], [], [], [], [(r, outcome)]⟩
      (released { t with ready := rest } serial r.endpoint)

/-- Moves one after the other, with what they enter in the books. -/
inductive Moves (serial : Bool) (first : Nat) (t : Tasks) : Books → Tasks → Prop
  | none : Moves serial first t .empty t
  | more {mid next : Tasks} {books entry : Books} (before : Moves serial first t books mid)
    (step : Move serial (first + books.made.length) mid entry next) :
    Moves serial first t (books ++ entry) next

variable {serial : Bool} {first number : Nat} {t next : Tasks} {books entry : Books}

theorem ready_start (next : Tasks) {r : RemoteSubmit} (h : t.ready = .start r :: next.ready) :
    t.started = r :: next.started ∧ t.granted = next.granted ∧ t.answered = next.answered := by
  unfold started granted answered
  rw [h]
  exact ⟨rfl, rfl, rfl⟩

theorem ready_granted (next : Tasks) {r : RemoteSubmit} (h : t.ready = .granted r :: next.ready) :
    t.started = next.started ∧ t.granted = r :: next.granted ∧ t.answered = next.answered := by
  unfold started granted answered
  rw [h]
  exact ⟨rfl, rfl, rfl⟩

theorem ready_answered (next : Tasks) {r : RemoteSubmit} {outcome : Outcome}
    (h : t.ready = .answered r outcome :: next.ready) :
    t.started = next.started ∧ t.granted = next.granted ∧
      t.answered = (r, outcome) :: next.answered := by
  unfold started granted answered
  rw [h]
  exact ⟨rfl, rfl, rfl⟩

theorem ready_spawn (t : Tasks) (r : RemoteSubmit) :
    (t.spawn (some r)).started = t.started ++ [r] ∧ (t.spawn (some r)).granted = t.granted ∧
      (t.spawn (some r)).answered = t.answered := by
  unfold started granted answered spawn
  simp only [List.filterMap_append]
  exact ⟨rfl, List.append_nil _, List.append_nil _⟩

theorem ready_arrive (next : Tasks) (r : RemoteSubmit) (outcome : Outcome)
    {before after : List Wakeup} (ht : t.ready = before ++ after)
    (hnext : next.ready = before ++ .answered r outcome :: after) :
    next.started = t.started ∧ next.granted = t.granted ∧
      next.answered.Perm ((r, outcome) :: t.answered) := by
  unfold started granted answered
  rw [ht, hnext]
  simp only [List.filterMap_append]
  exact ⟨rfl, rfl, List.perm_middle⟩

/-- The submit that is taken is the first one that waits for the endpoint. -/
theorem split_takeWaiting {endpoint : String} {waiting others : List RemoteSubmit}
    {next : RemoteSubmit} (h : takeWaiting endpoint waiting = some (next, others)) :
    next.endpoint = endpoint ∧ ∃ before after, waiting = before ++ next :: after ∧
      others = before ++ after ∧ ∀ r ∈ before, r.endpoint ≠ endpoint := by
  induction waiting generalizing others with
  | nil => cases h
  | cons head rest ih =>
    unfold takeWaiting at h
    split at h
    · rename_i hsame
      cases h
      exact ⟨eq_of_beq hsame, [], rest, rfl, rfl, List.forall_mem_nil _⟩
    · rename_i hother
      obtain ⟨⟨found, later⟩, htake, heq⟩ := Option.map_eq_some_iff.mp h
      cases heq
      obtain ⟨hnext, before, after, rfl, rfl, hbefore⟩ := ih htake
      refine ⟨hnext, head :: before, after, rfl, rfl, List.forall_mem_cons.mpr ⟨?_, hbefore⟩⟩
      exact fun heq => hother (beq_iff_eq.mpr heq)

/-- Nothing is taken when nothing waits for the endpoint. -/
theorem takeWaiting_eq_none {endpoint : String} {waiting : List RemoteSubmit}
    (h : takeWaiting endpoint waiting = .none) : ∀ r ∈ waiting, r.endpoint ≠ endpoint := by
  induction waiting with
  | nil => exact List.forall_mem_nil _
  | cons head rest ih =>
    unfold takeWaiting at h
    split at h
    · cases h
    · rename_i hother
      refine List.forall_mem_cons.mpr ⟨fun heq => hother (beq_iff_eq.mpr heq), ih ?_⟩
      exact Option.map_eq_none_iff.mp h

/-- Handing on an endpoint, nothing starts and nothing is answered. -/
theorem ready_released (t : Tasks) (serial : Bool) (endpoint : String) :
    (t.released serial endpoint).started = t.started ∧
      (t.released serial endpoint).answered = t.answered := by
  unfold released release started answered
  split
  · split
    · simp only [List.filterMap_append]
      exact ⟨List.append_nil _, List.append_nil _⟩
    · exact ⟨rfl, rfl⟩
  · exact ⟨rfl, rfl⟩

theorem openCalls_released (t : Tasks) (serial : Bool) (endpoint : String) :
    (t.released serial endpoint).openCalls = t.openCalls := by
  unfold released release
  split
  · split <;> rfl
  · rfl

/-- Requests are numbered in the order in which they are made. Each of them is open or had
one outcome arrive, and each outcome was followed up or is about to be. -/
structure Balanced (first : Nat) (t : Tasks) (books : Books) : Prop where
  numbered : books.made.map (·.number) = List.range' first books.made.length
  made : books.made.Perm (books.arrived.map (·.call) ++ t.openCalls)
  arrived : (books.arrived.map fun a => (a.call.submit, a.outcome)).Perm
    (books.concluded ++ t.answered)

namespace Balanced

/-- A request is made. -/
theorem called (h : Balanced first t books) {r : RemoteSubmit}
    (answered : next.answered = t.answered)
    (openCalls : next.openCalls = t.openCalls ++ [⟨first + books.made.length, r⟩]) :
    Balanced first next (books ++ ⟨[], [], [⟨first + books.made.length, r⟩], [], []⟩) := by
  refine ⟨?_, ?_, ?_⟩
  · rw [Books.made_append, List.map_append, h.numbered, List.length_append, List.length_singleton,
      List.range'_1_concat]
    rfl
  · rw [Books.made_append, Books.arrived_append, List.append_nil, openCalls, ← List.append_assoc]
    exact h.made.append_right _
  · rw [Books.arrived_append, Books.concluded_append, List.append_nil, List.append_nil, answered]
    exact h.arrived

theorem step (h : Balanced first t books)
    (hstep : Move serial (first + books.made.length) t entry next) :
    Balanced first next (books ++ entry) := by
  cases hstep with
  | send r =>
    obtain ⟨-, -, hanswered⟩ := ready_spawn t r
    refine ⟨by simpa using h.numbered, by simpa [Tasks.spawn] using h.made, ?_⟩
    rw [hanswered]
    simpa using h.arrived
  | wait r rest _ ready =>
    obtain ⟨-, -, hanswered⟩ := ready_start
      { t with ready := rest, waiting := t.waiting ++ [r] } ready
    refine ⟨by simpa using h.numbered, by simpa using h.made, ?_⟩
    rw [← hanswered]
    simpa using h.arrived
  | hold r rest _ ready =>
    refine h.called ?_ rfl
    exact (ready_start { t with ready := rest, held := _, openCalls := _ } ready).2.2.symm
  | call r rest _ ready =>
    refine h.called ?_ rfl
    exact (ready_start { t with ready := rest, openCalls := _ } ready).2.2.symm
  | resume r rest ready =>
    refine h.called ?_ rfl
    exact (ready_granted { t with ready := rest, openCalls := _ } ready).2.2.symm
  | arrive call outcome calls later before after found ready =>
    refine ⟨by simpa using h.numbered, ?_, ?_⟩
    · have hmade := h.made
      rw [found] at hmade
      simp only [Books.made_append, Books.arrived_append, List.map_append, List.append_nil,
        List.map_singleton, List.append_assoc]
      exact hmade.trans (List.perm_middle.append_left _)
    · obtain ⟨-, -, hanswered⟩ := ready_arrive { t with openCalls := calls ++ later, ready := _ }
        call.submit outcome ready rfl
      have hmoved := hanswered.trans (List.perm_append_singleton _ _).symm
      simp only [Books.arrived_append, Books.concluded_append, List.append_nil, List.map_append,
        List.map_singleton]
      refine (h.arrived.append_right _).trans ?_
      rw [List.append_assoc]
      exact .append_left _ hmoved.symm
  | conclude r outcome rest ready =>
    refine ⟨by simpa using h.numbered, ?_, ?_⟩
    · rw [openCalls_released]
      simpa using h.made
    · obtain ⟨-, -, hanswered⟩ := ready_answered { t with ready := rest } ready
      rw [(ready_released _ serial r.endpoint).2, Books.arrived_append, Books.concluded_append,
        List.append_nil, List.append_assoc, List.singleton_append, ← hanswered]
      exact h.arrived

theorem of_moves (h : Moves serial first .none books t) : Balanced first t books := by
  induction h with
  | none => exact ⟨rfl, .refl _, .refl _⟩
  | more _ hstep ih => exact ih.step hstep

/-- A call is found by its number among the requests. -/
theorem request (h : Balanced first t books) {base : List RemoteSubmit}
    (hbase : base.length = first) {call : OpenCall} (hcall : call ∈ books.made) :
    (base ++ books.made.map (·.submit))[call.number]? = some call.submit := by
  obtain ⟨i, hlt, hi⟩ := List.getElem_of_mem hcall
  have hi : books.made[i]? = some call := by rw [List.getElem?_eq_getElem hlt, hi]
  have hnumber : call.number = first + i := by
    have hmap := congrArg (·[i]?) h.numbered
    simp only [List.getElem?_map, hi, Option.map_some, List.getElem?_range' hlt,
      Option.some.injEq] at hmap
    omega
  rw [hnumber, List.getElem?_append_right (by omega), List.getElem?_map]
  have hindex : first + i - base.length = i := by omega
  rw [hindex, hi]
  rfl

/-- The calls that were made have numbers of their own, in and out of the books. -/
theorem nodup (h : Balanced first t books) :
    (books.arrived.map (·.call.number) ++ t.openCalls.map (·.number)).Nodup := by
  have hperm := h.made.map (·.number)
  rw [h.numbered, List.map_append, List.map_map] at hperm
  exact hperm.nodup_iff.mp List.nodup_range'

end Balanced

/-- With serialised submits the endpoints that are held are those of the submits that made
their request or may make it, each of them once, and submits wait for held endpoints only.
Otherwise no submit waits. -/
structure Locked (serial : Bool) (t : Tasks) : Prop where
  held : serial = true → (t.holders.map (·.endpoint)).Perm t.held
  exclusive : t.held.Nodup
  blocked : ∀ r ∈ t.waiting, r.endpoint ∈ t.held
  unserialised : serial = false → t.waiting = [] ∧ t.granted = []

namespace Locked

theorem mem_held (h : Locked serial t) (serialised : serial = true) {r : RemoteSubmit}
    (hr : r ∈ t.holders) : r.endpoint ∈ t.held :=
  (h.held serialised).mem_iff.mp (List.mem_map_of_mem hr)

/-- The holders change places, and none else is let in. -/
theorem moved (h : Locked serial t) (holders : next.holders.Perm t.holders)
    (held : next.held = t.held) (waiting : next.waiting = t.waiting)
    (granted : t.granted = [] → next.granted = []) : Locked serial next := by
  refine ⟨fun hserial => ?_, ?_, ?_, fun hserial => ?_⟩
  · rw [held]
    exact (holders.map (·.endpoint)).trans (h.held hserial)
  · rw [held]
    exact h.exclusive
  · rw [held, waiting]
    exact h.blocked
  · obtain ⟨hwaiting, hgranted⟩ := h.unserialised hserial
    exact ⟨waiting.trans hwaiting, granted hgranted⟩

/-- A holder lets go of its endpoint, which goes to the first submit that waits for it. -/
theorem released {endpoint : String}
    (held : serial = true → (endpoint :: t.holders.map (·.endpoint)).Perm t.held)
    (exclusive : t.held.Nodup) (blocked : ∀ r ∈ t.waiting, r.endpoint ∈ t.held)
    (unserialised : serial = false → t.waiting = [] ∧ t.granted = []) :
    Locked serial (t.released serial endpoint) := by
  cases serial with
  | false => exact ⟨nofun, exclusive, blocked, unserialised⟩
  | true =>
    simp only [Tasks.released, if_true, release]
    split
    · rename_i next others htake
      obtain ⟨rfl, before, after, hwaiting, rfl, -⟩ := split_takeWaiting htake
      refine ⟨fun _ => ?_, exclusive, fun other hother => blocked other ?_, nofun⟩
      · refine List.Perm.trans ?_ (held rfl)
        unfold holders inFlight granted answered
        simp only [List.filterMap_append, List.map_append, List.append_assoc]
        refine .trans ?_ (List.perm_append_singleton _ _)
        simp only [List.append_assoc]
        exact .refl _
      · rw [hwaiting]
        simp only [List.mem_append, List.mem_cons] at hother ⊢
        exact hother.imp_right .inr
    · rename_i htake
      have hfree := takeWaiting_eq_none htake
      refine ⟨fun _ => ?_, exclusive.erase _, fun other hother => ?_, nofun⟩
      · exact (List.cons_perm_iff_perm_erase.mp (held rfl)).2
      · exact (List.mem_erase_of_ne (hfree other hother)).mpr (blocked other hother)

theorem step (h : Locked serial t) (hstep : Move serial number t entry next) :
    Locked serial next := by
  cases hstep with
  | send r =>
    obtain ⟨-, hgranted, hanswered⟩ := ready_spawn t r
    refine h.moved ?_ rfl rfl hgranted.trans
    unfold holders inFlight
    rw [hgranted, hanswered]
    exact .refl _
  | wait r rest serialised ready held =>
    obtain ⟨-, hgranted, hanswered⟩ := ready_start
      { t with ready := rest, waiting := t.waiting ++ [r] } ready
    refine ⟨fun hserial => ?_, h.exclusive, ?_, fun hserial => ?_⟩
    · have hholders := h.held hserial
      unfold holders inFlight at hholders ⊢
      rw [hgranted, hanswered] at hholders
      exact hholders
    · exact List.forall_mem_append.mpr ⟨h.blocked, List.forall_mem_singleton.mpr held⟩
    · exact absurd (hserial.symm.trans serialised) Bool.false_ne_true
  | hold r rest serialised ready free =>
    let holding : Tasks :=
      { t with
        ready := rest
        held := t.held ++ [r.endpoint]
        openCalls := t.openCalls ++ [⟨number, r⟩] }
    obtain ⟨-, hgranted, hanswered⟩ := ready_start holding ready
    have hholders : holding.holders.Perm (t.holders ++ [r]) := by
      unfold holders inFlight
      rw [hgranted, hanswered]
      simp only [holding, List.map_append, List.map_singleton, List.append_assoc]
      refine .append_left _ (List.perm_append_comm.trans ?_)
      rw [List.append_assoc]
    refine ⟨fun hserial => ?_, ?_, fun other hother => ?_, fun hserial => ?_⟩
    · refine (hholders.map (·.endpoint)).trans ?_
      rw [List.map_append, List.map_singleton]
      exact (h.held hserial).append_right _
    · exact List.concat_eq_append ▸ (List.nodup_concat _ _).mpr ⟨free, h.exclusive⟩
    · exact List.mem_append_left _ (h.blocked other hother)
    · exact absurd (hserial.symm.trans serialised) Bool.false_ne_true
  | call r rest unserialised ready =>
    obtain ⟨-, hgranted, -⟩ := ready_start
      { t with ready := rest, openCalls := t.openCalls ++ [⟨number, r⟩] } ready
    obtain ⟨hwaiting, hnone⟩ := h.unserialised unserialised
    refine ⟨fun hserial => ?_, h.exclusive, h.blocked, fun _ => ⟨hwaiting, hgranted ▸ hnone⟩⟩
    exact absurd (unserialised.symm.trans hserial) Bool.false_ne_true
  | resume r rest ready =>
    obtain ⟨-, hgranted, hanswered⟩ := ready_granted
      { t with ready := rest, openCalls := t.openCalls ++ [⟨number, r⟩] } ready
    refine h.moved ?_ rfl rfl fun hnone => ?_
    · unfold holders inFlight
      rw [hgranted, hanswered]
      simp only [List.map_append, List.map_singleton, List.append_assoc]
      refine .append_left _ ?_
      rw [List.singleton_append]
      exact List.perm_middle.symm
    · exact absurd (hgranted.symm.trans hnone) (List.cons_ne_nil _ _)
  | arrive call outcome calls later before after found ready =>
    obtain ⟨-, hgranted, hanswered⟩ := ready_arrive
      { t with openCalls := calls ++ later, ready := _ } call.submit outcome ready rfl
    refine h.moved ?_ rfl rfl hgranted.trans
    unfold holders inFlight
    rw [hgranted, found]
    refine .append_right _ ?_
    refine (List.Perm.append_left _ (hanswered.map (·.1))).trans ?_
    simp only [List.map_append, List.map_cons, List.append_assoc]
    refine .append_left _ ?_
    exact List.perm_middle
  | conclude r outcome rest ready =>
    obtain ⟨-, hgranted, hanswered⟩ := ready_answered { t with ready := rest } ready
    refine released (fun hserial => ?_) h.exclusive h.blocked fun hserial => ?_
    · have hholders := h.held hserial
      unfold holders inFlight at hholders ⊢
      rw [hgranted, hanswered] at hholders
      refine List.Perm.trans ?_ hholders
      simp only [List.map_append, List.map_cons, List.append_assoc]
      exact List.perm_middle.symm
    · exact hgranted ▸ h.unserialised hserial

theorem of_moves (h : Moves serial first .none books t) : Locked serial t := by
  induction h with
  | none => exact ⟨fun _ => .refl _, List.nodup_nil, List.forall_mem_nil _, fun _ => ⟨rfl, rfl⟩⟩
  | more _ hstep ih => exact ih.step hstep

end Locked

/-- The submits to an endpoint. -/
def submitsTo (endpoint : String) (submits : List RemoteSubmit) : List RemoteSubmit :=
  submits.filter fun r => r.endpoint == endpoint

@[simp] theorem submitsTo_append (endpoint : String) (first second : List RemoteSubmit) :
    submitsTo endpoint (first ++ second) =
      submitsTo endpoint first ++ submitsTo endpoint second :=
  List.filter_append ..

/-- A submit may come before submits to other endpoints. -/
theorem submitsTo_comm {r : RemoteSubmit} {others : List RemoteSubmit}
    (h : ∀ other ∈ others, other.endpoint ≠ r.endpoint) (endpoint : String) :
    submitsTo endpoint (others ++ [r]) = submitsTo endpoint ([r] ++ others) := by
  rw [submitsTo_append, submitsTo_append]
  by_cases hr : r.endpoint = endpoint
  · have hnone : submitsTo endpoint others = [] := by
      refine List.filter_eq_nil_iff.mpr fun other hother heq => ?_
      exact h other hother ((eq_of_beq heq).trans hr.symm)
    rw [hnone, List.nil_append, List.append_nil]
  · have hnone : submitsTo endpoint [r] = [] := by
      refine List.filter_eq_nil_iff.mpr fun other hother heq => ?_
      rw [List.mem_singleton.mp hother] at heq
      exact hr (eq_of_beq heq)
    rw [hnone, List.nil_append, List.append_nil]

/-- Submits that agree at every endpoint are the same ones. -/
theorem perm_of_submitsTo {first second : List RemoteSubmit}
    (h : ∀ endpoint, submitsTo endpoint first = submitsTo endpoint second) :
    first.Perm second := by
  classical
  refine List.perm_iff_count.mpr fun r => ?_
  have hcount := congrArg (List.count r) (h r.endpoint)
  unfold submitsTo at hcount
  have hkept : ∀ submits : List RemoteSubmit,
      (submits.filter fun other => other.endpoint == r.endpoint).count r = submits.count r :=
    fun submits => List.count_filter (beq_self_eq_true r.endpoint)
  rwa [hkept, hkept] at hcount

/-- At every endpoint, requests are made in the order in which submits are sent off. -/
def InOrder (t : Tasks) (books : Books) : Prop :=
  ∀ endpoint, submitsTo endpoint books.sent =
    submitsTo endpoint (books.made.map (·.submit) ++ t.unsent)

namespace InOrder

/-- A submit makes its request ahead of others that are sent to other endpoints. -/
theorem called (h : InOrder t books) {r : RemoteSubmit} (ahead later : List RemoteSubmit)
    (others : ∀ other ∈ ahead, other.endpoint ≠ r.endpoint) (ht : t.unsent = ahead ++ r :: later)
    (hnext : next.unsent = ahead ++ later) :
    InOrder next (books ++ ⟨[], [], [⟨number, r⟩], [], []⟩) := by
  intro endpoint
  have hcomm := submitsTo_comm others endpoint
  have hsent := h endpoint
  rw [ht, List.append_cons] at hsent
  rw [hnext, Books.sent_append, Books.made_append, List.append_nil, hsent, List.map_append,
    List.map_singleton]
  simp only [submitsTo_append] at hcomm ⊢
  rw [hcomm]
  simp only [List.append_assoc]

theorem released (h : InOrder t books) (serial : Bool) (endpoint : String)
    (concluded : List (RemoteSubmit × Outcome)) :
    InOrder (t.released serial endpoint) (books ++ ⟨[], [], [], [], concluded⟩) := by
  intro other
  rw [Books.sent_append, Books.made_append, List.append_nil, List.append_nil, h other]
  unfold Tasks.released release
  split
  · split
    · rename_i next others htake
      obtain ⟨rfl, before, after, hwaiting, rfl, hbefore⟩ := split_takeWaiting htake
      have hcomm := submitsTo_comm hbefore other
      unfold unsent granted started
      rw [hwaiting, List.append_cons]
      simp only [List.filterMap_append, submitsTo_append, List.append_assoc] at hcomm ⊢
      rw [← List.append_assoc (submitsTo other before), hcomm]
      simp [submitsTo]
    · rfl
  · rfl

theorem step (h : InOrder t books) (locked : Locked serial t)
    (hstep : Move serial number t entry next) : InOrder next (books ++ entry) := by
  cases hstep with
  | send r =>
    intro endpoint
    obtain ⟨hstarted, hgranted, -⟩ := ready_spawn t r
    have hunsent : (t.spawn (some r)).unsent = t.unsent ++ [r] := by
      rw [unsent, hstarted, hgranted, ← List.append_assoc]
      rfl
    rw [hunsent, ← List.append_assoc, submitsTo_append, Books.sent_append, Books.made_append,
      List.append_nil, submitsTo_append, h endpoint]
  | wait r rest _ ready =>
    obtain ⟨hstarted, hgranted, -⟩ := ready_start
      { t with ready := rest, waiting := t.waiting ++ [r] } ready
    have hunsent : t.unsent = unsent { t with ready := rest, waiting := t.waiting ++ [r] } := by
      unfold unsent
      rw [hstarted, hgranted, List.append_cons, ← List.append_assoc]
    intro endpoint
    rw [← hunsent, Books.sent_append, Books.made_append, List.append_nil, List.append_nil]
    exact h endpoint
  | hold r rest serialised ready free =>
    obtain ⟨hstarted, hgranted, -⟩ := ready_start
      { t with ready := rest, held := _, openCalls := _ } ready
    refine h.called (t.granted ++ t.waiting) (rest.filterMap Wakeup.started?)
      (fun other hother heq => ?_) ?_ ?_
    · refine free (heq ▸ ?_)
      rcases List.mem_append.mp hother with hgranted | hwaiting
      · exact locked.mem_held serialised (List.mem_append_right _ hgranted)
      · exact locked.blocked other hwaiting
    · rw [unsent, hstarted]
      rfl
    · rw [unsent, ← hgranted]
      rfl
  | call r rest unserialised ready =>
    obtain ⟨hstarted, hgranted, -⟩ := ready_start
      { t with ready := rest, openCalls := _ } ready
    obtain ⟨hwaiting, hnone⟩ := locked.unserialised unserialised
    refine h.called [] (rest.filterMap Wakeup.started?) (List.forall_mem_nil _) ?_ ?_
    · rw [unsent, hwaiting, hnone, hstarted]
      rfl
    · rw [unsent, ← hgranted, hnone]
      exact congrArg (· ++ rest.filterMap Wakeup.started?) hwaiting
  | resume r rest ready =>
    obtain ⟨hstarted, hgranted, -⟩ := ready_granted
      { t with ready := rest, openCalls := _ } ready
    refine h.called [] _ (List.forall_mem_nil _) ?_ rfl
    rw [unsent, hgranted, hstarted]
    rfl
  | arrive call outcome calls later before after found ready =>
    obtain ⟨hstarted, hgranted, -⟩ := ready_arrive
      { t with openCalls := calls ++ later, ready := _ } call.submit outcome ready rfl
    intro endpoint
    have hunsent : unsent
        { t with
          openCalls := calls ++ later
          ready := before ++ .answered call.submit outcome :: after } = t.unsent := by
      rw [unsent, hstarted, hgranted]
      rfl
    rw [hunsent, Books.sent_append, Books.made_append, List.append_nil, List.append_nil]
    exact h endpoint
  | conclude r outcome rest ready =>
    obtain ⟨hstarted, hgranted, -⟩ := ready_answered { t with ready := rest } ready
    refine released (fun endpoint => ?_) serial r.endpoint [(r, outcome)]
    have hsent := h endpoint
    rw [unsent, hstarted, hgranted] at hsent
    exact hsent

theorem of_moves (h : Moves serial first .none books t) : InOrder t books := by
  induction h with
  | none => exact fun _ => rfl
  | more before hstep ih => exact ih.step (.of_moves before) hstep

theorem sent_perm (h : InOrder t books) :
    books.sent.Perm (books.made.map (·.submit) ++ t.unsent) := perm_of_submitsTo h

end InOrder

section

variable (h : Moves serial first .none books t)

include h

theorem made_sent : ∀ call ∈ books.made, call.submit ∈ books.sent := fun _ hcall =>
  (InOrder.of_moves h).sent_perm.mem_iff.mpr
    (List.mem_append_left _ (List.mem_map_of_mem hcall))

theorem arrived_sent : ∀ a ∈ books.arrived, a.call.submit ∈ books.sent := fun a ha =>
  made_sent h a.call ((Balanced.of_moves h).made.mem_iff.mpr
    (List.mem_append_left _ (List.mem_map_of_mem ha)))

theorem inFlight_sent : ∀ r ∈ t.inFlight, r ∈ books.sent := by
  intro r hr
  rcases List.mem_append.mp hr with hopen | hanswered
  · obtain ⟨call, hcall, rfl⟩ := List.mem_map.mp hopen
    exact made_sent h call ((Balanced.of_moves h).made.mem_iff.mpr (List.mem_append_right _ hcall))
  · obtain ⟨pair, hpair, rfl⟩ := List.mem_map.mp hanswered
    have hmem := (Balanced.of_moves h).arrived.mem_iff.mpr (List.mem_append_right _ hpair)
    obtain ⟨a, ha, rfl⟩ := List.mem_map.mp hmem
    exact arrived_sent h a ha

end

/-- Every submit that was sent off is pending or concluded. -/
theorem sent_perm_concluded (h : Moves serial first .none books t) :
    books.sent.Perm (books.concluded.map (·.1) ++ (t.inFlight ++ t.unsent)) := by
  have hsent := (InOrder.of_moves h).sent_perm
  have hmade := (Balanced.of_moves h).made.map (·.submit)
  have harrived := (Balanced.of_moves h).arrived.map (·.1)
  simp only [List.map_append, List.map_map] at hmade harrived
  refine hsent.trans ?_
  rw [← List.append_assoc]
  refine List.Perm.append_right _ (hmade.trans ?_)
  refine (harrived.append_right _).trans ?_
  rw [List.append_assoc]
  exact .append_left _ List.perm_append_comm

end Tasks

/-- What is left to do for a submit that can go on, at most: it makes five moves on its
way, and so does each of those it may lead to. -/
def Wakeup.toil : Wakeup → Nat
  | .start r => 5 * r.allowance + 5
  | .granted r => 5 * r.allowance + 3
  | .answered r _ => 5 * r.allowance + 1

namespace Tasks

variable {serial : Bool} {first number : Nat} {t next : Tasks} {books entry : Books}

/-- What is left to do for the pending submits, at most. -/
def toil (t : Tasks) : Nat :=
  (t.ready.map Wakeup.toil).sum + (t.waiting.map fun r => 5 * r.allowance + 4).sum +
    (t.openCalls.map fun c => 5 * c.submit.allowance + 2).sum

theorem toil_released (t : Tasks) (serial : Bool) (endpoint : String) :
    (t.released serial endpoint).toil ≤ t.toil := by
  unfold released release
  split
  · split
    · rename_i next others htake
      obtain ⟨-, before, after, hwaiting, rfl, -⟩ := split_takeWaiting htake
      simp only [toil, hwaiting, Wakeup.toil, List.map_append, List.map_cons, List.map_nil,
        List.sum_append, List.sum_cons, List.sum_nil]
      omega
    · exact Nat.le_refl _
  · exact Nat.le_refl _

/-- Each entry of a move is paid for with toil, and what is sent off brings its own. -/
theorem Move.toil_le (h : Move serial number t entry next) :
    next.toil + (entry.concluded.map fun p => 5 * p.1.allowance).sum +
        (entry.waited.length + entry.made.length + entry.arrived.length + entry.concluded.length) ≤
      t.toil + (entry.sent.map fun r => 5 * r.allowance + 5).sum := by
  cases h
  case conclude r outcome rest ready =>
    have hreleased := toil_released { t with ready := rest } serial r.endpoint
    simp only [toil, ready, Wakeup.toil, List.map_cons, List.map_nil, List.sum_cons, List.sum_nil,
      List.length_nil, List.length_cons] at hreleased ⊢
    omega
  -- Each of the other moves takes one submit one stage further.
  all_goals
    simp only [toil, spawn, Wakeup.toil, List.map_append, List.map_cons, List.map_nil,
      List.sum_append, List.sum_cons, List.sum_nil, List.length_nil, List.length_cons, *]
    omega

theorem Moves.toil_le (h : Moves serial first t books next) :
    next.toil + (books.concluded.map fun p => 5 * p.1.allowance).sum +
        (books.waited.length + books.made.length + books.arrived.length + books.concluded.length) ≤
      t.toil + (books.sent.map fun r => 5 * r.allowance + 5).sum := by
  induction h with
  | none => exact Nat.le_refl _
  | more _ hstep ih =>
    have hlast := hstep.toil_le
    simp only [Books.sent_append, Books.waited_append, Books.made_append, Books.arrived_append,
      Books.concluded_append, List.map_append, List.sum_append, List.length_append] at ih hlast ⊢
    omega

/-- With submits left, one of them can go on or waits for the outcome of its request: the
endpoint a submit waits for is held by such a one. -/
theorem Locked.goes_on (h : Locked serial t) (busy : t.isBusy = true) :
    t.ready ≠ [] ∨ t.openCalls ≠ [] := by
  by_contra hnone
  obtain ⟨hready, hopen⟩ := not_or.mp hnone
  rw [not_not] at hready hopen
  have hholders : t.holders = [] := by simp [holders, inFlight, answered, granted, hready, hopen]
  cases serial with
  | false =>
    obtain ⟨hwaiting, -⟩ := h.unserialised rfl
    simp [isBusy, hready, hopen, hwaiting] at busy
  | true =>
    have hheld : t.held = [] := by
      have hperm := h.held rfl
      rw [hholders] at hperm
      exact List.nil_perm.mp hperm
    have hwaiting : t.waiting = [] := by
      refine List.eq_nil_iff_forall_not_mem.mpr fun r hr => ?_
      have hmem := h.blocked r hr
      rw [hheld] at hmem
      exact List.not_mem_nil hmem
    simp [isBusy, hready, hopen, hwaiting] at busy

/-- Nothing is left of any submit in idle tasks. -/
theorem of_idle (h : t.isBusy = false) : t.inFlight = [] ∧ t.unsent = [] ∧ t.unfinished = [] := by
  simp only [isBusy, Bool.or_eq_false_iff, Bool.not_eq_false', List.isEmpty_iff] at h
  obtain ⟨⟨hready, hwaiting⟩, hopen⟩ := h
  simp [inFlight, unsent, unfinished, answered, granted, started, hready, hwaiting, hopen]

end Tasks

end Storyboard
