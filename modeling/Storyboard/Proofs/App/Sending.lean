import Storyboard.Proofs.App.Course
import Storyboard.Proofs.App.History

/-!
# What a chain sends off

A chain counts the levels of its actions from where it starts. The one that reaches a
remote submit with an endpoint sends it off, with the form values of its fields at that
moment, and leaves the level below it to the follow-up. Every submit that a chain leaves to
be sent is one that it reached.
-/
namespace Storyboard

/-- The ids of the form fields that a submit names. -/
def Submit.fieldIds (a : Submit) : List String := (a.fields.toOption.getD []).map (·.2)

/-- The request that an execution at a level asks for: only a submit that is not for the
database asks for one, at its endpoint, with the form that it found. -/
def Execution.request? (e : Execution) (level : Nat) : Option RemoteSubmit :=
  match e.action with
  | .submit a =>
    if a.isDatabase then none
    else a.remoteEndpoint?.map fun endpoint =>
      .ofAction endpoint e.before.form (e.performer.settings.maxActionDepth.depth - (level + 1)) a
  | _ => none

/-- The payload of a submit has the form value of every field it names, and no other. -/
theorem RemoteSubmit.payload_ofAction (endpoint : String) (form : Form) (allowance : Nat)
    (a : Submit) (id : String) :
    Assoc.get? (ofAction endpoint form allowance a).payload id =
      if id ∈ a.fieldIds then some (Form.value form id) else none := by
  obtain ⟨_, _, _, _, _, fields, _, _, _⟩ := a
  exact Assoc.get?_putAll_map (Form.value form) [] ((fields.toOption.getD []).map (·.2)) id

/-- The submit that a chain leaves to be sent when it goes on with a request. -/
def Next.request? (next : Next) (form : Form) (allowance : Nat) : Option RemoteSubmit :=
  match next with
  | .send endpoint a => some (.ofAction endpoint form allowance a)
  | _ => none

theorem Next.request?_eq_none {next : Next} (h : ∀ endpoint a, next ≠ .send endpoint a)
    (form : Form) (allowance : Nat) : next.request? form allowance = none := by
  cases next with
  | finished => rfl
  | follow a => rfl
  | send endpoint a => exact absurd rfl (h endpoint a)

/-- A request is one of the submit that was executed: of its endpoint, with the form values
of its fields, with its branches, and with what is left below its level. -/
theorem Execution.of_request? {e : Execution} {level : Nat} {r : RemoteSubmit}
    (h : e.request? level = some r) :
    r.allowance = e.performer.settings.maxActionDepth.depth - (level + 1) ∧
      ∃ a, e.action = .submit a ∧ a.isDatabase = false ∧ a.remoteEndpoint? = some r.endpoint ∧
        (∀ id, Assoc.get? r.payload id =
          if id ∈ a.fieldIds then some (Form.value e.before.form id) else none) ∧
        r.onSuccess = a.onSuccess.toOption ∧ r.onError = a.onError.toOption := by
  obtain ⟨p, action, c⟩ := e
  cases action with
  | submit a =>
    unfold request? at h
    dsimp only at h
    split at h
    · cases h
    · rename_i hremote
      obtain ⟨endpoint, hendpoint, rfl⟩ := Option.map_eq_some_iff.mp h
      have hpayload := RemoteSubmit.payload_ofAction endpoint c.form
        (p.settings.maxActionDepth.depth - (level + 1)) a
      obtain ⟨_, _, _, _, _, _, _, _, _⟩ := a
      exact ⟨rfl, _, rfl, Bool.eq_false_iff.mpr hremote, hendpoint, hpayload, rfl, rfl⟩
  | _ => cases h

namespace Performer

variable {p : Performer} {c : Context}

/-- What follows a slot is no request. -/
theorem ofSlot_ne_send (slot : Slot Action) (endpoint : String) (a : Submit) :
    Next.ofSlot slot ≠ .send endpoint a := by
  intro h
  cases slot <;> cases h

/-- A submit for the database asks for no request. -/
theorem submit_database {a : Submit} (h : a.isDatabase = true) (endpoint : String) (b : Submit) :
    (p.submit c a).next ≠ .send endpoint b := by
  obtain ⟨target, named, method, headers, table, fields, onSuccess, onError, extra⟩ := a
  have herror := ofSlot_ne_send onError endpoint b
  unfold submit submitToTable
  dsimp only
  rw [if_pos h]
  split
  · split
    · exact herror
    · split
      · exact herror
      · split
        · exact Next.noConfusion
        · exact ofSlot_ne_send onSuccess endpoint b
  · exact herror

/-- Another submit asks for a request if it has an endpoint, and leaves the context alone. -/
theorem submit_sent {a : Submit} (h : a.isDatabase = false) {endpoint : String}
    (named : a.remoteEndpoint? = some endpoint) :
    p.submit c a = ⟨c, [], [], .send endpoint a⟩ := by
  have hremote : ¬ a.isDatabase = true := ne_true_of_eq_false h
  obtain ⟨_, _, _, _, _, _, _, _, _⟩ := a
  unfold submit
  dsimp only
  rw [if_neg hremote, named]

theorem submit_refused {a : Submit} (h : a.isDatabase = false)
    (unnamed : a.remoteEndpoint? = none) :
    p.submit c a = .refused c [.submitWithoutEndpoint] a.onError := by
  have hremote : ¬ a.isDatabase = true := ne_true_of_eq_false h
  obtain ⟨_, _, _, _, _, _, _, _, _⟩ := a
  unfold submit
  dsimp only
  rw [if_neg hremote, unnamed]

/-- No other action asks for a request. -/
theorem next_ne_send {action : Action} (h : ∀ a, action ≠ .submit a) (endpoint : String)
    (b : Submit) : (p.perform c action).next ≠ .send endpoint b := by
  intro hsend
  have hsequel := p.perform_sequel c action
  generalize p.perform c action = step at hsend hsequel
  obtain ⟨after, effects, notices, next⟩ := step
  cases hsend
  cases hsequel
  exact h b rfl

/-- An execution asks for a request when its chain goes on with one. -/
theorem request?_eq (p : Performer) (c : Context) (action : Action) (level : Nat) :
    Execution.request? ⟨p, action, c⟩ level = (p.perform c action).next.request? c.form
      (p.settings.maxActionDepth.depth - (level + 1)) := by
  cases action with
  | submit a =>
    unfold Execution.request?
    dsimp only
    cases hdatabase : a.isDatabase with
    | true =>
      rw [if_pos rfl]
      exact (Next.request?_eq_none (submit_database hdatabase) _ _).symm
    | false =>
      rw [perform]
      cases hendpoint : a.remoteEndpoint? with
      | none =>
        rw [submit_refused hdatabase hendpoint]
        exact (Next.request?_eq_none (ofSlot_ne_send a.onError) _ _).symm
      | some endpoint =>
        rw [submit_sent hdatabase hendpoint]
        rfl
  | _ => exact (Next.request?_eq_none (next_ne_send (fun _ heq => by cases heq)) _ _).symm

/-- What asks for a request leaves the context alone. -/
theorem context_of_request? {action : Action} {level : Nat}
    (h : (Execution.request? ⟨p, action, c⟩ level).isSome = true) :
    Execution.after ⟨p, action, c⟩ = c := by
  unfold Execution.after
  cases action with
  | submit a =>
    unfold Execution.request? at h
    dsimp only at h
    cases hdatabase : a.isDatabase with
    | true =>
      rw [if_pos hdatabase] at h
      cases h
    | false =>
      rw [perform]
      cases hendpoint : a.remoteEndpoint? with
      | none =>
        rw [submit_refused hdatabase hendpoint]
        rfl
      | some endpoint => rw [submit_sent hdatabase hendpoint]
  | _ => cases h

/-- A chain begins with its action, if it may run any. -/
theorem head_run (p : Performer) (allowance : Nat) (action : Action) (c : Context) :
    (p.run allowance action c).performed.head? = if 0 < allowance then some action else none := by
  cases allowance with
  | zero => rfl
  | succ allowance =>
    rw [if_pos (Nat.succ_pos allowance)]
    simp only [run]
    split <;> rfl

/-- The follow-up of a submit begins with the branch that its outcome takes. -/
theorem head_resume (p : Performer) (r : RemoteSubmit) (outcome : Outcome) (c : Context) :
    (p.resume r outcome c).performed.head? =
      if 0 < r.allowance then r.followUp outcome else none := by
  unfold resume
  cases r.followUp outcome with
  | none => exact (ite_self none).symm
  | some action => exact p.head_run r.allowance action c

/-- Executions one after the other, with their levels from the first one on. -/
def levels (p : Performer) (level : Nat) (c : Context) (actions : List Action) :
    List (Execution × Nat) :=
  (p.trace c actions).zipIdx level

/-- The requests that executions ask for. -/
def sent (levels : List (Execution × Nat)) : List RemoteSubmit :=
  levels.filterMap fun e => e.1.request? e.2

theorem levels_cons (p : Performer) (level : Nat) (c : Context) (action : Action)
    (rest : List Action) :
    p.levels level c (action :: rest) =
      (⟨p, action, c⟩, level) :: p.levels (level + 1) (p.perform c action).context rest := rfl

/-- A chain leaves the submit to be sent that it reached, if it reached one. -/
theorem sent_run {level allowance : Nat}
    (total : level + allowance = p.settings.maxActionDepth.depth) (action : Action) (c : Context) :
    sent (p.levels level c (p.run allowance action c).performed) =
      (p.run allowance action c).remote.toList := by
  induction allowance generalizing level action c with
  | zero => rfl
  | succ allowance ih =>
    have hrequest := p.request?_eq c action level
    have hleft : p.settings.maxActionDepth.depth - (level + 1) = allowance := by omega
    rw [hleft] at hrequest
    simp only [run]
    cases hnext : (p.perform c action).next with
    | finished =>
      rw [hnext] at hrequest
      simp only [Chain.after, Chain.idle, levels_cons, sent, List.filterMap_cons, hrequest,
        Next.request?]
      rfl
    | follow next =>
      rw [hnext] at hrequest
      simp only [Chain.after, levels_cons, sent, List.filterMap_cons, hrequest, Next.request?]
      exact ih (by omega) next _
    | send endpoint a =>
      have hasks : (Execution.request? ⟨p, action, c⟩ level).isSome = true := by
        rw [hrequest, hnext]
        rfl
      have hcontext : (p.perform c action).context = c := context_of_request? hasks
      rw [hnext] at hrequest
      simp only [Chain.after, Chain.idle, levels_cons, sent, List.filterMap_cons, hrequest,
        Next.request?, hcontext]
      rfl

theorem performer_of_levels {level : Nat} {c : Context} {actions : List Action}
    {e : Execution × Nat} (h : e ∈ p.levels level c actions) : e.1.performer = p := by
  induction actions generalizing level c with
  | nil => cases h
  | cons action rest ih =>
    rw [levels_cons] at h
    rcases List.mem_cons.mp h with rfl | hrest
    · rfl
    · exact ih hrest

/-- An execution is on one of as many levels as there are actions. -/
theorem level_lt {level : Nat} {c : Context} {actions : List Action} {e : Execution × Nat}
    (h : e ∈ p.levels level c actions) : e.2 < level + actions.length := by
  induction actions generalizing level c with
  | nil => cases h
  | cons action rest ih =>
    rw [levels_cons] at h
    rcases List.mem_cons.mp h with rfl | hrest
    · simp
    · have hlt := ih hrest
      rw [List.length_cons]
      omega

end Performer

end Storyboard
