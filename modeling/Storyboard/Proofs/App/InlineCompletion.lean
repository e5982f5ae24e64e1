import Storyboard.Proofs.App.InlineCourse

/-!
# Which submits a dispatch completes

A dispatch without a scheduler is to complete every submit its chain reaches. The course in
which every request is waited for says which submits those are and what they lead to. The
dispatch follows it through the first submit, and through the second one if its answer is
there at once; a third submit is never sent.
-/
namespace Storyboard

namespace Submitter

/-- Requests that are all waited for, from a number on. -/
def patient (submitter : Submitter) (definition : Definition) : Nat → Nat → List Interlude
  | _, 0 => []
  | number, count + 1 =>
    submitter.waited number definition :: submitter.patient definition (number + 1) count

end Submitter

/-- One request is answered at once, or none is made. -/
def Submitter.Settles (submitter : Submitter) (number : Nat) : List RemoteSubmit → Prop
  | [] => True
  | [r] => (submitter.send number r.toPosting).isAtOnce = true
  | _ => False

theorem Submitter.settles_cons {submitter : Submitter} {number : Nat} {r : RemoteSubmit}
    {later : List RemoteSubmit} :
    submitter.Settles number (r :: later) ↔
      (submitter.send number r.toPosting).isAtOnce = true ∧ later = [] := by
  cases later with
  | nil => simp [Settles]
  | cons next rest => simp [Settles]

namespace App

variable (app : App) (submitter : Submitter) (action : Action)

/-- More requests than a dispatch can reach, all of them waited for. -/
def patientWorld : List Interlude :=
  submitter.patient app.definition app.calls.length (app.settings.maxActionDepth.depth + 2)

/-- Where a dispatch leads when every request is waited for. -/
def patientCourse : Chain :=
  app.performer.courseOf (app.patientWorld submitter) action app.context

/-- The submits a dispatch reaches when every request is waited for. -/
def reached : List RemoteSubmit :=
  app.performer.requests (app.patientWorld submitter) (app.performer.runFully action app.context)

/-- A dispatch without a scheduler can complete every submit it reaches. -/
def Completes : Prop :=
  submitter.Settles (app.calls.length + 1) (app.reached submitter action).tail

end App

namespace Performer

variable {p : Performer}

/-- A chain with a submit at its end performed an action, which counts. -/
theorem allowance_lt_of_resume {r next : RemoteSubmit} {outcome : Outcome} {c : Context}
    (h : (p.resume r outcome c).remote = some next) : next.allowance < r.allowance := by
  have hlinear := p.linear_resume r outcome c
  obtain ⟨-, last, hlast, -⟩ := hlinear.pending next h
  have hbounded := hlinear.bounded
  have hleft := Chain.left_of_remote h
  have hpositive : 0 < (p.resume r outcome c).performed.length :=
    List.length_pos_of_mem (List.mem_of_getLast? hlast)
  omega

/-- With a request left for every action that may still be run, nothing stays pending. -/
theorem course_patient (submitter : Submitter) (definition : Definition) (number count : Nat)
    {chain : Chain} (enough : ∀ r ∈ chain.remote, r.allowance < count) :
    (p.course (submitter.patient definition number count) chain).remote = none := by
  induction count generalizing number chain with
  | zero =>
    cases hr : chain.remote with
    | none => exact hr
    | some r => exact absurd (enough r hr) (Nat.not_lt_zero _)
  | succ count ih =>
    cases hr : chain.remote with
    | none => rwa [course_of_no_remote _ _ hr]
    | some r =>
      rw [Submitter.patient, course_cons hr]
      refine ih (number + 1) fun next hnext => ?_
      have hless := allowance_lt_of_resume (Option.mem_def.mp hnext)
      have hr' := enough r hr
      omega

theorem requests_eq_nil {between : Interlude} {later : List Interlude} {chain : Chain} :
    p.requests (between :: later) chain = [] ↔ chain.remote = none := by
  cases hr : chain.remote with
  | none => simp [requests_of_no_remote _ _ hr]
  | some r => simp [requests_cons hr]

/-- A submit that is a task of its own is completed if it is the last one and its answer is
there at once; then it does what it would do if it were waited for. -/
theorem course_unwaited_iff (p : Performer) (submitter : Submitter) (number count : Nat)
    (chain : Chain) :
    ((p.course [submitter.unwaited number p.definition] chain).remote = none ↔
      submitter.Settles number
        (p.requests (submitter.patient p.definition number (count + 2)) chain)) ∧
    (submitter.Settles number
        (p.requests (submitter.patient p.definition number (count + 2)) chain) →
      p.course [submitter.unwaited number p.definition] chain =
        p.course (submitter.patient p.definition number (count + 2)) chain) := by
  cases hr : chain.remote with
  | none =>
    simp [course_of_no_remote _ _ hr, requests_of_no_remote _ _ hr, hr, Submitter.Settles]
  | some r =>
    rw [p.course_unwaited submitter number hr, Submitter.patient, course_cons hr, requests_cons hr,
      Submitter.settles_cons]
    dsimp only [Submitter.waited]
    generalize p.onward _ chain r _ = next
    split
    · rename_i hat
      rw [Submitter.patient, requests_eq_nil]
      refine ⟨⟨fun hlast => ⟨hat, hlast⟩, And.right⟩, fun hsettles => ?_⟩
      rw [course_of_no_remote _ _ hsettles.2]
    · rename_i hwaits
      refine ⟨⟨fun hlast => ?_, fun hsettles => absurd hsettles.1 hwaits⟩,
        fun hsettles => absurd hsettles.1 hwaits⟩
      rw [Chain.saying, hr] at hlast
      cases hlast

end Performer

namespace App

variable (app : App) (submitter : Submitter) (action : Action)

/-- When every request is waited for, no submit is left. -/
theorem patientCourse_remote : (app.patientCourse submitter action).remote = none := by
  refine Performer.course_patient submitter app.definition _ _ fun r hr => ?_
  have hlinear := app.performer.linear_run app.settings.maxActionDepth.depth action app.context
  have hbounded := hlinear.bounded
  have hleft := Chain.left_of_remote (Option.mem_def.mp hr)
  change (app.performer.run app.settings.maxActionDepth.depth action app.context).left = _ at hleft
  omega

/-- The dispatch sends the first two of the submits it reaches. -/
theorem inlineRequests_eq :
    app.inlineRequests submitter action = (app.reached submitter action).take 2 := by
  unfold inlineRequests reached inlineWorld patientWorld
  generalize app.performer.runFully action app.context = first
  cases hr : first.remote with
  | none => simp only [Performer.requests_of_no_remote _ _ hr, List.take_nil]
  | some r =>
    rw [Submitter.patient, Submitter.patient, Performer.requests_cons hr,
      Performer.requests_cons hr]
    dsimp only [Submitter.waited]
    generalize app.performer.onward _ first r _ = second
    cases hr' : second.remote with
    | none =>
      simp only [Performer.requests_of_no_remote _ _ hr', List.take_succ_cons, List.take_nil]
    | some r' =>
      rw [Performer.requests_cons hr', Performer.requests_cons hr']
      cases (submitter.unwaited (app.calls.length + 1) app.definition).outcome r'.toPosting <;> rfl

/-- The dispatch completes every submit it reaches exactly if it can, and then it does what
it would do if every request were waited for. -/
theorem inlineCourse_iff :
    ((app.inlineCourse submitter action).remote = none ↔ app.Completes submitter action) ∧
    (app.Completes submitter action →
      app.inlineCourse submitter action = app.patientCourse submitter action) := by
  unfold Completes inlineCourse patientCourse reached inlineWorld patientWorld Performer.courseOf
  generalize app.performer.runFully action app.context = first
  cases hr : first.remote with
  | none =>
    simp [Performer.course_of_no_remote _ _ hr, Performer.requests_of_no_remote _ _ hr, hr,
      Submitter.Settles]
  | some r =>
    have hcount : app.settings.maxActionDepth.depth + 1 =
        app.settings.maxActionDepth.depth - 1 + 2 := by
      have hpositive := app.settings.maxActionDepth.positive
      omega
    rw [Submitter.patient, Performer.course_cons hr, Performer.course_cons hr,
      Performer.requests_cons hr, List.tail_cons, hcount]
    exact app.performer.course_unwaited_iff submitter (app.calls.length + 1) _
      (app.performer.onward (submitter.waited app.calls.length app.definition) first r
        (submitter.send app.calls.length r.toPosting).outcome)

/-- Without a scheduler a dispatch sends the first two of the submits it reaches. It completes
them all exactly if there is no third one and the answer to the second is there at once; then it
does what it would do if every request were waited for, and that leaves no submit. -/
theorem inline_dispatch_completes_iff :
    (app.patientCourse submitter action).remote = none ∧
    app.performInline submitter action =
      app.afterChain (app.inlineCourse submitter action)
        ((app.reached submitter action).take 2) ∧
    ((app.inlineCourse submitter action).remote = none ↔ app.Completes submitter action) ∧
    (app.Completes submitter action →
      app.inlineCourse submitter action = app.patientCourse submitter action) := by
  refine ⟨app.patientCourse_remote submitter action, ?_, app.inlineCourse_iff submitter action⟩
  rw [performInline_eq, inlineRequests_eq]

end App

/-- Two screens without components. -/
def relayDefinition : Definition where
  version := "1"
  app := ⟨"Relay", .absent, .absent, .absent, .absent, []⟩
  screens := [("home", ⟨.absent, .absent, none, .value [], none, []⟩),
    ("done", ⟨.absent, .absent, none, .value [], none, []⟩)]
  initialScreen := "home"
  extra := []

def relay : App where
  settings := .default
  verifier := .plaintext
  definition := relayDefinition
  context := .start .empty ⟨.counter, 0⟩ "home"
  popups := []
  listeners := []
  tasks := .none
  calls := []

/-- Submits to one endpoint after the other, and the last screen behind them. -/
def relayTo : List String → Action
  | [] => .navigate ⟨"done", .absent, .absent, []⟩
  | endpoint :: later =>
    .submit ⟨.absent, .value endpoint, .absent, .absent, .absent, .absent, .value (relayTo later),
      .absent, []⟩

def shortRelay : Action := relayTo ["https://a.example", "https://b.example"]

def longRelay : Action :=
  relayTo ["https://a.example", "https://b.example", "https://c.example"]

/-- A third submit is never sent, and a second one that has to be waited for is cut off. -/
theorem relay_loses_submits :
    ((relay.reached .prompt longRelay).map (·.endpoint) =
        ["https://a.example", "https://b.example", "https://c.example"] ∧
      (relay.patientCourse .prompt longRelay).context.screen = "done" ∧
      (relay.performInline .prompt longRelay).1.calls.map (·.endpoint) =
        ["https://a.example", "https://b.example"] ∧
      (relay.performInline .prompt longRelay).1.context.screen = "home" ∧
      ¬ relay.Completes .prompt longRelay) ∧
    ((relay.patientCourse .slow shortRelay).context.screen = "done" ∧
      (relay.performInline .slow shortRelay).1.context.screen = "home" ∧
      ¬ relay.Completes .slow shortRelay) := by
  refine ⟨⟨rfl, rfl, rfl, rfl, id⟩, rfl, rfl, Bool.false_ne_true⟩

end Storyboard
