import Storyboard.Proofs.App.Course
import Storyboard.Proofs.App.History

/-!
# Dispatching without a scheduler is a course

Everything such a dispatch leads to is the course of its action through two interludes:
the answer to the first request is waited for, and the answer to the second one counts if
it is there at once.
-/
namespace Storyboard

namespace Report

@[simp] theorem append_notices (a b : Report) : (a ++ b).notices = a.notices ++ b.notices := rfl

@[simp] theorem append_deliveries (a b : Report) :
    (a ++ b).deliveries = a.deliveries ++ b.deliveries := rfl

theorem append_assoc (a b c : Report) : a ++ b ++ c = a ++ (b ++ c) := by
  change Report.mk _ _ = Report.mk _ _
  simp

@[simp] theorem append_silent (a : Report) : a ++ silent = a := by
  change Report.mk _ _ = _
  simp [silent]

theorem said_append (first second : List Notice) :
    said (first ++ second) = said first ++ said second := rfl

end Report

namespace Submitter

/-- The other side takes everything at once. -/
def prompt : Submitter where
  send _ _ := ⟨.succeeded, [], none⟩

/-- The other side takes everything, and is waited for. -/
def slow : Submitter where
  send _ _ := ⟨.succeeded, [], some []⟩

/-- The request with a number, when its answer is waited for. -/
def waited (submitter : Submitter) (number : Nat) (definition : Definition) : Interlude where
  said posting := (submitter.send number posting).notices
  outcome posting := some (submitter.send number posting).outcome
  definition
  change := id

/-- The request with a number, when it is cut off unless its answer is there at once. -/
def unwaited (submitter : Submitter) (number : Nat) (definition : Definition) : Interlude where
  said posting :=
    let answer := submitter.send number posting
    if answer.isAtOnce then answer.notices else answer.opening
  outcome posting :=
    let answer := submitter.send number posting
    if answer.isAtOnce then some answer.outcome else none
  definition
  change := id

end Submitter

/-- A chain goes on behind a request nobody waits for if the answer is there at once. -/
theorem Performer.course_unwaited (p : Performer) (submitter : Submitter) (number : Nat)
    {chain : Chain} {r : RemoteSubmit} (h : chain.remote = some r) :
    p.course [submitter.unwaited number p.definition] chain =
      let answer := submitter.send number r.toPosting
      if answer.isAtOnce then
        p.onward (submitter.waited number p.definition) chain r answer.outcome
      else chain.saying answer.opening := by
  rw [course_cons h]
  dsimp only
  split
  · rename_i hnone
    have hat : (submitter.send number r.toPosting).isAtOnce = false := by
      simpa [Submitter.unwaited] using hnone
    simp [Submitter.unwaited, hat]
  · rename_i outcome hsome
    simp only [Submitter.unwaited, Option.ite_none_right_eq_some, Option.some.injEq] at hsome
    obtain ⟨hat, rfl⟩ := hsome
    simp [Submitter.unwaited, Submitter.waited, onward, course, hat]

namespace App

/-- The interludes of a dispatch without a scheduler. -/
def inlineWorld (submitter : Submitter) (app : App) : List Interlude :=
  [submitter.waited app.calls.length app.definition,
    submitter.unwaited (app.calls.length + 1) app.definition]

/-- Where a dispatch without a scheduler leads. -/
def inlineCourse (submitter : Submitter) (action : Action) (app : App) : Chain :=
  app.performer.courseOf (app.inlineWorld submitter) action app.context

/-- The requests a dispatch without a scheduler makes. -/
def inlineRequests (submitter : Submitter) (action : Action) (app : App) : List RemoteSubmit :=
  app.performer.requests (app.inlineWorld submitter)
    (app.performer.runFully action app.context)

/-- An app after a chain, which made some requests. -/
def afterChain (app : App) (chain : Chain) (requests : List RemoteSubmit) : App × Report :=
  let (next, report) :=
    { app with context := chain.context, calls := app.calls ++ requests }.publish chain.effects
  (next, .said chain.notices ++ report)

theorem trace_actions (p : Performer) (c : Context) (actions : List Action) :
    (p.trace c actions).map (·.action) = actions := by
  induction actions generalizing c with
  | nil => rfl
  | cons action rest ih => exact congrArg (action :: ·) (ih _)

variable (app : App) (submitter : Submitter) (action : Action)

@[simp] theorem publish_nil : app.publish [] = (app, .silent) := by
  rw [publish]
  simp

/-- A submit that is a task of its own does what its course does. -/
theorem completeAside_eq (r : RemoteSubmit) :
    app.completeAside submitter r =
      app.afterChain
        (app.performer.course [submitter.unwaited app.calls.length app.definition]
          (.waiting app.context r)) [r] := by
  have hrequest : (app.request submitter r).1 = submitter.send app.calls.length r.toPosting := rfl
  have hremote : (Chain.waiting app.context r).remote = some r := rfl
  have hcourse := app.performer.course_unwaited submitter app.calls.length hremote
  unfold completeAside
  rw [show app.definition = app.performer.definition from rfl, hcourse]
  dsimp only
  rw [hrequest]
  split
  · rfl
  · simp only [afterChain, Chain.saying, Chain.waiting, Chain.idle, publish_nil,
      Report.append_silent]
    rfl

/-- A chain without effects and what follows it are one chain. -/
theorem afterChain_followedBy {first : Chain} (quiet : first.effects = []) (second : Chain)
    (before requests : List RemoteSubmit) :
    app.afterChain (first.followedBy second) (before ++ requests) =
      let (between, report) := app.afterChain first before
      let (next, others) := between.afterChain second requests
      (next, report ++ others) := by
  simp only [afterChain, quiet, publish_nil, Chain.followedBy, List.nil_append, List.append_assoc,
    Report.append_silent, Report.said_append, Report.append_assoc]

/-- The part of a dispatch that belongs to it, when it has a submit. -/
theorem performInline_of_remote {r : RemoteSubmit}
    (hr : (app.performer.runFully action app.context).remote = some r) :
    app.performInline submitter action =
      let first := app.performer.runFully action app.context
      let answer := submitter.send app.calls.length r.toPosting
      let second := app.performer.resume r answer.outcome first.context
      let later : App := { app with context := second.context, calls := app.calls ++ [r] }
      let (others, aside) := match second.remote with
        | some r => later.completeAside submitter r
        | none => (later, .silent)
      let (next, report) := others.publish (first.effects ++ second.effects)
      (next, .said (first.notices ++ (answer.notices ++ second.notices)) ++ aside ++ report) := by
  unfold performInline
  dsimp only
  rw [hr]
  rfl

/-- A dispatch without a scheduler does what its course does. -/
theorem performInline_eq :
    app.performInline submitter action =
      app.afterChain (app.inlineCourse submitter action) (app.inlineRequests submitter action) := by
  unfold inlineCourse inlineRequests Performer.courseOf inlineWorld
  cases hr : (app.performer.runFully action app.context).remote with
  | none =>
    rw [Performer.course_of_no_remote _ _ hr, Performer.requests_of_no_remote _ _ hr]
    simp only [performInline, hr, afterChain, List.append_nil]
  | some r =>
    have hfirst : (app.performer.runFully action app.context).effects = [] :=
      ((Performer.linear_run _ _ action app.context).pending r hr).1
    rw [performInline_of_remote app submitter action hr, Performer.course_cons hr,
      Performer.requests_cons hr]
    generalize app.performer.runFully action app.context = first at *
    dsimp only [Submitter.waited, Performer.onward, id_eq]
    change _ = app.afterChain (app.performer.course _ ((first.saying _).followedBy
      (app.performer.resume r _ first.context))) (r :: app.performer.requests _
      ((first.saying _).followedBy (app.performer.resume r _ first.context)))
    have hsecond := (app.performer.linear_resume r
      (submitter.send app.calls.length r.toPosting).outcome first.context).pending
    generalize app.performer.resume r (submitter.send app.calls.length r.toPosting).outcome
      first.context = second at *
    rw [Performer.course_followedBy, Performer.requests_followedBy]
    cases hr' : second.remote with
    | none =>
      rw [Performer.course_of_no_remote _ _ hr', Performer.requests_of_no_remote _ _ hr',
        ← List.nil_append first.effects]
      simp only [afterChain, Chain.followedBy, Chain.saying, Report.append_silent,
        Report.said_append, Report.append_assoc]
      rfl
    | some r' =>
      let aside := submitter.unwaited (app.calls.length + 1) app.definition
      have hrequests : app.performer.requests [aside] second = [r'] := by
        rw [Performer.requests_cons hr']
        cases aside.outcome r'.toPosting <;> rfl
      let answer := submitter.send app.calls.length r.toPosting
      have hquiet : ((first.saying answer.notices).followedBy second).effects = [] := by
        simp [Chain.followedBy, Chain.saying, hfirst, (hsecond r' hr').1]
      rw [Performer.course_of_remote _ _ hr', hrequests, ← Chain.followedBy_assoc,
        ← List.singleton_append (l := [r']), afterChain_followedBy app hquiet]
      simp only [afterChain, publish_nil, completeAside_eq, hfirst, (hsecond r' hr').1,
        List.append_nil, Report.append_silent, Chain.followedBy, Chain.saying, List.append_assoc,
        List.length_append, List.length_singleton]
      rfl

/-- The actions behind a submit that is a task of its own are those of its course. -/
theorem asideExecutions_actions (r : RemoteSubmit) :
    (app.asideExecutions submitter r).map (·.action) =
      (app.performer.course [submitter.unwaited app.calls.length app.definition]
        (.waiting app.context r)).performed := by
  have hrequest : (app.request submitter r).1 = submitter.send app.calls.length r.toPosting := rfl
  have hremote : (Chain.waiting app.context r).remote = some r := rfl
  have hcourse := app.performer.course_unwaited submitter app.calls.length hremote
  unfold asideExecutions
  rw [show app.definition = app.performer.definition from rfl, hcourse]
  dsimp only
  rw [hrequest]
  split
  · exact trace_actions _ _ _
  · rfl

/-- The executions of a dispatch that has a submit. -/
theorem inlineExecutions_of_remote {r : RemoteSubmit}
    (hr : (app.performer.runFully action app.context).remote = some r) :
    app.inlineExecutions submitter action =
      let first := app.performer.runFully action app.context
      let between : App := { app with context := first.context }
      let answer := submitter.send app.calls.length r.toPosting
      let second := app.performer.resume r answer.outcome first.context
      let later : App := { app with context := second.context, calls := app.calls ++ [r] }
      app.executionsOf first ++ (between.executionsOf second ++
        match second.remote with
        | none => []
        | some r => later.asideExecutions submitter r) := by
  unfold inlineExecutions
  dsimp only
  rw [hr]
  rfl

/-- The actions that a dispatch without a scheduler performs are those of its course. -/
theorem inlineExecutions_actions :
    (app.inlineExecutions submitter action).map (·.action) =
      (app.inlineCourse submitter action).performed := by
  unfold inlineCourse Performer.courseOf inlineWorld
  cases hr : (app.performer.runFully action app.context).remote with
  | none =>
    rw [Performer.course_of_no_remote _ _ hr, inlineExecutions, hr]
    simp only [List.append_nil, executionsOf, trace_actions]
  | some r =>
    rw [inlineExecutions_of_remote app submitter action hr, Performer.course_cons hr]
    generalize app.performer.runFully action app.context = first
    dsimp only [Submitter.waited, Performer.onward, id_eq]
    change _ = (app.performer.course _ ((first.saying _).followedBy
      (app.performer.resume r _ first.context))).performed
    generalize app.performer.resume r (submitter.send app.calls.length r.toPosting).outcome
      first.context = second
    simp only [List.map_append, executionsOf, trace_actions, Performer.course_followedBy]
    cases hr' : second.remote with
    | none =>
      rw [Performer.course_of_no_remote _ _ hr', List.map_nil, List.append_nil]
      rfl
    | some r' =>
      rw [Performer.course_of_remote _ _ hr']
      simp only [asideExecutions_actions, List.length_append, List.length_singleton]
      rfl

end App

end Storyboard
