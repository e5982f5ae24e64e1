import Storyboard.Proofs.App.InlineCourse
import Storyboard.Proofs.App.Reload

/-!
# The queue of popups

Every popup that is performed joins the queue once, behind those that wait already, and it
leaves the queue at its front, by being dismissed. So at every moment of a run the popups
performed so far are those dismissed so far and, behind them, those in the queue. What
listeners make of them plays no part in this.
-/
namespace Storyboard

/-- The popup that an execution shows. -/
def Execution.popups (e : Execution) : List ShownPopup :=
  match e.action with
  | .popup a => [.ofPopup e.performer.settings.defaultButtonText a]
  | _ => []

/-- What a leg performs. -/
def Leg.executions (leg : Leg) : List Execution :=
  leg.performer.trace leg.before leg.chain.performed

namespace Performer

variable (p : Performer)

/-- An action has a popup among its effects if and only if it is one. -/
theorem popups_perform (c : Context) (a : Action) :
    (p.perform c a).effects.filterMap Effect.popup? = (Execution.mk p a c).popups := by
  by_cases hpopup : a.kind = .popup
  · cases a <;> cases hpopup
    rfl
  by_cases hopen : a.kind = .openUrl
  · cases a <;> cases hopen
    rfl
  have hnone : (Execution.mk p a c).popups = [] := by
    cases a with
    | popup => exact absurd rfl hpopup
    | _ => rfl
  rw [effects_eq_nil hpopup hopen, hnone, List.filterMap_nil]

/-- The effects of a chain hold the popups that it performs, in order. -/
theorem popups_run (allowance : Nat) (a : Action) (c : Context) :
    (p.run allowance a c).effects.filterMap Effect.popup? =
      (p.trace c (p.run allowance a c).performed).flatMap Execution.popups := by
  induction allowance generalizing a c with
  | zero => rfl
  | succ allowance ih =>
    have hhere := p.popups_perform c a
    simp only [run]
    cases (p.perform c a).next with
    | finished =>
      simp only [Chain.after, Chain.idle, List.append_nil, trace, List.flatMap_singleton]
      exact hhere
    | follow next =>
      simp only [Chain.after, List.filterMap_append, trace, List.flatMap_cons, hhere, ih]
    | send endpoint submit =>
      simp only [Chain.after, Chain.idle, List.append_nil, trace, List.flatMap_singleton]
      exact hhere

theorem popups_resume (r : RemoteSubmit) (outcome : Outcome) (c : Context) :
    (p.resume r outcome c).effects.filterMap Effect.popup? =
      (p.trace c (p.resume r outcome c).performed).flatMap Execution.popups := by
  unfold resume
  cases r.followUp outcome with
  | none => rfl
  | some a => exact p.popups_run r.allowance a c

end Performer

theorem Leg.popups_chain (leg : Leg) :
    leg.chain.effects.filterMap Effect.popup? = leg.executions.flatMap Execution.popups := by
  obtain ⟨p, c, cause⟩ := leg
  cases cause with
  | dispatched action => exact p.popups_run _ action c
  | concluded r outcome => exact p.popups_resume r outcome c

namespace App

variable (app : App)

theorem popups_publish (effects : List Effect) :
    (app.publish effects).1.popups = app.popups ++ effects.filterMap Effect.popup? := rfl

/-- A submit that is a task of its own shows its popups when it is published. -/
theorem popups_completeAside (submitter : Submitter) (r : RemoteSubmit) :
    (app.completeAside submitter r).1.popups =
      app.popups ++ (app.asideExecutions submitter r).flatMap Execution.popups := by
  unfold completeAside asideExecutions
  dsimp only
  split
  · exact congrArg (app.popups ++ ·) (app.performer.popups_resume r _ app.context)
  · exact (List.append_nil _).symm

theorem popups_runFully (action : Action) :
    (app.performer.runFully action app.context).effects.filterMap Effect.popup? =
      (app.executionsOf (app.performer.runFully action app.context)).flatMap Execution.popups :=
  app.performer.popups_run _ action app.context

/-- What is published in one batch was performed in several parts, of which only the last one
has effects: a chain that waits for a submit has none. -/
theorem popups_performInline (submitter : Submitter) (action : Action) :
    (app.performInline submitter action).1.popups =
      app.popups ++ (app.inlineExecutions submitter action).flatMap Execution.popups := by
  have hfirst := app.popups_runFully action
  cases hr : (app.performer.runFully action app.context).remote with
  | none =>
    simp only [performInline, hr, inlineExecutions, List.append_nil]
    exact congrArg (app.popups ++ ·) hfirst
  | some r =>
    have hquiet : (app.performer.runFully action app.context).effects = [] :=
      ((app.performer.linear_run _ action app.context).pending r hr).1
    rw [performInline_of_remote app submitter action hr,
      inlineExecutions_of_remote app submitter action hr]
    generalize app.performer.runFully action app.context = first at hfirst hquiet ⊢
    have hsecond := app.performer.popups_resume r
      (submitter.send app.calls.length r.toPosting).outcome first.context
    have hlinear := app.performer.linear_resume r
      (submitter.send app.calls.length r.toPosting).outcome first.context
    dsimp only
    generalize app.performer.resume r (submitter.send app.calls.length r.toPosting).outcome
      first.context = second at hsecond hlinear ⊢
    rw [hquiet, List.filterMap_nil] at hfirst
    rw [List.flatMap_append, List.flatMap_append, ← hfirst, List.nil_append, hquiet,
      List.nil_append]
    cases hr' : second.remote with
    | none =>
      dsimp only
      rw [popups_publish, hsecond, List.flatMap_nil, List.append_nil]
      rfl
    | some r' =>
      have hquiet' : second.effects = [] := (hlinear.pending r' hr').1
      rw [hquiet', List.filterMap_nil] at hsecond
      dsimp only
      rw [popups_publish, popups_completeAside, hquiet', List.filterMap_nil, List.append_nil]
      exact congrArg (fun shown => app.popups ++ (shown ++ _)) hsecond

theorem popups_perform (carrier : Carrier) (action : Action) :
    (app.perform carrier action).1.popups =
      app.popups ++ (app.performExecutions carrier action).flatMap Execution.popups := by
  cases carrier with
  | inline submitter => exact app.popups_performInline submitter action
  | scheduled => exact congrArg (app.popups ++ ·) (app.popups_runFully action)

/-- A wake-up with an answer shows what the follow-up of its submit performs; another one
shows nothing. -/
theorem popups_handle (w : Wakeup) :
    (app.handle w).1.popups =
      app.popups ++ (app.wakeupExecutions w).flatMap Execution.popups := by
  cases w with
  | start r =>
    rw [handle, start_eq]
    exact (List.append_nil _).symm
  | granted r => exact (List.append_nil _).symm
  | answered r outcome =>
    rw [handle, conclude_eq, release_eq]
    exact congrArg (app.popups ++ ·) (app.performer.popups_resume r outcome app.context)

theorem popups_handleAll (fuel : Nat) :
    (handleAll fuel app).1.popups =
      app.popups ++ (handleAllExecutions fuel app).flatMap Execution.popups := by
  induction fuel generalizing app with
  | zero => exact (List.append_nil _).symm
  | succ fuel ih =>
    cases hready : app.tasks.ready with
    | nil =>
      simp only [handleAll, handleAllExecutions, hready]
      exact (List.append_nil _).symm
    | cons w rest =>
      simp only [handleAll, handleAllExecutions, hready, ih, List.flatMap_append, popups_handle,
        List.append_assoc]

/-- The popups that an operation takes away. -/
def Operation.dismissed (app : App) : Operation → List ShownPopup
  | .dismiss _ _ => app.popups.take 1
  | _ => []

/-- What an operation performs joins the queue, which the dismissed popup left. -/
theorem Operation.popups_apply (op : Operation) :
    app.popups ++ (op.executions app).flatMap Execution.popups =
      op.dismissed app ++ (op.apply app).popups := by
  cases op with
  | dispatch carrier data =>
    simp only [executions, apply, App.dispatch, dismissed, List.nil_append]
    cases Action.accept data with
    | error fault => exact List.append_nil _
    | ok intake =>
      obtain ⟨_ | action, notices⟩ := intake
      · exact List.append_nil _
      · exact (app.popups_perform carrier action).symm
  | perform carrier action => exact (app.popups_perform carrier action).symm
  | dismiss carrier index =>
    simp only [executions, apply, App.dismiss, dismissed]
    cases hpopups : app.popups with
    | nil =>
      dsimp only
      rw [hpopups]
      rfl
    | cons shown rest =>
      dsimp only
      cases shown.action? index with
      | none => exact List.append_nil _
      | some action =>
        have hperform := popups_perform { app with popups := rest } carrier action
        exact (congrArg (shown :: ·) hperform).symm
  | setForm values => exact List.append_nil _
  | reload source =>
    rcases apply_reload app source with hsame | ⟨definition, hnext⟩
    · rw [hsame]
      exact List.append_nil _
    · rw [hnext]
      exact List.append_nil _
  | currentScreen => exact List.append_nil _
  | settle => exact (app.popups_handleAll _).symm
  | answer number outcome =>
    simp only [executions, apply, App.answer, dismissed]
    cases app.tasks.answer? number outcome with
    | none => exact List.append_nil _
    | some tasks => exact (popups_handleAll { app with tasks } _).symm

/-- What happens under an event loop does the same. -/
theorem Event.popups_next (e : Event) :
    app.popups ++ ((e.leg? app).toList.flatMap Leg.executions).flatMap Execution.popups =
      e.dismissed app ++ (e.next app).popups := by
  cases hleg : e.leg? app with
  | none =>
    obtain ⟨-, _, _, popups, _, _, hpopups, hnext, -⟩ := of_rest hleg
    rw [hnext]
    exact (List.append_nil _).trans hpopups
  | some leg =>
    obtain ⟨-, -, popups, tasks, hpopups, hnext, -⟩ := of_leg hleg
    rw [hnext, Option.toList_some, List.flatMap_singleton, ← leg.popups_chain, hpopups,
      List.append_assoc]
    rfl

end App

namespace Facade

/-- What a move performs. -/
def Move.executions (app : App) : Move → List Execution
  | .operation op => op.executions app
  | .loop e => (e.leg? app).toList.flatMap Leg.executions
  | _ => []

/-- The popups that a move takes away. -/
def Move.dismissed (app : App) : Move → List ShownPopup
  | .operation op => op.dismissed app
  | .loop e => e.dismissed app
  | _ => []

theorem Move.popups_next (app : App) (m : Move) :
    app.popups ++ (m.executions app).flatMap Execution.popups =
      m.dismissed app ++ (m.next app).popups := by
  cases m with
  | operation op => exact op.popups_apply app
  | loop e => exact e.popups_next app
  | login user =>
    have hlogin : (app.login user).1.popups = app.popups := by
      unfold App.login
      cases Form.table? user with
      | error fault => rfl
      | ok form =>
        dsimp only
        cases App.keyIssues form <;> rfl
    simp only [executions, dismissed, next, hlogin, List.flatMap_nil, List.append_nil,
      List.nil_append]
  | subscribe _ | unsubscribe _ | logout => exact List.append_nil _

/-- The popups shown in a run, in order. -/
def shown (f : Facade) : List Move → List ShownPopup
  | [] => []
  | m :: rest => (m.executions f.app).flatMap Execution.popups ++ shown (f.move m) rest

/-- The popups dismissed in a run, in order. -/
def dismissed (f : Facade) : List Move → List ShownPopup
  | [] => []
  | m :: rest => m.dismissed f.app ++ dismissed (f.move m) rest

theorem popups_after {f : Facade} (h : f.InStep) (moves : List Move) :
    f.app.popups ++ f.shown moves = f.dismissed moves ++ (f.after moves).app.popups := by
  induction moves generalizing f with
  | nil => exact List.append_nil _
  | cons m rest ih =>
    have hnext : (f.move m).app = m.next f.app := by rw [move_eq h.same]
    have hrest := ih (h.move m)
    rw [hnext] at hrest
    rw [shown, dismissed, after, ← List.append_assoc, m.popups_next, List.append_assoc, hrest,
      List.append_assoc]

end Facade

/-- The button with an index has an action. -/
theorem ShownPopup.action?_eq_some {shown : ShownPopup} {index : Int} {action : Action} :
    shown.action? index = some action ↔
      ∃ n : Nat, (n : Int) = index ∧ ∃ button ∈ shown.buttons[n]?, button.action = some action := by
  unfold action?
  constructor
  · intro h
    split at h
    · rename_i hindex
      obtain ⟨button, hbutton, haction⟩ := Option.bind_eq_some_iff.mp h
      exact ⟨index.toNat, Int.toNat_of_nonneg hindex, button, hbutton, haction⟩
    · cases h
  · rintro ⟨n, rfl, button, hbutton, haction⟩
    rw [if_pos (Int.natCast_nonneg n), Int.toNat_natCast, hbutton, Option.bind_some, haction]

namespace App

/-- What dismissing does: the index is that of the button that is pressed. -/
structure Dismissal (app : App) (carrier : Carrier) (index : Int) : Prop where
  /-- An empty queue stays as it is, and so does everything else. -/
  nothing : app.popups = [] → app.dismiss carrier index = (app, .silent)
  /-- The shown popup is gone before the action of the button is dispatched, and that chain has
  the whole allowance. -/
  pressed : ∀ {shown : ShownPopup} {rest : List ShownPopup} {action : Action},
    app.popups = shown :: rest →
    (∃ n : Nat, (n : Int) = index ∧ ∃ button ∈ shown.buttons[n]?, button.action = some action) →
      app.dismiss carrier index = ({ app with popups := rest } : App).perform carrier action ∧
      app.performer.trace app.context
          (app.performer.run app.settings.maxActionDepth.depth action app.context).performed <+:
        (Operation.dismiss carrier index).executions app
  /-- Without such a button, or without an action of it, the popup goes and nothing else is
  done. -/
  unpressed : ∀ {shown : ShownPopup} {rest : List ShownPopup}, app.popups = shown :: rest →
    (∀ n : Nat, (n : Int) = index → ∀ button ∈ shown.buttons[n]?, button.action = none) →
      app.dismiss carrier index = ({ app with popups := rest }, .silent)
  /-- What the action shows stands behind what was in the queue already. -/
  behind : ∀ {shown : ShownPopup} {rest : List ShownPopup}, app.popups = shown :: rest →
    (app.dismiss carrier index).1.popups =
      rest ++ ((Operation.dismiss carrier index).executions app).flatMap Execution.popups

/-- An action begins with the chain of the whole allowance, however submits are carried out. -/
theorem executionsOf_prefix (app : App) (carrier : Carrier) (action : Action) :
    app.executionsOf (app.performer.runFully action app.context) <+:
      app.performExecutions carrier action := by
  cases carrier with
  | inline submitter => exact List.prefix_append _ _
  | scheduled => exact List.prefix_rfl

theorem dismissal (app : App) (carrier : Carrier) (index : Int) :
    app.Dismissal carrier index where
  nothing := by
    intro hpopups
    rw [dismiss, hpopups]
  pressed := by
    intro shown rest action hpopups hbutton
    have haction := ShownPopup.action?_eq_some.mpr hbutton
    rw [dismiss, Operation.executions, hpopups]
    dsimp only
    rw [haction]
    exact ⟨rfl, executionsOf_prefix { app with popups := rest } carrier action⟩
  unpressed := by
    intro shown rest hpopups hbutton
    have hnone : shown.action? index = none := by
      by_contra hsome
      obtain ⟨action, haction⟩ := Option.ne_none_iff_exists'.mp hsome
      obtain ⟨n, hindex, button, hmem, hpressed⟩ := ShownPopup.action?_eq_some.mp haction
      rw [hbutton n hindex button hmem] at hpressed
      cases hpressed
    rw [dismiss, hpopups]
    dsimp only
    rw [hnone]
  behind := by
    intro shown rest hpopups
    have hqueue := Operation.popups_apply app (.dismiss carrier index)
    rw [Operation.dismissed, hpopups] at hqueue
    exact (List.cons.inj hqueue).2.symm

end App

/-- In every run of a facade, the popups shown so far are those dismissed so far and, behind
them, those in the queue; and at the end of it dismissing takes away the popup in front, before
it does anything else. -/
theorem popups_shown_once_in_order {settings : Settings} {verifier : Verifier} {supply : Supply}
    {definition : Definition} {seed : Assoc Json} {f : Facade} {notices : List Notice}
    (started : Facade.ofDefinition settings verifier supply definition seed = .ok (f, notices))
    (moves : List Facade.Move) :
    f.shown moves = f.dismissed moves ++ (f.after moves).app.popups ∧
      ∀ carrier index, (f.after moves).app.Dismissal carrier index := by
  have hempty : f.app.popups = [] := by
    unfold Facade.ofDefinition App.ofDefinition at started
    cases hseed : Store.ofSeed supply seed with
    | error e =>
      rw [hseed] at started
      cases started
    | ok seeded =>
      rw [hseed] at started
      cases started
      rfl
  have hqueue := Facade.popups_after (.ofDefinition started) moves
  rw [hempty, List.nil_append] at hqueue
  exact ⟨hqueue, (f.after moves).app.dismissal⟩

/-- A popup whose second button shows another one. -/
def welcomePopup : Action :=
  .popup ⟨.absent, "Welcome", .absent, .value [⟨"Close", .absent, .absent, []⟩,
    ⟨"More", .absent, .value (.popup ⟨.absent, "More", .absent, .absent, []⟩), []⟩], []⟩

/-- Two popups are shown, to a listener that fails; the button of the first one is pressed, and
the second one is dismissed with an index that no button has. -/
def welcomeVisit : List Facade.Move :=
  [.subscribe ⟨0, fun _ => false⟩, .operation (.perform (.inline .prompt) welcomePopup),
    .loop (.host (.perform (.popup ⟨.absent, "News", .absent, .absent, []⟩))),
    .operation (.dismiss .scheduled 1), .operation (.dismiss .scheduled (-1))]

/-- The popup of the button stands behind the second one, and is left in the end. -/
theorem welcome_popups_in_order :
    ∃ f notices, Facade.ofDefinition .default .plaintext ⟨.counter, 0⟩ folderDefinition [] =
        .ok (f, notices) ∧
      (f.shown welcomeVisit).map (·.message) = ["Welcome", "News", "More"] ∧
      (f.dismissed welcomeVisit).map (·.message) = ["Welcome", "News"] ∧
      (f.after welcomeVisit).app.popups.map (·.message) = ["More"] ∧
      f.shown welcomeVisit = f.dismissed welcomeVisit ++ (f.after welcomeVisit).app.popups ∧
      (f.after welcomeVisit).app.Dismissal .scheduled 0 := by
  obtain ⟨f, notices, started, shown, dismissed, left⟩ :
      ∃ f notices, Facade.ofDefinition .default .plaintext ⟨.counter, 0⟩ folderDefinition [] =
          .ok (f, notices) ∧
        (f.shown welcomeVisit).map (·.message) = ["Welcome", "News", "More"] ∧
        (f.dismissed welcomeVisit).map (·.message) = ["Welcome", "News"] ∧
        (f.after welcomeVisit).app.popups.map (·.message) = ["More"] :=
    ⟨_, _, rfl, rfl, rfl, rfl⟩
  obtain ⟨hqueue, hdismissal⟩ := popups_shown_once_in_order started welcomeVisit
  exact ⟨f, notices, started, shown, dismissed, left, hqueue, hdismissal .scheduled 0⟩

end Storyboard
