import Storyboard.Proofs.Action.Heights
import Storyboard.Proofs.App.InlineCourse
import Storyboard.Proofs.App.Signup
import Storyboard.Proofs.App.Step
import Storyboard.Proofs.App.Supported
import Storyboard.Proofs.Records.Seeding

/-!
# Shallow apps stay shallow

Actions move values around: from the form into records, from a record into the session, from an
action into the form. None of them builds a value that is higher than those it moves. So the
values of the form, the records and the session stay within the height that they and the values
of the dispatched actions had, and what a popup offers can be dumped.
-/
namespace Storyboard

variable {n : Nat}

namespace Form

theorem Shallow.nil : Shallow n [] := nofun

theorem mem_put {form : Form} {key : Key} {v : Json} {p : Key × Json} (h : p ∈ put form key v) :
    p ∈ form ∨ p.2 = v := by
  induction form with
  | nil => exact .inr (List.mem_singleton.mp h ▸ rfl)
  | cons q rest ih =>
    unfold put at h
    split at h
    · obtain rfl | hrest := List.mem_cons.mp h
      · exact .inr rfl
      · exact .inl (List.mem_cons_of_mem _ hrest)
    · obtain rfl | hrest := List.mem_cons.mp h
      · exact .inl List.mem_cons_self
      · exact (ih hrest).imp_left (List.mem_cons_of_mem _)

theorem Shallow.put {form : Form} (h : form.Shallow n) (key : Key) {v : Json}
    (hv : v.height ≤ n) : (Form.put form key v).Shallow n := by
  intro p hp
  obtain hmem | rfl := mem_put hp
  · exact h p hmem
  · exact hv

theorem Shallow.clear {form : Form} (h : form.Shallow n) (hn : 1 ≤ n) (ids : List String) :
    (Form.clear form ids).Shallow n := by
  unfold Form.clear
  induction ids generalizing form with
  | nil => exact h
  | cons id rest ih => exact ih (h.put (.id id) hn)

end Form

/-- What a context holds is of limited height. -/
structure Context.Shallow (n : Nat) (c : Context) : Prop where
  form : c.form.Shallow n
  store : c.store.Shallow n
  session : ∀ s ∈ c.session, Json.heightFields s.user ≤ n

namespace Context.Shallow

variable {c : Context}

theorem navigate (h : c.Shallow n) (screen : String) : (c.navigate screen).Shallow n :=
  ⟨h.form, h.store, h.session⟩

theorem logout (h : c.Shallow n) : c.logout.Shallow n := ⟨h.form, h.store, nofun⟩

theorem enter (h : c.Shallow n) {user : Record} (huser : Json.heightFields user ≤ n)
    (screen : String) : (c.enter user screen).Shallow n := by
  refine ⟨.nil, h.store, ?_⟩
  rintro _ ⟨⟩
  exact huser

end Context.Shallow

namespace Performer

variable {p : Performer} {c : Context}

theorem heightFields_submittedRecord_le {form : Form} (h : form.Shallow n) (hn : 1 ≤ n)
    (fields : Assoc String) : Json.heightFields (submittedRecord form fields) ≤ n := by
  refine Json.heightFields_le.mpr fun p hp => ?_
  obtain ⟨⟨name, id⟩, -, rfl⟩ := List.mem_map.mp hp
  exact h.get hn (.id id)

theorem shallow_signup (hc : c.Shallow n) (hn : 1 ≤ n) (a : SignIn) :
    (p.signup c a).context.Shallow n := by
  cases configured : p.definition.authentication with
  | none =>
    obtain ⟨fields, onError, extra⟩ := a
    unfold signup
    rw [configured]
    exact hc
  | some auth =>
    have hverdict := signup_verdict configured c a
    generalize p.signup c a = step at hverdict ⊢
    cases hverdict with
    | @entered secret admits row store supply inserted =>
      have hemail : (a.emailIn c.form).height ≤ n := hc.form.get hn (.id a.fields.email)
      have hnewcomer := heightFields_newcomer_le hc.form hn auth a.fields hemail secret
      obtain ⟨hrow, hstore⟩ := (hc.store.ensureTables _).insert hn hnewcomer inserted
      have hstored : Context.Shallow n { c with store, supply } :=
        ⟨hc.form, hstore, hc.session⟩
      exact hstored.enter hrow auth.postLoginScreen
    | turnedAway => exact hc
    | gaveUp why =>
      cases why with
      | record => exact ⟨hc.form, hc.store.ensureTables _, hc.session⟩
      | _ => exact hc

/-- An action leaves a context shallow. -/
theorem shallow_perform (hc : c.Shallow n) (hn : 1 ≤ n) {a : Action} (ha : a.Shallow n) :
    (p.perform c a).context.Shallow n := by
  have hchange := p.perform_changes c a
  generalize hafter : (p.perform c a).context = after at hchange ⊢
  cases hchange with
  | unchanged => exact hc
  | navigated => exact hc.navigate _
  | wentBack => exact hc.navigate _
  | filled a =>
    obtain ⟨hown, -, -⟩ := ha
    refine ⟨hc.form.put _ ?_, hc.store, hc.session⟩
    have hvalue : (a.value.map Json.height).getD 0 ≤ n := le_of_max_le_left hown
    cases hv : a.value with
    | none => exact hn
    | some v =>
      rw [hv] at hvalue
      exact hvalue
  | submitted a table fields row store supply inserted =>
    obtain ⟨-, hstore⟩ := (hc.store.ensureTables _).insert hn
      (heightFields_submittedRecord_le hc.form hn fields) inserted
    exact ⟨hc.form.clear hn _, hstore, hc.session⟩
  | submitFailed a table => exact ⟨hc.form, hc.store.ensureTables [table], hc.session⟩
  | deleted a => exact ⟨hc.form, hc.store.delete _ _, hc.session⟩
  | loggedIn a auth user configured stored =>
    exact hc.enter (hc.store.rows _ user stored) _
  | signedUp a =>
    -- The record of the new user is known from the signup alone.
    rw [← hafter]
    exact shallow_signup hc hn a
  | signupFailed a auth => exact ⟨hc.form, hc.store.ensureTables [auth.userTable], hc.session⟩
  | loggedOut => exact hc.logout
  | sentHome => exact hc.logout.navigate _

end Performer

/-- What popups offer can be dumped. -/
def Effect.Dumps (e : Effect) : Prop :=
  ∀ shown ∈ e.popup?, ∀ a, shown.Offers a → a.fits nestingLimit .outside = true

/-- A chain leads to a shallow context, asks for popups that can be dumped, and goes on with
shallow actions. -/
structure Chain.Shallow (n : Nat) (chain : Chain) : Prop where
  context : chain.context.Shallow n
  effects : ∀ e ∈ chain.effects, e.Dumps
  pending : ∀ r ∈ chain.remote, ∀ outcome, ∀ b ∈ r.followUp outcome, b.Shallow n

namespace Chain.Shallow

variable {chain : Chain}

/-- A chain that has ended has nothing to go on with. -/
theorem of_ended (context : chain.context.Shallow n) (effects : ∀ e ∈ chain.effects, e.Dumps)
    (ended : chain.remote = none) : chain.Shallow n := by
  refine ⟨context, effects, fun r hr => ?_⟩
  rw [ended] at hr
  cases hr

theorem saying (h : chain.Shallow n) (notices : List Notice) : (chain.saying notices).Shallow n :=
  ⟨h.context, h.effects, h.pending⟩

theorem followedBy (h : chain.Shallow n) {second : Chain} (hsecond : second.Shallow n) :
    (chain.followedBy second).Shallow n :=
  ⟨hsecond.context, List.forall_mem_append.mpr ⟨h.effects, hsecond.effects⟩, hsecond.pending⟩

end Chain.Shallow

namespace Performer

/-- A chain is shallow if its first action and its context are, by induction on the allowance. -/
theorem shallow_run (p : Performer) (allowance : Nat) (hn : 1 ≤ n) {a : Action} {c : Context}
    (ha : a.Shallow n) (hc : c.Shallow n) : (p.run allowance a c).Shallow n := by
  induction allowance generalizing a c with
  | zero => exact .of_ended hc (List.forall_mem_nil _) rfl
  | succ allowance ih =>
    have hsequel := p.perform_sequel c a
    have hafter := p.shallow_perform hc hn ha
    obtain ⟨-, hbranches, hpresses⟩ := ha
    simp only [run]
    generalize p.perform c a = step at hsequel hafter ⊢
    obtain ⟨after, effects, notices, next⟩ := step
    cases hsequel with
    | finished => exact .of_ended hafter (List.forall_mem_nil _) rfl
    | shown a =>
      refine .of_ended hafter (List.forall_mem_singleton.mpr ?_) rfl
      rintro _ ⟨⟩ b hb
      exact hpresses b (ShownPopup.offers_ofPopup hb)
    | opened a =>
      refine .of_ended hafter (List.forall_mem_singleton.mpr ?_) rfl
      exact fun shown hshown => absurd hshown (Option.not_mem_none shown)
    | sent a endpoint =>
      refine ⟨hafter, List.forall_mem_nil _, ?_⟩
      rintro _ ⟨⟩ outcome b hb
      exact hbranches b (RemoteSubmit.followUp_ofAction hb)
    | branch a b remarks inside =>
      obtain ⟨hcontext, heffects, hpending⟩ := ih (hbranches b inside) hafter
      exact ⟨hcontext, heffects, hpending⟩

theorem shallow_resume (p : Performer) (hn : 1 ≤ n) {r : RemoteSubmit} {outcome : Outcome}
    {c : Context} (hr : ∀ b ∈ r.followUp outcome, b.Shallow n) (hc : c.Shallow n) :
    (p.resume r outcome c).Shallow n := by
  unfold resume
  cases hfollow : r.followUp outcome with
  | none => exact .of_ended hc (List.forall_mem_nil _) rfl
  | some b =>
    obtain ⟨hcontext, heffects, hpending⟩ := p.shallow_run r.allowance hn (hr b hfollow) hc
    exact ⟨hcontext, heffects, hpending⟩

/-- The course of a shallow chain is shallow, when nobody else changes the context in between. -/
theorem shallow_course (p : Performer) (hn : 1 ≤ n) {world : List Interlude}
    (alone : ∀ between ∈ world, between.change = id) {chain : Chain} (h : chain.Shallow n) :
    (p.course world chain).Shallow n := by
  induction world generalizing chain with
  | nil => exact h
  | cons between later ih =>
    obtain ⟨hhere, hlater⟩ := List.forall_mem_cons.mp alone
    cases hr : chain.remote with
    | none =>
      rw [course_of_no_remote _ _ hr]
      exact h
    | some r =>
      rw [course_cons hr]
      cases between.outcome r.toPosting with
      | none => exact h.saying _
      | some outcome =>
        refine ih hlater ((h.saying _).followedBy ?_)
        rw [hhere]
        exact shallow_resume _ hn (h.pending r hr outcome) h.context

end Performer

namespace App

variable {app : App}

theorem batch_of_deliver {batch : List Effect} {listeners : List Listener} {d : Delivery}
    (h : d ∈ (deliver batch listeners).deliveries) : d.batch = batch := by
  induction listeners with
  | nil => cases h
  | cons l rest ih =>
    obtain hhere | hrest := List.mem_append.mp h
    · split at hhere
      · rw [List.mem_singleton.mp hhere]
      · cases hhere
    · exact ih hrest

/-- What is received is what was published. -/
theorem batch_of_publish {effects : List Effect} {d : Delivery}
    (h : d ∈ (app.publish effects).2.deliveries) : d.batch = effects := by
  unfold publish at h
  dsimp only at h
  split at h
  · cases h
  · exact batch_of_deliver h

/-- A dispatch of a shallow action that waits for its submits leaves an app shallow, and hands
out effects that can be dumped. -/
theorem shallow_perform_inline (submitter : Submitter) (hn : 1 ≤ n) {action : Action}
    (ha : action.Shallow n) (h : app.context.Shallow n) :
    (app.perform (.inline submitter) action).1.context.Shallow n ∧
      ∀ d ∈ (app.perform (.inline submitter) action).2.deliveries, ∀ e ∈ d.batch, e.Dumps := by
  have halone : ∀ between ∈ app.inlineWorld submitter, between.change = id := by
    simp [inlineWorld, Submitter.waited, Submitter.unwaited]
  have hcourse : (app.inlineCourse submitter action).Shallow n :=
    app.performer.shallow_course hn halone (app.performer.shallow_run _ hn ha h)
  rw [perform, performInline_eq]
  refine ⟨hcourse.context, fun d hd => ?_⟩
  rw [batch_of_publish hd]
  exact hcourse.effects

/-- An app starts with an empty form, without a session, and with the records of its seed. -/
theorem shallow_ofDefinition (hn : 1 ≤ n) {settings : Settings} {verifier : Verifier}
    {supply : Supply} {definition : Definition} {seed : Assoc Json} {notices : List Notice}
    (given : ∀ t ∈ seed, ∀ row ∈ t.2.records, Json.heightFields row ≤ n)
    (h : ofDefinition settings verifier supply definition seed = .ok (app, notices)) :
    app.context.Shallow n := by
  unfold ofDefinition at h
  split at h
  · cases h
  · rename_i seeded hseeded
    cases h
    have hempty : Store.empty.Shallow n := List.forall_mem_nil _
    have hstore : seeded.store.Shallow n := Store.shallow_seedTables hn
      (fun t ht row hrow _ => given t ht row hrow) hempty hseeded
    exact ⟨.nil, hstore.ensureTables _, nofun⟩

end App

end Storyboard
