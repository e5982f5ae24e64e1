import Mathlib.Logic.Relation
import Storyboard.Proofs.App.InlineCourse
import Storyboard.Proofs.App.Legs
import Storyboard.Proofs.App.Step

/-!
# What a dispatch may touch

The kinds of the actions in the tree of follow-ups decide which aspects of an app a dispatch
may touch. What no action of the tree touches stays as it was, whichever branches are taken,
wherever the chain is cut and whatever fails: no handler writes where its kind does not say so.
Buttons of popups do not belong to the tree; pressing one is a dispatch of its own.
-/
namespace Storyboard

/-- What an action may touch. -/
inductive Aspect where
  | form
  | tables
  | session
  | screen
  | effects
  deriving DecidableEq, Repr

namespace Aspect

/-- Whether an action touches an aspect, by its kind. -/
def touchedBy : Aspect → Action → Bool
  | .form, .setValue _ => true
  | .form, .submit a => a.isDatabase
  | .form, .login _ => true
  | .form, .signup _ => true
  | .tables, .submit a => a.isDatabase
  | .tables, .deleteRecord _ => true
  | .tables, .signup _ => true
  | .session, .login _ => true
  | .session, .signup _ => true
  | .session, .logout _ => true
  | .screen, .navigate _ => true
  | .screen, .goBack _ => true
  | .screen, .login _ => true
  | .screen, .signup _ => true
  | .screen, .logout _ => true
  | .effects, .popup _ => true
  | .effects, .openUrl _ => true
  | _, _ => false

/-- An aspect is the same in two contexts. Effects are no part of a context. -/
def Same : Aspect → Context → Context → Prop
  | .form, before, after => after.form = before.form
  | .tables, before, after => after.store = before.store
  | .session, before, after => after.session = before.session
  | .screen, before, after => after.screen = before.screen
  | .effects, _, _ => True

/-- An aspect is kept between two contexts, with the effects that arose on the way. -/
structure Kept (x : Aspect) (before after : Context) (effects : List Effect) : Prop where
  same : x.Same before after
  silent : x = .effects → effects = []

variable {x : Aspect}

theorem Same.refl (c : Context) : x.Same c c := by
  cases x with
  | effects => trivial
  | _ => rfl

theorem Same.trans {first second third : Context} (h : x.Same first second)
    (h' : x.Same second third) : x.Same first third := by
  cases x with
  | effects => trivial
  | _ => exact Eq.trans h' h

theorem Kept.refl (c : Context) : x.Kept c c [] := ⟨.refl c, fun _ => rfl⟩

theorem Kept.trans {first second third : Context} {before after : List Effect}
    (h : x.Kept first second before) (h' : x.Kept second third after) :
    x.Kept first third (before ++ after) := by
  refine ⟨h.same.trans h'.same, fun heffects => ?_⟩
  rw [h.silent heffects, h'.silent heffects]
  rfl

end Aspect

/-- An action stands in the tree of follow-ups of another one. -/
def Action.InTree (root : Action) : Action → Prop :=
  Relation.ReflTransGen (fun a b => b ∈ a.branches) root

/-- No action in the tree of an action touches an aspect. -/
def Action.Spares (root : Action) (x : Aspect) : Prop :=
  ∀ a, root.InTree a → x.touchedBy a = false

theorem Action.Spares.self {a : Action} {x : Aspect} (h : a.Spares x) : x.touchedBy a = false :=
  h a .refl

theorem Action.Spares.branch {a b : Action} {x : Aspect} (h : a.Spares x) (hb : b ∈ a.branches) :
    b.Spares x :=
  fun d hd => h d (.head hb hd)

theorem Action.spares_iff {a : Action} {x : Aspect} :
    a.Spares x ↔ x.touchedBy a = false ∧ ∀ b ∈ a.branches, b.Spares x := by
  constructor
  · exact fun h => ⟨h.self, fun b hb => h.branch hb⟩
  · rintro ⟨hself, hbranches⟩ d hd
    rcases Relation.ReflTransGen.cases_head hd with rfl | ⟨b, hb, hrest⟩
    · exact hself
    · exact hbranches b hb d hrest

/-- Navigations have no follow-ups, and they leave the form alone. -/
theorem Action.spares_form {a : Action} (h : a.kind = .navigate ∨ a.kind = .goBack) :
    a.Spares .form := by
  cases a with
  | navigate _ | goBack _ => exact spares_iff.mpr ⟨rfl, List.forall_mem_nil _⟩
  | _ => rcases h with h | h <;> cases h

namespace Performer

variable {x : Aspect}

/-- A submit that does not go to a table leaves the context as it is. -/
theorem context_submit {p : Performer} {c : Context} {a : Submit} (remote : a.isDatabase = false) :
    (p.submit c a).context = c := by
  cases hendpoint : a.remoteEndpoint? with
  | none => rw [submit_refused remote hendpoint]; rfl
  | some endpoint => rw [submit_sent remote hendpoint]

/-- An action leaves the context as it is outside of what its kind touches. -/
theorem same_perform (p : Performer) {c : Context} {a : Action} (h : x.touchedBy a = false) :
    x.Same c (p.perform c a).context := by
  have hchange := p.perform_changes c a
  by_cases hremote : ∃ submit, a = .submit submit ∧ submit.isDatabase = false
  · obtain ⟨submit, rfl, hdatabase⟩ := hremote
    rw [perform, context_submit hdatabase]
    exact .refl c
  generalize (p.perform c a).context = after at hchange ⊢
  cases hchange with
  | unchanged => exact .refl c
  | navigated | wentBack =>
    cases x with
    | screen => cases h
    | effects => trivial
    | _ => rfl
  | filled =>
    cases x with
    | form => cases h
    | effects => trivial
    | _ => rfl
  | submitted a =>
    have hdatabase : a.isDatabase = true := by
      by_contra hremote'
      exact hremote ⟨a, rfl, eq_false_of_ne_true hremote'⟩
    cases x with
    | form | tables => exact absurd hdatabase (ne_true_of_eq_false h)
    | effects => trivial
    | _ => rfl
  | submitFailed a =>
    have hdatabase : a.isDatabase = true := by
      by_contra hremote'
      exact hremote ⟨a, rfl, eq_false_of_ne_true hremote'⟩
    cases x with
    | tables => exact absurd hdatabase (ne_true_of_eq_false h)
    | effects => trivial
    | _ => rfl
  | deleted =>
    cases x with
    | tables => cases h
    | effects => trivial
    | _ => rfl
  | loggedIn =>
    cases x with
    | tables => rfl
    | effects => trivial
    | _ => cases h
  | signedUp =>
    cases x with
    | effects => trivial
    | _ => cases h
  | signupFailed =>
    cases x with
    | tables => cases h
    | effects => trivial
    | _ => rfl
  | loggedOut =>
    cases x with
    | session | screen => cases h
    | effects => trivial
    | _ => rfl
  | sentHome =>
    cases x with
    | session | screen => cases h
    | effects => trivial
    | _ => rfl

/-- What an action does not touch it keeps. -/
theorem kept_perform (p : Performer) {c : Context} {a : Action} (h : x.touchedBy a = false) :
    x.Kept c (p.perform c a).context (p.perform c a).effects := by
  refine ⟨p.same_perform h, fun heffects => effects_eq_nil ?_ ?_⟩
  all_goals
    subst heffects
    intro hkind
    cases a <;> cases hkind
    cases h

end Performer

/-- A chain kept an aspect, and so will what follows its submit. -/
structure Chain.Keeps (x : Aspect) (before : Context) (chain : Chain) : Prop where
  kept : x.Kept before chain.context chain.effects
  pending : ∀ r ∈ chain.remote, ∀ outcome, ∀ b ∈ r.followUp outcome, b.Spares x

namespace Chain.Keeps

variable {x : Aspect} {before : Context} {chain : Chain}

theorem idle (c : Context) : (Chain.idle c).Keeps x c := ⟨.refl c, nofun⟩

theorem saying (h : chain.Keeps x before) (notices : List Notice) :
    (chain.saying notices).Keeps x before := ⟨h.kept, h.pending⟩

theorem followedBy (h : chain.Keeps x before) {second : Chain}
    (h' : second.Keeps x chain.context) : (chain.followedBy second).Keeps x before :=
  ⟨h.kept.trans h'.kept, h'.pending⟩

end Chain.Keeps

namespace Performer

variable {x : Aspect}

/-- A chain keeps what its first action keeps and the branches of it spare. -/
theorem keeps_run (p : Performer) (allowance : Nat) {a : Action} {c : Context}
    (first : x.Kept c (p.perform c a).context (p.perform c a).effects)
    (later : ∀ b ∈ a.branches, b.Spares x) : (p.run allowance a c).Keeps x c := by
  induction allowance generalizing a c with
  | zero => exact ⟨.refl c, fun _ hr => by cases hr⟩
  | succ allowance ih =>
    have hsequel := p.perform_sequel c a
    simp only [run]
    generalize p.perform c a = step at first hsequel ⊢
    obtain ⟨after, effects, notices, next⟩ := step
    cases next with
    | finished => exact ⟨first.trans (.refl after), fun _ hr => by cases hr⟩
    | follow b =>
      have hb : b ∈ a.branches := by
        cases hsequel
        assumption
      have hspares := later b hb
      have hrest : (p.run allowance b after).Keeps x after :=
        ih (p.kept_perform hspares.self) fun d hd => hspares.branch hd
      exact ⟨first.trans hrest.kept, hrest.pending⟩
    | send endpoint submit =>
      refine ⟨first.trans (.refl after), fun r hr outcome b hb => ?_⟩
      cases hr
      cases hsequel
      exact later b (RemoteSubmit.followUp_ofAction hb)

theorem keeps_run_of_spares (p : Performer) (allowance : Nat) {a : Action} (h : a.Spares x)
    (c : Context) : (p.run allowance a c).Keeps x c :=
  p.keeps_run allowance (p.kept_perform h.self) fun _ hb => h.branch hb

theorem keeps_resume (p : Performer) (r : RemoteSubmit) (outcome : Outcome) (c : Context)
    (h : ∀ b ∈ r.followUp outcome, b.Spares x) : (p.resume r outcome c).Keeps x c := by
  unfold resume
  cases hfollow : r.followUp outcome with
  | none => exact ⟨.refl c, nofun⟩
  | some b =>
    have hrun := p.keeps_run_of_spares r.allowance (h b hfollow) c
    exact ⟨hrun.kept, hrun.pending⟩

/-- The course of a chain keeps what the chain does, when nobody else changes the context in
between. -/
theorem keeps_course (p : Performer) {world : List Interlude}
    (alone : ∀ between ∈ world, between.change = id) {before : Context} {chain : Chain}
    (h : chain.Keeps x before) : (p.course world chain).Keeps x before := by
  induction world generalizing chain with
  | nil => exact h
  | cons between later ih =>
    obtain ⟨hhere, hlater⟩ := List.forall_mem_cons.mp alone
    cases hr : chain.remote with
    | none =>
      rw [course_of_no_remote _ _ hr]
      exact h
    | some r =>
      rw [course_cons hr]
      cases between.outcome r.toPosting with
      | none => exact h.saying _
      | some outcome =>
        refine ih hlater ((h.saying _).followedBy ?_)
        rw [hhere]
        exact keeps_resume _ r outcome chain.context (h.pending r hr outcome)

end Performer

namespace Leg

/-- A leg belongs to the dispatch of an action: it is the chain of the dispatch, or the
follow-up of a submit of a leg that belongs to it. -/
inductive Descends (action : Action) : Leg → Prop
  | dispatched {leg : Leg} (cause : leg.cause = .dispatched action) : Descends action leg
  | concluded {earlier leg : Leg} {r : RemoteSubmit} {outcome : Outcome}
    (of : Descends action earlier) (sent : earlier.chain.remote = some r)
    (cause : leg.cause = .concluded r outcome) : Descends action leg

variable {x : Aspect}

/-- The follow-up of a submit keeps what the chain of the submit did. -/
theorem keeps_of_concluded {earlier leg : Leg} {r : RemoteSubmit} {outcome : Outcome}
    (h : earlier.chain.Keeps x earlier.before) (sent : earlier.chain.remote = some r)
    (cause : leg.cause = .concluded r outcome) : leg.chain.Keeps x leg.before := by
  unfold chain
  rw [cause]
  exact leg.performer.keeps_resume r outcome leg.before (h.pending r sent outcome)

/-- Whatever others do in between, each leg of a dispatch keeps what the tree spares. -/
theorem Descends.keeps {action : Action} {leg : Leg} (spared : action.Spares x)
    (h : leg.Descends action) : leg.chain.Keeps x leg.before := by
  induction h with
  | dispatched cause =>
    unfold chain
    rw [cause]
    exact Performer.keeps_run_of_spares _ _ spared _
  | concluded of sent cause ih => exact keeps_of_concluded ih sent cause

end Leg

/-- An aspect of an app is as it was, and if it is the effects, then nobody received any. -/
def Aspect.Untouched (x : Aspect) (before after : App) (deliveries : List Delivery) : Prop :=
  match x with
  | .form => after.context.form = before.context.form
  | .tables => after.context.store = before.context.store
  | .session => after.context.session = before.context.session
  | .screen => after.context.screen = before.context.screen
  | .effects => after.popups = before.popups ∧ deliveries = []

namespace App

variable {x : Aspect}

theorem untouched_of_same {before after : App} {deliveries : List Delivery}
    (same : x.Same before.context after.context)
    (silent : x = .effects → after.popups = before.popups ∧ deliveries = []) :
    x.Untouched before after deliveries := by
  cases x with
  | effects => exact silent rfl
  | _ => exact same

/-- A dispatch of an action leaves an aspect untouched: one that waits for its submits does,
and under an event loop one that has the loop to itself does, all that its submits lead to
included. -/
structure Leaves (app : App) (action : Action) (x : Aspect) : Prop where
  inline : ∀ submitter, x.Untouched app (app.perform (.inline submitter) action).1
    (app.perform (.inline submitter) action).2.deliveries
  scheduled : app.tasks = .none → ∀ events : List Event, (∀ e ∈ events, ∀ deed, e ≠ .host deed) →
    x.Untouched app (app.through (.host (.perform action) :: events))
      (app.received (.host (.perform action) :: events))

/-- What a chain kept is untouched when it was published. -/
theorem untouched_afterChain {app : App} {chain : Chain} {requests : List RemoteSubmit}
    (h : chain.Keeps x app.context) :
    x.Untouched app (app.afterChain chain requests).1
      (app.afterChain chain requests).2.deliveries := by
  refine untouched_of_same h.kept.same fun heffects => ?_
  have hsilent := h.kept.silent heffects
  unfold afterChain
  rw [hsilent, publish_nil]
  exact ⟨rfl, rfl⟩

theorem untouched_inline {app : App} {action : Action} (submitter : Submitter)
    (first : x.Kept app.context (app.performer.perform app.context action).context
      (app.performer.perform app.context action).effects)
    (later : ∀ b ∈ action.branches, b.Spares x) :
    x.Untouched app (app.perform (.inline submitter) action).1
      (app.perform (.inline submitter) action).2.deliveries := by
  have halone : ∀ between ∈ app.inlineWorld submitter, between.change = id := by
    simp [inlineWorld, Submitter.waited, Submitter.unwaited]
  have hcourse : (app.inlineCourse submitter action).Keeps x app.context :=
    app.performer.keeps_course halone (app.performer.keeps_run _ first later)
  rw [perform, performInline_eq]
  exact untouched_afterChain hcourse

/-- What holds of the legs that hosts dispatched, and of a follow-up when it holds of the leg
of its submit, holds of every leg of a run. -/
theorem legs_induction {P : Leg → Prop} {app : App} (idle : app.tasks = .none)
    {events : List Event}
    (dispatched : ∀ leg ∈ app.legs events, ∀ a, leg.cause = .dispatched a → P leg)
    (concluded : ∀ {earlier leg : Leg} {r : RemoteSubmit} {outcome : Outcome}, P earlier →
      earlier.chain.remote = some r → leg.cause = .concluded r outcome → P leg) :
    ∀ leg ∈ app.legs events, P leg := by
  have hprefix : ∀ {before after : List Leg}, app.legs events = before ++ after →
      ∀ leg ∈ before, P leg := by
    intro before after hlegs
    induction before using List.reverseRecOn generalizing after with
    | nil => exact List.forall_mem_nil _
    | append_singleton earlier leg ih =>
      rw [List.append_assoc, List.singleton_append] at hlegs
      have hearlier := ih hlegs
      refine List.forall_mem_append.mpr ⟨hearlier, List.forall_mem_singleton.mpr ?_⟩
      cases hcause : leg.cause with
      | dispatched a =>
        have hmem : leg ∈ app.legs events := by
          rw [hlegs]
          exact List.mem_append_right _ List.mem_cons_self
        exact dispatched leg hmem a hcause
      | concluded r outcome =>
        have hfollows := legs_follow idle events hlegs
        obtain ⟨origin, horigin, hsent⟩ :=
          hfollows.origin (r, outcome) (by simp only [Leg.conclusion?, hcause])
        exact concluded (hearlier origin horigin) hsent hcause
  exact hprefix (List.append_nil _).symm

/-- What the event loop does is done by legs: it keeps what they keep. -/
theorem same_through {events : List Event} (app : App) (loop : ∀ e ∈ events, ∀ deed, e ≠ .host deed)
    (keeps : ∀ leg ∈ app.legs events, leg.chain.Keeps x leg.before) :
    x.Same app.context (app.through events).context := by
  induction events generalizing app with
  | nil => exact .refl _
  | cons e rest ih =>
    obtain ⟨hloop, hrest⟩ := List.forall_mem_cons.mp loop
    rw [legs_cons] at keeps
    obtain ⟨hhere, hlater⟩ := List.forall_mem_append.mp keeps
    have hnext : x.Same app.context (e.next app).context := by
      cases hleg : e.leg? app with
      | none =>
        obtain ⟨-, _, _, _, _, _, -, hnext, hcontext⟩ := Event.of_rest hleg
        rw [hnext, ← hcontext hloop]
        exact .refl _
      | some leg =>
        obtain ⟨-, hbefore, _, _, -, hnext, -⟩ := Event.of_leg hleg
        have hkeeps := hhere leg (by rw [hleg]; exact List.mem_singleton_self leg)
        rw [hnext, ← hbefore]
        exact hkeeps.kept.same
    exact hnext.trans (ih (e.next app) hrest hlater)

/-- The event loop dispatches nothing. -/
theorem not_dispatched {events : List Event} (app : App)
    (loop : ∀ e ∈ events, ∀ deed, e ≠ .host deed) :
    ∀ leg ∈ app.legs events, ∀ a, leg.cause ≠ .dispatched a := by
  induction events generalizing app with
  | nil => exact List.forall_mem_nil _
  | cons e rest ih =>
    obtain ⟨hloop, hrest⟩ := List.forall_mem_cons.mp loop
    rw [legs_cons]
    refine List.forall_mem_append.mpr ⟨fun leg hleg => ?_, ih (e.next app) hrest⟩
    cases Event.runs_of_leg (Option.mem_toList.mp hleg) with
    | dispatched deed => exact absurd rfl (hloop deed)
    | concluded => exact nofun

/-- The event loop takes no popup away. -/
theorem dismissals_eq_nil {events : List Event} (app : App)
    (loop : ∀ e ∈ events, ∀ deed, e ≠ .host deed) : app.dismissals events = [] := by
  induction events generalizing app with
  | nil => rfl
  | cons e rest ih =>
    obtain ⟨hloop, hrest⟩ := List.forall_mem_cons.mp loop
    rw [dismissals_cons, ih (e.next app) hrest]
    cases e with
    | host deed => exact absurd rfl (hloop deed)
    | _ => rfl

/-- Legs without effects leave the popups as they are, and nobody receives anything. -/
theorem silent_through {events : List Event} (app : App) (stay : app.dismissals events = [])
    (silent : ∀ leg ∈ app.legs events, leg.chain.effects = []) :
    (app.through events).popups = app.popups ∧ app.received events = [] := by
  have hpopups := app.popups_eq events
  have hshown : (app.legs events).flatMap
      (fun leg => leg.chain.effects.filterMap Effect.popup?) = [] := by
    rw [List.flatMap_eq_nil_iff]
    intro leg hleg
    rw [silent leg hleg]
    rfl
  rw [stay, hshown, List.append_nil, List.nil_append] at hpopups
  refine ⟨hpopups.symm, ?_⟩
  rw [received_eq, List.flatMap_eq_nil_iff]
  intro leg hleg
  rw [silent leg hleg]
  rfl

theorem untouched_scheduled {app : App} {action : Action} (idle : app.tasks = .none)
    {events : List Event} (loop : ∀ e ∈ events, ∀ deed, e ≠ .host deed)
    (first : x.Kept app.context (app.performer.perform app.context action).context
      (app.performer.perform app.context action).effects)
    (later : ∀ b ∈ action.branches, b.Spares x) :
    x.Untouched app (app.through (.host (.perform action) :: events))
      (app.received (.host (.perform action) :: events)) := by
  let start : Event := .host (.perform action)
  have hfirst : (app.performer.runFully action app.context).Keeps x app.context :=
    app.performer.keeps_run _ first later
  have hlegs : app.legs (start :: events) =
      ⟨app.performer, app.context, .dispatched action⟩ :: (start.next app).legs events :=
    app.legs_cons start events
  -- Only the first leg was dispatched: the others are legs of the loop.
  have hdispatched : ∀ leg ∈ app.legs (start :: events), ∀ a, leg.cause = .dispatched a →
      leg.chain.Keeps x leg.before := by
    intro leg hmem a hcause
    rw [hlegs] at hmem
    rcases List.mem_cons.mp hmem with rfl | hlater
    · exact hfirst
    · exact absurd hcause (not_dispatched _ loop leg hlater a)
  have hkeeps : ∀ leg ∈ app.legs (start :: events), leg.chain.Keeps x leg.before :=
    legs_induction idle hdispatched Leg.keeps_of_concluded
  refine untouched_of_same ?_ fun heffects => ?_
  · rw [hlegs] at hkeeps
    have hrest := same_through (start.next app) loop (List.forall_mem_cons.mp hkeeps).2
    exact hfirst.kept.same.trans hrest
  · refine app.silent_through ?_ fun leg hmem => (hkeeps leg hmem).kept.silent heffects
    rw [dismissals_cons, dismissals_eq_nil _ loop]
    rfl

/-- A dispatch leaves untouched what its first action keeps and the branches of it spare. -/
theorem leaves_of_first {app : App} {action : Action}
    (first : x.Kept app.context (app.performer.perform app.context action).context
      (app.performer.perform app.context action).effects)
    (later : ∀ b ∈ action.branches, b.Spares x) : app.Leaves action x where
  inline submitter := untouched_inline submitter first later
  scheduled idle _ loop := untouched_scheduled idle loop first later

end App

namespace Performer

variable {x : Aspect}

/-- A login or a signup lets somebody in: a user who is stored and gave the password, or one
who has just been stored. -/
inductive LetsIn (p : Performer) (c : Context) : Action → Prop
  | login (a : SignIn) (auth : Authentication) (user : Record)
    (configured : p.definition.authentication = some auth)
    (stored : user ∈ c.store.rows auth.userTable)
    (email : (column user auth.emailField).same (Form.value c.form a.fields.email) = true)
    (password : ∃ notices, p.verifier.compare (Form.value c.form a.fields.password)
      (column user auth.passwordField) = .done true notices)
    (entered : (p.perform c (.login a)).context = c.enter user auth.postLoginScreen) :
    LetsIn p c (.login a)
  | signup (a : SignIn) (auth : Authentication) (user row : Record) (store : Store)
    (supply : Supply) (configured : p.definition.authentication = some auth)
    (inserted : (c.store.ensureTables [auth.userTable]).insert c.supply auth.userTable user =
      .ok (row, store, supply))
    (entered : (p.perform c (.signup a)).context =
      ({ c with store, supply } : Context).enter row auth.postLoginScreen) :
    LetsIn p c (.signup a)

/-- A signup fails at a record that is nested too deeply to be stored: the user table is there
from then on, and that is all. -/
inductive Fails (p : Performer) (c : Context) : Action → Prop
  | signup (a : SignIn) (auth : Authentication) (user : Record)
    (configured : p.definition.authentication = some auth)
    (deep : (Json.obj user).copies = false)
    (left : (p.perform c (.signup a)).context =
      { c with store := c.store.ensureTables [auth.userTable] }) : Fails p c (.signup a)

theorem Fails.same {p : Performer} {c : Context} {a : Action} (h : p.Fails c a)
    (others : x ≠ .tables) : x.Same c (p.perform c a).context := by
  cases h with
  | signup _ _ _ _ _ left =>
    rw [left]
    cases x with
    | tables => exact absurd rfl others
    | effects => trivial
    | _ => rfl

/-- A login or a signup that lets nobody in leaves the whole context as it is, unless it fails. -/
theorem letsIn_or_unchanged (p : Performer) (c : Context) {a : Action}
    (signsIn : a.kind = .login ∨ a.kind = .signup) :
    p.LetsIn c a ∨ (p.perform c a).context = c ∨ p.Fails c a := by
  have hchange := p.perform_changes c a
  generalize hafter : (p.perform c a).context = after at hchange ⊢
  cases hchange with
  | unchanged => exact .inr (.inl rfl)
  | loggedIn a auth user configured stored email password =>
    exact .inl (.login a auth user configured stored email password hafter)
  | signedUp a auth user row store supply configured inserted =>
    exact .inl (.signup a auth user row store supply configured inserted hafter)
  | signupFailed a auth user configured deep =>
    exact .inr (.inr (.signup a auth user configured deep hafter))
  | _ => rcases signsIn with hkind | hkind <;> cases hkind

end Performer

/-- A dispatch leaves untouched what the kinds in the tree of its action do not touch, and so
does each leg of it whatever others do in between. In particular a navigation leaves the form,
and so does a login or a signup that lets nobody in, if its follow-ups do; it leaves everything
else as well, but for the table that a signup has made for a record that was not to be stored. -/
theorem kinds_decide_footprint (app : App) (action : Action) :
    (∀ x : Aspect, action.Spares x →
      app.Leaves action x ∧
        ∀ leg : Leg, leg.Descends action →
          x.Kept leg.before leg.chain.context leg.chain.effects) ∧
    (action.kind = .navigate ∨ action.kind = .goBack → app.Leaves action .form) ∧
    (action.kind = .login ∨ action.kind = .signup →
      app.performer.LetsIn app.context action ∨
        ∀ x : Aspect, (∀ b ∈ action.branches, b.Spares x) →
          app.Leaves action x ∨ x = .tables ∧ app.performer.Fails app.context action) := by
  have hleaves : ∀ x : Aspect, action.Spares x → app.Leaves action x := fun x spared =>
    App.leaves_of_first (app.performer.kept_perform spared.self) fun _ hb => spared.branch hb
  refine ⟨fun x spared => ⟨hleaves x spared, fun leg hleg => (hleg.keeps spared).kept⟩, ?_, ?_⟩
  · exact fun hkind => hleaves .form (Action.spares_form hkind)
  · intro hkind
    refine (app.performer.letsIn_or_unchanged app.context hkind).imp_right fun hleft x later => ?_
    have hsilent : (app.performer.perform app.context action).effects = [] := by
      apply Performer.effects_eq_nil
      all_goals rcases hkind with hkind | hkind <;> rw [hkind] <;> decide
    have hleaves_of_same : x.Same app.context (app.performer.perform app.context action).context →
        app.Leaves action x := fun hsame => App.leaves_of_first ⟨hsame, fun _ => hsilent⟩ later
    rcases hleft with hsame | hfails
    · exact .inl (hleaves_of_same (hsame.symm ▸ .refl _))
    · by_cases htables : x = .tables
      · exact .inr ⟨htables, hfails⟩
      · exact .inl (hleaves_of_same (hfails.same htables))

/-- An app of two screens, with a form that was filled in. -/
def filledApp : App where
  settings := .default
  verifier := .plaintext
  definition :=
    { version := "1", app := ⟨"Drafts", .absent, .absent, .absent, .absent, []⟩
      screens := [("home", ⟨.absent, .absent, none, .absent, none, []⟩),
        ("done", ⟨.absent, .absent, none, .absent, none, []⟩)]
      initialScreen := "home", extra := [] }
  context := ⟨.empty, ⟨.counter, 0⟩, [(.id "note", .str "draft")], none, "home"⟩
  popups := []
  listeners := []
  tasks := .none
  calls := []

/-- A request whose success leads to another screen; otherwise a popup is shown. -/
def sendAndLeave : Action :=
  .submit ⟨.absent, .value "https://a.example", .absent, .absent, .absent,
    .value [("note", "note")], .value (.navigate ⟨"done", .absent, .absent, []⟩),
    .value (.popup ⟨.absent, "Not sent", .absent, .absent, []⟩), []⟩

/-- The screen is another one afterwards, and the form is the same. -/
theorem sendAndLeave_leaves_form :
    (filledApp.perform (.inline .prompt) sendAndLeave).1.context.screen = "done" ∧
      (filledApp.perform (.inline .prompt) sendAndLeave).1.context.form =
        [(.id "note", .str "draft")] := by
  have hspares : sendAndLeave.Spares .form := by
    refine Action.spares_iff.mpr ⟨by decide, ?_⟩
    have hnavigate : (Action.navigate ⟨"done", .absent, .absent, []⟩).Spares .form :=
      Action.spares_form (.inl rfl)
    have hpopup : (Action.popup ⟨.absent, "Not sent", .absent, .absent, []⟩).Spares .form :=
      Action.spares_iff.mpr ⟨rfl, List.forall_mem_nil _⟩
    exact List.forall_mem_cons.mpr ⟨hnavigate, List.forall_mem_singleton.mpr hpopup⟩
  obtain ⟨hleaves, -⟩ := (kinds_decide_footprint filledApp sendAndLeave).1 .form hspares
  exact ⟨rfl, hleaves.inline .prompt⟩

end Storyboard
