import Mathlib.Data.List.Chain
import Storyboard.App.Chain
import Storyboard.Proofs.App.Sequel

/-!
# Courses of chains

A chain may end with a remote submit, whose follow-up is a chain of its own, and so on.
The course of a chain joins them all, whatever happens in between: requests are answered
one way or the other or not at all, and by the time of an answer the document and the
context may have been changed by others.

A course is linear: its actions follow each other from branch to branch, the cap bounds
them all together, and an effect or a chain that is cut ends it. Two courses that differ
in the cap alone agree up to the point where the smaller cap cuts.
-/
namespace Storyboard

/-- Actions that follow each other from branch to branch, from a first one on. -/
def Action.Path (root : Action) (actions : List Action) : Prop :=
  actions.head? = some root ∧ actions.IsChain fun a b => b ∈ a.branches

/-- What comes between a remote submit and its follow-up: what is said about the request
and the outcome it has, if it has one, the document of the app by then, and what others
made of the context. -/
structure Interlude where
  said : Posting → List Notice
  outcome : Posting → Option Outcome
  definition : Definition
  change : Context → Context

/-- Settings with another cap. -/
def Settings.withCap (s : Settings) (cap : DepthCap) : Settings := { s with maxActionDepth := cap }

namespace Chain

/-- A chain with notices behind it. -/
def saying (chain : Chain) (notices : List Notice) : Chain :=
  { chain with notices := chain.notices ++ notices }

/-- Nothing happened yet, and a submit is left to run. -/
def waiting (context : Context) (r : RemoteSubmit) : Chain :=
  { idle context with remote := some r }

/-- A chain that went on where another ended. -/
def followedBy (first second : Chain) : Chain :=
  { second with
    effects := first.effects ++ second.effects
    notices := first.notices ++ second.notices
    performed := first.performed ++ second.performed }

/-- The notices that say that a chain was cut. -/
def warnings (chain : Chain) : List Notice := chain.notices.filter Notice.isDepthWarning

@[simp] theorem warnings_followedBy (first second : Chain) :
    (first.followedBy second).warnings = first.warnings ++ second.warnings :=
  List.filter_append ..

theorem followedBy_assoc (first second third : Chain) :
    (first.followedBy second).followedBy third = first.followedBy (second.followedBy third) := by
  simp [followedBy]

theorem followedBy_waiting {chain : Chain} {r : RemoteSubmit} (h : chain.remote = some r) :
    chain.followedBy (.waiting chain.context r) = chain := by
  simp [followedBy, waiting, idle, ← h]

/-- How many actions may still be run behind a chain. -/
def left (chain : Chain) : Nat := (chain.remote.map (·.allowance)).getD 0

theorem left_of_remote {chain : Chain} {r : RemoteSubmit} (h : chain.remote = some r) :
    chain.left = r.allowance := by
  rw [left, h]
  rfl

end Chain

namespace Performer

def withCap (p : Performer) (cap : DepthCap) : Performer :=
  { p with settings := p.settings.withCap cap }

/-- A chain that goes on behind an interlude, when the request of its submit has an
outcome. -/
def onward (p : Performer) (between : Interlude) (chain : Chain) (r : RemoteSubmit)
    (outcome : Outcome) : Chain :=
  let later : Performer := { p with definition := between.definition }
  (chain.saying (between.said r.toPosting)).followedBy
    (later.resume r outcome (between.change chain.context))

/-- The course of a chain through interludes. -/
def course (p : Performer) : List Interlude → Chain → Chain
  | [], chain => chain
  | between :: later, chain =>
    match chain.remote with
    | none => chain
    | some r =>
      match between.outcome r.toPosting with
      | none => chain.saying (between.said r.toPosting)
      | some outcome => p.course later (p.onward between chain r outcome)

/-- The submits of a course whose requests were made. -/
def requests (p : Performer) : List Interlude → Chain → List RemoteSubmit
  | [], _ => []
  | between :: later, chain =>
    match chain.remote with
    | none => []
    | some r =>
      r :: match between.outcome r.toPosting with
        | none => []
        | some outcome => p.requests later (p.onward between chain r outcome)

/-- The course of an action that is dispatched in a context. -/
def courseOf (p : Performer) (world : List Interlude) (action : Action) (c : Context) : Chain :=
  p.course world (p.runFully action c)

theorem course_of_no_remote (p : Performer) (world : List Interlude) {chain : Chain}
    (h : chain.remote = none) : p.course world chain = chain := by
  cases world with
  | nil => rfl
  | cons between later => rw [course, h]

theorem requests_of_no_remote (p : Performer) (world : List Interlude) {chain : Chain}
    (h : chain.remote = none) : p.requests world chain = [] := by
  cases world with
  | nil => rfl
  | cons between later => rw [requests, h]

theorem requests_cons {p : Performer} {chain : Chain} {r : RemoteSubmit}
    (h : chain.remote = some r) {between : Interlude} {later : List Interlude} :
    p.requests (between :: later) chain =
      r :: match between.outcome r.toPosting with
        | none => []
        | some outcome => p.requests later (p.onward between chain r outcome) := by
  rw [requests, h]

theorem course_cons {p : Performer} {chain : Chain} {r : RemoteSubmit}
    (h : chain.remote = some r) {between : Interlude} {later : List Interlude} :
    p.course (between :: later) chain =
      match between.outcome r.toPosting with
      | none => chain.saying (between.said r.toPosting)
      | some outcome => p.course later (p.onward between chain r outcome) := by
  rw [course, h]

theorem onward_followedBy (p : Performer) (between : Interlude) (first second : Chain)
    (r : RemoteSubmit) (outcome : Outcome) :
    p.onward between (first.followedBy second) r outcome =
      first.followedBy (p.onward between second r outcome) := by
  simp [onward, Chain.saying, Chain.followedBy]

/-- A course leaves what stands in front of it alone. -/
theorem course_followedBy (p : Performer) (world : List Interlude) (first second : Chain) :
    p.course world (first.followedBy second) = first.followedBy (p.course world second) := by
  induction world generalizing second with
  | nil => rfl
  | cons between later ih =>
    have hremote : (first.followedBy second).remote = second.remote := rfl
    cases hr : second.remote with
    | none => rw [course_of_no_remote _ _ hr, course_of_no_remote _ _ (hremote.trans hr)]
    | some r =>
      rw [course_cons hr, course_cons (hremote.trans hr)]
      cases between.outcome r.toPosting with
      | none => simp [Chain.saying, Chain.followedBy]
      | some outcome =>
        dsimp only
        rw [onward_followedBy, ih]

/-- A course through more interludes goes on where it ended, if no request was left
without an outcome. -/
theorem course_append (p : Performer) {world : List Interlude}
    (answered : ∀ between ∈ world, ∀ posting, (between.outcome posting).isSome = true)
    (more : List Interlude) (chain : Chain) :
    p.course (world ++ more) chain = p.course more (p.course world chain) := by
  induction world generalizing chain with
  | nil => rfl
  | cons between later ih =>
    obtain ⟨hhere, hlater⟩ := List.forall_mem_cons.mp answered
    rw [List.cons_append]
    cases hr : chain.remote with
    | none => simp only [course_of_no_remote _ _ hr]
    | some r =>
      obtain ⟨outcome, houtcome⟩ := Option.isSome_iff_exists.mp (hhere r.toPosting)
      rw [course_cons hr, course_cons hr, houtcome]
      exact ih hlater _

/-- The course of a chain goes on where the chain ended. -/
theorem course_of_remote (p : Performer) (world : List Interlude) {chain : Chain}
    {r : RemoteSubmit} (h : chain.remote = some r) :
    p.course world chain = chain.followedBy (p.course world (.waiting chain.context r)) := by
  conv_lhs => rw [← Chain.followedBy_waiting h]
  rw [course_followedBy]

theorem requests_followedBy (p : Performer) (world : List Interlude) (first second : Chain) :
    p.requests world (first.followedBy second) = p.requests world second := by
  induction world generalizing second with
  | nil => rfl
  | cons between later ih =>
    have hremote : (first.followedBy second).remote = second.remote := rfl
    cases hr : second.remote with
    | none => rw [requests_of_no_remote _ _ hr, requests_of_no_remote _ _ (hremote.trans hr)]
    | some r =>
      rw [requests_cons hr, requests_cons (hremote.trans hr)]
      cases between.outcome r.toPosting with
      | none => rfl
      | some outcome =>
        dsimp only
        rw [onward_followedBy, ih]

end Performer

/-- The actions of a chain form a path, an allowance bounds them with what is left, an
effect ends the chain, and what is left to run are branches of the last action. -/
structure Chain.Linear (allowance : Nat) (starts : Action → Prop) (chain : Chain) : Prop where
  begins : ∀ a ∈ chain.performed.head?, starts a
  linked : chain.performed.IsChain fun a b => b ∈ a.branches
  bounded : chain.performed.length + chain.left ≤ allowance
  effects : chain.effects.length ≤ 1
  pending : ∀ r ∈ chain.remote, chain.effects = [] ∧
    ∃ last ∈ chain.performed.getLast?, ∀ outcome, ∀ b ∈ r.followUp outcome, b ∈ last.branches

/-- Nothing that is said in an interlude is about chains. -/
def Interlude.Quiet (between : Interlude) : Prop :=
  ∀ posting, ∀ n ∈ between.said posting, n.isDepthWarning = false

/-- A chain is cut once at most, and then nothing is left to run. -/
structure Chain.CutOnce (chain : Chain) : Prop where
  once : chain.warnings.length ≤ 1
  pending : chain.remote.isSome = true → chain.warnings = []

theorem RemoteSubmit.followUp_ofAction {endpoint : String} {form : Form} {allowance : Nat}
    {a : Submit} {outcome : Outcome} {b : Action}
    (h : b ∈ (ofAction endpoint form allowance a).followUp outcome) :
    b ∈ (Action.submit a).branches := by
  obtain ⟨_, _, _, _, _, _, onSuccess, onError, _⟩ := a
  rw [Action.mem_branches_submit]
  cases outcome with
  | succeeded => exact .inl h
  | refused endpoint reason => exact .inr h
  | crashed => exact .inr h

/-- The submits an action makes with two allowances differ in the allowance alone. -/
theorem RemoteSubmit.ofAction_eq (endpoint : String) (form : Form) (n m : Nat) (a : Submit) :
    ofAction endpoint form m a = { ofAction endpoint form n a with allowance := m } := by
  cases a
  rfl

@[simp] theorem RemoteSubmit.allowance_ofAction (endpoint : String) (form : Form)
    (allowance : Nat) (a : Submit) :
    (ofAction endpoint form allowance a).allowance = allowance := by
  cases a
  rfl

namespace Performer

variable {p : Performer}

theorem linear_run (p : Performer) (allowance : Nat) (action : Action) (c : Context) :
    (p.run allowance action c).Linear allowance (· = action) := by
  induction allowance generalizing action c with
  | zero => exact ⟨nofun, .nil, Nat.le_refl 0, Nat.zero_le 1, nofun⟩
  | succ allowance ih =>
    have hsequel := p.perform_sequel c action
    simp only [run]
    generalize p.perform c action = step at hsequel ⊢
    obtain ⟨after, effects, notices, next⟩ := step
    have hhead : ∀ {rest : List Action}, ∀ a ∈ (action :: rest).head?, a = action := by
      intro rest a ha
      exact (Option.some.inj ha).symm
    have hone : 1 ≤ allowance + 1 := Nat.succ_le_succ (Nat.zero_le _)
    cases hsequel with
    | finished a remarks => exact ⟨hhead, .singleton _, hone, Nat.zero_le 1, nofun⟩
    | shown a => exact ⟨hhead, .singleton _, hone, Nat.le_refl 1, nofun⟩
    | opened a url external => exact ⟨hhead, .singleton _, hone, Nat.le_refl 1, nofun⟩
    | sent a endpoint =>
      refine ⟨hhead, .singleton _, ?_, Nat.zero_le 1, ?_⟩
      · change 1 + (RemoteSubmit.ofAction endpoint after.form allowance a).allowance ≤ _
        rw [RemoteSubmit.allowance_ofAction]
        omega
      · intro r hr
        cases hr
        exact ⟨rfl, _, rfl, fun outcome b hb => RemoteSubmit.followUp_ofAction hb⟩
    | branch a b remarks inside =>
      obtain ⟨hbegins, hlinked, hbounded, heffects, hpending⟩ := ih b after
      refine ⟨hhead, List.isChain_cons.mpr ⟨?_, hlinked⟩, ?_, heffects, ?_⟩
      · intro next hnext
        rw [hbegins next hnext]
        exact inside
      · change (p.run allowance b after).performed.length + 1 + _ ≤ _
        have hleft : (p.run allowance b after).performed.length +
          (p.run allowance b after).left ≤ allowance := hbounded
        change _ + (p.run allowance b after).left ≤ _
        omega
      · intro r hr
        obtain ⟨hnone, last, hlast, hbranches⟩ := hpending r hr
        refine ⟨hnone, last, ?_, hbranches⟩
        exact List.mem_getLast?_cons hlast

/-- The first action of a full run is performed, whatever the cap. -/
theorem performed_runFully (p : Performer) (action : Action) (c : Context) :
    (p.runFully action c).performed.head? = some action := by
  obtain ⟨n, hn⟩ := Nat.exists_eq_succ_of_ne_zero
    (Nat.pos_iff_ne_zero.mp p.settings.maxActionDepth.positive)
  simp only [runFully, hn, run]
  split <;> rfl

theorem linear_resume (p : Performer) (r : RemoteSubmit) (outcome : Outcome) (c : Context) :
    (p.resume r outcome c).Linear r.allowance (fun b => ∃ o, b ∈ r.followUp o) := by
  simp only [resume]
  cases hfollow : r.followUp outcome with
  | none => exact ⟨nofun, .nil, Nat.zero_le _, Nat.zero_le 1, nofun⟩
  | some b =>
    obtain ⟨hbegins, hlinked, hbounded, heffects, hpending⟩ := p.linear_run r.allowance b c
    refine ⟨fun a ha => ⟨outcome, ?_⟩, hlinked, hbounded, heffects, hpending⟩
    rw [hbegins a ha, hfollow]
    rfl

end Performer

namespace Chain

theorem Linear.followedBy {allowance : Nat} {starts : Action → Prop} {first second : Chain}
    {r : RemoteSubmit} (hfirst : first.Linear allowance starts) (hr : first.remote = some r)
    (hsecond : second.Linear r.allowance (fun b => ∃ o, b ∈ r.followUp o)) :
    (first.followedBy second).Linear allowance starts := by
  obtain ⟨hnone, last, hlast, hbranches⟩ := hfirst.pending r hr
  have hleft := left_of_remote hr
  refine ⟨?_, ?_, ?_, ?_, ?_⟩
  · intro a ha
    have hne : first.performed ≠ [] := by
      intro hnil
      rw [hnil] at hlast
      cases hlast
    obtain ⟨head, rest, hcons⟩ := List.exists_cons_of_ne_nil hne
    refine hfirst.begins a ?_
    rw [Chain.followedBy, hcons] at ha
    rw [hcons]
    exact ha
  · refine hfirst.linked.append hsecond.linked ?_
    intro x hx y hy
    obtain ⟨o, hy⟩ := hsecond.begins y hy
    cases hx.symm.trans hlast
    exact hbranches o y hy
  · have hb := hfirst.bounded
    have hb' := hsecond.bounded
    have hlen : (first.followedBy second).performed.length =
        first.performed.length + second.performed.length := List.length_append
    change _ + second.left ≤ allowance
    omega
  · change (first.effects ++ second.effects).length ≤ 1
    rw [hnone, List.nil_append]
    exact hsecond.effects
  · intro r' hr'
    obtain ⟨hnone', last', hlast', hbranches'⟩ := hsecond.pending r' hr'
    refine ⟨?_, last', ?_, hbranches'⟩
    · change first.effects ++ second.effects = []
      rw [hnone, hnone', List.nil_append]
    · change last' ∈ (first.performed ++ second.performed).getLast?
      rw [List.getLast?_append, Option.mem_def.mp hlast']
      rfl

/-- What is said is no part of the path. -/
theorem Linear.saying {allowance : Nat} {starts : Action → Prop} {chain : Chain}
    (h : chain.Linear allowance starts) (notices : List Notice) :
    (chain.saying notices).Linear allowance starts :=
  ⟨h.begins, h.linked, h.bounded, h.effects, h.pending⟩

end Chain

theorem Performer.linear_course (p : Performer) (world : List Interlude) {allowance : Nat}
    {starts : Action → Prop} {chain : Chain} (h : chain.Linear allowance starts) :
    (p.course world chain).Linear allowance starts := by
  induction world generalizing chain with
  | nil => exact h
  | cons between later ih =>
    rw [course]
    split
    · exact h
    · rename_i r hr
      split
      · exact h.saying _
      · exact ih ((h.saying _).followedBy hr (linear_resume _ r _ _))

namespace Chain.CutOnce

variable {first second : Chain}

theorem saying {notices : List Notice} (h : first.CutOnce)
    (quiet : ∀ n ∈ notices, n.isDepthWarning = false) : (first.saying notices).CutOnce := by
  have hnone : notices.filter Notice.isDepthWarning = [] := by
    refine List.filter_eq_nil_iff.mpr fun n hn => ?_
    rw [quiet n hn]
    exact Bool.false_ne_true
  have hwarnings : (first.saying notices).warnings = first.warnings := by
    rw [warnings, Chain.saying, List.filter_append, hnone, List.append_nil]
    rfl
  exact ⟨hwarnings ▸ h.once, fun hr => hwarnings ▸ h.pending hr⟩

/-- A chain that has not ended was not cut yet, so the next one may be. -/
theorem followedBy (h : first.CutOnce) (hr : first.remote.isSome = true)
    (hsecond : second.CutOnce) : (first.followedBy second).CutOnce := by
  have hwarnings : (first.followedBy second).warnings = second.warnings := by
    rw [warnings_followedBy, h.pending hr, List.nil_append]
  exact ⟨hwarnings ▸ hsecond.once, fun hr => hwarnings ▸ hsecond.pending hr⟩

end Chain.CutOnce

namespace Performer

variable {p : Performer}

/-- The verifier does not say that a chain was cut. -/
def Quiet (p : Performer) : Prop := ∀ n, p.verifier.Says n → n.isDepthWarning = false

theorem Quiet.of_verifier {q : Performer} (quiet : p.Quiet) (same : q.verifier = p.verifier) :
    q.Quiet := by
  unfold Quiet
  rw [same]
  exact quiet

/-- A verifier that does not speak of chains leaves the warnings to them. -/
theorem Remark.isDepthWarning_eq_false {c : Context} {a : Action} {n : Notice}
    (quiet : p.Quiet) (h : Remark p c a n) :
    n.isDepthWarning = false := by
  cases h with
  | verifier _ said => exact quiet n said
  | submit => rfl
  | delete => rfl
  | routine _ _ depth => exact depth

theorem Sequel.no_warnings {c : Context} {a : Action} {effects : List Effect}
    {notices : List Notice} {next : Next} (quiet : p.Quiet)
    (h : Sequel p c a effects notices next) : notices.filter Notice.isDepthWarning = [] := by
  have hnone : ∀ {notices : List Notice}, (∀ n ∈ notices, Remark p c a n) →
      notices.filter Notice.isDepthWarning = [] := by
    intro notices hremarks
    refine List.filter_eq_nil_iff.mpr fun n hn => ?_
    rw [(hremarks n hn).isDepthWarning_eq_false quiet]
    exact Bool.false_ne_true
  cases h with
  | finished _ remarks => exact hnone remarks
  | branch _ _ remarks => exact hnone remarks
  | sent => rfl
  | shown => rfl
  | opened => rfl

theorem cutOnce_run (quiet : p.Quiet)
    (allowance : Nat) (action : Action) (c : Context) : (p.run allowance action c).CutOnce := by
  induction allowance generalizing action c with
  | zero => exact ⟨Nat.le_refl 1, nofun⟩
  | succ allowance ih =>
    have hquiet := (p.perform_sequel c action).no_warnings quiet
    have hafter : ∀ {rest : Chain}, rest.CutOnce →
        (Chain.after action (p.perform c action) rest).CutOnce := by
      intro rest hrest
      have hwarnings : (Chain.after action (p.perform c action) rest).warnings = rest.warnings := by
        rw [Chain.warnings, Chain.after, List.filter_append, hquiet, List.nil_append]
        rfl
      exact ⟨hwarnings ▸ hrest.once, fun hr => hwarnings ▸ hrest.pending hr⟩
    simp only [run]
    split
    · exact hafter ⟨Nat.zero_le 1, fun _ => rfl⟩
    · exact hafter (ih _ _)
    · exact hafter ⟨Nat.zero_le 1, fun _ => rfl⟩

theorem cutOnce_resume (quiet : p.Quiet)
    (r : RemoteSubmit) (outcome : Outcome) (c : Context) : (p.resume r outcome c).CutOnce := by
  have hsaid : (r.outcomeNotices outcome).filter Notice.isDepthWarning = [] := by
    cases outcome <;> rfl
  have hafter : ∀ {chain : Chain}, chain.CutOnce →
      Chain.CutOnce { chain with notices := r.outcomeNotices outcome ++ chain.notices } := by
    intro chain hchain
    have hwarnings : Chain.warnings
        { chain with notices := r.outcomeNotices outcome ++ chain.notices } = chain.warnings := by
      rw [Chain.warnings, List.filter_append, hsaid, List.nil_append]
      rfl
    exact ⟨hwarnings ▸ hchain.once, fun hr => hwarnings ▸ hchain.pending hr⟩
  simp only [resume]
  split
  · exact hafter (cutOnce_run quiet _ _ c)
  · exact hafter ⟨Nat.zero_le 1, fun _ => rfl⟩

theorem cutOnce_course (quiet : p.Quiet) {world : List Interlude}
    (silent : ∀ between ∈ world, between.Quiet) {chain : Chain} (h : chain.CutOnce) :
    (p.course world chain).CutOnce := by
  induction world generalizing chain with
  | nil => exact h
  | cons between later ih =>
    rw [course]
    split
    · exact h
    · rename_i r hr
      have hsaid := h.saying (silent between List.mem_cons_self r.toPosting)
      split
      · exact hsaid
      · refine ih (fun other hmem => silent other (List.mem_cons_of_mem _ hmem)) ?_
        let here : Performer := { p with definition := between.definition }
        exact hsaid.followedBy (by simp [Chain.saying, hr])
          (cutOnce_resume (p := here) quiet r _ _)

end Performer

/-- A chain and the same chain under a larger cap: they are alike, what is left to run
aside, or the first one was cut and the second one went on. -/
inductive Chain.Within (small big : Chain) : Prop
  | ended (same : small = big) (ended : small.remote = none)
  | pending (r : RemoteSubmit) (allowance : Nat) (le : r.allowance ≤ allowance)
    (remote : small.remote = some r)
    (same : big = { small with remote := some { r with allowance } })
  | cut (performed : small.performed <+: big.performed) (ended : small.remote = none)
    (warned : small.warnings ≠ [])

namespace Chain.Within

variable {small big : Chain}

theorem performed_prefix (h : small.Within big) : small.performed <+: big.performed := by
  cases h with
  | ended same => exact same ▸ List.prefix_rfl
  | pending r allowance le remote same => exact same ▸ List.prefix_rfl
  | cut performed => exact performed

/-- The same action in front of both. -/
theorem after (h : small.Within big) (action : Action) (step : Step) :
    (Chain.after action step small).Within (Chain.after action step big) := by
  cases h with
  | ended same ended => exact .ended (congrArg _ same) ended
  | pending r allowance le remote same => exact .pending r allowance le remote (congrArg _ same)
  | cut performed ended warned =>
    refine .cut ((List.prefix_cons_inj action).mpr performed) ended ?_
    rw [warnings, Chain.after, List.filter_append]
    exact fun hnil => warned (List.append_eq_nil_iff.mp hnil).2

/-- The same chain in front of both. -/
theorem followedBy (h : small.Within big) (first : Chain) :
    (first.followedBy small).Within (first.followedBy big) := by
  cases h with
  | ended same ended => exact .ended (congrArg _ same) ended
  | pending r allowance le remote same => exact .pending r allowance le remote (congrArg _ same)
  | cut performed ended warned =>
    refine .cut ((List.prefix_append_right_inj _).mpr performed) ended ?_
    rw [warnings_followedBy]
    exact fun hnil => warned (List.append_eq_nil_iff.mp hnil).2

theorem saying (h : small.Within big) (notices : List Notice) :
    (small.saying notices).Within (big.saying notices) := by
  cases h with
  | ended same ended => exact .ended (same ▸ rfl) ended
  | pending r allowance le remote same => exact .pending r allowance le remote (same ▸ rfl)
  | cut performed ended warned =>
    refine .cut performed ended ?_
    rw [warnings, Chain.saying, List.filter_append]
    exact fun hnil => warned (List.append_eq_nil_iff.mp hnil).1

end Chain.Within

namespace Performer

variable {p : Performer}

@[simp] theorem perform_withCap (p : Performer) (cap : DepthCap) (c : Context) (a : Action) :
    (p.withCap cap).perform c a = p.perform c a := by
  cases a <;> rfl

theorem within_run (n m : DepthCap) {small big : Nat} (le : small ≤ big) (action : Action)
    (c : Context) : ((p.withCap n).run small action c).Within ((p.withCap m).run big action c) := by
  induction small generalizing big action c with
  | zero => exact .cut List.nil_prefix rfl (List.cons_ne_nil _ _)
  | succ small ih =>
    obtain ⟨big, rfl⟩ : ∃ k, big = k + 1 := ⟨big - 1, by omega⟩
    simp only [run, perform_withCap]
    split
    · exact .ended rfl rfl
    · exact (ih (by omega) _ _).after _ _
    · rename_i endpoint submit _
      let sent (allowance : Nat) : Chain :=
        { Chain.idle (p.perform c action).context with
          remote := some (.ofAction endpoint (p.perform c action).context.form allowance submit) }
      have hbig : sent big = { sent small with
          remote := some { RemoteSubmit.ofAction endpoint (p.perform c action).context.form small
            submit with allowance := big } } :=
        congrArg (fun r => { sent small with remote := some r })
          (RemoteSubmit.ofAction_eq endpoint _ small big submit)
      have hle := RemoteSubmit.allowance_ofAction endpoint (p.perform c action).context.form small
        submit
      have hpending : (sent small).Within (sent big) := .pending _ big (by omega) rfl hbig
      exact hpending.after _ _

/-- The outcome of a submit under two caps. -/
theorem within_resume (n m : DepthCap) (r : RemoteSubmit) {allowance : Nat}
    (le : r.allowance ≤ allowance) (outcome : Outcome) (c : Context) :
    ((p.withCap n).resume r outcome c).Within
      ((p.withCap m).resume { r with allowance } outcome c) := by
  have hsame : RemoteSubmit.followUp { r with allowance } outcome = r.followUp outcome := by
    cases outcome <;> rfl
  have hsaid : RemoteSubmit.outcomeNotices { r with allowance } outcome =
      r.outcomeNotices outcome := by
    cases outcome <;> rfl
  simp only [resume, hsame, hsaid]
  cases r.followUp outcome with
  | none => exact .ended rfl rfl
  | some action =>
    let said : Chain := ⟨c, [], r.outcomeNotices outcome, [], none⟩
    exact (within_run n m le action c).followedBy said

/-- A course only adds to what was performed. -/
theorem performed_prefix_course (p : Performer) (world : List Interlude) (chain : Chain) :
    chain.performed <+: (p.course world chain).performed := by
  induction world generalizing chain with
  | nil => exact List.prefix_rfl
  | cons between later ih =>
    rw [course]
    split
    · exact List.prefix_rfl
    · split
      · exact List.prefix_rfl
      · exact List.IsPrefix.trans (List.prefix_append chain.performed _)
          (ih (p.onward between chain _ _))

theorem within_course (n m : DepthCap) (world : List Interlude) {small big : Chain}
    (h : small.Within big) :
    ((p.withCap n).course world small).Within ((p.withCap m).course world big) := by
  induction world generalizing small big with
  | nil => exact h
  | cons between later ih =>
    cases h with
    | ended same ended =>
      rw [course_of_no_remote _ _ ended, course_of_no_remote _ _ (same ▸ ended)]
      exact .ended same ended
    | cut performed ended warned =>
      rw [course_of_no_remote _ _ ended]
      exact .cut (performed.trans (performed_prefix_course _ _ _)) ended warned
    | pending r allowance le remote same =>
      subst same
      rw [course_cons remote, course_cons (r := { r with allowance }) rfl]
      cases between.outcome r.toPosting with
      | none => exact (Chain.Within.pending r allowance le remote rfl).saying _
      | some outcome =>
        let here : Performer := { p with definition := between.definition }
        exact ih ((within_resume (p := here) n m r le outcome _).followedBy _)

end Performer

end Storyboard
