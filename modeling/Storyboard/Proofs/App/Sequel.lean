import Storyboard.App.Performer
import Storyboard.Proofs.Action.Branches
import Storyboard.Proofs.Records.Writes

/-!
# What follows an action

Beside the context, an action leaves behind effects, notices and a way to go on.
`Sequel` lists the combinations there are: a chain goes on with a branch of the action, or
with the request of a submit, and an effect is the end of it. `Remark` says when the
notices arise that are about tables nobody knows; no action says that a chain was too long.
-/
namespace Storyboard

/-- Whether a notice is about a table that is not there. -/
def Notice.isUnknownTable : Notice → Bool
  | .submitUnknownTable _ => true
  | .deleteUnknownTable _ => true
  | _ => false

/-- Whether a notice is about a chain that was cut at the cap. -/
def Notice.isDepthWarning : Notice → Bool
  | .depthExceeded _ => true
  | _ => false

/-- A verifier may say a notice about some comparison. -/
def Verifier.Says (v : Verifier) (n : Notice) : Prop :=
  ∃ plain saved accepted said, v.compare plain saved = .done accepted said ∧ n ∈ said

theorem Verifier.not_says_plaintext (n : Notice) : ¬ Verifier.plaintext.Says n := by
  rintro ⟨plain, saved, accepted, said, hsaid, hn⟩
  unfold Verifier.plaintext at hsaid
  dsimp only at hsaid
  split at hsaid
  · cases hsaid
    cases hn
  · cases hsaid
    cases hn

namespace Performer

/-- An action may leave a notice behind. -/
inductive Remark (p : Performer) (c : Context) : Action → Notice → Prop
  | verifier (a : Action) {n : Notice} (said : p.verifier.Says n) : Remark p c a n
  | submit (a : Submit) {table : String} (named : a.table = .value table)
    (missing : c.store.hasTable table = false) (undeclared : table ∉ p.definition.tableNames) :
    Remark p c (.submit a) (.submitUnknownTable table)
  | delete (a : DeleteRecord) (missing : c.store.hasTable a.table = false) :
    Remark p c (.deleteRecord a) (.deleteUnknownTable a.table)
  | routine (a : Action) {n : Notice} (table : n.isUnknownTable = false)
    (depth : n.isDepthWarning = false) : Remark p c a n

/-- An action may leave effects and notices behind, and a way to go on. -/
inductive Sequel (p : Performer) (c : Context) : Action → List Effect → List Notice → Next → Prop
  | finished (a : Action) {notices : List Notice} (remarks : ∀ n ∈ notices, Remark p c a n) :
    Sequel p c a [] notices .finished
  | branch (a b : Action) {notices : List Notice} (remarks : ∀ n ∈ notices, Remark p c a n)
    (inside : b ∈ a.branches) : Sequel p c a [] notices (.follow b)
  | sent (a : Submit) (endpoint : String) : Sequel p c (.submit a) [] [] (.send endpoint a)
  | shown (a : Popup) :
    Sequel p c (.popup a) [.popup (.ofPopup p.settings.defaultButtonText a)] [] .finished
  | opened (a : OpenUrl) (url : String) (external : Bool) :
    Sequel p c (.openUrl a) [.openUrl url external] [] .finished

variable {p : Performer} {c : Context}

theorem Remark.of_routine {a : Action} {notices : List Notice}
    (h : notices.all fun n => !n.isUnknownTable && !n.isDepthWarning) :
    ∀ n ∈ notices, Remark p c a n := by
  intro n hn
  have hquiet := List.all_eq_true.mp h n hn
  rw [Bool.and_eq_true, Bool.not_eq_true', Bool.not_eq_true'] at hquiet
  exact .routine a hquiet.1 hquiet.2

/-- A follow-up that may be absent is a branch or the end. -/
theorem Sequel.of_slot {a : Action} {slot : Slot Action} {notices : List Notice}
    (inside : ∀ b ∈ slot.toOption, b ∈ a.branches) (remarks : ∀ n ∈ notices, Remark p c a n) :
    Sequel p c a [] notices (.ofSlot slot) := by
  cases slot with
  | value b => exact .branch a b remarks (inside b rfl)
  | null => exact .finished a remarks
  | absent => exact .finished a remarks

/-- The sequel of a step. -/
abbrev Step.Fits (p : Performer) (c : Context) (a : Action) (s : Step) : Prop :=
  Sequel p c a s.effects s.notices s.next

theorem submitToTable_sequel (a : Submit) {table : String} (named : a.table = .value table)
    (fields : Assoc String) :
    Step.Fits p c (.submit a) (p.submitToTable c table fields a.onSuccess a.onError) := by
  unfold submitToTable
  split
  · rename_i hmissing
    simp only [Bool.and_eq_true, Bool.not_eq_true', List.contains_eq_mem,
      decide_eq_false_iff_not] at hmissing
    obtain ⟨hmissing, hundeclared⟩ := hmissing
    refine .of_slot (fun b hb => Action.mem_branches_submit.mpr (.inr hb)) fun n hn => ?_
    rw [List.mem_singleton.mp hn]
    exact .submit a named hmissing hundeclared
  · dsimp only
    split
    · exact .finished _ (Remark.of_routine rfl)
    · exact .of_slot (fun b hb => Action.mem_branches_submit.mpr (.inl hb))
        (Remark.of_routine rfl)

theorem submit_sequel (a : Submit) : Step.Fits p c (.submit a) (p.submit c a) := by
  have herror : ∀ notices : List Notice,
      (notices.all fun n => !n.isUnknownTable && !n.isDepthWarning) →
        Sequel p c (.submit a) [] notices (.ofSlot a.onError) := fun notices hquiet =>
    .of_slot (fun b hb => Action.mem_branches_submit.mpr (.inr hb)) (Remark.of_routine hquiet)
  unfold submit
  split
  rename_i target endpoint method headers table fields onSuccess onError extra
  split
  · split
    · rename_i name pairs hname hpairs
      split
      · exact herror _ rfl
      · have hnamed : table = .value name := by
          cases table <;> cases hname
          rfl
        exact submitToTable_sequel
          ⟨target, endpoint, method, headers, table, fields, onSuccess, onError, extra⟩ hnamed pairs
    · exact herror _ rfl
  · split
    · exact .sent _ _
    · exact herror _ rfl

theorem deleteRecord_sequel (a : DeleteRecord) :
    Step.Fits p c (.deleteRecord a) (deleteRecord c a) := by
  unfold deleteRecord
  split
  · exact .finished _ nofun
  · rename_i hmissing
    refine .finished _ fun n hn => ?_
    rw [List.mem_singleton.mp hn]
    exact .delete a (by simpa using hmissing)

/-- What was said during a search. -/
def Search.notices : Search → List Notice
  | .found _ notices => notices
  | .nobody notices => notices
  | .crashed notices => notices

/-- What a search says was said by the verifier, or before the search. -/
theorem findUser_says {verifier : Verifier} {auth : Authentication} {email password : Json}
    {rows : List Record} {before : List Notice} {n : Notice}
    (hn : n ∈ (findUser verifier auth email password rows before).notices) :
    n ∈ before ∨ verifier.Says n := by
  induction rows generalizing before with
  | nil => exact .inl hn
  | cons row rest ih =>
    unfold findUser at hn
    split at hn
    · split at hn
      · exact .inl hn
      · rename_i said haccepted
        rcases List.mem_append.mp hn with hn | hn
        · exact .inl hn
        · exact .inr ⟨_, _, _, said, haccepted, hn⟩
      · rename_i said hrefused
        rcases ih hn with hn | hn
        · rcases List.mem_append.mp hn with hn | hn
          · exact .inl hn
          · exact .inr ⟨_, _, _, said, hrefused, hn⟩
        · exact .inr hn
    · exact ih hn

theorem login_sequel (a : SignIn) : Step.Fits p c (.login a) (p.login c a) := by
  unfold login
  split
  rename_i fields onError extra
  split
  · exact .finished _ (Remark.of_routine rfl)
  · rename_i auth _
    dsimp only
    generalize hsearch : (if isFilled (Form.value c.form fields.email) then
        findUser p.verifier auth (Form.value c.form fields.email)
          (Form.value c.form fields.password) (c.store.rows auth.userTable) []
      else .nobody []) = search
    have hsaid : ∀ n ∈ search.notices, Remark p c (.login ⟨fields, onError, extra⟩) n := by
      intro n hn
      rw [← hsearch] at hn
      split at hn
      · rcases findUser_says hn with hn | hn
        · cases hn
        · exact .verifier _ hn
      · cases hn
    cases search with
    | found user notices => exact .finished _ hsaid
    | nobody notices =>
      refine .of_slot (fun b hb => Action.mem_branches_login.mpr hb) fun n hn => ?_
      rcases List.mem_append.mp hn with hn | hn
      · exact hsaid n hn
      · exact Remark.of_routine rfl n hn
    | crashed notices =>
      refine .finished _ fun n hn => ?_
      rcases List.mem_append.mp hn with hn | hn
      · exact hsaid n hn
      · exact Remark.of_routine rfl n hn

theorem signup_sequel (a : SignIn) : Step.Fits p c (.signup a) (p.signup c a) := by
  have herror : ∀ notices : List Notice,
      (notices.all fun n => !n.isUnknownTable && !n.isDepthWarning) →
        Sequel p c (.signup a) [] notices (.ofSlot a.onError) := fun notices hquiet =>
    .of_slot (fun b hb => Action.mem_branches_signup.mpr hb) (Remark.of_routine hquiet)
  unfold signup
  split
  split
  · exact .finished _ (Remark.of_routine rfl)
  · dsimp only
    split
    · exact herror _ rfl
    split
    · exact herror _ rfl
    split
    · exact herror _ rfl
    · exact .finished _ (Remark.of_routine rfl)
    · split
      · exact .finished _ (Remark.of_routine rfl)
      · exact .finished _ nofun

theorem logout_sequel (a : Logout) : Step.Fits p c (.logout a) (p.logout c a) := by
  unfold logout
  split
  · exact .branch _ _ nofun (Action.mem_branches_logout.mpr rfl)
  · exact .finished _ nofun

/-- An action leaves behind one of the listed sequels. -/
theorem perform_sequel (p : Performer) (c : Context) (a : Action) :
    Step.Fits p c a (p.perform c a) := by
  cases a with
  | navigate a => exact .finished _ nofun
  | goBack a => exact .finished _ nofun
  | popup a => exact .shown a
  | openUrl a => exact .opened a _ _
  | setValue a => exact .finished _ nofun
  | submit a => exact submit_sequel a
  | deleteRecord a => exact deleteRecord_sequel a
  | login a => exact login_sequel a
  | signup a => exact signup_sequel a
  | logout a => exact logout_sequel a

/-- Only a popup and an address to open are effects. -/
theorem effects_eq_nil {a : Action} (popup : a.kind ≠ .popup) (openUrl : a.kind ≠ .openUrl) :
    (p.perform c a).effects = [] := by
  have hsequel : Step.Fits p c a (p.perform c a) := p.perform_sequel c a
  unfold Step.Fits at hsequel
  generalize (p.perform c a).effects = effects, (p.perform c a).notices = notices,
    (p.perform c a).next = next at hsequel
  cases hsequel with
  | finished | branch | sent => rfl
  | shown => exact absurd rfl popup
  | opened => exact absurd rfl openUrl

end Performer

end Storyboard
