import Mathlib.Logic.Basic
import Storyboard.Proofs.App.History
import Storyboard.Proofs.Json.Legible
import Storyboard.Proofs.Records.Writes

/-!
# The ways a signup can go

A signup lets the new user in, or it is turned away for a reason and its follow-up for errors
is next, or it gives up: what was submitted is nested too deeply to be written out, the verifier
broke down, or a further key names a container where the id of a form field should stand, and
containers cannot be looked up. A record that is nested too deeply to be copied into the store is
given up too, when its table is there already. `signup_verdict` says that there are no other ways;
what the handler does is read off the verdict from there on.

Whoever gives up stores nobody, but the follow-up for errors does not run. So a signup takes one
of the two outcomes it is meant to have exactly if it does not give up.
-/
namespace Storyboard

namespace SignIn

/-- The email in a form. -/
def emailIn (a : SignIn) (form : Form) : Json := Form.value form a.fields.email

/-- The password in a form. -/
def passwordIn (a : SignIn) (form : Form) : Json := Form.value form a.fields.password

end SignIn

namespace Form

variable {n : Nat}

/-- The values of a form are of limited height. -/
def Shallow (n : Nat) (form : Form) : Prop := ∀ p ∈ form, p.2.height ≤ n

theorem Shallow.get {form : Form} (h : form.Shallow n) (hn : 1 ≤ n) (key : Key) :
    ((form.get? key).getD .null).height ≤ n := by
  unfold get?
  cases hfound : form.find? fun p => p.1.agrees key with
  | none => exact hn
  | some p => exact h p (List.mem_of_find?_eq_some hfound)

/-- Only scalars are keys. -/
theorem Key.height_of_ofJson? {id : Json} (h : (Key.ofJson? id).isSome = true) : id.height = 1 := by
  cases id with
  | arr | obj => cases h
  | _ => rfl

end Form

/-- Every further key names a form field. -/
def CredentialFields.AllNamed (fields : CredentialFields) : Prop :=
  ∀ entry ∈ fields.extra, (Form.Key.ofJson? entry.2).isSome = true

namespace Performer

/-- The form value of a field that a further key names. -/
def furtherValue (form : Form) (id : Json) : Json := (extraValue? form id).getD .null

theorem extraValue?_eq {id : Json} (h : (Form.Key.ofJson? id).isSome = true) (form : Form) :
    extraValue? form id = some (furtherValue form id) := by
  obtain ⟨key, hkey⟩ := Option.isSome_iff_exists.mp h
  rw [furtherValue, extraValue?, hkey]
  rfl

/-- The fields of a new user: the email, the stored secret, and the further ones in order. -/
def newcomer (auth : Authentication) (form : Form) (fields : CredentialFields) (email : Json)
    (secret : String) : Record :=
  Assoc.putAll (Assoc.put [(auth.emailField, email)] auth.passwordField (.str secret))
    (Assoc.mapValues (furtherValue form) fields.extra)

theorem height_furtherValue_le {n : Nat} {form : Form} (h : form.Shallow n) (hn : 1 ≤ n)
    (id : Json) : (furtherValue form id).height ≤ n := by
  unfold furtherValue extraValue?
  cases Form.Key.ofJson? id with
  | none => exact hn
  | some key => exact h.get hn key

theorem heightFields_newcomer_le {n : Nat} {form : Form} (h : form.Shallow n) (hn : 1 ≤ n)
    (auth : Authentication) (fields : CredentialFields) {email : Json} (hemail : email.height ≤ n)
    (secret : String) : Json.heightFields (newcomer auth form fields email secret) ≤ n := by
  refine Json.heightFields_le.mpr fun p hp => ?_
  obtain hput | hextra := Assoc.mem_putAll hp
  · obtain hfirst | rfl := Assoc.mem_put hput
    · rw [List.mem_singleton.mp hfirst]
      exact hemail
    · exact hn
  · obtain ⟨q, -, rfl⟩ := List.mem_map.mp hextra
    exact height_furtherValue_le h hn q.2

/-- Where every further key names a field, all values are added. -/
theorem addExtra_of_named {extra : Assoc Json}
    (h : ∀ entry ∈ extra, (Form.Key.ofJson? entry.2).isSome = true) (form : Form)
    (user : Record) :
    addExtra form user extra =
      some (Assoc.putAll user (Assoc.mapValues (furtherValue form) extra)) := by
  induction extra generalizing user with
  | nil => rfl
  | cons entry rest ih =>
    obtain ⟨hentry, hrest⟩ := List.forall_mem_cons.mp h
    rw [addExtra, extraValue?_eq hentry, Option.bind_some, ih hrest]
    rfl

/-- A key that names no field stops the others too. -/
theorem addExtra_of_unnamed {extra : Assoc Json}
    (h : ¬ ∀ entry ∈ extra, (Form.Key.ofJson? entry.2).isSome = true) (form : Form)
    (user : Record) : addExtra form user extra = none := by
  induction extra generalizing user with
  | nil => exact absurd (List.forall_mem_nil _) h
  | cons entry rest ih =>
    rw [addExtra]
    by_cases hentry : (Form.Key.ofJson? entry.2).isSome = true
    · rw [extraValue?_eq hentry, Option.bind_some]
      exact ih (fun hrest => h (List.forall_mem_cons.mpr ⟨hentry, hrest⟩)) _
    · rw [extraValue?, Option.not_isSome_iff_eq_none.mp hentry]
      rfl

section

variable (p : Performer) (c : Context) (auth : Authentication) (a : SignIn)

/-- The form is complete, and no row of the user table has its email. -/
structure Ready : Prop where
  email : isFilled (a.emailIn c.form) = true
  password : isFilled (a.passwordIn c.form) = true
  free : ∀ row ∈ c.store.rows auth.userTable,
    (column row auth.emailField).same (a.emailIn c.form) = false

/-- What is submitted can be written out: the fields are dumped, and the password becomes a
text. -/
structure Legible : Prop where
  fields : fieldsFit nestingLimit a.fields.extra = true
  password : (a.passwordIn c.form).shows = true

/-- A new user is made, under a secret. -/
structure Makes (secret : String) : Prop where
  ready : Ready c auth a
  legible : Legible c a
  stored : p.verifier.store (a.passwordIn c.form).display = .stored secret
  named : a.fields.AllNamed

/-- A new user can be stored, under a secret. -/
structure Admits (secret : String) : Prop extends Makes p c auth a secret where
  copied : (Json.obj (newcomer auth c.form a.fields (a.emailIn c.form) secret)).copies = true

/-- A signup is turned away, with a notice that says why. -/
inductive TurnsAway : Notice → Prop
  | incomplete (missing : isFilled (a.emailIn c.form) = false ∨
      isFilled (a.passwordIn c.form) = false) : TurnsAway .signupIncomplete
  | duplicate {row : Record} (stored : row ∈ c.store.rows auth.userTable)
    (same : (column row auth.emailField).same (a.emailIn c.form) = true) :
    TurnsAway .signupDuplicate
  | rejected (ready : Ready c auth a) (legible : Legible c a) {reason : String}
    (unfit : p.verifier.store (a.passwordIn c.form).display = .rejected reason) :
    TurnsAway (.signupRejected reason)

/-- A signup gives up midway, and leaves a context behind. -/
inductive GivesUp : Context → Prop
  | illegible (ready : Ready c auth a) (deep : ¬ Legible c a) : GivesUp c
  | verifier (ready : Ready c auth a) (legible : Legible c a)
    (crashed : p.verifier.store (a.passwordIn c.form).display = .crashed) : GivesUp c
  | fields (ready : Ready c auth a) (legible : Legible c a) {secret : String}
    (stored : p.verifier.store (a.passwordIn c.form).display = .stored secret)
    (unnamed : ¬ a.fields.AllNamed) : GivesUp c
  | record {secret : String} (makes : Makes p c auth a secret)
    (deep : (Json.obj (newcomer auth c.form a.fields (a.emailIn c.form) secret)).copies = false) :
    GivesUp { c with store := c.store.ensureTables [auth.userTable] }

/-- What a signup does, and when. -/
inductive SignupVerdict : Step → Prop
  | entered {secret : String} (admits : Admits p c auth a secret) {row : Record} {store : Store}
    {supply : Supply}
    (inserted : (c.store.ensureTables [auth.userTable]).insert c.supply auth.userTable
      (newcomer auth c.form a.fields (a.emailIn c.form) secret) = .ok (row, store, supply)) :
    SignupVerdict (.changed (({ c with store, supply } : Context).enter row auth.postLoginScreen))
  | turnedAway {notice : Notice} (why : TurnsAway p c auth a notice) :
    SignupVerdict (.refused c [notice] a.onError)
  | gaveUp {left : Context} (why : GivesUp p c auth a left) :
    SignupVerdict (.ignored left (.handlerFailed ActionKind.signup.tag))

end

variable {p : Performer} {c : Context} {auth : Authentication} {a : SignIn}

/-- A user that was made is stored if the record can be copied. -/
theorem verdict_of_makes {secret : String} (makes : Makes p c auth a secret) :
    SignupVerdict p c auth a
      (match (c.store.ensureTables [auth.userTable]).insert c.supply auth.userTable
          (newcomer auth c.form a.fields (a.emailIn c.form) secret) with
        | .error _ => .ignored { c with store := c.store.ensureTables [auth.userTable] }
          (.handlerFailed ActionKind.signup.tag)
        | .ok (row, store, supply) =>
          .changed (({ c with store, supply } : Context).enter row auth.postLoginScreen)) := by
  cases hinserted : (c.store.ensureTables [auth.userTable]).insert c.supply auth.userTable
      (newcomer auth c.form a.fields (a.emailIn c.form) secret) with
  | error fault => exact .gaveUp (.record makes (Store.insert_created_eq_error hinserted))
  | ok result =>
    obtain ⟨row, store, supply⟩ := result
    obtain ⟨_, -, hcopied, -⟩ := Store.insert_eq_ok.mp hinserted
    exact .entered ⟨makes, hcopied⟩ hinserted

theorem signup_verdict (configured : p.definition.authentication = some auth) (c : Context)
    (a : SignIn) : SignupVerdict p c auth a (p.signup c a) := by
  obtain ⟨fields, onError, extra⟩ := a
  unfold signup
  rw [configured]
  dsimp only
  split
  · rename_i hmissing
    rw [Bool.or_eq_true, Bool.not_eq_true', Bool.not_eq_true'] at hmissing
    exact .turnedAway (.incomplete hmissing)
  · rename_i hfilled
    rw [Bool.or_eq_true, not_or, Bool.not_eq_true', Bool.not_eq_true', Bool.not_eq_false,
      Bool.not_eq_false] at hfilled
    split
    · rename_i htaken
      obtain ⟨row, hrow, hsame⟩ := List.any_eq_true.mp htaken
      exact .turnedAway (.duplicate hrow hsame)
    · rename_i hfree
      rw [List.any_eq_true, not_exists] at hfree
      have hready : Ready c auth ⟨fields, onError, extra⟩ :=
        ⟨hfilled.1, hfilled.2, fun row hrow =>
          Bool.eq_false_iff.mpr fun hsame => hfree row ⟨hrow, hsame⟩⟩
      unfold newUser
      by_cases hlegible : Legible c ⟨fields, onError, extra⟩
      · have hfits : (!(fieldsFit nestingLimit fields.extra &&
            (Form.value c.form fields.password).shows)) = false := by
          rw [Bool.not_eq_false', Bool.and_eq_true]
          exact ⟨hlegible.fields, hlegible.password⟩
        rw [hfits, if_neg Bool.false_ne_true]
        cases hstored : p.verifier.store (Form.value c.form fields.password).display with
        | rejected reason => exact .turnedAway (.rejected hready hlegible hstored)
        | crashed => exact .gaveUp (.verifier hready hlegible hstored)
        | stored secret =>
          by_cases hnamed : fields.AllNamed
          · have hmakes : Makes p c auth ⟨fields, onError, extra⟩ secret :=
              ⟨hready, hlegible, hstored, hnamed⟩
            dsimp only
            rw [addExtra_of_named hnamed]
            exact verdict_of_makes hmakes
          · dsimp only
            rw [addExtra_of_unnamed hnamed]
            exact .gaveUp (.fields hready hlegible hstored hnamed)
      · have hunfit : (!(fieldsFit nestingLimit fields.extra &&
            (Form.value c.form fields.password).shows)) = true := by
          rw [Bool.not_eq_true', Bool.eq_false_iff, ne_eq, Bool.and_eq_true]
          exact fun h => hlegible ⟨h.1, h.2⟩
        rw [hunfit, if_pos rfl]
        exact .gaveUp (.illegible hready hlegible)

theorem TurnsAway.rejected_of_ready {notice : Notice} (h : TurnsAway p c auth a notice)
    (ready : Ready c auth a) : Legible c a ∧
      ∃ reason, p.verifier.store (a.passwordIn c.form).display = .rejected reason := by
  cases h with
  | incomplete missing =>
    rw [ready.email, ready.password] at missing
    rcases missing with h | h <;> cases h
  | duplicate stored same =>
    rw [ready.free _ stored] at same
    cases same
  | rejected _ legible unfit => exact ⟨legible, _, unfit⟩

theorem Makes.not_turnsAway {secret : String} (h : Makes p c auth a secret) (notice : Notice) :
    ¬ TurnsAway p c auth a notice := by
  intro haway
  obtain ⟨-, _, hrejected⟩ := haway.rejected_of_ready h.ready
  cases h.stored.symm.trans hrejected

theorem GivesUp.ready {left : Context} (h : GivesUp p c auth a left) : Ready c auth a := by
  cases h with
  | record makes => exact makes.ready
  | _ => assumption

theorem GivesUp.not_turnsAway {left : Context} (h : GivesUp p c auth a left) (notice : Notice) :
    ¬ TurnsAway p c auth a notice := by
  intro haway
  cases h with
  | illegible ready deep => exact deep (haway.rejected_of_ready ready).1
  | verifier ready _ crashed =>
    obtain ⟨-, _, hrejected⟩ := haway.rejected_of_ready ready
    cases crashed.symm.trans hrejected
  | fields ready _ stored =>
    obtain ⟨-, _, hrejected⟩ := haway.rejected_of_ready ready
    cases stored.symm.trans hrejected
  | record makes => exact makes.not_turnsAway notice haway

theorem GivesUp.not_admits {left : Context} (h : GivesUp p c auth a left) (secret : String) :
    ¬ Admits p c auth a secret := by
  intro hadmits
  cases h with
  | illegible _ deep => exact deep hadmits.legible
  | verifier _ _ crashed => cases crashed.symm.trans hadmits.stored
  | fields _ _ _ unnamed => exact unnamed hadmits.named
  | record makes deep =>
    cases makes.stored.symm.trans hadmits.stored
    exact Bool.false_ne_true (deep.symm.trans hadmits.copied)

/-- A signup gives up in one way. -/
theorem GivesUp.unique {left other : Context} (h : GivesUp p c auth a left)
    (h' : GivesUp p c auth a other) : left = other := by
  cases h with
  | illegible _ deep =>
    cases h' with
    | record makes => exact absurd makes.legible deep
    | _ => rfl
  | verifier _ _ crashed =>
    cases h' with
    | record makes => cases crashed.symm.trans makes.stored
    | _ => rfl
  | fields _ _ _ unnamed =>
    cases h' with
    | record makes => exact absurd makes.named unnamed
    | _ => rfl
  | record makes =>
    cases h' with
    | illegible _ deep => exact absurd makes.legible deep
    | verifier _ _ crashed => cases crashed.symm.trans makes.stored
    | fields _ _ _ unnamed => exact absurd makes.named unnamed
    | record => rfl

/-- What runs behind a handler: the action in a slot, if there is one. -/
def branch (p : Performer) (allowance : Nat) (slot : Slot Action) (c : Context) : Chain :=
  match slot.toOption with
  | some action => p.run allowance action c
  | none => .idle c

/-- The action in the slot that an action leads to is what runs behind it. -/
theorem run_of_slot {action : Action} {step : Step} {slot : Slot Action}
    (h : p.perform c action = step) (next : step.next = .ofSlot slot) (allowance : Nat) :
    p.run (allowance + 1) action c = .after action step (p.branch allowance slot step.context) := by
  rw [run, h]
  dsimp only
  rw [next]
  cases slot <;> rfl

theorem run_of_refused {action : Action} {notices : List Notice} {slot : Slot Action}
    (h : p.perform c action = .refused c notices slot) (allowance : Nat) :
    p.run (allowance + 1) action c =
      .after action (.refused c notices slot) (p.branch allowance slot c) :=
  run_of_slot h rfl allowance

/-- A chain refuses an action: the handler leaves the context as it is, and the follow-up for
errors is dispatched right behind it, if there is one. -/
def Refuses (p : Performer) (c : Context) (action : Action) (onError : Slot Action)
    (allowance : Nat) (chain : Chain) : Prop :=
  ∃ notices, chain = .after action (.refused c notices onError) (p.branch allowance onError c)

/-- A follow-up that performed nothing left the context alone. -/
theorem context_branch {allowance : Nat} {slot : Slot Action}
    (h : (p.branch allowance slot c).performed = []) :
    (p.branch allowance slot c).context = c := by
  unfold branch at h ⊢
  split at h
  · rw [run_context, h]
    rfl
  · rfl

/-- Where a table has one more row, its rows have changed. -/
theorem rows_ne_of_append {later : Context} {table : String} {row : Record}
    (h : later.store.rows table = c.store.rows table ++ [row]) :
    later.store.rows table ≠ c.store.rows table := by
  rw [h]
  exact fun heq => List.cons_ne_nil _ _ (List.append_right_eq_self.mp heq)

/-- Whatever a signup that gives up leaves behind, the rows are as they were. -/
theorem GivesUp.rows_eq {left : Context} (h : GivesUp p c auth a left) (table : String) :
    left.store.rows table = c.store.rows table := by
  cases h with
  | record => exact Store.rows_ensureTables _ _ _
  | _ => rfl

end Performer

/-- A club: members are kept with their mail address and a secret. -/
def clubAuthentication : Authentication :=
  ⟨true, "members", "mail", "secret", "home", "welcome", []⟩

def clubDefinition : Definition where
  version := "1"
  app := ⟨"Club", .absent, .absent, .absent, .value clubAuthentication, []⟩
  screens := [("home", ⟨.absent, .absent, none, .absent, none, []⟩),
    ("welcome", ⟨.absent, .absent, none, .absent, none, []⟩),
    ("regret", ⟨.absent, .absent, none, .absent, none, []⟩)]
  initialScreen := "welcome"
  extra := []

def club (verifier : Verifier) : Performer := ⟨clubDefinition, verifier, .default⟩

/-- Nobody is a member yet, and somebody has filled in the form. -/
def clubContext : Context :=
  ⟨.empty, ⟨.counter, 0⟩, [(.id "box", .str "ada@club"), (.id "word", .str "pass")], none,
    "welcome"⟩

/-- A signup with further fields, and a screen to go to when it is turned away. -/
def clubSignup (further : Assoc Json) : Json :=
  .obj [("type", .str "auth:signup"),
    ("fields", .obj ([("email", .str "box"), ("password", .str "word")] ++ further)),
    ("onError", .obj [("type", .str "navigate"), ("target", .str "regret")])]

/-- The signup that `clubSignup` describes. -/
def clubSignIn (further : Assoc Json) : SignIn :=
  ⟨⟨"box", "word", further⟩, .value (.navigate ⟨"regret", .absent, .absent, []⟩), []⟩

end Storyboard
