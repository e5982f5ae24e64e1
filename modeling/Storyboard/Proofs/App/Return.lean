import Storyboard.Proofs.App.NewUser
import Storyboard.Proofs.Credentials

/-!
# Users who come back

Whoever signed up can log in again with what the form held then, if it was text. The rows that
were there before do not have the email, so the search for the user passes them over and comes
to the new one. There the two handlers differ: a signup stores the text that a password is shown
as, and a login compares the password as it is. A number as a password is taken in at the signup,
and no login accepts it again.
-/
namespace Storyboard

/-- A form can be filled in alike for a later login: its email equals itself, and its password
is text. -/
def SignIn.Repeatable (a : SignIn) (form : Form) : Prop :=
  (a.emailIn form).same (a.emailIn form) = true ∧ ∃ text, a.passwordIn form = .str text

namespace Performer

variable {p : Performer} {c later : Context} {auth : Authentication} {a b : SignIn}

/-- Rows without the email are passed over. -/
theorem findUser_append {verifier : Verifier} {email : Json} {rows : List Record}
    (strangers : ∀ row ∈ rows, (column row auth.emailField).same email = false)
    (password : Json) (more : List Record) (said : List Notice) :
    findUser verifier auth email password (rows ++ more) said =
      findUser verifier auth email password more said := by
  induction rows with
  | nil => rfl
  | cons row rest ih =>
    obtain ⟨hrow, hrest⟩ := List.forall_mem_cons.mp strangers
    rw [List.cons_append, findUser, hrow]
    exact ih hrest

/-- A login lets a user in. -/
def LogsIn (p : Performer) (c : Context) (auth : Authentication) (a : SignIn) (user : Record) :
    Prop :=
  ∃ notices, p.perform c (.login a) = ⟨c.enter user auth.postLoginScreen, [], notices, .finished⟩

/-- A login changes nothing, and the follow-up for errors is next. -/
def LeftOut (p : Performer) (c : Context) (a : SignIn) : Prop :=
  ∃ notices, p.perform c (.login a) = .refused c notices a.onError

/-- Whoever is let in had filled in the form, which is empty then. -/
theorem LogsIn.not_leftOut {user : Record} (h : LogsIn p c auth a user)
    (filled : isFilled (a.emailIn c.form) = true) : ¬ LeftOut p c a := by
  obtain ⟨notices, hin⟩ := h
  rintro ⟨others, hout⟩
  have hcontext : c.enter user auth.postLoginScreen = c :=
    congrArg Step.context (hin.symm.trans hout)
  rw [← hcontext] at filled
  cases filled

theorem login_of_found (configured : p.definition.authentication = some auth)
    (filled : isFilled (a.emailIn c.form) = true) {user : Record} {notices : List Notice}
    (found : findUser p.verifier auth (a.emailIn c.form) (a.passwordIn c.form)
      (c.store.rows auth.userTable) [] = .found user notices) : LogsIn p c auth a user := by
  refine ⟨notices, ?_⟩
  change p.login c a = _
  obtain ⟨fields, onError, extra⟩ := a
  unfold SignIn.emailIn at filled found
  unfold SignIn.passwordIn at found
  unfold login
  simp only [configured, filled, if_true, found]

theorem login_of_nobody (configured : p.definition.authentication = some auth)
    (filled : isFilled (a.emailIn c.form) = true) {notices : List Notice}
    (nobody : findUser p.verifier auth (a.emailIn c.form) (a.passwordIn c.form)
      (c.store.rows auth.userTable) [] = .nobody notices) : LeftOut p c a := by
  refine ⟨notices ++ [.loginFailed], ?_⟩
  change p.login c a = _
  obtain ⟨fields, onError, extra⟩ := a
  unfold SignIn.emailIn at filled nobody
  unfold SignIn.passwordIn at nobody
  unfold login
  simp only [configured, filled, if_true, nobody]

/-- What is stored about the user who is looked for: the last row, and no other with the email. -/
structure Lastly (c : Context) (auth : Authentication) (a : SignIn) (user : Record) : Prop where
  last : ∃ rows, c.store.rows auth.userTable = rows ++ [user] ∧
    ∀ row ∈ rows, (column row auth.emailField).same (a.emailIn c.form) = false
  filled : isFilled (a.emailIn c.form) = true

section

variable {user : Record} (h : Lastly c auth a user)
include h

theorem Lastly.findUser_eq (verifier : Verifier) (password : Json) :
    findUser verifier auth (a.emailIn c.form) password (c.store.rows auth.userTable) [] =
      findUser verifier auth (a.emailIn c.form) password [user] [] := by
  obtain ⟨rows, hrows, hstrangers⟩ := h.last
  rw [hrows]
  exact findUser_append hstrangers password [user] []

theorem Lastly.logsIn (configured : p.definition.authentication = some auth)
    (same : (column user auth.emailField).same (a.emailIn c.form) = true)
    {said : List Notice} (accepted : p.verifier.compare (a.passwordIn c.form)
      (column user auth.passwordField) = .done true said) : LogsIn p c auth a user := by
  have hfound : findUser p.verifier auth (a.emailIn c.form) (a.passwordIn c.form)
      (c.store.rows auth.userTable) [] = .found user said := by
    rw [h.findUser_eq, findUser, same]
    simp only [accepted, if_true]
    rfl
  exact login_of_found configured h.filled hfound

theorem Lastly.leftOut_of_stranger (configured : p.definition.authentication = some auth)
    (other : (column user auth.emailField).same (a.emailIn c.form) = false) :
    LeftOut p c a := by
  have hnobody : findUser p.verifier auth (a.emailIn c.form) (a.passwordIn c.form)
      (c.store.rows auth.userTable) [] = .nobody [] := by
    rw [h.findUser_eq, findUser, other]
    rfl
  exact login_of_nobody configured h.filled hnobody

theorem Lastly.leftOut_of_declined (configured : p.definition.authentication = some auth)
    (same : (column user auth.emailField).same (a.emailIn c.form) = true)
    {said : List Notice} (declined : p.verifier.compare (a.passwordIn c.form)
      (column user auth.passwordField) = .done false said) : LeftOut p c a := by
  have hnobody : findUser p.verifier auth (a.emailIn c.form) (a.passwordIn c.form)
      (c.store.rows auth.userTable) [] = .nobody said := by
    rw [h.findUser_eq, findUser, same]
    simp only [declined, if_true]
    rfl
  exact login_of_nobody configured h.filled hnobody

end

/-- A user who has just signed up is looked for in the last row, by the same email. -/
theorem Admits.lastly {secret : String} (h : Admits p c auth a secret) {user : Record}
    (kept : later.store.rows auth.userTable = c.store.rows auth.userTable ++ [user])
    (email : b.emailIn later.form = a.emailIn c.form) : Lastly later auth b user := by
  refine ⟨⟨c.store.rows auth.userTable, kept, ?_⟩, ?_⟩
  · rw [email]
    exact h.ready.free
  · rw [email]
    exact h.ready.email

/-- What was stored of a text accepts it. -/
theorem Admits.accepts {secret text : String} (h : Admits p c auth a secret)
    (faithful : p.verifier.Faithful) (password : a.passwordIn c.form = .str text) :
    ∃ said, p.verifier.compare (.str text) (.str secret) = .done true said := by
  have hstored := h.stored
  have hfilled := h.ready.password
  rw [password] at hstored hfilled
  have hnonempty : text ≠ "" := by
    rintro rfl
    cases hfilled
  exact faithful.accepts hnonempty hstored

theorem HoldsSubmitted.same_email {secret fresh : String} {user : Record}
    (h : HoldsSubmitted auth c.form a secret fresh user)
    (email : b.emailIn later.form = a.emailIn c.form) :
    (column user auth.emailField).same (b.emailIn later.form) =
      (a.emailIn c.form).same (a.emailIn c.form) := by
  rw [column, h.email, email]
  rfl

theorem HoldsSubmitted.column_secret {secret fresh : String} {user : Record} {form : Form}
    (h : HoldsSubmitted auth form a secret fresh user) :
    column user auth.passwordField = .str secret := by
  rw [column, h.secret]
  rfl

section

variable {secret fresh : String} {user : Record}
  (configured : p.definition.authentication = some auth) (faithful : p.verifier.Faithful)
  (holds : HoldsSubmitted auth c.form a secret fresh user) (lastly : Lastly later auth b user)
  (email : b.emailIn later.form = a.emailIn c.form)
  (password : b.passwordIn later.form = a.passwordIn c.form)

include configured faithful holds lastly email password

theorem logsIn_of_repeatable (admits : Admits p c auth a secret) (h : a.Repeatable c.form) :
    LogsIn p later auth b user := by
  obtain ⟨hself, text, htext⟩ := h
  obtain ⟨said, haccepted⟩ := admits.accepts faithful htext
  rw [← htext, ← password, ← holds.column_secret] at haccepted
  exact lastly.logsIn configured ((holds.same_email email).trans hself) haccepted

theorem leftOut_of_not_repeatable (h : ¬ a.Repeatable c.form) : LeftOut p later b := by
  -- an email that does not equal itself is not even found; else the verifier sees the raw value
  by_cases hself : (a.emailIn c.form).same (a.emailIn c.form) = true
  · have hshown : ∀ text, a.passwordIn c.form ≠ .str text :=
      fun text htext => h ⟨hself, text, htext⟩
    obtain ⟨said, hdeclined⟩ := faithful.declines hshown (.str secret)
    rw [← password, ← holds.column_secret] at hdeclined
    exact lastly.leftOut_of_declined configured ((holds.same_email email).trans hself) hdeclined
  · have hother := Bool.eq_false_iff.mpr hself
    exact lastly.leftOut_of_stranger configured ((holds.same_email email).trans hother)

end

end Performer

/-- Whoever signed up is let in later with the same email and password, as the very record of
the signup, exactly if the email equals itself and the password is text. Otherwise the login is
refused. Nothing else matters about the later state but that the user table is as the signup
left it. -/
theorem signup_then_login_iff {p : Performer} {c later : Context} {auth : Authentication}
    {a b : SignIn} (configured : p.definition.authentication = some auth)
    (apart : auth.ColumnsApart a.fields) (faithful : p.verifier.Faithful)
    (entered : (p.perform c (.signup a)).context.store.rows auth.userTable ≠
      c.store.rows auth.userTable)
    (kept : later.store.rows auth.userTable =
      (p.perform c (.signup a)).context.store.rows auth.userTable)
    (email : b.emailIn later.form = a.emailIn c.form)
    (password : b.passwordIn later.form = a.passwordIn c.form) :
    ∃ user, (p.perform c (.signup a)).context.session = some ⟨user⟩ ∧
      (Performer.LogsIn p later auth b user ↔ a.Repeatable c.form) ∧
      (¬ a.Repeatable c.form → Performer.LeftOut p later b) := by
  obtain ⟨secret, user, hadmits, huser, hrows, hsession⟩ :=
    Performer.entered_of_rows_ne configured entered
  have hholds := Performer.holdsSubmitted_newcomer (a := a) apart c.form secret
    (c.supply.next (idTexts (c.store.rows auth.userTable))).1
  rw [← huser] at hholds
  have hlastly : Performer.Lastly later auth b user := hadmits.lastly (kept.trans hrows) email
  have hout : ¬ a.Repeatable c.form → Performer.LeftOut p later b :=
    Performer.leftOut_of_not_repeatable configured faithful hholds hlastly email password
  refine ⟨user, hsession, ⟨fun hlogs => ?_, ?_⟩, hout⟩
  · exact not_not.mp fun hunfit => hlogs.not_leftOut hlastly.filled (hout hunfit)
  · exact Performer.logsIn_of_repeatable configured faithful hholds hlastly email password hadmits

/-- The context behind a signup, a logout, and the form filled in as before. -/
def clubReturn (verifier : Verifier) (c : Context) : Context :=
  let entered := ((club verifier).perform c (.signup (clubSignIn []))).context
  { ((club verifier).perform entered (.logout ⟨.absent, []⟩)).context with form := c.form }

theorem plain_signup_returns :
    (clubReturn .plaintext clubContext).session = none ∧
      ∃ user, ((club .plaintext).perform clubContext (.signup (clubSignIn []))).context.session =
          some ⟨user⟩ ∧
        Performer.LogsIn (club .plaintext) (clubReturn .plaintext clubContext) clubAuthentication
          (clubSignIn []) user := by
  have hentered : ((club .plaintext).perform clubContext
      (.signup (clubSignIn []))).context.store.rows "members" ≠ [] := by decide
  obtain ⟨user, hsession, hlogs, -⟩ := @signup_then_login_iff (club .plaintext) clubContext
    (clubReturn .plaintext clubContext) clubAuthentication (clubSignIn []) (clubSignIn []) rfl
    ⟨by decide, by decide, by decide, rfl, nofun⟩ Verifier.plaintext_faithful hentered rfl rfl rfl
  exact ⟨rfl, user, hsession, hlogs.mpr ⟨rfl, "pass", rfl⟩⟩

/-- A number is typed as the password. -/
def numericContext : Context :=
  { clubContext with form := [(.id "box", .str "ada@club"), (.id "word", .int 1234)] }

/-- Whoever signs up with a number as the password is a member, and is not let in again with it:
the screen for errors follows. -/
theorem numeric_password_locks_out :
    ((club .plaintext).perform numericContext (.signup (clubSignIn []))).context.session.isSome =
        true ∧
      (club .plaintext).perform (clubReturn .plaintext numericContext) (.login (clubSignIn [])) =
        .refused (clubReturn .plaintext numericContext) [.loginFailed]
          (.value (.navigate ⟨"regret", .absent, .absent, []⟩)) ∧
      ¬ ∀ (p : Performer) (c later : Context) (auth : Authentication) (a : SignIn),
        p.definition.authentication = some auth → auth.ColumnsApart a.fields →
          a.fields.extra = [] → p.verifier.Faithful →
            (a.emailIn c.form).same (a.emailIn c.form) = true →
              (p.perform c (.signup a)).context.store.rows auth.userTable ≠
                  c.store.rows auth.userTable →
                later.store = (p.perform c (.signup a)).context.store → later.form = c.form →
                  later.session = none → (p.perform later (.login a)).context.session =
                    (p.perform c (.signup a)).context.session := by
  have hentered : ((club .plaintext).perform numericContext
      (.signup (clubSignIn []))).context.store.rows "members" ≠ [] := by decide
  refine ⟨rfl, rfl, fun always => ?_⟩
  have hsession := always (club .plaintext) numericContext (clubReturn .plaintext numericContext)
    clubAuthentication (clubSignIn []) rfl ⟨by decide, by decide, by decide, rfl, nofun⟩ rfl
    Verifier.plaintext_faithful rfl hentered rfl rfl rfl
  cases hsession

end Storyboard
