import Storyboard.Proofs.App.Return

/-!
# Who is let in

A login lets in the first row of the user table that has the submitted email and a secret that
the verifier accepts the submitted password for. Rows that have the email and another secret are
passed over, and so are rows without these columns, which stand for `null` there. Nobody is let
in without an email, whatever the rows hold. A login that finds nobody changes nothing, and its
follow-up for errors is next.
-/
namespace Storyboard.Performer

variable {p : Performer} {c : Context} {auth : Authentication} {a : SignIn}

theorem isFilled_iff {v : Json} : isFilled v = true ↔ v ≠ .null ∧ v ≠ .str "" := by
  cases v <;> simp [isFilled]

section

variable (p : Performer) (c : Context) (auth : Authentication) (a : SignIn)

/-- A row has the submitted email and a secret that the submitted password is accepted for. -/
structure Matches (row : Record) : Prop where
  email : (column row auth.emailField).same (a.emailIn c.form) = true
  password : p.verifier.Accepts (a.passwordIn c.form) (column row auth.passwordField)

/-- Somebody with an email is logging in, and a row matches. -/
structure Known : Prop where
  given : a.emailIn c.form ≠ .null ∧ a.emailIn c.form ≠ .str ""
  stored : ∃ row ∈ c.store.rows auth.userTable, Matches p c auth a row

/-- The first row that matches, in the order of the user table. -/
def FirstMatch (user : Record) : Prop :=
  ∃ before after, c.store.rows auth.userTable = before ++ user :: after ∧
    Matches p c auth a user ∧ ∀ row ∈ before, ¬ Matches p c auth a row

end

/-- A chain lets a user in, whose row the session holds from then on, and ends there: nothing
else has changed, and no follow-up is dispatched. -/
structure Enters (c : Context) (auth : Authentication) (a : SignIn) (user : Record)
    (chain : Chain) : Prop where
  session : chain.context.session = some ⟨user⟩
  screen : chain.context.screen = auth.postLoginScreen
  form : chain.context.form = []
  store : chain.context.store = c.store
  supply : chain.context.supply = c.supply
  alone : chain.performed = [.login a]
  effects : chain.effects = []
  remote : chain.remote = none

/-- Where a row matches there is a first one. -/
theorem Known.exists_firstMatch (h : Known p c auth a) : ∃ user, FirstMatch p c auth a user := by
  obtain ⟨row, hrow, hmatches⟩ := h.stored
  unfold FirstMatch
  generalize c.store.rows auth.userTable = rows at hrow
  induction rows with
  | nil => cases hrow
  | cons first rest ih =>
    by_cases hfirst : Matches p c auth a first
    · exact ⟨first, [], rest, rfl, hfirst, List.forall_mem_nil _⟩
    · have hrest : row ∈ rest := by
        rcases List.mem_cons.mp hrow with rfl | hrest
        · exact absurd hmatches hfirst
        · exact hrest
      obtain ⟨user, before, after, rfl, huser, hbefore⟩ := ih hrest
      exact ⟨user, first :: before, after, rfl, huser,
        List.forall_mem_cons.mpr ⟨hfirst, hbefore⟩⟩

/-- Rows that do not match are passed over. -/
theorem findUser_of_unmatched (answers : p.verifier.Answers) {rows : List Record}
    (unmatched : ∀ row ∈ rows, ¬ Matches p c auth a row) (more : List Record)
    (said : List Notice) :
    ∃ later, findUser p.verifier auth (a.emailIn c.form) (a.passwordIn c.form) (rows ++ more) said =
      findUser p.verifier auth (a.emailIn c.form) (a.passwordIn c.form) more later := by
  induction rows generalizing said with
  | nil => exact ⟨said, rfl⟩
  | cons row rest ih =>
    obtain ⟨hrow, hrest⟩ := List.forall_mem_cons.mp unmatched
    rw [List.cons_append, findUser]
    by_cases hemail : (column row auth.emailField).same (a.emailIn c.form) = true
    · -- the email is this one, so it is the password that is another
      obtain ⟨declined, hdeclined⟩ := answers.declines fun haccepts => hrow ⟨hemail, haccepts⟩
      rw [hemail, hdeclined]
      exact ih hrest (said ++ declined)
    · rw [Bool.eq_false_iff.mpr hemail]
      exact ih hrest said

theorem FirstMatch.findUser_eq (answers : p.verifier.Answers) {user : Record}
    (h : FirstMatch p c auth a user) :
    ∃ notices, findUser p.verifier auth (a.emailIn c.form) (a.passwordIn c.form)
      (c.store.rows auth.userTable) [] = .found user notices := by
  obtain ⟨before, after, hrows, ⟨hemail, accepted, haccepted⟩, hbefore⟩ := h
  obtain ⟨later, hlater⟩ := findUser_of_unmatched answers hbefore (user :: after) []
  refine ⟨later ++ accepted, ?_⟩
  rw [hrows, hlater, findUser, hemail, haccepted]
  rfl

theorem login_of_unfilled (configured : p.definition.authentication = some auth)
    (unfilled : isFilled (a.emailIn c.form) = false) : LeftOut p c a := by
  refine ⟨[.loginFailed], ?_⟩
  change p.login c a = _
  obtain ⟨fields, onError, extra⟩ := a
  unfold SignIn.emailIn at unfilled
  unfold login
  simp only [configured, unfilled]
  rfl

theorem logsIn_of_firstMatch (configured : p.definition.authentication = some auth)
    (answers : p.verifier.Answers) (given : a.emailIn c.form ≠ .null ∧ a.emailIn c.form ≠ .str "")
    {user : Record} (h : FirstMatch p c auth a user) : LogsIn p c auth a user := by
  obtain ⟨notices, hfound⟩ := h.findUser_eq answers
  exact login_of_found configured (isFilled_iff.mpr given) hfound

theorem leftOut_of_unknown (configured : p.definition.authentication = some auth)
    (answers : p.verifier.Answers) (h : ¬ Known p c auth a) : LeftOut p c a := by
  cases hfilled : isFilled (a.emailIn c.form) with
  | false => exact login_of_unfilled configured hfilled
  | true =>
    have hunmatched : ∀ row ∈ c.store.rows auth.userTable, ¬ Matches p c auth a row :=
      fun row hrow hmatches => h ⟨isFilled_iff.mp hfilled, row, hrow, hmatches⟩
    obtain ⟨later, hlater⟩ := findUser_of_unmatched answers hunmatched [] []
    rw [List.append_nil] at hlater
    exact login_of_nobody configured hfilled hlater

theorem LogsIn.enters {user : Record} (h : LogsIn p c auth a user) (allowance : Nat) :
    Enters c auth a user (p.run (allowance + 1) (.login a) c) := by
  obtain ⟨notices, hperform⟩ := h
  have hends : Next.finished = .ofSlot .absent := rfl
  rw [run_of_slot hperform hends allowance]
  constructor <;> rfl

/-- With a verifier that answers, a login lets in the first row that matches, if somebody with an
email is logging in and a row does, and otherwise it is refused: nothing changes, and the
follow-up for errors is dispatched once. Where secrets are stored as they are, a password is
accepted if it and what is stored are the same text. -/
theorem login_lets_in_first_match (configured : p.definition.authentication = some auth)
    (answers : p.verifier.Answers) (c : Context) (a : SignIn) (allowance : Nat) :
    (Known p c auth a → ∃ user, FirstMatch p c auth a user ∧
      Enters c auth a user (p.run (allowance + 1) (.login a) c)) ∧
    (¬ Known p c auth a →
      Refuses p c (.login a) a.onError allowance (p.run (allowance + 1) (.login a) c)) ∧
    ∀ plain saved : Json, Verifier.plaintext.Accepts plain saved ↔
      ∃ text, plain = .str text ∧ saved = .str text := by
  refine ⟨fun hknown => ?_, fun hunknown => ?_, fun plain saved => Verifier.plaintext_accepts_iff⟩
  · obtain ⟨user, hfirst⟩ := hknown.exists_firstMatch
    have hlogs := logsIn_of_firstMatch configured answers hknown.given hfirst
    exact ⟨user, hfirst, hlogs.enters allowance⟩
  · obtain ⟨notices, hperform⟩ := leftOut_of_unknown configured answers hunknown
    exact ⟨notices, run_of_refused hperform allowance⟩

def twin (id : String) : Record :=
  [("mail", .str "ada@club"), ("secret", .str "pass"), ("id", .str id)]

/-- Four members: one with the mail address and another secret, one without any column, and two
that match. -/
def twinContext : Context :=
  { clubContext with
    store := ⟨[("members",
      [[("mail", .str "ada@club"), ("secret", .str "other"), ("id", .str "1")],
       [("id", .str "2")], twin "3", twin "4"])]⟩ }

/-- Of two that match the one in front is let in. -/
theorem first_twin_let_in :
    Known (club .plaintext) twinContext clubAuthentication (clubSignIn []) ∧
      (∃ user, FirstMatch (club .plaintext) twinContext clubAuthentication (clubSignIn []) user ∧
        Enters twinContext clubAuthentication (clubSignIn []) user
          ((club .plaintext).run 16 (.login (clubSignIn [])) twinContext)) ∧
      ((club .plaintext).run 16 (.login (clubSignIn [])) twinContext).context.session =
        some ⟨twin "3"⟩ := by
  have hgiven : (clubSignIn []).emailIn twinContext.form ≠ .str "" := fun heq =>
    absurd (Json.str.inj heq) (by decide)
  have hmatches : Matches (club .plaintext) twinContext clubAuthentication (clubSignIn [])
      (twin "4") := ⟨rfl, [], rfl⟩
  have hstored : twin "4" ∈ twinContext.store.rows clubAuthentication.userTable :=
    List.mem_of_getElem? (i := 3) rfl
  have hknown : Known (club .plaintext) twinContext clubAuthentication (clubSignIn []) :=
    ⟨⟨Json.noConfusion, hgiven⟩, twin "4", hstored, hmatches⟩
  have hcontract := @login_lets_in_first_match (club .plaintext) clubAuthentication rfl
    Verifier.plaintext_answers twinContext (clubSignIn []) 15
  exact ⟨hknown, hcontract.1 hknown, rfl⟩

end Storyboard.Performer
