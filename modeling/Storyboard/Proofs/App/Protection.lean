import Storyboard.Proofs.App.History
import Storyboard.Proofs.App.Step

/-!
# Protected screens

A protected screen is seen only in a session, the redirect screen aside, and a session
has a reason: the last login or signup of the run, with no logout behind it. The
session is the user's record as that action found or appended it.
-/
namespace Storyboard

namespace Definition

theorem view_screen {d : Definition} {asked : Option String} {id : String} {screen : Screen}
    (h : d.view asked = .screen id screen) : asked = some id := by
  unfold view at h
  split at h
  · cases h
  · repeat' split at h
    all_goals cases h
    rfl

/-- Without a session, a protected screen is seen only where a redirect leads. -/
theorem session_of_protected {d : Definition} {asked : Option String} {session : Option Session}
    {id : String} {screen : Screen} (h : (d.resolve asked session).1.view = .screen id screen)
    (hp : screen.isProtected = true)
    (hr : d.authentication.map (·.authRedirectScreen) ≠ some id) : session.isSome = true := by
  unfold resolve at h
  split at h
  · split at h
    · rename_i hopen
      cases h
      simpa [hp] using hopen
    · split at h
      · cases h
      · rename_i auth hauth
        rw [hauth] at hr
        exact absurd (view_screen h) hr
  · rename_i hview
    exact absurd h (hview id screen)

end Definition

namespace Execution

/-- An execution logs a user in: by a login that found the record among the rows of the
user table, with the email of the form and a password the verifier accepts, or by a
signup that appended the record to that table. -/
inductive LogsIn (e : Execution) (user : Record) : Prop
  | login (a : SignIn) (auth : Authentication) (action : e.action = .login a)
    (configured : e.performer.definition.authentication = some auth)
    (stored : user ∈ e.before.store.rows auth.userTable)
    (email : (Performer.column user auth.emailField).same
      (Form.value e.before.form a.fields.email) = true)
    (password : ∃ notices, e.performer.verifier.compare
      (Form.value e.before.form a.fields.password)
      (Performer.column user auth.passwordField) = .done true notices)
    (session : e.after.session = some ⟨user⟩)
  | signup (a : SignIn) (auth : Authentication) (action : e.action = .signup a)
    (configured : e.performer.definition.authentication = some auth)
    (appended : e.after.store.rows auth.userTable =
      e.before.store.rows auth.userTable ++ [user])
    (session : e.after.session = some ⟨user⟩)

theorem LogsIn.session_eq {e : Execution} {user : Record} (h : e.LogsIn user) :
    e.after.session = some ⟨user⟩ := by
  cases h <;> assumption

/-- An execution logs a user in, or ends the session, or leaves it alone. -/
theorem session_cases (e : Execution) :
    (∃ user, e.LogsIn user) ∨ (e.action.kind = .logout ∧ e.after.session = none) ∨
      (e.action.kind ≠ .logout ∧ e.after.session = e.before.session) := by
  obtain ⟨p, action, c⟩ := e
  have hc := p.perform_changes c action
  generalize ha : (p.perform c action).context = after at hc
  have hs : (⟨p, action, c⟩ : Execution).after.session = after.session :=
    congrArg Context.session ha
  cases hc with
  | unchanged _ kept => exact .inr (.inr ⟨kept, hs⟩)
  | navigated a => exact .inr (.inr ⟨by simp [Action.kind], hs⟩)
  | wentBack a => exact .inr (.inr ⟨by simp [Action.kind], hs⟩)
  | filled a => exact .inr (.inr ⟨by simp [Action.kind], hs⟩)
  | submitted a => exact .inr (.inr ⟨by simp [Action.kind], hs⟩)
  | submitFailed a => exact .inr (.inr ⟨by simp [Action.kind], hs⟩)
  | deleted a => exact .inr (.inr ⟨by simp [Action.kind], hs⟩)
  | loggedIn a auth user configured stored email password =>
    exact .inl ⟨user, .login a auth rfl configured stored email password hs⟩
  | signedUp a auth user row store supply configured inserted =>
    refine .inl ⟨row, .signup a auth rfl configured ?_ hs⟩
    have hrows := Store.rows_insert inserted auth.userTable
    rw [if_pos rfl, Store.rows_ensureTables] at hrows
    exact (congrArg (fun c => c.store.rows auth.userTable) ha).trans hrows
  | signupFailed a => exact .inr (.inr ⟨by simp [Action.kind], hs⟩)
  | loggedOut a => exact .inr (.inl ⟨rfl, hs⟩)
  | sentHome a => exact .inr (.inl ⟨rfl, hs⟩)

end Execution

/-- The last login or signup of a history logged the user in, and no logout came behind
it. -/
def LastLogin (past : List Execution) (user : Record) : Prop :=
  ∃ earlier e later, past = earlier ++ e :: later ∧ e.LogsIn user ∧
    ∀ x ∈ later, (∀ other, ¬ x.LogsIn other) ∧ x.action.kind ≠ .logout

theorem LastLogin.of_logsIn (past : List Execution) {e : Execution} {user : Record}
    (h : e.LogsIn user) : LastLogin (past ++ [e]) user :=
  ⟨past, e, [], rfl, h, by simp⟩

theorem LastLogin.append {past : List Execution} {user : Record} (h : LastLogin past user)
    {e : Execution} (hl : ∀ other, ¬ e.LogsIn other) (hk : e.action.kind ≠ .logout) :
    LastLogin (past ++ [e]) user := by
  obtain ⟨earlier, last, later, rfl, hlast, hlater⟩ := h
  refine ⟨earlier, last, later ++ [e], by simp, hlast, ?_⟩
  intro x hx
  rcases List.mem_append.mp hx with hx | hx
  · exact hlater x hx
  · rw [List.mem_singleton.mp hx]
    exact ⟨hl, hk⟩

/-- Every session has a last login behind it. -/
theorem lastLogin_lasting :
    Lasting fun past c => ∀ s, c.session = some s → LastLogin past s.user where
  perform {past c} p action h := by
    intro s hs
    let e : Execution := ⟨p, action, c⟩
    change e.after.session = some s at hs
    by_cases hl : ∃ user, e.LogsIn user
    · obtain ⟨user, hu⟩ := hl
      rw [hu.session_eq] at hs
      cases hs
      exact .of_logsIn past hu
    · rcases e.session_cases with hu | ⟨-, hnone⟩ | ⟨hk, hsame⟩
      · exact absurd hu hl
      · rw [hnone] at hs
        cases hs
      · rw [hsame] at hs
        exact (h s hs).append (not_exists.mp hl) hk
  navigate _ h := h
  form _ h := h
  ensureTables _ h := h

theorem App.session_ofDefinition {settings : Settings} {verifier : Verifier} {supply : Supply}
    {definition : Definition} {seed : Assoc Json} {app : App} {notices : List Notice}
    (h : ofDefinition settings verifier supply definition seed = .ok (app, notices)) :
    app.context.session = none := by
  unfold ofDefinition at h
  split at h <;> cases h
  rfl

/-- Whatever a host does with an app: when the current screen is protected, and is not
the one that redirects lead to, somebody is logged in, and it is the user of the last
login or signup, with no logout behind it. -/
theorem protected_screen_has_login {settings : Settings} {verifier : Verifier} {supply : Supply}
    {definition : Definition} {seed : Assoc Json} {app : App} {notices : List Notice}
    (started : App.ofDefinition settings verifier supply definition seed = .ok (app, notices))
    (ops : List App.Operation) {id : String} {screen : Screen}
    (seen : (app.after ops).currentScreen.1.view = .screen id screen)
    (guarded : screen.isProtected = true)
    (elsewhere : (app.after ops).definition.authentication.map (·.authRedirectScreen) ≠ some id) :
    ∃ user, (app.after ops).context.session = some ⟨user⟩ ∧ LastLogin (app.history ops) user := by
  have hsome := Definition.session_of_protected seen guarded elsewhere
  obtain ⟨s, hs⟩ := Option.isSome_iff_exists.mp hsome
  have hnone := App.session_ofDefinition started
  have hrun := lastLogin_lasting.run app
    (fun s h => by rw [hnone] at h; cases h) ops
  exact ⟨s.user, hs, hrun s hs⟩

/-- Notes behind a login: the protected home screen redirects to the welcome screen. -/
def notesDefinition : Definition where
  version := "1"
  app := ⟨"Notes", .absent, .absent, .absent,
    .value ⟨true, "users", "email", "password", "home", "welcome", []⟩, []⟩
  screens := [("home", ⟨.absent, .absent, some true, .absent, none, []⟩),
    ("welcome", ⟨.absent, .absent, none, .absent, none, []⟩)]
  initialScreen := "home"
  extra := []

def notesSeed : Assoc Json :=
  [("users", .arr [.obj [("id", .int 7), ("email", .str "ada"), ("password", .str "pass")]])]

/-- Filling in the form and logging in with it. -/
def notesLogin : List App.Operation :=
  [.currentScreen,
   .setForm (.obj [("name", .str "ada"), ("word", .str "pass")]),
   .dispatch .scheduled (.obj [("type", .str "auth:login"),
    ("fields", .obj [("email", .str "name"), ("password", .str "word")])])]

/-- After a login the protected screen is seen, and the login accounts for it. -/
theorem notes_home_has_login :
    ∃ app notices screen,
      App.ofDefinition .default .plaintext ⟨.counter, 0⟩ notesDefinition notesSeed =
        .ok (app, notices) ∧
      (app.after notesLogin).currentScreen.1.view = .screen "home" screen ∧
      screen.isProtected = true ∧
      (app.after notesLogin).definition.authentication.map (·.authRedirectScreen) ≠ some "home" ∧
      ∃ user, (app.after notesLogin).context.session = some ⟨user⟩ ∧
        LastLogin (app.history notesLogin) user := by
  have hguard : some "welcome" ≠ some "home" := by decide
  refine ⟨_, _, _, rfl, rfl, rfl, hguard, ?_⟩
  exact @protected_screen_has_login .default .plaintext ⟨.counter, 0⟩ notesDefinition notesSeed
    _ _ rfl notesLogin _ _ rfl rfl hguard

end Storyboard
