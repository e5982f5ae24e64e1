import Storyboard.App.Performer
import Storyboard.Proofs.Records.Writes

/-!
# What one action can do to the context

`Change` lists the contexts an action can lead to, with what is known when it does;
`perform_changes` says that there are no others. Properties of steps are proved from
this list and not from the handlers.
-/
namespace Storyboard

namespace Performer

/-- An action may lead from a context to another. -/
inductive Change (p : Performer) (c : Context) : Action → Context → Prop
  | unchanged (a : Action) (kept : a.kind ≠ .logout) : Change p c a c
  | navigated (a : Navigate) : Change p c (.navigate a) (c.navigate a.target)
  | wentBack (a : GoBack) : Change p c (.goBack a) (c.navigate p.definition.initialScreen)
  | filled (a : SetValue) :
    Change p c (.setValue a) { c with form := c.form.put (.id a.targetId) (a.value.getD .null) }
  | submitted (a : Submit) (table : String) (fields : Assoc String) (row : Record) (store : Store)
    (supply : Supply)
    (inserted : (c.store.ensureTables [table]).insert c.supply table
      (submittedRecord c.form fields) = .ok (row, store, supply)) :
    Change p c (.submit a)
      { c with store, supply, form := c.form.clear (fields.map (·.2)) }
  | submitFailed (a : Submit) (table : String) (fields : Assoc String)
    (deep : (Json.obj (submittedRecord c.form fields)).copies = false) :
    Change p c (.submit a) { c with store := c.store.ensureTables [table] }
  | deleted (a : DeleteRecord) :
    Change p c (.deleteRecord a) { c with store := (c.store.delete a.table a.recordId.toJson).2 }
  | loggedIn (a : SignIn) (auth : Authentication) (user : Record)
    (configured : p.definition.authentication = some auth)
    (stored : user ∈ c.store.rows auth.userTable)
    (email : (column user auth.emailField).same (Form.value c.form a.fields.email) = true)
    (password : ∃ notices, p.verifier.compare (Form.value c.form a.fields.password)
      (column user auth.passwordField) = .done true notices) :
    Change p c (.login a) (c.enter user auth.postLoginScreen)
  | signedUp (a : SignIn) (auth : Authentication) (user row : Record) (store : Store)
    (supply : Supply) (configured : p.definition.authentication = some auth)
    (inserted : (c.store.ensureTables [auth.userTable]).insert c.supply auth.userTable user =
      .ok (row, store, supply)) :
    Change p c (.signup a) (({ c with store, supply } : Context).enter row auth.postLoginScreen)
  | signupFailed (a : SignIn) (auth : Authentication) (user : Record)
    (configured : p.definition.authentication = some auth)
    (deep : (Json.obj user).copies = false) :
    Change p c (.signup a) { c with store := c.store.ensureTables [auth.userTable] }
  | loggedOut (a : Logout) : Change p c (.logout a) c.logout
  | sentHome (a : Logout) :
    Change p c (.logout a) (c.logout.navigate p.definition.initialScreen)

variable {p : Performer} {c : Context}

theorem submitToTable_changes (a : Submit) (table : String) (fields : Assoc String)
    (onSuccess onError : Slot Action) :
    Change p c (.submit a) (p.submitToTable c table fields onSuccess onError).context := by
  have hsame : Change p c (.submit a) c := .unchanged _ (by simp [Action.kind])
  unfold submitToTable
  split
  · exact hsame
  · dsimp only
    split
    · rename_i hfault
      exact .submitFailed a table fields (Store.insert_created_eq_error hfault)
    · rename_i row store supply hi
      exact .submitted a table fields row store supply hi

theorem submit_changes (a : Submit) : Change p c (.submit a) (p.submit c a).context := by
  have hsame : Change p c (.submit a) c := .unchanged _ (by simp [Action.kind])
  unfold submit
  split
  split
  · split
    · split
      · exact hsame
      · exact submitToTable_changes _ _ _ _ _
    · exact hsame
  · split <;> exact hsame

theorem deleteRecord_changes (a : DeleteRecord) :
    Change p c (.deleteRecord a) (deleteRecord c a).context := by
  unfold deleteRecord
  split
  · exact .deleted a
  · exact .unchanged _ (by simp [Action.kind])

/-- The user a search finds has the email, and the verifier accepts the password. -/
theorem findUser_found {verifier : Verifier} {auth : Authentication} {email password : Json}
    {rows : List Record} {before notices : List Notice} {user : Record}
    (h : findUser verifier auth email password rows before = .found user notices) :
    user ∈ rows ∧ (column user auth.emailField).same email = true ∧
      ∃ said, verifier.compare password (column user auth.passwordField) = .done true said := by
  induction rows generalizing before with
  | nil => cases h
  | cons row rest ih =>
    have later : ∀ {said : List Notice},
        findUser verifier auth email password rest said = .found user notices →
          user ∈ row :: rest ∧ (column user auth.emailField).same email = true ∧
            ∃ said, verifier.compare password (column user auth.passwordField) =
              .done true said := by
      intro said hrest
      obtain ⟨hmem, hfound⟩ := ih hrest
      exact ⟨List.mem_cons_of_mem _ hmem, hfound⟩
    unfold findUser at h
    split at h
    · rename_i hemail
      split at h
      · cases h
      · rename_i said haccepted
        cases h
        exact ⟨List.mem_cons_self, hemail, said, haccepted⟩
      · exact later h
    · exact later h

theorem login_changes (a : SignIn) : Change p c (.login a) (p.login c a).context := by
  have hsame : Change p c (.login a) c := .unchanged _ (by simp [Action.kind])
  unfold login
  split
  split
  · exact hsame
  · rename_i auth hauth
    dsimp only
    split
    · rename_i user notices hsearch
      split at hsearch
      · obtain ⟨hstored, hemail, hpassword⟩ := findUser_found hsearch
        exact .loggedIn _ auth user hauth hstored hemail hpassword
      · cases hsearch
    · exact hsame
    · exact hsame

theorem signup_changes (a : SignIn) : Change p c (.signup a) (p.signup c a).context := by
  have hsame : Change p c (.signup a) c := .unchanged _ (by simp [Action.kind])
  unfold signup
  split
  split
  · exact hsame
  · rename_i auth hauth
    dsimp only
    split
    · exact hsame
    split
    · exact hsame
    split
    · exact hsame
    · exact hsame
    · rename_i user _
      split
      · rename_i hfault
        exact .signupFailed _ auth user hauth (Store.insert_created_eq_error hfault)
      · rename_i row store supply hi
        exact .signedUp _ auth user row store supply hauth hi

theorem logout_changes (a : Logout) : Change p c (.logout a) (p.logout c a).context := by
  unfold logout
  split
  · exact .loggedOut _
  · exact .sentHome a

/-- An action leads to one of the listed contexts. -/
theorem perform_changes (p : Performer) (c : Context) (a : Action) :
    Change p c a (p.perform c a).context := by
  cases a with
  | navigate a => exact .navigated a
  | goBack a => exact .wentBack a
  | popup a => exact .unchanged _ (by simp [Action.kind])
  | openUrl a => exact .unchanged _ (by simp [Action.kind])
  | setValue a => exact .filled a
  | submit a => exact submit_changes a
  | deleteRecord a => exact deleteRecord_changes a
  | login a => exact login_changes a
  | signup a => exact signup_changes a
  | logout a => exact logout_changes a

end Performer

end Storyboard
