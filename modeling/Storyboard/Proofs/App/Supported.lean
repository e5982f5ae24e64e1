import Storyboard.Proofs.App.Sequel
import Storyboard.Proofs.App.Step
import Storyboard.Proofs.App.Stepwise
import Storyboard.Proofs.Document.Soundness
import Storyboard.Screen.AuthForms

/-!
# Apps of sound documents

Validation searches a document for names that nothing answers to. In an app whose document
has none, the branches that are there for such names are dead: the active screen is always
known, and no action is about a table that is not there.
-/
namespace Storyboard

/-- A carrier's other side may say a notice. -/
def Carrier.Says (n : Notice) : Carrier → Prop
  | .inline submitter => ∃ number posting, n ∈ (submitter.send number posting).notices
  | .scheduled => False

namespace App.Operation

/-- The carrier of an operation. -/
def carrier? : Operation → Option Carrier
  | .dispatch carrier _ => some carrier
  | .perform carrier _ => some carrier
  | .dismiss carrier _ => some carrier
  | _ => none

/-- What a document offers to its users: its actions, the built-in forms, the buttons of
popups and the form. -/
inductive Offered (d : Definition) : Operation → Prop
  | action (carrier : Carrier) {a : Action} (offered : d.Offers a) : Offered d (.perform carrier a)
  | submitForm (carrier : Carrier) (form : AuthForm) : Offered d (.perform carrier form.submit)
  | switchForm (carrier : Carrier) (form : AuthForm) : Offered d (.perform carrier form.switch)
  | dismiss (carrier : Carrier) (index : Int) : Offered d (.dismiss carrier index)
  | setForm (values : Json) : Offered d (.setForm values)
  | currentScreen : Offered d .currentScreen
  | settle : Offered d .settle
  | answer (number : Nat) (outcome : Outcome) : Offered d (.answer number outcome)

/-- A notice may be said by the verifier or the other side of a carrier. -/
def Hearsay (verifier : Verifier) (ops : List Operation) (n : Notice) : Prop :=
  verifier.Says n ∨ ∃ op ∈ ops, ∃ carrier ∈ op.carrier?, carrier.Says n

end App.Operation

/-- The actions a shown popup offers stand behind the buttons of the popup. -/
theorem ShownPopup.offers_ofPopup {text : String} {a : Popup} {b : Action}
    (h : (ofPopup text a).Offers b) : b ∈ (Action.popup a).presses := by
  obtain ⟨title, message, style, buttons, extra⟩ := a
  obtain ⟨shown, hshown, hb⟩ := h
  unfold ofPopup at hshown
  dsimp only at hshown
  split at hshown
  · rw [List.mem_singleton.mp hshown] at hb
    cases hb
  · obtain ⟨button, hbutton, rfl⟩ := List.mem_map.mp hshown
    obtain ⟨text, style, action, extra⟩ := button
    exact Action.mem_presses.mpr ⟨_, hbutton, hb⟩

namespace Definition

variable {d : Definition}

theorem view_known {id : String} (named : d.namesScreen id = true) :
    (d.view (some id)).reason? ≠ some .unknownScreen := by
  unfold view
  dsimp only
  split
  · nofun
  split
  · nofun
  split
  · nofun
  rename_i hlogin hsignup
  cases hscreen : d.screen? id with
  | some screen => nofun
  | none =>
    unfold namesScreen at named
    unfold screen? at hscreen
    simp [Assoc.has, hscreen, hlogin, hsignup] at named

/-- A known screen is resolved if redirects lead to a known one. -/
theorem resolve_known {id : String} (sound : d.Sound) (named : d.namesScreen id = true)
    (session : Option Session) :
    (d.resolve (some id) session).1.view.reason? ≠ some .unknownScreen := by
  have hview := view_known named
  unfold resolve
  split
  · split
    · nofun
    · split
      · nofun
      · rename_i auth hauth
        exact view_known (sound.redirect auth hauth)
  · exact hview

@[simp] theorem view_id (d : Definition) (id : Option String) : (d.view id).id = id := by
  unfold view
  split
  · rfl
  · repeat' split
    all_goals rfl

/-- A redirect leads to the screen that the authentication settings name. -/
theorem redirect_of_resolve {id : Option String} {session : Option Session} {origin : String}
    (h : (d.resolve id session).1.redirectedFrom = some origin) :
    ∃ auth ∈ d.authentication,
      (d.resolve id session).1.view.id = some auth.authRedirectScreen := by
  unfold resolve at h ⊢
  split at h
  · split at h
    · cases h
    · split at h
      · cases h
      · rename_i hguarded _ auth hauth
        rw [if_neg hguarded, hauth]
        exact ⟨auth, rfl, d.view_id (some auth.authRedirectScreen)⟩
  · cases h

/-- Resolving a screen says nothing but that there is no authentication. -/
theorem notices_of_resolve {id : Option String} {session : Option Session} {n : Notice}
    (h : n ∈ (d.resolve id session).2) : n.isUnknownTable = false := by
  unfold resolve at h
  split at h
  · split at h
    · cases h
    · split at h
      · rw [List.mem_singleton.mp h]
        rfl
      · cases h
  · cases h

end Definition

namespace AuthForm

variable (d : Definition) (form : AuthForm)

theorem refusal_supported : d.Supports form.refusal := by
  cases form <;> exact .mk trivial (List.forall_mem_nil _) (List.forall_mem_nil _)

/-- The built-in forms need nothing of a document. -/
theorem submit_supported : d.Supports form.submit := by
  have hrefusal := form.refusal_supported d
  cases form with
  | login =>
    refine .mk trivial (fun b hb => ?_) (List.forall_mem_nil _)
    cases Action.mem_branches_login.mp hb
    exact hrefusal
  | signup =>
    refine .mk trivial (fun b hb => ?_) (List.forall_mem_nil _)
    cases Action.mem_branches_signup.mp hb
    exact hrefusal

theorem switch_supported : d.Supports form.switch := by
  have hnamed : d.namesScreen form.other.screenId = true := by
    cases form <;> simp [Definition.namesScreen, other, screenId]
  exact .mk hnamed (List.forall_mem_nil _) (List.forall_mem_nil _)

end AuthForm

/-- What is known of everything an app of a sound document runs. -/
def Regime.supported (d : Definition) (verifier : Verifier) (hearsay : Notice → Prop) : Regime where
  performer p := p.definition = d ∧ p.verifier = verifier
  context c := d.namesScreen c.screen = true ∧ ∀ table ∈ d.tableNames, c.store.hasTable table = true
  action := d.Supports
  submit r := ∀ outcome, ∀ a ∈ r.followUp outcome, d.Supports a
  notice n := n.isUnknownTable = true → hearsay n

namespace Regime

variable {d : Definition} {verifier : Verifier} {hearsay : Notice → Prop}

/-- An action that is supported leads to a known screen and drops no table. -/
theorem supported_context (sound : d.Sound) {p : Performer} (hp : p.definition = d)
    {c after : Context} {a : Action} (h : p.Change c a after) (ha : d.Supports a)
    (hc : (supported d verifier hearsay).context c) :
    (supported d verifier hearsay).context after := by
  obtain ⟨hscreen, htables⟩ := hc
  subst hp
  have hensured : ∀ (table : String), ∀ other ∈ p.definition.tableNames,
      (c.store.ensureTables [table]).hasTable other = true := by
    intro table other hother
    rw [Store.hasTable_ensureTables, htables other hother, Bool.true_or]
  cases h with
  | unchanged => exact ⟨hscreen, htables⟩
  | navigated a =>
    obtain ⟨own, -, -⟩ := ha
    exact ⟨own, htables⟩
  | wentBack a => exact ⟨sound.initial, htables⟩
  | filled a => exact ⟨hscreen, htables⟩
  | submitted a table fields row store supply inserted =>
    exact ⟨hscreen,
      fun other hother => Store.hasTable_insert inserted (hensured table other hother)⟩
  | submitFailed a table => exact ⟨hscreen, hensured table⟩
  | deleted a =>
    exact ⟨hscreen, fun other hother => Store.hasTable_delete _ _ (htables other hother)⟩
  | loggedIn a auth user configured => exact ⟨sound.login auth configured, htables⟩
  | signedUp a auth user row store supply configured inserted =>
    exact ⟨sound.login auth configured,
      fun other hother => Store.hasTable_insert inserted (hensured _ other hother)⟩
  | signupFailed a auth => exact ⟨hscreen, hensured auth.userTable⟩
  | loggedOut a => exact ⟨hscreen, htables⟩
  | sentHome a => exact ⟨sound.initial, htables⟩

/-- A notice about a table that is not there is not the app's own. -/
theorem supported_remark {p : Performer} (hp : (supported d verifier hearsay).performer p)
    (heard : ∀ n, verifier.Says n → hearsay n) {c : Context} {a : Action} {n : Notice}
    (h : p.Remark c a n) (ha : d.Supports a) (hc : (supported d verifier hearsay).context c) :
    (supported d verifier hearsay).notice n := by
  obtain ⟨rfl, rfl⟩ := hp
  obtain ⟨own, -, -⟩ := ha
  intro hn
  cases h with
  | verifier _ said => exact heard n said
  | submit a named missing undeclared => exact absurd (own _ (named ▸ rfl)) undeclared
  | delete a missing =>
    rw [hc.2 _ own] at missing
    cases missing
  | routine _ table =>
    rw [table] at hn
    cases hn

theorem supported_keeps (sound : d.Sound) (heard : ∀ n, verifier.Says n → hearsay n)
    {p : Performer} {a : Action} {c : Context} (hp : (supported d verifier hearsay).performer p)
    (ha : d.Supports a) (hc : (supported d verifier hearsay).context c) :
    (supported d verifier hearsay).Keeps (p.perform c a) := by
  have hcontext : (supported d verifier hearsay).context (p.perform c a).context :=
    supported_context sound hp.1 (p.perform_changes c a) ha hc
  have hsequel := p.perform_sequel c a
  have hremarks : ∀ {notices : List Notice}, (∀ n ∈ notices, p.Remark c a n) →
      ∀ n ∈ notices, (supported d verifier hearsay).notice n := fun remarks n hn =>
    supported_remark hp heard (remarks n hn) ha hc
  obtain ⟨-, branches, presses⟩ := ha
  generalize p.perform c a = step at hcontext hsequel ⊢
  obtain ⟨context, effects, notices, next⟩ := step
  cases hsequel with
  | finished _ remarks => exact ⟨hcontext, nofun, hremarks remarks, nofun, nofun⟩
  | branch _ b remarks inside =>
    refine ⟨hcontext, nofun, hremarks remarks, ?_, nofun⟩
    rintro _ ⟨⟩
    exact branches b inside
  | sent a endpoint =>
    refine ⟨hcontext, nofun, nofun, nofun, ?_⟩
    rintro _ _ ⟨⟩ form allowance outcome b hb
    exact branches b (RemoteSubmit.followUp_ofAction hb)
  | shown a =>
    refine ⟨hcontext, List.forall_mem_singleton.mpr ?_, nofun, nofun, nofun⟩
    rintro _ ⟨⟩ b hb
    exact presses b (ShownPopup.offers_ofPopup hb)
  | opened a url =>
    exact ⟨hcontext, List.forall_mem_singleton.mpr nofun, nofun, nofun, nofun⟩

/-- Adopting a redirect keeps the active screen known. -/
theorem supported_screen (sound : d.Sound) {app : App}
    (hp : (supported d verifier hearsay).performer app.performer)
    (hc : (supported d verifier hearsay).context app.context) :
    (supported d verifier hearsay).context app.currentScreen.2.1.context := by
  obtain ⟨rfl, rfl⟩ := hp
  refine ⟨?_, hc.2⟩
  simp only [App.currentScreen, Context.navigate]
  split
  · rename_i origin id horigin hid
    obtain ⟨auth, hauth, hredirect⟩ := Definition.redirect_of_resolve horigin
    cases hid.symm.trans hredirect
    split
    · exact hc.1
    · exact sound.redirect auth hauth
  · exact hc.1

theorem supported_stepwise (sound : d.Sound) (heard : ∀ n, verifier.Says n → hearsay n) :
    (supported d verifier hearsay).Stepwise where
  step := supported_keeps sound heard
  branch hr := hr
  cut _ := nofun
  outcome r outcome := by
    cases outcome <;> simp [RemoteSubmit.outcomeNotices, supported, Notice.isUnknownTable]
  form _ hc := hc
  screen hp hc := ⟨supported_screen sound hp hc, fun n hn hunknown => by
    rw [Definition.notices_of_resolve hn] at hunknown
    cases hunknown⟩
  listener := nofun

/-- What a document offers keeps within its regime. -/
theorem supported_admits (sound : d.Sound) {ops : List App.Operation}
    (heard : ∀ op ∈ ops, ∀ carrier ∈ op.carrier?, ∀ n, carrier.Says n → hearsay n)
    (offered : ∀ op ∈ ops, op.Offered d) :
    ∀ op ∈ ops, ∀ app, (supported d verifier hearsay).Governs app →
      (supported d verifier hearsay).Admits app op := by
  intro op hop app _
  have hears : ∀ carrier ∈ op.carrier?, (supported d verifier hearsay).Hears carrier := by
    intro carrier hcarrier
    cases carrier with
    | inline submitter =>
      exact fun number posting n hn _ => heard op hop _ hcarrier n ⟨number, posting, hn⟩
    | scheduled => trivial
  have hoffered := offered op hop
  cases hoffered with
  | action carrier h => exact ⟨hears carrier rfl, sound.actions _ h⟩
  | submitForm carrier form => exact ⟨hears carrier rfl, form.submit_supported d⟩
  | switchForm carrier form => exact ⟨hears carrier rfl, form.switch_supported d⟩
  | dismiss carrier index => exact hears carrier rfl
  | setForm values => trivial
  | currentScreen => trivial
  | settle => trivial
  | answer number outcome => trivial

/-- An app of a sound document starts within its regime. -/
theorem supported_start (sound : d.Sound) {settings : Settings} {supply : Supply}
    {seed : Assoc Json} {app : App} {notices : List Notice}
    (started : App.ofDefinition settings verifier supply d seed = .ok (app, notices)) :
    (supported d verifier hearsay).Governs app := by
  unfold App.ofDefinition at started
  split at started
  · cases started
  · rename_i seeded _
    cases started
    refine ⟨⟨rfl, rfl⟩, ⟨sound.initial, fun table htable => ?_⟩, nofun, .none⟩
    change (seeded.store.ensureTables d.tableNames).hasTable table = true
    rw [Store.hasTable_ensureTables, List.contains_iff_mem.mpr htable, Bool.or_true]

end Regime

/-- An app whose document was accepted without a warning, whatever a host does with what the
document offers: the active screen is known after every operation and after every action, and
nothing is ever said about a table that is not there, hearsay aside. -/
theorem accepted_document_never_degrades {data : Json} {v : Validation} {d : Definition}
    (validated : Validation.ofJson data = .ok v) (accepted : v.definition = some d)
    (clean : v.warnings = []) {settings : Settings} {verifier : Verifier} {supply : Supply}
    {seed : Assoc Json} {app : App} {notices : List Notice}
    (started : App.ofDefinition settings verifier supply d seed = .ok (app, notices))
    (ops : List App.Operation) (offered : ∀ op ∈ ops, op.Offered d) :
    let now := app.after ops
    (now.resolve (some now.context.screen)).1.view.reason? ≠ some .unknownScreen ∧
      (∀ e ∈ app.history ops,
        (d.resolve (some e.after.screen) e.after.session).1.view.reason? ≠ some .unknownScreen) ∧
      ∀ n ∈ app.said ops, n.isUnknownTable = true → App.Operation.Hearsay verifier ops n := by
  have sound := Definition.sound_of_accepted validated accepted clean
  let R := Regime.supported d verifier (App.Operation.Hearsay verifier ops)
  have steps : R.Stepwise := Regime.supported_stepwise sound fun n h => .inl h
  have admits : ∀ op ∈ ops, ∀ app, R.Governs app → R.Admits app op :=
    Regime.supported_admits sound
      (fun op hop carrier hcarrier n h => .inr ⟨op, hop, carrier, hcarrier, h⟩) offered
  have hstart : R.Governs app := Regime.supported_start sound started
  obtain ⟨hgoverns, hsaid⟩ := hstart.run steps.stable admits
  refine ⟨?_, fun e he => ?_, hsaid⟩
  · have hscreen := Definition.resolve_known sound hgoverns.context.1
      (app.after ops).context.session
    rwa [← hgoverns.performer.1] at hscreen
  · have hexecuted := steps.executes_history admits hstart e he
    exact Definition.resolve_known sound hexecuted.after.1 _

/-- A diary behind the built-in login form. -/
def diaryDocument : Json :=
  .obj [("version", .str "1"), ("initialScreen", .str "home"),
    ("app", .obj [("name", .str "Diary"),
      ("databaseSchema", .obj [("notes", .obj [("fields", .obj [])]),
        ("users", .obj [("fields", .obj [])])]),
      ("authentication", .obj [("enabled", .bool true), ("userTable", .str "users"),
        ("emailField", .str "email"), ("passwordField", .str "password"),
        ("postLoginScreen", .str "home"), ("authRedirectScreen", .str "auth:login")])]),
    ("screens", .obj [("home", .obj [("requiresAuth", .bool true),
      ("components", .arr [.obj [("type", .str "card"), ("children", .arr [.obj [
        ("type", .str "button"), ("action", .obj [("type", .str "submit"),
          ("target", .str "database"), ("table", .str "notes"),
          ("fields", .obj [("text", .str "note")]),
          ("onSuccess", .obj [("type", .str "popup"), ("message", .str "Saved"),
            ("buttons", .arr [.obj [("text", .str "Undo"),
              ("action", .obj [("type", .str "deleteRecord"), ("table", .str "notes"),
                ("recordId", .str "1")])]])])])]])]])])])]

/-- The action of the diary: a note is saved, with a button to delete it. -/
def saveNote : Action :=
  .submit ⟨.value "database", .absent, .absent, .absent, .value "notes",
    .value [("text", "note")],
    .value (.popup ⟨.absent, "Saved", .absent,
      .value [⟨"Undo", .absent, .value (.deleteRecord ⟨"notes", .text "1", []⟩), []⟩], []⟩),
    .absent, []⟩

/-- The redirect to the login form is followed, the form left, a note saved and deleted. -/
def diaryVisit : List App.Operation :=
  [.currentScreen, .perform .scheduled (AuthForm.switch .login),
    .setForm (.obj [("note", .str "Dear diary")]), .perform .scheduled saveNote,
    .dismiss .scheduled 0]

theorem diary_never_degrades :
    ∃ v d app notices, Validation.ofJson diaryDocument = .ok v ∧ v.definition = some d ∧
      v.warnings = [] ∧
      App.ofDefinition .default .plaintext ⟨.counter, 0⟩ d [] = .ok (app, notices) ∧
      (∀ op ∈ diaryVisit, op.Offered d) ∧ (app.history diaryVisit).length = 4 ∧
      ((app.after diaryVisit).resolve (some (app.after diaryVisit).context.screen)).1.view.reason? ≠
        some .unknownScreen ∧
      ∀ n ∈ app.said diaryVisit, n.isUnknownTable = false := by
  obtain ⟨v, d, app, notices, validated, accepted, clean, started, offers, length⟩ :
      ∃ v d app notices, Validation.ofJson diaryDocument = .ok v ∧ v.definition = some d ∧
        v.warnings = [] ∧
        App.ofDefinition .default .plaintext ⟨.counter, 0⟩ d [] = .ok (app, notices) ∧
        d.Offers saveNote ∧ (app.history diaryVisit).length = 4 :=
    ⟨_, _, _, _, rfl, rfl, rfl, rfl, .component List.mem_cons_self List.mem_cons_self
      (.child List.mem_cons_self (.own rfl)), rfl⟩
  have offered : ∀ op ∈ diaryVisit, op.Offered d := by
    simp only [diaryVisit, List.forall_mem_cons]
    exact ⟨.currentScreen, .switchForm _ _, .setForm _, .action _ offers, .dismiss _ _, nofun⟩
  have own : ∀ n, ¬ App.Operation.Hearsay .plaintext diaryVisit n := by
    rintro n (hverifier | ⟨op, hop, carrier, hcarrier, hn⟩)
    · exact Verifier.not_says_plaintext n hverifier
    · simp only [diaryVisit, List.mem_cons, List.not_mem_nil, or_false] at hop
      rcases hop with rfl | rfl | rfl | rfl | rfl <;> cases hcarrier <;> exact hn
  obtain ⟨hscreen, -, hsaid⟩ :=
    accepted_document_never_degrades validated accepted clean started diaryVisit offered
  refine ⟨v, d, app, notices, validated, accepted, clean, started, offered, length, hscreen,
    fun n hn => ?_⟩
  cases hunknown : n.isUnknownTable with
  | false => rfl
  | true => exact absurd (hsaid n hn hunknown) (own n)

end Storyboard
