import Storyboard.Proofs.App.Signup
import Storyboard.Proofs.Assoc

/-!
# The record of a new user

A signup writes the email and the stored secret under the names that the document gives to
their columns, then the further fields under their own keys, and the id last. Where two names
are one, the later write remains: an id is never lost, but a further key of the name of the
secret's column puts a raw form value in the place of the secret. Nothing keeps the names
apart. So the record holds what was submitted, whatever the form and the verifier, exactly if
they are apart.
-/
namespace Storyboard

/-- The form field that a further key names. Of a repeated key the last one counts. -/
def CredentialFields.further? (fields : CredentialFields) (key : String) : Option Json :=
  Assoc.get? (Assoc.ofPairs fields.extra) key

/-- No two columns of a new user share a name, but for the id, which wins over a further key,
and for a further key that names the very field of the email. -/
structure Authentication.ColumnsApart (auth : Authentication) (fields : CredentialFields) :
    Prop where
  email_secret : auth.emailField ≠ auth.passwordField
  email_id : auth.emailField ≠ "id"
  secret_id : auth.passwordField ≠ "id"
  secret_further : fields.further? auth.passwordField = none
  email_further : ∀ id, fields.further? auth.emailField = some id → id = .str fields.email

namespace Performer

variable {p : Performer} {c : Context} {auth : Authentication} {a : SignIn}

/-- What stands under a key of a new user: the id, or else the value of a further field, or
else the secret, or else the email. -/
theorem get?_newcomer (auth : Authentication) (form : Form) (fields : CredentialFields)
    (email : Json) (secret fresh key : String) :
    Assoc.get? (Assoc.put (newcomer auth form fields email secret) "id" (.str fresh)) key =
      if "id" = key then some (.str fresh)
      else ((fields.further? key).map (furtherValue form)).or
        (if auth.passwordField = key then some (.str secret)
          else if auth.emailField = key then some email else none) := by
  have hbase : Assoc.get? (Assoc.put [(auth.emailField, email)] auth.passwordField
      (.str secret)) key = if auth.passwordField = key then some (.str secret)
        else if auth.emailField = key then some email else none := by
    rw [Assoc.get?_put, Assoc.get?, Assoc.get?_nil]
    simp only [beq_iff_eq]
  rw [Assoc.get?_put, newcomer, Assoc.get?_putAll_eq_or, Assoc.get?_ofPairs_mapValues, hbase]
  rfl

@[simp] theorem furtherValue_str (form : Form) (id : String) :
    furtherValue form (.str id) = Form.value form id := rfl

/-- A record holds what was submitted: the email and the secret in the columns that the document
has for them, the form value of every further field, an id, and nothing else. -/
structure HoldsSubmitted (auth : Authentication) (form : Form) (a : SignIn)
    (secret fresh : String) (row : Record) : Prop where
  email : Assoc.get? row auth.emailField = some (a.emailIn form)
  secret : Assoc.get? row auth.passwordField = some (.str secret)
  further : ∀ key id, a.fields.further? key = some id → key ≠ "id" →
    Assoc.get? row key = some (furtherValue form id)
  id : Assoc.get? row "id" = some (.str fresh)
  nothingElse : ∀ key ∈ Assoc.keys row, key = auth.emailField ∨ key = auth.passwordField ∨
    key = "id" ∨ (a.fields.further? key).isSome = true

theorem holdsSubmitted_newcomer (apart : auth.ColumnsApart a.fields) (form : Form)
    (secret fresh : String) :
    HoldsSubmitted auth form a secret fresh
      (Assoc.put (newcomer auth form a.fields (a.emailIn form) secret) "id" (.str fresh)) := by
  have hcolumn := get?_newcomer auth form a.fields (a.emailIn form) secret fresh
  constructor
  · rw [hcolumn, if_neg (Ne.symm apart.email_id), if_neg (Ne.symm apart.email_secret), if_pos rfl]
    cases hfurther : a.fields.further? auth.emailField with
    | none => rfl
    | some id =>
      rw [apart.email_further id hfurther]
      rfl
  · rw [hcolumn, if_neg (Ne.symm apart.secret_id), apart.secret_further, if_pos rfl]
    rfl
  · intro key id hfurther hkey
    rw [hcolumn, if_neg (Ne.symm hkey), hfurther]
    rfl
  · rw [hcolumn, if_pos rfl]
  · intro key hkey
    rw [← Assoc.has_eq_true, Assoc.has, hcolumn] at hkey
    cases hfurther : a.fields.further? key with
    | some id => exact .inr (.inr (.inr rfl))
    | none =>
      rw [hfurther] at hkey
      split at hkey
      · rename_i hid
        exact .inr (.inr (.inl hid.symm))
      · rw [Option.map_none, Option.none_or] at hkey
        split at hkey
        · rename_i hsecret
          exact .inr (.inl hsecret.symm)
        · split at hkey
          · rename_i hemail
            exact .inl hemail.symm
          · cases hkey

/-- A signup that adds to the user table has stored a new user. -/
theorem entered_of_rows_ne (configured : p.definition.authentication = some auth)
    (h : (p.perform c (.signup a)).context.store.rows auth.userTable ≠
      c.store.rows auth.userTable) :
    ∃ secret row, Admits p c auth a secret ∧
      row = Assoc.put (newcomer auth c.form a.fields (a.emailIn c.form) secret) "id"
        (.str (c.supply.next (idTexts (c.store.rows auth.userTable))).1) ∧
      (p.perform c (.signup a)).context.store.rows auth.userTable =
        c.store.rows auth.userTable ++ [row] ∧
      (p.perform c (.signup a)).context.session = some ⟨row⟩ := by
  have hverdict := signup_verdict configured c a
  change (p.signup c a).context.store.rows auth.userTable ≠ _ at h
  change ∃ secret row, _ ∧ _ ∧ (p.signup c a).context.store.rows auth.userTable = _ ∧
    (p.signup c a).context.session = _
  generalize p.signup c a = step at hverdict h ⊢
  cases hverdict with
  | @entered secret admits row store supply inserted =>
    have hrow := Store.insert_row inserted
    have hrows := Store.rows_insert inserted auth.userTable
    rw [Store.rows_ensureTables] at hrow
    rw [if_pos rfl, Store.rows_ensureTables] at hrows
    exact ⟨secret, row, admits, hrow, hrows, rfl⟩
  | turnedAway => exact absurd rfl h
  | gaveUp why => exact absurd (why.rows_eq _) h

/-- A signup that admits a new user adds to the user table. -/
theorem rows_ne_of_admits (configured : p.definition.authentication = some auth)
    {secret : String} (h : Admits p c auth a secret) :
    (p.perform c (.signup a)).context.store.rows auth.userTable ≠
      c.store.rows auth.userTable := by
  have hverdict := signup_verdict configured c a
  change (p.signup c a).context.store.rows auth.userTable ≠ _
  generalize p.signup c a = step at hverdict ⊢
  cases hverdict with
  | @entered _ _ row store supply inserted =>
    have hrows := Store.rows_insert inserted auth.userTable
    rw [if_pos rfl, Store.rows_ensureTables] at hrows
    exact rows_ne_of_append hrows
  | turnedAway why => exact absurd why (h.not_turnsAway _)
  | gaveUp why => exact absurd h (why.not_admits _)

/-- A complete form with an email that is there already is turned away as a duplicate. -/
theorem signup_of_duplicate (configured : p.definition.authentication = some auth)
    (email : isFilled (a.emailIn c.form) = true) (password : isFilled (a.passwordIn c.form) = true)
    {row : Record} (stored : row ∈ c.store.rows auth.userTable)
    (same : (column row auth.emailField).same (a.emailIn c.form) = true) :
    p.perform c (.signup a) = .refused c [.signupDuplicate] a.onError := by
  have hready : ¬ Ready c auth a := by
    intro hready
    rw [hready.free row stored] at same
    cases same
  have hverdict := signup_verdict configured c a
  change p.signup c a = _
  generalize p.signup c a = step at hverdict ⊢
  cases hverdict with
  | entered admits => exact absurd admits.ready hready
  | gaveUp why => exact absurd why.ready hready
  | turnedAway why =>
    cases why with
    | incomplete missing =>
      rw [email, password] at missing
      rcases missing with h | h <;> cases h
    | duplicate => rfl
    | rejected ready => exact absurd ready hready

/-- A signup stored what was submitted, in one row at the end of the user table, and the same
signup is turned away from then on (unless the email does not even equal itself, as an
undefined number). -/
structure StoresSubmitted (p : Performer) (c : Context) (auth : Authentication) (a : SignIn) :
    Prop where
  row : ∃ row secret,
    (p.perform c (.signup a)).context.store.rows auth.userTable =
      c.store.rows auth.userTable ++ [row] ∧
    p.verifier.store (a.passwordIn c.form).display = .stored secret ∧
    HoldsSubmitted auth c.form a secret
      (c.supply.next (idTexts (c.store.rows auth.userTable))).1 row
  repeated : (a.emailIn c.form).same (a.emailIn c.form) = true → ∀ later : Context,
    later.store.rows auth.userTable =
      (p.perform c (.signup a)).context.store.rows auth.userTable →
    a.emailIn later.form = a.emailIn c.form → a.passwordIn later.form = a.passwordIn c.form →
    p.perform later (.signup a) = .refused later [.signupDuplicate] a.onError

theorem storesSubmitted_of_apart (configured : p.definition.authentication = some auth)
    (apart : auth.ColumnsApart a.fields)
    (h : (p.perform c (.signup a)).context.store.rows auth.userTable ≠
      c.store.rows auth.userTable) : StoresSubmitted p c auth a := by
  obtain ⟨secret, row, hadmits, hrow, hrows, -⟩ := entered_of_rows_ne configured h
  have hholds : HoldsSubmitted auth c.form a secret
      (c.supply.next (idTexts (c.store.rows auth.userTable))).1 row := by
    rw [hrow]
    exact holdsSubmitted_newcomer apart c.form secret _
  refine ⟨⟨row, secret, hrows, hadmits.stored, hholds⟩, ?_⟩
  intro hreflexive later hlater hemail hpassword
  have hstored : row ∈ later.store.rows auth.userTable := by
    rw [hlater, hrows]
    exact List.mem_append_right _ List.mem_cons_self
  have hsame : (column row auth.emailField).same (a.emailIn later.form) = true := by
    rw [column, hholds.email, hemail]
    exact hreflexive
  exact signup_of_duplicate configured (hemail ▸ hadmits.ready.email)
    (hpassword ▸ hadmits.ready.password) hstored hsame

/-- A verifier that stores one text for every secret. -/
def sealing : Verifier := ⟨fun _ => .stored "sealed", fun _ _ => .done false []⟩

def probe (auth : Authentication) : Performer :=
  ⟨⟨"1", ⟨"Probe", .absent, .absent, .absent, .value auth, []⟩, [], "home", []⟩, sealing, .default⟩

/-- A form with an email and a password, which no other field has. -/
def probeForm (fields : CredentialFields) : Form :=
  [(.id fields.email, .str "email"), (.id fields.password, .str "password")]

def probeContext (fields : CredentialFields) : Context :=
  ⟨.empty, ⟨.counter, 0⟩, probeForm fields, none, "home"⟩

theorem furtherValue_probeForm (fields : CredentialFields) (id : Json) :
    furtherValue (probeForm fields) id = .str "email" ∧ id = .str fields.email ∨
      furtherValue (probeForm fields) id = .str "password" ∨
      furtherValue (probeForm fields) id = .null := by
  cases id with
  | str x =>
    by_cases hemail : fields.email = x
    · subst hemail
      simp [Form.value, Form.get?, probeForm, Form.Key.agrees]
    · by_cases hpassword : fields.password = x <;>
        simp [Form.value, Form.get?, probeForm, Form.Key.agrees, hemail, hpassword]
  | _ => exact .inr (.inr rfl)

theorem emailIn_probeForm (a : SignIn) : a.emailIn (probeForm a.fields) = .str "email" := by
  simp [SignIn.emailIn, Form.value, Form.get?, probeForm, Form.Key.agrees]

theorem isFilled_passwordIn_probeForm (a : SignIn) :
    isFilled (a.passwordIn (probeForm a.fields)) = true := by
  by_cases hsame : a.fields.email = a.fields.password <;>
    simp [SignIn.passwordIn, Form.value, Form.get?, probeForm, Form.Key.agrees, hsame, isFilled]

/-- The probe has nothing in its form but texts. -/
theorem shallow_probeForm (fields : CredentialFields) : (probeForm fields).Shallow 1 :=
  List.forall_mem_cons.mpr ⟨Nat.le_refl _, List.forall_mem_singleton.mpr (Nat.le_refl _)⟩

theorem admits_probe (auth : Authentication) {fields : CredentialFields}
    (named : fields.AllNamed) :
    Admits (probe auth) (probeContext fields) auth ⟨fields, .absent, []⟩ "sealed" := by
  have hvalue : ∀ key, (((probeForm fields).get? key).getD .null).height ≤ 1 :=
    (shallow_probeForm fields).get (Nat.le_refl _)
  have hready : Ready (probeContext fields) auth ⟨fields, .absent, []⟩ :=
    ⟨congrArg isFilled (emailIn_probeForm ⟨fields, .absent, []⟩),
      isFilled_passwordIn_probeForm ⟨fields, .absent, []⟩, List.forall_mem_nil _⟩
  have hscalars : Json.heightFields fields.extra ≤ 1 :=
    Json.heightFields_le.mpr fun entry hentry =>
      Nat.le_of_eq (Form.Key.height_of_ofJson? (named entry hentry))
  have hlegible : Legible (probeContext fields) ⟨fields, .absent, []⟩ :=
    ⟨decide_eq_true (Nat.le_trans hscalars (by decide)),
      decide_eq_true (Nat.le_trans (hvalue (.id fields.password)) (by decide))⟩
  have hnewcomer := heightFields_newcomer_le (shallow_probeForm fields) (Nat.le_refl _) auth fields
    (hvalue (.id fields.email)) "sealed"
  exact ⟨⟨hready, hlegible, rfl, named⟩,
    decide_eq_true (Nat.le_trans (Nat.succ_le_succ hnewcomer) (by decide))⟩

/-- What was submitted through the form of the probe can be held only under names that are
apart: the email, the secret and the id are three texts, and one column holds one of them. -/
theorem columnsApart_of_holds {a : SignIn} {fresh : String} {row : Record}
    (h : HoldsSubmitted auth (probeForm a.fields) a "sealed" fresh row) (email : fresh ≠ "email")
    (secret : fresh ≠ "sealed") : auth.ColumnsApart a.fields := by
  have hemail := h.email
  rw [emailIn_probeForm] at hemail
  have hsecret_id : auth.passwordField ≠ "id" := by
    intro heq
    have hsecret := h.secret
    rw [heq, h.id] at hsecret
    exact secret (Json.str.inj (Option.some.inj hsecret))
  have hemail_id : auth.emailField ≠ "id" := by
    intro heq
    rw [heq, h.id] at hemail
    exact email (Json.str.inj (Option.some.inj hemail))
  refine ⟨?_, hemail_id, hsecret_id, ?_, ?_⟩
  · intro heq
    rw [heq, h.secret] at hemail
    exact absurd (Json.str.inj (Option.some.inj hemail)) (by decide)
  · refine Option.eq_none_iff_forall_ne_some.mpr fun id hfurther => ?_
    have hvalue := h.further _ id hfurther hsecret_id
    rw [h.secret, Option.some.injEq] at hvalue
    rcases furtherValue_probeForm a.fields id with ⟨heq, -⟩ | heq | heq
    · exact absurd (Json.str.inj (hvalue.trans heq)) (by decide)
    · exact absurd (Json.str.inj (hvalue.trans heq)) (by decide)
    · cases hvalue.trans heq
  · intro id hfurther
    have hvalue := h.further _ id hfurther hemail_id
    rw [hemail, Option.some.injEq] at hvalue
    rcases furtherValue_probeForm a.fields id with ⟨-, hid⟩ | heq | heq
    · exact hid
    · exact absurd (Json.str.inj (hvalue.trans heq)) (by decide)
    · cases hvalue.trans heq

end Performer

/-- Under a configuration and with given fields, every signup that goes through stores what was
submitted, exactly if the names of the columns are apart (or a further key names no form field,
and then no signup goes through). -/
theorem signup_stores_submitted_iff (auth : Authentication) (fields : CredentialFields) :
    (∀ (p : Performer) (c : Context) (a : SignIn),
      p.definition.authentication = some auth → a.fields = fields →
        (p.perform c (.signup a)).context.store.rows auth.userTable ≠
          c.store.rows auth.userTable → Performer.StoresSubmitted p c auth a) ↔
    (fields.AllNamed → auth.ColumnsApart fields) := by
  constructor
  · intro hstores hnamed
    have hadmits := Performer.admits_probe auth hnamed
    have hstored := hstores (Performer.probe auth) (Performer.probeContext fields)
      ⟨fields, .absent, []⟩ rfl rfl (Performer.rows_ne_of_admits rfl hadmits)
    obtain ⟨row, secret, -, hsecret, hholds⟩ := hstored.row
    cases hsecret
    have hfresh : (Supply.next ⟨.counter, 0⟩ []).1 = "00000000000000000000000000000001" := by
      decide +kernel
    change Performer.HoldsSubmitted auth (Performer.probeForm fields) ⟨fields, .absent, []⟩
      "sealed" (Supply.next ⟨.counter, 0⟩ []).1 row at hholds
    rw [hfresh] at hholds
    exact @Performer.columnsApart_of_holds auth ⟨fields, .absent, []⟩ _ row hholds (by decide)
      (by decide)
  · intro hapart p c a hconfigured hfields hchanged
    obtain ⟨_, _, hadmits, -⟩ := Performer.entered_of_rows_ne hconfigured hchanged
    have hnamed : fields.AllNamed := hfields ▸ hadmits.named
    exact Performer.storesSubmitted_of_apart hconfigured (hfields ▸ hapart hnamed) hchanged

/-- Further keys of the names of columns write over them. A key for the column of the secret puts
the password there as it was typed, although secrets are sealed; a key for the column of the email
loses the email, and the same signup is let in again. -/
theorem overlapping_columns_overwritten :
    Action.ofJson (clubSignup [("secret", .str "word")]) =
        .ok (.signup (clubSignIn [("secret", .str "word")])) ∧
      ((club Performer.sealing).perform clubContext
        (.signup (clubSignIn [("secret", .str "word")]))).context.store.rows "members" =
          [[("mail", .str "ada@club"), ("secret", .str "pass"),
            ("id", .str "00000000000000000000000000000001")]] ∧
      Action.ofJson (clubSignup [("mail", .str "street")]) =
        .ok (.signup (clubSignIn [("mail", .str "street")])) ∧
      (let first := ((club .plaintext).perform clubContext
          (.signup (clubSignIn [("mail", .str "street")]))).context
        let second := ((club .plaintext).perform { first with form := clubContext.form }
          (.signup (clubSignIn [("mail", .str "street")]))).context
        second.store.rows "members" =
          [[("mail", .null), ("secret", .str "pass"),
            ("id", .str "00000000000000000000000000000001")],
          [("mail", .null), ("secret", .str "pass"),
            ("id", .str "00000000000000000000000000000002")]]) ∧
      ¬ ∀ (p : Performer) (c : Context) (auth : Authentication) (a : SignIn),
        p.definition.authentication = some auth →
          (p.perform c (.signup a)).context.store.rows auth.userTable ≠
            c.store.rows auth.userTable → Performer.StoresSubmitted p c auth a := by
  have hrows : ((club Performer.sealing).perform clubContext
      (.signup (clubSignIn [("secret", .str "word")]))).context.store.rows "members" =
        [[("mail", .str "ada@club"), ("secret", .str "pass"),
          ("id", .str "00000000000000000000000000000001")]] := rfl
  refine ⟨rfl, hrows, rfl, rfl, fun always => ?_⟩
  obtain ⟨row, secret, happended, hsecret, hholds⟩ :=
    (always (club Performer.sealing) clubContext clubAuthentication
      (clubSignIn [("secret", .str "word")]) rfl (Performer.rows_ne_of_append hrows)).row
  have hrow : [row] = _ := happended.symm.trans hrows
  have hpassword : Assoc.get? row "secret" = some (.str "pass") := by
    rw [List.cons.inj hrow |>.1]
    rfl
  have hplain : secret = "pass" :=
    Json.str.inj (Option.some.inj (hholds.secret.symm.trans hpassword))
  have hsealed : "sealed" = secret := Storing.stored.inj hsecret
  exact absurd (hsealed.trans hplain) (by decide)

end Storyboard
