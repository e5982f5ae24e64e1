import Storyboard.Proofs.Action.Settled
import Storyboard.Proofs.Document.Kinds

/-!
# Actions are restated

Each kind of action from its own fields, by what its readers inside are faithful to; then
actions at any depth, by induction on the levels left for reading. Entering an action costs
one level, or two where a reader is entered beside the current one, so the readers inside
have fewer levels in every case.
-/
namespace Storyboard

theorem faithful_credentials : Faithful (.part .credentials) Action.credentialFields
    (CredentialFields.dump .asWritten) CredentialFields.settled := by
  intro v x hv hx
  obtain ⟨o, rfl, hfields⟩ := Read.record_eq_ok hx
  simp only [Check.seq_eq_ok, Check.map_eq_ok] at hfields
  obtain ⟨_, ⟨email, hemail, rfl⟩, password, hpassword, rfl⟩ := hfields
  have hemail := retold_required faithful_text hv hemail
  have hpassword := retold_required faithful_text hv hpassword
  refine restated_of_fields hv ?_ fun o' ho' hextra => ?_
  · exact .cons ⟨rfl, hemail.toTold⟩ (.cons ⟨rfl, hpassword.toTold⟩ .nil)
  · simp only [List.forall_mem_cons] at ho'
    obtain ⟨h1, h2, -⟩ := ho'
    have hextra' : extraFields Keys.credentials o' = _ := hextra
    simp only [Action.credentialFields, Read.object, hemail.again o' h1, hpassword.again o' h2,
      hextra']
    rfl

/-- An action a reader reads is restated. -/
abbrev FaithfulAction (read : Json → Check Action) : Prop :=
  Faithful .action read (Action.dump .asWritten) Action.settled

theorem solid_action : Solid (Action.dump .asWritten) := by
  intro a h
  cases h

theorem faithful_button {press : Option (Json → Check Action)}
    (hpress : ∀ read ∈ press, FaithfulAction read) :
    Faithful (.part .button) (Action.readButton press) (PopupButton.dump .asWritten)
      PopupButton.settled := by
  intro v x hv hx
  cases press with
  | none => cases hx
  | some press =>
    have hpress := hpress press rfl
    obtain ⟨o, rfl, hfields⟩ := Read.record_eq_ok hx
    simp only [Check.seq_eq_ok, Check.map_eq_ok] at hfields
    obtain ⟨_, ⟨_, ⟨text, htext, rfl⟩, style, hstyle, rfl⟩, action, haction, rfl⟩ := hfields
    have htext := retold_required faithful_text hv htext
    have hstyle := retold_slot (faithful_choice _ _) solid_str hv hstyle
    have haction := retold_slot hpress solid_action hv haction
    rw [PopupButton.dump, ofSlot_followUp]
    refine restated_of_fields hv ?_ fun o' ho' hextra => ?_
    · exact .cons ⟨rfl, htext.toTold⟩ (.cons ⟨rfl, hstyle.toTold⟩
        (.cons ⟨rfl, haction.toTold⟩ .nil))
    · simp only [List.forall_mem_cons] at ho'
      obtain ⟨h1, h2, h3, -⟩ := ho'
      have hextra' : extraFields Keys.button o' = _ := hextra
      simp only [Action.readButton, Read.object, htext.again o' h1, hstyle.again o' h2,
        haction.again o' h3, hextra', PopupButton.settled, settledFollowUp_eq, Slot.map_id]
      rfl

/-- The readers for what stands inside an action are faithful. -/
structure Action.Inner.Sound (inner : Action.Inner) : Prop where
  followUp : FaithfulAction inner.followUp
  button : Faithful (.part .button) inner.button (PopupButton.dump .asWritten) PopupButton.settled
  credentials : Faithful (.part .credentials) inner.credentials (CredentialFields.dump .asWritten)
    CredentialFields.settled

theorem Action.Inner.sound_of {followUp : Json → Check Action}
    {press : Option (Json → Check Action)} (hfollowUp : FaithfulAction followUp)
    (hpress : ∀ read ∈ press, FaithfulAction read) : (Inner.of followUp press).Sound where
  followUp := hfollowUp
  button := faithful_button hpress
  credentials := by
    cases press with
    | none =>
      intro v x _ hx
      cases hx
    | some press => exact faithful_credentials

/-- What an action of a kind is dumped from. -/
def Action.allEntries (a : Action) : List Entry :=
  .always Keys.type (.str a.kind.tag) :: a.entries .asWritten

/-- The fields of an action are told by its entries, and read again from them. -/
structure Retells (inner : Action.Inner) (kind : ActionKind) (o : Assoc Json) (a : Action) :
    Prop where
  kind_eq : a.kind = kind
  extra : a.extra = extraFields (Part.action a.kind).keys o
  tells : TellsPart (.action a.kind) o a.allEntries
  again : ∀ o', (∀ e ∈ a.allEntries, Respells o' e) →
    extraFields (Part.action a.kind).keys o' = Json.finitizeFields a.extra →
      Action.readAs inner a.kind o' = .ok a.settled

section Kinds

variable {inner : Action.Inner} {o : Assoc Json} {a : Action}

theorem retold_tag {kind : ActionKind} (htag : Assoc.get? o "type" = some (.str kind.tag)) :
    Retold o .free (.always Keys.type (.str kind.tag))
      (Read.optional · Keys.type (Read.choice [kind] ActionKind.tag)) (some kind) := by
  have hused : Keys.type.used? o = some "type" :=
    Key.used?_of_external (by rw [Assoc.has]; exact htag ▸ rfl)
  refine ⟨⟨by rw [Entry.always, hused]; rfl, fun _ => .str _, ?_⟩, ?_⟩
  · intro u hu _ _
    cases htag.symm.trans hu
    exact .refl _
  · intro o' ho'
    obtain ⟨hused', hvalue⟩ := ho'.of_given rfl
    refine Read.optional_eq_ok.mpr (.inr ⟨_, _, _, hused', hvalue, ?_, rfl⟩)
    simp [Entry.always, Json.reread, Json.mapFloats, Read.choice, Json.str?]

theorem retells_navigate (ho : (Json.obj o).Legible textBounds)
    (htag : Assoc.get? o "type" = some (.str ActionKind.navigate.tag))
    (h : Action.readAs inner .navigate o = .ok a) : Retells inner .navigate o a := by
  simp only [Action.readAs, Check.seq_eq_ok, Check.map_eq_ok] at h
  obtain ⟨_, ⟨_, ⟨_, ⟨_, -, rfl⟩, target, htarget, rfl⟩, params, hparams, rfl⟩, transition,
    htransition, rfl⟩ := h
  have htype := retold_tag htag
  have htarget := retold_required faithful_text ho htarget
  have hparams := retold_slot faithful_anyTable solid_obj ho hparams
  have htransition := retold_slot (faithful_choice _ _) solid_str ho htransition
  refine ⟨rfl, rfl, ?_, fun o' ho' hextra => ?_⟩
  · exact .cons ⟨rfl, htype.toTold⟩ (.cons ⟨rfl, htarget.toTold⟩ (.cons ⟨rfl, hparams.toTold⟩
      (.cons ⟨rfl, htransition.toTold⟩ .nil)))
  · simp only [Action.allEntries, Action.entries, List.forall_mem_cons] at ho'
    obtain ⟨h1, h2, h3, h4, -⟩ := ho'
    have hextra' : extraFields (Keys.ofAction .navigate) o' = _ := hextra
    simp only [Action.readAs, Action.kind, htype.again o' h1, htarget.again o' h2,
      hparams.again o' h3, htransition.again o' h4, hextra', Action.settled, Slot.map_id]
    rfl

theorem retells_popup (hi : inner.Sound) (ho : (Json.obj o).Legible textBounds)
    (htag : Assoc.get? o "type" = some (.str ActionKind.popup.tag))
    (h : Action.readAs inner .popup o = .ok a) : Retells inner .popup o a := by
  simp only [Action.readAs, Check.seq_eq_ok, Check.map_eq_ok] at h
  obtain ⟨_, ⟨_, ⟨_, ⟨_, ⟨_, -, rfl⟩, title, htitle, rfl⟩, message, hmessage, rfl⟩, style, hstyle,
    rfl⟩, buttons, hbuttons, rfl⟩ := h
  have htype := retold_tag htag
  have htitle := retold_slot faithful_text solid_str ho htitle
  have hmessage := retold_required faithful_text ho hmessage
  have hstyle := retold_slot (faithful_choice _ _) solid_str ho hstyle
  have hbuttons := retold_slot hi.button.list solid_arr ho hbuttons
  have hentries : Action.allEntries (.popup ⟨title, message, style, buttons,
      extraFields (Keys.ofAction .popup) o⟩) =
      [.always Keys.type (.str ActionKind.popup.tag), .ofSlot (.plain "title") .str title,
       .always (.plain "message") (.str message),
       .ofSlot (.plain "variant") (fun s => .str s.name) style,
       .ofSlot (.plain "buttons") (fun bs => .arr (bs.map (PopupButton.dump .asWritten)))
         buttons] := by
    rw [Action.allEntries, Action.entries, ofSlot_buttons]
    rfl
  refine ⟨rfl, rfl, ?_, fun o' ho' hextra => ?_⟩
  · rw [hentries]
    exact .cons ⟨rfl, htype.toTold⟩ (.cons ⟨rfl, htitle.toTold⟩ (.cons ⟨rfl, hmessage.toTold⟩
      (.cons ⟨rfl, hstyle.toTold⟩ (.cons ⟨rfl, hbuttons.toTold⟩ .nil))))
  · simp only [hentries, List.forall_mem_cons] at ho'
    obtain ⟨h1, h2, h3, h4, h5, -⟩ := ho'
    have hextra' : extraFields (Keys.ofAction .popup) o' = _ := hextra
    simp only [Action.readAs, Action.kind, htype.again o' h1, htitle.again o' h2,
      hmessage.again o' h3, hstyle.again o' h4, hbuttons.again o' h5, hextra', Action.settled,
      settledButtonSlot_eq, Slot.map_id]
    rfl

theorem retells_goBack (htag : Assoc.get? o "type" = some (.str ActionKind.goBack.tag))
    (h : Action.readAs inner .goBack o = .ok a) : Retells inner .goBack o a := by
  simp only [Action.readAs, Check.map_eq_ok] at h
  obtain ⟨_, -, rfl⟩ := h
  have htype := retold_tag htag
  refine ⟨rfl, rfl, .cons ⟨rfl, htype.toTold⟩ .nil, fun o' ho' hextra => ?_⟩
  simp only [Action.allEntries, Action.entries, List.forall_mem_cons] at ho'
  have hextra' : extraFields (Keys.ofAction .goBack) o' = _ := hextra
  simp only [Action.readAs, Action.kind, htype.again o' ho'.1, hextra', Action.settled]
  rfl

theorem retells_submit (hi : inner.Sound) (ho : (Json.obj o).Legible textBounds)
    (htag : Assoc.get? o "type" = some (.str ActionKind.submit.tag))
    (h : Action.readAs inner .submit o = .ok a) : Retells inner .submit o a := by
  simp only [Action.readAs, Check.seq_eq_ok, Check.map_eq_ok] at h
  obtain ⟨_, ⟨_, ⟨_, ⟨_, ⟨_, ⟨_, ⟨_, ⟨_, ⟨_, -, rfl⟩, target, htarget, rfl⟩, endpoint, hendpoint,
    rfl⟩, method, hmethod, rfl⟩, headers, hheaders, rfl⟩, table, htable, rfl⟩, fields, hfields,
    rfl⟩, onSuccess, hsuccess, rfl⟩, onError, herror, rfl⟩ := h
  have htype := retold_tag htag
  have htarget := retold_slot faithful_text solid_str ho htarget
  have hendpoint := retold_slot faithful_text solid_str ho hendpoint
  have hmethod := retold_slot (faithful_choice _ _) solid_str ho hmethod
  have hheaders := retold_slot faithful_textTable solid_obj ho hheaders
  have htable := retold_slot faithful_text solid_str ho htable
  have hfields := retold_slot faithful_textTable solid_obj ho hfields
  have hsuccess := retold_slot hi.followUp solid_action ho hsuccess
  have herror := retold_slot hi.followUp solid_action ho herror
  have hentries : Action.allEntries (.submit ⟨target, endpoint, method, headers, table, fields,
      onSuccess, onError, extraFields (Keys.ofAction .submit) o⟩) =
      [.always Keys.type (.str ActionKind.submit.tag), .ofSlot (.plain "target") .str target,
       .ofSlot (.plain "endpoint") .str endpoint,
       .ofSlot (.plain "method") (fun m => .str m.name) method,
       .ofSlot (.plain "headers") textTable headers, .ofSlot (.plain "table") .str table,
       .ofSlot (.plain "fields") textTable fields,
       .ofSlot Keys.onSuccess (Action.dump .asWritten) onSuccess,
       .ofSlot Keys.onError (Action.dump .asWritten) onError] := by
    rw [Action.allEntries, Action.entries, ofSlot_followUp, ofSlot_followUp]
    rfl
  refine ⟨rfl, rfl, ?_, fun o' ho' hextra => ?_⟩
  · rw [hentries]
    exact .cons ⟨rfl, htype.toTold⟩ (.cons ⟨rfl, htarget.toTold⟩ (.cons ⟨rfl, hendpoint.toTold⟩
      (.cons ⟨rfl, hmethod.toTold⟩ (.cons ⟨rfl, hheaders.toTold⟩ (.cons ⟨rfl, htable.toTold⟩
        (.cons ⟨rfl, hfields.toTold⟩ (.cons ⟨rfl, hsuccess.toTold⟩
          (.cons ⟨rfl, herror.toTold⟩ .nil))))))))
  · simp only [hentries, List.forall_mem_cons] at ho'
    obtain ⟨h1, h2, h3, h4, h5, h6, h7, h8, h9, -⟩ := ho'
    have hextra' : extraFields (Keys.ofAction .submit) o' = _ := hextra
    simp only [Action.readAs, Action.kind, htype.again o' h1, htarget.again o' h2,
      hendpoint.again o' h3, hmethod.again o' h4, hheaders.again o' h5, htable.again o' h6,
      hfields.again o' h7, hsuccess.again o' h8, herror.again o' h9, hextra', Action.settled,
      settledFollowUp_eq, Slot.map_id]
    rfl

theorem retells_deleteRecord (ho : (Json.obj o).Legible textBounds)
    (htag : Assoc.get? o "type" = some (.str ActionKind.deleteRecord.tag))
    (h : Action.readAs inner .deleteRecord o = .ok a) : Retells inner .deleteRecord o a := by
  simp only [Action.readAs, Check.seq_eq_ok, Check.map_eq_ok] at h
  obtain ⟨_, ⟨_, ⟨_, -, rfl⟩, table, htable, rfl⟩, id, hid, rfl⟩ := h
  have htype := retold_tag htag
  have htable := retold_required faithful_text ho htable
  have hid := retold_required faithful_recordId ho hid
  refine ⟨rfl, rfl, ?_, fun o' ho' hextra => ?_⟩
  · exact .cons ⟨rfl, htype.toTold⟩ (.cons ⟨rfl, htable.toTold⟩ (.cons ⟨rfl, hid.toTold⟩ .nil))
  · simp only [Action.allEntries, Action.entries, List.forall_mem_cons] at ho'
    obtain ⟨h1, h2, h3, -⟩ := ho'
    have hextra' : extraFields (Keys.ofAction .deleteRecord) o' = _ := hextra
    simp only [Action.readAs, Action.kind, htype.again o' h1, htable.again o' h2, hid.again o' h3,
      hextra', Action.settled]
    rfl

/-- A login and a signup are read alike. -/
theorem retells_signIn (hi : inner.Sound) (ho : (Json.obj o).Legible textBounds)
    {kind : ActionKind} (hkind : kind = .login ∨ kind = .signup)
    (htag : Assoc.get? o "type" = some (.str kind.tag))
    (h : Action.readAs inner kind o = .ok a) : Retells inner kind o a := by
  rcases hkind with rfl | rfl
  all_goals
    simp only [Action.readAs, Check.seq_eq_ok, Check.map_eq_ok] at h
    obtain ⟨_, ⟨_, ⟨_, -, rfl⟩, fields, hfields, rfl⟩, onError, herror, rfl⟩ := h
    have htype := retold_tag htag
    have hfields := retold_required hi.credentials ho hfields
    have herror := retold_slot hi.followUp solid_action ho herror
    refine ⟨rfl, rfl, ?_, fun o' ho' hextra => ?_⟩
    · rw [Action.allEntries, Action.entries, ofSlot_followUp]
      exact .cons ⟨rfl, htype.toTold⟩ (.cons ⟨rfl, hfields.toTold⟩
        (.cons ⟨rfl, herror.toTold⟩ .nil))
    · simp only [Action.allEntries, Action.entries, ofSlot_followUp, List.forall_mem_cons] at ho'
      obtain ⟨h1, h2, h3, -⟩ := ho'
      simp only [Action.kind, Part.keys_action] at hextra
      simp only [Action.readAs, Action.kind, htype.again o' h1, hfields.again o' h2,
        herror.again o' h3, hextra, Action.settled, settledFollowUp_eq]
      rfl

theorem retells_logout (hi : inner.Sound) (ho : (Json.obj o).Legible textBounds)
    (htag : Assoc.get? o "type" = some (.str ActionKind.logout.tag))
    (h : Action.readAs inner .logout o = .ok a) : Retells inner .logout o a := by
  simp only [Action.readAs, Check.seq_eq_ok, Check.map_eq_ok] at h
  obtain ⟨_, ⟨_, -, rfl⟩, onSuccess, hsuccess, rfl⟩ := h
  have htype := retold_tag htag
  have hsuccess := retold_slot hi.followUp solid_action ho hsuccess
  refine ⟨rfl, rfl, ?_, fun o' ho' hextra => ?_⟩
  · rw [Action.allEntries, Action.entries, ofSlot_followUp]
    exact .cons ⟨rfl, htype.toTold⟩ (.cons ⟨rfl, hsuccess.toTold⟩ .nil)
  · simp only [Action.allEntries, Action.entries, ofSlot_followUp, List.forall_mem_cons] at ho'
    obtain ⟨h1, h2, -⟩ := ho'
    have hextra' : extraFields (Keys.ofAction .logout) o' = _ := hextra
    simp only [Action.readAs, Action.kind, htype.again o' h1, hsuccess.again o' h2, hextra',
      Action.settled, settledFollowUp_eq]
    rfl

theorem retells_setValue (ho : (Json.obj o).Legible textBounds)
    (htag : Assoc.get? o "type" = some (.str ActionKind.setValue.tag))
    (h : Action.readAs inner .setValue o = .ok a) : Retells inner .setValue o a := by
  simp only [Action.readAs, Check.seq_eq_ok, Check.map_eq_ok] at h
  obtain ⟨_, ⟨_, ⟨_, -, rfl⟩, target, htarget, rfl⟩, value, hvalue, rfl⟩ := h
  have htype := retold_tag htag
  have htarget := retold_required faithful_text ho htarget
  have hvalue := retold_optional faithful_anything ho .null hvalue
  refine ⟨rfl, rfl, ?_, fun o' ho' hextra => ?_⟩
  · exact .cons ⟨rfl, htype.toTold⟩ (.cons ⟨rfl, htarget.toTold⟩ (.cons ⟨rfl, hvalue.toTold⟩ .nil))
  · simp only [Action.allEntries, Action.entries, List.forall_mem_cons] at ho'
    obtain ⟨h1, h2, h3, -⟩ := ho'
    have hextra' : extraFields (Keys.ofAction .setValue) o' = _ := hextra
    simp only [Action.readAs, Action.kind, htype.again o' h1, htarget.again o' h2,
      hvalue.again o' h3, hextra', Action.settled]
    rfl

theorem retells_openUrl (ho : (Json.obj o).Legible textBounds)
    (htag : Assoc.get? o "type" = some (.str ActionKind.openUrl.tag))
    (h : Action.readAs inner .openUrl o = .ok a) : Retells inner .openUrl o a := by
  simp only [Action.readAs, Check.seq_eq_ok, Check.map_eq_ok] at h
  obtain ⟨_, ⟨_, ⟨_, -, rfl⟩, url, hurl, rfl⟩, external, hexternal, rfl⟩ := h
  have htype := retold_tag htag
  have hurl := retold_required faithful_text ho hurl
  have hexternal := retold_slot faithful_flag solid_bool ho hexternal
  refine ⟨rfl, rfl, ?_, fun o' ho' hextra => ?_⟩
  · exact .cons ⟨rfl, htype.toTold⟩ (.cons ⟨rfl, hurl.toTold⟩ (.cons ⟨rfl, hexternal.toTold⟩ .nil))
  · simp only [Action.allEntries, Action.entries, List.forall_mem_cons] at ho'
    obtain ⟨h1, h2, h3, -⟩ := ho'
    have hextra' : extraFields (Keys.ofAction .openUrl) o' = _ := hextra
    simp only [Action.readAs, Action.kind, htype.again o' h1, hurl.again o' h2,
      hexternal.again o' h3, hextra', Action.settled, Slot.map_id]
    rfl

/-- Whatever its kind, an action that was read is retold. -/
theorem retells_readAs (hi : inner.Sound) (ho : (Json.obj o).Legible textBounds)
    {kind : ActionKind} (htag : Assoc.get? o "type" = some (.str kind.tag))
    (h : Action.readAs inner kind o = .ok a) : Retells inner kind o a := by
  cases kind with
  | navigate => exact retells_navigate ho htag h
  | popup => exact retells_popup hi ho htag h
  | goBack => exact retells_goBack htag h
  | submit => exact retells_submit hi ho htag h
  | deleteRecord => exact retells_deleteRecord ho htag h
  | login => exact retells_signIn hi ho (.inl rfl) htag h
  | signup => exact retells_signIn hi ho (.inr rfl) htag h
  | logout => exact retells_logout hi ho htag h
  | setValue => exact retells_setValue ho htag h
  | openUrl => exact retells_openUrl ho htag h

end Kinds

theorem ActionKind.ofTag?_tag (kind : ActionKind) : ofTag? kind.tag = some kind := by
  cases kind <;> decide

namespace Action

/-- The readers inside an action of a kind, if a level is left for it. -/
def innerAt (levels : Nat) (scope : Scope) (kind : ActionKind) : Option Inner :=
  match scope.entered? kind, levels with
  | none, 1 => some (.of (read 0 scope) none)
  | none, levels + 2 => some (.of (read (levels + 1) scope) (some (read levels .button)))
  | some scope, 2 => some (.of (read 0 scope) none)
  | some scope, levels + 3 => some (.of (read (levels + 1) scope) (some (read levels .button)))
  | _, _ => none

theorem read_eq (levels : Nat) (scope : Scope) (v : Json) :
    read levels scope v =
      match tagged v with
      | .bad issues => .bad issues
      | .ok (kind, o) => Check.under kind.tag
          (match innerAt levels scope kind with
            | some inner => readAs inner kind o
            | none => .fail .tooDeep) := by
  rw [read]
  cases tagged v with
  | bad issues => rfl
  | ok found =>
    obtain ⟨kind, o⟩ := found
    refine congrArg (Check.under kind.tag) ?_
    unfold innerAt
    cases scope.entered? kind with
    | none => rcases levels with _ | _ | levels <;> rfl
    | some own => rcases levels with _ | _ | _ | levels <;> rfl

theorem tagged_eq_ok {v : Json} {kind : ActionKind} {o : Assoc Json} :
    tagged v = .ok (kind, o) ↔ v = .obj o ∧ Assoc.get? o "type" = some (.str kind.tag) := by
  constructor
  · intro h
    cases v with
    | obj fields =>
      simp only [tagged] at h
      split at h
      · cases h
      · rename_i tag htag
        split at h
        · rename_i found hfound
          cases h
          cases tag with
          | str s =>
            have hs := List.find?_some (show ActionKind.ofTag? s = some kind from hfound)
            exact ⟨rfl, by rw [htag, ← beq_iff_eq.mp hs]⟩
          | _ => cases hfound
        · cases h
    | _ => cases h
  · rintro ⟨rfl, htag⟩
    simp only [tagged, htag, Json.str?, Option.bind_some, ActionKind.ofTag?_tag]

theorem read_eq_ok {levels : Nat} {scope : Scope} {v : Json} {a : Action} :
    read levels scope v = .ok a ↔ ∃ kind o inner, tagged v = .ok (kind, o) ∧
      innerAt levels scope kind = some inner ∧ readAs inner kind o = .ok a := by
  rw [read_eq]
  constructor
  · intro h
    cases ht : tagged v with
    | bad issues => rw [ht] at h; cases h
    | ok found =>
      obtain ⟨kind, o⟩ := found
      rw [ht] at h
      dsimp only at h
      rw [Check.under_eq_ok] at h
      cases hi : innerAt levels scope kind with
      | none => rw [hi] at h; cases h
      | some inner => rw [hi] at h; exact ⟨kind, o, inner, rfl, hi, h⟩
  · rintro ⟨kind, o, inner, ht, hi, h⟩
    rw [ht]
    dsimp only
    rw [Check.under_eq_ok, hi]
    exact h

/-- The readers inside an action are readers with fewer levels left. -/
theorem sound_innerAt {levels : Nat} {scope : Scope} {kind : ActionKind} {inner : Inner}
    (hread : ∀ l < levels, ∀ s, FaithfulAction (read l s))
    (h : innerAt levels scope kind = some inner) : inner.Sound := by
  unfold innerAt at h
  split at h
  · cases h
    exact Inner.sound_of (hread _ (by omega) _) fun _ hp => by cases hp
  · cases h
    exact Inner.sound_of (hread _ (by omega) _) fun _ hp => by
      cases hp
      exact hread _ (by omega) _
  · cases h
    exact Inner.sound_of (hread _ (by omega) _) fun _ hp => by cases hp
  · cases h
    exact Inner.sound_of (hread _ (by omega) _) fun _ hp => by
      cases hp
      exact hread _ (by omega) _
  · cases h

/-- At every level, the reader of actions is faithful. -/
theorem faithful_read (levels : Nat) (scope : Scope) : FaithfulAction (read levels scope) := by
  induction levels using Nat.strongRecOn generalizing scope with
  | ind levels ih =>
    intro v a hv ha
    obtain ⟨kind, o, inner, ht, hi, hread⟩ := read_eq_ok.mp ha
    obtain ⟨rfl, htag⟩ := tagged_eq_ok.mp ht
    have hretells := retells_readAs (sound_innerAt ih hi) hv htag hread
    obtain rfl := hretells.kind_eq
    have hdump : a.dump .asWritten =
        assemble .asWritten a.allEntries (extraFields (Part.action a.kind).keys o) := by
      rw [← hretells.extra]
      rfl
    have hkind : Json.actionKind? o = some a.kind := by
      rw [Json.actionKind?, htag]
      exact ActionKind.ofTag?_tag a.kind
    rw [hdump]
    refine (restated_of_fields hv hretells.tells fun o' ho' hextra => ?_).of_canonical
      (Json.canonical_action hkind)
    rw [← hretells.extra] at hextra
    have htag' : Assoc.get? o' "type" = some (.str a.kind.tag) :=
      (ho' _ List.mem_cons_self).value rfl
    exact read_eq_ok.mpr ⟨a.kind, o', inner, tagged_eq_ok.mpr ⟨rfl, htag'⟩, hi,
      hretells.again o' ho' hextra⟩

end Action

end Storyboard
