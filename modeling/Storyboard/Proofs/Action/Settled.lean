import Storyboard.Action.Writer
import Storyboard.Proofs.Action.Branches
import Storyboard.Proofs.Document.Restated

/-!
# Actions once they were written and read again

Values without a declared kind lose their numbers that are not finite; everything else
stays. A settled action is dumped like the action itself, and it uses as many levels.
-/
namespace Storyboard

def CredentialFields.settled (a : CredentialFields) : CredentialFields :=
  { a with extra := Json.finitizeFields a.extra }

mutual

/-- An action as it is read again. -/
def Action.settled : Action → Action
  | .navigate a =>
    .navigate { a with
      params := a.params.map Json.finitizeFields, extra := Json.finitizeFields a.extra }
  | .popup ⟨title, message, style, buttons, extra⟩ =>
    .popup ⟨title, message, style, settledButtonSlot buttons, Json.finitizeFields extra⟩
  | .goBack a => .goBack ⟨Json.finitizeFields a.extra⟩
  | .submit ⟨target, endpoint, method, headers, table, fields, onSuccess, onError, extra⟩ =>
    .submit ⟨target, endpoint, method, headers, table, fields, settledFollowUp onSuccess,
      settledFollowUp onError, Json.finitizeFields extra⟩
  | .deleteRecord a => .deleteRecord { a with extra := Json.finitizeFields a.extra }
  | .login ⟨fields, onError, extra⟩ =>
    .login ⟨fields.settled, settledFollowUp onError, Json.finitizeFields extra⟩
  | .signup ⟨fields, onError, extra⟩ =>
    .signup ⟨fields.settled, settledFollowUp onError, Json.finitizeFields extra⟩
  | .logout ⟨onSuccess, extra⟩ =>
    .logout ⟨settledFollowUp onSuccess, Json.finitizeFields extra⟩
  | .setValue a =>
    .setValue { a with value := a.value.map Json.finitize, extra := Json.finitizeFields a.extra }
  | .openUrl a => .openUrl { a with extra := Json.finitizeFields a.extra }

def PopupButton.settled : PopupButton → PopupButton
  | ⟨text, style, action, extra⟩ =>
    ⟨text, style, settledFollowUp action, Json.finitizeFields extra⟩

def settledButtons : List PopupButton → List PopupButton
  | [] => []
  | b :: rest => b.settled :: settledButtons rest

def settledButtonSlot : Slot (List PopupButton) → Slot (List PopupButton)
  | .value buttons => .value (settledButtons buttons)
  | .null => .null
  | .absent => .absent

def settledFollowUp : Slot Action → Slot Action
  | .value a => .value a.settled
  | .null => .null
  | .absent => .absent

end

@[simp] theorem settledFollowUp_eq (s : Slot Action) :
    settledFollowUp s = s.map Action.settled := by
  cases s with
  | value a => rw [settledFollowUp]; rfl
  | null => rw [settledFollowUp]; rfl
  | absent => rw [settledFollowUp]; rfl

theorem settledButtons_eq (buttons : List PopupButton) :
    settledButtons buttons = buttons.map PopupButton.settled := by
  induction buttons with
  | nil => rw [settledButtons]; rfl
  | cons b rest ih => rw [settledButtons, ih]; rfl

@[simp] theorem settledButtonSlot_eq (s : Slot (List PopupButton)) :
    settledButtonSlot s = s.map (List.map PopupButton.settled) := by
  cases s with
  | value buttons => rw [settledButtonSlot, settledButtons_eq]; rfl
  | null => rw [settledButtonSlot]; rfl
  | absent => rw [settledButtonSlot]; rfl

theorem ofSlot_followUp (mode : Mode) (key : Key) (s : Slot Action) :
    (⟨key, s.isGiven, dumpFollowUp mode s⟩ : Entry) = .ofSlot key (Action.dump mode) s := by
  cases s with
  | value a => rfl
  | null => simp only [dumpFollowUp]; rfl
  | absent => simp only [dumpFollowUp]; rfl

theorem dumpButtons_eq (mode : Mode) (buttons : List PopupButton) :
    dumpButtons mode buttons = buttons.map (PopupButton.dump mode) := by
  induction buttons with
  | nil => rw [dumpButtons]; rfl
  | cons b rest ih => rw [dumpButtons, ih]; rfl

theorem ofSlot_buttons (mode : Mode) (key : Key) (s : Slot (List PopupButton)) :
    (⟨key, s.isGiven, dumpButtonSlot mode s⟩ : Entry) =
      .ofSlot key (fun buttons => .arr (buttons.map (PopupButton.dump mode))) s := by
  cases s with
  | value buttons => rw [dumpButtonSlot, dumpButtons_eq]; rfl
  | null => simp only [dumpButtonSlot]; rfl
  | absent => simp only [dumpButtonSlot]; rfl

section Entries

variable {α : Type} (key : Key)

@[simp] theorem Entry.reread_ofSlot_str (s : Slot String) :
    (Entry.ofSlot key .str s).reread = .ofSlot key .str s := by
  cases s <;> rfl

@[simp] theorem Entry.reread_ofSlot_name (name : α → String) (s : Slot α) :
    (Entry.ofSlot key (fun a => .str (name a)) s).reread =
      .ofSlot key (fun a => .str (name a)) s := by
  cases s <;> rfl

@[simp] theorem Entry.reread_ofSlot_bool (s : Slot Bool) :
    (Entry.ofSlot key .bool s).reread = .ofSlot key .bool s := by
  cases s <;> rfl

theorem reread_textTable (fields : Assoc String) :
    (textTable fields).reread = textTable fields := by
  rw [textTable, Json.reread_obj, Assoc.mapValues_mapValues]
  rfl

@[simp] theorem Entry.reread_ofSlot_textTable (s : Slot (Assoc String)) :
    (Entry.ofSlot key textTable s).reread = .ofSlot key textTable s := by
  cases s with
  | value fields => exact congrArg (Entry.mk key true) (reread_textTable fields)
  | null => rfl
  | absent => rfl

/-- Values without a declared kind are read again as they were written. -/
@[simp] theorem Entry.ofSlot_anyFields (s : Slot (Assoc Json)) :
    Entry.ofSlot key (fun fields => .obj (Mode.asWritten.anyFields fields))
        (s.map Json.finitizeFields) =
      (Entry.ofSlot key (fun fields => .obj (Mode.asWritten.anyFields fields)) s).reread := by
  refine Entry.ofSlot_map fun fields _ => ?_
  rw [Json.reread_obj]
  refine congrArg Json.obj ?_
  exact (Json.finitizeFields_finitizeFields fields).trans
    (Json.mapValues_reread_finitizeFields fields).symm

@[simp] theorem Entry.ofOption_any (x : Option Json) :
    Entry.ofOption key Mode.asWritten.any .null (x.map Json.finitize) =
      (Entry.ofOption key Mode.asWritten.any .null x).reread := by
  refine Entry.ofOption_map rfl fun v _ => ?_
  exact (Json.finitize_finitize v).trans (Json.reread_finitize v).symm

/-- A list settles item by item. -/
theorem Entry.ofSlot_list {dump : α → Json} {settle : α → α} {s : Slot (List α)}
    (h : ∀ xs ∈ s.toOption, ∀ x ∈ xs, dump (settle x) = (dump x).reread) :
    Entry.ofSlot key (fun xs => .arr (xs.map dump)) (s.map (List.map settle)) =
      (Entry.ofSlot key (fun xs => .arr (xs.map dump)) s).reread := by
  refine Entry.ofSlot_map fun xs hxs => ?_
  rw [Json.reread_arr, List.map_map, List.map_map]
  exact congrArg Json.arr (List.map_congr_left (h xs hxs))

end Entries

theorem Action.dump_eq (mode : Mode) (a : Action) :
    a.dump mode = assemble mode (.always Keys.type (.str a.kind.tag) :: a.entries mode) a.extra :=
  rfl

theorem CredentialFields.dump_settled (a : CredentialFields) :
    a.settled.dump .asWritten = (a.dump .asWritten).reread := by
  rw [CredentialFields.dump, CredentialFields.dump, reread_assemble]
  rfl

/-- The dump of an action is read again as the dump of the settled one, if its entries are. -/
theorem Action.dump_settled_of_entries {a : Action} (hkind : a.settled.kind = a.kind)
    (hextra : a.settled.extra = Json.finitizeFields a.extra)
    (hentries : a.settled.entries .asWritten = (a.entries .asWritten).map Entry.reread) :
    a.settled.dump .asWritten = (a.dump .asWritten).reread := by
  rw [Action.dump_eq, Action.dump_eq, reread_assemble, hkind, hextra, hentries]
  rfl

theorem Action.hereditary_dump_settled :
    Action.Hereditary (fun a => a.settled.dump .asWritten = (a.dump .asWritten).reread)
      (fun b => b.settled.dump .asWritten = (b.dump .asWritten).reread) where
  button b ih := by
    obtain ⟨text, style, action, extra⟩ := b
    rw [PopupButton.settled, PopupButton.dump, PopupButton.dump, reread_assemble]
    simp [ofSlot_followUp, Entry.ofSlot_map ih]
  navigate a := by
    refine dump_settled_of_entries rfl rfl ?_
    simp [Action.settled, Action.entries]
  popup a ih := by
    obtain ⟨title, message, style, buttons, extra⟩ := a
    refine dump_settled_of_entries (by rw [Action.settled]; rfl) (by rw [Action.settled]; rfl) ?_
    simp [Action.settled, Action.entries, ofSlot_buttons, Entry.ofSlot_list _ ih]
  goBack a := dump_settled_of_entries rfl rfl rfl
  submit a hs he := by
    obtain ⟨target, endpoint, method, headers, table, fields, onSuccess, onError, extra⟩ := a
    refine dump_settled_of_entries (by rw [Action.settled]; rfl) (by rw [Action.settled]; rfl) ?_
    simp [Action.settled, Action.entries, ofSlot_followUp, Entry.ofSlot_map hs,
      Entry.ofSlot_map he]
  deleteRecord a := by
    obtain ⟨table, id, extra⟩ := a
    refine dump_settled_of_entries rfl rfl ?_
    cases id <;> rfl
  login a ih := by
    obtain ⟨fields, onError, extra⟩ := a
    refine dump_settled_of_entries (by rw [Action.settled]; rfl) (by rw [Action.settled]; rfl) ?_
    simp [Action.settled, Action.entries, ofSlot_followUp, Entry.ofSlot_map ih,
      CredentialFields.dump_settled]
  signup a ih := by
    obtain ⟨fields, onError, extra⟩ := a
    refine dump_settled_of_entries (by rw [Action.settled]; rfl) (by rw [Action.settled]; rfl) ?_
    simp [Action.settled, Action.entries, ofSlot_followUp, Entry.ofSlot_map ih,
      CredentialFields.dump_settled]
  logout a ih := by
    obtain ⟨onSuccess, extra⟩ := a
    refine dump_settled_of_entries (by rw [Action.settled]; rfl) (by rw [Action.settled]; rfl) ?_
    simp [Action.settled, Action.entries, ofSlot_followUp, Entry.ofSlot_map ih]
  setValue a := by
    refine dump_settled_of_entries rfl rfl ?_
    simp [Action.settled, Action.entries]
  openUrl a := by
    refine dump_settled_of_entries rfl rfl ?_
    simp [Action.settled, Action.entries]

/-- The dump of an action is read again as the dump of the settled action. -/
theorem Action.dump_settled (a : Action) :
    a.settled.dump .asWritten = (a.dump .asWritten).reread :=
  hereditary_dump_settled.all a

end Storyboard
