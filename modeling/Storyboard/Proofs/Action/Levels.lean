import Storyboard.Proofs.Action.Settled

/-!
# Levels of nesting of actions

A settled action uses as many levels as the action. What fits into a number of levels is
dumped into at most twice as many levels of JSON: a list takes a level of its own there.
-/
namespace Storyboard

@[simp] theorem fieldsFit_finitizeFields (levels : Nat) (fields : Assoc Json) :
    fieldsFit levels (Json.finitizeFields fields) = fieldsFit levels fields := by
  rw [fieldsFit, fieldsFit, Json.heightFields_finitizeFields]

@[simp] theorem valueFits_finitize (levels : Nat) (v : Json) :
    valueFits levels v.finitize = valueFits levels v := by
  rw [valueFits, valueFits, Json.height_finitize]

@[simp] theorem slotFits_map (levels : Nat) (s : Slot (Assoc Json)) :
    slotFits levels (s.map Json.finitizeFields) = slotFits levels s := by
  cases s with
  | value fields => exact fieldsFit_finitizeFields levels fields
  | _ => rfl

@[simp] theorem CredentialFields.fits_settled (levels : Nat) (a : CredentialFields) :
    a.settled.fits levels = a.fits levels := by
  simp [fits, settled]

theorem followUpFits_map {s : Slot Action}
    (h : ∀ a ∈ s.toOption, ∀ levels scope, a.settled.fits levels scope = a.fits levels scope)
    (levels : Nat) (scope : Scope) :
    followUpFits levels scope (s.map Action.settled) = followUpFits levels scope s := by
  cases s with
  | value a =>
    rw [Slot.map, followUpFits, followUpFits]
    exact h a rfl levels scope
  | _ => simp [Slot.map, followUpFits]

theorem buttonsFit_eq (levels : Nat) (buttons : List PopupButton) :
    buttonsFit levels buttons = buttons.all (·.fits levels) := by
  induction buttons with
  | nil => rw [buttonsFit]; rfl
  | cons b rest ih => rw [buttonsFit, ih, List.all_cons]

theorem buttonSlotFits_map {s : Slot (List PopupButton)}
    (h : ∀ bs ∈ s.toOption, ∀ b ∈ bs, ∀ levels, b.settled.fits levels = b.fits levels)
    (levels : Nat) :
    buttonSlotFits levels (s.map (List.map PopupButton.settled)) = buttonSlotFits levels s := by
  cases s with
  | value bs =>
    rw [Slot.map, buttonSlotFits, buttonSlotFits, buttonsFit_eq, buttonsFit_eq, List.all_map,
      Bool.eq_iff_iff, List.all_eq_true, List.all_eq_true]
    exact forall₂_congr fun b hb => by rw [Function.comp_apply, h bs rfl b hb]
  | _ => simp [Slot.map, buttonSlotFits]

theorem Action.hereditary_fits_settled :
    Action.Hereditary (fun a => ∀ levels scope, a.settled.fits levels scope = a.fits levels scope)
      (fun b => ∀ levels, b.settled.fits levels = b.fits levels) where
  button b ih levels := by
    obtain ⟨text, style, action, extra⟩ := b
    simp [PopupButton.settled, PopupButton.fits, followUpFits_map ih]
  navigate a levels scope := by simp [settled, fits]
  popup a ih levels scope := by
    obtain ⟨title, message, style, buttons, extra⟩ := a
    simp [settled, fits, buttonSlotFits_map ih]
  goBack a levels scope := by simp [settled, fits]
  submit a hs he levels scope := by
    obtain ⟨target, endpoint, method, headers, table, fields, onSuccess, onError, extra⟩ := a
    simp [settled, fits, followUpFits_map hs, followUpFits_map he]
  deleteRecord a levels scope := by simp [settled, fits]
  login a ih levels scope := by
    obtain ⟨fields, onError, extra⟩ := a
    simp [settled, fits, followUpFits_map ih]
  signup a ih levels scope := by
    obtain ⟨fields, onError, extra⟩ := a
    simp [settled, fits, followUpFits_map ih]
  logout a ih levels scope := by
    obtain ⟨onSuccess, extra⟩ := a
    simp [settled, fits, followUpFits_map ih]
  setValue a levels scope := by
    obtain ⟨target, value, extra⟩ := a
    cases value <;> simp [settled, fits]
  openUrl a levels scope := by simp [settled, fits]

theorem Action.fits_settled (a : Action) (levels : Nat) (scope : Scope) :
    a.settled.fits levels scope = a.fits levels scope :=
  hereditary_fits_settled.all a levels scope

theorem height_assemble_le {entries : List Entry} {extra : Assoc Json} {n : Nat}
    (hentries : ∀ e ∈ entries, e.value.height ≤ n) (hextra : Json.heightFields extra ≤ n) :
    (assemble .asWritten entries extra).height ≤ n + 1 := by
  refine Nat.succ_le_succ (Json.heightFields_le.mpr fun p hp => ?_)
  rcases Assoc.mem_putAll hp with hp | hp
  · obtain ⟨e, he, rfl⟩ := List.mem_map.mp hp
    exact hentries e (List.mem_filter.mp he).1
  · have hfinite : Json.heightFields (Json.finitizeFields extra) ≤ n := by
      rwa [Json.heightFields_finitizeFields]
    exact Json.heightFields_le.mp hfinite p hp

theorem height_dump_le {α : Type} {dump : α → Json} {s : Slot α} {n : Nat} (hn : 1 ≤ n)
    (h : ∀ a ∈ s.toOption, (dump a).height ≤ n) : (s.dump dump).height ≤ n := by
  cases s with
  | value a => exact h a rfl
  | _ => exact hn

theorem height_scalar_le {α : Type} {dump : α → Json} (h : ∀ a, (dump a).height = 1)
    (s : Slot α) (n : Nat) : (s.dump dump).height ≤ n + 1 :=
  height_dump_le (Nat.le_add_left 1 n) fun a _ => Nat.le_trans (Nat.le_of_eq (h a))
    (Nat.le_add_left 1 n)

theorem height_list_le {α : Type} {dump : α → Json} {xs : List α} {n : Nat}
    (h : ∀ x ∈ xs, (dump x).height ≤ n) : (Json.arr (xs.map dump)).height ≤ n + 1 := by
  refine Nat.succ_le_succ (Json.heightItems_le.mpr fun w hw => ?_)
  obtain ⟨x, hx, rfl⟩ := List.mem_map.mp hw
  exact h x hx

theorem height_dumpTable_le {α : Type} {dump : α → Json} {table : Assoc α} {n : Nat}
    (h : ∀ p ∈ table, (dump p.2).height ≤ n) :
    (Json.obj (Assoc.mapValues dump table)).height ≤ n + 1 := by
  refine Nat.succ_le_succ (Json.heightFields_le.mpr fun w hw => ?_)
  obtain ⟨p, hp, rfl⟩ := List.mem_map.mp hw
  exact h p hp

theorem height_textTable_le (fields : Assoc String) : (textTable fields).height ≤ 2 :=
  height_dumpTable_le fun _ _ => Nat.le_refl 1

theorem height_anyFields_le {fields : Assoc Json} {levels : Nat}
    (h : fieldsFit levels fields = true) :
    (Json.obj (Mode.asWritten.anyFields fields)).height ≤ levels + 1 := by
  refine Nat.succ_le_succ ?_
  have hfinite := Json.heightFields_finitizeFields fields
  exact Nat.le_trans (Nat.le_of_eq hfinite) (of_decide_eq_true h)

theorem height_slot_le {s : Slot (Assoc Json)} {levels : Nat} (h : slotFits levels s = true) :
    (s.dump fun fields => .obj (Mode.asWritten.anyFields fields)).height ≤ levels + 1 := by
  refine height_dump_le (Nat.succ_le_succ (Nat.zero_le levels)) fun fields hfields => ?_
  cases s with
  | value given => cases hfields; exact height_anyFields_le h
  | _ => cases hfields

theorem CredentialFields.height_dump_le {a : CredentialFields} {levels : Nat}
    (h : a.fits levels = true) : (a.dump .asWritten).height ≤ levels + 1 := by
  simp only [fits, fieldsFit, Bool.and_eq_true, decide_eq_true_eq] at h
  refine height_assemble_le ?_ (by omega)
  simp only [List.forall_mem_cons]
  exact ⟨h.1, h.1, List.forall_mem_nil _⟩

theorem Scope.enter_le {scope inner : Scope} {kind : ActionKind} {levels l : Nat}
    (h : scope.enter kind levels = some (l, inner)) : l + 1 ≤ levels := by
  unfold enter at h
  split at h <;> split at h <;> cases h <;> omega

theorem Scope.fits_eq_true {scope : Scope} {kind : ActionKind} {levels : Nat}
    {content : Nat → Bool} (h : scope.fits kind levels content = true) :
    ∃ l, l + 1 ≤ levels ∧ content l = true := by
  unfold fits at h
  split at h
  · exact ⟨_, Scope.enter_le ‹_›, h⟩
  · cases h

theorem followUp_fits {s : Slot Action} {levels : Nat} {scope : Scope}
    (h : followUpFits levels scope s = true) : ∀ a ∈ s.toOption, a.fits levels scope = true := by
  intro a ha
  cases s with
  | value given => cases ha; rwa [followUpFits] at h
  | _ => cases ha

theorem button_fits {s : Slot (List PopupButton)} {levels : Nat}
    (h : buttonSlotFits levels s = true) :
    ∀ bs ∈ s.toOption, ∀ b ∈ bs, b.fits levels = true := by
  intro bs hbs
  cases s with
  | value given =>
    cases hbs
    rw [buttonSlotFits, buttonsFit_eq, List.all_eq_true] at h
    exact h
  | _ => cases hbs

namespace Action

/-- A follow-up that fits is not higher than the entries of its action may be. -/
theorem height_followUp_le {s : Slot Action} {l : Nat} {scope : Scope}
    (ih : ∀ a ∈ s.toOption, ∀ levels scope, a.fits levels scope = true →
      (a.dump .asWritten).height ≤ 2 * levels + 1)
    (h : followUpFits l scope s = true) :
    (s.dump (Action.dump .asWritten)).height ≤ 2 * l + 1 :=
  Storyboard.height_dump_le (by omega) fun a ha => ih a ha l scope (followUp_fits h a ha)

/-- An action is as high as its entries, and one level more. -/
theorem height_dump_of_entries {a : Action} {l levels : Nat} (hl : l + 1 ≤ levels)
    (hentries : ∀ e ∈ a.entries .asWritten, e.value.height ≤ 2 * l + 2)
    (hextra : fieldsFit l a.extra = true) : (a.dump .asWritten).height ≤ 2 * levels + 1 := by
  have hextra' : Json.heightFields a.extra ≤ l := of_decide_eq_true hextra
  have hall : ∀ e ∈ Entry.always Keys.type (.str a.kind.tag) :: a.entries .asWritten,
      e.value.height ≤ 2 * l + 2 :=
    List.forall_mem_cons.mpr ⟨Nat.le_add_left 1 (2 * l + 1), hentries⟩
  have hheight := height_assemble_le hall (by omega : Json.heightFields a.extra ≤ 2 * l + 2)
  rw [dump_eq]
  omega

/-- The entries of a login and of a signup are of bounded height. -/
theorem height_signIn_entries_le {fields : CredentialFields} {onError : Slot Action} {l : Nat}
    {scope : Scope}
    (ih : ∀ a ∈ onError.toOption, ∀ levels scope, a.fits levels scope = true →
      (a.dump .asWritten).height ≤ 2 * levels + 1)
    (h : fields.fits l = true ∧ followUpFits l scope onError = true) :
    ∀ e ∈ [Entry.always (.plain "fields") (fields.dump .asWritten),
      .ofSlot Keys.onError (Action.dump .asWritten) onError], e.value.height ≤ 2 * l + 2 := by
  have hfields := CredentialFields.height_dump_le h.1
  have herror := height_followUp_le ih h.2
  simp only [List.forall_mem_cons]
  exact ⟨Nat.le_trans hfields (by omega), Nat.le_succ_of_le herror, List.forall_mem_nil _⟩

theorem hereditary_height :
    Action.Hereditary
      (fun a => ∀ levels scope, a.fits levels scope = true →
        (a.dump .asWritten).height ≤ 2 * levels + 1)
      (fun b => ∀ levels, b.fits levels = true → (b.dump .asWritten).height ≤ 2 * levels) where
  button b ih levels h := by
    obtain ⟨text, style, action, extra⟩ := b
    simp only [PopupButton.fits, Bool.and_eq_true, decide_eq_true_eq] at h
    obtain ⟨⟨hlevels, hextra⟩, haction⟩ := h
    have hextra' : Json.heightFields extra ≤ levels - 1 := of_decide_eq_true hextra
    have hheight := height_followUp_le ih haction
    rw [PopupButton.dump, ofSlot_followUp]
    refine Nat.le_trans (height_assemble_le (n := 2 * (levels - 1) + 1) ?_ (by omega)) (by omega)
    simp only [List.forall_mem_cons]
    exact ⟨Nat.le_add_left 1 _, height_scalar_le (fun _ => rfl) style _, hheight,
      List.forall_mem_nil _⟩
  navigate a levels scope h := by
    rw [fits] at h
    obtain ⟨l, hl, hcontent⟩ := Scope.fits_eq_true h
    obtain ⟨hparams, hextra⟩ := (Bool.and_eq_true _ _).mp hcontent
    have hheight := height_slot_le hparams
    refine height_dump_of_entries hl ?_ hextra
    simp only [entries, List.forall_mem_cons]
    exact ⟨Nat.le_add_left 1 _, Nat.le_trans hheight (by omega),
      height_scalar_le (fun _ => rfl) a.transition _, List.forall_mem_nil _⟩
  popup a ih levels scope h := by
    obtain ⟨title, message, style, buttons, extra⟩ := a
    rw [fits] at h
    obtain ⟨l, hl, hcontent⟩ := Scope.fits_eq_true h
    obtain ⟨hbuttons, hextra⟩ := (Bool.and_eq_true _ _).mp hcontent
    refine height_dump_of_entries hl ?_ hextra
    simp only [entries, ofSlot_buttons, List.forall_mem_cons]
    refine ⟨height_scalar_le (fun _ => rfl) title _, Nat.le_add_left 1 _,
      height_scalar_le (fun _ => rfl) style _, ?_, List.forall_mem_nil _⟩
    refine Storyboard.height_dump_le (by omega) fun bs hbs => ?_
    have hlist := height_list_le fun b hb => ih bs hbs b hb l (button_fits hbuttons bs hbs b hb)
    exact Nat.le_trans hlist (by omega)
  goBack a levels scope h := by
    rw [fits] at h
    obtain ⟨l, hl, hextra⟩ := Scope.fits_eq_true h
    exact height_dump_of_entries hl (List.forall_mem_nil _) hextra
  submit a hs he levels scope h := by
    obtain ⟨target, endpoint, method, headers, table, fields, onSuccess, onError, extra⟩ := a
    rw [fits] at h
    split at h
    · rename_i l inner henter
      simp only [Bool.and_eq_true] at h
      obtain ⟨⟨hsuccess, herror⟩, hextra⟩ := h
      have htable : ∀ s : Slot (Assoc String), (s.dump textTable).height ≤ 2 * l + 2 := fun s =>
        Storyboard.height_dump_le (by omega) fun fields _ =>
          Nat.le_trans (height_textTable_le fields) (Nat.le_add_left 2 _)
      refine height_dump_of_entries (Scope.enter_le henter) ?_ hextra
      simp only [entries, ofSlot_followUp, List.forall_mem_cons]
      exact ⟨height_scalar_le (fun _ => rfl) target _, height_scalar_le (fun _ => rfl) endpoint _,
        height_scalar_le (fun _ => rfl) method _, htable headers,
        height_scalar_le (fun _ => rfl) table _, htable fields,
        Nat.le_succ_of_le (height_followUp_le hs hsuccess),
        Nat.le_succ_of_le (height_followUp_le he herror), List.forall_mem_nil _⟩
    · cases h
  deleteRecord a levels scope h := by
    rw [fits] at h
    obtain ⟨l, hl, hextra⟩ := Scope.fits_eq_true h
    refine height_dump_of_entries hl ?_ hextra
    simp only [entries, List.forall_mem_cons]
    refine ⟨Nat.le_add_left 1 _, ?_, List.forall_mem_nil _⟩
    cases a.recordId <;> exact Nat.le_add_left 1 _
  login a ih levels scope h := by
    obtain ⟨fields, onError, extra⟩ := a
    rw [fits] at h
    split at h
    · rename_i l inner henter
      simp only [Bool.and_eq_true] at h
      obtain ⟨hfits, hextra⟩ := h
      refine height_dump_of_entries (Scope.enter_le henter) ?_ hextra
      simp only [entries, ofSlot_followUp]
      exact height_signIn_entries_le ih hfits
    · cases h
  signup a ih levels scope h := by
    obtain ⟨fields, onError, extra⟩ := a
    rw [fits] at h
    split at h
    · rename_i l inner henter
      simp only [Bool.and_eq_true] at h
      obtain ⟨hfits, hextra⟩ := h
      refine height_dump_of_entries (Scope.enter_le henter) ?_ hextra
      simp only [entries, ofSlot_followUp]
      exact height_signIn_entries_le ih hfits
    · cases h
  logout a ih levels scope h := by
    obtain ⟨onSuccess, extra⟩ := a
    rw [fits] at h
    split at h
    · rename_i l inner henter
      obtain ⟨hsuccess, hextra⟩ := (Bool.and_eq_true _ _).mp h
      refine height_dump_of_entries (Scope.enter_le henter) ?_ hextra
      simp only [entries, ofSlot_followUp, List.forall_mem_cons]
      exact ⟨Nat.le_succ_of_le (height_followUp_le ih hsuccess), List.forall_mem_nil _⟩
    · cases h
  setValue a levels scope h := by
    obtain ⟨target, value, extra⟩ := a
    rw [fits] at h
    obtain ⟨l, hl, hcontent⟩ := Scope.fits_eq_true h
    obtain ⟨hvalue, hextra⟩ := (Bool.and_eq_true _ _).mp hcontent
    refine height_dump_of_entries hl ?_ hextra
    simp only [entries, List.forall_mem_cons]
    refine ⟨Nat.le_add_left 1 _, ?_, List.forall_mem_nil _⟩
    cases value with
    | none => exact Nat.le_add_left 1 _
    | some v =>
      have hv : v.finitize.height ≤ l := by
        rw [Json.height_finitize]
        exact of_decide_eq_true hvalue
      exact Nat.le_trans hv (by omega)
  openUrl a levels scope h := by
    rw [fits] at h
    obtain ⟨l, hl, hextra⟩ := Scope.fits_eq_true h
    refine height_dump_of_entries hl ?_ hextra
    simp only [entries, List.forall_mem_cons]
    exact ⟨Nat.le_add_left 1 _, height_scalar_le (fun _ => rfl) a.external _, List.forall_mem_nil _⟩

/-- The dump of an action that fits is bounded. -/
theorem height_dump_le {a : Action} {levels : Nat} {scope : Scope}
    (h : a.fits levels scope = true) : (a.dump .asWritten).height ≤ 2 * levels + 1 :=
  hereditary_height.all a levels scope h

end Action

end Storyboard
