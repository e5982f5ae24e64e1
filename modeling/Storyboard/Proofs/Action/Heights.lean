import Storyboard.Proofs.Action.Branches
import Storyboard.Proofs.Action.Intake
import Storyboard.Proofs.Action.Levels

/-!
# Actions are no deeper than what they were read from

An action keeps values without a declared kind: its extra fields, the parameters of a
navigation, the value that a form field is set to. They stand in the value that the action was
read from, and so do the values that its follow-ups and the actions behind its buttons were
read from. So an action that was read from a value of few levels uses few levels: the levels of
the value, and one for each reader that is entered beside the current one.
-/
namespace Storyboard

namespace Json

theorem height_le_of_get? {fields : Assoc Json} {key : String} {u : Json}
    (h : Assoc.get? fields key = some u) : u.height ≤ heightFields fields :=
  heightFields_le.mp (Nat.le_refl _) _ (Assoc.mem_of_get? h)

theorem height_le_of_mem {items : List Json} {u : Json} (h : u ∈ items) :
    u.height ≤ heightItems items := heightItems_le.mp (Nat.le_refl _) u h

end Json

theorem heightFields_extraFields_le (keys : List Key) (o : Assoc Json) :
    Json.heightFields (extraFields keys o) ≤ Json.heightFields o :=
  Json.heightFields_le.mpr fun p hp =>
    Json.heightFields_le.mp (Nat.le_refl _) p (List.mem_filter.mp hp).1

namespace Read

variable {α : Type} {o : Assoc Json} {key : Key} {read : Json → Check α}

/-- The value of a field was read from one that stands in the object. -/
theorem below_of_slot {slot : Slot α} (h : Read.slot o key read = .ok slot) :
    ∀ a ∈ slot.toOption, ∃ u, read u = .ok a ∧ u.height ≤ Json.heightFields o := by
  rcases slot_eq_ok.mp h with ⟨-, rfl⟩ | ⟨-, -, -, rfl⟩ | ⟨_, u, a, -, hu, -, hread, rfl⟩
  · nofun
  · nofun
  · rintro _ ⟨⟩
    exact ⟨u, hread, Json.height_le_of_get? hu⟩

/-- The items of a list in a field were read from items that stand in the object. -/
theorem below_of_listSlot {slot : Slot (List α)} (h : Read.slot o key (list read) = .ok slot) :
    ∀ a ∈ slot.toOption.getD [], ∃ u, read u = .ok a ∧ u.height + 1 ≤ Json.heightFields o := by
  intro a ha
  cases slot with
  | value items =>
    obtain ⟨u, hu, hheight⟩ := below_of_slot h items rfl
    obtain ⟨vs, rfl, hall⟩ := list_eq_ok.mp hu
    obtain ⟨v, hv, hread⟩ := exists_of_forall₂_right hall ha
    exact ⟨v, hread, Nat.le_trans (Nat.succ_le_succ (Json.height_le_of_mem hv)) hheight⟩
  | null => cases ha
  | absent => cases ha

/-- A table without a declared kind is the one that stands in the object. -/
theorem below_of_anyTable {slot : Slot (Assoc Json)}
    (h : Read.slot o key (table anything) = .ok slot) :
    ∀ fields ∈ slot.toOption, Json.heightFields fields + 1 ≤ Json.heightFields o := by
  intro fields hfields
  obtain ⟨u, hu, hheight⟩ := below_of_slot h fields hfields
  obtain ⟨given, rfl, hall⟩ := table_eq_ok.mp hu
  refine Nat.le_trans (Nat.succ_le_succ (Json.heightFields_le.mpr fun p hp => ?_)) hheight
  obtain ⟨q, hq, -, hvalue⟩ := exists_of_forall₂_right hall hp
  rw [← Check.ok.inj hvalue]
  exact Json.heightFields_le.mp (Nat.le_refl _) q hq

end Read

theorem Scope.rank_pos (scope : Scope) : 1 ≤ scope.rank := by
  cases scope <;> exact Nat.le_add_left 1 _

/-- Entering an action takes a level, and one more for a reader of a lower rank. -/
theorem Scope.enter_of_room {scope : Scope} (kind : ActionKind) {m levels : Nat}
    (h : m + 1 + scope.rank ≤ levels) :
    ∃ l s, scope.enter kind levels = some (l, s) ∧ m + s.rank ≤ l := by
  have hrank := scope.rank_pos
  unfold enter
  split
  · rename_i own howned
    have hlower : own.rank < scope.rank := by
      unfold entered? at howned
      split at howned
      · split at howned
        · cases howned
          assumption
        · cases howned
      · cases howned
    have hown := own.rank_pos
    rw [if_pos (by omega)]
    exact ⟨_, _, rfl, by omega⟩
  · rw [if_pos (by omega)]
    exact ⟨_, _, rfl, by omega⟩

theorem CredentialFields.fits_of_le {a : CredentialFields} {levels : Nat}
    (h : Json.heightFields a.extra + 1 ≤ levels) : a.fits levels = true :=
  (Bool.and_eq_true _ _).mpr
    ⟨decide_eq_true (Nat.le_of_add_left_le h), decide_eq_true (Nat.le_sub_one_of_lt h)⟩

theorem followUpFits_of_forall {s : Slot Action} {l : Nat} {scope : Scope}
    (h : ∀ a ∈ s.toOption, a.fits l scope = true) : followUpFits l scope s = true := by
  cases s with
  | value a => rw [followUpFits]; exact h a rfl
  | _ => rfl

theorem buttonSlotFits_of_forall {s : Slot (List PopupButton)} {l : Nat}
    (h : ∀ b ∈ s.toOption.getD [], b.fits l = true) : buttonSlotFits l s = true := by
  cases s with
  | value buttons => rw [buttonSlotFits, buttonsFit_eq, List.all_eq_true]; exact h
  | _ => rfl

theorem PopupButton.fits_of_forall {b : PopupButton} {levels : Nat}
    (extra : Json.heightFields b.extra + 1 ≤ levels)
    (action : ∀ a ∈ b.action.toOption, a.fits (levels - 1) .button = true) :
    b.fits levels = true := by
  obtain ⟨text, style, slot, fields⟩ := b
  rw [fits, followUpFits_of_forall action, Bool.and_true]
  exact (Bool.and_eq_true _ _).mpr
    ⟨decide_eq_true (Nat.le_of_add_left_le extra), decide_eq_true (Nat.le_sub_one_of_lt extra)⟩

namespace Action

/-- The levels of the values in an action that have no declared kind, the actions inside it
aside. -/
def ownHeight : Action → Nat
  | .navigate a => max (Json.heightFields (a.params.toOption.getD [])) (Json.heightFields a.extra)
  | .login a => max (Json.heightFields a.fields.extra + 1) (Json.heightFields a.extra)
  | .signup a => max (Json.heightFields a.fields.extra + 1) (Json.heightFields a.extra)
  | .setValue a => max ((a.value.map Json.height).getD 0) (Json.heightFields a.extra)
  | a => Json.heightFields a.extra

theorem extra_le_ownHeight (a : Action) : Json.heightFields a.extra ≤ a.ownHeight := by
  cases a with
  | navigate | login | signup | setValue => exact Nat.le_max_right _ _
  | _ => exact Nat.le_refl _

/-- An action fits once it is entered, and its own values, its follow-ups and its buttons fit
into the levels that are left. -/
theorem fits_of_enter {a : Action} {levels l : Nat} {scope s : Scope}
    (enter : scope.enter a.kind levels = some (l, s)) (own : a.ownHeight ≤ l)
    (branches : ∀ b ∈ a.branches, b.fits l s = true)
    (buttons : ∀ b ∈ a.buttons, b.fits l = true) : a.fits levels scope = true := by
  have hextra : fieldsFit l a.extra = true :=
    decide_eq_true (Nat.le_trans a.extra_le_ownHeight own)
  cases a with
  | navigate a =>
    rw [kind] at enter
    rw [fits, Scope.fits, enter]
    refine (Bool.and_eq_true _ _).mpr ⟨?_, hextra⟩
    cases hparams : a.params with
    | value fields =>
      rw [ownHeight, hparams] at own
      exact decide_eq_true (Nat.le_trans (Nat.le_max_left _ _) own)
    | _ => rfl
  | popup a =>
    obtain ⟨title, message, style, slot, extra⟩ := a
    rw [kind] at enter
    rw [fits, Scope.fits, enter]
    exact (Bool.and_eq_true _ _).mpr ⟨buttonSlotFits_of_forall buttons, hextra⟩
  | goBack a | deleteRecord a | openUrl a =>
    rw [kind] at enter
    rw [fits, Scope.fits, enter]
    exact hextra
  | submit a =>
    obtain ⟨target, endpoint, method, headers, table, fields, onSuccess, onError, extra⟩ := a
    rw [kind] at enter
    rw [fits, enter]
    dsimp only
    rw [followUpFits_of_forall fun b hb => branches b (mem_branches_submit.mpr (.inl hb)),
      followUpFits_of_forall fun b hb => branches b (mem_branches_submit.mpr (.inr hb))]
    exact hextra
  | login a =>
    obtain ⟨fields, onError, extra⟩ := a
    rw [kind] at enter
    rw [fits, enter]
    dsimp only
    rw [followUpFits_of_forall fun b hb => branches b (mem_branches_login.mpr hb), Bool.and_true]
    exact (Bool.and_eq_true _ _).mpr ⟨CredentialFields.fits_of_le (le_of_max_le_left own), hextra⟩
  | signup a =>
    obtain ⟨fields, onError, extra⟩ := a
    rw [kind] at enter
    rw [fits, enter]
    dsimp only
    rw [followUpFits_of_forall fun b hb => branches b (mem_branches_signup.mpr hb), Bool.and_true]
    exact (Bool.and_eq_true _ _).mpr ⟨CredentialFields.fits_of_le (le_of_max_le_left own), hextra⟩
  | logout a =>
    obtain ⟨onSuccess, extra⟩ := a
    rw [kind] at enter
    rw [fits, enter]
    dsimp only
    rw [followUpFits_of_forall fun b hb => branches b (mem_branches_logout.mpr hb)]
    exact hextra
  | setValue a =>
    rw [kind] at enter
    rw [fits, Scope.fits, enter]
    refine (Bool.and_eq_true _ _).mpr ⟨?_, hextra⟩
    cases hvalue : a.value with
    | some v =>
      rw [ownHeight, hvalue] at own
      exact decide_eq_true (Nat.le_trans (Nat.le_max_left _ _) own)
    | none => rfl

theorem credentialFields_below {v : Json} {fields : CredentialFields}
    (h : credentialFields v = .ok fields) : Json.heightFields fields.extra + 1 ≤ v.height := by
  obtain ⟨o, rfl, hfields⟩ := Read.record_eq_ok h
  simp only [Check.seq_eq_ok, Check.map_eq_ok] at hfields
  obtain ⟨_, ⟨email, -, rfl⟩, password, -, rfl⟩ := hfields
  exact Nat.succ_le_succ (heightFields_extraFields_le _ o)

/-- What stands in an action was read from what stands in an object. -/
structure Below (inner : Inner) (o : Assoc Json) (a : Action) : Prop where
  own : a.ownHeight ≤ Json.heightFields o
  branches : ∀ b ∈ a.branches, ∃ u, inner.followUp u = .ok b ∧ u.height ≤ Json.heightFields o
  buttons : ∀ b ∈ a.buttons, ∃ u, inner.button u = .ok b ∧ u.height + 1 ≤ Json.heightFields o

/-- A login and a signup have values of their own among the credentials. -/
theorem ownHeight_signIn_le {followUp : Json → Check Action}
    {press : Option (Json → Check Action)} {key : Key} {o : Assoc Json}
    {fields : CredentialFields}
    (h : Read.required o key (Inner.of followUp press).credentials = .ok fields)
    (keys : List Key) :
    max (Json.heightFields fields.extra + 1) (Json.heightFields (extraFields keys o)) ≤
      Json.heightFields o := by
  obtain ⟨_, u, -, hu, hread⟩ := Read.required_eq_ok.mp h
  cases press with
  | none => cases hread
  | some press =>
    exact Nat.max_le.mpr ⟨Nat.le_trans (credentialFields_below hread) (Json.height_le_of_get? hu),
      heightFields_extraFields_le keys o⟩

theorem below_of_readAs {followUp : Json → Check Action} {press : Option (Json → Check Action)}
    {kind : ActionKind} {o : Assoc Json} {a : Action}
    (h : readAs (.of followUp press) kind o = .ok a) : a.Below (.of followUp press) o := by
  have hextra := fun keys => heightFields_extraFields_le keys o
  cases kind <;> simp only [readAs, Check.seq_eq_ok, Check.map_eq_ok] at h
  case navigate =>
    obtain ⟨_, ⟨_, ⟨_, ⟨_, -, rfl⟩, _, -, rfl⟩, params, hparams, rfl⟩, _, -, rfl⟩ := h
    refine ⟨Nat.max_le.mpr ⟨?_, hextra _⟩, List.forall_mem_nil _, List.forall_mem_nil _⟩
    cases params with
    | value fields => exact Nat.le_of_succ_le (Read.below_of_anyTable hparams fields rfl)
    | null | absent => exact Nat.zero_le _
  case popup =>
    obtain ⟨_, ⟨_, ⟨_, ⟨_, ⟨_, -, rfl⟩, _, -, rfl⟩, _, -, rfl⟩, _, -, rfl⟩, buttons, hbuttons,
      rfl⟩ := h
    exact ⟨hextra _, List.forall_mem_nil _, Read.below_of_listSlot hbuttons⟩
  case goBack =>
    obtain ⟨_, -, rfl⟩ := h
    exact ⟨hextra _, List.forall_mem_nil _, List.forall_mem_nil _⟩
  case submit =>
    obtain ⟨_, ⟨_, ⟨_, ⟨_, ⟨_, ⟨_, ⟨_, ⟨_, ⟨_, -, rfl⟩, _, -, rfl⟩, _, -, rfl⟩, _, -, rfl⟩, _, -,
      rfl⟩, _, -, rfl⟩, _, -, rfl⟩, onSuccess, hsuccess, rfl⟩, onError, herror, rfl⟩ := h
    refine ⟨hextra _, fun b hb => ?_, List.forall_mem_nil _⟩
    rcases mem_branches_submit.mp hb with hb | hb
    · exact Read.below_of_slot hsuccess b hb
    · exact Read.below_of_slot herror b hb
  case deleteRecord =>
    obtain ⟨_, ⟨_, ⟨_, -, rfl⟩, _, -, rfl⟩, _, -, rfl⟩ := h
    exact ⟨hextra _, List.forall_mem_nil _, List.forall_mem_nil _⟩
  case login =>
    obtain ⟨_, ⟨_, ⟨_, -, rfl⟩, fields, hfields, rfl⟩, onError, herror, rfl⟩ := h
    exact ⟨ownHeight_signIn_le hfields _,
      fun b hb => Read.below_of_slot herror b (mem_branches_login.mp hb), List.forall_mem_nil _⟩
  case signup =>
    obtain ⟨_, ⟨_, ⟨_, -, rfl⟩, fields, hfields, rfl⟩, onError, herror, rfl⟩ := h
    exact ⟨ownHeight_signIn_le hfields _,
      fun b hb => Read.below_of_slot herror b (mem_branches_signup.mp hb), List.forall_mem_nil _⟩
  case logout =>
    obtain ⟨_, ⟨_, -, rfl⟩, onSuccess, hsuccess, rfl⟩ := h
    exact ⟨hextra _, fun b hb => Read.below_of_slot hsuccess b (mem_branches_logout.mp hb),
      List.forall_mem_nil _⟩
  case setValue =>
    obtain ⟨_, ⟨_, ⟨_, -, rfl⟩, _, -, rfl⟩, value, hvalue, rfl⟩ := h
    refine ⟨Nat.max_le.mpr ⟨?_, hextra _⟩, List.forall_mem_nil _, List.forall_mem_nil _⟩
    obtain ⟨-, rfl⟩ | ⟨_, u, v, -, hu, hv, rfl⟩ := Read.optional_eq_ok.mp hvalue
    · exact Nat.zero_le _
    · cases hv
      exact Json.height_le_of_get? hu
  case openUrl =>
    obtain ⟨_, ⟨_, ⟨_, -, rfl⟩, _, -, rfl⟩, _, -, rfl⟩ := h
    exact ⟨hextra _, List.forall_mem_nil _, List.forall_mem_nil _⟩

/-- What stands in a button was read from what stands in an object. -/
theorem button_below {press : Option (Json → Check Action)} {v : Json} {b : PopupButton}
    (h : readButton press v = .ok b) :
    Json.heightFields b.extra + 1 ≤ v.height ∧
      ∀ a ∈ b.action.toOption, ∃ f ∈ press, ∃ u, f u = .ok a ∧ u.height + 1 ≤ v.height := by
  cases press with
  | none => cases h
  | some f =>
    obtain ⟨o, rfl, hfields⟩ := Read.record_eq_ok h
    simp only [Check.seq_eq_ok, Check.map_eq_ok] at hfields
    obtain ⟨_, ⟨_, ⟨_, -, rfl⟩, _, -, rfl⟩, action, haction, rfl⟩ := hfields
    refine ⟨Nat.succ_le_succ (heightFields_extraFields_le _ o), fun a ha => ⟨f, rfl, ?_⟩⟩
    obtain ⟨u, hu, hheight⟩ := Read.below_of_slot haction a ha
    exact ⟨u, hu, Nat.succ_le_succ hheight⟩

/-- A value of few levels fits, whatever the levels it was read with. Each level of the value
pays for one level of the action, and each reader for entering it once: entering a nested reader
costs a second level, but it is of a lower rank. -/
theorem fits_of_read {levels : Nat} {scope : Scope} {v : Json} {a : Action}
    (h : read levels scope v = .ok a) {room : Nat} {s : Scope}
    (hv : v.height + s.rank ≤ room) : a.fits room s = true := by
  induction levels using Nat.strongRecOn generalizing scope v a room s with
  | ind levels ih =>
    obtain ⟨kind, o, inner, htagged, hi, hread⟩ := read_eq_ok.mp h
    obtain ⟨rfl, -⟩ := tagged_eq_ok.mp htagged
    obtain ⟨below, scope', press, rfl, hl, hpress⟩ := innerAt_eq hi
    obtain ⟨hown, hbranches, hbuttons⟩ := below_of_readAs hread
    obtain ⟨l, s', henter, hroom⟩ := Scope.enter_of_room a.kind hv
    have hrank := s'.rank_pos
    refine fits_of_enter henter (by omega) (fun b hb => ?_) fun b hb => ?_
    · obtain ⟨u, hu, hheight⟩ := hbranches b hb
      exact ih below hl hu (by omega)
    · obtain ⟨u, hu, hheight⟩ := hbuttons b hb
      obtain ⟨hextra, haction⟩ := button_below hu
      refine PopupButton.fits_of_forall (by omega) fun c hc => ?_
      obtain ⟨f, hf, w, hw, hwheight⟩ := haction c hc
      obtain ⟨below', scope'', rfl, hl'⟩ := hpress f hf
      have hone : Scope.button.rank = 1 := rfl
      exact ih below' hl' hw (by omega)

/-- The own values of an action and of its follow-ups are of limited height, and the actions
behind its buttons, which are not performed before a press, can be dumped. -/
inductive Shallow (n : Nat) : Action → Prop
  | mk {a : Action} (own : a.ownHeight ≤ n) (branches : ∀ b ∈ a.branches, Shallow n b)
    (presses : ∀ b ∈ a.presses, b.fits nestingLimit .outside = true) : Shallow n a

/-- Actions that were read from values of few levels are shallow, by induction on the levels they
were read with. -/
theorem shallow_of_read {levels n : Nat} {scope : Scope} {v : Json} {a : Action}
    (h : read levels scope v = .ok a) (hv : v.height ≤ n + 1)
    (hn : n + 6 ≤ nestingLimit) : a.Shallow n := by
  induction levels using Nat.strongRecOn generalizing scope v a with
  | ind levels ih =>
    obtain ⟨kind, o, inner, htagged, hi, hread⟩ := read_eq_ok.mp h
    obtain ⟨rfl, -⟩ := tagged_eq_ok.mp htagged
    obtain ⟨below, scope', press, rfl, hl, hpress⟩ := innerAt_eq hi
    obtain ⟨hown, hbranches, hbuttons⟩ := below_of_readAs hread
    have ho : Json.heightFields o ≤ n := Nat.le_of_succ_le_succ hv
    refine .mk (Nat.le_trans hown ho) (fun b hb => ?_) fun b hb => ?_
    · obtain ⟨u, hu, hheight⟩ := hbranches b hb
      exact ih below hl hu (by omega)
    · obtain ⟨button, hbutton, haction⟩ := mem_presses.mp hb
      obtain ⟨u, hu, hheight⟩ := hbuttons button hbutton
      obtain ⟨f, hf, w, hw, hwheight⟩ := (button_below hu).2 b haction
      obtain ⟨below', scope'', rfl, -⟩ := hpress f hf
      have hrank : Scope.outside.rank = 8 := rfl
      exact fits_of_read hw (by omega)

end Action

end Storyboard
