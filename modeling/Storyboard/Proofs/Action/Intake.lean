import Storyboard.Action.Intake
import Storyboard.Proofs.Action.Restated

/-!
# What is taken in as an action

Data is taken in as an action, refused with a notice, or beyond looking at: the last
happens to objects whose `type` is a container that is not empty, and to nothing else. What
stands where an action is expected, at any depth, has to be an action for the data around it
to be one.
-/
namespace Storyboard

/-- The `type` of a value is a container with something in it. -/
def Json.HasContainerTag (v : Json) : Prop :=
  ∃ fields tag, v = .obj fields ∧ Assoc.get? fields "type" = some tag ∧
    ((∃ item items, tag = .arr (item :: items)) ∨ ∃ field more, tag = .obj (field :: more))

namespace Action

/-- The fields of a kind that hold follow-ups. -/
def followUpKeys : ActionKind → List Key
  | .submit => [Keys.onSuccess, Keys.onError]
  | .login => [Keys.onError]
  | .signup => [Keys.onError]
  | .logout => [Keys.onSuccess]
  | _ => []

/-- What stands under a field of an object, unless it is `null`. -/
def Occupies (u : Json) (key : Key) (fields : Assoc Json) : Prop :=
  u ≠ .null ∧ ∃ k, key.used? fields = some k ∧ Assoc.get? fields k = some u

/-- A value stands in another one where an action is expected. -/
inductive Inside (inner : Json) : Json → Prop
  | here : Inside inner inner
  | followUp {fields : Assoc Json} (kind : ActionKind)
    (tag : Assoc.get? fields "type" = some (.str kind.tag)) (key : Key)
    (holds : key ∈ followUpKeys kind) {u : Json} (at_ : Occupies u key fields)
    (below : Inside inner u) : Inside inner (.obj fields)
  | press {fields : Assoc Json} (tag : Assoc.get? fields "type" = some (.str ActionKind.popup.tag))
    {buttons : List Json} (at_ : Occupies (.arr buttons) (.plain "buttons") fields)
    {button : Assoc Json} (listed : .obj button ∈ buttons) {u : Json}
    (behind : Occupies u (.plain "action") button) (below : Inside inner u) :
    Inside inner (.obj fields)

/-- A value that is no action, however many levels are left for it. -/
def Unreadable (v : Json) : Prop := ∀ levels scope a, read levels scope v ≠ .ok a

/-- The ways in which data is refused. -/
inductive Refused : Json → Prop
  | notObject {v : Json} (h : v.fields? = none) : Refused v
  | untagged {fields : Assoc Json} (h : ∀ tag ∈ Assoc.get? fields "type", tag.truthy = false) :
    Refused (.obj fields)
  | unknown {fields : Assoc Json} {tag : Json} (h : Assoc.get? fields "type" = some tag)
    (plain : ∀ items, tag ≠ .arr items) (simple : ∀ more, tag ≠ .obj more)
    (other : ∀ kind : ActionKind, tag ≠ .str kind.tag) : Refused (.obj fields)
  | invalid {v : Json} (h : ∀ a, ofJson v ≠ .ok a) (tagged : ¬ v.HasContainerTag) : Refused v
  | nested {v inner : Json} (inside : Inside inner v) (h : Unreadable inner)
    (tagged : ¬ v.HasContainerTag) : Refused v

theorem tag_injective {kind other : ActionKind} (h : kind.tag = other.tag) : kind = other := by
  have hkind := ActionKind.ofTag?_tag kind
  rw [h, ActionKind.ofTag?_tag] at hkind
  exact (Option.some.inj hkind).symm

/-- What is read is an object with the tag of a kind. -/
theorem tag_of_read {levels : Nat} {scope : Scope} {v : Json} {a : Action}
    (h : read levels scope v = .ok a) :
    ∃ (fields : Assoc Json) (kind : ActionKind),
      v = .obj fields ∧ Assoc.get? fields "type" = some (.str kind.tag) := by
  obtain ⟨kind, fields, inner, ht, -⟩ := read_eq_ok.mp h
  obtain ⟨rfl, htag⟩ := tagged_eq_ok.mp ht
  exact ⟨fields, kind, rfl, htag⟩

/-- The readers inside an action read actions, with fewer levels left. -/
theorem innerAt_eq {levels : Nat} {scope : Scope} {kind : ActionKind} {inner : Inner}
    (h : innerAt levels scope kind = some inner) :
    ∃ l s press, inner = .of (read l s) press ∧ l < levels ∧
      ∀ f ∈ press, ∃ l s, f = read l s ∧ l < levels := by
  unfold innerAt at h
  split at h <;> cases h
  · exact ⟨_, _, _, rfl, by omega, nofun⟩
  · exact ⟨_, _, _, rfl, by omega, fun f hf => by cases hf; exact ⟨_, _, rfl, by omega⟩⟩
  · exact ⟨_, _, _, rfl, by omega, nofun⟩
  · exact ⟨_, _, _, rfl, by omega, fun f hf => by cases hf; exact ⟨_, _, rfl, by omega⟩⟩

/-- A field that is occupied is read. -/
theorem read_of_occupied {α : Type} {fields : Assoc Json} {key : Key} {read : Json → Check α}
    {slot : Slot α} (h : Read.slot fields key read = .ok slot) {u : Json}
    (at_ : Occupies u key fields) : ∃ b, read u = .ok b ∧ slot = .value b := by
  obtain ⟨hnull, k, hk, hu⟩ := at_
  rcases Read.slot_eq_ok.mp h with
    ⟨hnone, -⟩ | ⟨k', hk', hu', -⟩ | ⟨k', u', b, hk', hu', -, hb, hslot⟩
  · rw [hk] at hnone
    cases hnone
  · rw [hk] at hk'
    cases hk'
    exact absurd (Option.some.inj (hu.symm.trans hu')) hnull
  · rw [hk] at hk'
    cases hk'
    cases Option.some.inj (hu.symm.trans hu')
    exact ⟨b, hb, hslot⟩

/-- The follow-ups of an action are read. -/
theorem followUp_of_readAs {inner : Inner} {kind : ActionKind} {fields : Assoc Json} {a : Action}
    (h : readAs inner kind fields = .ok a) {key : Key} (holds : key ∈ followUpKeys kind) {u : Json}
    (at_ : Occupies u key fields) : ∃ b, inner.followUp u = .ok b := by
  have hslot : ∃ slot, Read.slot fields key inner.followUp = .ok slot := by
    cases kind <;> simp only [followUpKeys, List.mem_cons, List.not_mem_nil, or_false] at holds <;>
      simp only [readAs, Check.seq_eq_ok, Check.map_eq_ok] at h
    case submit =>
      obtain ⟨_, ⟨_, -, onSuccess, hsuccess, rfl⟩, onError, herror, -⟩ := h
      rcases holds with rfl | rfl
      · exact ⟨onSuccess, hsuccess⟩
      · exact ⟨onError, herror⟩
    case login =>
      obtain ⟨_, -, onError, herror, -⟩ := h
      exact ⟨onError, holds ▸ herror⟩
    case signup =>
      obtain ⟨_, -, onError, herror, -⟩ := h
      exact ⟨onError, holds ▸ herror⟩
    case logout =>
      obtain ⟨_, -, onSuccess, hsuccess, -⟩ := h
      exact ⟨onSuccess, holds ▸ hsuccess⟩
  obtain ⟨slot, hslot⟩ := hslot
  obtain ⟨b, hb, -⟩ := read_of_occupied hslot at_
  exact ⟨b, hb⟩

/-- The buttons of a popup are read, and the actions behind them. -/
theorem press_of_readAs {followUp : Json → Check Action} {press : Option (Json → Check Action)}
    {fields : Assoc Json} {a : Action} (h : readAs (.of followUp press) .popup fields = .ok a)
    {buttons : List Json} (at_ : Occupies (.arr buttons) (.plain "buttons") fields)
    {button : Assoc Json} (listed : .obj button ∈ buttons) {u : Json}
    (behind : Occupies u (.plain "action") button) : ∃ f ∈ press, ∃ b, f u = .ok b := by
  simp only [readAs, Check.seq_eq_ok, Check.map_eq_ok] at h
  obtain ⟨_, -, slot, hslot, -⟩ := h
  obtain ⟨shown, hshown, -⟩ := read_of_occupied hslot at_
  obtain ⟨items, hitems, hall⟩ := Read.list_eq_ok.mp hshown
  cases hitems
  obtain ⟨b, -, hb⟩ := exists_of_forall₂ hall listed
  change readButton press (.obj button) = .ok b at hb
  cases press with
  | none => cases hb
  | some f =>
    simp only [readButton, Read.object, Check.seq_eq_ok, Check.map_eq_ok] at hb
    obtain ⟨_, -, pressed, hpressed, -⟩ := hb
    obtain ⟨action, haction, -⟩ := read_of_occupied hpressed behind
    exact ⟨f, rfl, action, haction⟩

/-- A value inside an action is an action. -/
theorem Inside.readable {inner v : Json} (inside : Inside inner v) {levels : Nat} {scope : Scope}
    {a : Action} (h : read levels scope v = .ok a) :
    ∃ levels scope b, read levels scope inner = .ok b := by
  induction inside generalizing levels scope a with
  | here => exact ⟨levels, scope, a, h⟩
  | followUp kind tag key holds at_ below ih =>
    obtain ⟨kind', fields, readers, ht, hi, hread⟩ := read_eq_ok.mp h
    obtain ⟨hfields, htag⟩ := tagged_eq_ok.mp ht
    cases hfields
    cases tag_injective (Json.str.inj (Option.some.inj (tag.symm.trans htag)))
    obtain ⟨l, s, press, rfl, -, -⟩ := innerAt_eq hi
    obtain ⟨b, hb⟩ := followUp_of_readAs hread holds at_
    exact ih hb
  | press tag at_ listed behind below ih =>
    obtain ⟨kind', fields, readers, ht, hi, hread⟩ := read_eq_ok.mp h
    obtain ⟨hfields, htag⟩ := tagged_eq_ok.mp ht
    cases hfields
    cases tag_injective (Json.str.inj (Option.some.inj (tag.symm.trans htag)))
    obtain ⟨l, s, press, rfl, -, hpress⟩ := innerAt_eq hi
    obtain ⟨f, hf, b, hb⟩ := press_of_readAs hread at_ listed behind
    obtain ⟨l', s', rfl, -⟩ := hpress f hf
    exact ih hb

theorem truthy_tag (kind : ActionKind) : (Json.str kind.tag).truthy = true := by
  cases kind <;> decide

theorem Refused.not_read {v : Json} (h : Refused v) (a : Action) : ofJson v ≠ .ok a := by
  intro ha
  obtain ⟨fields, kind, hv, htag⟩ := tag_of_read ha
  cases h with
  | notObject h =>
    rw [hv] at h
    cases h
  | untagged h =>
    cases hv
    have hfalsy := h _ htag
    rw [truthy_tag] at hfalsy
    cases hfalsy
  | unknown h plain simple other =>
    cases hv
    exact other kind (Option.some.inj (h.symm.trans htag))
  | invalid h => exact h a ha
  | nested inside h =>
    obtain ⟨levels, scope, b, hb⟩ := inside.readable ha
    exact h levels scope b hb

theorem Refused.not_containerTag {v : Json} (h : Refused v) : ¬ v.HasContainerTag := by
  rintro ⟨fields, tag, rfl, htag, hcontainer⟩
  cases h with
  | notObject h => cases h
  | untagged h =>
    have hfalsy := h _ htag
    rcases hcontainer with ⟨item, items, rfl⟩ | ⟨field, more, rfl⟩ <;> cases hfalsy
  | unknown h plain simple other =>
    cases Option.some.inj (h.symm.trans htag)
    rcases hcontainer with ⟨item, items, rfl⟩ | ⟨field, more, rfl⟩
    · exact plain _ rfl
    · exact simple _ rfl
  | invalid h tagged => exact tagged ⟨fields, tag, rfl, htag, hcontainer⟩
  | nested inside h tagged => exact tagged ⟨fields, tag, rfl, htag, hcontainer⟩

/-- What becomes of data, and when. -/
inductive Verdict (v : Json) : Except TagFault Intake → Prop
  | beyond (fault : TagFault) (h : v.HasContainerTag) : Verdict v (.error fault)
  | refused (notices : List Notice) (h : Refused v) : Verdict v (.ok ⟨none, notices⟩)
  | taken (a : Action) (h : ofJson v = .ok a) : Verdict v (.ok ⟨some a, []⟩)

/-- Every piece of data gets a verdict. -/
theorem accept_verdict (v : Json) : Verdict v (accept v) := by
  cases v with
  | obj fields =>
    simp only [accept]
    cases htag : Assoc.get? fields "type" with
    | none => exact .refused _ (.untagged fun tag h => by rw [htag] at h; cases h)
    | some tag =>
      rw [Option.getD_some]
      cases htruthy : tag.truthy with
      | false =>
        refine .refused _ (.untagged fun tag' h => ?_)
        rw [htag] at h
        cases h
        exact htruthy
      | true =>
        have hunknown : ∀ {notices : List Notice}, (∀ items, tag ≠ .arr items) →
            (∀ more, tag ≠ .obj more) → (∀ kind : ActionKind, tag ≠ .str kind.tag) →
            Verdict (.obj fields) (.ok ⟨none, notices⟩) := fun plain simple other =>
          .refused _ (.unknown htag plain simple other)
        cases tag with
        | arr items =>
          cases items with
          | nil => cases htruthy
          | cons item items => exact .beyond _ ⟨fields, _, rfl, htag, .inl ⟨item, items, rfl⟩⟩
        | obj more =>
          cases more with
          | nil => cases htruthy
          | cons field more => exact .beyond _ ⟨fields, _, rfl, htag, .inr ⟨field, more, rfl⟩⟩
        | str s =>
          dsimp only [ActionKind.lookUp]
          cases hkind : ActionKind.ofTag? s with
          | none =>
            refine hunknown nofun nofun fun kind hs => ?_
            cases hs
            rw [ActionKind.ofTag?_tag] at hkind
            cases hkind
          | some kind =>
            dsimp only
            cases hread : ofJson (.obj fields) with
            | ok a => exact .taken a hread
            | bad issues =>
              refine .refused _ (.invalid (fun a ha => ?_) ?_)
              · rw [hread] at ha
                cases ha
              · rintro ⟨_, tag, hv, htag', ⟨_, _, rfl⟩ | ⟨_, _, rfl⟩⟩ <;> cases hv <;>
                  cases htag.symm.trans htag'
        | null => exact hunknown nofun nofun nofun
        | bool b => exact hunknown nofun nofun nofun
        | int n => exact hunknown nofun nofun nofun
        | float x => exact hunknown nofun nofun nofun
  | _ => exact .refused _ (.notObject rfl)

end Action

theorem Json.HasContainerTag.not_read {v : Json} (h : v.HasContainerTag) (a : Action) :
    Action.ofJson v ≠ .ok a := by
  intro ha
  obtain ⟨fields, tag, rfl, htag, hcontainer⟩ := h
  obtain ⟨fields', kind, hv, htag'⟩ := Action.tag_of_read ha
  cases hv
  cases Option.some.inj (htag.symm.trans htag')
  rcases hcontainer with ⟨item, items, htext⟩ | ⟨field, more, htext⟩ <;> cases htext

end Storyboard
