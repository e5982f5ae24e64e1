import Storyboard.Document.Reader
import Storyboard.Proofs.Action.Branches
import Storyboard.Proofs.Action.Intake

/-!
# Extra fields of what was read

Extra fields are kept beside the declared ones. In what was read, at any depth, no extra
field has the spelling under which a declared one is written, so a dump hides none of them.
-/
namespace Storyboard

/-- No extra field has the spelling under which a declared one is written. -/
def Aside (keys : List Key) (extra : Assoc Json) : Prop :=
  ∀ key ∈ keys, key.external ∉ Assoc.keys extra

theorem aside_extraFields (keys : List Key) (o : Assoc Json) : Aside keys (extraFields keys o) :=
  fun _ h => external_not_extraFields h o

/-- An action and everything inside it keep their extra fields aside. -/
inductive Action.Tidy : Action → Prop
  | mk {a : Action} (own : Aside (Keys.ofAction a.kind) a.extra)
    (buttons : ∀ b ∈ a.buttons, Aside Keys.button b.extra)
    (branches : ∀ b ∈ a.branches, Tidy b) (presses : ∀ b ∈ a.presses, Tidy b) : Tidy a

/-- A component and everything below it keep their extra fields aside. -/
inductive Component.Tidy : Component → Prop
  | mk {c : Component} (own : Aside Keys.component c.extra)
    (action : ∀ a ∈ c.action.toOption, a.Tidy) (below : ∀ x ∈ c.childComponents, Tidy x) : Tidy c

structure Screen.Tidy (s : Screen) : Prop where
  own : Aside Keys.screen s.extra
  components : ∀ c ∈ s.childComponents, c.Tidy

/-- The parts of a document around its screens keep their extra fields aside. -/
structure Definition.Tidy (d : Definition) : Prop where
  own : Aside Keys.definition d.extra
  app : Aside Keys.metadata d.app.extra
  authentication : ∀ auth ∈ d.authentication, Aside Keys.authentication auth.extra

namespace Action

/-- Where the parts of an action come from that was read from an object. -/
structure Made (inner : Inner) (kind : ActionKind) (o : Assoc Json) (a : Action) : Prop where
  kind_eq : a.kind = kind
  extra : a.extra = extraFields (Keys.ofAction kind) o
  branches : ∀ b ∈ a.branches, ∃ u, inner.followUp u = .ok b
  buttons : ∀ b ∈ a.buttons, ∃ u, inner.button u = .ok b

theorem made_of_readAs {inner : Inner} {kind : ActionKind} {o : Assoc Json} {a : Action}
    (h : readAs inner kind o = .ok a) : a.Made inner kind o := by
  have followUp : ∀ {key : Key} {slot : Slot Action},
      Read.slot o key inner.followUp = .ok slot →
        ∀ b ∈ slot.toOption, ∃ u, inner.followUp u = .ok b := Read.of_slot_ok
  cases kind <;> simp only [readAs, Check.seq_eq_ok, Check.map_eq_ok] at h
  case navigate =>
    obtain ⟨_, ⟨_, ⟨_, ⟨_, -, rfl⟩, _, -, rfl⟩, _, -, rfl⟩, _, -, rfl⟩ := h
    exact ⟨rfl, rfl, List.forall_mem_nil _, List.forall_mem_nil _⟩
  case popup =>
    obtain ⟨_, ⟨_, ⟨_, ⟨_, ⟨_, -, rfl⟩, _, -, rfl⟩, _, -, rfl⟩, _, -, rfl⟩, buttons, hbuttons,
      rfl⟩ := h
    exact ⟨rfl, rfl, List.forall_mem_nil _, Read.of_listSlot_ok hbuttons⟩
  case goBack =>
    obtain ⟨_, -, rfl⟩ := h
    exact ⟨rfl, rfl, List.forall_mem_nil _, List.forall_mem_nil _⟩
  case submit =>
    obtain ⟨_, ⟨_, ⟨_, ⟨_, ⟨_, ⟨_, ⟨_, ⟨_, ⟨_, -, rfl⟩, _, -, rfl⟩, _, -, rfl⟩, _, -, rfl⟩, _, -,
      rfl⟩, _, -, rfl⟩, _, -, rfl⟩, onSuccess, hsuccess, rfl⟩, onError, herror, rfl⟩ := h
    refine ⟨rfl, rfl, fun b hb => ?_, List.forall_mem_nil _⟩
    rcases mem_branches_submit.mp hb with hb | hb
    · exact followUp hsuccess b hb
    · exact followUp herror b hb
  case deleteRecord =>
    obtain ⟨_, ⟨_, ⟨_, -, rfl⟩, _, -, rfl⟩, _, -, rfl⟩ := h
    exact ⟨rfl, rfl, List.forall_mem_nil _, List.forall_mem_nil _⟩
  case login =>
    obtain ⟨_, ⟨_, ⟨_, -, rfl⟩, _, -, rfl⟩, onError, herror, rfl⟩ := h
    exact ⟨rfl, rfl, fun b hb => followUp herror b (mem_branches_login.mp hb),
      List.forall_mem_nil _⟩
  case signup =>
    obtain ⟨_, ⟨_, ⟨_, -, rfl⟩, _, -, rfl⟩, onError, herror, rfl⟩ := h
    exact ⟨rfl, rfl, fun b hb => followUp herror b (mem_branches_signup.mp hb),
      List.forall_mem_nil _⟩
  case logout =>
    obtain ⟨_, ⟨_, -, rfl⟩, onSuccess, hsuccess, rfl⟩ := h
    exact ⟨rfl, rfl, fun b hb => followUp hsuccess b (mem_branches_logout.mp hb),
      List.forall_mem_nil _⟩
  case setValue =>
    obtain ⟨_, ⟨_, ⟨_, -, rfl⟩, _, -, rfl⟩, _, -, rfl⟩ := h
    exact ⟨rfl, rfl, List.forall_mem_nil _, List.forall_mem_nil _⟩
  case openUrl =>
    obtain ⟨_, ⟨_, ⟨_, -, rfl⟩, _, -, rfl⟩, _, -, rfl⟩ := h
    exact ⟨rfl, rfl, List.forall_mem_nil _, List.forall_mem_nil _⟩

/-- Where the parts of a button come from that was read. -/
theorem button_of_read {press : Option (Json → Check Action)} {v : Json} {b : PopupButton}
    (h : readButton press v = .ok b) :
    Aside Keys.button b.extra ∧ ∀ a ∈ b.action.toOption, ∃ f ∈ press, ∃ u, f u = .ok a := by
  cases press with
  | none => cases h
  | some f =>
    obtain ⟨o, -, hfields⟩ := Read.record_eq_ok h
    simp only [Check.seq_eq_ok, Check.map_eq_ok] at hfields
    obtain ⟨_, ⟨_, ⟨_, -, rfl⟩, _, -, rfl⟩, action, haction, rfl⟩ := hfields
    exact ⟨aside_extraFields _ o, fun a ha => ⟨f, rfl, Read.of_slot_ok haction a ha⟩⟩

/-- Actions that were read are tidy, by induction on the levels left for them. -/
theorem tidy_of_read {levels : Nat} {scope : Scope} {v : Json} {a : Action}
    (h : read levels scope v = .ok a) : a.Tidy := by
  induction levels using Nat.strongRecOn generalizing scope v a with
  | ind levels ih =>
    obtain ⟨kind, o, inner, -, hi, hread⟩ := read_eq_ok.mp h
    obtain ⟨l, s, press, rfl, hl, hpress⟩ := innerAt_eq hi
    obtain ⟨rfl, hextra, hbranches, hbuttons⟩ := made_of_readAs hread
    refine .mk ?_ ?_ ?_ ?_
    · rw [hextra]
      exact aside_extraFields _ o
    · intro b hb
      obtain ⟨u, hu⟩ := hbuttons b hb
      exact (button_of_read hu).1
    · intro b hb
      obtain ⟨u, hu⟩ := hbranches b hb
      exact ih l hl hu
    · intro b hb
      obtain ⟨button, hbutton, haction⟩ := mem_presses.mp hb
      obtain ⟨u, hu⟩ := hbuttons button hbutton
      obtain ⟨f, hf, w, hw⟩ := (button_of_read hu).2 b haction
      obtain ⟨l', s', rfl, hl'⟩ := hpress f hf
      exact ih l' hl' hw

end Action

namespace Read

/-- Components that were read are tidy, by induction on the levels left for them. -/
theorem tidy_of_component {levels : Nat} {v : Json} {c : Component}
    (h : component levels v = .ok c) : c.Tidy := by
  induction levels generalizing v c with
  | zero => cases h
  | succ levels ih =>
    obtain ⟨o, -, hfields⟩ := record_eq_ok h
    simp only [Check.seq_eq_ok, Check.map_eq_ok] at hfields
    obtain ⟨_, ⟨_, ⟨_, ⟨_, ⟨_, ⟨_, ⟨_, ⟨_, ⟨_, ⟨_, ⟨_, -, rfl⟩, _, -, rfl⟩, _, -, rfl⟩, _, -, rfl⟩,
      action, haction, rfl⟩, _, -, rfl⟩, _, -, rfl⟩, _, -, rfl⟩, _, -, rfl⟩, children, hchildren,
      rfl⟩, components, hcomponents, rfl⟩ := hfields
    refine .mk (aside_extraFields _ o) ?_ (List.forall_mem_append.mpr ⟨?_, ?_⟩)
    · intro a ha
      obtain ⟨u, hu⟩ := of_slot_ok haction a ha
      exact Action.tidy_of_read hu
    · intro x hx
      obtain ⟨u, hu⟩ := of_listSlot_ok hchildren x hx
      exact ih hu
    · intro x hx
      obtain ⟨u, hu⟩ := of_listSlot_ok hcomponents x hx
      exact ih hu

theorem tidy_of_screen {v : Json} {s : Screen} (h : screen v = .ok s) : s.Tidy := by
  obtain ⟨o, -, hfields⟩ := record_eq_ok h
  simp only [Check.seq_eq_ok, Check.map_eq_ok] at hfields
  obtain ⟨_, ⟨_, ⟨_, ⟨_, ⟨_, -, rfl⟩, _, -, rfl⟩, _, -, rfl⟩, components, hcomponents, rfl⟩, _, -,
    rfl⟩ := hfields
  refine ⟨aside_extraFields _ o, fun c hc => ?_⟩
  obtain ⟨u, hu⟩ := of_listSlot_ok hcomponents c hc
  exact tidy_of_component hu

/-- A document is read from its declared fields and its extra ones. -/
theorem definition_eq_ok {o : Assoc Json} {d : Definition} :
    definition (.obj o) = .ok d ↔
      required o (.plain "version") text = .ok d.version ∧
      required o (.plain "app") metadata = .ok d.app ∧
      required o (.plain "screens") (table screen) = .ok d.screens ∧
      required o Keys.initialScreen text = .ok d.initialScreen ∧
      extraFields Keys.definition o = d.extra := by
  simp only [definition, record_obj, Check.seq_eq_ok, Check.map_eq_ok]
  constructor
  · rintro ⟨_, ⟨_, ⟨_, ⟨version, hversion, rfl⟩, app, happ, rfl⟩, screens, hscreens, rfl⟩, initial,
      hinitial, rfl⟩
    exact ⟨hversion, happ, hscreens, hinitial, rfl⟩
  · rintro ⟨hversion, happ, hscreens, hinitial, hextra⟩
    rw [hextra]
    exact ⟨_, ⟨_, ⟨_, ⟨_, hversion, rfl⟩, _, happ, rfl⟩, _, hscreens, rfl⟩, _, hinitial, rfl⟩

/-- An app is read from its declared fields and its extra ones. -/
theorem metadata_eq_ok {o : Assoc Json} {m : Metadata} :
    metadata (.obj o) = .ok m ↔
      required o (.plain "name") text = .ok m.name ∧
      slot o (.plain "theme") theme = .ok m.theme ∧
      slot o Keys.designTokens (table tokenValue) = .ok m.designTokens ∧
      slot o Keys.databaseSchema (table databaseTable) = .ok m.databaseSchema ∧
      slot o (.plain "authentication") authentication = .ok m.authentication ∧
      extraFields Keys.metadata o = m.extra := by
  simp only [metadata, record_obj, Check.seq_eq_ok, Check.map_eq_ok]
  constructor
  · rintro ⟨_, ⟨_, ⟨_, ⟨_, ⟨name, hname, rfl⟩, theme, htheme, rfl⟩, tokens, htokens, rfl⟩, tables,
      htables, rfl⟩, auth, hauth, rfl⟩
    exact ⟨hname, htheme, htokens, htables, hauth, rfl⟩
  · rintro ⟨hname, htheme, htokens, htables, hauth, hextra⟩
    rw [hextra]
    exact ⟨_, ⟨_, ⟨_, ⟨_, ⟨_, hname, rfl⟩, _, htheme, rfl⟩, _, htokens, rfl⟩, _, htables, rfl⟩, _,
      hauth, rfl⟩

/-- The screens of a document that was read are tidy. -/
theorem tidy_of_definition {v : Json} {d : Definition} (h : definition v = .ok d) :
    ∀ p ∈ d.screens, p.2.Tidy := by
  obtain ⟨o, rfl, -⟩ := record_eq_ok h
  obtain ⟨-, -, hscreens, -⟩ := definition_eq_ok.mp h
  obtain ⟨_, _, -, -, htable⟩ := required_eq_ok.mp hscreens
  obtain ⟨_, -, hall⟩ := table_eq_ok.mp htable
  intro p hp
  obtain ⟨field, -, -, hread⟩ := exists_of_forall₂_right hall hp
  exact tidy_of_screen hread

theorem aside_of_authentication {v : Json} {auth : Authentication}
    (h : authentication v = .ok auth) : Aside Keys.authentication auth.extra := by
  obtain ⟨o, -, hfields⟩ := record_eq_ok h
  simp only [Check.seq_eq_ok, Check.map_eq_ok] at hfields
  obtain ⟨_, ⟨_, ⟨_, ⟨_, ⟨_, ⟨_, -, rfl⟩, _, -, rfl⟩, _, -, rfl⟩, _, -, rfl⟩, _, -, rfl⟩, _, -,
    rfl⟩ := hfields
  exact aside_extraFields _ o

/-- A document that was read is tidy around its screens. -/
theorem tidy_around_screens {v : Json} {d : Definition} (h : definition v = .ok d) : d.Tidy := by
  obtain ⟨o, rfl, -⟩ := record_eq_ok h
  obtain ⟨-, happ, -, -, hextra⟩ := definition_eq_ok.mp h
  obtain ⟨_, u, -, -, hmetadata⟩ := required_eq_ok.mp happ
  obtain ⟨app, rfl, -⟩ := record_eq_ok hmetadata
  obtain ⟨-, -, -, -, hauth, happExtra⟩ := metadata_eq_ok.mp hmetadata
  refine ⟨hextra ▸ aside_extraFields _ o, happExtra ▸ aside_extraFields _ app, fun a ha => ?_⟩
  obtain ⟨w, hw⟩ := of_slot_ok hauth a ha
  exact aside_of_authentication hw

end Read

end Storyboard
