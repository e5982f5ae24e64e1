import Storyboard.Proofs.Document.Serialization
import Storyboard.Proofs.Document.Tidy
import Storyboard.Proofs.Stages

/-!
# Documents without dangling references

Validation searches the dump of a document, and an app runs the document itself. What the
search finds answered is what the actions need: every screen and every table that an action
names, wherever in a screen it stands, in whatever follow-up and behind whatever button.
-/
namespace Storyboard

/-- A component or one below it has an action. -/
inductive Component.Holds (a : Action) : Component → Prop
  | own {c : Component} (own : a ∈ c.action.toOption) : Holds a c
  | child {c x : Component} (listed : x ∈ c.childComponents) (holds : Holds a x) : Holds a c

namespace Definition

/-- An action occurs in a document: as the action of a component at any depth of a screen,
or inside such an action. -/
inductive Offers (d : Definition) : Action → Prop
  | component {p : String × Screen} (screen : p ∈ d.screens) {c : Component}
    (listed : c ∈ p.2.childComponents) {a : Action} (holds : c.Holds a) : Offers d a
  | branch {a b : Action} (offered : Offers d a) (inside : b ∈ a.branches) : Offers d b
  | press {a b : Action} (offered : Offers d a) (inside : b ∈ a.presses) : Offers d b

/-- A document has the screen or the table that an action names by itself. -/
def Knows (d : Definition) : Action → Prop
  | .navigate a => d.namesScreen a.target = true
  | .submit a => ∀ table ∈ a.table.toOption, table ∈ d.tableNames
  | .deleteRecord a => a.table ∈ d.tableNames
  | _ => True

/-- A document has every screen and every table that is named inside an action. -/
inductive Supports (d : Definition) : Action → Prop
  | mk {a : Action} (own : d.Knows a) (branches : ∀ b ∈ a.branches, Supports d b)
    (presses : ∀ b ∈ a.presses, Supports d b) : Supports d a

/-- A document has the screens it leads to by itself and supports its actions. -/
structure Sound (d : Definition) : Prop where
  initial : d.namesScreen d.initialScreen = true
  login : ∀ auth ∈ d.authentication, d.namesScreen auth.postLoginScreen = true
  redirect : ∀ auth ∈ d.authentication, d.namesScreen auth.authRedirectScreen = true
  actions : ∀ a, d.Offers a → d.Supports a

/-- A search of a value finds nothing that dangles. -/
def Answers (d : Definition) (v : Json) : Prop :=
  ∃ path refs, Reference.within path v = .ok refs ∧ ∀ r ∈ refs, d.declares r = true

end Definition

/-- A field with a text refers to what has that name. -/
theorem Reference.mem_ofField {kind : ReferenceKind} {path : List String} {key name : String}
    {fields : Assoc Json} (h : Assoc.get? fields key = some (.str name)) :
    ⟨kind, name, path ++ [key]⟩ ∈ ofField kind path key fields := by
  rw [ofField, h]
  exact List.mem_cons_self

namespace Definition.Answers

variable {d : Definition}

/-- A search of a list searches its items. -/
theorem item {items : List Json} (h : d.Answers (.arr items)) : ∀ u ∈ items, d.Answers u := by
  obtain ⟨path, refs, hrefs, hdeclared⟩ := h
  rw [Reference.within] at hrefs
  generalize 0 = index at hrefs
  induction items generalizing index refs with
  | nil => exact List.forall_mem_nil _
  | cons v rest ih =>
    simp only [Reference.withinItems, Stages.bind_eq_ok] at hrefs
    obtain ⟨here, hhere, others, hothers, hrefs⟩ := hrefs
    cases hrefs
    obtain ⟨hdeclared, hlater⟩ := List.forall_mem_append.mp hdeclared
    exact List.forall_mem_cons.mpr ⟨⟨_, here, hhere, hdeclared⟩, ih others hlater _ hothers⟩

/-- A search of an object searches its fields. -/
theorem field {fields : Assoc Json} (h : d.Answers (.obj fields)) :
    ∀ p ∈ fields, d.Answers p.2 := by
  obtain ⟨path, refs, hrefs, hdeclared⟩ := h
  simp only [Reference.within, Stages.bind_eq_ok] at hrefs
  obtain ⟨own, -, below, hbelow, hrefs⟩ := hrefs
  cases hrefs
  replace hdeclared := (List.forall_mem_append.mp hdeclared).2
  induction fields generalizing below with
  | nil => exact List.forall_mem_nil _
  | cons p rest ih =>
    simp only [Reference.withinFields, Stages.bind_eq_ok] at hbelow
    obtain ⟨here, hhere, others, hothers, hbelow⟩ := hbelow
    cases hbelow
    obtain ⟨hdeclared, hlater⟩ := List.forall_mem_append.mp hdeclared
    exact List.forall_mem_cons.mpr ⟨⟨_, here, hhere, hdeclared⟩, ih others hothers hlater⟩

/-- A search of an object with the tag of an action finds what the action names. -/
theorem own {fields : Assoc Json} (h : d.Answers (.obj fields)) {kind : ActionKind}
    (tag : Assoc.get? fields "type" = some (.str kind.tag)) {name : String} :
    (kind = .navigate → Assoc.get? fields "target" = some (.str name) →
      d.namesScreen name = true) ∧
    (kind = .submit ∨ kind = .deleteRecord → Assoc.get? fields "table" = some (.str name) →
      name ∈ d.tableNames) := by
  obtain ⟨path, refs, hrefs, hdeclared⟩ := h
  simp only [Reference.within, Reference.ofObject, Stages.bind_eq_ok, tag, Option.getD_some,
    ActionKind.lookUp, ActionKind.ofTag?_tag] at hrefs
  obtain ⟨own, ⟨_, hkind, hown⟩, below, -, hrefs⟩ := hrefs
  cases hkind
  cases hown
  cases hrefs
  simp only [Reference.ofAction, List.forall_mem_append] at hdeclared
  obtain ⟨⟨⟨⟨htarget, -⟩, htable⟩, -⟩, -⟩ := hdeclared
  refine ⟨fun hkind hname => ?_, fun hkind hname => ?_⟩
  · rw [if_pos hkind] at htarget
    exact htarget _ (Reference.mem_ofField hname)
  · rw [if_pos hkind] at htable
    exact List.contains_iff_mem.mp (htable _ (Reference.mem_ofField hname))

end Definition.Answers

/-- The dump of a part that keeps its extra fields aside. -/
structure Definition.AnswersPart (d : Definition) (part : Part) (entries : List Entry)
    (extra : Assoc Json) : Prop where
  answers : d.Answers (assemble .asWritten entries extra)
  keys : entries.map (·.key) = part.keys
  aside : Aside part.keys extra

namespace Definition.AnswersPart

variable {d : Definition} {part : Part} {entries : List Entry} {extra : Assoc Json}

/-- The given fields of a part stand in its dump, which is searched. -/
theorem fields (h : d.AnswersPart part entries extra) :
    ∃ fields, d.Answers (.obj fields) ∧
      ∀ e ∈ entries, e.given = true → Assoc.get? fields e.key.external = some e.value := by
  have hdistinct : (entries.map (·.key.external)).Nodup := by
    have hkeys := part.keysApart.distinct
    rwa [← h.keys, List.map_map] at hkeys
  have haside : ∀ e ∈ entries, e.key.external ∉ Assoc.keys extra := fun e he =>
    h.aside e.key (h.keys ▸ List.mem_map_of_mem he)
  obtain ⟨fields, hfields, hget⟩ := get?_assemble hdistinct haside
  exact ⟨fields, hfields ▸ h.answers, hget⟩

theorem entry (h : d.AnswersPart part entries extra) {e : Entry} (he : e ∈ entries)
    (given : e.given = true) : d.Answers e.value := by
  obtain ⟨fields, hanswers, hget⟩ := h.fields
  exact hanswers.field _ (Assoc.mem_of_get? (hget e he given))

theorem slot (h : d.AnswersPart part entries extra) {α : Type} (key : Key) {dump : α → Json}
    {slot : Slot α} (he : .ofSlot key dump slot ∈ entries) :
    ∀ x ∈ slot.toOption, d.Answers (dump x) := by
  intro x hx
  cases slot with
  | value y =>
    cases hx
    exact h.entry he rfl
  | null => cases hx
  | absent => cases hx

theorem listSlot (h : d.AnswersPart part entries extra) {α : Type} (key : Key) {dump : α → Json}
    {slot : Slot (List α)} (he : .ofSlot key (fun xs => .arr (xs.map dump)) slot ∈ entries) :
    ∀ x ∈ slot.toOption.getD [], d.Answers (dump x) := by
  intro x hx
  cases slot with
  | value xs => exact (h.slot key he xs rfl).item _ (List.mem_map_of_mem hx)
  | null => cases hx
  | absent => cases hx

end Definition.AnswersPart

namespace Action

theorem keys_allEntries (a : Action) :
    a.allEntries.map (·.key) = (Part.action a.kind).keys := by
  cases a with
  | _ a => cases a; rfl

/-- The follow-ups of an action are among its fields. -/
theorem slot_of_branch {a b : Action} (h : b ∈ a.branches) :
    ∃ key slot, .ofSlot key (Action.dump .asWritten) slot ∈ a.allEntries ∧ b ∈ slot.toOption := by
  cases a with
  | submit a =>
    obtain ⟨target, endpoint, method, headers, table, fields, onSuccess, onError, extra⟩ := a
    simp only [allEntries, entries, ofSlot_followUp]
    rcases mem_branches_submit.mp h with h | h
    · exact ⟨Keys.onSuccess, onSuccess, by simp, h⟩
    · exact ⟨Keys.onError, onError, by simp, h⟩
  | login a =>
    obtain ⟨fields, onError, extra⟩ := a
    simp only [allEntries, entries, ofSlot_followUp]
    exact ⟨Keys.onError, onError, by simp, mem_branches_login.mp h⟩
  | signup a =>
    obtain ⟨fields, onError, extra⟩ := a
    simp only [allEntries, entries, ofSlot_followUp]
    exact ⟨Keys.onError, onError, by simp, mem_branches_signup.mp h⟩
  | logout a =>
    obtain ⟨onSuccess, extra⟩ := a
    simp only [allEntries, entries, ofSlot_followUp]
    exact ⟨Keys.onSuccess, onSuccess, by simp, mem_branches_logout.mp h⟩
  | _ => cases h

/-- The buttons of a popup are among its fields. -/
theorem slot_of_button {a : Action} {b : PopupButton} (h : b ∈ a.buttons) :
    ∃ key slot, .ofSlot key (fun bs => .arr (bs.map (PopupButton.dump .asWritten))) slot ∈
      a.allEntries ∧ b ∈ slot.toOption.getD [] := by
  cases a with
  | popup a =>
    obtain ⟨title, message, style, buttons, extra⟩ := a
    simp only [allEntries, entries, ofSlot_buttons]
    exact ⟨.plain "buttons", buttons, by simp, h⟩
  | _ => cases h

end Action

namespace Definition

variable {d : Definition}

theorem Answers.action {a : Action} (h : d.Answers (a.dump .asWritten))
    (own : Aside (Keys.ofAction a.kind) a.extra) :
    d.AnswersPart (.action a.kind) a.allEntries a.extra :=
  ⟨h, a.keys_allEntries, (Part.keys_action a.kind).symm ▸ own⟩

theorem Answers.button {b : PopupButton} (h : d.Answers (b.dump .asWritten))
    (own : Aside Keys.button b.extra) : ∀ a ∈ b.action.toOption, d.Answers (a.dump .asWritten) := by
  obtain ⟨text, style, action, extra⟩ := b
  rw [PopupButton.dump, ofSlot_followUp] at h
  have hpart : d.AnswersPart .button _ extra := ⟨h, rfl, own⟩
  exact hpart.slot (.plain "action") (by simp)

/-- What is searched of an action is what it names. -/
theorem knows_of_answers {a : Action} (h : d.Answers (a.dump .asWritten))
    (own : Aside (Keys.ofAction a.kind) a.extra) : d.Knows a := by
  obtain ⟨fields, hanswers, hget⟩ := (h.action own).fields
  have htag := hget (.always Keys.type (.str a.kind.tag)) List.mem_cons_self rfl
  cases a with
  | navigate a =>
    have htarget : Entry.always (.plain "target") (.str a.target) ∈
        (Action.navigate a).allEntries := List.mem_cons_of_mem _ List.mem_cons_self
    exact (hanswers.own htag).1 rfl (hget _ htarget rfl)
  | submit a =>
    obtain ⟨target, endpoint, method, headers, table, fields, onSuccess, onError, extra⟩ := a
    intro name hname
    cases table with
    | value given =>
      cases hname
      have htable : Entry.ofSlot (.plain "table") .str (.value name) ∈ Action.allEntries (.submit
          ⟨target, endpoint, method, headers, .value name, fields, onSuccess, onError, extra⟩) := by
        simp [Action.allEntries, Action.entries]
      exact (hanswers.own htag).2 (.inl rfl) (hget _ htable rfl)
    | null => cases hname
    | absent => cases hname
  | deleteRecord a =>
    have htable : Entry.always (.plain "table") (.str a.table) ∈
        (Action.deleteRecord a).allEntries := List.mem_cons_of_mem _ List.mem_cons_self
    exact (hanswers.own htag).2 (.inr rfl) (hget _ htable rfl)
  | _ => trivial

/-- What is searched of an action is everything inside it. -/
theorem supports_of_answers {a : Action} (tidy : a.Tidy) (h : d.Answers (a.dump .asWritten)) :
    d.Supports a := by
  induction tidy with
  | mk own buttons _ _ ihBranches ihPresses =>
    have hpart := h.action own
    refine .mk (knows_of_answers h own) (fun b hb => ?_) (fun b hb => ?_)
    · obtain ⟨key, slot, hslot, hmem⟩ := Action.slot_of_branch hb
      exact ihBranches b hb (hpart.slot key hslot b hmem)
    · obtain ⟨button, hbutton, haction⟩ := Action.mem_presses.mp hb
      obtain ⟨key, slot, hslot, hmem⟩ := Action.slot_of_button hbutton
      have hdump := hpart.listSlot key hslot button hmem
      exact ihPresses b hb (hdump.button (buttons button hbutton) b haction)

theorem Answers.component {c : Component} (h : d.Answers (c.dump .asWritten))
    (own : Aside Keys.component c.extra) :
    (∀ a ∈ c.action.toOption, d.Answers (a.dump .asWritten)) ∧
      ∀ x ∈ c.childComponents, d.Answers (x.dump .asWritten) := by
  rw [Component.dump_eq] at h
  have hpart : d.AnswersPart .component _ c.extra := ⟨h, rfl, own⟩
  refine ⟨?_, List.forall_mem_append.mpr ⟨?_, ?_⟩⟩
  · exact hpart.slot (.plain "action") (by simp)
  · exact hpart.listSlot (.plain "children") (by simp)
  · exact hpart.listSlot (.plain "components") (by simp)

theorem supports_of_holds {c : Component} {a : Action} (holds : c.Holds a) (tidy : c.Tidy)
    (h : d.Answers (c.dump .asWritten)) : d.Supports a := by
  induction holds with
  | own own =>
    obtain ⟨aside, action, -⟩ := tidy
    exact supports_of_answers (action a own) ((h.component aside).1 a own)
  | child listed _ ih =>
    obtain ⟨aside, -, below⟩ := tidy
    exact ih (below _ listed) ((h.component aside).2 _ listed)

theorem Answers.screen {s : Screen} (h : d.Answers (s.dump .asWritten))
    (own : Aside Keys.screen s.extra) :
    ∀ c ∈ s.childComponents, d.Answers (c.dump .asWritten) := by
  rw [Screen.dump, ofSlot_components] at h
  have hpart : d.AnswersPart .screen _ s.extra := ⟨h, rfl, own⟩
  exact hpart.listSlot (.plain "components") (by simp)

/-- A search of the screens searches the first one and then the others. -/
theorem screenReferences_cons_eq_ok {p : String × Screen} {rest : List (String × Screen)}
    {refs : List Reference} (h : screenReferences (p :: rest) = .ok refs) :
    ∃ here others, Reference.within ["screens", p.1] (p.2.dump .asWritten) = .ok here ∧
      screenReferences rest = .ok others ∧ refs = here ++ others := by
  unfold screenReferences at h
  split at h
  · cases h
  obtain ⟨here, hhere, hrest⟩ := Stages.bind_eq_ok.mp h
  obtain ⟨others, hothers, hrefs⟩ := Stages.bind_eq_ok.mp hrest
  cases hrefs
  exact ⟨here, others, Stages.mapError_eq_ok.mp hhere, hothers, rfl⟩

/-- A search of a document searches its theme and its screens. -/
theorem references_eq_ok {refs : List Reference} (h : d.references = .ok refs) :
    ∃ theme screens, d.themeReferences = .ok theme ∧ screenReferences d.screens = .ok screens ∧
      refs = [⟨.screen, d.initialScreen, ["initialScreen"]⟩] ++
        (d.authentication.map Reference.ofAuthentication).getD [] ++ theme ++ screens := by
  obtain ⟨theme, htheme, h⟩ := Stages.bind_eq_ok.mp h
  obtain ⟨screens, hscreens, h⟩ := Stages.bind_eq_ok.mp h
  cases h
  exact ⟨theme, screens, Stages.mapError_eq_ok.mp htheme, hscreens, rfl⟩

/-- A search of the screens searches each of them. -/
theorem answers_of_screens {screens : List (String × Screen)} {refs : List Reference}
    (h : screenReferences screens = .ok refs) (declared : ∀ r ∈ refs, d.declares r = true) :
    ∀ p ∈ screens, d.Answers (p.2.dump .asWritten) := by
  induction screens generalizing refs with
  | nil => nofun
  | cons p rest ih =>
    obtain ⟨here, others, hhere, hothers, rfl⟩ := screenReferences_cons_eq_ok h
    obtain ⟨hdeclared, hlater⟩ := List.forall_mem_append.mp declared
    exact List.forall_mem_cons.mpr ⟨⟨_, here, hhere, hdeclared⟩, ih hothers hlater⟩

/-- What dangles is what a search finds and the document does not declare. -/
theorem danglingReferences_eq_ok {dangling : List Reference} :
    d.danglingReferences = .ok dangling ↔
      ∃ refs, d.references = .ok refs ∧ dangling = refs.filter fun r => !d.declares r := by
  unfold danglingReferences
  cases d.references with
  | error fault => exact ⟨nofun, nofun⟩
  | ok refs =>
    refine ⟨fun h => ⟨refs, rfl, (Except.ok.inj h).symm⟩, fun ⟨_, hrefs, h⟩ => ?_⟩
    cases hrefs
    rw [h]
    rfl

/-- Where nothing dangles, the screens a document leads to by itself are there, and a search
of each screen finds everything answered. -/
theorem answered_of_clean (h : d.danglingReferences = .ok []) :
    d.namesScreen d.initialScreen = true ∧
      (∀ auth ∈ d.authentication, d.namesScreen auth.postLoginScreen = true ∧
        d.namesScreen auth.authRedirectScreen = true) ∧
      ∀ p ∈ d.screens, d.Answers (p.2.dump .asWritten) := by
  obtain ⟨refs, hrefs, hdangling⟩ := danglingReferences_eq_ok.mp h
  have hdeclared : ∀ r ∈ refs, d.declares r = true := by
    simpa using List.filter_eq_nil_iff.mp hdangling.symm
  obtain ⟨theme, screens, -, hscreens, rfl⟩ := references_eq_ok hrefs
  simp only [List.forall_mem_append, List.forall_mem_singleton] at hdeclared
  obtain ⟨⟨⟨hinitial, hauth⟩, -⟩, hdeclared⟩ := hdeclared
  refine ⟨hinitial, fun auth h => ?_, answers_of_screens hscreens hdeclared⟩
  rw [h, Option.map_some, Option.getD_some, Reference.ofAuthentication] at hauth
  simp only [List.forall_mem_cons] at hauth
  exact ⟨hauth.1, hauth.2.1⟩

/-- The actions of a document are supported if its screens are searched. -/
theorem supports_of_offers (tidy : ∀ p ∈ d.screens, p.2.Tidy)
    (answered : ∀ p ∈ d.screens, d.Answers (p.2.dump .asWritten)) {a : Action} (h : d.Offers a) :
    d.Supports a := by
  induction h with
  | component screen listed holds =>
    have hscreen := tidy _ screen
    exact supports_of_holds holds (hscreen.components _ listed)
      ((answered _ screen).screen hscreen.own _ listed)
  | branch _ inside ih =>
    obtain ⟨-, branches, -⟩ := ih
    exact branches _ inside
  | press _ inside ih =>
    obtain ⟨-, -, presses⟩ := ih
    exact presses _ inside

/-- A document that was accepted without warnings is sound. -/
theorem sound_of_accepted {data : Json} {v : Validation}
    (validated : Validation.ofJson data = .ok v) (accepted : v.definition = some d)
    (clean : v.warnings = []) : d.Sound := by
  obtain ⟨dangling, hread, hdangling, rfl⟩ := Validation.accepted validated accepted
  have hnone : dangling = [] := List.map_eq_nil_iff.mp clean
  obtain ⟨hinitial, hauth, hscreens⟩ := answered_of_clean (hnone ▸ hdangling)
  exact ⟨hinitial, fun auth h => (hauth auth h).1, fun auth h => (hauth auth h).2,
    fun a h => supports_of_offers (Read.tidy_of_definition hread) hscreens h⟩

end Definition

end Storyboard
