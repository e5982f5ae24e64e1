import Storyboard.Exchange
import Storyboard.Proofs.Document.Serialization

/-!
# What hosts exchange comes back

A value that is dumped as it was given, and read again, is the value it was; documents, screens
and actions inside it are settled. Each kind of object is shown to come back from its fields. Of
the parts of documents it is asked that they come back themselves, which they do if they were
read.
-/
namespace Storyboard

variable {α : Type}

/-- An object of given fields, each with one spelling, is read again with these fields. -/
theorem respells_assemble {entries : List Entry}
    (plain : ∀ e ∈ entries, e.key.name = e.key.external)
    (distinct : (entries.map (·.key.external)).Nodup) :
    ∃ o, (assemble .asWritten entries []).reread = .obj o ∧ ∀ e ∈ entries, Respells o e := by
  have hdistinct : ((entries.map Entry.reread).map (·.key.external)).Nodup := by
    rwa [List.map_map]
  have hapart : ∀ e ∈ entries.map Entry.reread, e.key.external ∉ Assoc.keys ([] : Assoc Json) :=
    fun _ _ => List.not_mem_nil
  obtain ⟨o, ho, hgiven⟩ := get?_assemble hdistinct hapart
  have hreread := reread_assemble entries []
  refine ⟨o, hreread.trans ho, fun e he => ?_⟩
  have hmem : e.reread ∈ entries.map Entry.reread := List.mem_map_of_mem he
  refine ⟨?_, hgiven _ hmem⟩
  split
  · next hg =>
    refine Key.used?_of_external ?_
    have hvalue : Assoc.get? o e.key.external = some e.value.reread := hgiven _ hmem hg
    rw [Assoc.has, hvalue]
    rfl
  · next hg =>
    have hleft : Assoc.get? o e.reread.key.external = none :=
      get?_assemble_left_out hdistinct hapart ho hmem (Bool.eq_false_iff.mpr hg)
    have hunused := Assoc.get?_eq_none.mp hleft
    exact Key.used?_eq_none.mpr ⟨hunused, plain e he ▸ hunused⟩

theorem text_again (s : String) : ComesBack Read.text .str s (id s) := rfl

theorem flag_again (b : Bool) : ComesBack Read.flag .bool b (id b) := rfl

/-- A named value comes back if its name is that of no other one. -/
theorem choice_again {all : List α} {name : α → String} {a : α} (known : a ∈ all)
    (distinct : ∀ b ∈ all, name b = name a → b = a) :
    ComesBack (Read.choice all name) (fun a => .str (name a)) a (id a) := by
  have hfound : (all.find? fun b => name b == name a) = some a := by
    cases hfind : all.find? fun b => name b == name a with
    | none => exact absurd (beq_self_eq_true (name a)) (List.find?_eq_none.mp hfind a known)
    | some b =>
      have hname := List.find?_some hfind
      rw [distinct b (List.mem_of_find?_eq_some hfind) (beq_iff_eq.mp hname)]
  change Read.choice all name (.str (name a)) = .ok a
  have hchosen : ((Json.str (name a)).str?.bind fun s => all.find? fun b => name b == s) = some a :=
    hfound
  rw [Read.choice, hchosen]

/-- An object comes back if its fields do, each with one spelling of its own. -/
theorem comesBack_of_fields {dump : α → Json} {kind : String} {fields : Assoc Json → Check α}
    {a again : α} {entries : List Entry} (names : List String)
    (hdump : dump a = assemble .asWritten entries [])
    (hkeys : entries.map (·.key) = names.map Key.plain) (distinct : names.Nodup)
    (hfields : ∀ o, (∀ e ∈ entries, Respells o e) → fields o = .ok again) :
    ComesBack (Read.record kind fields) dump a again := by
  have hplain : ∀ e ∈ entries, e.key.name = e.key.external := by
    intro e he
    have hkey : e.key ∈ names.map Key.plain := hkeys ▸ List.mem_map_of_mem he
    obtain ⟨name, -, hname⟩ := List.mem_map.mp hkey
    rw [← hname]
    rfl
  have hexternal : entries.map (·.key.external) = names := by
    have h := congrArg (List.map Key.external) hkeys
    rw [List.map_map, List.map_map] at h
    exact h.trans (List.map_id names)
  obtain ⟨o, ho, hrespells⟩ := respells_assemble hplain (hexternal ▸ distinct)
  rw [ComesBack, hdump, ho, Read.record_obj]
  exact hfields o hrespells

theorem Finding.comesBack (f : Finding) : ComesBack ofJson (dump .asWritten) f f := by
  refine comesBack_of_fields ["path", "message"] rfl rfl (by decide) fun o ho => ?_
  simp only [List.forall_mem_cons] at ho
  obtain ⟨hpath, hmessage, -⟩ := ho
  rw [required_again hpath (text_again _), required_again hmessage (text_again _)]
  rfl

namespace Exchange

theorem buttonStyle_again (s : ButtonStyle) :
    ComesBack (Read.choice ButtonStyle.all ButtonStyle.name) (fun s => .str s.name) s (id s) :=
  choice_again (by cases s <;> decide) (by cases s <;> decide)

theorem popupStyle_again (s : PopupStyle) :
    ComesBack (Read.choice PopupStyle.all PopupStyle.name) (fun s => .str s.name) s (id s) :=
  choice_again (by cases s <;> decide) (by cases s <;> decide)

theorem seenKind_again (k : SeenKind) :
    ComesBack (Read.choice SeenKind.all SeenKind.name) (fun k => .str k.name) k (id k) :=
  choice_again (by cases k <;> decide) (by cases k <;> decide)

theorem authForm_again (f : AuthForm) :
    ComesBack (Read.choice Seen.forms AuthForm.name) (fun f => .str f.name) f (id f) :=
  choice_again (by cases f <;> decide) (by cases f <;> decide)

theorem unresolved_again (r : Unresolved) :
    ComesBack (Read.choice Seen.reasons Unresolved.name) (fun r => .str r.name) r (id r) :=
  choice_again (by cases r <;> decide) (by cases r <;> decide)

theorem mark_again {kind : String} {marked : Bool} {o : Assoc Json}
    (ho : Respells o ⟨.plain "kind", marked, .str kind⟩) : mark kind o = .ok marked := by
  have hkind : ComesBack (Read.choice [kind] id) .str kind kind :=
    choice_again List.mem_cons_self fun _ hb _ => List.mem_singleton.mp hb
  refine Check.map_eq_ok.mpr ?_
  cases marked with
  | false => exact ⟨none, Read.optional_eq_ok.mpr (.inl ⟨ho.used, rfl⟩), rfl⟩
  | true =>
    obtain ⟨hused, hvalue⟩ := ho.of_given rfl
    exact ⟨some kind, Read.optional_eq_ok.mpr (.inr ⟨_, _, _, hused, hvalue, hkind, rfl⟩), rfl⟩

theorem Link.comesBack (l : Link) : ComesBack ofJson (dump .asWritten) l l := by
  refine comesBack_of_fields ["kind", "url", "external"] rfl rfl (by decide) fun o ho => ?_
  simp only [List.forall_mem_cons] at ho
  obtain ⟨hkind, hurl, hexternal, -⟩ := ho
  rw [mark_again hkind, required_again hurl (text_again _),
    optional_again hexternal fun b _ => flag_again b, Option.map_id]
  rfl

/-- A list of a report comes back if its items do. -/
theorem listEntry_again {α : Type} {o : Assoc Json} {name : String} {read : Json → Check α}
    {dump : α → Json} {list : Option (List α)} (ho : Respells o (listEntry name dump list))
    (h : ∀ a, ComesBack read dump a a) :
    Read.optional o (.plain name) (Read.list read) = .ok list := by
  have hlist : Read.optional o (.plain name) (Read.list read) = .ok (list.map (List.map id)) :=
    optional_again ho fun xs _ => list_again fun a _ => h a
  rw [hlist, List.map_id_fun, Option.map_id]
  rfl

theorem Dangling.comesBack (d : Dangling) : ComesBack ofJson (dump .asWritten) d d := by
  refine comesBack_of_fields ["missing_screens", "missing_tables", "missing_tokens", "issues"]
    rfl rfl (by decide) fun o ho => ?_
  simp only [List.forall_mem_cons] at ho
  obtain ⟨hscreens, htables, htokens, hfindings, -⟩ := ho
  rw [listEntry_again hscreens text_again, listEntry_again htables text_again,
    listEntry_again htokens text_again, listEntry_again hfindings Finding.comesBack]
  rfl

/-- The parts of a value with its action settled. -/
def Button.settled (b : Button) : Button := { b with action := b.action.map Action.settled }

def Popup.settled (p : Popup) : Popup :=
  { p with buttons := p.buttons.map (List.map Button.settled) }

def Verdict.settled (v : Verdict) : Verdict :=
  { v with definition := v.definition.map Definition.settled }

def Seen.settled (s : Seen) : Seen := { s with screen := s.screen.map Screen.settled }

theorem Button.comesBack (b : Button)
    (action : ∀ a ∈ b.action.toOption,
      ComesBack Action.ofJson (Action.dump .asWritten) a a.settled) :
    ComesBack ofJson (dump .asWritten) b b.settled := by
  refine comesBack_of_fields ["text", "variant", "action"] rfl rfl (by decide) fun o ho => ?_
  simp only [List.forall_mem_cons] at ho
  obtain ⟨htext, hvariant, haction, -⟩ := ho
  rw [required_again htext (text_again _),
    slot_again solid_str hvariant fun s _ => buttonStyle_again s,
    slot_again solid_action haction action, Slot.map_id]
  rfl

theorem Popup.comesBack (p : Popup)
    (actions : ∀ b ∈ p.buttons.getD [], ∀ a ∈ b.action.toOption,
      ComesBack Action.ofJson (Action.dump .asWritten) a a.settled) :
    ComesBack ofJson (dump .asWritten) p p.settled := by
  refine comesBack_of_fields ["kind", "title", "message", "variant", "buttons"] rfl rfl (by decide)
    fun o ho => ?_
  simp only [List.forall_mem_cons] at ho
  obtain ⟨hkind, htitle, hmessage, hvariant, hbuttons, -⟩ := ho
  have hpressed : ∀ bs ∈ p.buttons, ComesBack (Read.list Button.ofJson)
      (fun bs => .arr (bs.map (·.dump .asWritten))) bs (bs.map Button.settled) := by
    intro bs hbs
    refine list_again fun b hb => b.comesBack (actions b ?_)
    rw [Option.mem_def.mp hbs]
    exact hb
  rw [mark_again hkind, slot_again solid_str htitle fun s _ => text_again s,
    required_again hmessage (text_again _), optional_again hvariant fun s _ => popupStyle_again s,
    optional_again hbuttons hpressed, Slot.map_id, Option.map_id]
  rfl

theorem Verdict.comesBack (v : Verdict)
    (document : ∀ d ∈ v.definition.toOption,
      ComesBack Read.definition (Definition.dump .asWritten) d d.settled) :
    ComesBack ofJson (dump .asWritten) v v.settled := by
  refine comesBack_of_fields ["definition", "errors", "warnings"] rfl rfl (by decide)
    fun o ho => ?_
  simp only [List.forall_mem_cons] at ho
  obtain ⟨hdefinition, herrors, hwarnings, -⟩ := ho
  rw [slot_again solid_obj hdefinition document, listEntry_again herrors Finding.comesBack,
    listEntry_again hwarnings Finding.comesBack]
  rfl

theorem Seen.comesBack (s : Seen)
    (screen : ∀ x ∈ s.screen.toOption, ComesBack Read.screen (Screen.dump .asWritten) x x.settled) :
    ComesBack ofJson (dump .asWritten) s s.settled := by
  refine comesBack_of_fields
    ["kind", "screen_id", "screen", "auth_variant", "redirected_from", "reason"] rfl rfl (by decide)
    fun o ho => ?_
  simp only [List.forall_mem_cons] at ho
  obtain ⟨hkind, hid, hscreen, hform, hredirected, hreason, -⟩ := ho
  have hkind := @required_again _ o _ _ (fun k : SeenKind => .str k.name) _ _ hkind
    (seenKind_again s.kind)
  rw [hkind, slot_again solid_str hid fun t _ => text_again t,
    slot_again solid_obj hscreen screen, slot_again solid_str hform fun f _ => authForm_again f,
    slot_again solid_str hredirected fun t _ => text_again t,
    slot_again solid_str hreason fun r _ => unresolved_again r, Slot.map_id, Slot.map_id,
    Slot.map_id, Slot.map_id]
  rfl

section HandedOn

variable {data : Json} {d : Definition}

/-- The screens of a document that was read come back. -/
theorem comesBack_screen (legible : data.Legible textBounds) (read : Read.definition data = .ok d)
    {id : String} {x : Screen} (found : d.screen? id = some x) :
    ComesBack Read.screen (Screen.dump .asWritten) x x.settled := by
  obtain ⟨o, rfl, hfields⟩ := Read.record_eq_ok read
  simp only [Check.seq_eq_ok, Check.map_eq_ok] at hfields
  obtain ⟨_, ⟨_, ⟨_, ⟨_, -, rfl⟩, _, -, rfl⟩, screens, hscreens, rfl⟩, _, -, rfl⟩ := hfields
  obtain ⟨k, u, -, hu, htable⟩ := Read.required_eq_ok.mp hscreens
  obtain ⟨fields, rfl, hall⟩ := Read.table_eq_ok.mp htable
  obtain ⟨p, hp, -, hread⟩ := exists_of_forall₂_right hall (Assoc.mem_of_get? found)
  cases legible.get? hu with
  | obj _ _ hvalues => exact (faithful_screen _ x (hvalues p hp) hread).again

/-- A screen that is seen is one of the document. -/
theorem exists_screen_of_view {id : Option String} {x : Screen}
    (h : (d.view id).screen? = some x) : ∃ name, d.screen? name = some x := by
  cases id with
  | none => cases h
  | some name =>
    simp only [Definition.view] at h
    split at h
    · cases h
    split at h
    · cases h
    split at h
    · cases h
    split at h
    · next found hfound =>
      cases h
      exact ⟨name, hfound⟩
    · cases h

theorem exists_screen_of_resolve {id : Option String} {session : Option Session} {x : Screen}
    (h : (d.resolve id session).1.view.screen? = some x) : ∃ name, d.screen? name = some x := by
  rw [Definition.resolve] at h
  split at h
  · next name screen hview =>
    split at h
    · have hseen : (d.view id).screen? = some x := by
        rw [hview]
        exact h
      exact exists_screen_of_view hseen
    · split at h
      · cases h
      · next auth _ =>
        have hseen : (d.view (some auth.authRedirectScreen)).screen? = some x := h
        exact exists_screen_of_view hseen
  · exact exists_screen_of_view h

/-- The verdict on a legible document comes back, with its errors and warnings and with the
settled document. -/
theorem verdict_comesBack {v : Validation} (legible : data.Legible textBounds)
    (validated : Validation.ofJson data = .ok v) :
    ComesBack Verdict.ofJson (Verdict.dump .asWritten) (.ofValidation v)
      (Verdict.ofValidation v).settled := by
  refine Verdict.comesBack _ fun d hd => ?_
  have accepted : v.definition = some d := by
    rw [Verdict.ofValidation] at hd
    split at hd
    · next found hfound =>
      cases hd
      exact hfound
    · cases hd
  obtain ⟨-, read, -, -⟩ := Validation.accepted validated accepted
  exact (faithful_definition data d legible read).again

/-- The screen that is seen of a legible document comes back, settled. -/
theorem seen_comesBack (legible : data.Legible textBounds) (read : Read.definition data = .ok d)
    (id : Option String) (session : Option Session) :
    ComesBack Seen.ofJson (Seen.dump .asWritten) (.ofResolved (d.resolve id session).1)
      (Seen.ofResolved (d.resolve id session).1).settled := by
  refine Seen.comesBack _ fun x hx => ?_
  have hseen : (d.resolve id session).1.view.screen? = some x := by
    cases hview : (d.resolve id session).1.view <;> rw [Seen.ofResolved, hview] at hx <;> cases hx
    rfl
  obtain ⟨name, found⟩ := exists_screen_of_resolve hseen
  exact comesBack_screen legible read found

end HandedOn

end Exchange

end Storyboard
