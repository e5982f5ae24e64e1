import Storyboard.Proofs.Action.Levels
import Storyboard.Proofs.Document.Settled

/-!
# Levels of nesting of documents

A settled document fits if the document does, and what fits is written with fewer levels
than a reader of JSON text takes.
-/
namespace Storyboard

@[simp] theorem optionFits_map (levels : Nat) (x : Option Json) :
    optionFits levels (x.map Json.finitize) = optionFits levels x := by
  cases x with
  | some v => exact valueFits_finitize levels v
  | none => rfl

@[simp] theorem Column.fits_settled (c : Column) : c.settled.fits = c.fits := by
  simp [fits, settled]

@[simp] theorem Table.fits_settled (t : Table) : t.settled.fits = t.fits := by
  simp [fits, settled, Assoc.mapValues, List.all_map, Function.comp_def]

@[simp] theorem DataSource.fits_settled (levels : Nat) (s : DataSource) :
    s.settled.fits levels = s.fits levels := by
  simp [fits, settled]

theorem componentsFit_eq (levels : Nat) (cs : List Component) :
    componentsFit levels cs = cs.all (·.fits levels) := by
  induction cs with
  | nil => rw [componentsFit]; rfl
  | cons c rest ih => rw [componentsFit, ih, List.all_cons]

theorem componentSlotFits_map {s : Slot (List Component)}
    (h : ∀ cs ∈ s.toOption, ∀ c ∈ cs, ∀ levels, c.settled.fits levels = c.fits levels)
    (levels : Nat) :
    componentSlotFits levels (s.map (List.map Component.settled)) = componentSlotFits levels s := by
  cases s with
  | value cs =>
    rw [Slot.map, componentSlotFits, componentSlotFits, componentsFit_eq, componentsFit_eq,
      List.all_map, Bool.eq_iff_iff, List.all_eq_true, List.all_eq_true]
    exact forall₂_congr fun c hc => by rw [Function.comp_apply, h cs rfl c hc]
  | _ => simp [Slot.map, componentSlotFits]

theorem Component.hereditary_fits_settled :
    Component.Hereditary fun c => ∀ levels, c.settled.fits levels = c.fits levels := by
  intro c hchildren hcomponents levels
  obtain ⟨type, id, content, placeholder, action, source, template, showIf, style, children,
    components, extra⟩ := c
  have haction := followUpFits_map fun a (_ : a ∈ action.toOption) => a.fits_settled
  cases source <;>
    simp [settled, fits, haction, componentSlotFits_map hchildren,
      componentSlotFits_map hcomponents]

@[simp] theorem Screen.fits_settled (s : Screen) : s.settled.fits = s.fits := by
  have hcomponents := Component.hereditary_fits_settled.slot s.components
  simp [fits, settled, componentSlotFits_map hcomponents]

@[simp] theorem Metadata.fits_settled (m : Metadata) : m.settled.fits = m.fits := by
  obtain ⟨name, theme, tokens, schema, auth, extra⟩ := m
  cases theme <;> cases schema <;> cases auth <;>
    simp [fits, settled, Theme.settled, Authentication.settled, Assoc.mapValues,
      List.all_map, Function.comp_def]

theorem Definition.fits_settled (d : Definition) : d.settled.fits = d.fits := by
  simp [fits, settled, Assoc.mapValues, List.all_map, Function.comp_def]

/-- A value without a declared kind that fits, as the value of an entry. -/
theorem height_option_le {x : Option Json} {levels : Nat} (h : optionFits levels x = true) :
    ((x.map Mode.asWritten.any).getD .null).height ≤ levels + 1 := by
  cases x with
  | none => exact Nat.le_add_left 1 levels
  | some v =>
    have hv : v.finitize.height ≤ levels := by
      rw [Json.height_finitize]
      exact of_decide_eq_true h
    exact Nat.le_succ_of_le hv

theorem Column.height_dump_le {c : Column} (h : c.fits = true) :
    (c.dump .asWritten).height ≤ nestingLimit + 2 := by
  simp only [fits, Bool.and_eq_true] at h
  refine height_assemble_le ?_ (Nat.le_succ_of_le (of_decide_eq_true h.2))
  simp only [List.forall_mem_cons]
  exact ⟨Nat.le_add_left 1 _, height_scalar_le (fun _ => rfl) c.description _,
    height_option_le h.1, height_scalar_le (fun _ => rfl) c.required _, List.forall_mem_nil _⟩

theorem Table.height_dump_le {t : Table} (h : t.fits = true) :
    (t.dump .asWritten).height ≤ nestingLimit + 4 := by
  simp only [fits, Bool.and_eq_true, List.all_eq_true] at h
  have hextra : Json.heightFields t.extra ≤ nestingLimit := of_decide_eq_true h.2
  refine height_assemble_le ?_ (by omega)
  simp only [List.forall_mem_cons]
  exact ⟨height_dumpTable_le fun p hp => Column.height_dump_le (h.1 p hp),
    height_scalar_le (fun _ => rfl) t.description _, List.forall_mem_nil _⟩

theorem DataSource.height_dump_le {s : DataSource} {levels : Nat} (h : s.fits levels = true) :
    (s.dump .asWritten).height ≤ levels + 2 := by
  simp only [fits, Bool.and_eq_true] at h
  refine height_assemble_le ?_ (Nat.le_succ_of_le (of_decide_eq_true h.2))
  simp only [List.forall_mem_cons]
  exact ⟨Nat.le_add_left 1 _, height_slot_le h.1, height_scalar_le (fun _ => rfl) s.orderBy _,
    List.forall_mem_nil _⟩

theorem component_fits {s : Slot (List Component)} {levels : Nat}
    (h : componentSlotFits levels s = true) :
    ∀ cs ∈ s.toOption, ∀ c ∈ cs, c.fits levels = true := by
  intro cs hcs
  cases s with
  | value given =>
    cases hcs
    rw [componentSlotFits, componentsFit_eq, List.all_eq_true] at h
    exact h
  | _ => cases hcs

/-- A list of components that fit is as high as they are, and one level more. -/
theorem height_components_le {s : Slot (List Component)} {levels : Nat}
    (ih : ∀ cs ∈ s.toOption, ∀ c ∈ cs, ∀ levels, c.fits levels = true →
      (c.dump .asWritten).height ≤ 2 * levels + 1)
    (h : componentSlotFits levels s = true) :
    (s.dump fun cs => .arr (cs.map (Component.dump .asWritten))).height ≤ 2 * levels + 2 :=
  height_dump_le (by omega) fun cs hcs =>
    height_list_le fun c hc => ih cs hcs c hc levels (component_fits h cs hcs c hc)

theorem Component.hereditary_height :
    Component.Hereditary fun c => ∀ levels, c.fits levels = true →
      (c.dump .asWritten).height ≤ 2 * levels + 1 := by
  intro c hchildren hcomponents levels h
  rw [dump_eq]
  obtain ⟨type, id, content, placeholder, action, source, template, showIf, style, children,
    components, extra⟩ := c
  simp only [fits, Bool.and_eq_true, decide_eq_true_eq] at h
  obtain ⟨hlevels, ⟨⟨⟨⟨⟨haction, hsource⟩, htemplate⟩, hstyle⟩, hchild⟩, hcomponent⟩, hextra⟩ := h
  have hextra' : Json.heightFields extra ≤ levels - 1 := of_decide_eq_true hextra
  have hsource' : (source.dump (DataSource.dump .asWritten)).height ≤ levels - 1 + 2 := by
    refine height_dump_le (by omega) fun s hs => ?_
    cases source with
    | value given => cases hs; exact DataSource.height_dump_le hsource
    | _ => cases hs
  have haction' : (action.dump (Action.dump .asWritten)).height ≤ 2 * (levels - 1) + 1 :=
    height_dump_le (by omega) fun a ha => Action.height_dump_le (followUp_fits haction a ha)
  refine Nat.le_trans (height_assemble_le (n := 2 * (levels - 1) + 2) ?_ (by dsimp only; omega))
    (by omega)
  simp only [List.forall_mem_cons]
  exact ⟨Nat.le_add_left 1 _, height_scalar_le (fun _ => rfl) id _,
    height_scalar_le (fun _ => rfl) content _, height_scalar_le (fun _ => rfl) placeholder _,
    Nat.le_succ_of_le haction', Nat.le_trans hsource' (by omega),
    Nat.le_trans (height_option_le htemplate) (by omega), height_scalar_le (fun _ => rfl) showIf _,
    Nat.le_trans (height_slot_le hstyle) (by omega), height_components_le hchildren hchild,
    height_components_le hcomponents hcomponent, List.forall_mem_nil _⟩

theorem Screen.height_dump_le {s : Screen} (h : s.fits = true) :
    (s.dump .asWritten).height ≤ 2 * nestingLimit + 1 := by
  simp only [fits, Bool.and_eq_true] at h
  obtain ⟨⟨hcomponents, hlayout⟩, hextra⟩ := h
  have hextra' : Json.heightFields s.extra ≤ nestingLimit := of_decide_eq_true hextra
  have hauth : ∀ x : Option Bool, ((x.map Json.bool).getD (.bool false)).height ≤ 1 := fun x => by
    cases x <;> exact Nat.le_refl 1
  rw [dump, ofSlot_components]
  refine height_assemble_le ?_ (by omega)
  simp only [List.forall_mem_cons]
  exact ⟨height_scalar_le (fun _ => rfl) s.id _, height_scalar_le (fun _ => rfl) s.title _,
    Nat.le_trans (hauth s.requiresAuth) (Nat.le_add_left 1 _),
    height_components_le (Component.hereditary_height.slot s.components) hcomponents,
    Nat.le_trans (height_option_le hlayout) (by decide), List.forall_mem_nil _⟩

theorem Theme.height_dump_le {t : Theme} (h : fieldsFit nestingLimit t.extra = true) :
    (t.dump .asWritten).height ≤ nestingLimit + 1 := by
  refine height_assemble_le ?_ (of_decide_eq_true h)
  simp only [List.forall_mem_cons]
  exact ⟨height_scalar_le (fun _ => rfl) t.primaryColor _,
    height_scalar_le (fun _ => rfl) t.secondaryColor _,
    height_scalar_le (fun _ => rfl) t.backgroundColor _,
    height_scalar_le (fun _ => rfl) t.textColor _, height_scalar_le (fun _ => rfl) t.fontFamily _,
    List.forall_mem_nil _⟩

theorem Authentication.height_dump_le {a : Authentication}
    (h : fieldsFit nestingLimit a.extra = true) :
    (a.dump .asWritten).height ≤ nestingLimit + 1 := by
  refine height_assemble_le ?_ (of_decide_eq_true h)
  have hone : 1 ≤ nestingLimit := by decide
  simp only [List.forall_mem_cons]
  exact ⟨hone, hone, hone, hone, hone, hone, List.forall_mem_nil _⟩

theorem Metadata.height_dump_le {m : Metadata} (h : m.fits = true) :
    (m.dump .asWritten).height ≤ nestingLimit + 6 := by
  obtain ⟨name, theme, tokens, schema, auth, extra⟩ := m
  simp only [fits, Bool.and_eq_true] at h
  obtain ⟨⟨⟨htheme, hschema⟩, hauth⟩, hextra⟩ := h
  have hextra' : Json.heightFields extra ≤ nestingLimit := of_decide_eq_true hextra
  have htheme' : (theme.dump (Theme.dump .asWritten)).height ≤ nestingLimit + 5 := by
    refine Storyboard.height_dump_le (by decide) fun t ht => ?_
    cases theme with
    | value given => cases ht; exact Nat.le_trans (Theme.height_dump_le htheme) (by decide)
    | _ => cases ht
  have hschema' : (schema.dump (dumpTable (Table.dump .asWritten))).height ≤ nestingLimit + 5 := by
    refine Storyboard.height_dump_le (by decide) fun tables ht => ?_
    cases schema with
    | value given =>
      cases ht
      rw [List.all_eq_true] at hschema
      exact height_dumpTable_le fun p hp => Table.height_dump_le (hschema p hp)
    | _ => cases ht
  have hauth' : (auth.dump (Authentication.dump .asWritten)).height ≤ nestingLimit + 5 := by
    refine Storyboard.height_dump_le (by decide) fun a ha => ?_
    cases auth with
    | value given => cases ha; exact Nat.le_trans (Authentication.height_dump_le hauth) (by decide)
    | _ => cases ha
  have htokens : (tokens.dump (dumpTable TokenValue.toJson)).height ≤ nestingLimit + 5 :=
    Storyboard.height_dump_le (by decide) fun table _ =>
      height_dumpTable_le fun p _ => by cases p.2 <;> exact Nat.le_add_left 1 _
  refine height_assemble_le ?_ (by dsimp only; omega)
  simp only [List.forall_mem_cons]
  exact ⟨Nat.le_add_left 1 _, htheme', htokens, hschema', hauth', List.forall_mem_nil _⟩

/-- What fits is written with fewer levels than a reader takes. -/
theorem Definition.height_dump_le {d : Definition} (h : d.fits = true) :
    (d.dump .asWritten).height ≤ textBounds.depth := by
  simp only [fits, Bool.and_eq_true, List.all_eq_true] at h
  obtain ⟨⟨happ, hscreens⟩, hextra⟩ := h
  have hextra' : Json.heightFields d.extra ≤ nestingLimit := of_decide_eq_true hextra
  have hscreens' : (dumpTable (Screen.dump .asWritten) d.screens).height ≤ 2 * nestingLimit + 2 :=
    height_dumpTable_le fun p hp => Screen.height_dump_le (hscreens p hp)
  have hentries : (d.dump .asWritten).height ≤ 2 * nestingLimit + 3 := by
    refine height_assemble_le ?_ (by omega)
    simp only [List.forall_mem_cons]
    exact ⟨Nat.le_add_left 1 _, Nat.le_trans (Metadata.height_dump_le happ) (by decide), hscreens',
      Nat.le_add_left 1 _, List.forall_mem_nil _⟩
  exact Nat.le_trans hentries (by decide)

end Storyboard
