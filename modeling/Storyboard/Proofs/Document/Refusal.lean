import Storyboard.Document.Reader
import Storyboard.Proofs.Action.Intake

/-!
# Reasons for refusals

Whatever is refused is refused with an issue at least. Each way of putting readers together
keeps that, so it holds of the reader of documents because it holds of the readers of texts,
numbers and flags.
-/
namespace Storyboard

variable {α β : Type}

/-- A reading succeeded, or there is an issue with it. -/
def Check.Reasoned : Check α → Prop
  | .ok _ => True
  | .bad issues => issues ≠ []

/-- A reader gives a reason for every value that it refuses. -/
def Read.Reasons (read : Json → Check α) : Prop := ∀ v, (read v).Reasoned

namespace Check.Reasoned

theorem ok (a : α) : (Check.ok a).Reasoned := trivial

theorem fail (problem : Problem) : (Check.fail problem : Check α).Reasoned := List.cons_ne_nil _ _

theorem map {c : Check α} (f : α → β) (h : c.Reasoned) : (f <$> c).Reasoned := by
  cases c with
  | ok a => exact .ok _
  | bad issues => exact h

theorem seq {f : Check (α → β)} {c : Check α} (hf : f.Reasoned) (h : c.Reasoned) :
    (f <*> c).Reasoned := by
  cases f with
  | ok g =>
    cases c with
    | ok a => exact .ok _
    | bad issues => exact h
  | bad issues =>
    cases c with
    | ok a => exact hf
    | bad more => exact List.append_ne_nil_of_left_ne_nil hf more

theorem under {c : Check α} (key : String) (h : c.Reasoned) : (Check.under key c).Reasoned := by
  cases c with
  | ok a => exact .ok a
  | bad issues => exact fun hnil => h (List.map_eq_nil_iff.mp hnil)

end Check.Reasoned

namespace Read.Reasons

variable {read : Json → Check α}

theorem record {kind : String} {fields : Assoc Json → Check α}
    (h : ∀ o, (fields o).Reasoned) : Reasons (Read.record kind fields) := by
  intro v
  cases v with
  | obj o => exact h o
  | _ => exact .fail _

theorem required (h : Reasons read) (o : Assoc Json) (key : Key) :
    (Read.required o key read).Reasoned := by
  unfold Read.required
  cases key.used? o with
  | none => exact (Check.Reasoned.fail _).under _
  | some used => exact (h _).under used

theorem optional (h : Reasons read) (o : Assoc Json) (key : Key) :
    (Read.optional o key read).Reasoned := by
  unfold Read.optional
  cases key.used? o with
  | none => exact .ok none
  | some used => exact ((h _).map some).under used

theorem slot (h : Reasons read) (o : Assoc Json) (key : Key) :
    (Read.slot o key read).Reasoned := by
  unfold Read.slot
  cases key.used? o with
  | none => exact .ok Slot.absent
  | some used =>
    dsimp only
    split
    · exact .ok Slot.null
    · exact ((h _).map Slot.value).under used

theorem items (h : Reasons read) (index : Nat) (vs : List Json) :
    (Read.items read index vs).Reasoned := by
  induction vs generalizing index with
  | nil => exact .ok []
  | cons v rest ih => exact (((h v).under _).map List.cons).seq (ih _)

theorem list (h : Reasons read) : Reasons (Read.list read) := by
  intro v
  cases v with
  | arr vs => exact h.items 0 vs
  | _ => exact .fail _

theorem entries (h : Reasons read) (fields : List (String × Json)) :
    (Read.entries read fields).Reasoned := by
  induction fields with
  | nil => exact .ok []
  | cons p rest ih => exact ((((h p.2).under p.1).map (p.1, ·)).map List.cons).seq ih

theorem table (h : Reasons read) : Reasons (Read.table read) := by
  intro v
  cases v with
  | obj fields => exact h.entries fields
  | _ => exact .fail _

theorem anything : Reasons Read.anything := fun v => .ok v

theorem text : Reasons Read.text := by
  intro v
  cases v with
  | str s => exact .ok s
  | _ => exact .fail _

theorem choice (all : List α) (name : α → String) : Reasons (Read.choice all name) := by
  intro v
  unfold Read.choice
  split
  · exact .ok _
  · exact .fail _

theorem flag : Reasons Read.flag := by
  intro v
  unfold Read.flag
  repeat' split
  all_goals first | exact .ok _ | exact .fail _

theorem whole : Reasons Read.whole := by
  intro v
  unfold Read.whole
  repeat' split
  all_goals first | exact .ok _ | exact .fail _

end Read.Reasons

namespace Action

open Read (Reasons)
open Read.Reasons

theorem reasoned_tagged (v : Json) : (tagged v).Reasoned := by
  unfold tagged
  repeat' split
  all_goals first | exact .ok _ | exact .fail _

theorem reasons_recordId : Reasons recordId := by
  intro v
  unfold recordId
  have htext := text v
  split
  · exact .ok _
  · rename_i asText hasText
    split
    · exact .ok _
    · rw [hasText] at htext
      exact List.append_ne_nil_of_left_ne_nil (fun hnil => htext (List.map_eq_nil_iff.mp hnil)) _

theorem reasons_credentialFields : Reasons credentialFields :=
  record fun o => (text.required o _).map _ |>.seq (text.required o _)

theorem reasons_button {press : Option (Json → Check Action)} (h : ∀ f ∈ press, Reasons f) :
    Reasons (readButton press) := by
  cases press with
  | none => exact fun _ => .fail _
  | some f =>
    exact record fun o => (text.required o _).map _ |>.seq ((choice _ _).slot o _)
      |>.seq ((h f rfl).slot o _)

/-- The readers inside an action give reasons. -/
structure Inner.Reasons (inner : Inner) : Prop where
  followUp : Read.Reasons inner.followUp
  button : Read.Reasons inner.button
  credentials : Read.Reasons inner.credentials

theorem Inner.reasons_of {followUp : Json → Check Action} {press : Option (Json → Check Action)}
    (hfollowUp : Read.Reasons followUp) (hpress : ∀ f ∈ press, Read.Reasons f) :
    (Inner.of followUp press).Reasons where
  followUp := hfollowUp
  button := reasons_button hpress
  credentials := by
    cases press with
    | none => exact fun _ => .fail _
    | some f => exact reasons_credentialFields

theorem reasoned_readAs {inner : Inner} (h : inner.Reasons) (kind : ActionKind) (o : Assoc Json) :
    (readAs inner kind o).Reasoned := by
  obtain ⟨hfollowUp, hbutton, hcredentials⟩ := h
  have htag := (choice [kind] ActionKind.tag).optional o Keys.type
  cases kind with
  | navigate =>
    exact htag.map _ |>.seq (text.required o _) |>.seq (anything.table.slot o _)
      |>.seq ((choice _ _).slot o _)
  | popup =>
    exact htag.map _ |>.seq (text.slot o _) |>.seq (text.required o _)
      |>.seq ((choice _ _).slot o _) |>.seq (hbutton.list.slot o _)
  | goBack => exact htag.map _
  | submit =>
    exact htag.map _ |>.seq (text.slot o _) |>.seq (text.slot o _) |>.seq ((choice _ _).slot o _)
      |>.seq (text.table.slot o _) |>.seq (text.slot o _) |>.seq (text.table.slot o _)
      |>.seq (hfollowUp.slot o _) |>.seq (hfollowUp.slot o _)
  | deleteRecord =>
    exact htag.map _ |>.seq (text.required o _) |>.seq (reasons_recordId.required o _)
  | login | signup =>
    exact htag.map _ |>.seq (hcredentials.required o _) |>.seq (hfollowUp.slot o _)
  | logout => exact htag.map _ |>.seq (hfollowUp.slot o _)
  | setValue => exact htag.map _ |>.seq (text.required o _) |>.seq (anything.optional o _)
  | openUrl => exact htag.map _ |>.seq (text.required o _) |>.seq (flag.slot o _)

/-- By induction on the levels left: what is inside an action has fewer of them. -/
theorem reasons_read (levels : Nat) (scope : Scope) : Reasons (read levels scope) := by
  induction levels using Nat.strongRecOn generalizing scope with
  | ind levels ih =>
    intro v
    rw [read_eq]
    have htagged := reasoned_tagged v
    cases ht : tagged v with
    | bad issues =>
      rw [ht] at htagged
      exact htagged
    | ok found =>
      refine Check.Reasoned.under _ ?_
      cases hinner : innerAt levels scope found.1 with
      | none => exact .fail _
      | some inner =>
        obtain ⟨l, s, press, rfl, hl, hpress⟩ := innerAt_eq hinner
        refine reasoned_readAs (Inner.reasons_of (ih l hl s) fun f hf => ?_) _ _
        obtain ⟨l', s', rfl, hl'⟩ := hpress f hf
        exact ih l' hl' s'

end Action

namespace Read.Reasons

theorem tokenValue : Reasons Read.tokenValue := by
  intro v
  unfold Read.tokenValue
  split
  all_goals first | exact .ok _ | exact List.cons_ne_nil _ _

theorem column : Reasons Read.column :=
  record fun o => ((choice _ _).required o _).map _ |>.seq (text.slot o _)
    |>.seq (anything.optional o _) |>.seq (flag.slot o _)

theorem databaseTable : Reasons Read.databaseTable :=
  record fun o => (column.table.required o _).map _ |>.seq (text.slot o _)

theorem authentication : Reasons Read.authentication :=
  record fun o => (flag.required o _).map _ |>.seq (text.required o _) |>.seq (text.required o _)
    |>.seq (text.required o _) |>.seq (text.required o _) |>.seq (text.required o _)

theorem theme : Reasons Read.theme :=
  record fun o => (text.slot o _).map _ |>.seq (text.slot o _) |>.seq (text.slot o _)
    |>.seq (text.slot o _) |>.seq (text.slot o _)

theorem dataSource : Reasons Read.dataSource :=
  record fun o => (text.required o _).map _ |>.seq (anything.table.slot o _) |>.seq (text.slot o _)

theorem component (levels : Nat) : Reasons (Read.component levels) := by
  induction levels with
  | zero => exact fun _ => .fail _
  | succ levels ih =>
    exact record fun o => ((choice _ _).required o _).map _ |>.seq (text.slot o _)
      |>.seq (text.slot o _) |>.seq (text.slot o _) |>.seq ((Action.reasons_read levels _).slot o _)
      |>.seq (dataSource.slot o _) |>.seq (anything.optional o _) |>.seq ((choice _ _).slot o _)
      |>.seq (anything.table.slot o _) |>.seq (ih.list.slot o _) |>.seq (ih.list.slot o _)

theorem screen : Reasons Read.screen :=
  record fun o => (text.slot o _).map _ |>.seq (text.slot o _) |>.seq (flag.optional o _)
    |>.seq ((component _).list.slot o _) |>.seq (anything.optional o _)

theorem metadata : Reasons Read.metadata :=
  record fun o => (text.required o _).map _ |>.seq (theme.slot o _)
    |>.seq (tokenValue.table.slot o _) |>.seq (databaseTable.table.slot o _)
    |>.seq (authentication.slot o _)

theorem definition : Reasons Read.definition :=
  record fun o => (text.required o _).map _ |>.seq (metadata.required o _)
    |>.seq (screen.table.required o _) |>.seq (text.required o _)

end Read.Reasons

end Storyboard
