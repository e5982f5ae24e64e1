import Storyboard.Proofs.Document.Report
import Storyboard.Proofs.Template.Placeholders

/-!
# Token checks and look-ups

Validation checks a text by the token it stands for without a final line break, and showing the
text looks up all that follows the dollar sign. `token_check_agrees_iff` says of which texts of an
accepted document both say the same.
-/
namespace Storyboard

namespace Reference

/-- A name like an identifier, with dots and hyphens behind its first character. -/
def Nameable (name : List Char) : Prop :=
  ∃ first rest, name = first :: rest ∧ (first.isAlpha || first == '_') = true ∧
    rest.all (fun c => Text.isWordChar c || c == '.' || c == '-') = true

theorem Nameable.one_line {name : List Char} (h : Nameable name) : '\n' ∉ name := by
  obtain ⟨first, rest, rfl, hfirst, hrest⟩ := h
  refine List.not_mem_cons_of_ne_of_not_mem ?_ fun hmem => ?_
  · rintro rfl
    exact absurd hfirst (by decide)
  · exact absurd (List.all_eq_true.mp hrest _ hmem) (by decide)

/-- A text stands for a token if it is a dollar sign and a name like an identifier; one final line
break does not count. -/
theorem tokenName?_eq_some_iff {s name : String} :
    tokenName? s = some name ↔ Nameable name.toList ∧
      (s.toList = '$' :: name.toList ∨ s.toList = '$' :: (name.toList ++ ['\n'])) := by
  constructor
  · intro h
    unfold tokenName? at h
    split at h
    · rename_i first rest htext
      dsimp only at h
      split at h
      · rename_i hlike
        cases h
        rw [Bool.and_eq_true] at hlike
        rw [String.toList_ofList]
        refine ⟨⟨first, _, rfl, hlike⟩, ?_⟩
        rw [htext]
        rcases Template.dropFinalBreak_cases rest with hrest | hrest
        · exact .inl (by rw [← List.append_nil (Text.dropFinalBreak rest), ← hrest])
        · exact .inr (by rw [List.cons_append, ← hrest])
      · cases h
    · cases h
  · rintro ⟨hname, htext⟩
    have hbreak := hname.one_line
    obtain ⟨first, rest, hlist, hfirst, hrest⟩ := hname
    rw [hlist] at hbreak htext
    obtain ⟨tail, htail, hdropped⟩ :
        ∃ tail, s.toList = '$' :: first :: tail ∧ Text.dropFinalBreak tail = rest := by
      rcases htext with htext | htext
      · exact ⟨rest, htext,
          Template.dropFinalBreak_of_not_mem (List.not_mem_of_not_mem_cons hbreak)⟩
      · exact ⟨rest ++ ['\n'], htext, Template.dropFinalBreak_concat rest⟩
    simp only [tokenName?, htail, hdropped, hfirst, hrest, Bool.and_self, if_true]
    rw [← hlist, String.ofList_toList]

end Reference

theorem Token.name?_eq_some {s : String} {name : List Char} (h : s.toList = '$' :: name)
    (given : name ≠ []) : name? s = some (String.ofList name) := by
  obtain ⟨first, rest, rfl⟩ := List.exists_cons_of_ne_nil given
  simp only [name?, h]

/-- What is looked up for a text that stands for a token: its name, and the line break if the
text ends in one. -/
theorem Token.name?_of_tokenName? {s name : String} (h : Reference.tokenName? s = some name) :
    name? s = some (if '\n' ∈ s.toList then name ++ "\n" else name) := by
  obtain ⟨hname, htext⟩ := Reference.tokenName?_eq_some_iff.mp h
  have hbreak := hname.one_line
  obtain ⟨first, rest, hlist, -⟩ := hname
  rcases htext with htext | htext
  · have hnone : '\n' ∉ s.toList := by
      rw [htext]
      exact List.not_mem_cons_of_ne_of_not_mem (by decide) hbreak
    rw [if_neg hnone, name?_eq_some htext (hlist ▸ List.cons_ne_nil _ _), String.ofList_toList]
  · have hsome : '\n' ∈ s.toList := by
      rw [htext]
      simp
    rw [if_pos hsome, name?_eq_some htext (by simp)]
    refine congrArg some (String.toList_injective ?_)
    rw [String.toList_ofList, String.toList_append]
    rfl

/-- Tokens of a document have values. -/
theorem Definition.tokens_valued (d : Definition) : ∀ p ∈ d.tokens, p.2 ≠ .null := by
  intro p hp
  obtain ⟨q, -, rfl⟩ := List.mem_map.mp hp
  cases q.2 <;> nofun

/-- A validation warns that the token at a path is not defined. -/
def Validation.WarnsOfToken (v : Validation) (path : List String) (name : String) : Prop :=
  ⟨path, .undeclaredToken name⟩ ∈ v.warnings

theorem Reference.mem_map_issue {refs : List Reference} {path : List String} {name : String} :
    ⟨path, .undeclaredToken name⟩ ∈ refs.map Reference.issue ↔
      (⟨.token, name, path⟩ : Reference) ∈ refs := by
  rw [List.mem_map]
  constructor
  · rintro ⟨⟨kind, other, path'⟩, hmem, heq⟩
    cases kind <;> cases heq
    exact hmem
  · exact fun hmem => ⟨_, hmem, rfl⟩

section Accepted

variable {data : Json} {v : Validation} {d : Definition} {start path : List String} {u : Json}
  {s name : String}

/-- A text in a searched part that stands for a token is warned of if that token is not
defined. -/
theorem warnsOfToken_iff (validated : Validation.ofJson data = .ok v)
    (accepted : v.definition = some d) (part : (start, u) ∈ (d.dump .asWritten).searched)
    (leads : u.Leads path (.str s)) (token : Reference.tokenName? s = some name) :
    v.WarnsOfToken (start ++ path) name ↔ Assoc.has d.tokens name = false := by
  obtain ⟨dangling, hread, hdangling, rfl⟩ := Validation.accepted validated accepted
  obtain ⟨refs, hrefs, rfl⟩ := Definition.danglingReferences_eq_ok.mp hdangling
  have hdump := Definition.references_dump (Read.tidy_around_screens hread) hrefs
  have hfound : Reference.Route.find? (start ++ path) .token (.str s) =
      some ⟨.token, name, start ++ path⟩ := by
    rw [Reference.Route.find?, token]
    rfl
  have hmem : (⟨.token, name, start ++ path⟩ : Reference) ∈ refs :=
    hdump ▸ Json.mem_references.mpr (.inside part leads hfound)
  rw [Validation.WarnsOfToken, Reference.mem_map_issue, List.mem_filter, and_iff_right hmem,
    Definition.declares, Bool.not_eq_true']

/-- What is warned of is what stays as it is for lack of a token, except where a text ends in a
line break and only one of the name and the name with the line break is defined. -/
theorem token_check_agrees_iff (validated : Validation.ofJson data = .ok v)
    (accepted : v.definition = some d) (part : (start, u) ∈ (d.dump .asWritten).searched)
    (leads : u.Leads path (.str s)) (token : Reference.tokenName? s = some name) :
    (Token.missing d.tokens (.str s) ≠ [] ↔ Token.LeftLiteral d.tokens s) ∧
    (Token.LeftLiteral d.tokens s → Token.resolve d.tokens (.str s) = .str s) ∧
    ((v.WarnsOfToken (start ++ path) name ↔ Token.LeftLiteral d.tokens s) ↔
      ('\n' ∈ s.toList → Assoc.has d.tokens name = Assoc.has d.tokens (name ++ "\n"))) := by
  have hvalued := d.tokens_valued
  refine ⟨Token.missing_str_iff hvalued, Token.LeftLiteral.resolve, ?_⟩
  have hleft : Token.LeftLiteral d.tokens s ↔
      Assoc.has d.tokens (if '\n' ∈ s.toList then name ++ "\n" else name) = false := by
    rw [Token.LeftLiteral, Token.name?_of_tokenName? token]
    simp only [Option.some.injEq, exists_eq_left', Token.lookup_eq_none hvalued]
  rw [warnsOfToken_iff validated accepted part leads token, hleft]
  by_cases hbreak : '\n' ∈ s.toList
  · rw [if_pos hbreak]
    simp only [hbreak, forall_const]
    cases Assoc.has d.tokens name <;> cases Assoc.has d.tokens (name ++ "\n") <;> simp
  · rw [if_neg hbreak]
    simp only [hbreak, false_imp_iff]

/-- A token whose name ends in a line break, and a text that refers to it. -/
def brandDocument : Json :=
  .obj [("version", .str "1"), ("initialScreen", .str "home"),
    ("app", .obj [("name", .str "Shop"), ("designTokens", .obj [("brand\n", .str "#123456")])]),
    ("screens", .obj [("home", .obj [("components", .arr [
      .obj [("type", .str "text"), ("content", .str "$brand\n")]])])])]

/-- The path below the screen to the text that refers to the token. -/
theorem brandDocument_leads :
    (Json.obj [("components", .arr [
      .obj [("type", .str "text"), ("content", .str "$brand\n")]])]).Leads
        ["components", toString 0, "content"] (.str "$brand\n") :=
  .key List.mem_cons_self (.index rfl (.key (List.mem_cons_of_mem _ List.mem_cons_self) .here))

theorem brand_checked :
    ∃ v d, Validation.ofJson brandDocument = .ok v ∧ v.definition = some d ∧
      ¬ (v.WarnsOfToken ["screens", "home", "components", "0", "content"] "brand" ↔
        Token.LeftLiteral d.tokens "$brand\n") := by
  refine ⟨_, _, rfl, rfl, ?_⟩
  have hagrees := @token_check_agrees_iff brandDocument _ _ ["screens", "home"] _ _ "$brand\n"
    "brand" rfl rfl List.mem_cons_self brandDocument_leads (by decide)
  intro hsame
  have heq := hagrees.2.2.mp hsame (by decide)
  exact absurd heq (by decide)

/-- The token is warned of, and the text that refers to it is shown with its value. -/
theorem shown_token_reported :
    ∃ v d, Validation.ofJson brandDocument = .ok v ∧ v.definition = some d ∧
      Reference.tokenName? "$brand\n" = some "brand" ∧
      v.WarnsOfToken ["screens", "home", "components", "0", "content"] "brand" ∧
      Token.resolve d.tokens (.str "$brand\n") = .str "#123456" ∧
      Token.missing d.tokens (.str "$brand\n") = [] :=
  ⟨_, _, rfl, rfl, by decide, List.mem_cons_self, rfl, rfl⟩

end Accepted

end Storyboard
