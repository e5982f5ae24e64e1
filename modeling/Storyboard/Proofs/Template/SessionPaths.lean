import Storyboard.Proofs.Json.Places
import Storyboard.Proofs.Template.Interpolation
import Storyboard.Template.Bindings

/-!
# Placeholders for the session

The session is bound last, over the record and whatever else is bound, so no field of a record can
stand in for it. A path that begins with the name of the session and a dot stays within the
session. That holds for the path a text as a whole is taken for too: it may reach over closing
braces, but it begins as the first placeholder does. So a template that asks for nothing but the
session comes out alike for all records, and where nobody is logged in it asks in vain.
-/
namespace Storyboard

/-- What the paths into the session begin with. -/
def sessionMark : List Char := "session.".toList

/-- Every placeholder in the texts of a template, at any depth, is for something of the session. -/
def Template.SessionOnly (template : Json) : Prop :=
  ∀ place s, template.Leads place (.str s) → ∀ path ∈ extractPaths s, sessionMark <+: path.toList

namespace Text

theorem dropWhile_reverse_prefix_self (s : List Char) :
    (s.reverse.dropWhile isBlank).reverse <+: s := by
  rw [← List.reverse_suffix, List.reverse_reverse]
  exact List.dropWhile_suffix _

/-- What a stripped text begins with up to a character that is not blank, longer texts begin with
too when they are stripped. -/
theorem prefix_strip {front s t : List Char} {c : Char} (solid : isBlank c = false)
    (h : front ++ [c] <+: strip s) (longer : s <+: t) : front ++ [c] <+: strip t := by
  have hs : front ++ [c] <+: s.dropWhile isBlank := h.trans (dropWhile_reverse_prefix_self _)
  obtain ⟨more, rfl⟩ := longer
  have hnonempty : (s.dropWhile isBlank).isEmpty = false := by
    obtain ⟨rest, hrest⟩ := hs
    rw [← hrest]
    simp
  obtain ⟨rest, hrest⟩ := hs.trans (List.prefix_append (s.dropWhile isBlank) more)
  rw [strip, trimBoth, List.dropWhile_append, if_neg (by simp [hnonempty]), ← hrest,
    List.reverse_append, List.dropWhile_append]
  split
  · rw [List.reverse_append, List.reverse_singleton, List.singleton_append,
      List.dropWhile_cons_of_neg (by simp [solid]), List.reverse_cons, List.reverse_reverse]
  · rw [List.reverse_append, List.reverse_reverse]
    exact List.prefix_append _ _

end Text

namespace Path

theorem steps_cons {c : Char} {rest piece : List Char} {more : List (List Char)} (h : c ≠ '.')
    (hrest : steps rest = piece :: more) : steps (c :: rest) = (c :: piece) :: more := by
  rw [steps, hrest]
  exact h

/-- A path whose first step is spelt out. -/
theorem steps_append (piece : List Char) (h : '.' ∉ piece) (rest : List Char) :
    steps (piece ++ '.' :: rest) = piece :: steps rest := by
  induction piece with
  | nil => rfl
  | cons c piece ih =>
    obtain ⟨hc, hpiece⟩ := List.ne_and_not_mem_of_not_mem_cons h
    exact steps_cons (Ne.symm hc) (ih hpiece)

/-- A path into the session leads where it leads in the session, whatever else is bound. -/
theorem get?_bindings (session : Option (Assoc Json)) (record extra : Assoc Json)
    (rest : List Char) :
    get? (.obj (bindings session record extra)) (sessionMark ++ rest) =
      session.bind fun fields => get? (.obj fields) rest := by
  have hsteps : steps (sessionMark ++ rest) = "session".toList :: steps rest :=
    steps_append "session".toList (by decide) rest
  have hbound : Assoc.get? (bindings session record extra) "session" =
      some ((session.map Json.obj).getD .null) := by
    rw [bindings, Assoc.get?_put, if_pos rfl]
  rw [get?, hsteps, walk, step]
  simp only [String.ofList_toList, hbound]
  cases session <;> rfl

end Path

namespace Template

/-- The nearest closing braces are not behind the last ones of a line. -/
theorem prefix_of_nearest {inner first after tail : List Char}
    (htext : inner ++ (closingBraces ++ tail) = first ++ (closingBraces ++ after))
    (hnearest : ¬ closingBraces <:+: first ++ ['\x7d']) : first <+: inner := by
  have hinner : inner <+: first ++ (closingBraces ++ after) := ⟨_, htext⟩
  obtain hshort | ⟨between, hbetween⟩ :=
    List.prefix_or_prefix_of_prefix (List.prefix_append first _) hinner
  · exact hshort
  · rw [← hbetween, List.append_assoc, List.append_cancel_left_eq] at htext
    cases between with
    | nil => exact ⟨[], by rw [← hbetween, List.append_nil, List.append_nil]⟩
    | cons c rest =>
      have hlonger : c :: rest ++ ['\x7d'] <+: closingBraces ++ tail :=
        ⟨'\x7d' :: after, by rw [htext]; simp [closingBraces]⟩
      have hcloses : closingBraces <+: c :: rest ++ ['\x7d'] :=
        List.prefix_of_prefix_length_le (List.prefix_append _ tail) hlonger
          (by simp [closingBraces])
      refine absurd (hcloses.isInfix.trans (List.suffix_append inner _).isInfix) ?_
      rwa [← List.append_assoc, hbetween]

/-- The path that a text as a whole is taken for begins as its first placeholder does. -/
theorem first_of_whole {s inner : List Char} (h : whole? s = some inner) :
    ∃ first, first <+: inner ∧ Text.strip first ∈ (scan s).paths := by
  obtain ⟨tail, henclosed⟩ := whole?_eq_some_iff.mp h
  obtain ⟨first, after, hclosing⟩ := closing_isSome henclosed.line tail
  have hopening : opening s = some (first, after) := by
    rw [henclosed.text, List.append_assoc, List.append_assoc]
    exact hclosing
  obtain ⟨htext, hnearest⟩ := closing_eq_some hclosing
  refine ⟨first, prefix_of_nearest htext hnearest, ?_⟩
  rw [scan_placeholder hopening]
  exact List.mem_cons_self

theorem session_of_scan {s : String}
    (only : ∀ path ∈ extractPaths s, sessionMark <+: path.toList) {path : List Char}
    (h : path ∈ (scan s.toList).paths) : sessionMark <+: path := by
  have hmark := only _ (List.mem_map_of_mem h)
  rwa [String.toList_ofList] at hmark

/-- So if all placeholders are for the session, that path leads into the session too. -/
theorem session_of_whole {s : String} {inner : List Char} (h : whole? s.toList = some inner)
    (only : ∀ path ∈ extractPaths s, sessionMark <+: path.toList) :
    sessionMark <+: Text.strip inner := by
  obtain ⟨first, hfirst, hpath⟩ := first_of_whole h
  have hspelt : "session".toList ++ ['.'] <+: Text.strip first := session_of_scan only hpath
  exact Text.prefix_strip (by decide) hspelt hfirst

/-- Only what is found under the session counts for a text that asks for nothing else. -/
theorem resolveString_congr {context context' : Json} {s : String}
    (agree : ∀ rest, Path.get? context (sessionMark ++ rest) =
      Path.get? context' (sessionMark ++ rest))
    (only : ∀ path ∈ extractPaths s, sessionMark <+: path.toList) :
    resolveString context s = resolveString context' s := by
  unfold resolveString
  split
  · rename_i inner hwhole
    obtain ⟨rest, hrest⟩ := session_of_whole hwhole only
    rw [← hrest, agree rest]
  · refine if_congr Iff.rfl (congrArg Json.str ?_) rfl
    refine congrArg String.ofList (fill_congr fun path hpath => ?_)
    obtain ⟨rest, hrest⟩ := session_of_scan only hpath
    rw [valueAt, valueAt, ← hrest, agree rest]

/-- A text with nothing in the place of its placeholders. -/
def emptied (s : String) : String := String.ofList ((scan s.toList).fill fun _ => [])

section LoggedOut

variable {context : Json} {s : String}
  (loggedOut : ∀ rest, Path.get? context (sessionMark ++ rest) = none)
  (only : ∀ path ∈ extractPaths s, sessionMark <+: path.toList)
include loggedOut only

theorem interpolate_of_loggedOut : interpolate context s = emptied s := by
  refine congrArg String.ofList (fill_congr fun path hpath => ?_)
  obtain ⟨rest, hrest⟩ := session_of_scan only hpath
  rw [valueAt, ← hrest, loggedOut rest]
  rfl

theorem resolveString_of_whole {inner : List Char} (h : whole? s.toList = some inner) :
    resolveString context s = .str "" := by
  obtain ⟨rest, hrest⟩ := session_of_whole h only
  rw [resolveString, h]
  dsimp only
  rw [← hrest, loggedOut rest]
  rfl

/-- Where there is no session, a text that asks for nothing else is left without its placeholders.
A frayed one counts as one placeholder, and nothing is left of it. -/
theorem resolveString_of_loggedOut :
    (¬ Frayed s.toList → resolveString context s = .str (emptied s)) ∧
    (Frayed s.toList → resolveString context s = .str "") := by
  refine ⟨fun hwhole => ?_, fun hfrayed => ?_⟩
  · cases h : whole? s.toList with
    | some inner =>
      obtain ⟨tail, henclosed⟩ := whole?_eq_some_iff.mp h
      rw [resolveString_of_whole loggedOut only h, emptied, fill_of_not_frayed henclosed hwhole]
    | none =>
      rw [resolveString, h]
      dsimp only
      split
      · rw [interpolate_of_loggedOut loggedOut only]
      · rename_i hnone
        have hslots := hasPlaceholder_eq_false.mp (Bool.eq_false_iff.mpr hnone)
        rw [emptied, fill_of_no_slots hslots, String.ofList_toList]
  · obtain ⟨inner, h⟩ := hfrayed.whole
    exact resolveString_of_whole loggedOut only h

end LoggedOut

theorem resolveItems_eq (context : Json) (items : List Json) :
    resolveItems context items = items.map (resolve context) := by
  induction items with
  | nil => rfl
  | cons v rest ih => rw [resolveItems, ih, List.map_cons]

theorem resolveFields_eq (context : Json) (fields : List (String × Json)) :
    resolveFields context fields = Assoc.mapValues (resolve context) fields := by
  induction fields with
  | nil => rfl
  | cons p rest ih => rw [resolveFields, ih]; rfl

theorem resolve_congr {context context' : Json} {template : Json}
    (agree : ∀ rest, Path.get? context (sessionMark ++ rest) =
      Path.get? context' (sessionMark ++ rest))
    (only : SessionOnly template) : resolve context template = resolve context' template := by
  induction template using Json.induction with
  | str s => exact resolveString_congr agree (only [] s .here)
  | arr items ih =>
    rw [resolve, resolve, resolveItems_eq, resolveItems_eq]
    refine congrArg Json.arr (List.map_congr_left fun v hv => ih v hv fun place s hs => ?_)
    obtain ⟨i, hi⟩ := List.getElem?_of_mem hv
    exact only _ s (.index hi hs)
  | obj fields ih =>
    rw [resolve, resolve, resolveFields_eq, resolveFields_eq]
    refine congrArg Json.obj (Assoc.mapValues_congr fun p hp => ih p hp fun place s hs => ?_)
    exact only _ s (.key hp hs)
  | _ => rfl

/-- A template keeps its shape: what a text resolves to stands where the text stood. -/
theorem leads_resolve (context : Json) {template : Json} {place : List String} {s : String}
    (h : template.Leads place (.str s)) :
    (resolve context template).Leads place (resolveString context s) := by
  generalize hw : Json.str s = w at h
  induction h with
  | here => subst hw; exact .here
  | key field _ ih =>
    rw [resolve, resolveFields_eq]
    exact .key (List.mem_map_of_mem field) (ih hw)
  | index item _ ih =>
    rw [resolve, resolveItems_eq]
    exact .index (by rw [List.getElem?_map, item]; rfl) (ih hw)

/-- A template whose placeholders are all for the session comes out the same for all records and
further bindings, whatever session there is. Where nobody is logged in, nothing stands in the place
of its placeholders: every text in it is left without them, and a frayed one, which counts as one
placeholder, is empty. -/
theorem session_placeholders_ignore_records {template : Json} (only : SessionOnly template) :
    (∀ (session : Option (Assoc Json)) (record record' extra extra' : Assoc Json),
      resolve (.obj (bindings session record extra)) template =
        resolve (.obj (bindings session record' extra')) template) ∧
    (∀ (record extra : Assoc Json) (place : List String) (s : String),
      template.Leads place (.str s) →
      let shown := resolve (.obj (bindings none record extra)) template
      (¬ Frayed s.toList → shown.Leads place (.str (emptied s))) ∧
      (Frayed s.toList → shown.Leads place (.str ""))) := by
  refine ⟨fun session record record' extra extra' => ?_, fun record extra place s hs => ?_⟩
  · refine resolve_congr (fun rest => ?_) only
    rw [Path.get?_bindings, Path.get?_bindings]
  · have hleads := leads_resolve (.obj (bindings none record extra)) hs
    obtain ⟨hplain, hfrayed⟩ :=
      resolveString_of_loggedOut (Path.get?_bindings none record extra) (only place s hs)
    exact ⟨fun h => hplain h ▸ hleads, fun h => hfrayed h ▸ hleads⟩

/-- A greeting for whoever is logged in, and the way to their picture. -/
def greeting : Json :=
  .obj [("line", .str "Hello \x7b\x7b session.user.name \x7d\x7d!"),
    ("picture", .arr [.str "\x7b\x7bsession.user.picture\x7d\x7d"])]

/-- A record that has a session among its fields. -/
def disguise : Assoc Json := [("session", .obj [("user", .obj [("name", .str "Eve")])])]

theorem greeting_ignores_disguise :
    SessionOnly greeting ∧
    (∀ session, resolve (.obj (bindings session disguise [])) greeting =
      resolve (.obj (bindings session [] [])) greeting) ∧
    greeting.Leads ["line"] (.str "Hello \x7b\x7b session.user.name \x7d\x7d!") ∧
    (resolve (.obj (bindings none disguise [])) greeting).Leads ["line"] (.str "Hello !") := by
  have only : SessionOnly greeting := by
    intro place s hs
    have hmem : (place, Json.str s) ∈ greeting.places [] := Json.mem_places.mpr ⟨place, rfl, hs⟩
    have htexts : place = ["line"] ∧ s = "Hello \x7b\x7b session.user.name \x7d\x7d!" ∨
        place = ["picture", toString 0] ∧ s = "\x7b\x7bsession.user.picture\x7d\x7d" := by
      simpa [greeting, Json.places, Json.placesFields, Json.placesItems] using hmem
    obtain ⟨-, rfl⟩ | ⟨-, rfl⟩ := htexts <;> decide +kernel
  have hline : greeting.Leads ["line"] (.str "Hello \x7b\x7b session.user.name \x7d\x7d!") :=
    .key List.mem_cons_self .here
  have hwhole : ¬ Frayed "Hello \x7b\x7b session.user.name \x7d\x7d!".toList := fun hfrayed => by
    obtain ⟨inner, hinner⟩ := hfrayed.whole
    cases hinner
  obtain ⟨hsame, hleft⟩ := session_placeholders_ignore_records only
  exact ⟨only, fun session => hsame session disguise [] [] [], hline,
    (hleft disguise [] _ _ hline).1 hwhole⟩

end Template

end Storyboard
