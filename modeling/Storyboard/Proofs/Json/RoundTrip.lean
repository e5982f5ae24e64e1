import Storyboard.Proofs.Json.Scalars

/-!
# The reader undoes the writer

The text of a legible value is read back, however it is spaced, as long as the value is
not nested more deeply than the reader goes. The proof follows the value; that the reader
has fuel enough for the items of a list is seen from the length of their text.
-/
namespace Storyboard.Json

/-- Separators hold nothing but their mark and gaps, and characters are not escaped. -/
structure Style.Spaced (style : Style) : Prop where
  unescaped : style.ascii = false
  item : ∃ gap, style.itemSeparator.toList = ',' :: gap ∧ ∀ c ∈ gap, isGap c = true
  name : ∃ gap, style.nameSeparator.toList = ':' :: gap ∧ ∀ c ∈ gap, isGap c = true

theorem Style.spaced_indented (indent : Option Nat) : (Style.indented false indent).Spaced := by
  have hblank : ∀ c ∈ [' '], isGap c = true := List.forall_mem_singleton.mpr rfl
  cases indent with
  | none =>
    exact ⟨rfl, ⟨[' '], by simp [indented, plain], hblank⟩,
      ⟨[' '], by simp [indented, plain], hblank⟩⟩
  | some n =>
    exact ⟨rfl, ⟨[], by simp [indented], List.forall_mem_nil _⟩,
      ⟨[' '], by simp [indented], hblank⟩⟩

theorem Style.isGap_lineBreak (style : Style) (depth : Nat) :
    ∀ c ∈ (style.lineBreak depth).toList, isGap c = true := by
  unfold Style.lineBreak
  split
  · intro c hc
    cases hc
  · intro c hc
    rw [String.toList_append] at hc
    rcases List.mem_append.mp hc with hc | hc
    · obtain rfl : c = '\n' := by simpa using hc
      rfl
    · rw [String.toList_ofList] at hc
      obtain rfl : c = ' ' := List.eq_of_mem_replicate hc
      rfl

theorem skipGap_append {gap : List Char} (hgap : ∀ c ∈ gap, isGap c = true) (s : List Char) :
    skipGap (gap ++ s) = skipGap s :=
  List.dropWhile_append_of_pos hgap

theorem skipGap_cons {c : Char} (hc : isGap c = false) (s : List Char) :
    skipGap (c :: s) = c :: s := by
  simp [skipGap, hc]

theorem delimited_of_gap {c : Char} {s : List Char} (hc : isGap c = true) : Delimited (c :: s) := by
  simp only [isGap, Bool.or_eq_true, beq_iff_eq] at hc
  rw [delimited_cons]
  rcases hc with ((rfl | rfl) | rfl) | rfl <;> decide

theorem delimited_append {gap s : List Char} (hgap : ∀ c ∈ gap, isGap c = true)
    (hs : Delimited s) : Delimited (gap ++ s) := by
  cases gap with
  | nil => exact hs
  | cons c gap => exact delimited_of_gap (hgap c List.mem_cons_self)

theorem delimited_comma (tail : List Char) : Delimited (',' :: tail) :=
  delimited_cons.mpr (by decide)

/-- A text is read as a value in front of anything that does not go on with a number. -/
structure ReadsBack (item : Parse Json) (text : List Char) (v : Json) : Prop where
  head : ∃ c t, text = c :: t ∧ Begins c
  read : ∀ rest, Delimited rest → item (text ++ rest) = .ok (v, rest)

theorem ReadsBack.skipGap {item : Parse Json} {text : List Char} {v : Json}
    (h : ReadsBack item text v) (s : List Char) : skipGap (text ++ s) = text ++ s := by
  obtain ⟨c, t, rfl, hc⟩ := h.head
  exact skipGap_cons hc.1 _

section Containers

variable {style : Style} {depth : Nat} {item : Parse Json} {closing more : List Char}

theorem elements_last {s rest : List Char} {v : Json} (fuel : Nat) (hv : item s = .ok (v, rest))
    (hend : skipGap rest = ']' :: more) : elements item (fuel + 1) s = .ok ([v], more) := by
  rw [elements, hv]
  simp only [bind, Except.bind]
  rw [hend]
  rfl

theorem elements_more {s rest next : List Char} {v : Json} {vs : List Json} {fuel : Nat}
    (hv : item s = .ok (v, rest)) (hsep : skipGap rest = ',' :: next)
    (hmore : elements item fuel (skipGap next) = .ok (vs, more)) :
    elements item (fuel + 1) s = .ok (v :: vs, more) := by
  rw [elements, hv]
  simp only [bind, Except.bind]
  rw [hsep]
  simp [hmore]

theorem members_last {body next rest : List Char} {k : String} {v : Json} (fuel : Nat)
    (hk : stringBody ('"' :: body) [] body = .ok (k, ':' :: next))
    (hv : item (skipGap next) = .ok (v, rest)) (hend : skipGap rest = '\x7d' :: more) :
    members item (fuel + 1) ('"' :: body) = .ok ([(k, v)], more) := by
  rw [members, hk]
  simp only [bind, Except.bind]
  rw [skipGap_cons (by decide)]
  simp [hv, hend]

theorem members_more {body next rest tail : List Char} {k : String} {v : Json}
    {ms : List (String × Json)} {fuel : Nat}
    (hk : stringBody ('"' :: body) [] body = .ok (k, ':' :: next))
    (hv : item (skipGap next) = .ok (v, rest)) (hsep : skipGap rest = ',' :: tail)
    (hmore : members item fuel (skipGap tail) = .ok (ms, more)) :
    members item (fuel + 1) ('"' :: body) = .ok ((k, v) :: ms, more) := by
  rw [members, hk]
  simp only [bind, Except.bind]
  rw [skipGap_cons (by decide)]
  simp [hv, hsep, hmore]

theorem writeItems_cons (v : Json) (rest : List Json) :
    (writeItems style depth (v :: rest)).toList =
      style.itemSeparator.toList ++ ((style.lineBreak depth).toList ++
        ((writeAt style depth v).toList ++ (writeItems style depth rest).toList)) := by
  simp only [writeItems, String.toList_append, List.append_assoc]

theorem elements_writeItems (hs : style.Spaced) (hclosing : ∀ c ∈ closing, isGap c = true)
    (more : List Char) {v : Json} {rest : List Json} {fuel : Nat} (hfuel : rest.length < fuel)
    (hitems : ∀ u ∈ v :: rest, ReadsBack item (writeAt style depth u).toList u.reread) :
    elements item fuel ((writeAt style depth v).toList ++
      ((writeItems style depth rest).toList ++ (closing ++ ']' :: more))) =
        .ok ((v :: rest).map reread, more) := by
  obtain ⟨hv, hrest⟩ := List.forall_mem_cons.mp hitems
  obtain ⟨gap, hgap, hgaps⟩ := hs.item
  obtain ⟨fuel, rfl⟩ : ∃ n, fuel = n + 1 := ⟨fuel - 1, by omega⟩
  induction rest generalizing v fuel with
  | nil =>
    have hend : Delimited (closing ++ ']' :: more) :=
      delimited_append hclosing (delimited_cons.mpr (by decide))
    have hempty : (writeItems style depth []).toList = [] := rfl
    rw [hempty, List.nil_append]
    refine elements_last fuel (hv.read _ hend) ?_
    rw [skipGap_append hclosing, skipGap_cons (by decide)]
  | cons u rest ih =>
    have hu := hrest u List.mem_cons_self
    obtain ⟨fuel, rfl⟩ : ∃ n, fuel = n + 1 :=
      ⟨fuel - 1, by rw [List.length_cons] at hfuel; omega⟩
    have hnext := ih hrest hu (List.forall_mem_cons.mp hrest).2 fuel (Nat.lt_of_succ_lt_succ hfuel)
    rw [writeItems_cons, hgap]
    simp only [List.cons_append, List.append_assoc]
    refine elements_more (hv.read _ (delimited_comma _)) (skipGap_cons (by decide) _) ?_
    rw [skipGap_append hgaps, skipGap_append (style.isGap_lineBreak depth), hu.skipGap, hnext]

theorem writeFields_cons (k : String) (v : Json) (rest : List (String × Json)) :
    (writeFields style depth ((k, v) :: rest)).toList =
      style.itemSeparator.toList ++ ((style.lineBreak depth).toList ++
        ((quote style.ascii k).toList ++ (style.nameSeparator.toList ++
          ((writeAt style depth v).toList ++ (writeFields style depth rest).toList)))) := by
  simp only [writeFields, String.toList_append, List.append_assoc]

theorem members_writeFields (hs : style.Spaced) (hclosing : ∀ c ∈ closing, isGap c = true)
    (more : List Char) {k : String} {v : Json} {rest : List (String × Json)} {fuel : Nat}
    (hfuel : rest.length < fuel)
    (hfields : ∀ p ∈ (k, v) :: rest,
      ReadsBack item (writeAt style depth p.2).toList p.2.reread) :
    members item fuel ((quote style.ascii k).toList ++ (style.nameSeparator.toList ++
      ((writeAt style depth v).toList ++
        ((writeFields style depth rest).toList ++ (closing ++ '\x7d' :: more))))) =
          .ok (Assoc.mapValues reread ((k, v) :: rest), more) := by
  obtain ⟨hv, hrest⟩ := List.forall_mem_cons.mp hfields
  obtain ⟨gap, hgap, hgaps⟩ := hs.item
  obtain ⟨nameGap, hname, hnameGaps⟩ := hs.name
  obtain ⟨fuel, rfl⟩ : ∃ n, fuel = n + 1 := ⟨fuel - 1, by omega⟩
  rw [hs.unescaped, hname]
  induction rest generalizing k v fuel with
  | nil =>
    have hend : Delimited (closing ++ '\x7d' :: more) :=
      delimited_append hclosing (delimited_cons.mpr (by decide))
    have hempty : (writeFields style depth []).toList = [] := rfl
    have hread := hv.read _ hend
    rw [← hv.skipGap, ← skipGap_append hnameGaps] at hread
    rw [toList_quote, hempty]
    simp only [List.cons_append, List.append_assoc, List.nil_append]
    refine members_last fuel (stringBody_quote k) hread ?_
    rw [skipGap_append hclosing, skipGap_cons (by decide)]
  | cons p rest ih =>
    obtain ⟨key, u⟩ := p
    have hu := hrest (key, u) List.mem_cons_self
    obtain ⟨fuel, rfl⟩ : ∃ n, fuel = n + 1 :=
      ⟨fuel - 1, by rw [List.length_cons] at hfuel; omega⟩
    have hnext := ih hrest hu (List.forall_mem_cons.mp hrest).2 fuel (Nat.lt_of_succ_lt_succ hfuel)
    rw [writeFields_cons, hgap, hs.unescaped, hname, toList_quote k]
    simp only [List.cons_append, List.append_assoc, List.nil_append] at hnext ⊢
    have hread : ∀ tail, item (skipGap (nameGap ++
        ((writeAt style depth v).toList ++ ',' :: tail))) = .ok (v.reread, ',' :: tail) := by
      intro tail
      rw [skipGap_append hnameGaps, hv.skipGap]
      exact hv.read _ (delimited_comma _)
    refine members_more (stringBody_quote k) (hread _) (skipGap_cons (by decide) _) ?_
    rw [skipGap_append hgaps, skipGap_append (style.isGap_lineBreak depth)]
    rw [toList_quote] at hnext ⊢
    rw [List.cons_append, skipGap_cons (by decide), ← List.cons_append, hnext]
    rfl

theorem length_le_writeItems (hs : style.Spaced) (depth : Nat) (items : List Json) :
    items.length ≤ (writeItems style depth items).toList.length := by
  obtain ⟨gap, hgap, -⟩ := hs.item
  induction items with
  | nil => exact Nat.zero_le _
  | cons v rest ih =>
    rw [writeItems_cons, hgap]
    simp only [List.length_append, List.length_cons]
    omega

theorem length_le_writeFields (hs : style.Spaced) (depth : Nat) (fields : List (String × Json)) :
    fields.length ≤ (writeFields style depth fields).toList.length := by
  obtain ⟨gap, hgap, -⟩ := hs.item
  induction fields with
  | nil => exact Nat.zero_le _
  | cons p rest ih =>
    rw [writeFields_cons, hgap]
    simp only [List.length_append, List.length_cons]
    omega

theorem length_writeAt_le_items (style : Style) (depth : Nat) {v : Json} {items : List Json}
    (hv : v ∈ items) :
    (writeAt style depth v).toList.length ≤ (writeItems style depth items).toList.length := by
  induction items with
  | nil => cases hv
  | cons u rest ih =>
    rw [writeItems_cons]
    simp only [List.length_append]
    rcases List.mem_cons.mp hv with rfl | hv
    · omega
    · have := ih hv
      omega

theorem length_writeAt_le_fields (style : Style) (depth : Nat) {p : String × Json}
    {fields : List (String × Json)} (hp : p ∈ fields) :
    (writeAt style depth p.2).toList.length ≤ (writeFields style depth fields).toList.length := by
  induction fields with
  | nil => cases hp
  | cons q rest ih =>
    rw [writeFields_cons]
    simp only [List.length_append]
    rcases List.mem_cons.mp hp with rfl | hp
    · omega
    · have := ih hp
      omega

end Containers

section Values

variable {bounds : Bounds} {style : Style} {depth levels fuel : Nat}

theorem value_of_scalar {s : List Char} {r : Json × List Char} (h : scalar bounds s = .ok r) :
    value bounds fuel levels s = .ok r := by
  obtain ⟨c, t, rfl, hc⟩ := beginsScalar_of_scalar h
  rw [value_plain t hc.2.1 hc.2.2, h]

theorem readsBack_of_scalar {text : List Char} {v : Json}
    (h : ∀ rest, Delimited rest → scalar bounds (text ++ rest) = .ok (v, rest)) :
    ReadsBack (value bounds fuel levels) text v := by
  constructor
  · have hs := h [] delimited_nil
    rw [List.append_nil] at hs
    obtain ⟨c, t, ht, hc⟩ := beginsScalar_of_scalar hs
    exact ⟨c, t, ht, hc.1⟩
  · exact fun rest hrest => value_of_scalar (h rest hrest)

theorem value_arr {s : List Char} {c : Char} {t : List Char} (hs : skipGap s = c :: t)
    (hc : c ≠ ']') {vs : List Json} {rest : List Char}
    (helements : elements (value bounds fuel levels) fuel (c :: t) = .ok (vs, rest)) :
    value bounds fuel (levels + 1) ('[' :: s) = .ok (.arr vs, rest) := by
  rw [value_bracket, hs]
  split
  · rename_i heq
    cases heq
    exact absurd rfl hc
  · rw [helements]
    rfl

theorem value_obj {s : List Char} {c : Char} {t : List Char} (hs : skipGap s = c :: t)
    (hc : c ≠ '\x7d') {ms : List (String × Json)} {rest : List Char}
    (hmembers : members (value bounds fuel levels) fuel (c :: t) = .ok (ms, rest)) :
    value bounds fuel (levels + 1) ('\x7b' :: s) = .ok (.obj (Assoc.ofPairs ms), rest) := by
  rw [value_brace, hs]
  split
  · rename_i heq
    cases heq
    exact absurd rfl hc
  · rw [hmembers]
    rfl

theorem readsBack_empty_arr :
    ReadsBack (value bounds fuel (levels + 1)) "[]".toList (.arr []) := by
  refine ⟨⟨'[', [']'], rfl, by decide⟩, fun rest _ => ?_⟩
  have ht : "[]".toList = ['[', ']'] := rfl
  rw [ht, List.cons_append, value_bracket]
  rfl

theorem readsBack_empty_obj :
    ReadsBack (value bounds fuel (levels + 1)) "\x7b\x7d".toList (.obj []) := by
  refine ⟨⟨'\x7b', ['\x7d'], rfl, by decide⟩, fun rest _ => ?_⟩
  have ht : "\x7b\x7d".toList = ['\x7b', '\x7d'] := rfl
  rw [ht, List.cons_append, value_brace]
  rfl

theorem toList_writeAt_arr (v : Json) (rest : List Json) :
    (writeAt style depth (.arr (v :: rest))).toList =
      '[' :: ((style.lineBreak (depth + 1)).toList ++ ((writeAt style (depth + 1) v).toList ++
        ((writeItems style (depth + 1) rest).toList ++
          ((style.lineBreak depth).toList ++ [']'])))) := by
  simp [writeAt, String.toList_append]

theorem toList_writeAt_obj (k : String) (v : Json) (rest : List (String × Json)) :
    (writeAt style depth (.obj ((k, v) :: rest))).toList =
      '\x7b' :: ((style.lineBreak (depth + 1)).toList ++ ((quote style.ascii k).toList ++
        (style.nameSeparator.toList ++ ((writeAt style (depth + 1) v).toList ++
          ((writeFields style (depth + 1) rest).toList ++
            ((style.lineBreak depth).toList ++ ['\x7d'])))))) := by
  simp [writeAt, String.toList_append]

theorem readsBack_arr (hs : style.Spaced) {v : Json} {rest : List Json}
    (hitems : ∀ u ∈ v :: rest,
      ReadsBack (value bounds fuel levels) (writeAt style (depth + 1) u).toList u.reread)
    (hfuel : (writeAt style depth (.arr (v :: rest))).toList.length ≤ fuel) :
    ReadsBack (value bounds fuel (levels + 1)) (writeAt style depth (.arr (v :: rest))).toList
      (.arr ((v :: rest).map reread)) := by
  rw [toList_writeAt_arr] at hfuel ⊢
  have hlen := length_le_writeItems hs (depth + 1) rest
  simp only [List.length_cons, List.length_append] at hfuel
  refine ⟨⟨_, _, rfl, by decide⟩, fun more _ => ?_⟩
  obtain ⟨c, t, ht, hc⟩ := (hitems v List.mem_cons_self).head
  have helements := elements_writeItems hs (style.isGap_lineBreak depth) more
    (by omega : rest.length < fuel) hitems
  have hgap := skipGap_append (style.isGap_lineBreak (depth + 1))
  simp only [List.cons_append, List.append_assoc, List.nil_append]
  rw [ht, List.cons_append] at helements ⊢
  exact value_arr (by rw [hgap, skipGap_cons hc.1]) hc.2.1 helements

theorem readsBack_obj (hs : style.Spaced) {k : String} {v : Json} {rest : List (String × Json)}
    (hfields : ∀ p ∈ (k, v) :: rest,
      ReadsBack (value bounds fuel levels) (writeAt style (depth + 1) p.2).toList p.2.reread)
    (hkeys : (Assoc.keys ((k, v) :: rest)).Nodup)
    (hfuel : (writeAt style depth (.obj ((k, v) :: rest))).toList.length ≤ fuel) :
    ReadsBack (value bounds fuel (levels + 1)) (writeAt style depth (.obj ((k, v) :: rest))).toList
      (.obj (Assoc.mapValues reread ((k, v) :: rest))) := by
  rw [toList_writeAt_obj] at hfuel ⊢
  have hlen := length_le_writeFields hs (depth + 1) rest
  simp only [List.length_cons, List.length_append] at hfuel
  refine ⟨⟨_, _, rfl, by decide⟩, fun more _ => ?_⟩
  have hmembers := members_writeFields hs (style.isGap_lineBreak depth) more
    (by omega : rest.length < fuel) hfields
  have hgap := skipGap_append (style.isGap_lineBreak (depth + 1))
  simp only [List.cons_append, List.append_assoc, List.nil_append]
  rw [hs.unescaped, toList_quote, List.cons_append] at hmembers ⊢
  rw [← Assoc.ofPairs_eq (by rwa [Assoc.keys_mapValues] :
    (Assoc.keys (Assoc.mapValues reread ((k, v) :: rest))).Nodup)]
  exact value_obj (by rw [hgap, skipGap_cons (by decide)]) (by decide) hmembers

theorem readsBack_writeAt (hs : style.Spaced) {v : Json} (hv : v.Legible bounds)
    (hlevels : v.height ≤ levels) (hfuel : (writeAt style depth v).toList.length ≤ fuel) :
    ReadsBack (value bounds fuel levels) (writeAt style depth v).toList v.reread := by
  induction hv generalizing depth levels with
  | null =>
    refine readsBack_of_scalar fun rest _ => ?_
    rw [writeAt]
    rfl
  | bool b =>
    refine readsBack_of_scalar fun rest _ => ?_
    cases b <;> rw [writeAt] <;> rfl
  | int n hn =>
    exact readsBack_of_scalar fun rest hrest =>
      scalar_of_number (number_append hrest (number_toString hn))
  | float x hx => exact readsBack_of_scalar fun rest hrest => scalar_float_append hrest hx
  | str s =>
    refine readsBack_of_scalar fun rest _ => ?_
    rw [writeAt, hs.unescaped, toList_quote, List.cons_append, List.append_assoc]
    rw [scalar_quote, List.cons_append, List.nil_append, stringBody_quote]
    rfl
  | arr items _ ih =>
    obtain ⟨levels, rfl⟩ : ∃ n, levels = n + 1 :=
      ⟨levels - 1, by rw [height] at hlevels; omega⟩
    have hheights := heightItems_le.mp (Nat.le_of_succ_le_succ hlevels)
    cases items with
    | nil => exact readsBack_empty_arr
    | cons v rest =>
      rw [reread_arr]
      refine readsBack_arr hs (fun u hu => ih u hu (hheights u hu) ?_) hfuel
      rw [toList_writeAt_arr] at hfuel
      simp only [List.length_cons, List.length_append] at hfuel
      rcases List.mem_cons.mp hu with rfl | hu
      · omega
      · have := length_writeAt_le_items style (depth + 1) hu
        omega
  | obj fields hkeys _ ih =>
    obtain ⟨levels, rfl⟩ : ∃ n, levels = n + 1 :=
      ⟨levels - 1, by rw [height] at hlevels; omega⟩
    have hheights := heightFields_le.mp (Nat.le_of_succ_le_succ hlevels)
    cases fields with
    | nil => exact readsBack_empty_obj
    | cons p rest =>
      rw [reread_obj]
      refine readsBack_obj hs (fun q hq => ih q hq (hheights q hq) ?_) hkeys hfuel
      rw [toList_writeAt_obj] at hfuel
      simp only [List.length_cons, List.length_append] at hfuel
      rcases List.mem_cons.mp hq with rfl | hq
      · dsimp only
        omega
      · have := length_writeAt_le_fields style (depth + 1) hq
        omega

/-- A legible value is read back from its text. -/
theorem read_write (hs : style.Spaced) {v : Json} (hv : v.Legible bounds)
    (hdepth : v.height ≤ bounds.depth) : read bounds (v.write style) = .ok v.reread := by
  have hback := readsBack_writeAt hs hv hdepth (Nat.le_succ (writeAt style 0 v).toList.length)
  have hread := hback.read [] delimited_nil
  obtain ⟨c, t, ht, hc⟩ := hback.head
  unfold read write
  rw [List.append_nil] at hread
  generalize (writeAt style 0 v).toList = s at ht hread
  subst ht
  simp only [bind, Except.bind]
  rw [if_neg (by simpa using hc.2.2), skipGap_cons hc.1, hread]
  rfl

end Values

theorem writeItems_map {style : Style} {depth : Nat} {h : Json → Json} {items : List Json}
    (heq : ∀ v ∈ items, writeAt style depth (h v) = writeAt style depth v) :
    writeItems style depth (items.map h) = writeItems style depth items := by
  induction items with
  | nil => rfl
  | cons v rest ih =>
    obtain ⟨hv, hrest⟩ := List.forall_mem_cons.mp heq
    rw [List.map_cons, writeItems, writeItems, hv, ih hrest]

theorem writeFields_mapValues {style : Style} {depth : Nat} {h : Json → Json}
    {fields : List (String × Json)}
    (heq : ∀ p ∈ fields, writeAt style depth (h p.2) = writeAt style depth p.2) :
    writeFields style depth (Assoc.mapValues h fields) = writeFields style depth fields := by
  induction fields with
  | nil => rfl
  | cons p rest ih =>
    obtain ⟨hp, hrest⟩ := List.forall_mem_cons.mp heq
    have hcons : Assoc.mapValues h (p :: rest) = (p.1, h p.2) :: Assoc.mapValues h rest := rfl
    rw [hcons, writeFields, writeFields, hp, ih hrest]

theorem writeAt_reread (style : Style) (depth : Nat) (v : Json) :
    writeAt style depth v.reread = writeAt style depth v := by
  induction v using Json.induction generalizing depth with
  | float x => cases x <;> rfl
  | arr items ih =>
    rw [reread_arr]
    cases items with
    | nil => rfl
    | cons v rest =>
      obtain ⟨hv, hrest⟩ := List.forall_mem_cons.mp ih
      rw [List.map_cons, writeAt, writeAt, hv, writeItems_map fun u hu => hrest u hu (depth + 1)]
  | obj fields ih =>
    rw [reread_obj]
    cases fields with
    | nil => rfl
    | cons p rest =>
      obtain ⟨hp, hrest⟩ := List.forall_mem_cons.mp ih
      have hcons : Assoc.mapValues reread (p :: rest) =
          (p.1, p.2.reread) :: Assoc.mapValues reread rest := rfl
      rw [hcons, writeAt, writeAt, hp, writeFields_mapValues fun q hq => hrest q hq (depth + 1)]
  | _ => rfl

/-- What was read back has the same text. -/
theorem write_reread (style : Style) (v : Json) : v.reread.write style = v.write style :=
  writeAt_reread style 0 v

end Storyboard.Json
