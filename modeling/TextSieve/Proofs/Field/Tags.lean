import TextSieve.Field
import TextSieve.Proofs.Pattern.Captures
import TextSieve.Proofs.Term.Anchoring

/-! What the pattern of a tag stands for between literal delimiters: a delimiter or the start of the
text, a name in a group, and the attribute delimiter. -/

namespace TextSieve

namespace Pattern.Regex

theorem size_cats_cons (r : Regex) (rs : List Regex) :
    (cats (r :: rs)).size = r.size + (cats rs).size := by
  cases rs <;> rfl

theorem size_cats_letters (t : Text) :
    (cats (t.map (Reader.letter false))).size = 32 * t.size := by
  induction t with
  | nil => rfl
  | cons c t ih =>
    have hletter : (Reader.letter false c).size = 32 * c.utf8Size := rfl
    rw [List.map_cons, size_cats_cons, ih, hletter, Text.size_cons, Nat.mul_add]

end Pattern.Regex

namespace Tag

open Pattern Reader

def isNameChar (c : Char) : Bool :=
  Unicode.isWord c || c == '.' || c == '-'

def nameChars : CharSet := .unions [.word, .single '.', .single '-']

theorem contains_nameChars (c : Char) : nameChars.contains c = isNameChar c := by
  simp [nameChars, CharSet.contains_unions, isNameChar, CharSet.contains, CharSet.word,
    Property.has, Bool.or_assoc]

theorem reads_nameChars {s : Reader} (hs : Plain false s) :
    s.Reads ['[', '\\', 'w', '.', '\\', '-', ']'] (s.append [.term (.one nameChars) 2]) := by
  intro rest _
  let inside (b : Bracket) : Reader := { s with brackets := [b] }
  have hentry : ∀ (b : Bracket) (c : Char) (x t : Text) (set : CharSet), c = '\\' ∨ c = '.' →
      Bracket.entry? {} c (x ++ t) = some (set, t) →
      (inside b).read? 0 (c :: (x ++ t)) = (inside (b.push set 0)).read? 0 t := by
    intro b c x t set hc h
    have hopening : b.opening? c = none := by
      rcases hc with rfl | rfl <;> simp [Bracket.opening?]
    refine read?_of_step ?_
    rcases hc with rfl | rfl <;>
      simp [inside, Reader.step?, hs.flags, hopening, Reader.inside?, h, inBracket]
  have hopen : s.read? 0 ('[' :: ([] ++ '\\' :: 'w' :: '.' :: '\\' :: '-' :: ']' :: rest)) =
      (inside .fresh).read? 0 ('\\' :: 'w' :: '.' :: '\\' :: '-' :: ']' :: rest) :=
    read?_of_step (hs.step? _ _)
  have hword := hentry .fresh '\\' ['w'] ('.' :: '\\' :: '-' :: ']' :: rest) .word (.inl rfl) rfl
  have hdot := hentry (Bracket.fresh.push .word 0) '.' [] ('\\' :: '-' :: ']' :: rest)
    (.single '.') (.inr rfl) rfl
  let b : Bracket := (Bracket.fresh.push .word 0).push (.single '.') 0
  have hdash := hentry b '\\' ['-'] (']' :: rest) (.single '-') (.inl rfl) rfl
  have hclose : (inside (b.push (.single '-') 0)).step? ']' ([] ++ rest) =
      some (s.append [.term (.one nameChars) 2], 0) := by
    simp [inside, b, Reader.step?, hs.flags, hs.brackets, Bracket.opening?, Bracket.fresh,
      Bracket.push, Bracket.begun, Reader.inside?, closeBracket?, Bracket.close?, Bracket.operand,
      Bracket.joined, Atom.negate?, Atom.fold, Reader.push, Reader.append, nameChars]
  exact hopen.trans (hword.trans (hdot.trans (hdash.trans (read?_of_step hclose))))

theorem readsAs_name :
    ReadsAs false (['[', '\\', 'w', '.', '\\', '-', ']'] ++ ['+'])
      [.term (.rep (.one nameChars) 1 none true) 3] := by
  intro s hs
  refine (reads_nameChars hs).trans (reads_of_step '+' [] fun rest hrest => ?_) (by simp)
  rw [(hs.append _).step?]
  simp [outside?, sign?, repeat?, Reader.append, hs.flags, hrest, Regex.repeated,
    Regex.isEmptyOnly]

def regex (ds : List Text) (a : Text) : Regex :=
  .cats (.alt (.look .textStart) (anyOf false ds) ::
    .group nameGroup (.rep (.one nameChars) 1 none true) :: a.map (letter false))

def nameItem : Item :=
  groupItem (some nameGroup) [.ofItems [.term (.rep (.one nameChars) 1 none true) 3]]

def patternRead (ds : List Text) (a : Text) : Reader :=
  { append { flags := {} }
      (startItem (anyOfItem false ds) :: nameItem :: a.map (letterItem false)) with
    names := [nameGroup] }

variable {ds : List Text} {a : Text}

theorem pattern_eq (fragment a : Text) :
    pattern fragment a =
      (['(', '?', ':'] ++ (['^'] ++ '|' :: fragment) ++ [')']) ++
        ((['(', '?', 'P', '<'] ++ nameGroup ++ ['>']) ++
          (['[', '\\', 'w', '.', '\\', '-', ']'] ++ ['+']) ++ [')'] ++ escape a) := by
  simp [pattern]

theorem ownReading_pattern (hds : ds ≠ []) :
    OwnReading {} (pattern (Delimiter.choice (ds.map escape)) a) (patternRead ds a) := by
  refine ⟨?_, rfl, rfl⟩
  let s : Reader := append { flags := {} } [startItem (anyOfItem false ds)]
  have hs : Plain false s := ⟨rfl, rfl⟩
  have hopen : s.Reads (['(', '?', 'P', '<'] ++ nameGroup ++ ['>'])
      { s.openGroup s.flags (some nameGroup) with names := [nameGroup] } :=
    reads_openNamed hs (by decide) (by decide) (by simp [s, append])
  let named : Reader := { s.append [nameItem] with names := [nameGroup] }
  have hname : s.Reads _ named := readsAs_group_of_open hs hopen readsAs_name.choice (by simp)
  have hnamed : Plain false named := ⟨rfl, rfl⟩
  have hend : named.append (a.map (letterItem false)) = patternRead ds a := by
    simp [patternRead, named, s, append]
  rw [pattern_eq, readsAs_before (readsAs_choice hds) (by simp [Delimiter.choice]) _ ⟨rfl, rfl⟩ _
    (by simp), hname _ (head?_escape_ne a), (readsAs_escape a).read?_end hnamed, hend]

theorem regex_patternRead : (patternRead ds a).choice.regex = regex ds a := by
  have hstart : (startItem (anyOfItem false ds)).regex =
      .alt (.look .textStart) (anyOf false ds) := by
    rw [← regex_anyOfItem]
    rfl
  have hletters : (a.map (letterItem false)).map Item.regex = a.map (letter false) := by
    simp [letterItem, Item.regex]
  have hitems : (patternRead ds a).items.reverse.map Item.regex =
      (startItem (anyOfItem false ds)).regex :: nameItem.regex ::
        (a.map (letterItem false)).map Item.regex := by
    simp [patternRead, append]
  have hchoice : (patternRead ds a).choice.regex =
      .cats ((patternRead ds a).items.reverse.map Item.regex) := rfl
  rw [hchoice, hitems, hstart, hletters]
  rfl

theorem depth_patternRead : (patternRead ds a).choice.depth ≤ nestLimit := by
  have hitems : ∀ d ∈ (patternRead ds a).items.map Item.depth, d ≤ 5 := by
    simp only [patternRead, append, List.append_nil, List.map_reverse, List.mem_reverse,
      List.map_cons, List.forall_mem_cons]
    refine ⟨?_, by decide, fun d hd => ?_⟩
    · rw [depth_startItem]
      exact Nat.add_le_add_right (depth_anyOfItem ds) 2
    · obtain ⟨i, hi, rfl⟩ := List.mem_map.1 hd
      obtain ⟨c, -, rfl⟩ := List.mem_map.1 hi
      exact Nat.zero_le 5
  exact Nat.le_trans (depthOf_le hitems) (by decide)

/-- The pattern of a tag is one unless it is too large. -/
theorem ofPattern?_pattern (hds : ds ≠ []) :
    Regex.ofPattern? false (pattern (Delimiter.choice (ds.map escape)) a) =
      if (regex ds a).size ≤ Regex.sizeLimit then some (regex ds a) else none := by
  have hown := ownReading_pattern (a := a) hds
  split
  · rename_i hsize
    rw [← regex_patternRead] at hsize ⊢
    exact ofPattern?_eq_some_iff.2 ⟨_, hown, depth_patternRead, hsize, rfl⟩
  · rename_i hsize
    refine Option.eq_none_iff_forall_not_mem.2 fun r hr => hsize ?_
    obtain ⟨e, he, -, hle, -⟩ := ofPattern?_eq_some_iff.1 hr
    obtain rfl := Option.some.inj (he.read.symm.trans hown.read)
    rwa [regex_patternRead] at hle

theorem eq_regex_of_ofPattern? (hds : ds ≠ []) {R : Regex}
    (h : Regex.ofPattern? false (pattern (Delimiter.choice (ds.map escape)) a) = some R) :
    R = regex ds a := by
  rw [ofPattern?_pattern hds] at h
  split at h
  · exact (Option.some.inj h).symm
  · cases h

/-- The values of a field between literal delimiters. -/
theorem taggedFields_literals {o : Options} (hds : ds ≠ [])
    (ha : o.activeAttributeDelimiter = some a) (text field : Text) :
    taggedFields ⟨o, Delimiter.choice (ds.map escape)⟩ text field =
      if isPattern (pattern (Delimiter.choice (ds.map escape)) a) then
        .ok (values field o.ignoreCase text.size
          (((regex ds a).allMatches text).filterMap (ofMatch? text)))
      else .error (.pattern .fieldTag) := by
  simp only [taggedFields, ha, all, isPattern, ofPattern?_pattern hds]
  by_cases hsize : (regex ds a).size ≤ Regex.sizeLimit
  · simp [hsize, Except.map]
  · simp [hsize, Except.map]

/-- Each byte of the attribute delimiter takes 32 of the automaton. -/
theorem taggedFields_of_long {o : Options} (hds : ds ≠ [])
    (ha : o.activeAttributeDelimiter = some a) (hlong : Regex.sizeLimit < 32 * a.size)
    (text field : Text) :
    taggedFields ⟨o, Delimiter.choice (ds.map escape)⟩ text field = .error (.pattern .fieldTag) := by
  have hsize : 32 * a.size ≤ (regex ds a).size := by
    simp only [regex, Regex.size_cats_cons, Regex.size_cats_letters]
    omega
  have hnone : Regex.ofPattern? false (pattern (Delimiter.choice (ds.map escape)) a) = none := by
    rw [ofPattern?_pattern hds, if_neg (by omega)]
  simp [taggedFields_literals hds ha, isPattern, hnone]

theorem matches_names {u w v : Text} :
    (Regex.rep (.one nameChars) 1 none true).Matches u w v ↔
      w ≠ [] ∧ ∀ c ∈ w, isNameChar c = true := by
  simp only [Regex.matches_atLeast_one, contains_nameChars, Nat.succ_le_iff, List.length_pos_iff]

section

variable (hds : ds ≠ [])

include hds

/-- A match is a tag, and says where it starts, where it ends and where the name is. -/
theorem goes_regex {u v : Text} {f : Thread}
    (h : (regex ds a).Goes (.startAt (.between u v)) f) :
    ∃ l w y, v = l ++ w ++ a ++ y ∧ (l = [] ∧ u = [] ∨ l ∈ ds) ∧
      w ≠ [] ∧ (∀ c ∈ w, isNameChar c = true) ∧
      f.start = Text.size u ∧ f.cursor = .between (u ++ l ++ w ++ a) y ∧
      f.group? nameGroup = some ⟨Text.size (u ++ l), Text.size (u ++ l ++ w)⟩ := by
  have hstart : f.start = Text.size u := Regex.start_of_goes h
  simp only [regex, Regex.goes_cats_cons] at h
  obtain ⟨s, hs, _, ⟨m, hm, rfl⟩, hf⟩ := h
  obtain ⟨l, v, rfl, hcs, hl⟩ := (Regex.agree_goes _ _ u v rfl _).1 ⟨s, hs, rfl⟩
  obtain ⟨w, v, rfl, hcm, hw⟩ := (Regex.agree_goes _ s.openGroup (u ++ l) v hcs _).1 ⟨m, hm, rfl⟩
  have hclosed : (m.closeGroup nameGroup).cursor = .between (u ++ l ++ w) v :=
    (Regex.cursor_closeGroup nameGroup m).trans hcm
  obtain ⟨x, y, rfl, hcf, hx⟩ := (Regex.agree_goes _ _ _ v hclosed _).1 ⟨f, hf, rfl⟩
  have hletter : letter false = fun c => .one (.single c) := rfl
  rw [hletter, Regex.matches_cats_single] at hx
  subst hx
  have hgroups : f.groups = (m.closeGroup nameGroup).groups := by
    refine Regex.groups_of_goes (Regex.ungrouped_cats fun r hr => ?_) hf
    obtain ⟨c, -, rfl⟩ := List.mem_map.1 hr
    trivial
  have hgroup : f.group? nameGroup = some ⟨s.offset, m.offset⟩ := by
    simp [Thread.group?, hgroups, Thread.closeGroup, Regex.opened_of_goes hm, Thread.openGroup]
  obtain ⟨hne, hchars⟩ := matches_names.1 hw
  refine ⟨l, w, y, by simp, ?_, hne, hchars, hstart, hcf, ?_⟩
  · simpa [Regex.Matches, Look.holds, matches_anyOf hds] using hl
  · rw [hgroup, Thread.offset, Thread.offset, hcs, hcm]
    rfl

theorem exists_goes_regex {u l w y : Text} (hl : l = [] ∧ u = [] ∨ l ∈ ds) (hne : w ≠ [])
    (hchars : ∀ c ∈ w, isNameChar c = true) :
    ∃ f, (regex ds a).Goes (.startAt (.between u (l ++ w ++ a ++ y))) f := by
  have hletter : letter false = fun c => .one (.single c) := rfl
  have hm : (regex ds a).Matches u (l ++ (w ++ a)) y := by
    simp only [regex, Regex.matches_cats_cons]
    refine ⟨l, w ++ a, rfl, ?_, w, a, rfl, matches_names.2 ⟨hne, hchars⟩, ?_⟩
    · simpa [Regex.Matches, Look.holds, matches_anyOf hds] using hl
    · rw [hletter, Regex.matches_cats_single]
  obtain ⟨f, hf, -⟩ := (Regex.agree_goes _ (.startAt (.between u (l ++ (w ++ a) ++ y))) u _
    rfl _).2 ⟨_, y, rfl, rfl, hm⟩
  exact ⟨f, by simpa only [List.append_assoc] using hf⟩

end

end Tag

end TextSieve
