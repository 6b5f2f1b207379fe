import Mathlib.Data.List.Pairwise
import Mathlib.Tactic.Common
import TextSieve.Proofs.Field.Tags
import TextSieve.Proofs.Field.Values
import TextSieve.Proofs.Term.Delimiters

/-! Extracted values are sound. The tags of a text are matches in a row, whatever the delimiters are:
each ends behind the end of the one before it, so the values are in order and none overlaps another,
of its own field or of another one. Between literal delimiters a value begins where a name and the
attribute delimiter end. -/

namespace TextSieve

def Span.Apart (s s' : Span) : Prop :=
  s.stop ≤ s'.start ∨ s'.stop ≤ s.start

namespace Tag

open Pattern

variable {text field : Text} {ignoreCase : Bool}

def comparable (ignoreCase : Bool) (name : Text) : Text :=
  if ignoreCase then Unicode.lower name else name

theorem isOf_iff {t : Tag} :
    t.isOf field ignoreCase = true ↔ comparable ignoreCase t.name = comparable ignoreCase field := by
  unfold isOf comparable
  split <;> simp

/-- The span starts right behind a name that counts as the field and the attribute delimiter, which
stand behind a delimiter or at the start of the text. -/
def Introduces (ds : List Text) (a field : Text) (ignoreCase : Bool) (text : Text) (s : Span) :
    Prop :=
  ∃ u name v, text = u ++ name ++ a ++ v ∧ Opens ds u ∧ name ≠ [] ∧
    (∀ c ∈ name, isNameChar c = true) ∧
    comparable ignoreCase name = comparable ignoreCase field ∧
    s.start = Text.size (u ++ name ++ a)

def valued (stop : Nat) : List Tag → List (Tag × Span)
  | [] => []
  | t :: rest => (t, ⟨t.valueStart, (rest.head?.map Tag.start).getD stop⟩) :: valued stop rest

theorem values_eq (stop : Nat) (tags : List Tag) :
    values field ignoreCase stop tags =
      ((valued stop tags).filter (·.1.isOf field ignoreCase)).map (·.2) := by
  induction tags with
  | nil => rfl
  | cons t rest ih =>
    simp only [values, valued, List.filter_cons, ih]
    split
    · rfl
    · rfl

theorem mem_values_iff {stop : Nat} {tags : List Tag} {s : Span} :
    s ∈ values field ignoreCase stop tags ↔
      ∃ t, (t, s) ∈ valued stop tags ∧
        comparable ignoreCase t.name = comparable ignoreCase field := by
  simp [values_eq, isOf_iff]

theorem of_mem_valued {stop : Nat} {tags : List Tag} {p : Tag × Span} (h : p ∈ valued stop tags) :
    p.1 ∈ tags ∧ p.2.start = p.1.valueStart := by
  induction tags with
  | nil => simp [valued] at h
  | cons t rest ih =>
    rcases List.mem_cons.1 h with rfl | h
    · exact ⟨List.mem_cons_self .., rfl⟩
    · obtain ⟨hmem, hstart⟩ := ih h
      exact ⟨List.mem_cons_of_mem t hmem, hstart⟩

/-- A value starts later than the one before it, and not before that one is over. -/
theorem pairwise_valued {stop : Nat} {tags : List Tag} (h : ∀ t ∈ tags, t.Within text)
    (hasc : tags.Pairwise (·.valueStart < ·.valueStart)) :
    (valued stop tags).Pairwise
      (fun p q => p.2.start < q.2.start ∧ p.2.stop ≤ q.2.start) := by
  induction tags with
  | nil => exact .nil
  | cons t rest ih =>
    obtain ⟨-, hrest⟩ := List.forall_mem_cons.1 h
    obtain ⟨hnext, hasc⟩ := List.pairwise_cons.1 hasc
    refine List.pairwise_cons.2 ⟨fun q hq => ?_, ih hrest hasc⟩
    obtain ⟨hmem, hstart⟩ := of_mem_valued hq
    refine ⟨hstart ▸ hnext q.1 hmem, ?_⟩
    cases rest with
    | nil => cases hmem
    | cons t' rest =>
      have hle : t'.start ≤ t'.valueStart := (hrest t' (List.mem_cons_self ..)).start_le
      have hlater : t'.valueStart ≤ q.1.valueStart := by
        rcases List.mem_cons.1 hmem with heq | hmem
        · exact Nat.le_of_eq (congrArg Tag.valueStart heq).symm
        · exact Nat.le_of_lt ((List.pairwise_cons.1 hasc).1 q.1 hmem)
      rw [hstart]
      exact Nat.le_trans hle hlater

theorem ascending_of_all {r : Resolved} {a : Text} {tags : List Tag}
    (h : all r a text = .ok tags) : tags.Pairwise (·.valueStart < ·.valueStart) := by
  unfold all at h
  split at h
  · cases h
  · rename_i regex hregex
    obtain rfl := Except.ok.inj h
    obtain ⟨-, hpair⟩ := Regex.matchesFrom_ascending (r := regex) (text.length + 2) none
      (Cursor.In.start text)
    refine hpair.filterMap _ fun m m' hlt t ht t' ht' => ?_
    obtain ⟨name, -, rfl⟩ := Option.map_eq_some_iff.1 ht
    obtain ⟨name', -, rfl⟩ := Option.map_eq_some_iff.1 ht'
    exact hlt

/-- Two values of one text are the same or apart, whichever fields they belong to. -/
theorem apart_of_valued {stop : Nat} {tags : List Tag} (h : ∀ t ∈ tags, t.Within text)
    (hasc : tags.Pairwise (·.valueStart < ·.valueStart)) {p q : Tag × Span}
    (hp : p ∈ valued stop tags) (hq : q ∈ valued stop tags) (hne : p ≠ q) : p.2.Apart q.2 := by
  have happart : (valued stop tags).Pairwise (fun p q => p.2.Apart q.2) :=
    (pairwise_valued h hasc).imp fun hpq => .inl hpq.2
  have : Std.Symm (fun p q : Tag × Span => p.2.Apart q.2) := ⟨fun _ _ => Or.symm⟩
  exact happart.forall hp hq hne

section

variable {ds : List Text} {a : Text} {o : Options}

/-- A tag between literal delimiters is a name with the attribute delimiter behind it. -/
theorem introduces_of_mem_values (hds : ds ≠ []) {tags : List Tag}
    (h : all ⟨o, Delimiter.choice (ds.map escape)⟩ a text = .ok tags) {s : Span}
    (hs : s ∈ values field ignoreCase text.size tags) : Introduces ds a field ignoreCase text s := by
  obtain ⟨t, hts, hname⟩ := mem_values_iff.1 hs
  obtain ⟨htags, hstart⟩ := of_mem_valued hts
  simp only [all] at h
  split at h
  · cases h
  · rename_i regex' hregex
    obtain rfl := Except.ok.inj h
    obtain rfl : regex' = regex ds a := eq_regex_of_ofPattern? hds hregex
    obtain ⟨f, hf, ht⟩ := List.mem_filterMap.1 htags
    obtain ⟨m, ⟨u, v, rfl, rfl⟩, hsearch⟩ := Regex.exists_search_of_mem (Cursor.In.start text) hf
    obtain ⟨x, z, rfl, hgoes, -⟩ := Regex.first_of_search hsearch
    obtain ⟨l, w, y, rfl, hl, hne, hchars, -, hcursor, hgroup⟩ := goes_regex hds hgoes
    have htext : u ++ x ++ l ++ w ++ (a ++ y) = u ++ (x ++ (l ++ w ++ a ++ y)) := by simp
    have hslice := Span.slice_cut (u ++ x ++ l) w (a ++ y)
    rw [htext] at hslice
    simp only [ofMatch?, hgroup, Option.map_some, Option.some.injEq] at ht
    subst ht
    refine ⟨u ++ x ++ l, w, y, by simp, opens_append hl, hne, hchars, ?_, ?_⟩
    · simpa only [hslice] using hname
    · have hvalue : s.start = f.offset := hstart
      rw [hvalue, Thread.offset, hcursor]
      rfl

end

end Tag

theorem literals_of_resolve {o : Options} {r : Resolved} {ds : List Text}
    (h : o.resolve = .ok r) (hds : o.delimiters = ds.map .literal) : ds ≠ [] ∧ [] ∉ ds := by
  obtain ⟨ps, hall, hne, -⟩ := Delimiter.exists_branches_of_resolve h
  rw [hds] at hall
  constructor
  · rintro rfl
    cases hall
    exact hne rfl
  · intro hmem
    obtain ⟨p, -, hp⟩ := exists_mem_of_forall₂ hall.flip (List.mem_map_of_mem hmem)
    cases hp

/-- What is extracted lies in the text, in order and without overlaps, also between fields that
differ; between literal delimiters each value stands behind a name that counts as the field and the
attribute delimiter; without an attribute delimiter nothing is extracted. -/
theorem sound_of_taggedFields {o : Options} {r : Resolved} {text field : Text} {spans : List Span}
    (hr : o.resolve = .ok r) (h : taggedFields r text field = .ok spans) :
    (∀ s ∈ spans, s.Within text) ∧
    spans.Pairwise (fun s s' => s.start < s'.start ∧ s.stop ≤ s'.start) ∧
    (∀ ds, o.delimiters = ds.map .literal → ∀ s ∈ spans, ∃ a, o.activeAttributeDelimiter = some a ∧
      Tag.Introduces ds a field o.ignoreCase text s) ∧
    (∀ other others, Tag.comparable o.ignoreCase other ≠ Tag.comparable o.ignoreCase field →
      taggedFields r text other = .ok others → ∀ s ∈ spans, ∀ s' ∈ others, s.Apart s') ∧
    (o.activeAttributeDelimiter = none → spans = []) := by
  obtain ⟨ps, -, -, rfl⟩ := Delimiter.exists_branches_of_resolve hr
  have hwithin := within_of_taggedFields h
  rcases taggedFields_eq_ok h with ⟨-, rfl⟩ | ⟨a, tags, ha, htags, rfl⟩
  · simp
  obtain ⟨htagged, -⟩ := Tag.within_of_all htags
  have hasc := Tag.ascending_of_all htags
  refine ⟨hwithin, ?_, ?_, ?_, ?_⟩
  · rw [Tag.values_eq]
    exact ((Tag.pairwise_valued htagged hasc).filter _).map _ fun _ _ h => h
  · intro ds hds s hs
    obtain ⟨hne, hlit⟩ := literals_of_resolve hr hds
    rw [Except.ok.inj (hr.symm.trans (resolve_literals hds hne hlit))] at htags
    exact ⟨a, ha, Tag.introduces_of_mem_values hne htags hs⟩
  · intro other others hother hothers s hs s' hs'
    rcases taggedFields_eq_ok hothers with ⟨-, rfl⟩ | ⟨a', tags', ha', htags', rfl⟩
    · cases hs'
    · obtain rfl := Option.some.inj (ha.symm.trans ha')
      obtain rfl := Except.ok.inj (htags.symm.trans htags')
      obtain ⟨t, ht, hname⟩ := Tag.mem_values_iff.1 hs
      obtain ⟨t', ht', hname'⟩ := Tag.mem_values_iff.1 hs'
      refine Tag.apart_of_valued htagged hasc ht ht' fun heq => hother ?_
      obtain ⟨rfl, -⟩ := Prod.mk.inj heq
      exact hname'.symm.trans hname
  · intro hnone
    rw [ha] at hnone
    cases hnone

/-- A field that is there twice, in another case, and a character of two bytes in its name. -/
theorem sound_of_taggedFields_accents :
    let text := ['N', 'é', ':', 'x', ' ', 'y', ' ', 'n', 'é', ':', 'ü', ' ', 'b', ':', 'z']
    ∃ r, ({} : Options).resolve = .ok r ∧
      taggedFields r text ['n', 'É'] = .ok [⟨4, 7⟩, ⟨12, 14⟩] ∧
      taggedFields r text ['b'] = .ok [⟨17, 18⟩] ∧
      Tag.Introduces [[' ']] [':'] ['n', 'É'] true text ⟨12, 14⟩ ∧ Span.Apart ⟨4, 7⟩ ⟨17, 18⟩ := by
  intro text
  let r : Resolved := ⟨{}, ['(', '?', ':', ' ', ')']⟩
  have hr : ({} : Options).resolve = .ok r := by decide +kernel
  have hvalues : taggedFields r text ['n', 'É'] = .ok [⟨4, 7⟩, ⟨12, 14⟩] := by decide +kernel
  have hothers : taggedFields r text ['b'] = .ok [⟨17, 18⟩] := by decide +kernel
  obtain ⟨-, -, hliteral, hother, -⟩ := sound_of_taggedFields hr hvalues
  refine ⟨r, hr, hvalues, hothers, ?_, ?_⟩
  · obtain ⟨a, ha, h⟩ := hliteral [[' ']] rfl ⟨12, 14⟩ (by decide)
    cases ha
    exact h
  · exact hother _ _ (by decide +kernel) hothers _ (by decide) _ (by decide)

end TextSieve
