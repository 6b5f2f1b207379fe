import TextSieve.Proofs.Field.Tags
import TextSieve.Proofs.Pattern.Lockstep
import TextSieve.Proofs.Unicode.Folding

/-! Fields in texts that differ in case. The pattern of a tag has its delimiters with their case,
and names are compared by their lowercase forms, so such texts have the same fields at the same
places as long as they do not differ in letters of a delimiter or of the attribute delimiter, nor in
a way that shows in a lowercase form of a name. -/

namespace TextSieve

open Pattern

def Pattern.Aligned.InCase (z : Aligned) : Prop :=
  ∀ p ∈ z, Unicode.fold p.1 = Unicode.fold p.2

theorem Pattern.Aligned.InCase.sublist {w z : Aligned} (h : z.InCase) (hw : w.Sublist z) :
    w.InCase :=
  fun p hp => h p (hw.subset hp)

namespace Tag

/-- A tag of the field stays one when the characters take the place of each other: if they differ,
neither is a letter of a delimiter or of the attribute delimiter, and they have the same lowercase
forms or none that is in that of the name of the field. -/
def Indifferent (ds : List Text) (a field : Text) (c c' : Char) : Prop :=
  (c = c' ∨ ∀ d ∈ a :: ds, c ∉ d ∧ c' ∉ d) ∧
    (Unicode.LowersAlike c c' ∨
      Unicode.Foreign c (Unicode.lower field) ∧ Unicode.Foreign c' (Unicode.lower field))
deriving Decidable

variable {ds : List Text} {a field : Text} {z : Aligned}

theorem isNameChar_eq {c c' : Char} (h : Unicode.fold c = Unicode.fold c') :
    isNameChar c = isNameChar c' := by
  have hdot : c = '.' ↔ c' = '.' := Unicode.eq_iff_of_fold_eq h (by decide)
  have hdash : c = '-' ↔ c' = '-' := Unicode.eq_iff_of_fold_eq h (by decide)
  simp only [isNameChar, Unicode.isWord_eq_of_fold_eq h, beq_eq_decide, hdot, hdash]

theorem blind_letters {d : Text} (h : ∀ p ∈ z, p.1 = p.2 ∨ p.1 ∉ d ∧ p.2 ∉ d) :
    ∀ r ∈ d.map (Reader.letter false), r.Blind z := by
  intro r hr
  obtain ⟨c, hc, rfl⟩ := List.mem_map.1 hr
  intro p hp
  rcases h p hp with heq | ⟨hleft, hright⟩
  · rw [heq]
  · have hne : p.1 ≠ c := fun heq => hleft (heq ▸ hc)
    have hne' : p.2 ≠ c := fun heq => hright (heq ▸ hc)
    simp [CharSet.contains, hne, hne']

theorem blind_regex (hcase : z.InCase) (h : ∀ p ∈ z, Indifferent ds a field p.1 p.2) :
    (regex ds a).Blind z := by
  have hname : ∀ p ∈ z, nameChars.contains p.1 = nameChars.contains p.2 := by
    intro p hp
    rw [contains_nameChars, contains_nameChars, isNameChar_eq (hcase p hp)]
  have hletters : ∀ d ∈ a :: ds, ∀ r ∈ d.map (Reader.letter false), r.Blind z :=
    fun d hd => blind_letters fun p hp => (h p hp).1.imp_right fun hall => hall d hd
  refine Regex.blind_cats (List.forall_mem_cons.2 ⟨⟨Regex.blind_textStart, ?_⟩,
    List.forall_mem_cons.2 ⟨hname, hletters a (List.mem_cons_self ..)⟩⟩)
  refine Regex.blind_alts fun r hr => ?_
  obtain ⟨d, hd, rfl⟩ := List.mem_map.1 hr
  exact Regex.blind_cats (hletters d (List.mem_cons_of_mem _ hd))

/-- Both texts count as the name of the field, or neither. -/
theorem lower_eq_iff (h : ∀ p ∈ z, Indifferent ds a field p.1 p.2) :
    Unicode.lower z.left = Unicode.lower field ↔ Unicode.lower z.right = Unicode.lower field := by
  by_cases hall : ∀ p ∈ z, Unicode.LowersAlike p.1 p.2
  · rw [Unicode.lower_eq (Aligned.forall₂_iff.2 hall)]
  · obtain ⟨p, hp, hnot⟩ := not_forall₂.1 hall
    obtain ⟨hleft, hright⟩ := (h p hp).2.resolve_left hnot
    have hne := Unicode.lower_ne_of_foreign (List.mem_map_of_mem hp) hleft
    have hne' := Unicode.lower_ne_of_foreign (List.mem_map_of_mem hp) hright
    exact iff_of_false hne hne'

/-- The tags are at the same places, and both of them or neither is one of the field. -/
structure Match (z : Aligned) (field : Text) (t t' : Tag) : Prop where
  start : z.Places t.start t'.start
  valueStart : z.Places t.valueStart t'.valueStart
  isOf : t.isOf field true = t'.isOf field true

theorem rel_ofMatch? (h : ∀ p ∈ z, Indifferent ds a field p.1 p.2) {m m' : Thread}
    (hm : z.Threads m m') :
    Option.Rel (Match z field) (ofMatch? z.left m) (ofMatch? z.right m') := by
  unfold ofMatch?
  rcases Regex.cases_of_rel (hm.group? nameGroup) with ⟨hs, hs'⟩ | ⟨s, s', hs, hs', hspans⟩
  · rw [hs, hs']
    exact .none
  · obtain ⟨w, hw, hleft, hright⟩ := hspans.exists_slice
    have hname : Unicode.lower (z.left.slice s) = Unicode.lower field ↔
        Unicode.lower (z.right.slice s') = Unicode.lower field := by
      rw [hleft, hright]
      exact lower_eq_iff fun p hp => h p (hw.subset hp)
    rw [hs, hs']
    exact .some ⟨hm.start, hm.places, by simp [isOf, beq_eq_decide, hname]⟩

theorem forall₂_values {tags tags' : List Tag} (h : List.Forall₂ (Match z field) tags tags')
    {stop stop' : Nat} (hstop : z.Places stop stop') :
    List.Forall₂ z.Spans (values field true stop tags) (values field true stop' tags') := by
  induction h with
  | nil => exact .nil
  | @cons t t' rest rest' ht hrest ih =>
    have hnext : z.Places ((rest.head?.map Tag.start).getD stop)
        ((rest'.head?.map Tag.start).getD stop') := by
      cases hrest with
      | nil => exact hstop
      | cons ht' _ => exact ht'.start
    simp only [values, ht.isOf]
    split
    · exact .cons ⟨ht.valueStart, hnext⟩ ih
    · exact ih

end Tag

/-- The values of a field are found in neither text, or in both at the same places. -/
theorem rel_taggedFields {r : Resolved} {ds : List Text} {field : Text} {z : Aligned}
    (hds : ds ≠ []) (hfragment : r.fragment = Delimiter.choice (ds.map escape))
    (hignore : r.options.ignoreCase = true) (hcase : z.InCase)
    (h : ∀ a ∈ r.options.activeAttributeDelimiter, ∀ p ∈ z, Tag.Indifferent ds a field p.1 p.2) :
    (∃ e, taggedFields r z.left field = .error e ∧ taggedFields r z.right field = .error e) ∨
      ∃ spans spans', taggedFields r z.left field = .ok spans ∧
        taggedFields r z.right field = .ok spans' ∧ List.Forall₂ z.Spans spans spans' := by
  obtain ⟨o, fragment⟩ := r
  obtain rfl : fragment = Delimiter.choice (ds.map escape) := hfragment
  have hignore : o.ignoreCase = true := hignore
  cases ha : o.activeAttributeDelimiter with
  | none => exact .inr ⟨[], [], by simp [taggedFields, ha], by simp [taggedFields, ha], .nil⟩
  | some a =>
    have hindifferent := h a ha
    rw [Tag.taggedFields_literals hds ha, Tag.taggedFields_literals hds ha, hignore]
    split
    · have hmatches := Regex.forall₂_allMatches (Tag.blind_regex hcase hindifferent)
      have htags : List.Forall₂ (Tag.Match z field) _ _ :=
        List.rel_filterMap (fun _ _ hm => Tag.rel_ofMatch? hindifferent hm) hmatches
      exact .inr ⟨_, _, rfl, rfl, Tag.forall₂_values htags ⟨z, [], by simp, rfl, rfl⟩⟩
    · exact .inl ⟨_, rfl, rfl⟩

end TextSieve
