import TextSieve.Field
import TextSieve.Proofs.Pattern.Captures

/-! The values of fields lie in the text. The tags are matches in a row, so the next tag starts
where the value of the one before it starts, or later; the last value ends with the text. -/

namespace TextSieve

namespace Tag

open Pattern

variable {text : Text}

/-- The tag lies in the text and is not over after its value has begun. -/
structure Within (text : Text) (t : Tag) : Prop where
  start_le : t.start ≤ t.valueStart
  value_le : t.valueStart ≤ text.size
  start_boundary : text.isBoundary t.start = true
  value_boundary : text.isBoundary t.valueStart = true

theorem within_of_ofMatch? {n : Nat} {m : Thread} {t : Tag} (hm : Regex.Behind text n m)
    (ht : ofMatch? text m = some t) : t.Within text := by
  obtain ⟨name, -, rfl⟩ := Option.map_eq_some_iff.1 ht
  have hvalue : text.isBoundary m.offset = true := hm.sound.cursor.isBoundary
  obtain ⟨u, v, rfl, hoffset⟩ := Text.isBoundary_iff.1 hvalue
  exact ⟨hm.start_le, by simp [hoffset], hm.start_boundary, hvalue⟩

/-- Tags lie in the text one behind the other. -/
theorem within_of_all {r : Resolved} {d : Text} {tags : List Tag} (h : all r d text = .ok tags) :
    (∀ t ∈ tags, t.Within text) ∧ tags.Pairwise (·.valueStart ≤ ·.start) := by
  unfold all at h
  split at h
  · cases h
  · rename_i regex hregex
    obtain rfl := Except.ok.inj h
    obtain ⟨hbehind, hpair⟩ := Regex.matchesFrom_chain (r := regex) (text.length + 2) none
      (Cursor.In.start text)
    constructor
    · intro t ht
      obtain ⟨m, hm, ht⟩ := List.mem_filterMap.1 ht
      exact within_of_ofMatch? (hbehind m hm) ht
    · refine hpair.filterMap _ fun m m' hle t ht t' ht' => ?_
      obtain ⟨name, -, rfl⟩ := Option.map_eq_some_iff.1 ht
      obtain ⟨name', -, rfl⟩ := Option.map_eq_some_iff.1 ht'
      exact hle

theorem within_of_mem_values {field : Text} {ignoreCase : Bool} {tags : List Tag}
    (h : ∀ t ∈ tags, t.Within text) (hpair : tags.Pairwise (·.valueStart ≤ ·.start)) :
    ∀ s ∈ values field ignoreCase text.size tags, s.Within text := by
  induction tags with
  | nil => simp [values]
  | cons t rest ih =>
    obtain ⟨ht, hrest⟩ := List.forall_mem_cons.1 h
    obtain ⟨hnext, hpair⟩ := List.pairwise_cons.1 hpair
    have hvalue : Span.Within text ⟨t.valueStart, (rest.head?.map Tag.start).getD text.size⟩ := by
      cases rest with
      | nil => exact ⟨ht.value_le, Nat.le_refl _, ht.value_boundary, Text.isBoundary_size text⟩
      | cons t' rest =>
        have ht' := hrest t' (List.mem_cons_self ..)
        exact ⟨hnext t' (List.mem_cons_self ..), Nat.le_trans ht'.start_le ht'.value_le,
          ht.value_boundary, ht'.start_boundary⟩
    simp only [values]
    split
    · exact List.forall_mem_cons.2 ⟨hvalue, ih hrest hpair⟩
    · exact ih hrest hpair

end Tag

/-- Without an attribute delimiter there are no values; with one they are read off the tags. -/
theorem taggedFields_eq_ok {r : Resolved} {text field : Text} {spans : List Span}
    (h : taggedFields r text field = .ok spans) :
    r.options.activeAttributeDelimiter = none ∧ spans = [] ∨
      ∃ a tags, r.options.activeAttributeDelimiter = some a ∧ Tag.all r a text = .ok tags ∧
        spans = Tag.values field r.options.ignoreCase text.size tags := by
  unfold taggedFields at h
  split at h
  · rename_i hnone
    exact .inl ⟨hnone, (Except.ok.inj h).symm⟩
  · rename_i a ha
    obtain ⟨tags, htags, rfl⟩ := exists_of_map_eq_ok h
    exact .inr ⟨a, tags, ha, htags, rfl⟩

theorem within_of_taggedFields {r : Resolved} {text field : Text} {spans : List Span}
    (h : taggedFields r text field = .ok spans) : ∀ s ∈ spans, s.Within text := by
  rcases taggedFields_eq_ok h with ⟨-, rfl⟩ | ⟨a, tags, -, htags, rfl⟩
  · simp
  · obtain ⟨hwithin, hpair⟩ := Tag.within_of_all htags
    exact Tag.within_of_mem_values hwithin hpair

end TextSieve
