import Mathlib.Data.List.TakeDrop
import Mathlib.Data.List.TakeWhile
import Mathlib.Tactic.Common
import TextSieve.Term.Fuzzy

/-! Splitting off markers. A text without markers is a core as it stands; a marker put before it or
behind it is split off again, also where the core starts or ends with digits. -/

namespace TextSieve.FuzzyTerm

variable {t : Text}

theorem span_isDigit_ne (h : '~' ∉ t) {digits rest : Text} :
    t.span Char.isDigit ≠ (digits, '~' :: rest) := by
  intro heq
  rw [List.span_eq_takeWhile_dropWhile] at heq
  have hmem : '~' ∈ t.dropWhile Char.isDigit := by simp [(Prod.mk.inj heq).2]
  exact h ((List.dropWhile_sublist _).subset hmem)

theorem splitLeading?_of_not_mem (h : '~' ∉ t) : splitLeading? t = none := by
  unfold splitLeading?
  split
  · exact absurd ‹_› (span_isDigit_ne h)
  · rfl

theorem splitTrailing_of_not_mem (h : '~' ∉ t) : splitTrailing t = (t, none) := by
  unfold splitTrailing
  split
  · exact absurd ‹_› (span_isDigit_ne (by simpa using h))
  · rfl

theorem splitLeading?_marker (t : Text) : splitLeading? ('~' :: t) = some (.unbounded, t) := rfl

theorem splitTrailing_marker (t : Text) : splitTrailing (t ++ ['~']) = (t, some .unbounded) := by
  have hspan : (t ++ ['~']).reverse.span Char.isDigit = ([], '~' :: t.reverse) := by
    rw [List.span_eq_takeWhile_dropWhile]
    simp [show Char.isDigit '~' = false from rfl]
  unfold splitTrailing
  rw [hspan]
  simp [Wildcard.ofDigits]

/-- What is in front of a marker at the end is no leading marker, unless nothing is left behind
it. -/
theorem splitLeading?_append_marker (h : '~' ∉ t) :
    splitLeading? (t ++ ['~']) = none ∨
      ∃ leading, splitLeading? (t ++ ['~']) = some (leading, []) := by
  cases hs : t.dropWhile Char.isDigit with
  | nil =>
    have hspan : (t ++ ['~']).span Char.isDigit = (t, ['~']) := by
      rw [List.span_eq_takeWhile_dropWhile]
      have hall := List.dropWhile_eq_nil_iff.1 hs
      simp [List.takeWhile_append_of_pos hall, List.dropWhile_append_of_pos hall,
        show Char.isDigit '~' = false from rfl]
    refine .inr ⟨.ofDigits t, ?_⟩
    unfold splitLeading?
    rw [hspan]
    rfl
  | cons c rest =>
    have hc : c ≠ '~' := by
      rintro rfl
      exact h ((List.dropWhile_sublist _).subset (by rw [hs]; exact List.mem_cons_self))
    have hdrop : (t ++ ['~']).dropWhile Char.isDigit = c :: (rest ++ ['~']) := by
      rw [List.dropWhile_append, if_neg (by simp [hs]), hs]
      rfl
    left
    unfold splitLeading?
    rw [List.span_eq_takeWhile_dropWhile, hdrop]
    split
    · rename_i heq
      exact absurd (List.cons_eq_cons.1 (Prod.mk.inj heq).2).1 hc
    · rfl

theorem withLeading_of_not_mem (leading : Option Wildcard) (raw : Text) (ht : t ≠ [])
    (h : '~' ∉ t) : withLeading leading raw t = .ok ⟨leading, t, none⟩ := by
  simp [withLeading, splitTrailing_of_not_mem h, ht, h]

theorem parse_of_not_mem (ht : t ≠ []) (h : '~' ∉ t) : parse t = .ok ⟨none, t, none⟩ := by
  simp [parse, splitLeading?_of_not_mem h, withLeading_of_not_mem none t ht h]

theorem parse_marker_cons (ht : t ≠ []) (h : '~' ∉ t) :
    parse ('~' :: t) = .ok ⟨some .unbounded, t, none⟩ := by
  simp [parse, splitLeading?_marker, withLeading_of_not_mem (some .unbounded) _ ht h]

theorem parse_append_marker (ht : t ≠ []) (h : '~' ∉ t) :
    parse (t ++ ['~']) = .ok ⟨none, t, some .unbounded⟩ := by
  have hwhole : withLeading none (t ++ ['~']) (t ++ ['~']) = .ok ⟨none, t, some .unbounded⟩ := by
    simp [withLeading, splitTrailing_marker, ht, h]
  have hnothing : ∀ leading raw, withLeading leading raw [] = .error (.term (.noCore raw)) :=
    fun _ _ => rfl
  rcases splitLeading?_append_marker h with hlead | ⟨leading, hlead⟩
  · simp [parse, hlead, hwhole]
  · simp [parse, hlead, hnothing, hwhole]

end TextSieve.FuzzyTerm
