import TextSieve.Proofs.Pattern.Reading
import TextSieve.Proofs.Term.Markers

/-! The grammar of terms. A term in writing is a core between two markers, either of which may be
missing. Digits next to a sign can belong to a count or to a core, so one text may be written by
several terms; the reader takes the one with a marker in front. Every term but those that are always
read in that other way is read back from its display. -/

namespace TextSieve

namespace Wildcard

/-- What a marker's digits say. A count beyond the limit is the limit. -/
inductive Counts : Text → Wildcard → Prop
  | unbounded : Counts [] .unbounded
  | exactly {digits : Text} (hne : digits ≠ []) (hdigits : ∀ c ∈ digits, c.isDigit = true) :
    Counts digits (.exactly (min (Text.digitsValue digits) countLimit))

def Counted (w : Wildcard) : Prop := ∀ n, w = .exactly n → n ≤ countLimit

variable {digits : Text} {w : Wildcard}

theorem counts_iff :
    Counts digits w ↔ (∀ c ∈ digits, c.isDigit = true) ∧ w = .ofDigits digits := by
  constructor
  · rintro (_ | ⟨hne, hdigits⟩)
    · exact ⟨by simp, rfl⟩
    · exact ⟨hdigits, by rw [ofDigits, if_neg hne]⟩
  · rintro ⟨hdigits, rfl⟩
    by_cases hne : digits = []
    · subst hne
      exact .unbounded
    · rw [ofDigits, if_neg hne]
      exact .exactly hne hdigits

theorem Counts.counted (h : Counts digits w) : w.Counted := by
  cases h with
  | unbounded =>
    intro n hn
    cases hn
  | exactly hne hdigits =>
    rintro n ⟨⟩
    exact Nat.min_le_right _ _

/-- A count is read back from its own writing. -/
theorem Counted.counts (h : w.Counted) : Counts w.count w := by
  cases w with
  | unbounded => exact .unbounded
  | exactly n =>
    have hcount := Counts.exactly (Text.ofNat_ne_nil n) fun c => Text.isDigit_of_mem_ofNat
    rwa [Text.digitsValue_ofNat, Nat.min_eq_left (h n rfl)] at hcount

end Wildcard

open Wildcard (Counts Counted)

namespace FuzzyTerm

inductive Leads : Text → Option Wildcard → Prop
  | none : Leads [] none
  | marker {digits : Text} {w : Wildcard} (h : Counts digits w) : Leads (digits ++ ['~']) (some w)

inductive Trails : Text → Option Wildcard → Prop
  | none : Trails [] none
  | marker {digits : Text} {w : Wildcard} (h : Counts digits w) : Trails ('~' :: digits) (some w)

structure Written (t : FuzzyTerm) (raw : Text) : Prop where
  core_ne_nil : t.core ≠ []
  unmarked : '~' ∉ t.core
  marked : ∃ before behind, raw = before ++ t.core ++ behind ∧ Leads before t.leading ∧
    Trails behind t.trailing

/-- Terms that some text is read as. In the writing of a core of digits with a count behind it, the
core would be taken for the count of a marker in front. -/
structure Expressible (t : FuzzyTerm) : Prop where
  core_ne_nil : t.core ≠ []
  unmarked : '~' ∉ t.core
  leading : ∀ w ∈ t.leading, w.Counted
  trailing : ∀ w ∈ t.trailing, w.Counted
  unambiguous : ¬ (t.leading = none ∧ (∀ c ∈ t.core, c.isDigit = true) ∧
    ∃ n, t.trailing = some (.exactly n))

theorem not_mem_of_digits {digits : Text} (h : ∀ c ∈ digits, c.isDigit = true) : '~' ∉ digits :=
  fun hmem => absurd (h '~' hmem) (by decide)

/-- A text falls into two parts around its first sign in one way only. -/
theorem split_unique {a b x y : Text} (ha : '~' ∉ a) (hb : '~' ∉ b)
    (h : a ++ '~' :: x = b ++ '~' :: y) : a = b ∧ x = y := by
  induction a generalizing b with
  | nil =>
    cases b with
    | nil => exact ⟨rfl, (List.cons.inj h).2⟩
    | cons d b =>
      obtain ⟨rfl, -⟩ := List.cons.inj h
      exact absurd List.mem_cons_self hb
  | cons c a ih =>
    cases b with
    | nil =>
      obtain ⟨rfl, -⟩ := List.cons.inj h
      exact absurd List.mem_cons_self ha
    | cons d b =>
      obtain ⟨rfl, hrest⟩ := List.cons.inj h
      have ha' : '~' ∉ a := fun hm => ha (List.mem_cons_of_mem _ hm)
      have hb' : '~' ∉ b := fun hm => hb (List.mem_cons_of_mem _ hm)
      obtain ⟨rfl, rfl⟩ := ih ha' hb' hrest
      exact ⟨rfl, rfl⟩

theorem span_digits {digits : Text} (h : ∀ c ∈ digits, c.isDigit = true) (rest : Text) :
    (digits ++ '~' :: rest).span Char.isDigit = (digits, '~' :: rest) := by
  rw [List.span_eq_takeWhile_dropWhile, List.takeWhile_append_of_pos h,
    List.dropWhile_append_of_pos h]
  simp [show Char.isDigit '~' = false from rfl]

theorem eq_of_span_digits {t digits rest : Text}
    (h : t.span Char.isDigit = (digits, '~' :: rest)) :
    (∀ c ∈ digits, c.isDigit = true) ∧ t = digits ++ '~' :: rest := by
  rw [List.span_eq_takeWhile_dropWhile] at h
  obtain ⟨rfl, hrest⟩ := Prod.mk.inj h
  refine ⟨List.all_eq_true.1 List.all_takeWhile, ?_⟩
  rw [← hrest, List.takeWhile_append_dropWhile]

theorem splitLeading?_eq_some_iff {raw rest : Text} {w : Wildcard} :
    splitLeading? raw = some (w, rest) ↔
      ∃ digits, Counts digits w ∧ raw = digits ++ '~' :: rest := by
  constructor
  · intro h
    unfold splitLeading? at h
    split at h
    · rename_i digits rest' hspan
      obtain ⟨rfl, rfl⟩ := Prod.mk.inj (Option.some.inj h)
      obtain ⟨hdigits, hraw⟩ := eq_of_span_digits hspan
      exact ⟨digits, Wildcard.counts_iff.2 ⟨hdigits, rfl⟩, hraw⟩
    · cases h
  · rintro ⟨digits, hcounts, rfl⟩
    obtain ⟨hdigits, rfl⟩ := Wildcard.counts_iff.1 hcounts
    unfold splitLeading?
    rw [span_digits hdigits]
    rfl

theorem splitTrailing_append {digits : Text} {w : Wildcard} (h : Counts digits w) (t : Text) :
    splitTrailing (t ++ '~' :: digits) = (t, some w) := by
  obtain ⟨hdigits, rfl⟩ := Wildcard.counts_iff.1 h
  have hspan : (t ++ '~' :: digits).reverse.span Char.isDigit =
      (digits.reverse, '~' :: t.reverse) := by
    simpa using span_digits (fun c hc => hdigits c (List.mem_reverse.1 hc)) t.reverse
  unfold splitTrailing
  rw [hspan]
  simp

theorem splitTrailing_eq (t : Text) :
    splitTrailing t = (t, none) ∨
      ∃ core digits w, Counts digits w ∧ t = core ++ '~' :: digits := by
  unfold splitTrailing
  split
  · rename_i digits core hspan
    obtain ⟨hdigits, ht⟩ := eq_of_span_digits hspan
    have hcounts : Counts digits.reverse (.ofDigits digits.reverse) :=
      Wildcard.counts_iff.2 ⟨fun c hc => hdigits c (List.mem_reverse.1 hc), rfl⟩
    refine .inr ⟨core.reverse, digits.reverse, _, hcounts, ?_⟩
    rw [← List.reverse_reverse t, ht]
    simp
  · exact .inl rfl

/-- The trailing marker is split off exactly as it was written. -/
theorem splitTrailing_trails {core behind : Text} {trailing : Option Wildcard}
    (hcore : '~' ∉ core) (h : Trails behind trailing) :
    splitTrailing (core ++ behind) = (core, trailing) := by
  cases h with
  | none => rw [List.append_nil, splitTrailing_of_not_mem hcore]
  | marker h => exact splitTrailing_append h core

theorem withLeading_eq_ok_iff {leading : Option Wildcard} {raw t : Text} {u : FuzzyTerm} :
    withLeading leading raw t = .ok u ↔
      u.leading = leading ∧ u.core ≠ [] ∧ '~' ∉ u.core ∧
        ∃ behind, t = u.core ++ behind ∧ Trails behind u.trailing := by
  constructor
  · intro h
    have hsplit : ∃ behind, t = (splitTrailing t).1 ++ behind ∧
        Trails behind (splitTrailing t).2 := by
      rcases splitTrailing_eq t with heq | ⟨core, digits, w, hcounts, rfl⟩
      · rw [heq]
        exact ⟨[], (List.append_nil t).symm, .none⟩
      · rw [splitTrailing_append hcounts]
        exact ⟨'~' :: digits, rfl, .marker hcounts⟩
    simp only [withLeading] at h
    split at h
    · cases h
    · rename_i hne
      split at h
      · cases h
      · rename_i hmark
        obtain rfl := Except.ok.inj h
        exact ⟨rfl, hne, by simpa using hmark, hsplit⟩
  · obtain ⟨lead, core, trailing⟩ := u
    rintro ⟨rfl, hne, hmark, behind, rfl, htrails⟩
    simp [withLeading, splitTrailing_trails hmark htrails, hne, hmark]

variable {raw : Text} {t u : FuzzyTerm}

theorem written_iff_of_leading {w : Wildcard} (hlead : t.leading = some w) :
    t.Written raw ↔ ∃ rest, splitLeading? raw = some (w, rest) ∧
      withLeading (some w) raw rest = .ok t := by
  constructor
  · rintro ⟨hne, hmark, before, behind, rfl, hleads, htrails⟩
    rw [hlead] at hleads
    cases hleads with
    | @marker digits _ hcounts =>
      refine ⟨t.core ++ behind, splitLeading?_eq_some_iff.2 ⟨digits, hcounts, by simp⟩, ?_⟩
      exact withLeading_eq_ok_iff.2 ⟨hlead, hne, hmark, behind, rfl, htrails⟩
  · rintro ⟨rest, hsplit, hread⟩
    obtain ⟨digits, hcounts, rfl⟩ := splitLeading?_eq_some_iff.1 hsplit
    obtain ⟨-, hne, hmark, behind, rfl, htrails⟩ := withLeading_eq_ok_iff.1 hread
    refine ⟨hne, hmark, digits ++ ['~'], behind, by simp, ?_, htrails⟩
    rw [hlead]
    exact .marker hcounts

theorem written_iff_of_no_leading (hlead : t.leading = none) :
    t.Written raw ↔ withLeading none raw raw = .ok t := by
  rw [withLeading_eq_ok_iff]
  constructor
  · rintro ⟨hne, hmark, before, behind, rfl, hleads, htrails⟩
    rw [hlead] at hleads
    cases hleads
    exact ⟨hlead, hne, hmark, behind, by simp, htrails⟩
  · rintro ⟨-, hne, hmark, behind, hraw, htrails⟩
    refine ⟨hne, hmark, [], behind, hraw, ?_, htrails⟩
    rw [hlead]
    exact .none

theorem parse_of_written (h : t.Written raw) (hlead : t.leading ≠ none) : parse raw = .ok t := by
  obtain ⟨w, hw⟩ := Option.ne_none_iff_exists'.1 hlead
  obtain ⟨rest, hsplit, hread⟩ := (written_iff_of_leading hw).1 h
  simp [parse, hsplit, hread]

theorem parse_of_no_leading (h : ∀ u : FuzzyTerm, u.Written raw → u.leading = none) :
    parse raw = withLeading none raw raw := by
  unfold parse
  split
  · rename_i w rest hsplit
    split
    · rename_i u hread
      have hlead : u.leading = some w := (withLeading_eq_ok_iff.1 hread).1
      have hnone := h u ((written_iff_of_leading hlead).2 ⟨rest, hsplit, hread⟩)
      rw [hlead] at hnone
      cases hnone
    · rfl
  · rfl

/-- The text is read as a term that it writes, one with a marker in front if there is any. -/
theorem parse_eq_ok_iff :
    parse raw = .ok t ↔ t.Written raw ∧
      (t.leading = none → ∀ u : FuzzyTerm, u.Written raw → u.leading = none) := by
  by_cases hall : ∀ u : FuzzyTerm, u.Written raw → u.leading = none
  · rw [parse_of_no_leading hall]
    constructor
    · intro h
      have hlead : t.leading = none := (withLeading_eq_ok_iff.1 h).1
      exact ⟨(written_iff_of_no_leading hlead).2 h, fun _ => hall⟩
    · rintro ⟨h, -⟩
      exact (written_iff_of_no_leading (hall t h)).1 h
  · obtain ⟨u, hu⟩ := not_forall.1 hall
    obtain ⟨hu, hlead⟩ := Classical.not_imp.1 hu
    have hparse := parse_of_written hu hlead
    constructor
    · intro h
      obtain rfl := Except.ok.inj (hparse.symm.trans h)
      exact ⟨hu, fun hnone => absurd hnone hlead⟩
    · rintro ⟨h, hfirst⟩
      exact parse_of_written h fun hnone => hlead (hfirst hnone u hu)

theorem Written.of_ambiguous {n : Nat} (h : t.Written raw) (hlead : t.leading = none)
    (hdigits : ∀ c ∈ t.core, c.isDigit = true) (htrail : t.trailing = some (.exactly n)) :
    ∃ u : FuzzyTerm, u.Written raw ∧ u.leading ≠ none := by
  obtain ⟨hne, -, before, behind, rfl, hleads, htrails⟩ := h
  rw [hlead] at hleads
  rw [htrail] at htrails
  cases hleads
  cases htrails with
  | @marker digits _ hcounts =>
    obtain ⟨hall, hexactly⟩ := Wildcard.counts_iff.1 hcounts
    have hdigits_ne : digits ≠ [] := by
      rintro rfl
      cases hexactly
    refine ⟨⟨some (.ofDigits t.core), digits, none⟩, ⟨hdigits_ne, not_mem_of_digits hall, ?_⟩,
      Option.some_ne_none _⟩
    exact ⟨t.core ++ ['~'], [], by simp, .marker (Wildcard.counts_iff.2 ⟨hdigits, rfl⟩), .none⟩

theorem expressible_of_parse (h : parse raw = .ok t) : t.Expressible := by
  obtain ⟨hwritten, hfirst⟩ := parse_eq_ok_iff.1 h
  obtain ⟨before, behind, -, hleads, htrails⟩ := hwritten.marked
  refine ⟨hwritten.core_ne_nil, hwritten.unmarked, fun w hw => ?_, fun w hw => ?_, ?_⟩
  · rw [Option.mem_def.1 hw] at hleads
    cases hleads with
    | marker hcounts => exact hcounts.counted
  · rw [Option.mem_def.1 hw] at htrails
    cases htrails with
    | marker hcounts => exact hcounts.counted
  · rintro ⟨hlead, hdigits, n, htrail⟩
    obtain ⟨u, hu, hmarked⟩ := hwritten.of_ambiguous hlead hdigits htrail
    exact hmarked (hfirst hlead u hu)

theorem Expressible.written (h : t.Expressible) : t.Written t.display := by
  obtain ⟨leading, core, trailing⟩ := t
  refine ⟨h.core_ne_nil, h.unmarked, ?_⟩
  have hleads : ∃ before, Leads before leading ∧
      ∀ x, display ⟨leading, core, x⟩ = before ++ core ++ display ⟨none, [], x⟩ := by
    cases leading with
    | none => exact ⟨[], .none, fun x => by simp [display]⟩
    | some w =>
      exact ⟨w.count ++ ['~'], .marker (h.leading w rfl).counts, fun x => by simp [display]⟩
  have htrails : Trails (display ⟨none, [], trailing⟩) trailing := by
    cases trailing with
    | none => exact .none
    | some w => exact .marker (h.trailing w rfl).counts
  obtain ⟨before, hbefore, hdisplay⟩ := hleads
  exact ⟨before, _, hdisplay trailing, hbefore, htrails⟩

/-- What could be taken for a marker in front of the core is the core itself. -/
theorem Expressible.leading_of_written (h : t.Expressible) (hlead : t.leading = none)
    (hu : u.Written t.display) : u.leading = none := by
  obtain ⟨hne, -, before, behind, hraw, hleads, htrails⟩ := hu
  obtain ⟨leading, core, trailing⟩ := t
  obtain rfl : leading = none := hlead
  generalize hul : u.leading = lead at hleads
  cases hleads with
  | none => rfl
  | @marker digits w hcounts =>
    obtain ⟨hdigits, -⟩ := Wildcard.counts_iff.1 hcounts
    cases trailing with
    | none =>
      have hmem : '~' ∈ core := by
        have hcore : core = digits ++ ['~'] ++ u.core ++ behind := by simpa [display] using hraw
        simp [hcore]
      exact absurd hmem h.unmarked
    | some v =>
      have hsplit : core ++ '~' :: v.count = digits ++ '~' :: (u.core ++ behind) := by
        simpa [display] using hraw
      obtain ⟨rfl, hcount⟩ := split_unique h.unmarked (not_mem_of_digits hdigits) hsplit
      cases v with
      | unbounded => exact absurd (List.append_eq_nil_iff.1 hcount.symm).1 hne
      | exactly n => exact absurd ⟨rfl, hdigits, n, rfl⟩ h.unambiguous

theorem Expressible.parse_eq (h : t.Expressible) : parse t.display = .ok t :=
  parse_eq_ok_iff.2 ⟨h.written, fun hlead _ hu => h.leading_of_written hlead hu⟩

/-- Reading succeeds exactly on the texts that write a term, and takes the term with a marker in
front if there is one. The terms that are read are those that can be told from their display. -/
theorem parse_iff_written (raw : Text) (t : FuzzyTerm) :
    ((∃ u, parse raw = .ok u) ↔ ∃ u : FuzzyTerm, u.Written raw) ∧
      (parse raw = .ok t ↔ t.Written raw ∧
        (t.leading = none → ∀ u : FuzzyTerm, u.Written raw → u.leading = none)) ∧
      (parse t.display = .ok t ↔ t.Expressible) ∧
      ((∃ raw, parse raw = .ok t) ↔ t.Expressible) := by
  refine ⟨⟨?_, ?_⟩, parse_eq_ok_iff, ⟨expressible_of_parse, (·.parse_eq)⟩, ?_, ?_⟩
  · rintro ⟨u, hu⟩
    exact ⟨u, (parse_eq_ok_iff.1 hu).1⟩
  · rintro ⟨u, hu⟩
    by_cases hall : ∀ v : FuzzyTerm, v.Written raw → v.leading = none
    · exact ⟨u, parse_eq_ok_iff.2 ⟨hu, fun _ => hall⟩⟩
    · obtain ⟨v, hv⟩ := not_forall.1 hall
      obtain ⟨hv, hlead⟩ := Classical.not_imp.1 hv
      exact ⟨v, parse_of_written hv hlead⟩
  · rintro ⟨raw, h⟩
    exact expressible_of_parse h
  · intro h
    exact ⟨t.display, h.parse_eq⟩

/-- A marker in front wins over one behind, unless no core is left. -/
example : parse ['2', '~', '3'] = .ok ⟨some (.exactly 2), ['3'], none⟩ ∧
    parse ['2', '~'] = .ok ⟨none, ['2'], some .unbounded⟩ := by
  decide

end FuzzyTerm

end TextSieve
