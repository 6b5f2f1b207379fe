import Mathlib.Tactic.Common
import TextSieve.Proofs.Query.Escaping
import TextSieve.Query.Parse

/-! How far ahead the reading of a query looks. A closing slash may lie beyond everything that the
operand takes, so two rests of a query can only stand for each other if the same is found behind
them, whatever is put in front. -/

namespace TextSieve

theorem Text.stripPrefix?_append (p t : Text) : stripPrefix? p (p ++ t) = some t :=
  stripPrefix?_eq_some_iff.2 rfl

theorem Text.cut?_needle_append (d x : Text) : cut? d (d ++ x) = some ([], x) := by
  cases d with
  | nil =>
    cases x with
    | nil => simp [cut?]
    | cons c x => simp [cut?, stripPrefix?]
  | cons c d =>
    rw [List.cons_append, cut?, ← List.cons_append, stripPrefix?_append]

/-- Where a text is cut does not depend on what follows the needle. -/
theorem Text.cut?_append {d t name after : Text} (h : cut? d t = some (name, after)) (x : Text) :
    cut? d (name ++ d ++ x) = some (name, x) := by
  induction t generalizing name with
  | nil =>
    simp only [cut?] at h
    split at h
    · obtain ⟨rfl, -⟩ : [] = name ∧ [] = after := by simpa using h
      exact cut?_needle_append d x
    · cases h
  | cons c rest ih =>
    simp only [cut?] at h
    split at h
    · obtain ⟨rfl, -⟩ : [] = name ∧ _ = after := by simpa using h
      exact cut?_needle_append d x
    · rename_i hnone
      obtain ⟨⟨before, after'⟩, hcut, heq⟩ := Option.map_eq_some_iff.1 h
      obtain ⟨rfl, rfl⟩ : c :: before = name ∧ after' = after := by simpa using heq
      have hstrip : stripPrefix? d (c :: (before ++ d ++ x)) = none := by
        cases hs : stripPrefix? d (c :: (before ++ d ++ x)) with
        | none => rfl
        | some y =>
          -- the needle would already lie in what comes before the cut and the needle itself
          have hlong : d <+: c :: (before ++ d) ++ x := ⟨y, (stripPrefix?_eq_some_iff.1 hs).symm⟩
          obtain ⟨z, hz⟩ : d <+: c :: (before ++ d) :=
            List.prefix_of_prefix_length_le hlong (List.prefix_append _ x) (by simp; omega)
          have hrest : c :: rest = d ++ (z ++ after') := by
            rw [eq_of_cut? hcut, ← List.append_assoc, hz]
            rfl
          rw [hrest, stripPrefix?_append] at hnone
          cases hnone
      have hih := ih hcut
      simp only [List.cons_append, cut?, hstrip, hih, Option.map_some]

/-- A text is cut at the first place where the needle lies. -/
theorem Text.length_le_of_cut? {d t before after : Text} (h : cut? d t = some (before, after))
    {u v : Text} (ht : t = u ++ d ++ v) : before.length ≤ u.length := by
  induction t generalizing before u with
  | nil =>
    have hbefore := eq_of_cut? h
    have : before = [] := by simp_all
    simp [this]
  | cons c rest ih =>
    simp only [cut?] at h
    split at h
    · obtain ⟨rfl, -⟩ : [] = before ∧ _ = after := by simpa using h
      exact Nat.zero_le _
    · rename_i hnone
      obtain ⟨⟨b, a⟩, hcut, heq⟩ := Option.map_eq_some_iff.1 h
      obtain ⟨rfl, rfl⟩ : c :: b = before ∧ a = after := by simpa using heq
      cases u with
      | nil =>
        rw [ht, List.nil_append, stripPrefix?_append] at hnone
        cases hnone
      | cons e u =>
        have hrest : rest = u ++ d ++ v := (List.cons.inj ht).2
        simpa using ih hcut hrest

theorem Text.cut?_eq_none_iff {d t : Text} : cut? d t = none ↔ ¬ d <:+: t := by
  induction t with
  | nil =>
    by_cases hd : d = [] <;> simp [cut?, hd]
  | cons c rest ih =>
    rw [List.infix_cons_iff, not_or, ← ih]
    cases hs : stripPrefix? d (c :: rest) with
    | some after =>
      have hprefix : d <+: c :: rest := ⟨after, (stripPrefix?_eq_some_iff.1 hs).symm⟩
      simp [cut?, hs, hprefix]
    | none =>
      have hprefix : ¬ d <+: c :: rest := by
        rintro ⟨after, ha⟩
        rw [← ha, stripPrefix?_append] at hs
        cases hs
      simp [cut?, hs, hprefix]

/-- What a text is cut into, said without cutting it. -/
theorem Text.cut?_eq_some_iff {d t before after : Text} :
    cut? d t = some (before, after) ↔
      t = before ++ d ++ after ∧ ∀ u v, before ++ d = u ++ d ++ v → v = [] := by
  constructor
  · intro h
    refine ⟨eq_of_cut? h, fun u v huv => ?_⟩
    have ht : t = u ++ d ++ (v ++ after) := by rw [eq_of_cut? h, huv, List.append_assoc]
    have hle := length_le_of_cut? h ht
    have hlen := congrArg List.length huv
    simp only [List.length_append] at hlen
    exact List.length_eq_zero_iff.1 (by omega)
  · intro hx
    obtain ⟨ht, hfirst⟩ := hx
    cases hcut : cut? d t with
    | none => exact absurd ⟨before, after, ht.symm⟩ (cut?_eq_none_iff.1 hcut)
    | some found =>
      obtain ⟨b, a⟩ := found
      have hle := length_le_of_cut? hcut ht
      have hb := eq_of_cut? hcut
      have hprefix : b ++ d <+: before ++ d :=
        List.prefix_of_prefix_length_le (hb ▸ List.prefix_append _ a)
          (ht ▸ List.prefix_append _ after) (by simpa using hle)
      obtain ⟨v, hv⟩ := hprefix
      obtain rfl := hfirst b v hv.symm
      obtain rfl : b = before := by simpa using hv
      rw [hb] at ht
      rw [List.append_cancel_left ht]

namespace Query

/-- Whether a slash lies ahead that would close a pattern at the end of its word. -/
def closesAhead (t : Text) : Bool :=
  (Slashed.scanBody? t).any fun (_, after) => endsWord after

theorem closesAhead_slash (x : Text) : closesAhead ('/' :: x) = endsWord x := by
  simp [closesAhead, Slashed.scanBody?_slash]

theorem closesAhead_escaped (x : Text) : closesAhead ('\\' :: '/' :: x) = closesAhead x := by
  rw [closesAhead, Slashed.scanBody?_escaped, Option.any_map]
  rfl

theorem closesAhead_cons {c : Char} {x : Text} (hc : c ≠ '/')
    (hx : c = '\\' → x.head? ≠ some '/') : closesAhead (c :: x) = closesAhead x := by
  rw [closesAhead, Slashed.scanBody?_cons hc hx, Option.any_map]
  rfl

variable {a b : Text}

def Foresees (a b : Text) : Prop := closesAhead b = true → closesAhead a = true

def Covers (a b : Text) : Prop := ∀ x, Foresees (x ++ a) (x ++ b)

theorem Covers.foresees (h : Covers a b) : Foresees a b := h []

theorem Covers.append (h : Covers a b) (x : Text) : Covers (x ++ a) (x ++ b) := by
  intro y
  rw [← List.append_assoc, ← List.append_assoc]
  exact h (y ++ x)

/-- For texts that do not start with a slash it counts whether a word ends before both, and what
lies ahead of them alone. -/
theorem covers_of (ha : a.head? ≠ some '/') (hb : b.head? ≠ some '/')
    (he : endsWord b = true → endsWord a = true) (h : Foresees a b) : Covers a b := by
  intro x
  induction x using Slashed.scan_induction with
  | nil => exact h
  | escaped x ih =>
    simp only [Foresees, List.cons_append, closesAhead_escaped]
    exact ih
  | slash x =>
    simp only [Foresees, List.cons_append, closesAhead_slash]
    cases x with
    | nil => exact he
    | cons c x => exact id
  | cons c x hcs hx ih =>
    have hhead : ∀ y : Text, y.head? ≠ some '/' → c = '\\' → (x ++ y).head? ≠ some '/' := by
      intro y hy hb
      cases x with
      | nil => exact hy
      | cons d x => exact hx hb
    simp only [Foresees, List.cons_append, closesAhead_cons hcs (hhead a ha),
      closesAhead_cons hcs (hhead b hb)]
    exact ih

/-- Whatever is put in front, the same lies ahead of it. -/
def Alike (a b : Text) : Prop := ∀ x, closesAhead (x ++ a) = closesAhead (x ++ b)

theorem Alike.closesAhead (h : Alike a b) : closesAhead a = closesAhead b := h []

theorem Alike.endsWord (h : Alike a b) : endsWord a = endsWord b := by
  simpa [closesAhead_slash] using h ['/']

theorem Alike.append (h : Alike a b) (x : Text) : Alike (x ++ a) (x ++ b) := by
  intro y
  rw [← List.append_assoc, ← List.append_assoc]
  exact h (y ++ x)

/-- Texts that do not start with a slash are alike if a word ends or goes on before both, and the
same lies ahead. -/
theorem alike_of (ha : a.head? ≠ some '/') (hb : b.head? ≠ some '/')
    (he : Query.endsWord a = Query.endsWord b) (hc : Query.closesAhead a = Query.closesAhead b) :
    Alike a b := by
  have hab : Covers a b := covers_of ha hb (fun h => he.trans h) (fun h => hc.trans h)
  have hba : Covers b a := covers_of hb ha (fun h => he.symm.trans h) (fun h => hc.symm.trans h)
  exact fun x => Bool.eq_iff_iff.2 ⟨hba x, hab x⟩

/-- Nothing, a blank or a closing parenthesis comes next. -/
def Ends (t : Text) : Prop := ∀ c ∈ t.head?, Unicode.isBlank c = true ∨ c = ')'

theorem ends_nil : Ends [] := by
  intro c hc
  cases hc

theorem ends_of_startsBlank {t : Text} (h : startsBlank t = true) : Ends t := by
  intro c hc
  rw [startsBlank, hc] at h
  exact .inl h

theorem ends_close (x : Text) : Ends (')' :: x) := by
  rintro c ⟨⟩
  exact .inr rfl

variable {t : Text}

theorem ends_of_trimStart (h : Ends (Text.trimStart t)) : Ends t := by
  cases hb : startsBlank t with
  | true => exact ends_of_startsBlank hb
  | false =>
    cases t with
    | nil => exact ends_nil
    | cons c t =>
      have hc : Unicode.isBlank c = false := by simpa [startsBlank] using hb
      simpa [Text.trimStart, hc] using h

theorem Ends.dashNegates (h : Ends t) : dashNegates t = false := by
  cases t with
  | nil => rfl
  | cons c t =>
    rcases h c rfl with hc | rfl
    · simp [Query.dashNegates, hc]
    · simp [Query.dashNegates]

theorem Ends.head? (h : Ends t) {c : Char} (hc : isWordChar c = true) : t.head? ≠ some c := by
  intro ht
  rcases h c ht with hb | rfl
  · simp [isWordChar, hb] at hc
  · exact absurd hc (by decide)

theorem Ends.endsWord (h : Ends t) : endsWord t = true := by
  cases t with
  | nil => rfl
  | cons c t =>
    cases hc : isWordChar c with
    | false => simp [Query.endsWord, hc]
    | true => exact absurd rfl (h.head? hc)

theorem Ends.alike (ha : Ends a) (hb : Ends b)
    (h : Query.closesAhead a = Query.closesAhead b) : Alike a b :=
  alike_of (ha.head? (by decide)) (hb.head? (by decide)) (ha.endsWord.trans hb.endsWord.symm) h

theorem leadingWord_append {w : Text} (hw : ∀ c ∈ w, isWordChar c = true)
    (h : Query.endsWord t = true) : leadingWord (w ++ t) = w := by
  rw [leadingWord, List.takeWhile_append_of_pos hw]
  cases t with
  | nil => simp
  | cons c t =>
    have hc : isWordChar c = false := by simpa [Query.endsWord] using h
    simp [hc]

theorem startsPattern_of_ne {c : Char} (h : c ≠ '/') (x : Text) :
    startsPattern (c :: x) = false := by
  have hscan : Slashed.scan? (c :: x) = none := by
    unfold Slashed.scan?
    split
    · rename_i heq
      exact absurd (List.cons.inj heq).1 h
    · rfl
  simp [startsPattern, hscan]

theorem startsPattern_of_scanBody? {x p r : Text} (h : Slashed.scanBody? x = some (p, r)) :
    startsPattern ('/' :: x) = (p != [] && endsWord r) := by
  simp only [startsPattern, Slashed.scan?_of_scanBody? h, Slashed.dropBytes_of_scanBody? h]

theorem startsPattern_slash (x : Text) :
    startsPattern ('/' :: x) = (closesAhead x && decide (x.head? ≠ some '/')) := by
  cases h : Slashed.scanBody? x with
  | none => simp [startsPattern, Slashed.scan?_slash, closesAhead, h]
  | some found =>
    obtain ⟨p, r⟩ := found
    have hp : x.head? = some '/' ↔ p = [] := by
      rw [Slashed.eq_of_scanBody? h]
      exact Slashed.head?_encode_eq_slash_iff p r
    rw [startsPattern_of_scanBody? h]
    simp [closesAhead, h, hp, Bool.and_comm, bne, Bool.beq_eq_decide_eq]

/-- Whether a word in front of a rest starts a pattern depends on what lies ahead alone. -/
theorem startsPattern_append {w : Text} (hw : w ≠ []) (ha : Ends a) (hb : Ends b)
    (h : closesAhead a = closesAhead b) : startsPattern (w ++ a) = startsPattern (w ++ b) := by
  obtain ⟨c, x, rfl⟩ := List.exists_cons_of_ne_nil hw
  by_cases hc : c = '/'
  · subst hc
    have hhead : (x ++ a).head? = some '/' ↔ (x ++ b).head? = some '/' := by
      cases x with
      | nil => exact iff_of_false (ha.head? (by decide)) (hb.head? (by decide))
      | cons d x => rfl
    simp only [List.cons_append, startsPattern_slash, ha.alike hb h x, ne_eq, hhead]
  · simp only [List.cons_append, startsPattern_of_ne hc]

end Query

end TextSieve
