import Mathlib.Data.List.TakeDrop
import Mathlib.Tactic.Common
import TextSieve.Pattern.Reader

/-! What follows a piece of a pattern. A piece that can be read to its end reads the same with more
text behind it, if that text starts by closing a group or a branch, or with a dot. -/

namespace TextSieve.Pattern

/-- Text behind a pattern that no piece of the pattern can reach into: it closes a group or a branch
of one, or goes on with a dot. -/
def Shuts (z : Text) : Prop :=
  z.head? = some ')' ∨ z.head? = some '|' ∨ z.head? = some '.'

namespace Shuts

variable {z : Text}

theorem exists_cons (h : Shuts z) : ∃ c y, z = c :: y ∧ (c = ')' ∨ c = '|' ∨ c = '.') := by
  rcases h with h | h | h
  all_goals
    obtain ⟨y, rfl⟩ := List.head?_eq_some_iff.1 h
    exact ⟨_, y, rfl, by simp⟩

theorem head?_ne (h : Shuts z) {c : Char} (hc : c ≠ ')') (hc' : c ≠ '|') (hdot : c ≠ '.') :
    z.head? ≠ some c := by
  rcases h with h | h | h <;> simp [h, hc.symm, hc'.symm, hdot.symm]

end Shuts

/-- What was read with success is read again and leaves `z` behind what it left. -/
def Extends {α : Type} (z : Text) (o o' : Option (α × Text)) : Prop :=
  ∀ a rest, o = some (a, rest) → o' = some (a, rest ++ z)

namespace Extends

variable {α β : Type} {z : Text} {o o' p p' : Option (α × Text)}

theorem none : Extends z (.none : Option (α × Text)) o' := by
  intro a rest h
  cases h

theorem some (a : α) (rest : Text) : Extends z (some (a, rest)) (some (a, rest ++ z)) := by
  intro a' rest' h
  obtain ⟨rfl, rfl⟩ := Prod.mk.inj (Option.some.inj h)
  rfl

theorem ite {c : Prop} [Decidable c] (h : Extends z o o') (h' : Extends z p p') :
    Extends z (if c then o else p) (if c then o' else p') := by
  split
  · exact h
  · exact h'

theorem bind {g g' : α × Text → Option (β × Text)} (h : Extends z o o')
    (hg : ∀ a rest, Extends z (g (a, rest)) (g' (a, rest ++ z))) :
    Extends z (o.bind g) (o'.bind g') := by
  intro b rest hb
  obtain ⟨⟨a, r⟩, ho, hb⟩ := Option.bind_eq_some_iff.1 hb
  rw [h a r ho]
  exact hg a r b rest hb

theorem map {g g' : α × Text → β × Text} (h : Extends z o o')
    (hg : ∀ a rest, g' (a, rest ++ z) = ((g (a, rest)).1, (g (a, rest)).2 ++ z)) :
    Extends z (o.map g) (o'.map g') := by
  intro b rest hb
  obtain ⟨⟨a, r⟩, ho, hb⟩ := Option.map_eq_some_iff.1 hb
  rw [h a r ho, Option.map_some, hg, hb]

/-- A value that does not come from the text. -/
theorem value (v : Option β) (g : β → α) (rest : Text) :
    Extends z (v.map fun b => (g b, rest)) (v.map fun b => (g b, rest ++ z)) := by
  cases v with
  | none => exact Extends.none
  | some v => exact Extends.some (g v) rest

end Extends

variable {z : Text} {f : Flags}

/-- Either there is nothing but blank text, which leaves a comment open or not, or what follows the
blank text is found without looking behind it. -/
theorem skipBlank_append (inComment : Bool) (t z : Text) :
    (∃ b, Flags.skipBlank inComment t = [] ∧
        Flags.skipBlank inComment (t ++ z) = Flags.skipBlank b z) ∨
      Flags.skipBlank inComment t ≠ [] ∧
        Flags.skipBlank inComment (t ++ z) = Flags.skipBlank inComment t ++ z := by
  induction t generalizing inComment with
  | nil => exact .inl ⟨inComment, rfl, rfl⟩
  | cons c t ih =>
    simp only [List.cons_append, Flags.skipBlank]
    split
    · exact ih _
    · split
      · exact ih _
      · split
        · exact ih _
        · exact .inr ⟨by simp, rfl⟩

/-- A stretch that ends inside the text ends there with more text behind it. -/
theorem span_append {p : Char → Bool} {t x y : Text} (h : t.span p = (x, y)) (hy : y ≠ [])
    (z : Text) : (t ++ z).span p = (x, y ++ z) := by
  rw [List.span_eq_takeWhile_dropWhile] at h ⊢
  obtain ⟨rfl, rfl⟩ := Prod.mk.inj h
  have hlen : (t.takeWhile p).length ≠ t.length := by
    intro hlen
    have hall := congrArg List.length (t.takeWhile_append_dropWhile (p := p))
    rw [List.length_append] at hall
    have hpos := List.length_pos_iff.2 hy
    omega
  rw [List.takeWhile_append, if_neg hlen, List.dropWhile_append,
    if_neg (by simpa using hy)]

theorem skip_append {t : Text} (h : f.skip t ≠ []) (z : Text) :
    f.skip (t ++ z) = f.skip t ++ z := by
  unfold Flags.skip at h ⊢
  split
  · rw [if_pos ‹_›] at h
    rcases skipBlank_append false t z with ⟨_, hnil, -⟩ | ⟨-, happ⟩
    · exact absurd hnil h
    · exact happ
  · rfl

theorem Shuts.skipBlank (hz : Shuts z) : Flags.skipBlank false z = z := by
  obtain ⟨c, z, rfl, rfl | rfl | rfl⟩ := hz.exists_cons
  · simp [Flags.skipBlank, show Unicode.isBlank ')' = false from rfl]
  · simp [Flags.skipBlank, show Unicode.isBlank '|' = false from rfl]
  · simp [Flags.skipBlank, show Unicode.isBlank '.' = false from rfl]

/-- No `?` is next, unless a comment goes on behind the text. -/
theorem skip_append_of_nil (hz : Shuts z) {t : Text} (h : f.skip t = [])
    (hcomment : f.verbose = true → (Flags.skipBlank true z).head? ≠ some '?') :
    (f.skip (t ++ z)).head? ≠ some '?' := by
  unfold Flags.skip at h ⊢
  split
  · rw [if_pos ‹_›] at h
    rcases skipBlank_append false t z with ⟨b, -, happ⟩ | ⟨hne, -⟩
    · rw [happ]
      cases b with
      | true => exact hcomment ‹_›
      | false => simpa only [hz.skipBlank] using hz.head?_ne (by decide) (by decide) (by decide)
    · exact absurd h hne
  · rw [if_neg ‹_›] at h
    simpa [h] using hz.head?_ne (by decide) (by decide) (by decide)

theorem extends_braced (inComment : Bool) (t : Text) :
    Extends z (f.braced? inComment t) (f.braced? inComment (t ++ z)) := by
  induction t generalizing inComment with
  | nil => exact .none
  | cons c t ih =>
    exact .ite (ih _) (.ite (ih _) (.ite (ih _) (.ite (.some [] t) ((ih _).map fun _ _ => rfl))))

theorem extends_take (inComment : Bool) (n : Nat) (t : Text) :
    Extends z (f.take? inComment n t) (f.take? inComment n (t ++ z)) := by
  induction t generalizing inComment n with
  | nil =>
    cases n with
    | zero => cases z <;> exact .some [] []
    | succ n => exact .none
  | cons c t ih =>
    cases n with
    | zero => exact .some [] (c :: t)
    | succ n =>
      exact .ite (ih _ _) (.ite (ih _ _) (.ite (ih _ _) ((ih _ _).map fun _ _ => rfl)))

namespace Atom

theorem extends_hexChar {o o' : Option (Text × Text)} (h : Extends z o o') (byte : Bool) :
    Extends z (o.bind fun (digits, rest) => (hexChar? digits).map fun c => (literal c byte, rest))
      (o'.bind fun (digits, rest) => (hexChar? digits).map fun c => (literal c byte, rest)) :=
  h.bind fun _ rest => .value _ _ rest

theorem extends_hex {width : Nat} (hwidth : width ≠ 0) (t : Text) :
    Extends z (hex? f width t) (hex? f width (t ++ z)) := by
  unfold hex?
  cases ht : f.skip t with
  | nil =>
    obtain ⟨n, rfl⟩ := Nat.exists_eq_succ_of_ne_zero hwidth
    exact .none
  | cons c x =>
    rw [skip_append (by simp [ht]), ht]
    by_cases hc : c = '\x7b'
    · subst hc
      exact extends_hexChar (extends_braced false x) false
    · split
      · simp_all
      · split
        · simp_all
        · exact extends_hexChar (extends_take false width (c :: x)) _

theorem extends_propertyClass (negated : Bool) (t : Text) :
    Extends z (propertyClass? f negated t) (propertyClass? f negated (t ++ z)) := by
  refine .ite .none (.bind ?_ fun a rest => .value _ _ rest)
  cases ht : f.skip t with
  | nil => exact .none
  | cons c x =>
    rw [skip_append (by simp [ht]), ht]
    by_cases hc : c = '\x7b'
    · subst hc
      exact (extends_braced false x).bind fun name rest => .value _ _ rest
    · by_cases hc' : c = '\\'
      · subst hc'
        exact .none
      · split
        · simp_all
        · simp_all
        · simp_all
        · split
          · simp_all
          · simp_all
          · simp_all
          · rename_i hx _ _ _ _ _ hx'
            obtain ⟨rfl, rfl⟩ := List.cons_eq_cons.1 hx
            obtain ⟨rfl, rfl⟩ := List.cons_eq_cons.1 hx'
            exact .value _ _ x

theorem extends_boundary (hz : Shuts z) (t : Text) :
    Extends z (boundary? f t) (boundary? f (t ++ z)) := by
  cases t with
  | nil =>
    obtain ⟨c, z, rfl, rfl | rfl | rfl⟩ := hz.exists_cons
    all_goals exact .some _ []
  | cons c t =>
    unfold boundary?
    by_cases hc : c = '\x7b'
    · subst hc
      cases ht : f.skip t with
      | nil =>
        simp only [ht]
        exact .none
      | cons d x =>
        simp only [List.cons_append, skip_append (show f.skip t ≠ [] by simp [ht]), ht]
        exact .ite ((extends_braced false t).bind fun name rest => .value _ _ rest) (.some _ _)
    · split
      · simp_all
      · split
        · simp_all
        · exact .some _ _

/-- What a backslash introduces reads the same whatever follows it. -/
theorem extends_read (hz : Shuts z) (t : Text) : Extends z (read? f t) (read? f (t ++ z)) := by
  cases t with
  | nil => exact .none
  | cons c t =>
    refine .ite (.some _ t) ?_
    split
    iterate 3 exact extends_hex (by decide) t
    iterate 2 exact extends_propertyClass _ t
    iterate 6 exact .value _ _ t
    iterate 8 exact .some _ t
    · exact extends_boundary hz t
    iterate 3 exact .some _ t
    · exact .none

end Atom

namespace Bracket

theorem extends_atom (hz : Shuts z) (c : Char) (t : Text) :
    Extends z (atom? f c t) (atom? f c (t ++ z)) :=
  .ite (Atom.extends_read hz t) (.some _ t)

theorem nextVisible_append {passed : Bool} {t : Text} {c : Char}
    (h : nextVisible passed t = some c) (z : Text) : nextVisible passed (t ++ z) = some c := by
  induction t generalizing passed with
  | nil => cases h
  | cons d t ih =>
    simp only [List.cons_append, nextVisible] at h ⊢
    split
    · rw [if_pos ‹_›] at h
      exact ih h
    · rw [if_neg ‹_›] at h
      split
      · rw [if_pos ‹_›] at h
        exact ih h
      · rw [if_neg ‹_›] at h
        exact h

/-- Where nothing is visible there is nothing but blank text. -/
theorem skipBlank_of_nextVisible {passed inComment : Bool} {t : Text}
    (h : nextVisible passed t = none) (hin : inComment = true → passed = true) :
    Flags.skipBlank inComment t = [] := by
  induction t generalizing passed inComment with
  | nil => rfl
  | cons c t ih =>
    rw [nextVisible] at h
    rw [Flags.skipBlank]
    split at h
    · rename_i hblank
      rw [if_pos hblank]
      split
      · exact ih h fun _ => hin ‹_›
      · exact ih h (by simp)
    · rename_i hblank
      split at h
      · rename_i hsign
        obtain ⟨rfl, rfl⟩ : passed = false ∧ c = '#' := by simpa using hsign
        have hout : inComment = false := by simpa using hin
        rw [hout, if_neg (by simp), if_neg hblank, if_pos rfl]
        exact ih h fun _ => rfl
      · cases h

/-- The character behind a `-` is the same with more text behind it, if there is one. -/
theorem afterDash_append {t : Text}
    (h : f.skip t ≠ [] ∨ ∃ c, afterDash f t = some c ∧ c ≠ '#' ∧ Unicode.isBlank c = false)
    (z : Text) : afterDash f (t ++ z) = afterDash f t := by
  unfold afterDash at h ⊢
  by_cases hf : f.verbose = true
  · simp only [hf, if_true] at h ⊢
    cases hv : nextVisible false t with
    | some c => rw [nextVisible_append hv z]; rfl
    | none =>
      rcases h with h | ⟨c, hc, hsign, hblank⟩
      · exact absurd (skipBlank_of_nextVisible hv fun h => absurd h Bool.false_ne_true)
          (by simpa [Flags.skip, hf] using h)
      · rw [hv, Option.none_or] at hc
        obtain ⟨t, rfl⟩ := List.head?_eq_some_iff.1 hc
        simp [nextVisible, hsign, hblank] at hv
  · simp only [hf, Bool.false_eq_true, if_false] at h ⊢
    cases t with
    | nil => simp [Flags.skip, hf] at h
    | cons c t => rfl

theorem extends_entry (hz : Shuts z) (c : Char) (t : Text) :
    Extends z (Bracket.entry? f c t) (Bracket.entry? f c (t ++ z)) := by
  refine (extends_atom hz c t).bind fun first t => ?_
  cases ht : f.skip t with
  | nil =>
    simp only [ht]
    exact .none
  | cons d x =>
    simp only [ht, skip_append (show f.skip t ≠ [] by simp [ht]), List.cons_append]
    by_cases hd : d = '-'
    · subst hd
      by_cases hend : (afterDash f x == some ']' || afterDash f x == some '-') = true
      · have hsame : afterDash f (x ++ z) = afterDash f x := by
          refine afterDash_append (.inr ?_) z
          rcases Bool.or_eq_true_iff.1 hend with h | h
          · exact ⟨']', by simpa using h, by decide, rfl⟩
          · exact ⟨'-', by simpa using h, by decide, rfl⟩
        simp only [hsame, hend, if_true]
        exact .value _ _ ('-' :: x)
      · simp only [hend, Bool.false_eq_true, if_false]
        cases hx : f.skip x with
        | nil => exact .none
        | cons e y =>
          have hne : f.skip x ≠ [] := by simp [hx]
          simp only [afterDash_append (.inl hne), hend, Bool.false_eq_true, if_false,
            skip_append hne, hx, List.cons_append]
          refine (extends_atom hz e y).bind fun last t => ?_
          cases literal? f first with
          | none => exact .none
          | some lo =>
            cases literal? f last with
            | none => exact .none
            | some hi => exact .ite (.some _ t) .none
    · split
      · simp_all
      · simp_all
      · split
        · simp_all
        · simp_all
        · exact .value _ _ (d :: x)

theorem entry?_nil (c : Char) : entry? f c [] = none := by
  unfold entry? atom?
  split
  · rfl
  · simp [Flags.skip, Flags.skipBlank]

def className? (t : Text) : Option (Text × Text) :=
  match t.dropWhile (· != ':') with
  | ':' :: ']' :: rest => some (t.takeWhile (· != ':'), rest)
  | _ => none

theorem className?_cons {c : Char} (hc : c ≠ ':') (t : Text) :
    className? (c :: t) = (className? t).map fun (name, rest) => (c :: name, rest) := by
  have hdrop : (c :: t).dropWhile (· != ':') = t.dropWhile (· != ':') := by simp [hc]
  have htake : (c :: t).takeWhile (· != ':') = c :: t.takeWhile (· != ':') := by simp [hc]
  unfold className?
  rw [hdrop, htake]
  split <;> rfl

/-- A name that goes on in the text behind is the name of no class. -/
theorem className?_append (hz : Shuts z) (t : Text) :
    className? (t ++ z) = (className? t).map (fun (name, rest) => (name, rest ++ z)) ∨
      className? t = none ∧
        ∀ name rest, className? (t ++ z) = some (name, rest) → ¬ name.all Char.isLower = true := by
  induction t with
  | nil =>
    refine .inr ⟨rfl, fun name rest h => ?_⟩
    obtain ⟨c, y, rfl, hc⟩ := hz.exists_cons
    have hcolon : (c != ':') = true := by rcases hc with rfl | rfl | rfl <;> rfl
    have hlower : c.isLower = false := by rcases hc with rfl | rfl | rfl <;> rfl
    unfold className? at h
    split at h
    · obtain ⟨rfl, -⟩ := Prod.mk.inj (Option.some.inj h)
      simp [hcolon, hlower]
    · cases h
  | cons c t ih =>
    by_cases hc : c = ':'
    · subst hc
      refine .inl ?_
      cases t with
      | nil =>
        obtain ⟨c, z, rfl, rfl | rfl | rfl⟩ := hz.exists_cons <;> rfl
      | cons d t =>
        by_cases hd : d = ']'
        · subst hd
          rfl
        · simp [className?, hd]
    · rw [List.cons_append, className?_cons hc, className?_cons hc]
      rcases ih with ih | ⟨hnone, ih⟩
      · refine .inl ?_
        rw [ih]
        cases className? t <;> rfl
      · refine .inr ⟨by rw [hnone]; rfl, fun name rest h => ?_⟩
        obtain ⟨⟨name', rest'⟩, h', h⟩ := Option.map_eq_some_iff.1 h
        obtain ⟨rfl, rfl⟩ := Prod.mk.inj h
        simpa using fun _ => by simpa using ih name' rest' h'

/-- Names of classes are in small letters. -/
theorem isLower_of_asciiClass? {name : Text} {s : CharSet} (h : CharSet.asciiClass? name = some s) :
    name.all Char.isLower = true := by
  have hname : ∀ {n : String}, String.ofList name = n → n.toList.all Char.isLower = true →
      name.all Char.isLower = true := by
    rintro _ rfl hall
    simpa using hall
  unfold CharSet.asciiClass? at h
  split at h
  all_goals first | exact hname ‹_› (by decide) | cases h

def classAt? (f : Flags) (negated : Bool) (t : Text) : Option (Option CharSet × Text) :=
  (className? t).bind fun (name, rest) =>
    (CharSet.asciiClass? name).map fun s => (Atom.negate? f negated (Atom.fold f s), rest)

theorem classAt?_append (hz : Shuts z) (negated : Bool) (t : Text) :
    classAt? f negated (t ++ z) =
      (classAt? f negated t).map fun (set, rest) => (set, rest ++ z) := by
  unfold classAt?
  rcases className?_append hz t with h | ⟨hnone, h⟩
  · rw [h]
    cases className? t with
    | none => rfl
    | some x => simp [Function.comp_def]
  · rw [hnone]
    cases hx : className? (t ++ z) with
    | none => rfl
    | some x =>
      have hclass : CharSet.asciiClass? x.1 = none :=
        Option.eq_none_iff_forall_not_mem.2 fun s hs => h x.1 x.2 hx (isLower_of_asciiClass? hs)
      simp [hclass]

theorem namedClass?_colon (t : Text) :
    namedClass? f (':' :: t) =
      if t.head? = some '^' then classAt? f true t.tail else classAt? f false t := by
  cases t with
  | nil => rfl
  | cons c t =>
    unfold classAt? className?
    by_cases hc : c = '^'
    · subst hc
      rw [List.head?_cons, if_pos rfl, List.tail_cons]
      simp only [namedClass?, List.span_eq_takeWhile_dropWhile]
      split <;> simp_all
    · rw [if_neg (by simpa using hc)]
      simp only [namedClass?, List.cons.injEq, hc, false_and, imp_self, implies_true,
        List.span_eq_takeWhile_dropWhile]
      split <;> simp_all

theorem namedClass?_append (hz : Shuts z) (t : Text) :
    namedClass? f (t ++ z) = (namedClass? f t).map fun (set, rest) => (set, rest ++ z) := by
  obtain ⟨a, y, hy, ha⟩ := hz.exists_cons
  cases t with
  | nil => rcases ha with rfl | rfl | rfl <;> rw [hy] <;> rfl
  | cons c t =>
    by_cases hc : c = ':'
    · subst hc
      rw [List.cons_append, namedClass?_colon, namedClass?_colon]
      cases t with
      | nil =>
        rw [List.nil_append, if_neg (hz.head?_ne (by decide) (by decide) (by decide))]
        exact classAt?_append hz false []
      | cons d t =>
        by_cases hd : (d :: t).head? = some '^'
        · rw [if_pos hd, if_pos (by simpa using hd)]
          exact classAt?_append hz true t
        · rw [if_neg hd, if_neg (by simpa using hd)]
          exact classAt?_append hz false (d :: t)
    · simp [namedClass?, hc]

end Bracket

end TextSieve.Pattern
