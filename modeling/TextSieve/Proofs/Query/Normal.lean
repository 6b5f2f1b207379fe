import Mathlib.Tactic.Common
import TextSieve.Proofs.Query.Redisplay

/-! The normal form of queries. Sequences have at least two operands and are not nested in
sequences that bind as tightly, and the texts of leaves and fields can be told apart in writing.
Every query that is read is of this form, and no deeper than the limit of nesting. -/

namespace TextSieve

def Leaf.Writable (l : Leaf) : Prop :=
  l.text ≠ [] ∧
    match l.kind with
    | .word => ∀ c ∈ l.text, Query.isWordChar c = true
    | .pattern => l.text.getLast? ≠ some '\\'
    | .phrase => '"' ∉ l.text

namespace Query

def isOr : Query → Bool
  | or _ => true
  | _ => false

def isOperand : Query → Bool
  | and _ | or _ => false
  | _ => true

mutual
/-- The most groups and negations on a way from the root to a leaf. -/
def nesting : Query → Nat
  | leaf _ => 0
  | field _ _ q => nesting q
  | not q | group q => nesting q + 1
  | and qs | or qs => nestingOfAll qs

def nestingOfAll : List Query → Nat
  | [] => 0
  | q :: qs => max (nesting q) (nestingOfAll qs)
end

theorem nestingOfAll_lt_iff {qs : List Query} (h : qs ≠ []) {n : Nat} :
    nestingOfAll qs < n ↔ ∀ q ∈ qs, q.nesting < n := by
  induction qs with
  | nil => exact absurd rfl h
  | cons q qs ih =>
    cases qs with
    | nil => simp [nestingOfAll]
    | cons q' qs =>
      rw [nestingOfAll, Nat.max_lt, ih (by simp)]
      exact (List.forall_mem_cons (p := fun q : Query => q.nesting < n)).symm

structure Bare (delimiter : Option Text) (w : Text) : Prop where
  keyword : isKeyword w = false
  slash : w.head? ≠ some '/'
  dash : w.head? = some '-' → w = ['-']
  delimiter : ∀ d ∈ delimiter, d <:+: w → d <+: w

/-- The name of a field, which the delimiter `d` ends where it first occurs. -/
structure IsName (d name : Text) : Prop where
  ne_nil : name ≠ []
  word : ∀ c ∈ name, isWordChar c = true
  slash : name.head? ≠ some '/'
  dash : name.head? ≠ some '-'
  first : ∀ u v, name ++ d = u ++ d ++ v → v = []

/-- A query in normal form. The values of fields may be words that `Value` admits, which need not be
bare. -/
inductive Normal (delimiter : Option Text) (Value : Text → Prop) : Query → Prop
  | leaf {l : Leaf} (hl : l.Writable) (hbare : l.kind = .word → Bare delimiter l.text) :
    Normal delimiter Value (leaf l)
  | fieldLeaf {name d : Text} {l : Leaf} (hd : delimiter = some d) (hname : IsName d name)
    (hl : l.Writable) (hvalue : l.kind = .word → Value l.text) :
    Normal delimiter Value (field name d (leaf l))
  | fieldGroup {name d : Text} {q : Query} (hd : delimiter = some d) (hname : IsName d name)
    (hq : Normal delimiter Value q) : Normal delimiter Value (field name d (group q))
  | not {q : Query} (hop : q.isOperand = true) (hq : Normal delimiter Value q) :
    Normal delimiter Value (not q)
  | and {qs : List Query} (htwo : 2 ≤ qs.length) (hop : ∀ q ∈ qs, q.isOperand = true)
    (hqs : ∀ q ∈ qs, Normal delimiter Value q) : Normal delimiter Value (and qs)
  | or {qs : List Query} (htwo : 2 ≤ qs.length) (hor : ∀ q ∈ qs, q.isOr = false)
    (hqs : ∀ q ∈ qs, Normal delimiter Value q) : Normal delimiter Value (or qs)
  | group {q : Query} (hq : Normal delimiter Value q) : Normal delimiter Value (group q)

theorem isOr_of_isOperand {q : Query} (h : q.isOperand = true) : q.isOr = false := by
  cases q <;> first | rfl | cases h

def Yields (read : Text → Reading Query) (P : Query → Prop) : Prop :=
  ∀ ⦃t q rest⦄, read t = .ok (q, rest) → P q

section

variable {next? : Text → Option Text} {operand : Text → Reading Query} {P : Query → Prop}
  {delimiter : Option Text} {t rest : Text} {q : Query}

theorem forall_of_readMore (hop : Yields operand P) {qs : List Query}
    (h : readMore next? operand t = .ok (qs, rest)) : ∀ q ∈ qs, P q := by
  induction t using readMore.induct next? operand generalizing qs with
  | case1 t hnext =>
    rw [readMore_of_none hnext] at h
    obtain ⟨rfl, rfl⟩ := Prod.mk.inj (Except.ok.inj h)
    simp
  | case2 t start hnext stop hstart =>
    unfold readMore at h
    simp [hnext, hstart] at h
  | case3 t start hnext q rest₁ hstart hlt ih =>
    rw [readMore_of_ok hnext hstart hlt] at h
    obtain ⟨⟨qs₁, rest₂⟩, hmore, heq⟩ := exists_of_map_eq_ok h
    obtain ⟨rfl, rfl⟩ : q :: qs₁ = qs ∧ rest₂ = rest := by simpa using heq
    exact List.forall_mem_cons.2 ⟨hop hstart, ih hmore⟩
  | case4 t start hnext q rest₁ hstart hlt =>
    unfold readMore at h
    simp only [hnext, hstart, hlt, dite_false] at h
    obtain ⟨rfl, rfl⟩ := Prod.mk.inj (Except.ok.inj h)
    simp

/-- Joined operands are a single one, or two and more of them. -/
theorem yields_readJoined {combine : List Query → Query} (hop : Yields operand P) :
    Yields (readJoined combine next? operand)
      (fun q => P q ∨ ∃ qs, 2 ≤ qs.length ∧ (∀ q ∈ qs, P q) ∧ q = combine qs) := by
  intro t q rest h
  unfold readJoined at h
  split at h
  · cases h
  · rename_i q₁ rest₁ hfirst
    obtain ⟨⟨qs, rest₂⟩, hmore, heq⟩ := exists_of_map_eq_ok h
    obtain ⟨rfl, rfl⟩ : (if qs = [] then q₁ else combine (q₁ :: qs)) = q ∧ rest₂ = rest := by
      simpa using heq
    have hall := forall_of_readMore hop hmore
    split
    · exact .inl (hop hfirst)
    · rename_i hne
      have hpos := List.length_pos_iff.2 hne
      exact .inr ⟨q₁ :: qs, by simp; omega, List.forall_mem_cons.2 ⟨hop hfirst, hall⟩, rfl⟩

theorem writable_of_readPhrase (h : readPhrase t = .ok (q, rest)) :
    ∃ l : Leaf, q = leaf l ∧ l.kind = .phrase ∧ l.Writable := by
  unfold readPhrase at h
  split at h
  · cases h
  · cases h
  · rename_i text after hne hcut
    obtain ⟨rfl, -⟩ := Prod.mk.inj (Except.ok.inj h)
    refine ⟨⟨.phrase, text⟩, rfl, rfl, hne, fun hquote => ?_⟩
    obtain ⟨u, v, rfl⟩ := List.append_of_mem hquote
    have hfirst := (Text.cut?_eq_some_iff.1 hcut).2 u (v ++ ['"']) (by simp)
    simp at hfirst

theorem writable_pattern {p : Text} (hp : p ≠ []) (h : Slashed.scanBody? t = some (p, rest)) :
    (⟨.pattern, p⟩ : Leaf).Writable :=
  ⟨hp, Slashed.getLast?_of_scanBody? h⟩

theorem fieldName?_eq_none_iff {w : Text} :
    fieldName? delimiter w = none ↔ ∀ d ∈ delimiter, d <:+: w → d <+: w := by
  cases delimiter with
  | none => simp [fieldName?]
  | some d =>
    simp only [fieldName?, Option.bind_some, Option.mem_some_iff, forall_eq']
    cases hcut : Text.cut? d w with
    | none => simp [Text.cut?_eq_none_iff.1 hcut]
    | some found =>
      obtain ⟨name, after⟩ := found
      have ht := Text.eq_of_cut? hcut
      have hoccurs : d <:+: w := ⟨name, after, ht.symm⟩
      have hprefix : d <+: w ↔ name = [] := by
        constructor
        · rintro ⟨x, rfl⟩
          rw [Text.cut?_needle_append] at hcut
          exact (Prod.mk.inj (Option.some.inj hcut)).1.symm
        · rintro rfl
          exact ⟨after, by simp [ht]⟩
      simp [hoccurs, hprefix]

def Within (delimiter : Option Text) (depth : Nat) (q : Query) : Prop :=
  Normal delimiter (fun _ => True) q ∧ q.nesting < depth

def Single (delimiter : Option Text) (depth : Nat) (q : Query) : Prop :=
  q.isOperand = true ∧ Within delimiter depth q

variable {depth : Nat}

theorem yields_readAnd (hop : Yields operand (Single delimiter depth)) :
    Yields (readAnd operand) fun q => q.isOr = false ∧ Within delimiter depth q := by
  intro t q rest h
  rcases yields_readJoined hop h with ⟨hq, hwithin⟩ | ⟨qs, htwo, hqs, rfl⟩
  · exact ⟨isOr_of_isOperand hq, hwithin⟩
  · have hne : qs ≠ [] := List.length_pos_iff.1 (by omega)
    refine ⟨rfl, .and htwo (fun q hq => (hqs q hq).1) fun q hq => (hqs q hq).2.1, ?_⟩
    rw [nesting]
    exact (nestingOfAll_lt_iff hne).2 fun q hq => (hqs q hq).2.2

theorem yields_readOr (hop : Yields operand (Single delimiter depth)) :
    Yields (readOr operand) (Within delimiter depth) := by
  intro t q rest h
  rcases yields_readJoined (yields_readAnd hop) h with ⟨-, hwithin⟩ | ⟨qs, htwo, hqs, rfl⟩
  · exact hwithin
  · have hne : qs ≠ [] := List.length_pos_iff.1 (by omega)
    refine ⟨.or htwo (fun q hq => (hqs q hq).1) fun q hq => (hqs q hq).2.1, ?_⟩
    rw [nesting]
    exact (nestingOfAll_lt_iff hne).2 fun q hq => (hqs q hq).2.2

theorem yields_readGroup (hop : Yields operand (Single delimiter depth)) :
    Yields (readGroup operand) fun q => ∃ q', q = group q' ∧ Within delimiter depth q' := by
  intro t q rest h
  unfold readGroup at h
  split at h
  · cases h
  · rename_i q₁ rest₁ hinner
    split at h
    · obtain ⟨rfl, -⟩ := Prod.mk.inj (Except.ok.inj h)
      exact ⟨q₁, rfl, yields_readOr hop hinner⟩
    · cases h

theorem single_group (h : Within delimiter depth q) : Single delimiter (depth + 1) (group q) :=
  ⟨rfl, .group h.1, Nat.succ_lt_succ h.2⟩

theorem single_leaf {l : Leaf} (hl : l.Writable) (hbare : l.kind = .word → Bare delimiter l.text) :
    Single delimiter (depth + 1) (leaf l) :=
  ⟨rfl, .leaf hl hbare, Nat.succ_pos depth⟩

theorem isName_of_cut? {name d after x : Text} (hne : name ≠ [])
    (hcut : Text.cut? d (leadingWord (name ++ d ++ x)) = some (name, after))
    (hslash : (name ++ d ++ x).head? ≠ some '/') (hneg : negated? (name ++ d ++ x) = none) :
    IsName d name := by
  obtain ⟨ht, hfirst⟩ := Text.cut?_eq_some_iff.1 hcut
  have hall : ∀ c ∈ name ++ d, isWordChar c = true := by
    intro c hc
    refine leadingWord_isWordChar (t := name ++ d ++ x) ?_
    rw [ht]
    exact List.mem_append_left after hc
  have hd : d ≠ [] := by
    rintro rfl
    exact hne (hfirst [] name (by simp))
  refine ⟨hne, fun c hc => hall c (List.mem_append_left d hc), ?_, fun hdash => ?_, hfirst⟩
  · obtain ⟨c, name, rfl⟩ := List.exists_cons_of_ne_nil hne
    exact hslash
  · have hhead : (name ++ d).head? = some '-' := by
      obtain ⟨name, rfl⟩ := List.head?_eq_some_iff.1 hdash
      rfl
    have hlen := congrArg List.length (eq_dash_of_negated? hall hneg hhead)
    have := List.length_pos_iff.2 hne
    have := List.length_pos_iff.2 hd
    simp at hlen
    omega

theorem single_of_readWord (hop : Yields operand (Single delimiter depth))
    (h : readWord delimiter operand t = .ok (q, rest)) (hslash : t.head? ≠ some '/')
    (hneg : negated? t = none) : Single delimiter (depth + 1) q := by
  cases isWord_of_readWord h with
  | @word w rest hne hw hkey hplain =>
    have hall : ∀ c ∈ w, isWordChar c = true := fun c hc => leadingWord_isWordChar (hw ▸ hc)
    have hhead : w.head? ≠ some '/' := by
      obtain ⟨c, w, rfl⟩ := List.exists_cons_of_ne_nil hne
      exact hslash
    exact single_leaf ⟨hne, hall⟩ fun _ =>
      ⟨hkey, hhead, eq_dash_of_negated? hall hneg, fieldName?_eq_none_iff.1 hplain⟩
  | @field name d after x rest q hd hne hcut hkey hval =>
    have hname := isName_of_cut? hne hcut hslash hneg
    cases isValue_of_readValue hval with
    | @group y q rest hgroup =>
      obtain ⟨q', rfl, hq⟩ := yields_readGroup hop hgroup
      exact ⟨rfl, .fieldGroup hd hname hq.1, Nat.succ_lt_succ hq.2⟩
    | @phrase y q rest hphrase =>
      obtain ⟨l, rfl, -, hl⟩ := writable_of_readPhrase hphrase
      exact ⟨rfl, .fieldLeaf hd hname hl fun _ => trivial, Nat.succ_pos depth⟩
    | @pattern y p rest hp hscan =>
      exact ⟨rfl, .fieldLeaf hd hname (writable_pattern hp hscan) fun _ => trivial,
        Nat.succ_pos depth⟩
    | @word w rest hne' hw hstart =>
      exact ⟨rfl, .fieldLeaf hd hname ⟨hne', hw⟩ fun _ => trivial, Nat.succ_pos depth⟩

theorem single_of_readPrimary (hop : Yields operand (Single delimiter depth))
    (h : readPrimary delimiter operand t = .ok (q, rest)) (hneg : negated? t = none) :
    Single delimiter (depth + 1) q := by
  unfold readPrimary at h
  split at h
  · obtain ⟨q', rfl, hq⟩ := yields_readGroup hop h
    exact single_group hq
  · obtain ⟨l, rfl, hkind, hl⟩ := writable_of_readPhrase h
    exact single_leaf hl fun hword => by simp [hkind] at hword
  · obtain ⟨p, x, hp, -, hscan, rfl⟩ := exists_of_readPattern h
    exact single_leaf (writable_pattern hp hscan) fun hword => by cases hword
  · rename_i hslash
    refine single_of_readWord hop h (fun hhead => ?_) hneg
    obtain ⟨x, rfl⟩ := List.head?_eq_some_iff.1 hhead
    exact hslash x rfl

theorem yields_readOperand (delimiter : Option Text) (depth : Nat) :
    Yields (readOperand delimiter depth) (Single delimiter depth) := by
  induction depth with
  | zero =>
    intro t q rest h
    cases h
  | succ depth ih =>
    intro t q rest h
    unfold readOperand at h
    split at h
    · obtain ⟨⟨q₁, rest₁⟩, hread, heq⟩ := exists_of_map_eq_ok h
      obtain ⟨rfl, -⟩ := Prod.mk.inj heq
      obtain ⟨hop, hq, hlt⟩ := ih hread
      exact ⟨rfl, .not hop hq, Nat.succ_lt_succ hlt⟩
    · rename_i hneg
      exact single_of_readPrimary ih h hneg

theorem within_of_parse (h : parse delimiter t = .ok q) : Within delimiter depthLimit q := by
  have hread : readAll delimiter t = .ok q := by
    unfold parse at h
    split at h
    · rename_i heq
      rw [heq, Except.ok.inj h]
    · cases h
  unfold readAll at hread
  split at hread
  · cases hread
  rename_i q₁ rest hor
  split at hread
  · obtain rfl := Except.ok.inj hread
    exact yields_readOr (yields_readOperand delimiter depthLimit) hor
  · cases hread

/-- Every query that is read is in normal form, and no way through it has more than 255 groups and
negations: one level of the limit is left for the leaf. -/
theorem normal_of_parse (h : parse delimiter t = .ok q) :
    Normal delimiter (fun _ => True) q ∧ q.nesting ≤ 255 :=
  ⟨(within_of_parse h).1, Nat.le_of_lt_succ (within_of_parse h).2⟩

/-- An implicit conjunction under a choice, a value that starts like a pattern, and a dash that
stands for itself in a negated group. -/
theorem normal_of_parse_dashes :
    let tree := or [and [word ['a'], field ['f'] [':'] (word ['/', 'b'])],
      .not (group (word ['-']))]
    parse (some [':']) ['a', ' ', 'f', ':', '/', 'b', ' ', 'O', 'R', ' ', '-', '(', '-', ')'] =
      .ok tree ∧ Normal (some [':']) (fun _ => True) tree ∧ tree.nesting ≤ 255 := by
  have h : parse (some [':'])
      ['a', ' ', 'f', ':', '/', 'b', ' ', 'O', 'R', ' ', '-', '(', '-', ')'] =
      .ok (or [and [word ['a'], field ['f'] [':'] (word ['/', 'b'])],
        .not (group (word ['-']))]) := by decide +kernel
  exact ⟨h, normal_of_parse h⟩

/-- Negations may be nested more than twice. -/
theorem parse_three_negations :
    let tree : Query := .not (.not (.not (word ['a'])))
    parse (some [':']) ['N', 'O', 'T', ' ', 'N', 'O', 'T', ' ', 'N', 'O', 'T', ' ', 'a'] =
      .ok tree ∧ ¬ tree.nesting ≤ 2 := by
  exact ⟨by decide +kernel, by decide⟩

end

end Query

end TextSieve
