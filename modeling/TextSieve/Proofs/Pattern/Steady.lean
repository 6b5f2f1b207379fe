import Mathlib.Data.List.Infix
import TextSieve.Proofs.Pattern.Enclosed

/-! Patterns without flags and names. Where every group is opened without either, the flags stay the
same from the start of a pattern to its end, inside groups and outside, and no group has a name. -/

namespace TextSieve.Pattern

/-- Wherever the text goes on with the start of a group, the group has no flags and no name. -/
def PlainGroups (p : Text) : Prop :=
  ∀ t ∈ p.tails, ['(', '?'] <+: t → ['(', '?', ':'] <+: t

instance (p : Text) : Decidable (PlainGroups p) :=
  inferInstanceAs (Decidable (∀ t ∈ p.tails, _))

theorem PlainGroups.tail {c : Char} {p : Text} (h : PlainGroups (c :: p)) : PlainGroups p := by
  intro t ht
  exact h t (by simp [(List.mem_tails t p).1 ht])

/-- What follows a parenthesis. -/
theorem PlainGroups.opening {p : Text} (h : PlainGroups ('(' :: p)) (hp : p.head? = some '?') :
    ∃ q, p = '?' :: ':' :: q := by
  obtain ⟨q, rfl⟩ := List.head?_eq_some_iff.1 hp
  obtain ⟨r, hr⟩ := h _ ((List.mem_tails _ _).2 (List.suffix_refl _)) (by simp)
  exact ⟨r, by simpa [eq_comm] using hr⟩

namespace Reader

variable {f : Flags} {s s' : Reader}

structure Steady (f : Flags) (s : Reader) : Prop where
  flags : s.flags = f
  outers : ∀ o ∈ s.outers, o.flags = f
  names : s.names = []

namespace Steady

variable {α β : Type}

theorem of_some {a : α} (h : Steady f s) : ∀ x ∈ some (s, a), Steady f x.1 := by
  rintro _ ⟨⟩
  exact h

theorem of_map {v : Option β} {g : β → Reader × α} (h : ∀ b ∈ v, Steady f (g b).1) :
    ∀ x ∈ v.map g, Steady f x.1 := by
  intro x hx
  obtain ⟨b, hb, rfl⟩ := Option.map_eq_some_iff.1 hx
  exact h b hb

theorem of_bind {v : Option β} {g : β → Option (Reader × α)}
    (h : ∀ b ∈ v, ∀ x ∈ g b, Steady f x.1) : ∀ x ∈ v.bind g, Steady f x.1 := by
  intro x hx
  obtain ⟨b, hb, hx⟩ := Option.bind_eq_some_iff.1 hx
  exact h b hb x hx

theorem repeated (h : Steady f s) {low : Nat} {high : Option Nat} {lazy : Bool} :
    ∀ s' ∈ s.repeat? low high lazy, Steady f s' := by
  intro s' hs'
  unfold repeat? at hs'
  split at hs'
  · obtain rfl := Option.some.inj hs'
    exact ⟨h.flags, h.outers, h.names⟩
  · cases hs'

theorem counted (h : Steady f s) (rest : Text) : ∀ x ∈ s.counted? rest, Steady f x.1 := by
  unfold counted?
  refine .of_bind fun x _ => .of_bind fun y _ => ?_
  dsimp only
  split <;> exact .of_map h.repeated

theorem openGroup (h : Steady f s) (name : Option Text) : Steady f (s.openGroup s.flags name) := by
  refine ⟨h.flags, ?_, h.names⟩
  intro o ho
  rcases List.mem_cons.1 ho with rfl | ho
  · exact h.flags
  · exact h.outers o ho

theorem opened (h : Steady f s) (hf : f.verbose = false) {rest : Text}
    (hrest : PlainGroups ('(' :: rest)) : ∀ x ∈ s.open? rest, Steady f x.1 := by
  have hskip : s.flags.skip rest = rest := by simp [Flags.skip, h.flags, hf]
  intro x hx
  by_cases hhead : rest.head? = some '?'
  · -- only the colon is left of what can follow, and no letters stand before it
    obtain ⟨q, rfl⟩ := hrest.opening hhead
    have hopen : s.open? ('?' :: ':' :: q) = some (s.openGroup s.flags none, q) := by
      rw [open?_flags hskip (by decide) (by decide) (by decide) (by simp)]
      simp [openFlags?, Flags.withLetters?, List.span, List.span.loop]
    exact Steady.of_some (h.openGroup none) x (hopen ▸ hx)
  · have hplain := open?_plain (s := s) (t := rest) (by rwa [hskip])
    exact Steady.of_some (h.openGroup none) x (hplain ▸ hx)

theorem closed (h : Steady f s) : ∀ s' ∈ s.closeGroup?, Steady f s' := by
  intro s' hs'
  unfold closeGroup? at hs'
  split at hs'
  · cases hs'
  · rename_i o outers houters
    obtain rfl := Option.some.inj hs'
    have hall : ∀ o' ∈ o :: outers, o'.flags = f := houters ▸ h.outers
    exact ⟨hall o (by simp), fun o' ho' => hall o' (by simp [ho']), h.names⟩

theorem push (h : Steady f s) (r : Regex) (depth : Nat) : Steady f (s.push r depth) :=
  ⟨h.flags, h.outers, h.names⟩

theorem inBracket (h : Steady f s) (b : Bracket) (outer : List Bracket) :
    Steady f (s.inBracket b outer) :=
  ⟨h.flags, h.outers, h.names⟩

theorem outside (h : Steady f s) (hf : f.verbose = false) {c : Char} {rest : Text}
    (hrest : PlainGroups (c :: rest)) : ∀ x ∈ s.outside? c rest, Steady f x.1 := by
  unfold outside?
  split
  · exact .of_map (h.opened hf hrest)
  · exact .of_map h.closed
  · exact .of_some ⟨h.flags, h.outers, h.names⟩
  · exact .of_some ⟨h.flags, h.outers, h.names⟩
  iterate 3 exact .of_map h.repeated
  · exact h.counted rest
  · exact .of_bind fun x _ => .of_map fun r _ => h.push r 0
  · exact .of_map fun r _ => h.push r 0
  · exact .of_some (h.push _ 0)
  · exact .of_some (h.push _ 0)
  · exact .of_map fun r _ => h.push r 0

theorem closedBracket (h : Steady f s) (b : Bracket) (outer : List Bracket) :
    ∀ s' ∈ s.closeBracket? b outer, Steady f s' := by
  intro s' hs'
  obtain ⟨n, -, rfl⟩ := Option.map_eq_some_iff.1 hs'
  cases outer <;> exact ⟨h.flags, h.outers, h.names⟩

theorem inside (h : Steady f s) (b : Bracket) (outer : List Bracket) (c : Char) (rest : Text) :
    ∀ x ∈ s.inside? b outer c rest, Steady f x.1 := by
  unfold inside?
  split
  · split
    · exact .of_some (h.inBracket _ _)
    · simp
    · exact .of_some (h.inBracket _ _)
  · exact .of_map (h.closedBracket b outer)
  iterate 3 exact .of_some (h.inBracket _ _)
  · exact .of_map fun x _ => h.inBracket _ _

theorem step (h : Steady f s) (hf : f.verbose = false) {c : Char} {rest : Text}
    (hrest : PlainGroups (c :: rest)) : ∀ x ∈ s.step? c rest, Steady f x.1 := by
  unfold step?
  split
  · exact .of_some h
  · split
    · exact .of_some h
    · split
      · exact h.outside hf hrest
      · split
        · exact .of_some (h.inBracket _ _)
        · exact h.inside _ _ c rest

/-- Every step keeps steady, so the whole reading does, wherever in the pattern it starts. -/
theorem read (h : Steady f s) (hf : f.verbose = false) {n : Nat} {t : Text}
    (ht : PlainGroups t) (hread : s.read? n t = some s') : Steady f s' := by
  induction t generalizing s n with
  | nil =>
    obtain rfl : s = s' := by simpa using hread
    exact h
  | cons c rest ih =>
    cases n with
    | succ n => exact ih h ht.tail hread
    | zero =>
      rw [read?_cons] at hread
      obtain ⟨⟨m, n⟩, hstep, hread⟩ := Option.bind_eq_some_iff.1 hread
      exact ih (h.step hf ht _ hstep) ht.tail hread

end Steady

/-- What is read of such a pattern is steady. -/
theorem steady_of_read? (hf : f.verbose = false) {p : Text} (hp : PlainGroups p)
    (h : read? { flags := f } 0 p = some s) : Steady f s := by
  have hstart : Steady f { flags := f } := ⟨rfl, List.forall_mem_nil _, rfl⟩
  exact hstart.read hf hp h

end Reader

end TextSieve.Pattern
