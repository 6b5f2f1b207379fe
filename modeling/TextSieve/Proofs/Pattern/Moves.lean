import TextSieve.Proofs.Pattern.Meaning
import TextSieve.Proofs.Pattern.Reading

/-! What a step of the reader can do. Whatever the pattern, a step adds an item to the branch that
is being read, repeats its last item, ends the branch, opens a group or closes one, or leaves all of
this as it is. What every such move keeps is kept by the reading of a whole pattern. -/

namespace TextSieve.Pattern

namespace Reader

inductive Move (s : Reader) : Reader → Prop
  | brackets (brackets : List Bracket) : Move s { s with brackets := brackets }
  /-- A single character, a set or a condition. -/
  | atom (r : Regex) (hr : r.Ungrouped) (depth : Nat) (brackets : List Bracket) :
    Move s ({ s with brackets := brackets }.push r depth)
  | repeated {low : Nat} {high : Option Nat} {lazy : Bool} {s' : Reader}
    (h : s.repeat? low high lazy = some s') : Move s s'
  | bar : Move s { s with branches := s.branch :: s.branches, items := [] }
  | setting (f : Flags) : Move s { s with flags := f, items := .setting :: s.items }
  | opened (f : Flags) : Move s (s.openGroup f none)
  | named (name : Text) (hnew : name ∉ s.names) :
    Move s { s.openGroup s.flags (some name) with names := name :: s.names }
  | closed {s' : Reader} (h : s.closeGroup? = some s') : Move s s'

def Moves {α : Type} (s : Reader) (v : Option (Reader × α)) : Prop := ∀ x ∈ v, s.Move x.1

variable {s s' : Reader} {α β : Type}

namespace Moves

theorem none : s.Moves (.none : Option (Reader × α)) := by
  simp [Moves]

theorem some (h : s.Move s') (a : α) : s.Moves (.some (s', a)) := by
  intro x hx
  obtain rfl := Option.some.inj hx
  exact h

theorem map {v : Option β} {g : β → Reader × α} (h : ∀ b, v = .some b → s.Move (g b).1) :
    s.Moves (v.map g) := by
  intro x hx
  obtain ⟨b, hb, rfl⟩ := Option.map_eq_some_iff.1 hx
  exact h b hb

theorem bind {v : Option β} {g : β → Option (Reader × α)} (h : ∀ b, s.Moves (g b)) :
    s.Moves (v.bind g) := by
  intro x hx
  obtain ⟨b, -, hx⟩ := Option.bind_eq_some_iff.1 hx
  exact h b x hx

end Moves

section

variable {f : Flags} {r : Regex}

theorem ungrouped_of_literal? {c : Char} {byte : Bool} (h : literal? f c byte = some r) :
    r.Ungrouped := by
  unfold literal? at h
  repeat' split at h
  all_goals cases h
  all_goals trivial

theorem ungrouped_of_atom? {a : Atom} (h : atom? f a = some r) : r.Ungrouped := by
  cases a with
  | literal c byte => exact ungrouped_of_literal? h
  | set set =>
    obtain rfl := Option.some.inj h
    trivial
  | look l =>
    obtain rfl := Option.some.inj h
    trivial

theorem ungrouped_of_dot? (h : dot? f = some r) : r.Ungrouped := by
  unfold dot? at h
  repeat' split at h
  all_goals cases h
  all_goals trivial

end

theorem moves_sign? (low : Nat) (high : Option Nat) (rest : Text) :
    s.Moves (s.sign? low high rest) :=
  .map fun _ h => .repeated h

theorem moves_counted? (rest : Text) : s.Moves (s.counted? rest) := by
  unfold counted?
  refine .bind fun x => .bind fun y => ?_
  dsimp only
  split
  · exact .map fun _ h => .repeated h
  · exact .map fun _ h => .repeated h

theorem moves_openNamed? (t : Text) : s.Moves (s.openNamed? t) := by
  unfold openNamed?
  split
  · split
    · rename_i hname
      exact .some (.named _ (by simpa using (Bool.and_eq_true_iff.1 hname).2)) _
    · exact .none
  · exact .none

theorem moves_openFlags? (t : Text) : s.Moves (s.openFlags? t) := by
  unfold openFlags?
  split
  · split
    · exact .none
    · exact .map fun f _ => .setting f
  · exact .map fun f _ => .opened f
  · exact .none

theorem moves_open? (t : Text) : s.Moves (s.open? t) := by
  unfold open?
  split
  iterate 4 exact .none
  · exact moves_openNamed? _
  · exact moves_openNamed? _
  · exact moves_openFlags? _
  · exact .some (.opened s.flags) _

theorem moves_outside? (c : Char) (rest : Text) : s.Moves (s.outside? c rest) := by
  unfold outside?
  split
  · exact .map fun x hx => moves_open? rest x hx
  · exact .map fun _ h => .closed h
  · exact .some .bar _
  · exact .some (.brackets _) _
  iterate 3 exact moves_sign? _ _ rest
  · exact moves_counted? rest
  · exact .bind fun x => .map fun r hr => .atom r (ungrouped_of_atom? hr) 0 s.brackets
  · exact .map fun r hr => .atom r (ungrouped_of_dot? hr) 0 s.brackets
  · exact .some (.atom (.look (startLook s.flags)) trivial 0 s.brackets) _
  · exact .some (.atom (.look (stopLook s.flags)) trivial 0 s.brackets) _
  · exact .map fun r hr => .atom r (ungrouped_of_literal? hr) 0 s.brackets

theorem moves_closeBracket? (b : Bracket) (outer : List Bracket) (n : Nat) :
    s.Moves ((s.closeBracket? b outer).map (·, n)) := by
  refine .map fun s' hs' => ?_
  obtain ⟨nested, -, rfl⟩ := Option.map_eq_some_iff.1 hs'
  cases outer with
  | nil => exact .atom (.one nested.set) trivial nested.depth []
  | cons o outer => exact .brackets _

theorem moves_inside? (b : Bracket) (outer : List Bracket) (c : Char) (rest : Text) :
    s.Moves (s.inside? b outer c rest) := by
  unfold inside?
  split
  · split
    · exact .some (.brackets _) _
    · exact .none
    · exact .some (.brackets _) _
  · exact moves_closeBracket? b outer 0
  iterate 3 exact .some (.brackets _) _
  · exact .map fun x _ => .brackets _

theorem moves_step? (s : Reader) (c : Char) (rest : Text) : s.Moves (s.step? c rest) := by
  unfold step?
  split
  · exact .some (.brackets s.brackets) _
  · split
    · exact .some (.brackets s.brackets) _
    · split
      · exact moves_outside? c rest
      · split
        · exact .some (.brackets _) _
        · exact moves_inside? _ _ c rest

/-- What every move keeps, the reading of a whole pattern keeps. -/
theorem invariant_of_moves {P : Reader → Prop} (hP : ∀ s s' : Reader, P s → s.Move s' → P s')
    {n : Nat} {t : Text} (h : s.read? n t = some s') (hs : P s) : P s' := by
  induction t generalizing s n with
  | nil =>
    obtain rfl : s = s' := by simpa using h
    exact hs
  | cons c rest ih =>
    cases n with
    | succ n => exact ih h hs
    | zero =>
      rw [read?_cons] at h
      obtain ⟨⟨m, n⟩, hstep, h⟩ := Option.bind_eq_some_iff.1 h
      exact ih h (hP s m hs (moves_step? s c rest _ hstep))

end Reader

end TextSieve.Pattern
