import Mathlib.Tactic.Common
import TextSieve.Proofs.Pattern.Enclosed

/-! A pattern behind other items. A text that is a pattern on its own is read behind items of the
same branch as it is read alone, except that its first branch begins with those items. The others do
not change: a bar ends what the items belong to. -/

namespace TextSieve.Pattern.Reader

variable {front : List Item} {bs bs' : List Branch} {is is' : List Item} {os os' : List Outer}

/-- The branches and the items of a group, latest first, and the same group with `front` at the
beginning of its first branch. -/
inductive Led (front : List Item) : List Branch → List Item → List Branch → List Item → Prop
  | first (items : List Item) : Led front [] items [] (items ++ front.reverse)
  | later (bs : List Branch) (first items : List Item) :
    Led front (bs ++ [.ofItems first]) items (bs ++ [.ofItems (front ++ first)]) items

/-- The groups that are open, the innermost apart, where only the lowest has `front` in it. -/
inductive Stacked (front : List Item) : List Branch → List Item → List Outer →
    List Branch → List Item → List Outer → Prop
  | lowest {bs bs' : List Branch} {is is' : List Item} (h : Led front bs is bs' is') :
    Stacked front bs is [] bs' is' []
  | inside {bs bs' : List Branch} {is is' : List Item} {os os' : List Outer} (flags : Flags)
    (name : Option Text) (branches : List Branch) (items : List Item)
    (h : Stacked front bs is os bs' is' os') :
    Stacked front branches items (⟨flags, name, bs, is⟩ :: os)
      branches items (⟨flags, name, bs', is'⟩ :: os')

structure Preceded (front : List Item) (s s' : Reader) : Prop where
  flags : s'.flags = s.flags
  names : s'.names = s.names
  brackets : s'.brackets = s.brackets
  stacked : Stacked front s.branches s.items s.outers s'.branches s'.items s'.outers

theorem branch_eq (s : Reader) : s.branch = .ofItems s.items.reverse := by
  simp [branch, Branch.ofItems]

namespace Stacked

theorem item (h : Stacked front bs is os bs' is' os') (i : Item) :
    Stacked front bs (i :: is) os bs' (i :: is') os' := by
  cases h with
  | lowest h =>
    cases h with
    | first => exact .lowest (.first (i :: is))
    | later => exact .lowest (.later _ _ _)
  | inside flags name _ _ h => exact .inside flags name bs (i :: is) h

/-- The latest item of the first reader is that of the second. -/
theorem of_item {i : Item} (h : Stacked front bs (i :: is) os bs' is' os') :
    ∃ rest, is' = i :: rest ∧ Stacked front bs is os bs' rest os' := by
  cases h with
  | lowest h =>
    cases h with
    | first => exact ⟨is ++ front.reverse, rfl, .lowest (.first is)⟩
    | later => exact ⟨is, rfl, .lowest (.later _ _ is)⟩
  | inside flags name _ _ h => exact ⟨is, rfl, .inside flags name bs is h⟩

/-- A bar ends the branch that `front` stands in, or another one. -/
theorem bar (h : Stacked front bs is os bs' is' os') :
    Stacked front (.ofItems is.reverse :: bs) [] os (.ofItems is'.reverse :: bs') [] os' := by
  cases h with
  | lowest h =>
    cases h with
    | first =>
      rw [List.reverse_append, List.reverse_reverse]
      exact .lowest (.later [] is.reverse [])
    | later bs first => exact .lowest (.later (.ofItems is.reverse :: bs) first [])
  | inside flags name _ _ h => exact .inside flags name _ [] h

theorem of_lowest (h : Stacked front bs is [] bs' is' os') : os' = [] ∧ Led front bs is bs' is' := by
  cases h with
  | lowest h => exact ⟨rfl, h⟩

theorem of_inside {o : Outer} (h : Stacked front bs is (o :: os) bs' is' os') :
    bs' = bs ∧ is' = is ∧ ∃ o' rest, os' = o' :: rest ∧ o'.flags = o.flags ∧ o'.name = o.name ∧
      Stacked front o.branches o.items os o'.branches o'.items rest := by
  cases h with
  | inside flags name _ _ h => exact ⟨rfl, rfl, _, _, rfl, rfl, rfl, h⟩

end Stacked

namespace Preceded

variable {s s' : Reader}

theorem item (h : Preceded front s s') (f : Flags) (i : Item) :
    Preceded front { s with flags := f, items := i :: s.items }
      { s' with flags := f, items := i :: s'.items } :=
  ⟨rfl, h.names, h.brackets, h.stacked.item i⟩

theorem push (h : Preceded front s s') (r : Regex) (depth : Nat) :
    Preceded front (s.push r depth) (s'.push r depth) :=
  ⟨h.flags, h.names, h.brackets, h.stacked.item _⟩

theorem bar (h : Preceded front s s') :
    Preceded front { s with branches := s.branch :: s.branches, items := [] }
      { s' with branches := s'.branch :: s'.branches, items := [] } := by
  refine ⟨h.flags, h.names, h.brackets, ?_⟩
  simp only [branch_eq]
  exact h.stacked.bar

theorem withBrackets (h : Preceded front s s') (brackets : List Bracket) :
    Preceded front { s with brackets := brackets } { s' with brackets := brackets } :=
  ⟨h.flags, h.names, rfl, h.stacked⟩

theorem withNames (h : Preceded front s s') (names : List Text) :
    Preceded front { s with names := names } { s' with names := names } :=
  ⟨h.flags, rfl, h.brackets, h.stacked⟩

theorem openGroup (h : Preceded front s s') (f : Flags) (name : Option Text) :
    Preceded front (s.openGroup f name) (s'.openGroup f name) := by
  refine ⟨rfl, h.names, h.brackets, ?_⟩
  simp only [Reader.openGroup, h.flags]
  exact .inside s.flags name [] [] h.stacked

end Preceded

/-- What is read with success is read behind `front` as well, to readers that correspond. -/
def Follows {α : Type} (front : List Item) (p p' : Option (Reader × α)) : Prop :=
  ∀ s a, p = some (s, a) → ∃ s', p' = some (s', a) ∧ Preceded front s s'

namespace Follows

variable {α β : Type} {s s' : Reader} {p p' : Option (Reader × α)}

theorem none : Follows front (.none : Option (Reader × α)) p' := by
  intro s a h
  cases h

theorem some (h : Preceded front s s') (a : α) :
    Follows front (some (s, a)) (some (s', a)) := by
  intro t b ht
  obtain ⟨rfl, rfl⟩ := Prod.mk.inj (Option.some.inj ht)
  exact ⟨s', rfl, h⟩

theorem map {v : Option β} {g g' : β → Reader × α}
    (h : ∀ b, (g' b).2 = (g b).2 ∧ Preceded front (g b).1 (g' b).1) :
    Follows front (v.map g) (v.map g') := by
  intro t a ht
  obtain ⟨b, hb, ht⟩ := Option.map_eq_some_iff.1 ht
  obtain ⟨ha, hp⟩ := h b
  rw [ht] at ha hp
  refine ⟨(g' b).1, ?_, hp⟩
  rw [hb, Option.map_some]
  exact congrArg Option.some (Prod.ext rfl ha)

theorem bind {v : Option β} {k k' : β → Option (Reader × α)}
    (h : ∀ b, Follows front (k b) (k' b)) : Follows front (v.bind k) (v.bind k') := by
  intro t a ht
  obtain ⟨b, hb, ht⟩ := Option.bind_eq_some_iff.1 ht
  obtain ⟨t', ht', hp⟩ := h b t a ht
  exact ⟨t', by rw [hb]; exact ht', hp⟩

/-- What comes behind a reader does not depend on it. -/
theorem andThen (h : Follows front p p') (g : α → β) :
    Follows front (p.map fun x => (x.1, g x.2)) (p'.map fun x => (x.1, g x.2)) := by
  intro t b ht
  obtain ⟨⟨m, a⟩, hm, ht⟩ := Option.map_eq_some_iff.1 ht
  obtain ⟨rfl, rfl⟩ := Prod.mk.inj ht
  obtain ⟨t', ht', hp⟩ := h m a hm
  exact ⟨t', by rw [ht']; rfl, hp⟩

end Follows

variable {s s' : Reader}

theorem follows_repeat {α : Type} (h : Preceded front s s') (low : Nat) (high : Option Nat)
    (lazy : Bool) (a : α) :
    Follows front ((s.repeat? low high lazy).map (·, a))
      ((s'.repeat? low high lazy).map (·, a)) := by
  unfold repeat?
  rcases hitems : s.items with _ | ⟨r, items⟩
  · exact .none
  · have hstacked := h.stacked
    rw [hitems] at hstacked
    obtain ⟨rest, hrest, hbehind⟩ := hstacked.of_item
    rw [hrest]
    cases r with
    | setting => exact .none
    | term r depth =>
      simp only [Option.map_some, h.flags]
      refine .some ?_ a
      exact ⟨rfl, h.names, h.brackets, hbehind.item _⟩

theorem follows_sign (h : Preceded front s s') (low : Nat) (high : Option Nat) (rest : Text) :
    Follows front (s.sign? low high rest) (s'.sign? low high rest) :=
  follows_repeat h low high _ _

theorem follows_counted (h : Preceded front s s') (rest : Text) :
    Follows front (s.counted? rest) (s'.counted? rest) := by
  unfold counted?
  rw [h.flags]
  refine .bind fun x => .bind fun y => ?_
  dsimp only
  split
  · exact follows_repeat h _ _ _ _
  · exact follows_repeat h _ _ _ _

theorem follows_openNamed (h : Preceded front s s') (t : Text) :
    Follows front (s.openNamed? t) (s'.openNamed? t) := by
  unfold openNamed?
  rw [h.names, h.flags]
  split
  · split
    · exact .some ((h.openGroup _ _).withNames _) _
    · exact .none
  · exact .none

theorem follows_openFlags (h : Preceded front s s') (t : Text) :
    Follows front (s.openFlags? t) (s'.openFlags? t) := by
  unfold openFlags?
  rw [h.flags]
  split
  · split
    · exact .none
    · exact .map fun f => ⟨rfl, h.item f .setting⟩
  · exact .map fun f => ⟨rfl, h.openGroup f none⟩
  · exact .none

theorem follows_open (h : Preceded front s s') (t : Text) :
    Follows front (s.open? t) (s'.open? t) := by
  unfold open?
  rw [h.flags]
  split
  iterate 4 exact .none
  · exact follows_openNamed h _
  · exact follows_openNamed h _
  · exact follows_openFlags h _
  · exact .some (h.openGroup s.flags none) _

theorem follows_closeGroup (h : Preceded front s s') (n : Nat) :
    Follows front (s.closeGroup?.map (·, n)) (s'.closeGroup?.map (·, n)) := by
  unfold closeGroup?
  rcases houters : s.outers with _ | ⟨o, os⟩
  · exact .none
  · have hstacked := h.stacked
    rw [houters] at hstacked
    obtain ⟨hbranches, hitems, o', rest, hrest, hflags, hname, houter⟩ := hstacked.of_inside
    have hchoice : s'.choice = s.choice := by simp only [choice, branch, hbranches, hitems]
    rw [hrest]
    simp only [Option.map_some, hchoice, hname, hflags]
    refine .some ?_ n
    exact ⟨rfl, h.names, h.brackets, houter.item _⟩

theorem follows_outside (h : Preceded front s s') (c : Char) (rest : Text) :
    Follows front (s.outside? c rest) (s'.outside? c rest) := by
  unfold outside?
  split
  · exact (follows_open h rest).andThen fun after => rest.length - after.length
  · exact follows_closeGroup h 0
  · exact .some h.bar 0
  · exact .some (h.withBrackets _) 0
  iterate 3 exact follows_sign h _ _ rest
  · exact follows_counted h rest
  · rw [h.flags]
    exact .bind fun x => .map fun r => ⟨rfl, h.push r 0⟩
  · rw [h.flags]
    exact .map fun r => ⟨rfl, h.push r 0⟩
  · rw [h.flags]
    exact .some (h.push _ 0) 0
  · rw [h.flags]
    exact .some (h.push _ 0) 0
  · rw [h.flags]
    exact .map fun r => ⟨rfl, h.push r 0⟩

theorem follows_closeBracket (h : Preceded front s s') (b : Bracket) (outer : List Bracket)
    (n : Nat) :
    Follows front ((s.closeBracket? b outer).map (·, n))
      ((s'.closeBracket? b outer).map (·, n)) := by
  have hclose : b.close? s'.flags = b.close? s.flags := by rw [h.flags]
  unfold closeBracket?
  rw [hclose, Option.map_map, Option.map_map]
  refine .map fun m => ⟨rfl, ?_⟩
  cases outer with
  | nil => exact (h.withBrackets []).push _ _
  | cons o outer => exact h.withBrackets _

theorem follows_inside (h : Preceded front s s') (b : Bracket) (outer : List Bracket) (c : Char)
    (rest : Text) : Follows front (s.inside? b outer c rest) (s'.inside? b outer c rest) := by
  unfold inside?
  rw [h.flags]
  split
  · split
    · exact .some (h.withBrackets _) _
    · exact .none
    · exact .some (h.withBrackets _) 0
  · exact follows_closeBracket h b outer 0
  iterate 3 exact .some (h.withBrackets _) 1
  · exact .map fun x => ⟨rfl, h.withBrackets _⟩

theorem follows_step (h : Preceded front s s') (c : Char) (rest : Text) :
    Follows front (s.step? c rest) (s'.step? c rest) := by
  unfold step?
  rw [h.flags, h.brackets]
  split
  · exact .some h 0
  · split
    · exact .some h _
    · split
      · exact follows_outside h c rest
      · split
        · exact .some (h.withBrackets _) 0
        · exact follows_inside h _ _ c rest

theorem preceded_read (h : Preceded front s s') {n : Nat} {t : Text} {e : Reader}
    (hread : s.read? n t = some e) : ∃ e', s'.read? n t = some e' ∧ Preceded front e e' := by
  induction t generalizing s s' n with
  | nil =>
    obtain rfl : s = e := by simpa using hread
    exact ⟨s', by simp, h⟩
  | cons c rest ih =>
    cases n with
    | succ n => exact ih h hread
    | zero =>
      rw [read?_cons] at hread
      obtain ⟨⟨m, n⟩, hstep, hread⟩ := Option.bind_eq_some_iff.1 hread
      obtain ⟨m', hstep', hm⟩ := follows_step h c rest m n hstep
      rw [read?_cons, hstep']
      exact ih hm hread

/-- A pattern is read behind items as it is read alone, with the items in front of its first
branch. -/
theorem exists_preceded {f : Flags} {p : Text} {e : Reader} (h : OwnReading f p e)
    (front : List Item) :
    ∃ e', read? { flags := f, items := front.reverse } 0 p = some e' ∧ e'.flags = e.flags ∧
      e'.names = e.names ∧ e'.outers = [] ∧ e'.brackets = [] ∧
      Led front e.branches e.items e'.branches e'.items := by
  have hstart : Preceded front { flags := f } { flags := f, items := front.reverse } :=
    ⟨rfl, rfl, rfl, .lowest (.first [])⟩
  obtain ⟨e', he', hpreceded⟩ := preceded_read hstart h.read
  have hstacked := hpreceded.stacked
  rw [h.outers] at hstacked
  obtain ⟨houters, hled⟩ := hstacked.of_lowest
  exact ⟨e', he', hpreceded.flags, hpreceded.names, houters, hpreceded.brackets.trans h.brackets,
    hled⟩

end TextSieve.Pattern.Reader
