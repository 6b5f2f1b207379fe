import TextSieve.Proofs.Pattern.Captures
import TextSieve.Proofs.Pattern.Moves

/-! Groups behind an item. Once a named group has been opened right behind some item at the start of
a pattern, no match takes in a group of this name without going through the item first. That holds
even if what is read next closes the group and adds branches to the pattern, as the name cannot be
given again. -/

namespace TextSieve.Pattern

namespace Regex

variable {name : Text} {r : Regex} {t t' : Thread}

def Unnamed (name : Text) : Regex → Prop
  | empty | one _ | look _ => True
  | cat a b | alt a b => a.Unnamed name ∧ b.Unnamed name
  | rep r _ _ _ => r.Unnamed name
  | group other r => other ≠ name ∧ r.Unnamed name

theorem Ungrouped.unnamed (h : r.Ungrouped) (name : Text) : r.Unnamed name := by
  induction r with
  | empty => trivial
  | one s => trivial
  | look l => trivial
  | cat a b iha ihb => exact ⟨iha h.1, ihb h.2⟩
  | alt a b iha ihb => exact ⟨iha h.1, ihb h.2⟩
  | rep r low high greedy ih => exact ih h
  | group other r ih => exact h.elim

theorem unnamed_cats {rs : List Regex} (h : ∀ r ∈ rs, r.Unnamed name) : (cats rs).Unnamed name :=
  cats_of_forall trivial (fun _ _ ha hb => ⟨ha, hb⟩) h

theorem unnamed_alts {rs : List Regex} (h : ∀ r ∈ rs, r.Unnamed name) : (alts rs).Unnamed name :=
  alts_of_forall trivial (fun _ _ ha hb => ⟨ha, hb⟩) h

theorem Unnamed.repeated (h : r.Unnamed name) (low : Nat) (high : Option Nat) (greedy : Bool) :
    (r.repeated low high greedy).Unnamed name :=
  repeated_of_forall trivial h fun _ _ => h

/-- An expression without a group of this name does not change where such a group has matched. -/
theorem group?_of_goes (hr : r.Unnamed name) (h : r.Goes t t') :
    t'.group? name = t.group? name := by
  induction r generalizing t t' with
  | empty => exact congrArg (·.group? name) h
  | one s => simp only [Thread.group?, (same_of_past? h).2]
  | look l => exact congrArg (·.group? name) h.1
  | cat a b iha ihb =>
    obtain ⟨m, hm, h⟩ := h
    exact (ihb hr.2 h).trans (iha hr.1 hm)
  | alt a b iha ihb => exact h.elim (iha hr.1) (ihb hr.2)
  | rep r low high greedy ih =>
    obtain ⟨more, -, h⟩ := h
    have hkept : ∀ u u' : Thread, r.Goes u u' → u'.group? name = u.group? name :=
      fun _ _ => ih hr
    exact eq_of_steps h hkept
  | group other r ih =>
    obtain ⟨m, hm, rfl⟩ := h
    have hinner : m.group? name = t.openGroup.group? name := ih hr.2 hm
    have houter : (m.closeGroup other).group? name = m.group? name := by
      unfold Thread.closeGroup
      split
      · rfl
      · simp [Thread.group?, hr.1]
    exact houter.trans hinner

variable {front : Regex} {rest others : List Regex} {f : Thread} {s : Span} {text : Text}
  {k : Cursor}

/-- Of the branches of a choice only one can take in the group. -/
theorem goes_first_of_group? (hothers : ∀ r ∈ others, r.Unnamed name)
    (h : (alts (cats (front :: rest) :: others)).Goes t f) (ht : t.group? name = none)
    (hf : f.group? name = some s) : ∃ m, front.Goes t m ∧ (cats rest).Goes m f := by
  have hfirst : (cats (front :: rest)).Goes t f := by
    cases others with
    | nil => exact h
    | cons r others =>
      rcases h with h | h
      · exact h
      · have hsame := group?_of_goes (unnamed_alts hothers) h
        rw [hf, ht] at hsame
        cases hsame
  exact goes_cats_cons.1 hfirst

/-- What a search finds, the expression leads to from a place at the cursor or behind it. -/
theorem goes_of_search (hk : k.In text) (h : r.search k = some f) :
    ∃ k', k'.In text ∧ k.offset ≤ k'.offset ∧ r.Goes (.startAt k') f := by
  obtain ⟨u, v, rfl, rfl⟩ := hk
  obtain ⟨x, z, rfl, hg, -⟩ := first_of_search h
  exact ⟨_, .between (List.append_assoc u x z).symm, by simp [Cursor.between], hg⟩

/-- The group of a match begins where what stands in front of it has ended, or later. -/
theorem exists_front_of_search (hfront : front.Ungrouped) (hothers : ∀ r ∈ others, r.Unnamed name)
    (hk : k.In text) (h : (alts (cats (front :: rest) :: others)).search k = some f)
    (hf : f.group? name = some s) :
    ∃ k' m, k'.In text ∧ k.offset ≤ k'.offset ∧ front.Goes (.startAt k') m ∧
      m.offset ≤ s.start := by
  obtain ⟨k', hk', hle, hg⟩ := goes_of_search hk h
  obtain ⟨m, hm, hrest⟩ := goes_first_of_group? hothers hg rfl hf
  have hsound : m.Sound m.offset text := by
    have hplace := sound_of_goes hm (Thread.sound_startAt hk')
    have hopened : m.opened = [] := opened_of_goes hm
    have hgroups : m.groups = [] := groups_of_goes hfront hm
    exact ⟨hplace.cursor, Nat.le_refl _, by simp [hopened], by simp [hgroups]⟩
  exact ⟨k', m, hk', hle, hm, ((sound_of_goes hrest hsound).group? hf).1⟩

end Regex

namespace Reader

open Regex

structure Clear (name : Text) (bs : List Branch) (is : List Item) : Prop where
  branches : ∀ b ∈ bs, b.regex.Unnamed name
  items : ∀ i ∈ is, i.regex.Unnamed name

variable {name : Text} {front i j : Item} {bs : List Branch} {is : List Item} {o : Outer}
  {os : List Outer} {s s' : Reader}

theorem clear_nil : Clear name [] [] := ⟨by simp, by simp⟩

theorem Clear.item (h : Clear name bs is) (hi : i.regex.Unnamed name) : Clear name bs (i :: is) :=
  ⟨h.branches, List.forall_mem_cons.2 ⟨hi, h.items⟩⟩

theorem Clear.swap (h : Clear name bs (i :: is)) (hij : i.regex.Unnamed name → j.regex.Unnamed name) :
    Clear name bs (j :: is) := by
  obtain ⟨hi, his⟩ := List.forall_mem_cons.1 h.items
  exact ⟨h.branches, List.forall_mem_cons.2 ⟨hij hi, his⟩⟩

theorem unnamed_branch (h : ∀ i ∈ s.items, i.regex.Unnamed name) :
    s.branch.regex.Unnamed name := by
  refine unnamed_cats fun r hr => ?_
  obtain ⟨i, hi, rfl⟩ := List.mem_map.1 hr
  exact h i (List.mem_reverse.1 hi)

theorem Clear.bar (h : Clear name s.branches s.items) :
    Clear name (s.branch :: s.branches) [] :=
  ⟨List.forall_mem_cons.2 ⟨unnamed_branch h.items, h.branches⟩, by simp⟩

theorem Clear.choice (h : Clear name s.branches s.items) : s.choice.regex.Unnamed name := by
  refine unnamed_alts fun r hr => ?_
  obtain ⟨b, hb, rfl⟩ := List.mem_map.1 hr
  exact h.bar.branches b (List.mem_reverse.1 hb)

/-- The lowest level of a pattern whose first branch begins with `front`: either this branch is
being read and goes on behind `front`, or it is over. -/
inductive Headed (name : Text) (front : Item) : List Branch → List Item → Prop
  | first (is : List Item) (hne : is ≠ []) : Headed name front [] (is ++ [front])
  | later (rest : List Regex) (depth : Nat) {bs : List Branch} {is : List Item}
    (h : Clear name bs is) : Headed name front (bs ++ [⟨.cats (front.regex :: rest), depth⟩]) is

/-- No group of the name is open or closed but the one behind `front`. -/
inductive Guarded (name : Text) (front : Item) : List Branch → List Item → List Outer → Prop
  /-- The group is the innermost one, and open. -/
  | within (f : Flags) {bs : List Branch} {is : List Item} (h : Clear name bs is) :
    Guarded name front bs is [⟨f, some name, [], [front]⟩]
  /-- The group is closed. -/
  | behind {bs : List Branch} {is : List Item} (h : Headed name front bs is) :
    Guarded name front bs is []
  | inside {bs : List Branch} {is : List Item} {o : Outer} {os : List Outer}
    (hname : o.name ≠ some name) (h : Clear name bs is)
    (hos : Guarded name front o.branches o.items os) : Guarded name front bs is (o :: os)

theorem Headed.item (h : Headed name front bs is) (hi : i.regex.Unnamed name) :
    Headed name front bs (i :: is) := by
  cases h with
  | first is hne => exact .first (i :: is) (by simp)
  | later rest depth h => exact .later rest depth (h.item hi)

theorem Headed.swap (h : Headed name front bs (i :: is))
    (hij : i.regex.Unnamed name → j.regex.Unnamed name) : Headed name front bs (j :: is) := by
  generalize his : i :: is = all at h
  cases h with
  | first js hne =>
    cases js with
    | nil => exact absurd rfl hne
    | cons i' js =>
      obtain ⟨rfl, rfl⟩ := List.cons.inj his
      exact .first (j :: js) (by simp)
  | later rest depth h =>
    subst his
    exact .later rest depth (h.swap hij)

theorem Headed.bar (h : Headed name front s.branches s.items) :
    Headed name front (s.branch :: s.branches) [] := by
  generalize hbs : s.branches = bs, his : s.items = is at h
  cases h with
  | first is hne =>
    have hbranch : s.branch = ⟨.cats (front.regex :: is.reverse.map Item.regex), s.branch.depth⟩ := by
      simp [branch, his]
    have hlater : Headed name front
        ([] ++ [⟨.cats (front.regex :: is.reverse.map Item.regex), s.branch.depth⟩]) [] :=
      .later _ _ clear_nil
    rw [hbranch]
    exact hlater
  | @later rest depth bs is h =>
    have hclear : Clear name (s.branch :: bs) [] :=
      ⟨List.forall_mem_cons.2 ⟨unnamed_branch (his ▸ h.items), h.branches⟩, by simp⟩
    exact .later rest depth hclear

theorem Guarded.item (h : Guarded name front bs is os) (hi : i.regex.Unnamed name) :
    Guarded name front bs (i :: is) os := by
  cases h with
  | within f h => exact .within f (h.item hi)
  | behind h => exact .behind (h.item hi)
  | inside hname h hos => exact .inside hname (h.item hi) hos

theorem Guarded.swap (h : Guarded name front bs (i :: is) os)
    (hij : i.regex.Unnamed name → j.regex.Unnamed name) : Guarded name front bs (j :: is) os := by
  cases h with
  | within f h => exact .within f (h.swap hij)
  | behind h => exact .behind (h.swap hij)
  | inside hname h hos => exact .inside hname (h.swap hij) hos

theorem Guarded.bar (h : Guarded name front s.branches s.items s.outers) :
    Guarded name front (s.branch :: s.branches) [] s.outers := by
  generalize hos : s.outers = os at h
  cases h with
  | within f h => exact .within f h.bar
  | behind h => exact .behind h.bar
  | inside hname h hstack => exact .inside hname h.bar hstack

/-- What closing the innermost group leaves. -/
theorem Guarded.close {r : Regex} {depth : Nat} (h : Guarded name front bs is (o :: os))
    (hr : o.name ≠ some name → Clear name bs is → r.Unnamed name) :
    Guarded name front o.branches (.term r depth :: o.items) os := by
  cases h with
  | within f h => exact .behind (.first [.term r depth] (by simp))
  | inside hname h hos => exact hos.item (hr hname h)

structure Guards (name : Text) (front : Item) (s : Reader) : Prop where
  stack : Guarded name front s.branches s.items s.outers
  taken : name ∈ s.names

theorem repeat?_eq_some {low : Nat} {high : Option Nat} {lazy : Bool}
    (h : s.repeat? low high lazy = some s') :
    ∃ r depth items greedy, s.items = .term r depth :: items ∧
      s' = { s with items := .term (r.repeated low high greedy) (depth + 1) :: items } := by
  unfold repeat? at h
  split at h
  · rename_i r depth items hitems
    exact ⟨r, depth, items, _, hitems, (Option.some.inj h).symm⟩
  · cases h

theorem Guards.move (h : Guards name front s) (hm : s.Move s') : Guards name front s' := by
  cases hm with
  | brackets => exact ⟨h.stack, h.taken⟩
  | atom r hr depth => exact ⟨h.stack.item (hr.unnamed name), h.taken⟩
  | @repeated low high lazy _ hrepeat =>
    obtain ⟨r, depth, items, greedy, hitems, rfl⟩ := repeat?_eq_some hrepeat
    have hstack := h.stack
    rw [hitems] at hstack
    exact ⟨hstack.swap fun hr => hr.repeated low high greedy, h.taken⟩
  | bar => exact ⟨h.stack.bar, h.taken⟩
  | setting f => exact ⟨h.stack.item trivial, h.taken⟩
  | opened f => exact ⟨.inside (by simp) clear_nil h.stack, h.taken⟩
  | named other hnew =>
    have hother : some other ≠ some name := by
      rintro ⟨⟩
      exact hnew h.taken
    exact ⟨.inside hother clear_nil h.stack, List.mem_cons_of_mem other h.taken⟩
  | closed hclose =>
    unfold closeGroup? at hclose
    split at hclose
    · cases hclose
    · rename_i o os houters
      obtain rfl := Option.some.inj hclose
      have hstack := h.stack
      rw [houters] at hstack
      refine ⟨hstack.close fun hname hclear => ?_, h.taken⟩
      cases ho : o.name with
      | none => exact hclear.choice
      | some other => exact ⟨fun heq => hname (by rw [ho, heq]), hclear.choice⟩

theorem Guards.read (h : Guards name front s) {n : Nat} {t : Text} (hread : s.read? n t = some s') :
    Guards name front s' :=
  invariant_of_moves (fun _ _ hs hm => hs.move hm) hread h

/-- At the end of the pattern, its first branch begins with what stands in front of the group, and
no other branch has a group of the name. -/
theorem Guards.choice (h : Guards name front s) (houters : s.outers = []) :
    ∃ rest others, s.choice.regex = .alts (.cats (front.regex :: rest) :: others) ∧
      ∀ r ∈ others, r.Unnamed name := by
  have hstack := h.stack
  rw [houters] at hstack
  cases hstack with
  | behind hheaded =>
    generalize hbs : s.branches = bs, his : s.items = is at hheaded
    cases hheaded with
    | first is hne => exact ⟨is.reverse.map Item.regex, [], by simp [Reader.choice, branch, hbs, his]⟩
    | @later rest depth bs is hclear =>
      refine ⟨rest, ((s.branch :: bs).reverse).map Branch.regex, by simp [Reader.choice, hbs], ?_⟩
      intro r hr
      obtain ⟨b, hb, rfl⟩ := List.mem_map.1 hr
      rcases List.mem_cons.1 (List.mem_reverse.1 hb) with rfl | hb
      · exact unnamed_branch (his ▸ hclear.items)
      · exact hclear.branches b hb

end Reader

end TextSieve.Pattern
