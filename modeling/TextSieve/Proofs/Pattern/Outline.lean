import Mathlib.Data.Option.Basic
import TextSieve.Proofs.Pattern.Reading

/-! What flags cannot change. The outline of a reader forgets which characters its items stand for
and all flags but `u` and `x`. It decides what can be read next and how deeply it is nested, so a
text that is a pattern under some flags is one under all flags with the same outline. -/

namespace TextSieve.Pattern

/-- Computations with outlines that agree go on to outlines that agree. -/
theorem map_bind_congr {α β γ δ : Type} {g : α → β} {g' : γ → δ} {o o' : Option α}
    {k k' : α → Option γ} (h : o.map g = o'.map g)
    (hk : ∀ a a', g a = g a' → (k a).map g' = (k' a').map g') :
    (o.bind k).map g' = (o'.bind k').map g' := by
  cases o with
  | none =>
    cases o' with
    | none => rfl
    | some a' => cases h
  | some a =>
    cases o' with
    | none => cases h
    | some a' => exact hk a a' (Option.some.inj h)

theorem map_congr_of_map {α β γ : Type} {g : α → β} {o o' : Option α} {k k' : α → γ}
    (h : o.map g = o'.map g) (hk : ∀ a a', g a = g a' → k a = k' a') : o.map k = o'.map k' := by
  cases o with
  | none =>
    cases o' with
    | none => rfl
    | some a' => cases h
  | some a =>
    cases o' with
    | none => cases h
    | some a' => exact congrArg some (hk a a' (Option.some.inj h))

theorem map_eq_of_isSome {α γ : Type} {o o' : Option α} {k k' : α → γ}
    (h : o.isSome = o'.isSome) (hk : ∀ a a', k a = k' a') : o.map k = o'.map k' := by
  refine map_congr_of_map (g := fun _ => ()) ?_ fun a a' _ => hk a a'
  cases o <;> cases o' <;> first | rfl | cases h

namespace Flags

def outline (f : Flags) : Flags := { unicode := f.unicode, verbose := f.verbose }

variable {f : Flags}

@[simp] theorem outline_outline (f : Flags) : f.outline.outline = f.outline := rfl
@[simp] theorem outline_unicode (f : Flags) : f.outline.unicode = f.unicode := rfl
@[simp] theorem outline_verbose (f : Flags) : f.outline.verbose = f.verbose := rfl

@[simp] theorem outline_skip (t : Text) : f.outline.skip t = f.skip t := rfl

@[simp] theorem outline_braced? (inComment : Bool) (t : Text) :
    f.outline.braced? inComment t = f.braced? inComment t := by
  induction t generalizing inComment with
  | nil => rfl
  | cons c t ih => simp [braced?, ih]

@[simp] theorem outline_take? (inComment : Bool) (n : Nat) (t : Text) :
    f.outline.take? inComment n t = f.take? inComment n t := by
  induction t generalizing inComment n with
  | nil => cases n <;> rfl
  | cons c t ih =>
    cases n with
    | zero => rfl
    | succ n => simp [take?, ih]

theorem outline_set? {g : Flags} (h : f.outline = g.outline) (c : Char) (on : Bool) :
    (f.set? c on).map outline = (g.set? c on).map outline := by
  simp only [outline, Flags.mk.injEq, true_and] at h
  unfold set?
  split <;> simp [outline, h]

theorem outline_withLetters? {g : Flags} (h : f.outline = g.outline) (on : Bool) (used t : Text) :
    (f.withLetters? on used t).map outline = (g.withLetters? on used t).map outline := by
  induction t generalizing f g on used with
  | nil =>
    unfold withLetters?
    split
    · rfl
    · exact congrArg some h
  | cons c t ih =>
    unfold withLetters?
    split
    · rfl
    · split
      · exact ih h _ _
      · exact map_bind_congr (outline_set? h c on) fun f g h => ih h _ _

end Flags

variable {f : Flags}

namespace Atom

def outline : Atom → Atom
  | literal c byte => literal c byte
  | set _ => set .none
  | look _ => look .textStart

theorem outline_negate? (negated : Bool) (s s' : CharSet) :
    (negate? f negated s).isSome = (negate? f.outline negated s').isSome := by
  unfold negate?
  rw [Flags.outline_unicode]
  split
  · split <;> rfl
  · rfl

theorem outline_hex? (width : Nat) (t : Text) : hex? f.outline width t = hex? f width t := by
  simp only [hex?, Flags.outline_skip, Flags.outline_braced?, Flags.outline_take?]

theorem outline_propertyClass? (negated : Bool) (t : Text) :
    (propertyClass? f negated t).map (Prod.map outline id) =
      (propertyClass? f.outline negated t).map (Prod.map outline id) := by
  simp only [propertyClass?, Flags.outline_unicode, Flags.outline_skip, Flags.outline_braced?]
  split
  · rfl
  · refine map_bind_congr rfl fun a a' (h : id a = id a') => ?_
    obtain rfl : a = a' := h
    simp only [Option.map_map]
    exact map_eq_of_isSome (outline_negate? _ _ _) fun _ _ => rfl

theorem outline_shortClass? (negated : Bool) (unicode ascii : CharSet) (rest : Text) :
    ((shortClass? f negated unicode ascii).map (·, rest)).map (Prod.map outline id) =
      ((shortClass? f.outline negated unicode ascii).map (·, rest)).map (Prod.map outline id) := by
  simp only [shortClass?, Option.map_map]
  exact map_eq_of_isSome (outline_negate? _ _ _) fun _ _ => rfl

theorem outline_boundary? (t : Text) :
    (boundary? f t).map (Prod.map outline id) =
      (boundary? f.outline t).map (Prod.map outline id) := by
  unfold boundary?
  simp only [Flags.outline_skip, Flags.outline_braced?]
  split
  · split
    · rfl
    · split
      · refine map_bind_congr rfl fun a a' (h : id a = id a') => ?_
        obtain rfl : a = a' := h
        simp only [Option.map_map]
        exact map_eq_of_isSome rfl fun _ _ => rfl
      · rfl
  · rfl

theorem outline_read? (t : Text) :
    (read? f t).map (Prod.map outline id) = (read? f.outline t).map (Prod.map outline id) := by
  cases t with
  | nil => rfl
  | cons c t =>
    simp only [read?, outline_hex?]
    split
    · rfl
    · split
      iterate 3 rfl
      iterate 2 exact outline_propertyClass? _ t
      iterate 6 exact outline_shortClass? _ _ _ t
      iterate 8 rfl
      · exact outline_boundary? t
      all_goals rfl

end Atom

def NestedSet.outline (n : NestedSet) : NestedSet := ⟨.none, n.depth⟩

namespace Bracket

def outline (b : Bracket) : Bracket where
  negated := b.negated
  opening := b.opening
  items := b.items.map NestedSet.outline
  left := b.left.map fun (n, _) => (n.outline, .intersection)

variable {b : Bracket}

@[simp] theorem outline_outline (b : Bracket) : b.outline.outline = b.outline := by
  simp [outline, NestedSet.outline, Function.comp_def]

theorem outline_push (s : CharSet) (depth : Nat) :
    (b.push s depth).outline = b.outline.push .none depth := rfl

theorem outline_begun : b.begun.outline = b.outline.begun := rfl

theorem outline_opening? (c : Char) :
    (b.opening? c).map outline = (b.outline.opening? c).map outline := by
  have hitems : b.outline.items = [] ↔ b.items = [] := by simp [outline]
  unfold opening?
  have hopening : b.outline.opening = b.opening := rfl
  rw [hopening]
  split
  · simp [outline, NestedSet.outline, Function.comp_def]
  iterate 2
    simp [outline, NestedSet.outline, Function.comp_def]
  iterate 2
    by_cases h : b.items = []
    · rw [if_pos h, if_pos (hitems.2 h)]
      simp [outline_push]
    · rw [if_neg h, if_neg (mt hitems.1 h)]
  · rfl

theorem depth_joined : b.outline.joined.depth = b.joined.depth := by
  unfold joined
  rcases hitems : b.items with _ | ⟨n, _ | ⟨m, items⟩⟩ <;>
    simp [outline, hitems, NestedSet.outline, Function.comp_def]

theorem depth_operand : (b.outline.operand f.outline).depth = (b.operand f).depth := by
  have hjoined : b.outline.joined.depth = b.joined.depth := depth_joined
  have hleft : b.outline.left = b.left.map fun (n, _) => (n.outline, .intersection) := rfl
  unfold operand
  rw [hleft]
  cases b.left with
  | none => exact hjoined
  | some x => simp [hjoined, NestedSet.outline]

theorem outline_operator (op : SetOperator) :
    (b.operator f op).outline = (b.outline.operator f.outline op).outline := by
  simp [operator, outline, NestedSet.outline, ← depth_operand (f := f)]

theorem outline_close? :
    (b.close? f).map NestedSet.outline = (b.outline.close? f.outline).map NestedSet.outline := by
  simp only [close?, Option.map_map]
  refine map_eq_of_isSome (Atom.outline_negate? _ _ _) fun s s' => ?_
  simp [NestedSet.outline, depth_operand]

theorem outline_atom? (c : Char) (t : Text) :
    (atom? f c t).map (Prod.map Atom.outline id) =
      (atom? f.outline c t).map (Prod.map Atom.outline id) := by
  unfold atom?
  split
  · exact Atom.outline_read? t
  · rfl

theorem outline_literal? (a : Atom) : literal? f.outline a.outline = literal? f a := by
  cases a <;> rfl

theorem outline_item? (a : Atom) : (item? f.outline a.outline).isSome = (item? f a).isSome := by
  cases a <;> simp [item?, Atom.outline, literal?]

/-- Which set an entry is does not matter, only where it ends. -/
theorem outline_entry (c : Char) (t : Text) :
    (Bracket.entry? f c t).map Prod.snd = (Bracket.entry? f.outline c t).map Prod.snd := by
  unfold entry?
  refine map_bind_congr (outline_atom? c t) ?_
  rintro ⟨first, rest⟩ ⟨first', rest'⟩ h
  obtain ⟨hfirst, rfl⟩ : first.outline = first'.outline ∧ rest = rest' := by simpa using h
  have hitem : (item? f first).isSome = (item? f.outline first').isSome := by
    rw [← outline_item? first, hfirst]
    exact outline_item? (f := f.outline) first'
  have hliteral : ∀ {a a' : Atom}, a.outline = a'.outline →
      literal? f a = literal? f.outline a' := by
    intro a a' ha
    rw [← outline_literal? a, ha]
    exact outline_literal? (f := f.outline) a'
  have hdash : ∀ t, afterDash f.outline t = afterDash f t := fun t => rfl
  simp only [Flags.outline_skip, hdash]
  split
  · rfl
  · split
    · simp only [Option.map_map]
      exact map_eq_of_isSome hitem fun _ _ => rfl
    · split
      · rfl
      · refine map_bind_congr (outline_atom? _ _) ?_
        rintro ⟨last, rest⟩ ⟨last', rest'⟩ h
        obtain ⟨hlast, rfl⟩ : last.outline = last'.outline ∧ rest = rest' := by simpa using h
        simp only [hliteral hfirst, hliteral hlast]
  · simp only [Option.map_map]
    exact map_eq_of_isSome hitem fun _ _ => rfl

theorem outline_namedClass? (t : Text) :
    (namedClass? f t).map (Prod.map Option.isSome id) =
      (namedClass? f.outline t).map (Prod.map Option.isSome id) := by
  unfold namedClass?
  split
  · dsimp only
    split
    · simp only [Option.map_map]
      refine congrArg (Option.map · _) (funext fun s => ?_)
      simp [Atom.outline_negate?  (f := f) _ (Atom.fold f s) (Atom.fold f.outline s)]
    · rfl
  · rfl

end Bracket

def Item.outline : Item → Item
  | term _ depth => term .empty depth
  | setting => setting

def Branch.outline (b : Branch) : Branch := ⟨.empty, b.depth⟩

def Outer.outline (o : Outer) : Outer where
  flags := o.flags.outline
  name := o.name
  branches := o.branches.map Branch.outline
  items := o.items.map Item.outline

@[simp] theorem Item.outline_term (r : Regex) (depth : Nat) :
    (term r depth).outline = term .empty depth := rfl

@[simp] theorem Item.outline_setting : setting.outline = setting := rfl

@[simp] theorem Item.outline_outline (i : Item) : i.outline.outline = i.outline := by
  cases i <;> rfl

@[simp] theorem Item.outline_depth (i : Item) : i.outline.depth = i.depth := by
  cases i <;> rfl

@[simp] theorem Branch.outline_outline (b : Branch) : b.outline.outline = b.outline := rfl

@[simp] theorem Branch.outline_depth (b : Branch) : b.outline.depth = b.depth := rfl

@[simp] theorem Outer.outline_outline (o : Outer) : o.outline.outline = o.outline := by
  simp [outline, Function.comp_def]

namespace Reader

def outline (s : Reader) : Reader where
  flags := s.flags.outline
  branches := s.branches.map Branch.outline
  items := s.items.map Item.outline
  outers := s.outers.map Outer.outline
  names := s.names
  brackets := s.brackets.map Bracket.outline

variable {s : Reader}

@[simp] theorem outline_outline (s : Reader) : s.outline.outline = s.outline := by
  simp [outline, Function.comp_def]

@[simp] theorem outline_flags (s : Reader) : s.outline.flags = s.flags.outline := rfl

@[simp] theorem outline_names (s : Reader) : s.outline.names = s.names := rfl

theorem outline_push (r : Regex) (depth : Nat) :
    (s.push r depth).outline = s.outline.push .empty depth := rfl

theorem outline_update (branches : List Branch) (items : List Item) :
    ({ s with branches := branches, items := items } : Reader).outline =
      { s.outline with
        branches := branches.map Branch.outline, items := items.map Item.outline } := rfl

theorem outline_inBracket (b : Bracket) (outer : List Bracket) :
    (s.inBracket b outer).outline = s.outline.inBracket b.outline (outer.map Bracket.outline) := rfl

theorem outline_branch : s.branch.outline = s.outline.branch.outline := by
  simp [branch, outline, Branch.outline, Function.comp_def]

theorem depth_outline_choice : s.outline.choice.depth = s.choice.depth := by
  have hbranch : s.branch.outline.depth = s.outline.branch.outline.depth :=
    congrArg Branch.depth outline_branch
  have hbranches : s.outline.branches = s.branches.map Branch.outline := rfl
  simp only [Branch.outline_depth] at hbranch
  simp only [choice, List.map_cons, hbranch, hbranches, List.map_map]
  rfl

theorem outline_repeat? (low : Nat) (high : Option Nat) (lazy : Bool) :
    (s.repeat? low high lazy).map outline = (s.outline.repeat? low high lazy).map outline := by
  unfold repeat?
  rcases hitems : s.items with _ | ⟨_ | _, items⟩ <;>
    simp [outline, hitems, Function.comp_def]

theorem outline_pair {α : Type} {v v' : Option Reader} (h : v.map outline = v'.map outline)
    (a : α) :
    (v.map (·, a)).map (Prod.map outline id) = (v'.map (·, a)).map (Prod.map outline id) := by
  simp only [Option.map_map]
  exact map_congr_of_map h fun s t hst => Prod.ext hst rfl

theorem outline_sign? (low : Nat) (high : Option Nat) (rest : Text) :
    (s.sign? low high rest).map (Prod.map outline id) =
      (s.outline.sign? low high rest).map (Prod.map outline id) :=
  outline_pair (outline_repeat? low high _) _

theorem outline_counted? (rest : Text) :
    (s.counted? rest).map (Prod.map outline id) =
      (s.outline.counted? rest).map (Prod.map outline id) := by
  simp only [counted?, outline_flags, Flags.outline_braced?, Flags.outline_skip]
  refine map_bind_congr rfl fun x x' (h : id x = id x') => ?_
  obtain rfl : x = x' := h
  refine map_bind_congr rfl fun y y' (h : id y = id y') => ?_
  obtain rfl : y = y' := h
  split
  · exact outline_pair (outline_repeat? _ _ _) _
  · exact outline_pair (outline_repeat? _ _ _) _

theorem outline_closeGroup? : s.closeGroup?.map outline = s.outline.closeGroup?.map outline := by
  have houters : s.outline.outers = s.outers.map Outer.outline := rfl
  unfold closeGroup?
  rw [houters]
  cases s.outers with
  | nil => rfl
  | cons o outers =>
    simp only [List.map_cons, depth_outline_choice]
    simp [outline, Outer.outline, Function.comp_def]

theorem outline_openNamed? (t : Text) :
    (s.openNamed? t).map (Prod.map outline id) =
      (s.outline.openNamed? t).map (Prod.map outline id) := by
  have hnames : s.outline.names = s.names := rfl
  unfold openNamed?
  rw [hnames]
  split
  · split
    · simp [openGroup, outline, Outer.outline, Function.comp_def]
    · rfl
  · rfl

theorem outline_openFlags? (t : Text) :
    (s.openFlags? t).map (Prod.map outline id) =
      (s.outline.openFlags? t).map (Prod.map outline id) := by
  have hletters : ∀ letters, (s.flags.withLetters? true [] letters).map Flags.outline =
      (s.outline.flags.withLetters? true [] letters).map Flags.outline := fun letters =>
    Flags.outline_withLetters? (Flags.outline_outline s.flags).symm true [] letters
  unfold openFlags?
  split
  · split
    · rfl
    · simp only [Option.map_map]
      refine map_congr_of_map (hletters _) fun g g' hg => ?_
      simp [outline, hg, Function.comp_def]
  · simp only [Option.map_map]
    refine map_congr_of_map (hletters _) fun g g' hg => ?_
    simp [openGroup, outline, Outer.outline, hg, Function.comp_def]
  · rfl

theorem outline_open? (t : Text) :
    (s.open? t).map (Prod.map outline id) = (s.outline.open? t).map (Prod.map outline id) := by
  unfold open?
  simp only [outline_flags, Flags.outline_skip]
  split
  iterate 4 rfl
  · exact outline_openNamed? _
  · exact outline_openNamed? _
  · exact outline_openFlags? _
  · simp [openGroup, outline, Outer.outline, Function.comp_def]

theorem isSome_literal? (f : Flags) (c : Char) (byte : Bool) :
    (literal? f c byte).isSome = !(byte && !f.unicode && decide (c.toNat ≥ 0x80)) := by
  unfold literal?
  split
  · rename_i h
    rw [h]
    rfl
  · rename_i h
    rw [Bool.not_eq_true] at h
    rw [h]
    split_ifs <;> rfl

theorem isSome_dot? (f : Flags) : (dot? f).isSome = f.unicode := by
  unfold dot?
  cases f.unicode
  · rfl
  · rw [if_neg (by simp)]
    split_ifs <;> rfl

theorem outline_atom? {a a' : Atom} (h : a.outline = a'.outline) :
    (atom? f a).isSome = (atom? f.outline a').isSome := by
  cases a <;> cases a' <;> simp only [Atom.outline, reduceCtorEq, Atom.literal.injEq] at h
  · obtain ⟨rfl, rfl⟩ := h
    simp only [atom?, isSome_literal?, Flags.outline_unicode]
  · rfl
  · rfl

theorem outline_outside? (c : Char) (rest : Text) :
    (s.outside? c rest).map (Prod.map outline id) =
      (s.outline.outside? c rest).map (Prod.map outline id) := by
  have hpush : ∀ (r r' : Regex) (n : Nat),
      Prod.map outline id (s.push r 0, n) = Prod.map outline id (s.outline.push r' 0, n) := by
    intro r r' n
    simp [outline_push]
  unfold outside?
  split
  · simp only [Option.map_map]
    refine map_congr_of_map (outline_open? rest) fun x x' h => ?_
    obtain ⟨hs, hafter⟩ := Prod.ext_iff.1 h
    exact Prod.ext hs (congrArg (fun t : Text => rest.length - t.length) hafter)
  · exact outline_pair outline_closeGroup? 0
  · refine congrArg some (Prod.ext ?_ rfl)
    have hbranches : s.outline.branches.map Branch.outline = s.branches.map Branch.outline := by
      simp [outline, Function.comp_def]
    simp only [Prod.map_fst, outline_update, List.map_cons, ← outline_branch, hbranches,
      outline_outline]
  · simp [outline, Function.comp_def]
  iterate 3 exact outline_sign? _ _ rest
  · exact outline_counted? rest
  · refine map_bind_congr (Atom.outline_read? rest) ?_
    rintro ⟨a, after⟩ ⟨a', after'⟩ h
    obtain ⟨ha, rfl⟩ : a.outline = a'.outline ∧ after = after' := by simpa using h
    simp only [Option.map_map]
    exact map_eq_of_isSome (outline_atom? ha) fun r r' => hpush r r' _
  · simp only [Option.map_map]
    exact map_eq_of_isSome (by simp [isSome_dot?]) fun r r' => hpush r r' 0
  · exact congrArg some (hpush _ _ 0)
  · exact congrArg some (hpush _ _ 0)
  · simp only [Option.map_map]
    exact map_eq_of_isSome (by simp [isSome_literal?]) fun r r' => hpush r r' 0

theorem outline_closeBracket? (b : Bracket) (outer : List Bracket) :
    (s.closeBracket? b outer).map outline =
      (s.outline.closeBracket? b.outline (outer.map Bracket.outline)).map outline := by
  unfold closeBracket?
  simp only [Option.map_map]
  refine map_congr_of_map Bracket.outline_close? fun n n' h => ?_
  have hdepth : n.outline.depth = n'.outline.depth := congrArg NestedSet.depth h
  simp only [NestedSet.outline] at hdepth
  cases outer with
  | nil => simp [push, outline, hdepth, Function.comp_def]
  | cons o outer =>
    simp [outline_inBracket, Bracket.outline_push, hdepth, Function.comp_def]

theorem outline_inside? (b : Bracket) (outer : List Bracket) (c : Char) (rest : Text) :
    (s.inside? b outer c rest).map (Prod.map outline id) =
      (s.outline.inside? b.outline (outer.map Bracket.outline) c rest).map
        (Prod.map outline id) := by
  have hbracket : ∀ {b b' : Bracket}, b.outline = b'.outline →
      (s.inBracket b outer).outline =
        (s.outline.inBracket b' (outer.map Bracket.outline)).outline := by
    intro b b' h
    simp [outline_inBracket, h, Function.comp_def]
  unfold inside?
  split
  · have hclass := Bracket.outline_namedClass? (f := s.flags) rest
    rw [outline_flags]
    cases h : Bracket.namedClass? s.flags rest <;>
      cases h' : Bracket.namedClass? s.flags.outline rest <;>
      simp only [h, h', Option.map_none, Option.map_some, reduceCtorEq] at hclass
    · simp [outline_inBracket, Bracket.outline_begun, Function.comp_def]
    · rename_i x x'
      obtain ⟨hset, hafter⟩ := Prod.ext_iff.1 (Option.some.inj hclass)
      obtain ⟨set, after⟩ := x
      obtain ⟨set', after'⟩ := x'
      obtain rfl : after = after' := hafter
      cases set <;> cases set' <;> try first | rfl | cases hset
      exact congrArg some (Prod.ext (hbracket (by simp [Bracket.outline_push])) rfl)
  · exact outline_pair (outline_closeBracket? b outer) 0
  iterate 3
    exact congrArg some (Prod.ext (hbracket (Bracket.outline_operator _)) rfl)
  · simp only [Option.map_map]
    refine map_congr_of_map (Bracket.outline_entry _ _) fun x x' h => ?_
    refine Prod.ext (hbracket ?_) (congrArg (fun t : Text => _ - t.length) h)
    simp [Bracket.outline_push]

theorem outline_step? (c : Char) (rest : Text) :
    (s.step? c rest).map (Prod.map outline id) =
      (s.outline.step? c rest).map (Prod.map outline id) := by
  have hbrackets : s.outline.brackets = s.brackets.map Bracket.outline := rfl
  unfold step?
  simp only [outline_flags, Flags.outline_verbose]
  by_cases hblank : (s.flags.verbose && Unicode.isBlank c) = true
  · simp only [hblank, if_true, Option.map_some, Prod.map_apply, outline_outline]
  · simp only [hblank]
    by_cases hsign : (s.flags.verbose && c == '#') = true
    · simp only [hsign, if_true, if_false, Bool.false_eq_true, Option.map_some, Prod.map_apply,
        outline_outline]
    · simp only [hsign, if_false, Bool.false_eq_true, hbrackets]
      cases s.brackets with
      | nil => exact outline_outside? c rest
      | cons b outer =>
        have hopening := Bracket.outline_opening? (b := b) c
        simp only [List.map_cons]
        cases ho : b.opening? c <;> cases ho' : b.outline.opening? c <;>
          simp only [ho, ho', Option.map_none, Option.map_some, reduceCtorEq] at hopening
        · exact outline_inside? b outer c rest
        · simp [outline_inBracket, Option.some.inj hopening, Function.comp_def]

/-- What has the same outline is read to the same outline. -/
theorem outline_read? {t : Reader} (h : s.outline = t.outline) (n : Nat) (text : Text) :
    (s.read? n text).map outline = (t.read? n text).map outline := by
  induction text generalizing s t n with
  | nil => simpa using h
  | cons c rest ih =>
    cases n with
    | succ n => exact ih h n
    | zero =>
      rw [read?_cons, read?_cons]
      refine map_bind_congr (g := Prod.map outline id) ?_ ?_
      · rw [outline_step?, h, ← outline_step?]
      · rintro ⟨s, n⟩ ⟨t, m⟩ hst
        obtain ⟨hst, rfl⟩ := Prod.ext_iff.1 hst
        exact ih hst n

end Reader

end TextSieve.Pattern
