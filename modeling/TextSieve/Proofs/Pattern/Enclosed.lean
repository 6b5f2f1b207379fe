import TextSieve.Proofs.Pattern.Lookahead
import TextSieve.Proofs.Pattern.Reading

/-! A pattern inside a group. A text that is a pattern on its own is read in a branch of a group as
it is read alone, up to the sign that closes the branch. Only a comment can run past its end, and
only a name that is taken can be refused. -/

namespace TextSieve.Pattern.Reader

/-- What surrounds a pattern: the branches before it in its own group, the groups around it and the
names that are taken. -/
structure Frame where
  branches : List Branch
  outers : List Outer
  names : List Text

/-- The branches of a group inside the groups `outers`; those of the frame belong to the lowest. -/
def lowered (bs : List Branch) (outers : List Outer) (branches : List Branch) : List Branch :=
  if outers = [] then branches ++ bs else branches

def onto (bs : List Branch) : List Outer → List Outer
  | [] => []
  | o :: outers => { o with branches := lowered bs outers o.branches } :: onto bs outers

def enclosed (e : Frame) (s : Reader) : Reader :=
  { s with
    branches := lowered e.branches s.outers s.branches
    outers := onto e.branches s.outers ++ e.outers
    names := s.names ++ e.names }

def Frame.Clashes (e : Frame) (s : Reader) : Prop := ∃ name ∈ s.names, name ∈ e.names

/-- A reading goes on in the enclosed reader as it did, unless a name is taken. -/
def Kept {α : Type} (e : Frame) (shift : α → α) (p p' : Option (Reader × α)) : Prop :=
  ∀ s a, p = some (s, a) → p' = some (s.enclosed e, shift a) ∨ p' = none ∧ e.Clashes s

variable {e : Frame} {z : Text} {s s' : Reader}

@[simp] theorem lowered_nil (bs branches : List Branch) :
    lowered bs [] branches = branches ++ bs := rfl

@[simp] theorem lowered_cons (bs : List Branch) (o : Outer) (outers : List Outer)
    (branches : List Branch) : lowered bs (o :: outers) branches = branches := rfl

theorem cons_lowered (bs : List Branch) (outers : List Outer) (b : Branch)
    (branches : List Branch) :
    b :: lowered bs outers branches = lowered bs outers (b :: branches) := by
  cases outers <;> rfl

@[simp] theorem enclosed_flags : (s.enclosed e).flags = s.flags := rfl
@[simp] theorem enclosed_brackets : (s.enclosed e).brackets = s.brackets := rfl
@[simp] theorem enclosed_branch : (s.enclosed e).branch = s.branch := rfl

/-- The reader at the end of a pattern, inside a frame. -/
theorem enclosed_of_closed (h : s.outers = []) :
    s.enclosed e = { s with
      branches := s.branches ++ e.branches
      outers := e.outers
      names := s.names ++ e.names } := by
  simp [enclosed, h, onto]

theorem enclosed_bar :
    { s.enclosed e with branches := s.branch :: (s.enclosed e).branches, items := [] } =
      enclosed e { s with branches := s.branch :: s.branches, items := [] } := by
  simp only [enclosed, cons_lowered]

theorem enclosed_repeat? (low : Nat) (high : Option Nat) (lazy : Bool) :
    (s.enclosed e).repeat? low high lazy =
      (s.repeat? low high lazy).map (enclosed e) := by
  unfold repeat?
  have hitems : (s.enclosed e).items = s.items := rfl
  rw [hitems]
  split <;> rfl

theorem enclosed_closeBracket? (b : Bracket) (outer : List Bracket) :
    (s.enclosed e).closeBracket? b outer =
      (s.closeBracket? b outer).map (enclosed e) := by
  unfold closeBracket?
  rw [Option.map_map]
  refine congrArg (fun g => Option.map g _) (funext fun n => ?_)
  cases outer <;> rfl

theorem enclosed_closeGroup? (h : s.closeGroup? = some s') :
    (s.enclosed e).closeGroup? = some (s'.enclosed e) := by
  unfold closeGroup? at h ⊢
  cases houters : s.outers with
  | nil => simp [houters] at h
  | cons o outers =>
    simp only [houters] at h
    obtain rfl := Option.some.inj h
    have henclosed : (s.enclosed e).outers =
        { o with branches := lowered e.branches outers o.branches } ::
          (onto e.branches outers ++ e.outers) := by
      simp [enclosed, houters, onto]
    have hchoice : (s.enclosed e).choice = s.choice := by
      have hbranches : (s.enclosed e).branches = s.branches := by simp [enclosed, houters]
      simp only [choice, enclosed_branch, hbranches]
    simp only [henclosed, hchoice]
    rfl

/-- How much was taken does not depend on what follows. -/
theorem upTo_append_append (rest after z : Text) (s : Reader) :
    upTo (rest ++ z) s (after ++ z) = upTo rest s after := by
  simp [upTo, Nat.add_sub_add_right]

namespace Kept

variable {α : Type} {shift : α → α} {p p' q q' : Option (Reader × α)}

theorem none : Kept e shift (.none : Option (Reader × α)) p' := by
  intro s a h
  cases h

theorem some (s : Reader) (a : α) :
    Kept e shift (some (s, a)) (some (s.enclosed e, shift a)) := by
  intro s' a' h
  obtain ⟨rfl, rfl⟩ := Prod.mk.inj (Option.some.inj h)
  exact .inl rfl

theorem map (v : Option Reader) (a : α) :
    Kept e shift (v.map (·, a)) ((v.map (enclosed e)).map (·, shift a)) := by
  cases v with
  | none => exact Kept.none
  | some s => exact Kept.some s a

theorem value {β : Type} (v : Option β) (g : β → Reader) (a : α) :
    Kept e shift (v.map fun x => (g x, a))
      (v.map fun x => ((g x).enclosed e, shift a)) := by
  cases v with
  | none => exact Kept.none
  | some x => exact Kept.some (g x) a

end Kept

theorem kept_openNamed (t : Text) :
    Kept e (· ++ z) (s.openNamed? t) ((s.enclosed e).openNamed? (t ++ z)) := by
  unfold openNamed?
  rcases hs : t.span (· != '>') with ⟨name, _ | ⟨c, rest⟩⟩
  · exact .none
  · rw [span_append hs (by simp) z]
    by_cases hc : c = '>'
    · subst hc
      by_cases hname : (isName name && !(s.enclosed e).names.contains name) = true
      · have hname' : (isName name && !s.names.contains name) = true := by
          simp [enclosed] at hname ⊢
          exact ⟨hname.1, hname.2.1⟩
        simp only [List.cons_append, hname, hname', if_true]
        exact .some _ rest
      · intro s' a h
        simp only at h
        split at h
        · rename_i hnew
          obtain ⟨rfl, rfl⟩ := Prod.mk.inj (Option.some.inj h)
          have htaken : name ∈ e.names := by
            by_contra hfree
            simp only [Bool.and_eq_true, Bool.not_eq_true', List.contains_eq_mem,
              decide_eq_false_iff_not] at hnew hname
            exact hname ⟨hnew.1, by simp [enclosed, hnew.2, hfree]⟩
          simp only [List.cons_append, hname]
          exact .inr ⟨rfl, name, List.mem_cons_self .., htaken⟩
        · cases h
    · split
      · simp_all
      · exact .none

theorem kept_openFlags (t : Text) :
    Kept e (· ++ z) (s.openFlags? t) ((s.enclosed e).openFlags? (t ++ z)) := by
  unfold openFlags?
  rcases hs : t.span fun c => c != ')' && c != ':' with ⟨letters, _ | ⟨c, rest⟩⟩
  · exact .none
  · rw [span_append hs (by simp) z]
    by_cases hc : c = ')'
    · subst hc
      by_cases hletters : letters = []
      · simp only [hletters, if_true]
        exact .none
      · simp only [List.cons_append, hletters, if_false]
        exact .value _ _ rest
    · by_cases hc' : c = ':'
      · subst hc'
        exact .value _ (fun f => s.openGroup f none) rest
      · split
        · simp_all
        · simp_all
        · exact .none

theorem open?_plain {t : Text} (h : (s.flags.skip t).head? ≠ some '?') :
    s.open? t = some (s.openGroup s.flags none, s.flags.skip t) := by
  unfold open?
  split
  all_goals first | rfl | simp_all

theorem open?_named {t x : Text} (h : s.flags.skip t = '?' :: 'P' :: '<' :: x) :
    s.open? t = s.openNamed? x := by
  simp [open?, h]

theorem open?_angle {t x : Text} {c : Char} (h : s.flags.skip t = '?' :: '<' :: c :: x)
    (hc : c ≠ '=') (hc' : c ≠ '!') : s.open? t = s.openNamed? (c :: x) := by
  simp [open?, h, hc, hc']

theorem open?_flags {t x : Text} {c : Char} (h : s.flags.skip t = '?' :: c :: x) (hc : c ≠ '=')
    (hc' : c ≠ '!') (hangle : c ≠ '<') (hname : c = 'P' → x.head? ≠ some '<') :
    s.open? t = s.openFlags? (c :: x) := by
  unfold open?
  rw [h]
  split <;> grind

/-- What follows the parenthesis of a group that is opened. -/
theorem shape_of_open? {t : Text} {x : Reader × Text} (h : s.open? t = some x) :
    (s.flags.skip t).head? ≠ some '?' ∨ (∃ y, s.flags.skip t = '?' :: 'P' :: '<' :: y) ∨
      (∃ c y, s.flags.skip t = '?' :: '<' :: c :: y ∧ c ≠ '=' ∧ c ≠ '!') ∨
      ∃ c y, s.flags.skip t = '?' :: c :: y ∧ c ≠ '=' ∧ c ≠ '!' ∧ c ≠ '<' ∧
        (c = 'P' → y.head? ≠ some '<') := by
  rcases ht : s.flags.skip t with _ | ⟨a, _ | ⟨c, y⟩⟩
  · exact .inl (by simp)
  · by_cases ha : a = '?'
    · subst ha
      simp [open?, ht, openFlags?] at h
    · exact .inl (by simpa using ha)
  · by_cases ha : a = '?'
    · subst ha
      by_cases hlook : c = '=' ∨ c = '!'
      · rcases hlook with rfl | rfl <;> simp [open?, ht] at h
      · obtain ⟨hc, hc'⟩ := not_or.1 hlook
        by_cases hangle : c = '<'
        · subst hangle
          cases y with
          | nil => simp [open?, ht, openNamed?] at h
          | cons d y =>
            refine .inr (.inr (.inl ⟨d, y, rfl, ?_, ?_⟩))
            all_goals
              rintro rfl
              simp [open?, ht] at h
        · by_cases hname : c = 'P' ∧ y.head? = some '<'
          · obtain ⟨rfl, hy⟩ := hname
            obtain ⟨y, rfl⟩ := List.head?_eq_some_iff.1 hy
            exact .inr (.inl ⟨y, rfl⟩)
          · exact .inr (.inr (.inr
              ⟨c, y, rfl, hc, hc', hangle, fun hP hy => hname ⟨hP, hy⟩⟩))
    · exact .inl (by simpa using ha)

variable (e) in
theorem kept_open (hz : Shuts z) {t after : Text} (h : s.open? t = some (s', after))
    (hend : after = [] → s'.outers = []) :
    (s.enclosed e).open? (t ++ z) = some (s'.enclosed e, after ++ z) ∨
      (s.enclosed e).open? (t ++ z) = none ∧ e.Clashes s' := by
  have hskip : s.flags.skip t ≠ [] →
      (s.enclosed e).flags.skip (t ++ z) = s.flags.skip t ++ z := fun hne => by
    rw [enclosed_flags, skip_append hne]
  rcases shape_of_open? h with hplain | ⟨x, ht⟩ | ⟨c, x, ht, hc, hc'⟩ |
      ⟨c, x, ht, hc, hc', hangle, hname⟩
  · rw [open?_plain hplain] at h
    obtain ⟨rfl, rfl⟩ := Prod.mk.inj (Option.some.inj h)
    have hne : s.flags.skip t ≠ [] := fun hnil => by
      simpa [openGroup] using hend hnil
    have ht' := hskip hne
    have hplain' : (s.flags.skip t ++ z).head? ≠ some '?' :=
      head?_append_ne hplain (hz.head?_ne (by decide) (by decide) (by decide))
    rw [open?_plain (by rw [ht']; exact hplain'), ht']
    exact .inl rfl
  · have ht' := hskip (by simp [ht])
    rw [open?_named ht] at h
    rw [open?_named (by rw [ht', ht]; rfl)]
    exact kept_openNamed x _ _ h
  · have ht' := hskip (by simp [ht])
    rw [open?_angle ht hc hc'] at h
    rw [open?_angle (by rw [ht', ht]; rfl) hc hc']
    exact kept_openNamed (c :: x) _ _ h
  · have ht' := hskip (by simp [ht])
    have hname' : c = 'P' → (x ++ z).head? ≠ some '<' := fun hP =>
      head?_append_ne (hname hP) (hz.head?_ne (by decide) (by decide) (by decide))
    rw [open?_flags ht hc hc' hangle hname] at h
    rw [open?_flags (by rw [ht', ht]; rfl) hc hc' hangle hname']
    exact kept_openFlags (c :: x) _ _ h

theorem kept_sign (hz : Shuts z) (low : Nat) (high : Option Nat) (rest : Text) :
    Kept e id (s.sign? low high rest) ((s.enclosed e).sign? low high (rest ++ z)) := by
  have hlazy : ((rest ++ z).head? == some '?') = (rest.head? == some '?') := by
    cases rest with
    | nil => simpa using hz.head?_ne (c := '?') (by decide) (by decide) (by decide)
    | cons c rest => rfl
  unfold sign?
  simp only [hlazy, enclosed_repeat?]
  exact .map _ _

theorem flags_of_repeat? {low : Nat} {high : Option Nat} {lazy : Bool}
    (h : s.repeat? low high lazy = some s') : s'.flags = s.flags := by
  unfold repeat? at h
  split at h
  · obtain rfl := Option.some.inj h
    rfl
  · cases h

/-- The text after a brace is the end of the text before it. -/
theorem drop_of_braced? {f : Flags} {inComment : Bool} {t content after : Text}
    (h : f.braced? inComment t = some (content, after)) :
    t.drop (t.length - after.length) = after := by
  have hsplit : ∃ x, t = x ++ after := by
    induction t generalizing inComment content with
    | nil => cases h
    | cons c t ih =>
      have hnext : ∀ {b : Bool} {content : Text}, f.braced? b t = some (content, after) →
          ∃ x, c :: t = x ++ after := by
        intro b content h
        obtain ⟨x, hx⟩ := ih h
        exact ⟨c :: x, by rw [hx]; rfl⟩
      unfold Flags.braced? at h
      split at h
      · exact hnext h
      · split at h
        · exact hnext h
        · split at h
          · exact hnext h
          · split at h
            · obtain ⟨-, rfl⟩ := Prod.mk.inj (Option.some.inj h)
              exact ⟨[c], rfl⟩
            · obtain ⟨⟨content', rest⟩, hrest, he⟩ := Option.map_eq_some_iff.1 h
              obtain ⟨-, rfl⟩ := Prod.mk.inj he
              exact hnext hrest
  obtain ⟨x, rfl⟩ := hsplit
  simp

/-- A counted repetition, unless a comment behind it goes on in the text that follows. -/
theorem kept_counted (hz : Shuts z) {rest : Text} {n : Nat} (h : s.counted? rest = some (s', n))
    (hcomment : s'.flags.verbose = true → Flags.skipBlank false (rest.drop n) = [] →
      (Flags.skipBlank true z).head? ≠ some '?') :
    (s.enclosed e).counted? (rest ++ z) = some (s'.enclosed e, n) := by
  unfold counted? at h ⊢
  obtain ⟨⟨content, after⟩, hbraced, h⟩ := Option.bind_eq_some_iff.1 h
  obtain ⟨⟨low, high⟩, hbounds, h⟩ := Option.bind_eq_some_iff.1 h
  rw [enclosed_flags, extends_braced false rest content after hbraced]
  simp only [Option.bind_some, hbounds]
  have hrepeat : ∀ {lazy : Bool} {after : Text},
      (s.repeat? low high lazy).map (upTo rest · after) = some (s', n) →
        ((s.enclosed e).repeat? low high lazy).map (upTo (rest ++ z) · (after ++ z)) =
          some (s'.enclosed e, n) := by
    intro lazy after h
    obtain ⟨m, hm, h⟩ := Option.map_eq_some_iff.1 h
    obtain ⟨rfl, rfl⟩ := Prod.mk.inj h
    rw [enclosed_repeat?, hm, Option.map_some, Option.map_some, upTo_append_append]
    rfl
  cases hskip : s.flags.skip after with
  | nil =>
    rw [hskip] at h
    obtain ⟨m, hm, he⟩ := Option.map_eq_some_iff.1 h
    obtain ⟨rfl, rfl⟩ := Prod.mk.inj he
    rw [flags_of_repeat? hm, drop_of_braced? hbraced] at hcomment
    have hne : (s.flags.skip (after ++ z)).head? ≠ some '?' :=
      skip_append_of_nil hz hskip fun hverbose =>
        hcomment hverbose (by simpa [Flags.skip, hverbose] using hskip)
    split
    · rename_i hx
      rw [hx] at hne
      exact absurd rfl hne
    · exact hrepeat h
  | cons c x =>
    rw [hskip] at h
    rw [skip_append (by simp [hskip]), hskip]
    by_cases hc : c = '?'
    · subst hc
      exact hrepeat h
    · simp only [List.cons_append] at h ⊢
      split at h
      · rename_i hx
        exact absurd (List.cons_eq_cons.1 hx).1 hc
      · split
        · rename_i hx
          exact absurd (List.cons_eq_cons.1 hx).1 hc
        · exact hrepeat h

theorem kept_closeBracket (b : Bracket) (outer : List Bracket) (n : Nat) :
    Kept e id ((s.closeBracket? b outer).map (·, n))
      (((s.enclosed e).closeBracket? b outer).map (·, n)) := by
  rw [enclosed_closeBracket?]
  exact .map _ n

variable (e s) in
theorem kept_entry (hz : Shuts z) (b : Bracket) (outer : List Bracket) (c : Char) (rest : Text) :
    Kept e id
      ((Bracket.entry? s.flags c rest).map fun (set, after) =>
        upTo rest (s.inBracket (b.push set 0) outer) after)
      ((Bracket.entry? s.flags c (rest ++ z)).map fun (set, after) =>
        upTo (rest ++ z) ((s.enclosed e).inBracket (b.push set 0) outer) after) := by
  intro s' n h
  obtain ⟨⟨set, after⟩, hentry, h⟩ := Option.map_eq_some_iff.1 h
  obtain ⟨rfl, rfl⟩ := Prod.mk.inj h
  rw [Bracket.extends_entry hz c rest set after hentry]
  simp only [Option.map_some, upTo_append_append]
  exact .inl rfl

theorem kept_inside (hz : Shuts z) (b : Bracket) (outer : List Bracket) (c : Char) (rest : Text) :
    Kept e id (s.inside? b outer c rest)
      ((s.enclosed e).inside? b outer c (rest ++ z)) := by
  by_cases hopen : c = '['
  · subst hopen
    unfold inside?
    simp only [enclosed_flags, Bracket.namedClass?_append hz]
    cases Bracket.namedClass? s.flags rest with
    | none => exact .some _ _
    | some x =>
      obtain ⟨_ | set, after⟩ := x
      · exact .none
      · simp only [Option.map_some, upTo_append_append]
        exact .some _ _
  · by_cases hclose : c = ']'
    · subst hclose
      unfold inside?
      exact kept_closeBracket _ _ _
    · cases rest with
      | nil =>
        have hnone : s.inside? b outer c [] = none := by
          unfold inside?
          split <;> simp_all [Bracket.entry?_nil]
        rw [hnone]
        exact .none
      | cons d rest =>
        have hentry := kept_entry e s hz b outer c (d :: rest)
        rw [List.cons_append] at hentry ⊢
        unfold inside?
        split
        · exact absurd rfl hopen
        · exact absurd rfl hclose
        iterate 3
          rename_i hx
          obtain ⟨rfl, rfl⟩ := List.cons_eq_cons.1 hx
          exact .some _ _
        · split
          · exact absurd rfl hopen
          · exact absurd rfl hclose
          iterate 3 simp_all
          · exact hentry

variable (e) in
/-- A piece outside brackets that neither opens a group nor counts rounds. -/
theorem kept_outside (hz : Shuts z) {c : Char} (hc : c ≠ '(') (hbrace : c ≠ '\x7b') (rest : Text) :
    Kept e id (s.outside? c rest) ((s.enclosed e).outside? c (rest ++ z)) := by
  unfold outside?
  split
  · exact absurd rfl hc
  · intro s' n h
    obtain ⟨m, hclose, h⟩ := Option.map_eq_some_iff.1 h
    obtain ⟨rfl, rfl⟩ := Prod.mk.inj h
    exact .inl (by rw [enclosed_closeGroup? hclose]; rfl)
  · rw [enclosed_branch, enclosed_bar]
    exact .some _ _
  · exact .some _ _
  iterate 3 exact kept_sign hz _ _ rest
  · exact absurd rfl hbrace
  · intro s' n h
    obtain ⟨⟨a, after⟩, hread, h⟩ := Option.bind_eq_some_iff.1 h
    obtain ⟨r, hatom, h⟩ := Option.map_eq_some_iff.1 h
    obtain ⟨rfl, rfl⟩ := Prod.mk.inj h
    rw [enclosed_flags, Atom.extends_read hz rest a after hread]
    simp only [Option.bind_some, hatom, Option.map_some, upTo_append_append]
    exact .inl rfl
  · exact .value _ (fun r => s.push r 0) 0
  · exact .some _ _
  · exact .some _ _
  · exact .value _ (fun r => s.push r 0) 0

variable (e) in
/-- A piece that opens a group, unless the group is still open at the end. -/
theorem kept_opening (hz : Shuts z) {rest : Text} {n : Nat}
    (h : s.outside? '(' rest = some (s', n)) (hend : n = rest.length → s'.outers = []) :
    (s.enclosed e).outside? '(' (rest ++ z) = some (s'.enclosed e, n) ∨
      (s.enclosed e).outside? '(' (rest ++ z) = none ∧ e.Clashes s' := by
  obtain ⟨⟨m, after⟩, hopen, h⟩ := Option.map_eq_some_iff.1 h
  obtain ⟨rfl, rfl⟩ := Prod.mk.inj h
  have hend' : after = [] → m.outers = [] := by
    rintro rfl
    exact hend rfl
  simp only [outside?]
  rcases kept_open e hz hopen hend' with hs | ⟨hs, hclash⟩
  · rw [hs]
    simp only [Option.map_some, upTo_append_append]
    exact .inl rfl
  · exact .inr ⟨by rw [hs]; rfl, hclash⟩

variable (e) in
theorem kept_step (hz : Shuts z) {c : Char} {rest : Text} {n : Nat}
    (h : s.step? c rest = some (s', n)) (hn : n ≤ rest.length)
    (hend : n = rest.length → s'.outers = [])
    (hcomment : s'.flags.verbose = true → Flags.skipBlank false (rest.drop n) = [] →
      (Flags.skipBlank true z).head? ≠ some '?') :
    (s.enclosed e).step? c (rest ++ z) = some (s'.enclosed e, n) ∨
      (s.enclosed e).step? c (rest ++ z) = none ∧ e.Clashes s' := by
  unfold step? at h ⊢
  rw [enclosed_flags, enclosed_brackets]
  by_cases hblank : (s.flags.verbose && Unicode.isBlank c) = true
  · rw [if_pos hblank] at h ⊢
    obtain ⟨rfl, rfl⟩ := Prod.mk.inj (Option.some.inj h)
    exact .inl rfl
  · rw [if_neg hblank] at h ⊢
    by_cases hsign : (s.flags.verbose && c == '#') = true
    · rw [if_pos hsign] at h ⊢
      obtain ⟨rfl, rfl⟩ := Prod.mk.inj (Option.some.inj h)
      have hline : (rest ++ z).takeWhile (· != '\n') = rest.takeWhile (· != '\n') := by
        rw [List.takeWhile_append, if_neg (by omega)]
      rw [hline]
      exact .inl rfl
    · rw [if_neg hsign] at h ⊢
      cases hb : s.brackets with
      | nil =>
        rw [hb] at h
        by_cases hc : c = '('
        · subst hc
          exact kept_opening e hz h hend
        · by_cases hbrace : c = '\x7b'
          · subst hbrace
            exact .inl (kept_counted hz h hcomment)
          · exact kept_outside e hz hc hbrace rest _ _ h
      | cons b outer =>
        rw [hb] at h
        simp only at h ⊢
        cases hopening : b.opening? c with
        | some b' =>
          rw [hopening] at h
          obtain ⟨rfl, rfl⟩ := Prod.mk.inj (Option.some.inj h)
          exact .inl rfl
        | none =>
          rw [hopening] at h
          exact kept_inside hz b outer c rest _ _ h

def Renames (s s' : Reader) : Prop :=
  s'.names = s.names ∨ ∃ name, name ∉ s.names ∧ s'.names = name :: s.names

theorem Renames.subset (h : Renames s s') : s.names ⊆ s'.names := by
  rcases h with h | ⟨name, -, h⟩
  · rw [h]
    exact List.Subset.refl _
  · rw [h]
    exact List.subset_cons_self name s.names

theorem Renames.nodup (h : Renames s s') (hs : s.names.Nodup) : s'.names.Nodup := by
  rcases h with h | ⟨name, hnew, h⟩
  · rwa [h]
  · rw [h]
    exact List.nodup_cons.2 ⟨hnew, hs⟩

/-- At most so many characters are taken and at most one name is added. -/
def Proceeds (s : Reader) (k : Nat) (p : Option (Reader × Nat)) : Prop :=
  ∀ s' n, p = some (s', n) → n ≤ k ∧ Renames s s'

namespace Proceeds

variable {β : Type} {k : Nat}

theorem none : Proceeds s k .none := by
  intro s' n h
  cases h

theorem some {n : Nat} (hnames : s'.names = s.names) (hn : n ≤ k) :
    Proceeds s k (some (s', n)) := by
  intro t m h
  obtain ⟨rfl, rfl⟩ := Prod.mk.inj (Option.some.inj h)
  exact ⟨hn, .inl hnames⟩

theorem map {v : Option β} {g : β → Reader × Nat}
    (hg : ∀ b, v = .some b → (g b).2 ≤ k ∧ Renames s (g b).1) : Proceeds s k (v.map g) := by
  intro s' n h
  obtain ⟨b, hb, h⟩ := Option.map_eq_some_iff.1 h
  simpa [h] using hg b hb

theorem bind {v : Option β} {g : β → Option (Reader × Nat)} (hg : ∀ b, Proceeds s k (g b)) :
    Proceeds s k (v.bind g) := by
  intro s' n h
  obtain ⟨b, -, h⟩ := Option.bind_eq_some_iff.1 h
  exact hg b s' n h

end Proceeds

theorem names_of_repeat? {low : Nat} {high : Option Nat} {lazy : Bool}
    (h : s.repeat? low high lazy = some s') : s'.names = s.names := by
  unfold repeat? at h
  split at h
  · obtain rfl := Option.some.inj h
    rfl
  · cases h

theorem names_of_closeGroup? (h : s.closeGroup? = some s') : s'.names = s.names := by
  unfold closeGroup? at h
  split at h
  · cases h
  · obtain rfl := Option.some.inj h
    rfl

theorem names_of_closeBracket? {b : Bracket} {outer : List Bracket}
    (h : s.closeBracket? b outer = some s') : s'.names = s.names := by
  obtain ⟨n, -, rfl⟩ := Option.map_eq_some_iff.1 h
  cases outer <;> rfl

theorem renames_of_openNamed? {t after : Text} (h : s.openNamed? t = some (s', after)) :
    Renames s s' := by
  unfold openNamed? at h
  split at h
  · split at h
    · rename_i name _ _ hname
      obtain ⟨rfl, -⟩ := Prod.mk.inj (Option.some.inj h)
      simp only [Bool.and_eq_true, Bool.not_eq_true', List.contains_eq_mem,
        decide_eq_false_iff_not] at hname
      exact .inr ⟨name, hname.2, rfl⟩
    · cases h
  · cases h

theorem names_of_openFlags? {t after : Text} (h : s.openFlags? t = some (s', after)) :
    s'.names = s.names := by
  unfold openFlags? at h
  split at h
  · split at h
    · cases h
    · obtain ⟨f, -, he⟩ := Option.map_eq_some_iff.1 h
      obtain ⟨rfl, -⟩ := Prod.mk.inj he
      rfl
  · obtain ⟨f, -, he⟩ := Option.map_eq_some_iff.1 h
    obtain ⟨rfl, -⟩ := Prod.mk.inj he
    rfl
  · cases h

theorem renames_of_open? {t after : Text} (h : s.open? t = some (s', after)) : Renames s s' := by
  rcases shape_of_open? h with hplain | ⟨x, ht⟩ | ⟨c, x, ht, hc, hc'⟩ |
      ⟨c, x, ht, hc, hc', hangle, hname⟩
  · rw [open?_plain hplain] at h
    obtain ⟨rfl, -⟩ := Prod.mk.inj (Option.some.inj h)
    exact .inl rfl
  · exact renames_of_openNamed? ((open?_named ht).symm.trans h)
  · exact renames_of_openNamed? ((open?_angle ht hc hc').symm.trans h)
  · exact .inl (names_of_openFlags? ((open?_flags ht hc hc' hangle hname).symm.trans h))

theorem sign?_proceeds (low : Nat) (high : Option Nat) (rest : Text) :
    Proceeds s rest.length (s.sign? low high rest) := by
  refine .map fun s' h => ⟨?_, .inl (names_of_repeat? h)⟩
  cases rest with
  | nil => simp
  | cons c rest => exact Nat.le_trans (Bool.toNat_le _) (Nat.le_add_left 1 _)

theorem counted?_proceeds (rest : Text) : Proceeds s rest.length (s.counted? rest) := by
  refine .bind fun x => .bind fun y => ?_
  dsimp only
  split <;> exact .map fun s' h => ⟨Nat.sub_le _ _, .inl (names_of_repeat? h)⟩

theorem outside?_proceeds (c : Char) (rest : Text) :
    Proceeds s rest.length (s.outside? c rest) := by
  unfold outside?
  split
  · exact .map fun x h => ⟨Nat.sub_le _ _, renames_of_open? h⟩
  · exact .map fun s' h => ⟨Nat.zero_le _, .inl (names_of_closeGroup? h)⟩
  · exact .some rfl (Nat.zero_le _)
  · exact .some rfl (Nat.zero_le _)
  iterate 3 exact sign?_proceeds _ _ rest
  · exact counted?_proceeds rest
  · exact .bind fun x => .map fun r _ => ⟨Nat.sub_le _ _, .inl rfl⟩
  · exact .map fun r _ => ⟨Nat.zero_le _, .inl rfl⟩
  · exact .some rfl (Nat.zero_le _)
  · exact .some rfl (Nat.zero_le _)
  · exact .map fun r _ => ⟨Nat.zero_le _, .inl rfl⟩

theorem inside?_proceeds (b : Bracket) (outer : List Bracket) (c : Char) (rest : Text) :
    Proceeds s rest.length (s.inside? b outer c rest) := by
  unfold inside?
  split
  · split
    · exact .some rfl (Nat.sub_le _ _)
    · exact .none
    · exact .some rfl (Nat.zero_le _)
  · exact .map fun s' h => ⟨Nat.zero_le _, .inl (names_of_closeBracket? h)⟩
  iterate 3 exact .some rfl (Nat.le_add_left 1 _)
  · exact .map fun x _ => ⟨Nat.sub_le _ _, .inl rfl⟩

/-- Only a comment can take more than there is. -/
theorem step?_proceeds {c : Char} {rest : Text} {n : Nat} (h : s.step? c rest = some (s', n)) :
    (n ≤ rest.length ∧ Renames s s') ∨ s.flags.verbose = true ∧ c = '#' ∧ s' = s ∧
      n = (rest.takeWhile (· != '\n')).length + 1 := by
  unfold step? at h
  by_cases hblank : (s.flags.verbose && Unicode.isBlank c) = true
  · rw [if_pos hblank] at h
    exact .inl (Proceeds.some rfl (Nat.zero_le _) _ _ h)
  · rw [if_neg hblank] at h
    by_cases hsign : (s.flags.verbose && c == '#') = true
    · rw [if_pos hsign] at h
      obtain ⟨rfl, rfl⟩ := Prod.mk.inj (Option.some.inj h)
      obtain ⟨hverbose, rfl⟩ : s.flags.verbose = true ∧ c = '#' := by simpa using hsign
      exact .inr ⟨hverbose, rfl, rfl, rfl⟩
    · rw [if_neg hsign] at h
      split at h
      · exact .inl (outside?_proceeds c rest _ _ h)
      · split at h
        · refine .inl (Proceeds.some ?_ (Nat.zero_le _) _ _ h)
          rfl
        · exact .inl (inside?_proceeds _ _ c rest _ _ h)

theorem renames_of_step? {c : Char} {rest : Text} {n : Nat} (h : s.step? c rest = some (s', n)) :
    Renames s s' := by
  rcases step?_proceeds h with ⟨-, hnames⟩ | ⟨-, -, rfl, -⟩
  · exact hnames
  · exact .inl rfl

/-- A reading only adds names. -/
theorem names_subset_of_read? {n : Nat} {t : Text} (h : s.read? n t = some s') :
    s.names ⊆ s'.names := by
  induction t generalizing s n with
  | nil =>
    obtain rfl : s = s' := by simpa using h
    exact List.Subset.refl _
  | cons c rest ih =>
    cases n with
    | succ n => exact ih h
    | zero =>
      rw [read?_cons] at h
      obtain ⟨⟨m, n⟩, hstep, h⟩ := Option.bind_eq_some_iff.1 h
      exact List.Subset.trans (renames_of_step? hstep).subset (ih h)

theorem read?_taken (s : Reader) (n : Nat) (x rest : Text) :
    s.read? (x.length + n) (x ++ rest) = s.read? n rest := by
  induction x with
  | nil => simp
  | cons c x ih =>
    rw [List.length_cons, Nat.add_right_comm]
    exact ih

/-- A comment is taken up to the end of its line. -/
theorem step?_comment (h : s.flags.verbose = true) (rest : Text) :
    s.step? '#' rest = some (s, (rest.takeWhile (· != '\n')).length + 1) := by
  simp [step?, h, show Unicode.isBlank '#' = false from rfl]

/-- Blank text and comments change nothing; a comment is open if it was open before the text. -/
theorem read?_blank (hs : s.flags.verbose = true) (t : Text) :
    (Flags.skipBlank false t = [] → s.read? 0 t = some s) ∧
      (Flags.skipBlank true t = [] →
        s.read? ((t.takeWhile (· != '\n')).length + 1) t = some s) := by
  induction t with
  | nil => simp
  | cons c t ih =>
    obtain ⟨hout, hin⟩ := ih
    constructor
    · intro h
      rw [Flags.skipBlank, if_neg (by simp)] at h
      split at h
      · rename_i hblank
        rw [read?_cons, step?, hs, hblank]
        exact hout h
      · split at h
        · rename_i hsign
          subst hsign
          rw [read?_cons, step?_comment hs]
          exact hin h
        · cases h
    · intro h
      rw [Flags.skipBlank, if_pos rfl] at h
      rw [List.takeWhile_cons]
      split
      · rename_i hbreak
        rw [hbreak] at h
        exact hin h
      · rename_i hbreak
        have hline : (c != '\n') = false := by simpa using hbreak
        rw [hline] at h
        exact hout h

variable (e) in
/-- A whole reading. If it is kept, no name has been added twice. -/
theorem kept_read (hz : Shuts z) {body : Text} {n : Nat} (h : s.read? n body = some s')
    (hn : n ≤ body.length) (houters : s'.outers = [])
    (hcomment : s'.flags.verbose = true → (Flags.skipBlank true z).head? ≠ some '?') :
    ((s.enclosed e).read? n (body ++ z) = (s'.enclosed e).read? 0 z ∧
        ((s.enclosed e).names.Nodup → (s'.enclosed e).names.Nodup)) ∨
      (s.enclosed e).read? n (body ++ z) = none ∧ e.Clashes s' ∨
      s'.flags.verbose = true ∧ (s.enclosed e).read? n (body ++ z) =
        (s'.enclosed e).read? ((z.takeWhile (· != '\n')).length + 1) z := by
  induction body generalizing s n with
  | nil =>
    obtain rfl : n = 0 := by simpa using hn
    obtain rfl : s = s' := by simpa using h
    exact .inl ⟨rfl, id⟩
  | cons c rest ih =>
    cases n with
    | succ n => exact ih h (by simpa using hn)
    | zero =>
      rw [read?_cons] at h
      obtain ⟨⟨m, n⟩, hstep, h⟩ := Option.bind_eq_some_iff.1 h
      have hend : rest.length ≤ n → m = s' := by
        intro hle
        obtain ⟨k, rfl⟩ := Nat.exists_eq_add_of_le hle
        have htaken := read?_taken m k rest []
        rw [List.append_nil, read?_nil] at htaken
        exact Option.some.inj (htaken.symm.trans h)
      rw [List.cons_append, read?_cons]
      by_cases hlen : n ≤ rest.length
      · have houters' : n = rest.length → m.outers = [] := fun hn => by
          rw [hend (Nat.le_of_eq hn.symm), houters]
        have hcomment' : m.flags.verbose = true → Flags.skipBlank false (rest.drop n) = [] →
            (Flags.skipBlank true z).head? ≠ some '?' := by
          intro hverbose hblank
          have hrest : m.read? n rest = m.read? 0 (rest.drop n) := by
            have htaken := read?_skip m (rest.take n) (rest.drop n)
            rwa [List.take_append_drop, List.length_take_of_le hlen] at htaken
          obtain rfl : m = s' := Option.some.inj <|
            ((read?_blank hverbose _).1 hblank).symm.trans (hrest.symm.trans h)
          exact hcomment hverbose
        rcases kept_step e hz hstep hlen houters' hcomment' with hs | ⟨hs, name, hname, htaken⟩
        · have hnodup := (renames_of_step? hs).nodup
          rw [hs]
          rcases ih h hlen with ⟨hread, hnames⟩ | hrest
          · exact .inl ⟨hread, hnames ∘ hnodup⟩
          · exact .inr hrest
        · exact .inr (.inl ⟨by rw [hs]; rfl, name, names_subset_of_read? h hname, htaken⟩)
      · obtain ⟨hverbose, rfl, rfl, rfl⟩ :=
          (step?_proceeds hstep).resolve_left fun hle => hlen hle.1
        obtain rfl := hend (Nat.le_of_not_le hlen)
        have hall : (rest.takeWhile (· != '\n')).length = rest.length := by
          have := (List.takeWhile_prefix (l := rest) (· != '\n')).length_le
          omega
        have hline : (rest ++ z).takeWhile (· != '\n') = rest ++ z.takeWhile (· != '\n') := by
          rw [List.takeWhile_append, if_pos hall]
        refine .inr (.inr ⟨hverbose, ?_⟩)
        rw [step?_comment (by simpa using hverbose), hline, List.length_append, Nat.add_assoc]
        exact read?_taken _ _ rest z

end TextSieve.Pattern.Reader
