import Mathlib.Data.List.TakeDrop
import Mathlib.Tactic.Common
import TextSieve.Proofs.Cache.Faithful
import TextSieve.Proofs.Pattern.Reading
import TextSieve.Proofs.Pattern.Search

/-! What a term matches between literal delimiters. The pattern of a term reads to one expression,
or it is refused because a wildcard counts too far; the expression matches where the text can be
split around the core. -/

namespace TextSieve

namespace Pattern.Reader

variable {caseless : Bool} {p q : Text} {rs rs' : List Regex} {is : List Item}

def Refuses (caseless : Bool) (p : Text) : Prop :=
  ∀ s, Plain caseless s → ∀ rest, rest.head? ≠ some '?' → s.read? 0 (p ++ rest) = none

/-- The piece `p` stands for these expressions, unless it is refused. -/
def MayReadAs (caseless : Bool) (p : Text) (rs : List Regex) : Prop :=
  (∃ items : List Item, items.map Item.regex = rs ∧ ReadsAs caseless p items) ∨
    Refuses caseless p

theorem Refuses.append (h : Refuses caseless p) (hq : q.head? ≠ some '?') :
    Refuses caseless (p ++ q) := by
  intro s hs rest hrest
  rw [List.append_assoc]
  exact h s hs _ (head?_append_ne hq hrest)

theorem ReadsAs.append_refuses (h : ReadsAs caseless p is) (h' : Refuses caseless q)
    (hq : q.head? ≠ some '?') : Refuses caseless (p ++ q) := by
  intro s hs rest hrest
  rw [List.append_assoc, h s hs _ (head?_append_ne hq hrest)]
  exact h' _ (hs.append is) rest hrest

theorem MayReadAs.append (h : MayReadAs caseless p rs) (h' : MayReadAs caseless q rs')
    (hq : q.head? ≠ some '?') : MayReadAs caseless (p ++ q) (rs ++ rs') := by
  rcases h with ⟨is, rfl, h⟩ | h
  · rcases h' with ⟨js, rfl, h'⟩ | h'
    · exact .inl ⟨is ++ js, List.map_append, h.append h' hq⟩
    · exact .inr (h.append_refuses h' hq)
  · exact .inr (h.append hq)

end Pattern.Reader

open Pattern Reader

variable {caseless : Bool}

def anyOf (caseless : Bool) (ds : List Text) : Regex :=
  .alts (ds.map fun d => .cats (d.map (letter caseless)))

theorem head?_join_escape_ne (ds : List Text) :
    (Text.join ['|'] (ds.map escape)).head? ≠ some '?' := by
  rcases ds with _ | ⟨d, _ | ⟨d', ds⟩⟩
  · simp [Text.join]
  · exact head?_escape_ne d
  · simp only [List.map_cons, Text.join, List.append_assoc]
    exact head?_append_ne (head?_escape_ne d) (by simp)

def letterBranch (caseless : Bool) (d : Text) : Branch :=
  .ofItems (d.map (letterItem caseless))

theorem regex_letterBranch (d : Text) :
    (letterBranch caseless d).regex = .cats (d.map (letter caseless)) := by
  simp [letterBranch, Branch.ofItems, letterItem, Item.regex, Function.comp_def]

theorem depth_letterBranch (d : Text) : (letterBranch caseless d).depth ≤ 1 := by
  refine depthOf_le fun n hn => ?_
  obtain ⟨i, hi, rfl⟩ := List.mem_map.1 hn
  obtain ⟨c, -, rfl⟩ := List.mem_map.1 (List.mem_reverse.1 hi)
  exact Nat.le_refl 0

theorem readsChoice_join {ds : List Text} (h : ds ≠ []) :
    ReadsChoice caseless (Text.join ['|'] (ds.map escape)) (ds.map (letterBranch caseless)) := by
  induction ds with
  | nil => exact absurd rfl h
  | cons d ds ih =>
    rcases ds with _ | ⟨d', ds⟩
    · exact (readsAs_escape d).choice
    · have hor := (readsAs_escape d).or (ih (by simp)) (head?_join_escape_ne (d' :: ds))
      simpa [Text.join, letterBranch] using hor

def anyOfItem (caseless : Bool) (ds : List Text) : Item :=
  groupItem none (ds.map (letterBranch caseless))

theorem regex_anyOfItem (ds : List Text) : (anyOfItem caseless ds).regex = anyOf caseless ds := by
  simp only [anyOfItem, groupItem, Item.regex, Branch.anyOf, List.map_map, anyOf]
  exact congrArg Regex.alts (List.map_congr_left fun d _ => regex_letterBranch d)

theorem depth_anyOfItem (ds : List Text) : (anyOfItem caseless ds).depth ≤ 3 := by
  refine Nat.succ_le_succ (depthOf_le fun n hn => ?_)
  obtain ⟨b, hb, rfl⟩ := List.mem_map.1 hn
  obtain ⟨d, -, rfl⟩ := List.mem_map.1 (List.mem_reverse.1 hb)
  exact depth_letterBranch d

theorem readsAs_choice {ds : List Text} (h : ds ≠ []) :
    ReadsAs caseless (Delimiter.choice (ds.map escape)) [anyOfItem caseless ds] :=
  readsAs_group (readsChoice_join h) (head?_join_escape_ne ds)

theorem matches_anyOf {ds : List Text} (h : ds ≠ []) {u w v : Text} :
    (anyOf false ds).Matches u w v ↔ w ∈ ds := by
  have hletter : letter false = fun c => .one (.single c) := rfl
  simp [anyOf, Regex.matches_alts, h, hletter, Regex.matches_cats_single]

theorem ungrouped_anyOf (ds : List Text) : (anyOf caseless ds).Ungrouped := by
  refine Regex.ungrouped_alts fun r hr => ?_
  obtain ⟨d, -, rfl⟩ := List.mem_map.1 hr
  refine Regex.ungrouped_cats fun r hr => ?_
  obtain ⟨c, -, rfl⟩ := List.mem_map.1 hr
  trivial

theorem mapM_branch {ds : List Text} (h : [] ∉ ds) :
    (ds.map Delimiter.literal).mapM Delimiter.branch = .ok (ds.map escape) := by
  induction ds with
  | nil => rfl
  | cons d ds ih =>
    obtain ⟨hd, hds⟩ : d ≠ [] ∧ [] ∉ ds := by
      simpa [eq_comm] using h
    rw [List.map_cons, List.mapM_cons, ih hds]
    simp only [Delimiter.branch, hd, if_false]
    rfl

theorem fragment_literals {ds : List Text} (h : ds ≠ []) (h' : [] ∉ ds) :
    Delimiter.fragment (ds.map Delimiter.literal) = .ok (Delimiter.choice (ds.map escape)) := by
  simp [Delimiter.fragment, h, mapM_branch h', Except.map]

namespace Wildcard

def piece (w : Option Wildcard) : Text :=
  (w.map pattern).getD []

def regexes : Option Wildcard → List Regex
  | none => []
  | some unbounded => [.rep (.one anyButNewline) 0 none true]
  | some (exactly n) => [.repeated (.one anyButNewline) n (some n) true]

/-- What may stand in the place of a wildcard. -/
def Fills : Option Wildcard → Text → Prop
  | none, x => x = []
  | some unbounded, x => '\n' ∉ x
  | some (exactly n), x => x.length = n ∧ '\n' ∉ x

theorem head?_piece_ne (w : Option Wildcard) : (piece w).head? ≠ some '?' := by
  rcases w with _ | _ | n <;> simp [piece, pattern]

def Countable (w : Option Wildcard) : Prop :=
  ∀ n, w = some (exactly n) → n ≤ Reader.countLimit

theorem exists_readsAs_piece (caseless : Bool) {w : Option Wildcard} (h : Countable w) :
    ∃ items : List Item, items.map Item.regex = regexes w ∧ ReadsAs caseless (piece w) items := by
  rcases w with _ | _ | n
  · exact ⟨[], rfl, .nil⟩
  · exact ⟨_, rfl, readsAs_dots⟩
  · refine ⟨[.term (.repeated (.one anyButNewline) n (some n) true) 1], rfl, ?_⟩
    intro s hs rest hrest
    exact (read?_countedDots hs n hrest).trans (if_pos (h n rfl))

theorem refuses_piece {w : Option Wildcard} (h : ¬ Countable w) :
    Refuses caseless (piece w) := by
  rcases w with _ | _ | n
  · exact absurd (by simp [Countable]) h
  · exact absurd (by simp [Countable]) h
  · have hn : ¬ n ≤ Reader.countLimit := fun hn => h fun m hm => by
      obtain rfl : n = m := by simpa using hm
      exact hn
    intro s hs rest hrest
    exact (read?_countedDots hs n hrest).trans (if_neg hn)

theorem mayReadAs_piece (w : Option Wildcard) : MayReadAs caseless (piece w) (regexes w) := by
  by_cases h : Countable w
  · exact .inl (exists_readsAs_piece caseless h)
  · exact .inr (refuses_piece h)

theorem contains_anyButNewline {x : Text} :
    (∀ c ∈ x, anyButNewline.contains c = true) ↔ '\n' ∉ x := by
  have hc : ∀ c : Char, anyButNewline.contains c = true ↔ c ≠ '\n' := by
    intro c
    simp [anyButNewline, CharSet.contains]
  simp only [hc]
  exact ⟨fun h hx => h _ hx rfl, fun h c hx hcn => h (hcn ▸ hx)⟩

theorem matches_regexes {w : Option Wildcard} {u x v : Text} :
    (Regex.cats (regexes w)).Matches u x v ↔ Fills w x := by
  rcases w with _ | _ | n
  · rfl
  · exact Regex.matches_rep_one.trans contains_anyButNewline
  · exact Regex.matches_repeated_one.trans (and_congr_right' contains_anyButNewline)

end Wildcard

def FuzzyTerm.regexes (caseless : Bool) (f : FuzzyTerm) : List Regex :=
  Wildcard.regexes f.leading ++ f.core.map (letter caseless) ++ Wildcard.regexes f.trailing

theorem head?_body_ne (f : FuzzyTerm) : (f.body false).head? ≠ some '?' := by
  refine head?_append_ne ?_ (Wildcard.head?_piece_ne f.trailing)
  exact head?_append_ne (Wildcard.head?_piece_ne f.leading) (head?_escape_ne f.core)

theorem mayReadAs_body (f : FuzzyTerm) :
    MayReadAs caseless (f.body false) (f.regexes caseless) := by
  have hcore : MayReadAs caseless (escape f.core) (f.core.map (letter caseless)) := by
    refine .inl ⟨_, ?_, readsAs_escape f.core⟩
    simp [letterItem, Item.regex, Function.comp_def]
  have hfront := (Wildcard.mayReadAs_piece f.leading).append hcore (head?_escape_ne f.core)
  exact hfront.append (Wildcard.mayReadAs_piece f.trailing) (Wildcard.head?_piece_ne f.trailing)

theorem matches_body {f : FuzzyTerm} {u w v : Text} :
    (Regex.cats (f.regexes false)).Matches u w v ↔
      ∃ x y, w = x ++ f.core ++ y ∧ Wildcard.Fills f.leading x ∧ Wildcard.Fills f.trailing y := by
  have hletter : letter false = fun c => .one (.single c) := rfl
  simp only [FuzzyTerm.regexes, hletter, Regex.matches_cats_append, Wildcard.matches_regexes,
    Regex.matches_cats_single]
  constructor
  · intro h
    obtain ⟨_, y, rfl, ⟨x, _, rfl, hx, rfl⟩, hy⟩ := h
    exact ⟨x, y, rfl, hx, hy⟩
  · intro h
    obtain ⟨x, y, rfl, hx, hy⟩ := h
    exact ⟨x ++ f.core, y, rfl, ⟨x, f.core, rfl, hx, rfl⟩, hy⟩

def delimited (delimiter body : Regex) : Regex :=
  .cat (.alt (.look .textStart) delimiter)
    (.cat (.group termGroup body) (.alt delimiter (.look .textStop)))

theorem anchored_eq (body fragment : Text) :
    anchored body fragment =
      (['(', '?', ':'] ++ (['^'] ++ '|' :: fragment) ++ [')']) ++
        ((['(', '?', 'P', '<'] ++ termGroup ++ ['>']) ++ body ++ [')'] ++
          (['(', '?', ':'] ++ (fragment ++ '|' :: ['$']) ++ [')'])) := by
  simp [anchored]

def startItem (g : Item) : Item :=
  groupItem none [.ofItems [.term (.look .textStart) 0], .ofItems [g]]

def stopItem (g : Item) : Item :=
  groupItem none [.ofItems [g], .ofItems [.term (.look .textStop) 0]]

def bodyRead (caseless : Bool) (g : Item) (body : List Branch) (names : List Text) : Reader :=
  { append { flags := { caseless := caseless } } [startItem g, groupItem (some termGroup) body] with
    names := names }

def anchoredRead (caseless : Bool) (g : Item) (body : List Branch) (names : List Text) : Reader :=
  (bodyRead caseless g body names).append [stopItem g]

section

variable {fragment body : Text} {g : Item} {rs : List Regex}

theorem readsAs_before (hg : ReadsAs caseless fragment [g]) (hf : fragment.head? ≠ some '?') :
    ReadsAs caseless (['(', '?', ':'] ++ (['^'] ++ '|' :: fragment) ++ [')']) [startItem g] :=
  readsAs_group ((readsAs_look (.inl rfl)).or hg.choice hf) (by simp)

theorem readsAs_behind (hg : ReadsAs caseless fragment [g]) (hf : fragment.head? ≠ some '?') :
    ReadsAs caseless (['(', '?', ':'] ++ (fragment ++ '|' :: ['$']) ++ [')']) [stopItem g] :=
  readsAs_group (hg.or (readsAs_look (.inr rfl)).choice (by simp)) (head?_append_ne hf (by simp))

/-- The rest of the pattern is the group of the delimiters behind the body. -/
theorem read?_behind (hg : ReadsAs caseless fragment [g]) (hf : fragment.head? ≠ some '?')
    (bs : List Branch) (names : List Text) :
    (bodyRead caseless g bs names).read? 0
      (['(', '?', ':'] ++ (fragment ++ '|' :: ['$']) ++ [')']) =
        some (anchoredRead caseless g bs names) :=
  (readsAs_behind hg hf).read?_end ⟨rfl, rfl⟩

theorem regex_anchoredRead (bs : List Branch) (names : List Text) :
    (anchoredRead caseless g bs names).choice.regex =
      delimited g.regex (Branch.anyOf bs).regex := by
  simp [anchoredRead, bodyRead, append, choice, branch, startItem, stopItem, groupItem, Item.regex,
    Branch.anyOf, Branch.ofItems, Regex.alts, Regex.cats, delimited]

theorem depth_startItem (g : Item) : (startItem g).depth = g.depth + 2 := by
  have hlook : (Branch.ofItems [.term (.look .textStart) 0]).depth = 0 := rfl
  have hg : (Branch.ofItems [g]).depth = g.depth := rfl
  simp [startItem, groupItem, Item.depth, Branch.anyOf, depthOf, hlook, hg]

theorem depth_stopItem (g : Item) : (stopItem g).depth = g.depth + 2 := by
  have hlook : (Branch.ofItems [.term (.look .textStop) 0]).depth = 0 := rfl
  have hg : (Branch.ofItems [g]).depth = g.depth := rfl
  simp [stopItem, groupItem, Item.depth, Branch.anyOf, depthOf, hlook, hg]

theorem depth_anchoredRead (bs : List Branch) (names : List Text) :
    (anchoredRead caseless g bs names).choice.depth =
      max (g.depth + 2) ((Branch.anyOf bs).depth + 1) + 1 := by
  have hbody : (groupItem (some termGroup) bs).depth = (Branch.anyOf bs).depth + 1 := rfl
  simp only [anchoredRead, bodyRead, append, choice, branch, List.reverse_cons, List.reverse_nil,
    List.nil_append, List.append_nil, List.cons_append, List.map_cons, List.map_nil, depthOf,
    List.foldl_cons, List.foldl_nil, depth_startItem, depth_stopItem, hbody]
  omega

/-- The reading of an anchored pattern goes through the delimiters in front. -/
theorem read?_anchored (hg : ReadsAs caseless fragment [g]) (hf : fragment.head? ≠ some '?') :
    read? { flags := { caseless := caseless } } 0 (anchored body fragment) =
      (append { flags := { caseless := caseless } } [startItem g]).read? 0
        (['(', '?', 'P', '<'] ++ termGroup ++ ['>'] ++ body ++ [')'] ++
          (['(', '?', ':'] ++ (fragment ++ '|' :: ['$']) ++ [')'])) := by
  rw [anchored_eq]
  exact readsAs_before hg hf _ ⟨rfl, rfl⟩ _ (by simp)

/-- The group of a term is read to the body and its name, unless it is refused. -/
theorem read?_term (hB : MayReadAs caseless body rs) (hb : body.head? ≠ some '?') {s : Reader}
    (hs : Plain caseless s) {rest : Text} (hrest : rest.head? ≠ some '?') :
    s.read? 0 (['(', '?', 'P', '<'] ++ termGroup ++ ['>'] ++ body ++ [')'] ++ rest) = none ∨
      termGroup ∉ s.names ∧ ∃ is : List Item, is.map Item.regex = rs ∧
        s.read? 0 (['(', '?', 'P', '<'] ++ termGroup ++ ['>'] ++ body ++ [')'] ++ rest) =
          ({ s.append [groupItem (some termGroup) [.ofItems is]] with
            names := termGroup :: s.names } : Reader).read? 0 rest := by
  by_cases hnew : termGroup ∈ s.names
  · refine .inl ?_
    rw [List.append_assoc, List.append_assoc]
    exact read?_openNamed_taken hs (by decide) hnew _
  have hopen := reads_openNamed hs (by decide) (by decide) hnew
  rcases hB with ⟨is, rfl, hB⟩ | hB
  · exact .inr ⟨hnew, is, rfl, readsAs_group_of_open hs hopen hB.choice hb _ hrest⟩
  · -- the group is opened, and then nothing gets behind the body
    have hopened : Plain caseless
        { s.openGroup s.flags (some termGroup) with names := termGroup :: s.names } :=
      ⟨hs.flags, hs.brackets⟩
    refine .inl ?_
    rw [List.append_assoc, List.append_assoc, hopen _ (head?_append_ne hb (by simp)),
      hB _ hopened _ (by simp)]

/-- What an anchored pattern is read to, if it is read at all. -/
theorem exists_anchoredRead (hg : ReadsAs caseless fragment [g])
    (hf : fragment.head? ≠ some '?') (hB : MayReadAs caseless body rs)
    (hb : body.head? ≠ some '?') {s : Reader}
    (h : read? { flags := { caseless := caseless } } 0 (anchored body fragment) = some s) :
    ∃ (is : List Item) (names : List Text), is.map Item.regex = rs ∧
      s = anchoredRead caseless g [.ofItems is] names := by
  have hplain : Plain caseless (append { flags := { caseless := caseless } } [startItem g]) :=
    ⟨rfl, rfl⟩
  rw [read?_anchored hg hf] at h
  have hbehind : (['(', '?', ':'] ++ (fragment ++ '|' :: ['$']) ++ [')']).head? ≠ some '?' := by
    simp
  rcases read?_term hB hb hplain hbehind with hnone | ⟨-, is, his, hterm⟩
  · rw [hnone] at h
    cases h
  · rw [hterm] at h
    exact ⟨is, [termGroup], his, Option.some.inj (h.symm.trans (read?_behind hg hf _ _))⟩

/-- An anchored pattern stands for its body between delimiters, if it is read at all. -/
theorem ofPattern?_anchored (hg : ReadsAs caseless fragment [g])
    (hf : fragment.head? ≠ some '?') (hB : MayReadAs caseless body rs)
    (hb : body.head? ≠ some '?') {r : Regex}
    (h : Regex.ofPattern? caseless (anchored body fragment) = some r) :
    r = delimited g.regex (.cats rs) := by
  obtain ⟨s, hs, -, -, rfl⟩ := ofPattern?_eq_some_iff.1 h
  obtain ⟨is, names, rfl, rfl⟩ := exists_anchoredRead hg hf hB hb hs.read
  exact regex_anchoredRead [.ofItems is] names

end

theorem matches_delimited {F B : Regex} {u w v : Text} :
    (delimited F B).Matches u w v ↔
      ∃ l x r, w = l ++ x ++ r ∧ (l = [] ∧ u = [] ∨ F.Matches u l (x ++ r ++ v)) ∧
        B.Matches (u ++ l) x (r ++ v) ∧ (F.Matches (u ++ l ++ x) r v ∨ r = [] ∧ v = []) := by
  simp only [delimited, Regex.Matches, Look.holds, Option.isNone_iff_eq_none,
    List.getLast?_eq_none_iff, List.head?_eq_none_iff]
  constructor
  · intro h
    obtain ⟨l, _, rfl, hl, x, r, rfl, hx, hr⟩ := h
    exact ⟨l, x, r, by simp, hl, hx, hr⟩
  · intro h
    obtain ⟨l, x, r, rfl, hl, hx, hr⟩ := h
    exact ⟨l, x ++ r, by simp, hl, x, r, rfl, hx, hr⟩

/-- Behind what stands in front of a body, the body matches and its group says where. -/
theorem goes_body {F B : Regex} (hF : F.Ungrouped) {s f : Thread} {u v : Text}
    (hs : s.cursor = .between u v)
    (h : (Regex.cat (.group termGroup B) (.alt F (.look .textStop))).Goes s f) :
    ∃ x r y, v = x ++ r ++ y ∧ B.Matches u x (r ++ y) ∧
      (F.Matches (u ++ x) r y ∨ r = [] ∧ y = []) ∧
      f.group? termGroup = some ⟨Text.size u, Text.size (u ++ x)⟩ := by
  obtain ⟨_, ⟨m, hm, rfl⟩, hf⟩ := h
  obtain ⟨x, v, rfl, hcm, hx⟩ := (Regex.agree_goes _ s.openGroup u v hs _).1 ⟨m, hm, rfl⟩
  have hclosed : (m.closeGroup termGroup).cursor = .between (u ++ x) v :=
    (Regex.cursor_closeGroup termGroup m).trans hcm
  obtain ⟨r, y, rfl, -, hr⟩ := (Regex.agree_goes _ _ _ v hclosed _).1 ⟨f, hf, rfl⟩
  have hbehind : (Regex.alt F (.look .textStop)).Ungrouped := ⟨hF, trivial⟩
  have hgroups : f.groups = (m.closeGroup termGroup).groups := Regex.groups_of_goes hbehind hf
  have hgroup : f.group? termGroup = some ⟨s.offset, m.offset⟩ := by
    simp [Thread.group?, hgroups, Thread.closeGroup, Regex.opened_of_goes hm, Thread.openGroup]
  refine ⟨x, r, y, by simp, hx, by simpa [Regex.Matches, Look.holds] using hr, ?_⟩
  rw [hgroup, Thread.offset, Thread.offset, hs, hcm]
  rfl

/-- The group around the body of a match says where the body matched. -/
theorem goes_delimited {F B : Regex} (hF : F.Ungrouped) {u v : Text} {f : Thread}
    (h : (delimited F B).Goes (.startAt (.between u v)) f) :
    ∃ l x r y, v = l ++ x ++ r ++ y ∧ (l = [] ∧ u = [] ∨ F.Matches u l (x ++ r ++ y)) ∧
      B.Matches (u ++ l) x (r ++ y) ∧ (F.Matches (u ++ l ++ x) r y ∨ r = [] ∧ y = []) ∧
      f.group? termGroup = some ⟨Text.size (u ++ l), Text.size (u ++ l ++ x)⟩ := by
  obtain ⟨s, hs, hbody⟩ := h
  obtain ⟨l, v, rfl, hcs, hl⟩ := (Regex.agree_goes _ _ u v rfl _).1 ⟨s, hs, rfl⟩
  obtain ⟨x, r, y, rfl, hx, hr, hgroup⟩ := goes_body hF hcs hbody
  exact ⟨l, x, r, y, by simp, by simpa [Regex.Matches, Look.holds] using hl, hx, hr, hgroup⟩

/-- The text is empty or ends with one of the delimiters. -/
def Opens (ds : List Text) (u : Text) : Prop := u = [] ∨ ∃ d ∈ ds, d <:+ u

def Closes (ds : List Text) (v : Text) : Prop := v = [] ∨ ∃ d ∈ ds, d <+: v

theorem opens_append {ds : List Text} {u l : Text} (h : l = [] ∧ u = [] ∨ l ∈ ds) :
    Opens ds (u ++ l) := by
  rcases h with ⟨rfl, rfl⟩ | h
  · exact .inl rfl
  · exact .inr ⟨l, h, List.suffix_append u l⟩

theorem closes_append {ds : List Text} {r v : Text} (h : r ∈ ds ∨ r = [] ∧ v = []) :
    Closes ds (r ++ v) := by
  rcases h with h | ⟨rfl, rfl⟩
  · exact .inr ⟨r, h, List.prefix_append r v⟩
  · exact .inl rfl

theorem Opens.exists_append {ds : List Text} {t : Text} (h : Opens ds t) :
    ∃ u l, t = u ++ l ∧ (l = [] ∧ u = [] ∨ l ∈ ds) := by
  rcases h with rfl | ⟨l, hl, u, rfl⟩
  · exact ⟨[], [], rfl, .inl ⟨rfl, rfl⟩⟩
  · exact ⟨u, l, rfl, .inr hl⟩

theorem Closes.exists_append {ds : List Text} {t : Text} (h : Closes ds t) :
    ∃ r v, t = r ++ v ∧ (r ∈ ds ∨ r = [] ∧ v = []) := by
  rcases h with rfl | ⟨r, hr, v, rfl⟩
  · exact ⟨[], [], rfl, .inr ⟨rfl, rfl⟩⟩
  · exact ⟨r, v, rfl, .inl hr⟩

/-- What matches between any of the delimiters is what the body matches between two parts of the
text that end there. -/
theorem isMatch_delimited_iff {ds : List Text} (h : ds ≠ []) (B : Regex) (t : Text) :
    (delimited (anyOf false ds) B).isMatch t = true ↔
      ∃ u x v, t = u ++ x ++ v ∧ Opens ds u ∧ Closes ds v ∧ B.Matches u x v := by
  simp only [Regex.isMatch_iff, matches_delimited, matches_anyOf h]
  constructor
  · intro hm
    obtain ⟨u, _, v, rfl, l, x, r, rfl, hl, hx, hr⟩ := hm
    exact ⟨u ++ l, x, r ++ v, by simp, opens_append hl, closes_append hr, hx⟩
  · intro hm
    obtain ⟨_, x, _, rfl, hu, hv, hx⟩ := hm
    obtain ⟨u, l, rfl, hl⟩ := hu.exists_append
    obtain ⟨r, v, rfl, hr⟩ := hv.exists_append
    exact ⟨u, l ++ x ++ r, v, by simp, l, x, r, rfl, hl, hx, hr⟩

theorem exists_parse_of_compile {k : TermKey} {t : CompiledTerm}
    (h : CompiledTerm.compile k = .ok t) : ∃ f, FuzzyTerm.parse k.term = .ok f := by
  cases hf : FuzzyTerm.parse k.term with
  | ok f => exact ⟨f, rfl⟩
  | error e => simp [CompiledTerm.compile, hf] at h

/-- The matcher of a term is what its pattern stands for in the case mode. -/
theorem matcher_of_compile {k : TermKey} {t : CompiledTerm} (h : CompiledTerm.compile k = .ok t)
    {f : FuzzyTerm} (hf : FuzzyTerm.parse k.term = .ok f) (caseless : Bool) :
    Regex.ofPattern? caseless (anchored (f.body k.asPattern) k.fragment) =
      some (t.matcher caseless) := by
  simp only [CompiledTerm.compile, hf] at h
  split at h
  · obtain rfl := Except.ok.inj h
    cases caseless <;> assumption
  · cases h

theorem exact_of_compile {k : TermKey} {t : CompiledTerm} (h : CompiledTerm.compile k = .ok t)
    {f : FuzzyTerm} (hf : FuzzyTerm.parse k.term = .ok f) :
    Regex.ofPattern? false (anchored (f.body k.asPattern) k.fragment) = some t.exact :=
  matcher_of_compile h hf false

/-- What the matcher of a literal term stands for. -/
theorem matcher_eq_delimited {ds : List Text} (h : ds ≠ []) {k : TermKey} {t : CompiledTerm}
    (hk : k.asPattern = false) (hfragment : k.fragment = Delimiter.choice (ds.map escape))
    (ht : CompiledTerm.compile k = .ok t) {f : FuzzyTerm} (hf : FuzzyTerm.parse k.term = .ok f)
    (caseless : Bool) :
    t.matcher caseless = delimited (anyOf caseless ds) (.cats (f.regexes caseless)) := by
  have hmatcher := matcher_of_compile ht hf caseless
  rw [hk, hfragment] at hmatcher
  rw [← regex_anyOfItem]
  exact ofPattern?_anchored (readsAs_choice h) (by simp [Delimiter.choice]) (mayReadAs_body f)
    (head?_body_ne f) hmatcher

theorem exact_eq_delimited {ds : List Text} (h : ds ≠ []) {k : TermKey} {t : CompiledTerm}
    (hk : k.asPattern = false) (hfragment : k.fragment = Delimiter.choice (ds.map escape))
    (ht : CompiledTerm.compile k = .ok t) {f : FuzzyTerm} (hf : FuzzyTerm.parse k.term = .ok f) :
    t.exact = delimited (anyOf false ds) (.cats (f.regexes false)) :=
  matcher_eq_delimited h hk hfragment ht hf false

/-- The matcher of a literal term finds its core between wildcards and delimiters. -/
theorem isMatch_compile_iff {ds : List Text} (h : ds ≠ []) {k : TermKey} {t : CompiledTerm}
    (hk : k.asPattern = false) (hfragment : k.fragment = Delimiter.choice (ds.map escape))
    (ht : CompiledTerm.compile k = .ok t) {f : FuzzyTerm} (hf : FuzzyTerm.parse k.term = .ok f)
    (text : Text) :
    t.isMatch false text = true ↔
      ∃ u x y v, text = u ++ x ++ f.core ++ y ++ v ∧ Opens ds u ∧ Closes ds v ∧
        Wildcard.Fills f.leading x ∧ Wildcard.Fills f.trailing y := by
  have hmatch : t.isMatch false text = t.exact.isMatch text := rfl
  rw [hmatch, exact_eq_delimited h hk hfragment ht hf, isMatch_delimited_iff h]
  simp only [matches_body]
  constructor
  · intro hm
    obtain ⟨u, _, v, rfl, hu, hv, x, y, rfl, hx, hy⟩ := hm
    exact ⟨u, x, y, v, by simp, hu, hv, hx, hy⟩
  · intro hm
    obtain ⟨u, x, y, v, rfl, hu, hv, hx, hy⟩ := hm
    exact ⟨u, x ++ f.core ++ y, v, by simp, hu, hv, x, y, rfl, hx, hy⟩

theorem resolve_literals {o : Options} {ds : List Text} (hds : o.delimiters = ds.map .literal)
    (hne : ds ≠ []) (hlit : [] ∉ ds) :
    o.resolve = .ok ⟨o, Delimiter.choice (ds.map escape)⟩ := by
  simp [Options.resolve, hds, fragment_literals hne hlit, Except.map]

/-- Under literal delimiters and with case, a literal leaf holds of the texts that can be split
around its core, with its wildcards next to the core and a delimiter or an end of the text on either
side. -/
theorem eval_leaf_iff {o : Options} {ds : List Text} (hds : o.delimiters = ds.map .literal)
    (hne : ds ≠ []) (hlit : [] ∉ ds) (hcase : o.ignoreCase = false) (hregexp : o.regexp = false)
    {l : Leaf} (hl : l.kind ≠ .pattern) {f : FuzzyTerm} (hf : FuzzyTerm.parse l.text = .ok f) :
    ∃ r, o.resolve = .ok r ∧
      ∀ extractor, (CompiledTerm.compile (Context.key ⟨r, extractor⟩ l)).isOk = true →
        ∀ c : Cache, c.Faithful → ∀ text, ∃ b,
          (Query.eval ⟨r, extractor⟩ (.leaf l) text c).1 = .ok b ∧
          (b = true ↔ ∃ u x y v, text = u ++ x ++ f.core ++ y ++ v ∧ Opens ds u ∧ Closes ds v ∧
            Wildcard.Fills f.leading x ∧ Wildcard.Fills f.trailing y) := by
  let r : Resolved := ⟨o, Delimiter.choice (ds.map escape)⟩
  have hr : o.resolve = .ok r := by
    simp [Options.resolve, hds, fragment_literals hne hlit, Except.map, r]
  refine ⟨r, hr, fun extractor hok c hc text => ?_⟩
  obtain ⟨t, ht⟩ : ∃ t, CompiledTerm.compile (Context.key ⟨r, extractor⟩ l) = .ok t := by
    cases hcompile : CompiledTerm.compile (Context.key ⟨r, extractor⟩ l) with
    | ok t => exact ⟨t, rfl⟩
    | error e =>
      rw [hcompile] at hok
      cases hok
  have hkey : (Context.key ⟨r, extractor⟩ l).asPattern = false := by
    simp [Context.key, Leaf.isPattern, hl, hregexp, r]
  have hgives := Context.gives_fetch ⟨r, extractor⟩ l
  rw [ht] at hgives
  have heval : Gives (Query.eval ⟨r, extractor⟩ (.leaf l) text)
      (.ok (t.isMatch o.ignoreCase text)) := by
    rw [Query.eval]
    exact hgives.bind_ok (gives_pure _)
  rw [hcase] at heval
  exact ⟨t.isMatch false text, (heval c hc).1, isMatch_compile_iff hne hkey rfl ht hf text⟩

/-- A count in front, a run behind, a dot in the core, and delimiters that start alike. -/
theorem eval_leaf_dashes :
    ∃ r, ({ delimiters := [.literal ['-', '-'], .literal ['-', '+']], ignoreCase := false } :
        Options).resolve = .ok r ∧
      (Query.eval ⟨r, taggedFields⟩ (.leaf ⟨.word, ['2', '~', 'a', '.', 'b', '~']⟩)
        ['q', '-', '+', '-', 'y', 'a', '.', 'b', 'z', '-', '-', 'r'] {}).1 = .ok true := by
  let o : Options :=
    { delimiters := [.literal ['-', '-'], .literal ['-', '+']], ignoreCase := false }
  let l : Leaf := ⟨.word, ['2', '~', 'a', '.', 'b', '~']⟩
  have hds : o.delimiters = [['-', '-'], ['-', '+']].map .literal := rfl
  have hl : l.kind ≠ .pattern := by decide
  have hf : FuzzyTerm.parse l.text =
      .ok ⟨some (.exactly 2), ['a', '.', 'b'], some .unbounded⟩ := rfl
  obtain ⟨r, hr, h⟩ := eval_leaf_iff hds (by decide) (by decide) rfl rfl hl hf
  have hfragment : ⟨o, Delimiter.choice [['\\', '-', '\\', '-'], ['\\', '-', '\\', '+']]⟩ = r :=
    Except.ok.inj hr
  refine ⟨r, hr, ?_⟩
  subst hfragment
  obtain ⟨b, hb, hiff⟩ := h taggedFields (by decide +kernel) {} Cache.faithful_empty
    ['q', '-', '+', '-', 'y', 'a', '.', 'b', 'z', '-', '-', 'r']
  have hu : Opens [['-', '-'], ['-', '+']] ['q', '-', '+'] :=
    .inr ⟨['-', '+'], by simp, ['q'], rfl⟩
  have hv : Closes [['-', '-'], ['-', '+']] ['-', '-', 'r'] :=
    .inr ⟨['-', '-'], by simp, ['r'], rfl⟩
  have hx : Wildcard.Fills (some (.exactly 2)) ['-', 'y'] := by simp [Wildcard.Fills]
  have hy : Wildcard.Fills (some .unbounded) ['z'] := by simp [Wildcard.Fills]
  rw [hb, hiff.2 ⟨_, _, _, _, rfl, hu, hv, hx, hy⟩]

end TextSieve
