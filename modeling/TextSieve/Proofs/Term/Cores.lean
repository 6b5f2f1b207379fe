import Mathlib.Tactic.Common
import TextSieve.Proofs.Pattern.Preceded
import TextSieve.Proofs.Pattern.Steady
import TextSieve.Proofs.Term.Compiling
import TextSieve.Proofs.Term.PatternBody

/-! Wildcards next to a core that is a pattern. The core is written between its wildcards as it stands,
so where it is a choice, the wildcard in front belongs to its first branch and the wildcard behind to
its last one. Where it is not, the wildcards stand around the whole core. -/

namespace TextSieve

open Pattern Reader

def Pattern.topBranches (p : Text) : List Regex :=
  ((Reader.read? { flags := {} } 0 p).map fun e => e.allBranches.reverse.map Branch.regex).getD []

def Wildcard.Around (l t : Option Wildcard) (B : Regex) (u w v : Text) : Prop :=
  ∃ x c y, w = x ++ c ++ y ∧ Fills l x ∧ B.Matches (u ++ x) c (y ++ v) ∧ Fills t y

/-- A match of one of the branches, where the first one has the wildcard in front next to it and the
last one the wildcard behind. -/
def FuzzyTerm.Wraps (f : FuzzyTerm) (branches : List Regex) (u w v : Text) : Prop :=
  ∃ before B behind, branches = before ++ B :: behind ∧
    Wildcard.Around (if before = [] then f.leading else none)
      (if behind = [] then f.trailing else none) B u w v

/-- The counts of the term can be written in a pattern, and no group of its core has the name of the
group around it. -/
structure FuzzyTerm.Admitted (f : FuzzyTerm) : Prop where
  leading : Wildcard.Countable f.leading
  trailing : Wildcard.Countable f.trailing
  names : ∀ e ∈ Reader.read? { flags := {} } 0 f.core, termGroup ∉ e.names

variable {p : Text} {e : Reader}

theorem topBranches_of_own (h : OwnReading {} p e) :
    topBranches p = (Branch.ofItems e.items.reverse :: e.branches).reverse.map Branch.regex := by
  simp [topBranches, h.read, allBranches, branch_eq]

/-- A pattern stands for the choice between its branches. -/
theorem ofPattern?_eq_alts {P : Regex} (h : Regex.ofPattern? false p = some P) :
    P = .alts (topBranches p) := by
  obtain ⟨e, he, -, -, rfl⟩ := ofPattern?_eq_some_iff.1 h
  rw [topBranches_of_own he, choice_eq, allBranches, branch_eq]
  rfl

section

variable {u w v : Text} {f : FuzzyTerm} {B : Regex}

theorem Wildcard.around_none : Around none none B u w v ↔ B.Matches u w v := by
  simp [Around, Fills]

theorem FuzzyTerm.wraps_singleton :
    f.Wraps [B] u w v ↔ Wildcard.Around f.leading f.trailing B u w v := by
  constructor
  · rintro ⟨before, B', behind, hsplit, h⟩
    obtain ⟨rfl, rfl, rfl⟩ : before = [] ∧ B' = B ∧ behind = [] := by
      cases before with
      | nil => simpa [eq_comm] using hsplit
      | cons r before => simp at hsplit
    exact h
  · intro h
    exact ⟨[], B, [], rfl, h⟩

/-- The first branch, those in between and the last one. -/
theorem FuzzyTerm.wraps_choice {first last : Regex} {middle : List Regex} :
    f.Wraps (first :: (middle ++ [last])) u w v ↔
      Wildcard.Around f.leading none first u w v ∨ (∃ B ∈ middle, B.Matches u w v) ∨
        Wildcard.Around none f.trailing last u w v := by
  constructor
  · rintro ⟨before, B, behind, hsplit, h⟩
    rcases before with _ | ⟨r, before⟩
    · obtain ⟨rfl, rfl⟩ := List.cons.inj hsplit
      exact .inl (by simpa using h)
    · obtain ⟨rfl, hrest⟩ := List.cons.inj hsplit
      rcases List.eq_nil_or_concat behind with rfl | ⟨behind, r', rfl⟩
      · obtain ⟨rfl, hlast⟩ := List.append_inj' hrest rfl
        obtain rfl := List.singleton_inj.1 hlast
        exact .inr (.inr (by simpa using h))
      · have hrest' : middle ++ [last] = (before ++ B :: behind) ++ [r'] := by simpa using hrest
        obtain ⟨rfl, -⟩ := List.append_inj' hrest' rfl
        refine .inr (.inl ⟨B, by simp, Wildcard.around_none.1 ?_⟩)
        simpa using h
  · rintro (h | ⟨B, hB, h⟩ | h)
    · exact ⟨[], first, middle ++ [last], rfl, by simpa using h⟩
    · obtain ⟨before, behind, rfl⟩ := List.append_of_mem hB
      refine ⟨first :: before, B, behind ++ [last], by simp, ?_⟩
      simpa using Wildcard.around_none.2 h
    · exact ⟨first :: middle, last, [], by simp, by simpa using h⟩

variable {front back : List Item}

/-- Items with those of wildcards in front of them and behind. -/
theorem matches_ofItems {l t : Option Wildcard} (hfront : front.map Item.regex = Wildcard.regexes l)
    (hback : back.map Item.regex = Wildcard.regexes t) (is : List Item) :
    (Branch.ofItems (front ++ is ++ back)).regex.Matches u w v ↔
      Wildcard.Around l t (Branch.ofItems is).regex u w v := by
  simp only [Branch.ofItems, List.map_append, hfront, hback, Regex.matches_cats_append,
    Wildcard.matches_regexes]
  constructor
  · rintro ⟨_, y, rfl, ⟨x, c, rfl, hx, hc⟩, hy⟩
    exact ⟨x, c, y, rfl, hx, hc, hy⟩
  · rintro ⟨x, c, y, rfl, hx, hc, hy⟩
    exact ⟨x ++ c, y, rfl, ⟨x, c, rfl, hx, hc⟩, hy⟩

/-- What a core is read to between the items of its wildcards. -/
theorem FuzzyTerm.wraps_iff (hfront : front.map Item.regex = Wildcard.regexes f.leading)
    (hback : back.map Item.regex = Wildcard.regexes f.trailing) {bs bs' : List Branch}
    {is is' : List Item} (h : Led front bs is bs' is') :
    (Branch.anyOf (Branch.ofItems (is'.reverse ++ back) :: bs').reverse).regex.Matches u w v ↔
      f.Wraps ((Branch.ofItems is.reverse :: bs).reverse.map Branch.regex) u w v := by
  cases h with
  | first =>
    have hitems : (is ++ front.reverse).reverse ++ back = front ++ is.reverse ++ back := by simp
    rw [hitems]
    exact (matches_ofItems hfront hback is.reverse).trans wraps_singleton.symm
  | later bs first =>
    have hfirst : (Branch.ofItems (front ++ first)).regex.Matches u w v ↔
        Wildcard.Around f.leading none (Branch.ofItems first).regex u w v := by
      have h := matches_ofItems (u := u) (w := w) (v := v) (t := none) hfront List.map_nil first
      rwa [List.append_nil] at h
    have hlast : (Branch.ofItems (is.reverse ++ back)).regex.Matches u w v ↔
        Wildcard.Around none f.trailing (Branch.ofItems is.reverse).regex u w v := by
      have h := matches_ofItems (u := u) (w := w) (v := v) (l := none) List.map_nil hback is.reverse
      rwa [List.nil_append] at h
    simp only [Branch.anyOf, List.reverse_cons, List.reverse_append, List.reverse_nil,
      List.nil_append, List.cons_append, List.map_cons, List.map_append, List.map_nil, wraps_choice]
    rw [Regex.matches_alts (by simp)]
    simp [hfirst, hlast]

end

theorem shuts_piece (w : Option Wildcard) (ds : List Text) :
    Shuts (Wildcard.piece w ++ behind ds) := by
  rcases w with _ | _ | n
  · exact shuts_behind ds
  · exact .inr (.inr rfl)
  · exact .inr (.inr rfl)

section

variable {ds : List Text} {f : FuzzyTerm} {g : Item}

/-- Inside the group of the term the core is read behind `front`, unless one of its names is taken. -/
theorem read?_core (ds : List Text) (he : OwnReading {} f.core e) (hflags : e.flags = {}) (front : List Item)
    (g : Item) :
    ∃ e', Led front e.branches e.items e'.branches e'.items ∧ e'.names = e.names ∧
      e'.outers = [] ∧ Plain false e' ∧
      ((enclosed (around g) { flags := {}, items := front.reverse }).read? 0
          (f.core ++ (Wildcard.piece f.trailing ++ behind ds)) =
            (e'.enclosed (around g)).read? 0 (Wildcard.piece f.trailing ++ behind ds) ∧
          termGroup ∉ e.names ∨
        (enclosed (around g) { flags := {}, items := front.reverse }).read? 0
          (f.core ++ (Wildcard.piece f.trailing ++ behind ds)) = none ∧ termGroup ∈ e.names) := by
  obtain ⟨e', hread, hflags', hnames, houters, hbrackets, hled⟩ := exists_preceded he front
  rw [hflags] at hflags'
  refine ⟨e', hled, hnames, houters, ⟨hflags', hbrackets⟩, ?_⟩
  rcases kept_read (around g) (shuts_piece f.trailing ds) hread (Nat.zero_le _) houters
      (by simp [hflags']) with ⟨hsame, hnodup⟩ | ⟨hnone, name, hname, htaken⟩ | ⟨hverbose, -⟩
  · refine .inl ⟨hsame, ?_⟩
    have hfree : (e'.names ++ [termGroup]).Nodup := hnodup (by simp [enclosed, around])
    rw [hnames] at hfree
    exact fun hmem => (List.nodup_append.1 hfree).2.2 _ hmem _ (List.mem_singleton_self _) rfl
  · obtain rfl : name = termGroup := List.mem_singleton.1 htaken
    exact .inr ⟨hnone, hnames ▸ hname⟩
  · rw [hflags'] at hverbose
    cases hverbose

/-- The reading of a term goes on with its wildcard in front, inside the group of the term. -/
theorem read?_term_body (hds : ds ≠ []) (he : OwnReading {} f.core e) :
    read? { flags := {} } 0 (anchored (f.body true) (Delimiter.choice (ds.map escape))) =
      (enclosed (around (anyOfItem false ds)) { flags := {} }).read? 0
        (Wildcard.piece f.leading ++ (f.core ++ (Wildcard.piece f.trailing ++ behind ds))) := by
  have hbody : f.body true = Wildcard.piece f.leading ++ (f.core ++ Wildcard.piece f.trailing) := by
    simp [FuzzyTerm.body, Wildcard.piece]
  have hhead : (f.body true).head? ≠ some '?' := by
    rw [hbody]
    exact head?_append_ne (Wildcard.head?_piece_ne _)
      (head?_append_ne he.head?_ne (Wildcard.head?_piece_ne _))
  rw [read?_body hds hhead, hbody, List.append_assoc, List.append_assoc]

theorem head?_behind_ne (ds : List Text) : (behind ds).head? ≠ some '?' := by
  simp [behind, joint]

theorem head?_core_ne (ds : List Text) (he : OwnReading {} f.core e) :
    (f.core ++ (Wildcard.piece f.trailing ++ behind ds)).head? ≠ some '?' :=
  head?_append_ne he.head?_ne (head?_append_ne (Wildcard.head?_piece_ne _) (head?_behind_ne ds))

theorem append_around (g : Item) (front : List Item) :
    (enclosed (around g) { flags := {} }).append front =
      enclosed (around g) { flags := {}, items := front.reverse } := by
  simp [Reader.append, enclosed, onto, around]

variable (hds : ds ≠ []) (he : OwnReading {} f.core e) (hflags : e.flags = {})

include hds he hflags

/-- What a term is read to: the core with the items of its wildcards in its first branch and in its
last one. -/
theorem exists_read?_of_admitted (h : f.Admitted) :
    ∃ (front back : List Item) (bs : List Branch) (is : List Item),
      front.map Item.regex = Wildcard.regexes f.leading ∧
      back.map Item.regex = Wildcard.regexes f.trailing ∧ Led front e.branches e.items bs is ∧
      read? { flags := {} } 0 (anchored (f.body true) (Delimiter.choice (ds.map escape))) =
        some (anchoredRead false (anyOfItem false ds)
          (Branch.ofItems (is.reverse ++ back) :: bs).reverse (e.names ++ [termGroup])) := by
  obtain ⟨front, hfront, hleading⟩ := Wildcard.exists_readsAs_piece false h.leading
  obtain ⟨back, hback, htrailing⟩ := Wildcard.exists_readsAs_piece false h.trailing
  obtain ⟨e', hled, hnames, houters, hplain, hcore⟩ :=
    read?_core ds he hflags front (anyOfItem false ds)
  obtain ⟨hcore, -⟩ := hcore.resolve_right fun hcore => h.names e he.read hcore.2
  -- the wildcard in front, the core, the wildcard behind, then the rest of the pattern
  have hstart := hleading (enclosed (around (anyOfItem false ds)) { flags := {} }) ⟨rfl, rfl⟩ _
    (head?_core_ne ds he)
  have hend := htrailing (e'.enclosed (around (anyOfItem false ds)))
    ⟨hplain.flags, hplain.brackets⟩ _ (head?_behind_ne ds)
  have hlast : (e'.enclosed (around (anyOfItem false ds))).append back =
      (e'.append back).enclosed (around (anyOfItem false ds)) := rfl
  refine ⟨front, back, e'.branches, e'.items, hfront, hback, hled, ?_⟩
  rw [read?_term_body hds he, hstart, append_around, hcore, hend, hlast,
    read?_enclosed_behind hds (s := e'.append back) houters hplain.brackets, allBranches, branch_eq]
  simp [Reader.append, hnames]

/-- A term that is read has nothing in it that is refused. -/
theorem admitted_of_read? {s : Reader} (h : read? { flags := {} } 0
    (anchored (f.body true) (Delimiter.choice (ds.map escape))) = some s) : f.Admitted := by
  rw [read?_term_body hds he] at h
  have hleading : Wildcard.Countable f.leading := by
    by_contra hrefused
    rw [Wildcard.refuses_piece hrefused _ ⟨rfl, rfl⟩ _ (head?_core_ne ds he)] at h
    cases h
  obtain ⟨front, -, hreads⟩ := Wildcard.exists_readsAs_piece false hleading
  obtain ⟨e', -, -, -, hplain, hcore⟩ :=
    read?_core ds he hflags front (anyOfItem false ds)
  rw [hreads _ ⟨rfl, rfl⟩ _ (head?_core_ne ds he), append_around] at h
  rcases hcore with ⟨hcore, hfree⟩ | ⟨hnone, -⟩
  · refine ⟨hleading, ?_, fun e'' he'' => ?_⟩
    · by_contra hrefused
      have hnone := Wildcard.refuses_piece hrefused (e'.enclosed (around (anyOfItem false ds)))
        ⟨hplain.flags, hplain.brackets⟩ _ (head?_behind_ne ds)
      rw [hcore, hnone] at h
      cases h
    · obtain rfl := Option.some.inj (he.read.symm.trans he'')
      exact hfree
  · rw [hnone] at h
    cases h

end

section

variable {ds : List Text} {k : TermKey} {f : FuzzyTerm} (hds : ds ≠ [])
  (hk : k.asPattern = true) (hfragment : k.fragment = Delimiter.choice (ds.map escape))
  (hf : FuzzyTerm.parse k.term = .ok f) (he : OwnReading {} f.core e) (hflags : e.flags = {})

include hds hk hfragment hf he hflags

/-- A term that compiles has counts and names that are admitted. -/
theorem admitted_of_isOk_compile (hok : (CompiledTerm.compile k).isOk = true) : f.Admitted := by
  rw [isOk_compile_iff hf, hk] at hok
  obtain ⟨r, hr⟩ := Option.isSome_iff_exists.1 (hok false)
  obtain ⟨s, hs, -⟩ := ofPattern?_eq_some_iff.1 hr
  exact admitted_of_read? hds he hflags (hfragment ▸ hs.read)

/-- Between its delimiters such a term finds the branches of its core, the first and the last of them
with a wildcard. -/
theorem isMatch_core_iff {t : CompiledTerm} (ht : CompiledTerm.compile k = .ok t) (text : Text) :
    t.isMatch false text = true ↔
      ∃ u w v, text = u ++ w ++ v ∧ Opens ds u ∧ Closes ds v ∧
        f.Wraps (topBranches f.core) u w v := by
  have hadmitted : f.Admitted :=
    admitted_of_isOk_compile hds hk hfragment hf he hflags (by rw [ht]; rfl)
  obtain ⟨front, back, bs, is, hfront, hback, hled, hread⟩ :=
    exists_read?_of_admitted hds he hflags hadmitted
  obtain ⟨s, hs, -, -, hregex⟩ := ofPattern?_eq_some_iff.1 (exact_of_compile ht hf)
  obtain rfl : anchoredRead false (anyOfItem false ds)
      (Branch.ofItems (is.reverse ++ back) :: bs).reverse (e.names ++ [termGroup]) = s := by
    rw [hk, hfragment] at hs
    exact Option.some.inj (hread.symm.trans hs.read)
  have hmatch : t.isMatch false text = t.exact.isMatch text := rfl
  rw [hmatch, ← hregex, regex_anchoredRead, regex_anyOfItem, isMatch_delimited_iff hds]
  simp only [FuzzyTerm.wraps_iff hfront hback hled, topBranches_of_own he]

end

theorem keepsFlags_of_plainGroups (h : PlainGroups p) : Delimiter.KeepsFlags false p := by
  intro e he
  exact (steady_of_read? rfl h he).flags

/-- Under literal delimiters and with case, a term whose core is a pattern that keeps the flags is an
error if it does not compile, as where its wildcards or its names are not admitted. Otherwise it
holds of the texts with one of the branches of the core between delimiters or the ends of the text,
where the wildcard in front belongs to the first branch and the one behind to the last. If there is
but one branch, the wildcards stand around the whole core. -/
theorem eval_core_iff {o : Options} {ds : List Text} (hds : o.delimiters = ds.map .literal)
    (hne : ds ≠ []) (hlit : [] ∉ ds) (hcase : o.ignoreCase = false) {l : Leaf}
    (hl : l.kind = .pattern ∨ o.regexp = true) {f : FuzzyTerm}
    (hf : FuzzyTerm.parse l.text = .ok f) {P : Regex}
    (hcore : Regex.ofPattern? false f.core = some P) (hkeeps : Delimiter.KeepsFlags false f.core) :
    ∃ r, o.resolve = .ok r ∧ P = .alts (topBranches f.core) ∧ ∀ extractor,
      ((CompiledTerm.compile (Context.key ⟨r, extractor⟩ l)).isOk = true → f.Admitted) ∧
      ∀ c : Cache, c.Faithful → ∀ text,
        ((CompiledTerm.compile (Context.key ⟨r, extractor⟩ l)).isOk ≠ true →
          (Query.eval ⟨r, extractor⟩ (.leaf l) text c).1 = .error (.pattern (.term l.text))) ∧
        ((CompiledTerm.compile (Context.key ⟨r, extractor⟩ l)).isOk = true →
          ∃ b, (Query.eval ⟨r, extractor⟩ (.leaf l) text c).1 = .ok b ∧
            (b = true ↔ ∃ u w v, text = u ++ w ++ v ∧ Opens ds u ∧ Closes ds v ∧
              f.Wraps (topBranches f.core) u w v) ∧
            ((topBranches f.core).length = 1 →
              (b = true ↔ ∃ u w v, text = u ++ w ++ v ∧ Opens ds u ∧ Closes ds v ∧
                Wildcard.Around f.leading f.trailing P u w v))) := by
  let r : Resolved := ⟨o, Delimiter.choice (ds.map escape)⟩
  have hbranches := ofPattern?_eq_alts hcore
  obtain ⟨e, he, -⟩ := ofPattern?_eq_some_iff.1 hcore
  have hflags : e.flags = {} := hkeeps e he.read
  refine ⟨r, resolve_literals hds hne hlit, hbranches, fun extractor => ?_⟩
  let k := Context.key ⟨r, extractor⟩ l
  have hkey : k.asPattern = true := by
    rcases hl with hl | hl <;> simp [k, Context.key, Leaf.isPattern, hl, r]
  refine ⟨admitted_of_isOk_compile hne hkey rfl hf he hflags, fun c hc text => ?_⟩
  constructor
  · intro hrefused
    exact (gives_eval_leaf_error (compile_eq_error hf hrefused) text c hc).1
  · intro hok
    obtain ⟨t, ht⟩ := exists_of_isOk hok
    have heval := (gives_eval_leaf ht text c hc).1
    simp only [Context.ignoreCase, r, hcase] at heval
    have hiff := isMatch_core_iff hne hkey rfl hf he hflags ht text
    refine ⟨t.isMatch false text, heval, hiff, fun hone => ?_⟩
    obtain ⟨B, hB⟩ := List.length_eq_one_iff.1 hone
    have hP : P = B := by
      rw [hbranches, hB]
      rfl
    rw [hB] at hiff
    simpa only [hP, FuzzyTerm.wraps_singleton] using hiff

/-- A choice in parentheses, with a count in front and a run behind. -/
theorem eval_core_parenthesized :
    ∃ r, ({ delimiters := [.literal [',', ' '], .literal ['-']], ignoreCase := false } :
        Options).resolve = .ok r ∧
      (Query.eval ⟨r, taggedFields⟩
        (.leaf ⟨.pattern, ['2', '~', '(', '?', ':', 'a', '|', 'b', 'c', ')', '~']⟩)
        ['k', ',', ' ', 'z', '-', 'b', 'c', '!', '-', 'w'] {}).1 = .ok true := by
  let o : Options := { delimiters := [.literal [',', ' '], .literal ['-']], ignoreCase := false }
  let l : Leaf := ⟨.pattern, ['2', '~', '(', '?', ':', 'a', '|', 'b', 'c', ')', '~']⟩
  let f : FuzzyTerm :=
    ⟨some (.exactly 2), ['(', '?', ':', 'a', '|', 'b', 'c', ')'], some .unbounded⟩
  let P : Regex := .alt (.one (.single 'a')) (.cat (.one (.single 'b')) (.one (.single 'c')))
  have hds : o.delimiters = [[',', ' '], ['-']].map .literal := rfl
  have hf : FuzzyTerm.parse l.text = .ok f := rfl
  have hcore : Regex.ofPattern? false f.core = some P := by decide +kernel
  have hplain : PlainGroups f.core := by decide +kernel
  obtain ⟨r, hr, -, h⟩ := eval_core_iff hds (by simp) (by simp) rfl (.inl rfl) hf hcore
    (keepsFlags_of_plainGroups hplain)
  have hfragment : ⟨o, Delimiter.choice [escape [',', ' '], escape ['-']]⟩ = r := Except.ok.inj hr
  refine ⟨r, hr, ?_⟩
  subst hfragment
  obtain ⟨-, h⟩ := h taggedFields
  obtain ⟨-, hgives⟩ := h {} Cache.faithful_empty
    ['k', ',', ' ', 'z', '-', 'b', 'c', '!', '-', 'w']
  obtain ⟨b, hb, -, hiff⟩ := hgives (by decide +kernel)
  have hu : Opens [[',', ' '], ['-']] ['k', ',', ' '] := .inr ⟨[',', ' '], by simp, ['k'], rfl⟩
  have hv : Closes [[',', ' '], ['-']] ['-', 'w'] := .inr ⟨['-'], by simp, ['w'], rfl⟩
  have haround : Wildcard.Around f.leading f.trailing P ['k', ',', ' ']
      ['z', '-', 'b', 'c', '!'] ['-', 'w'] := by
    refine ⟨['z', '-'], ['b', 'c'], ['!'], rfl, by simp [f, Wildcard.Fills], ?_,
      by simp [f, Wildcard.Fills]⟩
    exact .inr ⟨['b'], ['c'], rfl, ⟨'b', rfl, rfl⟩, ⟨'c', rfl, rfl⟩⟩
  rw [hb, (hiff (by decide +kernel)).2 ⟨_, _, _, rfl, hu, hv, haround⟩]

/-- Without the parentheses the second branch has no wildcard in front: a character and a match of
the core fill the whole text, but the term does not hold of it. -/
theorem eval_core_choice :
    ∃ r P, ({ delimiters := [.literal [' ']], ignoreCase := false } : Options).resolve = .ok r ∧
      FuzzyTerm.parse ['~', 'a', '|', 'b'] = .ok ⟨some .unbounded, ['a', '|', 'b'], none⟩ ∧
      Regex.ofPattern? false ['a', '|', 'b'] = some P ∧ PlainGroups ['a', '|', 'b'] ∧
      (Query.eval ⟨r, taggedFields⟩ (.leaf ⟨.pattern, ['~', 'a', '|', 'b']⟩) ['x', 'b'] {}).1 =
        .ok false ∧
      ∃ u w v, ['x', 'b'] = u ++ w ++ v ∧ Opens [[' ']] u ∧ Closes [[' ']] v ∧
        Wildcard.Around (some .unbounded) none P u w v := by
  let P : Regex := .alt (.one (.single 'a')) (.one (.single 'b'))
  have haround : Wildcard.Around (some .unbounded) none P [] ['x', 'b'] [] := by
    refine ⟨['x'], ['b'], [], rfl, by simp [Wildcard.Fills], ?_, rfl⟩
    exact .inr ⟨'b', rfl, rfl⟩
  exact ⟨_, P, rfl, rfl, by decide +kernel, by decide +kernel, by decide +kernel,
    [], ['x', 'b'], [], rfl, .inl rfl, .inl rfl, haround⟩

end TextSieve
