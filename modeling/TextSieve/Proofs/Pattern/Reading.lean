import Mathlib.Data.List.TakeDrop
import Mathlib.Tactic.Common
import TextSieve.Term.Compiled

/-! Reading a pattern piece by piece. A piece takes the reader from one state to another whatever
follows it, as long as no `?` does, which would make a repetition sign before it lazy. Pieces are
put together behind one another, as the branches of a choice and into groups. -/

namespace TextSieve

namespace Text

theorem digitsValue_ofNat (n : Nat) : digitsValue (ofNat n) = n :=
  Nat.ofDigitChars_ten_toDigits

theorem ofNat_ne_nil (n : Nat) : ofNat n ≠ [] :=
  Nat.toDigits_ne_nil

theorem isDigit_of_mem_ofNat {n : Nat} {c : Char} (h : c ∈ ofNat n) : c.isDigit = true :=
  Nat.isDigit_of_mem_toDigits (by decide) (by decide) h

end Text

theorem Unicode.isBlank_eq_false_of_isDigit {c : Char} (h : c.isDigit = true) :
    isBlank c = false := by
  have hc : 48 ≤ c.toNat ∧ c.toNat ≤ 57 := by
    simpa using Char.isDigit_iff_toNat.1 h
  simp [isBlank]
  omega

namespace Pattern

/-- Parts behind one another, or beside one another, are one level above the deepest. -/
theorem depthOf_le {n : Nat} {depths : List Nat} (h : ∀ d ∈ depths, d ≤ n) :
    depthOf depths ≤ n + 1 := by
  have hmax : ∀ (ds : List Nat) (m : Nat), m ≤ n → (∀ d ∈ ds, d ≤ n) → ds.foldl max m ≤ n := by
    intro ds
    induction ds with
    | nil => exact fun m hm _ => hm
    | cons d ds ih =>
      intro m hm hds
      obtain ⟨hd, hds⟩ := List.forall_mem_cons.1 hds
      exact ih _ (Nat.max_le.2 ⟨hm, hd⟩) hds
  match depths with
  | [] => exact Nat.zero_le _
  | [d] => exact Nat.le_succ_of_le (h d List.mem_cons_self)
  | d :: d' :: ds => exact Nat.succ_le_succ (hmax _ 0 (Nat.zero_le n) h)

def Branch.ofItems (items : List Item) : Branch :=
  ⟨.cats (items.map Item.regex), depthOf (items.reverse.map Item.depth)⟩

def Branch.anyOf (bs : List Branch) : Branch :=
  ⟨.alts (bs.map Branch.regex), depthOf (bs.reverse.map Branch.depth)⟩

namespace Reader

/-- The reader is outside brackets, under no flag but the one for case. -/
structure Plain (caseless : Bool) (s : Reader) : Prop where
  flags : s.flags = { caseless := caseless }
  brackets : s.brackets = []

/-- Reading the piece `p` leads from `s` to `s'`. -/
def Reads (s : Reader) (p : Text) (s' : Reader) : Prop :=
  ∀ rest, rest.head? ≠ some '?' → s.read? 0 (p ++ rest) = s'.read? 0 rest

def append (s : Reader) (items : List Item) : Reader :=
  { s with items := items.reverse ++ s.items }

def allBranches (s : Reader) : List Branch := s.branch :: s.branches

theorem choice_eq (s : Reader) : s.choice = Branch.anyOf s.allBranches.reverse := by
  simp [choice, Branch.anyOf, allBranches]

/-- The piece `p` stands for these items, one behind the other. -/
def ReadsAs (caseless : Bool) (p : Text) (items : List Item) : Prop :=
  ∀ s, Plain caseless s → s.Reads p (s.append items)

/-- The piece `p` stands for these branches of the group it is in, from the beginning of the first
to the end of the last. -/
def ReadsChoice (caseless : Bool) (p : Text) (bs : List Branch) : Prop :=
  ∀ s, Plain caseless s → s.items = [] → ∃ s', s.Reads p s' ∧
    s' = { s with branches := s'.branches, items := s'.items } ∧
    s'.allBranches = bs.reverse ++ s.branches

variable {caseless : Bool} {s s' s'' : Reader} {p q : Text}

@[simp] theorem read?_nil (s : Reader) (n : Nat) : s.read? n [] = some s := by
  unfold read?
  rfl

theorem read?_skip (s : Reader) (x rest : Text) :
    s.read? x.length (x ++ rest) = s.read? 0 rest := by
  induction x with
  | nil => rfl
  | cons c x ih => simpa [read?] using ih

theorem read?_cons (s : Reader) (c : Char) (rest : Text) :
    s.read? 0 (c :: rest) = (s.step? c rest).bind fun (s, n) => s.read? n rest := by
  simp only [read?]
  cases s.step? c rest with
  | none => rfl
  | some x => rfl

theorem Plain.step? (h : Plain caseless s) (c : Char) (rest : Text) :
    s.step? c rest = s.outside? c rest := by
  simp [Reader.step?, h.flags, h.brackets]

theorem Plain.append (h : Plain caseless s) (items : List Item) : Plain caseless (s.append items) :=
  ⟨h.flags, h.brackets⟩

theorem read?_of_step {c : Char} {x rest : Text}
    (h : s.step? c (x ++ rest) = some (s', x.length)) :
    s.read? 0 (c :: (x ++ rest)) = s'.read? 0 rest := by
  rw [read?_cons, h]
  exact read?_skip s' x rest

/-- A step that takes `x` of what follows the character, where `x` may be nothing. -/
theorem reads_of_step (c : Char) (x : Text)
    (h : ∀ rest, rest.head? ≠ some '?' → s.step? c (x ++ rest) = some (s', x.length)) :
    s.Reads (c :: x) s' :=
  fun rest hrest => read?_of_step (h rest hrest)

theorem Reads.refl (s : Reader) : s.Reads [] s := fun _ _ => rfl

theorem head?_append_ne {a : Char} (hq : q.head? ≠ some a) {rest : Text}
    (hrest : rest.head? ≠ some a) : (q ++ rest).head? ≠ some a := by
  cases q with
  | nil => exact hrest
  | cons c q => exact hq

theorem Reads.trans (h : s.Reads p s') (h' : s'.Reads q s'') (hq : q.head? ≠ some '?') :
    s.Reads (p ++ q) s'' := by
  intro rest hrest
  rw [List.append_assoc, h _ (head?_append_ne hq hrest), h' _ hrest]

@[simp] theorem upTo_append (x rest : Text) (s : Reader) :
    upTo (x ++ rest) s rest = (s, x.length) := by
  simp [upTo]

/-- There is nothing to be repeated at the beginning of a pattern. -/
theorem head?_ne_of_read? {f : Flags} {t : Text} (h : read? { flags := f } 0 t = some s) :
    t.head? ≠ some '?' := by
  intro hq
  obtain ⟨t, rfl⟩ := List.head?_eq_some_iff.1 hq
  have hblank : Unicode.isBlank '?' = false := rfl
  simp [read?_cons, Reader.step?, hblank, outside?, sign?, repeat?] at h

def letter (caseless : Bool) (c : Char) : Regex :=
  .one (if caseless then .caseless c else .single c)

def letterItem (caseless : Bool) (c : Char) : Item :=
  .term (letter caseless c) 0

theorem literal?_plain (c : Char) :
    literal? { caseless := caseless } c false = some (letter caseless c) := by
  cases caseless <;> rfl

theorem outside?_literal {c : Char} (h : isMeta c = false) (rest : Text) :
    s.outside? c rest = (literal? s.flags c false).map fun r => (s.push r 0, 0) := by
  unfold isMeta at h
  unfold outside?
  split <;> simp_all

theorem readsAs_char {c : Char} (h : isMeta c = false) :
    ReadsAs caseless [c] [letterItem caseless c] := by
  intro s hs
  refine reads_of_step c [] fun rest _ => ?_
  rw [hs.step?, outside?_literal h, hs.flags, literal?_plain]
  rfl

theorem readsAs_escapedChar {c : Char} (h : isMeta c = true) :
    ReadsAs caseless ['\\', c] [letterItem caseless c] := by
  intro s hs
  refine reads_of_step '\\' [c] fun rest _ => ?_
  have hread : Atom.read? s.flags (c :: rest) = some (.literal c false, rest) := by
    simp [Atom.read?, h]
  rw [hs.step?]
  simp only [outside?, List.cons_append, List.nil_append, hread, Option.bind_some, atom?]
  rw [hs.flags, literal?_plain]
  exact congrArg some (upTo_append [c] rest _)

theorem ReadsAs.nil : ReadsAs caseless [] [] :=
  fun s _ => Reads.refl s

theorem append_append (s : Reader) (is js : List Item) :
    (s.append is).append js = s.append (is ++ js) := by
  simp [append]

theorem ReadsAs.append {is js : List Item} (h : ReadsAs caseless p is)
    (h' : ReadsAs caseless q js) (hq : q.head? ≠ some '?') :
    ReadsAs caseless (p ++ q) (is ++ js) := by
  intro s hs
  rw [← append_append]
  exact (h s hs).trans (h' _ (hs.append is)) hq

theorem head?_escape_ne (t : Text) : (escape t).head? ≠ some '?' := by
  cases t with
  | nil => simp
  | cons c t =>
    rw [escape_cons, escapeChar]
    split
    · simp
    · rename_i h
      intro he
      obtain rfl : c = '?' := by simpa using he
      exact h rfl

theorem readsAs_escape (t : Text) : ReadsAs caseless (escape t) (t.map (letterItem caseless)) := by
  induction t with
  | nil => exact .nil
  | cons c t ih =>
    have hc : ReadsAs caseless (escapeChar c) [letterItem caseless c] := by
      unfold escapeChar
      split
      · rename_i h
        exact readsAs_escapedChar h
      · rename_i h
        exact readsAs_char (by simpa using h)
    exact hc.append ih (head?_escape_ne t)

theorem readsAs_look {c : Char} {l : Look}
    (h : (c, l) = ('^', .textStart) ∨ (c, l) = ('$', .textStop)) :
    ReadsAs caseless [c] [.term (.look l) 0] := by
  intro s hs
  refine reads_of_step c [] fun rest _ => ?_
  rw [hs.step?]
  rcases h with h | h <;> obtain ⟨rfl, rfl⟩ := Prod.mk.inj h <;>
    simp [outside?, hs.flags, startLook, stopLook, push, Reader.append]

theorem allBranches_append {is : List Item} (h : s.items = []) :
    (s.append is).allBranches = .ofItems is :: s.branches := by
  simp [allBranches, branch, Reader.append, h, Branch.ofItems]

theorem ReadsAs.choice {is : List Item} (h : ReadsAs caseless p is) :
    ReadsChoice caseless p [.ofItems is] := by
  intro s hs hitems
  exact ⟨s.append is, h s hs, rfl, allBranches_append hitems⟩

/-- A bar ends a branch. -/
theorem read?_bar (hverbose : s.flags.verbose = false) (hbrackets : s.brackets = [])
    (rest : Text) : s.read? 0 ('|' :: rest) =
      ({ s with branches := s.allBranches, items := [] } : Reader).read? 0 rest := by
  have hstep : s.step? '|' rest = some ({ s with branches := s.allBranches, items := [] }, 0) := by
    simp [Reader.step?, hverbose, hbrackets, outside?, allBranches]
  rw [read?_cons, hstep]
  rfl

theorem reads_bar (hs : Plain caseless s) :
    s.Reads ['|'] { s with branches := s.allBranches, items := [] } :=
  fun rest _ => read?_bar (by rw [hs.flags]) hs.brackets rest

theorem ReadsAs.or {is : List Item} {bs : List Branch} (h : ReadsAs caseless p is)
    (h' : ReadsChoice caseless q bs) (hq : q.head? ≠ some '?') :
    ReadsChoice caseless (p ++ '|' :: q) (.ofItems is :: bs) := by
  intro s hs hitems
  obtain ⟨s', hr', hs', hbs⟩ :=
    h' { s.append is with branches := (s.append is).allBranches, items := [] }
      ⟨hs.flags, hs.brackets⟩ rfl
  refine ⟨s', (h s hs).trans ((reads_bar (hs.append is)).trans hr' hq) (by simp), hs', ?_⟩
  rw [hbs]
  simp [allBranches_append hitems]

def groupItem (name : Option Text) (bs : List Branch) : Item :=
  .term
    (match name with
      | some n => .group n (Branch.anyOf bs).regex
      | none => (Branch.anyOf bs).regex)
    ((Branch.anyOf bs).depth + 1)

theorem step?_close {o : Outer} {outers : List Outer} (hbrackets : s.brackets = [])
    (houters : s.outers = o :: outers) (rest : Text) :
    s.step? ')' rest = some ({ s with
      flags := o.flags
      branches := o.branches
      items := groupItem o.name s.allBranches.reverse :: o.items
      outers := outers }, 0) := by
  have hblank : Unicode.isBlank ')' = false := rfl
  simp [step?, outside?, hbrackets, closeGroup?, houters, choice_eq, hblank]
  rfl

/-- A sign that opens a group and its closing parenthesis make an item of the choice between
them. -/
theorem readsAs_group_of_open {opening : Text} {name : Option Text} {names : List Text}
    {bs : List Branch} (hs : Plain caseless s)
    (hopen : s.Reads opening { s.openGroup s.flags name with names := names })
    (h : ReadsChoice caseless p bs) (hp : p.head? ≠ some '?') :
    s.Reads (opening ++ p ++ [')']) { s.append [groupItem name bs] with names := names } := by
  obtain ⟨s', hr, he, hbs⟩ := h { s.openGroup s.flags name with names := names }
    ⟨hs.flags, hs.brackets⟩ rfl
  refine (hopen.trans hr hp).trans ?_ (by simp)
  refine reads_of_step ')' [] fun rest _ => ?_
  have hbrackets : s'.brackets = [] := by
    rw [he]
    exact hs.brackets
  have houters : s'.outers = ⟨s.flags, name, s.branches, s.items⟩ :: s.outers := by rw [he]; rfl
  have hall : s'.allBranches.reverse = bs := by
    rw [hbs]
    simp [openGroup]
  rw [List.nil_append, step?_close hbrackets houters, hall, he]
  rfl

theorem reads_openPlain (hs : Plain caseless s) :
    s.Reads ['(', '?', ':'] (s.openGroup s.flags none) := by
  refine reads_of_step '(' ['?', ':'] fun rest _ => ?_
  rw [hs.step?]
  simp [outside?, open?, openFlags?, Flags.skip, hs.flags, Flags.withLetters?, openGroup, upTo]
  omega

theorem readsAs_group {bs : List Branch} (h : ReadsChoice caseless p bs) (hp : p.head? ≠ some '?') :
    ReadsAs caseless (['(', '?', ':'] ++ p ++ [')']) [groupItem none bs] := by
  intro s hs
  exact readsAs_group_of_open hs (reads_openPlain hs) h hp

/-- A named group is opened whatever follows, be it a `?`. -/
theorem read?_openNamed {name : Text} (hs : Plain caseless s) (hname : isName name = true)
    (hstop : '>' ∉ name) (hnew : name ∉ s.names) (rest : Text) :
    s.read? 0 (['(', '?', 'P', '<'] ++ name ++ ['>'] ++ rest) =
      ({ s.openGroup s.flags (some name) with names := name :: s.names } : Reader).read? 0 rest := by
  have hall : ∀ c ∈ name, (c != '>') = true := fun c hc => by
    simpa using ne_of_mem_of_not_mem hc hstop
  have hopen : s.open? (['?', 'P', '<'] ++ name ++ ['>'] ++ rest) =
      some ({ s.openGroup s.flags (some name) with names := name :: s.names }, rest) := by
    simp [open?, openNamed?, Flags.skip, hs.flags, List.takeWhile_append_of_pos hall,
      List.dropWhile_append_of_pos hall, hname, hnew]
  have hstep : s.step? '(' (['?', 'P', '<'] ++ name ++ ['>'] ++ rest) =
      some ({ s.openGroup s.flags (some name) with names := name :: s.names },
        (['?', 'P', '<'] ++ name ++ ['>']).length) := by
    rw [hs.step?]
    simp only [outside?, hopen, Option.map_some]
    exact congrArg some (upTo_append _ rest _)
  exact read?_of_step hstep

theorem reads_openNamed {name : Text} (hs : Plain caseless s) (hname : isName name = true)
    (hstop : '>' ∉ name) (hnew : name ∉ s.names) :
    s.Reads (['(', '?', 'P', '<'] ++ name ++ ['>'])
      { s.openGroup s.flags (some name) with names := name :: s.names } :=
  fun rest _ => read?_openNamed hs hname hstop hnew rest

theorem read?_openNamed_taken {name : Text} (hs : Plain caseless s) (hstop : '>' ∉ name)
    (htaken : name ∈ s.names) (rest : Text) :
    s.read? 0 (['(', '?', 'P', '<'] ++ name ++ ['>'] ++ rest) = none := by
  have hall : ∀ c ∈ name, (c != '>') = true := fun c hc => by
    simpa using ne_of_mem_of_not_mem hc hstop
  have hopen : s.open? (['?', 'P', '<'] ++ name ++ ['>'] ++ rest) = none := by
    simp [open?, openNamed?, Flags.skip, hs.flags, List.takeWhile_append_of_pos hall,
      List.dropWhile_append_of_pos hall, htaken]
  have hread : s.read? 0 ('(' :: (['?', 'P', '<'] ++ name ++ ['>'] ++ rest)) = none := by
    rw [read?_cons, hs.step?]
    simp only [outside?, hopen, Option.map_none, Option.bind_none]
  exact hread

def anyButNewline : CharSet := .compl (.single '\n')

theorem reads_dot (hs : Plain caseless s) :
    s.Reads ['.'] (s.append [.term (.one anyButNewline) 0]) := by
  refine reads_of_step '.' [] fun rest _ => ?_
  rw [hs.step?]
  simp [outside?, dot?, hs.flags, push, Reader.append, anyButNewline]

theorem readsAs_dots :
    ReadsAs caseless ['.', '*'] [.term (.rep (.one anyButNewline) 0 none true) 1] := by
  intro s hs rest hrest
  have hstar : (s.append [.term (.one anyButNewline) 0]).Reads ['*']
      (s.append [.term (.rep (.one anyButNewline) 0 none true) 1]) := by
    refine reads_of_step '*' [] fun rest hrest => ?_
    rw [(hs.append _).step?]
    simp [outside?, sign?, repeat?, Reader.append, hs.flags, hrest, Regex.repeated,
      Regex.isEmptyOnly]
  exact (reads_dot hs).trans hstar (by simp) rest hrest

theorem trimBlank_of_digits {t : Text} (h : ∀ c ∈ t, c.isDigit = true) : trimBlank t = t := by
  have trim : ∀ t : Text, (∀ c ∈ t, c.isDigit = true) → Text.trimStart t = t := by
    intro t ht
    cases t with
    | nil => rfl
    | cons c t =>
      have hc := Unicode.isBlank_eq_false_of_isDigit (ht c List.mem_cons_self)
      simp [Text.trimStart, hc]
  have hrev : ∀ c ∈ t.reverse, c.isDigit = true := fun c hc => h c (List.mem_reverse.1 hc)
  rw [trimBlank, trim t h, trim t.reverse hrev, List.reverse_reverse]

theorem bounds?_ofNat (n : Nat) :
    bounds? (Text.ofNat n) = if n ≤ countLimit then some (n, some n) else none := by
  have hdigits : ∀ c ∈ Text.ofNat n, c.isDigit = true := fun c hc => Text.isDigit_of_mem_ofNat hc
  have hcut : Text.cut? [','] (Text.ofNat n) = none :=
    Text.cut?_singleton_eq_none fun hc => absurd (hdigits ',' hc) (by decide)
  have hall : (Text.ofNat n).all Char.isDigit = true := List.all_eq_true.2 hdigits
  unfold bounds? count?
  simp only [hcut, trimBlank_of_digits hdigits, ne_eq, Text.ofNat_ne_nil, not_false_eq_true, hall,
    Text.digitsValue_ofNat, true_and]
  split <;> rfl

theorem braced?_append {f : Flags} (hf : f.verbose = false) {t : Text} (ht : '\x7d' ∉ t)
    (rest : Text) : f.braced? false (t ++ '\x7d' :: rest) = some (t, rest) := by
  induction t with
  | nil => simp [Flags.braced?, hf]
  | cons c t ih =>
    have hc : c ≠ '\x7d' := fun h => ht (h ▸ List.mem_cons_self)
    simp [Flags.braced?, hf, hc, ih fun h => ht (List.mem_cons_of_mem c h)]

/-- What the counted repetition of a dot reads to; too large a count is refused. -/
theorem read?_countedDots (hs : Plain caseless s) (n : Nat) {rest : Text}
    (hrest : rest.head? ≠ some '?') :
    s.read? 0 (['.', '\x7b'] ++ Text.ofNat n ++ ['\x7d'] ++ rest) =
      if n ≤ countLimit then
        (s.append [.term (.repeated (.one anyButNewline) n (some n) true) 1]).read? 0 rest
      else none := by
  have hbrace : '\x7d' ∉ Text.ofNat n := fun h => absurd (Text.isDigit_of_mem_ofNat h) (by decide)
  have hcounted : (s.append [.term (.one anyButNewline) 0]).counted?
      (Text.ofNat n ++ '\x7d' :: rest) =
      if n ≤ countLimit then
        some (s.append [.term (.repeated (.one anyButNewline) n (some n) true) 1],
          (Text.ofNat n ++ ['\x7d']).length)
      else none := by
    unfold counted?
    rw [braced?_append (by simp [Reader.append, hs.flags]) hbrace, Option.bind_some]
    simp only [bounds?_ofNat]
    split
    · have hskip : (s.append [.term (.one anyButNewline) 0]).flags.skip rest = rest := by
        simp [Flags.skip, Reader.append, hs.flags]
      simp only [Option.bind_some, hskip]
      split
      · exact absurd rfl hrest
      · have hrepeat : (s.append [.term (.one anyButNewline) 0]).repeat? n (some n) false =
            some (s.append [.term (.repeated (.one anyButNewline) n (some n) true) 1]) := by
          simp [repeat?, Reader.append, hs.flags]
        rw [hrepeat, Option.map_some, ← upTo_append (Text.ofNat n ++ ['\x7d']) rest,
          List.append_assoc]
        rfl
    · rfl
  have hsplit : ['.', '\x7b'] ++ Text.ofNat n ++ ['\x7d'] ++ rest =
      ['.'] ++ '\x7b' :: (Text.ofNat n ++ '\x7d' :: rest) := by simp
  rw [hsplit, reads_dot hs _ (by simp), read?_cons, (hs.append _).step?]
  simp only [outside?, hcounted]
  split
  · have := read?_skip (s.append [.term (.repeated (.one anyButNewline) n (some n) true) 1])
      (Text.ofNat n ++ ['\x7d']) rest
    simpa using this
  · rfl

theorem ReadsAs.read?_end {items : List Item} (h : ReadsAs caseless p items)
    (hs : Plain caseless s) : s.read? 0 p = some (s.append items) := by
  have hread := h s hs [] (by simp)
  rwa [List.append_nil, read?_nil] at hread

end Reader

open Reader

variable {caseless : Bool} {p : Text}

/-- What a text is read to on its own. -/
structure OwnReading (f : Flags) (p : Text) (e : Reader) : Prop where
  read : read? { flags := f } 0 p = some e
  outers : e.outers = []
  brackets : e.brackets = []

theorem Reader.ReadsAs.ownReading {items : List Item} (h : ReadsAs caseless p items) :
    OwnReading { caseless := caseless } p
      (Reader.append { flags := { caseless := caseless } } items) where
  read := h.read?_end ⟨rfl, rfl⟩
  outers := rfl
  brackets := rfl

/-- A text is a pattern if it can be read and what it is read to is within the limits. -/
theorem ofPattern?_eq_some_iff {r : Regex} :
    Regex.ofPattern? caseless p = some r ↔
      ∃ e, OwnReading { caseless := caseless } p e ∧ e.choice.depth ≤ nestLimit ∧
        e.choice.regex.size ≤ Regex.sizeLimit ∧ e.choice.regex = r := by
  unfold Regex.ofPattern?
  rw [Option.bind_eq_some_iff]
  refine exists_congr fun e => ?_
  constructor
  · intro h
    obtain ⟨hread, hfinish⟩ := h
    simp only [finish?] at hfinish
    split at hfinish
    · rename_i hclosed
      split at hfinish
      · rename_i hlimits
        exact ⟨⟨hread, hclosed.1, hclosed.2⟩, hlimits.1, hlimits.2, Option.some.inj hfinish⟩
      · cases hfinish
    · cases hfinish
  · intro h
    obtain ⟨hown, hdepth, hsize, rfl⟩ := h
    exact ⟨hown.read, by simp [finish?, hown.outers, hown.brackets, hdepth, hsize]⟩

end Pattern

end TextSieve
