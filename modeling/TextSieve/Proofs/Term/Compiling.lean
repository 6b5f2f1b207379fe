import TextSieve.Proofs.Term.Delimiters
import TextSieve.Proofs.Term.Markers

/-! Which terms compile. A delimiter is checked by itself, but it stands twice in the pattern of a
term and next to its neighbours. As long as no delimiter changes how the text behind it is read, a
literal term compiles if no group of a delimiter has a name and the fragment leaves room for the
three levels of nesting that the pattern of a term adds. -/

namespace TextSieve

open Pattern Reader

variable {caseless : Bool}

namespace Delimiter

/-- The pattern leaves `x` and `u` as it finds them, the flags that decide how the text behind it is
read. -/
def KeepsOutline (source : Text) : Prop :=
  ∀ e ∈ Reader.read? { flags := {} } 0 source, e.flags.outline = {}

def Nameless (source : Text) : Prop :=
  ∀ e ∈ Reader.read? { flags := {} } 0 source, e.names = []

/-- The fragment can be put where the pattern of a term has it. -/
def LeavesRoom (fragment : Text) : Prop :=
  ∀ e ∈ Reader.read? { flags := {} } 0 fragment, e.choice.depth + 3 ≤ nestLimit

instance (source : Text) : Decidable (KeepsOutline source) :=
  inferInstanceAs (Decidable (∀ e ∈ Reader.read? { flags := {} } 0 source, _))

instance (source : Text) : Decidable (Nameless source) :=
  inferInstanceAs (Decidable (∀ e ∈ Reader.read? { flags := {} } 0 source, _))

instance (fragment : Text) : Decidable (LeavesRoom fragment) :=
  inferInstanceAs (Decidable (∀ e ∈ Reader.read? { flags := {} } 0 fragment, _))

variable {ds : List Delimiter} {ps : List Text} {es : List Reader}

/-- Delimiters that keep the outline of the flags can be read one after the other in both case modes,
with the outlines they have by themselves. -/
theorem exists_ownReadings_of_outline (hps : List.Forall₂ (fun d p => branch d = .ok p) ds ps)
    (hkeeps : ∀ source, pattern source ∈ ds → KeepsOutline source) (caseless : Bool) :
    ∃ es, OwnReadings { caseless := caseless } ps es ∧
      List.Forall₂ (fun p e => ∃ e', OwnReading {} p e' ∧ e.outline = e'.outline) ps es := by
  refine exists_ownReadings (S := fun f => f.outline = {}) ?_ ?_ rfl
  · intro f hf
    exact congrArg Flags.verbose hf
  · intro f hf p hp
    obtain ⟨e', he', hflags⟩ :=
      exists_own (Q := fun e => e.flags.outline = {}) hps (fun _ => rfl) hkeeps hp
    obtain ⟨e, he, houtline⟩ := he'.exists_of_outline (g := f) hf.symm
    have hsame : e.flags.outline = e'.flags.outline := by
      simpa using congrArg Reader.flags houtline
    exact ⟨e, he, hsame.trans hflags, e', he', houtline⟩

/-- Without named groups in the patterns nothing that is read has names. -/
theorem names_eq_nil_iff (hps : List.Forall₂ (fun d p => branch d = .ok p) ds ps)
    (hes : List.Forall₂ (fun p e => ∃ e', OwnReading {} p e' ∧ e.outline = e'.outline) ps es) :
    (∀ e ∈ es, e.names = []) ↔ ∀ source, pattern source ∈ ds → Nameless source := by
  constructor
  · intro h source hsource e' he'
    obtain ⟨p, hp, hbranch⟩ := exists_mem_of_forall₂ hps.flip hsource
    obtain ⟨e, he, e'', he'', houtline⟩ := exists_mem_of_forall₂ hes.flip hp
    obtain ⟨rfl, -⟩ := eq_source_of_branch hbranch
    obtain rfl : e' = e'' := Option.some.inj (he'.symm.trans he''.read)
    have hnames : e.names = e'.names := by simpa using congrArg Reader.names houtline
    rw [← hnames, h e he]
  · intro h e he
    obtain ⟨p, hp, e', he', houtline⟩ := exists_mem_of_forall₂ hes he
    obtain ⟨e'', he'', hnil⟩ :=
      exists_own (Q := fun e => e.names = []) hps (fun _ => rfl) h hp
    obtain rfl := he'.unique he''
    have hnames : e.names = e'.names := by simpa using congrArg Reader.names houtline
    rw [hnames, hnil]

/-- Whether a fragment leaves room can be seen in both case modes. -/
theorem leavesRoom_iff {fragment : Text} {g : Item} (hg : ReadsAs caseless fragment [g]) :
    LeavesRoom fragment ↔ g.depth + 3 ≤ nestLimit := by
  obtain ⟨e', he', houtline⟩ := hg.ownReading.exists_of_outline (g := {}) rfl
  have hdepth : e'.choice.depth = g.depth := by
    rw [← depth_outline_choice, houtline, depth_outline_choice]
    rfl
  simp [LeavesRoom, he'.read, hdepth]

end Delimiter

section

variable {fragment body : Text} {g : Item} {is : List Item}

/-- A body that is read is read between the delimiters. -/
theorem read?_anchored_of_reads (hg : ReadsAs caseless fragment [g])
    (hf : fragment.head? ≠ some '?') (hB : ReadsAs caseless body is)
    (hb : body.head? ≠ some '?') :
    read? { flags := { caseless := caseless } } 0 (anchored body fragment) =
      some (anchoredRead caseless g [.ofItems is] [termGroup]) := by
  have hplain : Plain caseless (append { flags := { caseless := caseless } } [startItem g]) :=
    ⟨rfl, rfl⟩
  have hnew : termGroup ∉ (append { flags := { caseless := caseless } } [startItem g]).names := by
    simp [append]
  have hopen := reads_openNamed hplain (by decide) (by decide) hnew
  have hterm := readsAs_group_of_open hplain hopen hB.choice hb
  rw [read?_anchored hg hf, hterm _ (by simp)]
  exact read?_behind hg hf _ _

/-- An anchored literal is a pattern if the fragment leaves room. -/
theorem isSome_anchored_escape_iff (hg : ReadsAs caseless fragment [g])
    (hf : fragment.head? ≠ some '?') {t : Text}
    (hsize : ∀ s ∈ read? { flags := { caseless := caseless } } 0 (anchored (escape t) fragment),
      s.choice.regex.size ≤ Regex.sizeLimit) :
    (Regex.ofPattern? caseless (anchored (escape t) fragment)).isSome = true ↔
      Delimiter.LeavesRoom fragment := by
  have hread := read?_anchored_of_reads hg hf (readsAs_escape t) (head?_escape_ne t)
  have hbody : (Branch.anyOf [.ofItems (t.map (letterItem caseless))]).depth ≤ 1 := by
    have hdepth : (Delimiter.literalRead caseless t).choice.depth ≤ 1 :=
      Delimiter.depth_literalRead t
    rwa [Delimiter.choice_literalRead] at hdepth
  have hlimit : nestLimit = 250 := rfl
  rw [Delimiter.leavesRoom_iff hg, Option.isSome_iff_exists]
  constructor
  · intro h
    obtain ⟨r, hr⟩ := h
    obtain ⟨s, hs, hdepth, -, -⟩ := ofPattern?_eq_some_iff.1 hr
    obtain rfl := Option.some.inj (hread.symm.trans hs.read)
    rw [depth_anchoredRead] at hdepth
    omega
  · intro h
    refine ⟨_, ofPattern?_eq_some_iff.2 ⟨_, ⟨hread, rfl, rfl⟩, ?_, hsize _ hread, rfl⟩⟩
    rw [depth_anchoredRead]
    omega

end

/-- A term compiles if its pattern is one in both case modes. -/
theorem isOk_compile_iff {k : TermKey} {f : FuzzyTerm} (hf : FuzzyTerm.parse k.term = .ok f) :
    (CompiledTerm.compile k).isOk = true ↔ ∀ caseless,
      (Regex.ofPattern? caseless (anchored (f.body k.asPattern) k.fragment)).isSome = true := by
  simp only [CompiledTerm.compile, hf, Bool.forall_bool]
  cases Regex.ofPattern? false (anchored (f.body k.asPattern) k.fragment) with
  | none => simp [Except.isOk, Except.toBool]
  | some exact =>
    cases Regex.ofPattern? true (anchored (f.body k.asPattern) k.fragment) with
    | none => simp [Except.isOk, Except.toBool]
    | some caseless => simp [Except.isOk, Except.toBool]

/-- A term that does not compile, though its wildcards can be told from its core, is named in the
error. -/
theorem compile_eq_error {k : TermKey} {f : FuzzyTerm} (hf : FuzzyTerm.parse k.term = .ok f)
    (h : (CompiledTerm.compile k).isOk ≠ true) :
    CompiledTerm.compile k = .error (.pattern (.term k.term)) := by
  revert h
  simp only [CompiledTerm.compile, hf]
  split
  · intro h
    exact absurd rfl h
  · intro _
    rfl

/-- Under delimiters that keep the outline of the flags, a literal term that is not too large compiles
if and only if no pattern names a group and the fragment leaves room, whatever the term is. Here
`hsize` stands for the limit that an engine sets to the size of its automata. -/
theorem isOk_compile_literal_iff {o : Options} {r : Resolved} (hr : o.resolve = .ok r)
    (hkeeps : ∀ source, .pattern source ∈ o.delimiters → Delimiter.KeepsOutline source) {t : Text}
    (ht : t ≠ []) (hmarker : '~' ∉ t)
    (hsize : ∀ caseless, ∀ s ∈ read? { flags := { caseless := caseless } } 0
      (anchored (escape t) r.fragment), s.choice.regex.size ≤ Regex.sizeLimit) :
    (CompiledTerm.compile ⟨t, false, r.fragment⟩).isOk = true ↔
      (∀ source, .pattern source ∈ o.delimiters → Delimiter.Nameless source) ∧
        Delimiter.LeavesRoom r.fragment := by
  have hf := FuzzyTerm.parse_of_not_mem ht hmarker
  have hbody : (⟨none, t, none⟩ : FuzzyTerm).body false = escape t := by simp [FuzzyTerm.body]
  obtain ⟨ps, hps, hne, rfl⟩ := Delimiter.exists_branches_of_resolve hr
  have hhead : (Delimiter.choice ps).head? ≠ some '?' := by simp [Delimiter.choice]
  rw [isOk_compile_iff hf, hbody]
  constructor
  · intro h
    obtain ⟨es, hes, hall⟩ := Delimiter.exists_ownReadings_of_outline hps hkeeps false
    obtain ⟨m, hm⟩ := Option.isSome_iff_exists.1 (h false)
    obtain ⟨s, hs, -, -, -⟩ := ofPattern?_eq_some_iff.1 hm
    have hB : MayReadAs false (escape t) (t.map (letter false)) :=
      .inl ⟨_, by simp [letterItem, Item.regex], readsAs_escape t⟩
    have hnames := namesOf_eq_nil_iff.1
      (namesOf_eq_nil_of_read?_anchored hes hne hB (head?_escape_ne t) hs.read)
    have hg := hes.readsAs_choice hne hnames
    exact ⟨(Delimiter.names_eq_nil_iff hps hall).1 hnames,
      (isSome_anchored_escape_iff hg hhead (hsize false)).1 (h false)⟩
  · intro h caseless
    obtain ⟨hnameless, hroom⟩ := h
    obtain ⟨es, hes, hall⟩ := Delimiter.exists_ownReadings_of_outline hps hkeeps caseless
    have hg := hes.readsAs_choice hne ((Delimiter.names_eq_nil_iff hps hall).2 hnameless)
    exact (isSome_anchored_escape_iff hg hhead (hsize caseless)).2 hroom

/-- A flag for case that is left behind, a group without a name and a literal sign of the pattern
language do no harm. -/
theorem isOk_compile_dotted :
    ∃ r, ({ delimiters := [.pattern ['(', '?', 'i', ')', '(', 'x', ')'], .literal ['.']] } :
        Options).resolve = .ok r ∧
      (CompiledTerm.compile ⟨['a', '.', 'b'], false, r.fragment⟩).isOk = true := by
  let o : Options :=
    { delimiters := [.pattern ['(', '?', 'i', ')', '(', 'x', ')'], .literal ['.']] }
  let r : Resolved := ⟨o, Delimiter.choice [['(', '?', 'i', ')', '(', 'x', ')'], ['\\', '.']]⟩
  have hr : o.resolve = .ok r := rfl
  have hpattern : ∀ source, .pattern source ∈ o.delimiters →
      source = ['(', '?', 'i', ')', '(', 'x', ')'] := by simp [o]
  have hkeeps : ∀ source, .pattern source ∈ o.delimiters → Delimiter.KeepsOutline source := by
    intro source hsource
    rw [hpattern source hsource]
    decide +kernel
  have hnameless : ∀ source, .pattern source ∈ o.delimiters → Delimiter.Nameless source := by
    intro source hsource
    rw [hpattern source hsource]
    decide +kernel
  exact ⟨r, hr, (isOk_compile_literal_iff hr hkeeps (by decide) (by decide) (by decide +kernel)).2
    ⟨hnameless, by decide +kernel⟩⟩

/-- Options with a named group in a delimiter resolve, but no word compiles under them. -/
theorem compile_named_delimiter :
    ∃ r, ({ delimiters := [.pattern ['(', '?', 'P', '<', 'a', '>', 'x', ')']] } :
        Options).resolve = .ok r ∧
      CompiledTerm.compile ⟨['c', 'a', 't'], false, r.fragment⟩ =
        .error (.pattern (.term ['c', 'a', 't'])) :=
  ⟨_, rfl, by decide +kernel⟩

end TextSieve
