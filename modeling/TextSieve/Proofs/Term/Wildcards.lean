import TextSieve.Proofs.Term.Anchoring
import TextSieve.Proofs.Term.Markers

/-! Unbounded wildcards. A wildcard takes any run of characters up to a delimiter or an end of the
text, delimiters included, but it stops at a line feed. Where no line feed is in the way, all that
counts is the other side of the core. -/

namespace TextSieve

open Pattern

/-- From a delimiter or the start of the text to the end of `p` there is no line feed. -/
def OpensLine (ds : List Text) (p : Text) : Prop :=
  ∃ u x, p = u ++ x ∧ Opens ds u ∧ '\n' ∉ x

def ClosesLine (ds : List Text) (p : Text) : Prop :=
  ∃ x v, p = x ++ v ∧ '\n' ∉ x ∧ Closes ds v

def Unbroken (ds : List Text) (t : Text) : Prop := '\n' ∉ t ∨ ['\n'] ∈ ds

variable {ds : List Text} {p : Text}

theorem opensLine_of_unbroken (h : Unbroken ds p) : OpensLine ds p := by
  rcases h with h | h
  · exact ⟨[], p, rfl, .inl rfl, h⟩
  · by_cases hp : '\n' ∈ p
    · -- the line starts behind the last line feed
      obtain ⟨u, x, hp, hx⟩ : ∃ u x, p = u ++ '\n' :: x ∧ '\n' ∉ x := by
        obtain ⟨x, u, hrev, hx⟩ := List.eq_append_cons_of_mem (List.mem_reverse.2 hp)
        refine ⟨u.reverse, x.reverse, ?_, by simpa using hx⟩
        rw [← List.reverse_reverse p, hrev]
        simp
      refine ⟨u ++ ['\n'], x, by simp [hp], .inr ⟨['\n'], h, List.suffix_append u _⟩, hx⟩
    · exact ⟨[], p, rfl, .inl rfl, hp⟩

theorem closesLine_of_unbroken (h : Unbroken ds p) : ClosesLine ds p := by
  rcases h with h | h
  · exact ⟨p, [], by simp, h, .inl rfl⟩
  · by_cases hp : '\n' ∈ p
    · obtain ⟨x, v, rfl, hx⟩ := List.eq_append_cons_of_mem hp
      exact ⟨x, '\n' :: v, rfl, hx, .inr ⟨['\n'], h, v, rfl⟩⟩
    · exact ⟨p, [], by simp, hp, .inl rfl⟩

theorem Unbroken.left {s t : Text} (h : Unbroken ds (s ++ t)) : Unbroken ds s :=
  h.imp_left fun h hs => h (List.mem_append_left t hs)

theorem Unbroken.right {s t : Text} (h : Unbroken ds (s ++ t)) : Unbroken ds t :=
  h.imp_left fun h ht => h (List.mem_append_right s ht)

/-- A wildcard in front leaves the left side of the core open. -/
theorem exists_leading_iff {core t : Text} :
    (∃ u x y v, t = u ++ x ++ core ++ y ++ v ∧ Opens ds u ∧ Closes ds v ∧
        Wildcard.Fills (some .unbounded) x ∧ Wildcard.Fills none y) ↔
      ∃ p v, t = p ++ core ++ v ∧ OpensLine ds p ∧ Closes ds v := by
  constructor
  · intro h
    obtain ⟨u, x, y, v, rfl, hu, hv, hx, rfl⟩ := h
    exact ⟨u ++ x, v, by simp, ⟨u, x, rfl, hu, hx⟩, hv⟩
  · intro h
    obtain ⟨_, v, rfl, ⟨u, x, rfl, hu, hx⟩, hv⟩ := h
    exact ⟨u, x, [], v, by simp, hu, hv, hx, rfl⟩

/-- A wildcard behind leaves the right side of the core open. -/
theorem exists_trailing_iff {core t : Text} :
    (∃ u x y v, t = u ++ x ++ core ++ y ++ v ∧ Opens ds u ∧ Closes ds v ∧
        Wildcard.Fills none x ∧ Wildcard.Fills (some .unbounded) y) ↔
      ∃ u p, t = u ++ core ++ p ∧ Opens ds u ∧ ClosesLine ds p := by
  constructor
  · intro h
    obtain ⟨u, x, y, v, rfl, hu, hv, rfl, hy⟩ := h
    exact ⟨u, y ++ v, by simp, hu, y, v, rfl, hy, hv⟩
  · intro h
    obtain ⟨u, _, rfl, hu, y, v, rfl, hy, hv⟩ := h
    exact ⟨u, [], y, v, by simp, hu, hv, rfl, hy⟩

/-- Where the text is unbroken the line condition says nothing. -/
theorem exists_leading_iff_of_unbroken {core t : Text} (h : Unbroken ds t) :
    (∃ p v, t = p ++ core ++ v ∧ OpensLine ds p ∧ Closes ds v) ↔
      ∃ p v, t = p ++ core ++ v ∧ Closes ds v := by
  constructor
  · intro hx
    obtain ⟨p, v, ht, -, hv⟩ := hx
    exact ⟨p, v, ht, hv⟩
  · intro hx
    obtain ⟨p, v, rfl, hv⟩ := hx
    exact ⟨p, v, rfl, opensLine_of_unbroken h.left.left, hv⟩

theorem exists_trailing_iff_of_unbroken {core t : Text} (h : Unbroken ds t) :
    (∃ u p, t = u ++ core ++ p ∧ Opens ds u ∧ ClosesLine ds p) ↔
      ∃ u p, t = u ++ core ++ p ∧ Opens ds u := by
  constructor
  · intro hx
    obtain ⟨u, p, ht, hu, -⟩ := hx
    exact ⟨u, p, ht, hu⟩
  · intro hx
    obtain ⟨u, p, rfl, hu⟩ := hx
    exact ⟨u, p, rfl, hu, closesLine_of_unbroken h.right⟩

/-- A literal leaf under literal delimiters and with case. -/
theorem exists_eval_of_parse {o : Options} (hne : ds ≠ []) (hcase : o.ignoreCase = false)
    (hregexp : o.regexp = false) {l : Leaf} (hl : l.kind ≠ .pattern) {f : FuzzyTerm}
    (hf : FuzzyTerm.parse l.text = .ok f) {extractor : Extractor}
    (hok : (CompiledTerm.compile (Context.key
      ⟨⟨o, Delimiter.choice (ds.map escape)⟩, extractor⟩ l)).isOk = true)
    {c : Cache} (hc : c.Faithful) (text : Text) :
    ∃ b, (Query.eval ⟨⟨o, Delimiter.choice (ds.map escape)⟩, extractor⟩ (.leaf l) text c).1 =
        .ok b ∧
      (b = true ↔ ∃ u x y v, text = u ++ x ++ f.core ++ y ++ v ∧ Opens ds u ∧ Closes ds v ∧
        Wildcard.Fills f.leading x ∧ Wildcard.Fills f.trailing y) := by
  obtain ⟨t, ht⟩ := exists_of_isOk hok
  have hkey : (Context.key ⟨⟨o, Delimiter.choice (ds.map escape)⟩, extractor⟩ l).asPattern =
      false := by
    simp [Context.key, Leaf.isPattern, hl, hregexp]
  have heval := (gives_eval_leaf ht text c hc).1
  simp only [Context.ignoreCase, hcase] at heval
  exact ⟨t.isMatch false text, heval, isMatch_compile_iff hne hkey rfl ht hf text⟩

/-- With an unbounded wildcard on one side, a leaf holds of the texts in which its core meets a
delimiter or an end of the text on the other side and no line feed stops the wildcard; in particular
the wildcard says nothing where the text has no line feed or a line feed is a delimiter. -/
theorem eval_wildcard_iff {o : Options} (hds : o.delimiters = ds.map .literal) (hne : ds ≠ [])
    (hlit : [] ∉ ds) (hcase : o.ignoreCase = false) (hregexp : o.regexp = false)
    {kind : LeafKind} (hkind : kind ≠ .pattern) {core : Text} (hcore : core ≠ [])
    (hmarker : '~' ∉ core) :
    ∃ r, o.resolve = .ok r ∧ ∀ extractor, ∀ c : Cache, c.Faithful → ∀ text,
      ((CompiledTerm.compile (Context.key ⟨r, extractor⟩ ⟨kind, '~' :: core⟩)).isOk = true →
        ∃ b, (Query.eval ⟨r, extractor⟩ (.leaf ⟨kind, '~' :: core⟩) text c).1 = .ok b ∧
          (b = true ↔ ∃ p v, text = p ++ core ++ v ∧ OpensLine ds p ∧ Closes ds v) ∧
          (Unbroken ds text → (b = true ↔ ∃ p v, text = p ++ core ++ v ∧ Closes ds v))) ∧
      ((CompiledTerm.compile (Context.key ⟨r, extractor⟩ ⟨kind, core ++ ['~']⟩)).isOk = true →
        ∃ b, (Query.eval ⟨r, extractor⟩ (.leaf ⟨kind, core ++ ['~']⟩) text c).1 = .ok b ∧
          (b = true ↔ ∃ u p, text = u ++ core ++ p ∧ Opens ds u ∧ ClosesLine ds p) ∧
          (Unbroken ds text → (b = true ↔ ∃ u p, text = u ++ core ++ p ∧ Opens ds u))) := by
  refine ⟨_, resolve_literals hds hne hlit, fun extractor c hc text =>
    ⟨fun hok => ?_, fun hok => ?_⟩⟩
  · have hf := FuzzyTerm.parse_marker_cons hcore hmarker
    obtain ⟨b, hb, hiff⟩ := exists_eval_of_parse hne hcase hregexp hkind hf hok hc text
    have hline := hiff.trans exists_leading_iff
    exact ⟨b, hb, hline, fun h => hline.trans (exists_leading_iff_of_unbroken h)⟩
  · have hf := FuzzyTerm.parse_append_marker hcore hmarker
    obtain ⟨b, hb, hiff⟩ := exists_eval_of_parse hne hcase hregexp hkind hf hok hc text
    have hline := hiff.trans exists_trailing_iff
    exact ⟨b, hb, hline, fun h => hline.trans (exists_trailing_iff_of_unbroken h)⟩

/-- A line feed that is a delimiter and a dot in the core: one wildcard in front of the core, and
one behind it. -/
theorem eval_wildcard_lines :
    ∃ r, ({ delimiters := [.literal [',', ' '], .literal ['\n']], ignoreCase := false } :
        Options).resolve = .ok r ∧
      (Query.eval ⟨r, taggedFields⟩ (.leaf ⟨.word, ['~', 'a', '.', 'b']⟩)
        ['w', '\n', 'x', 'a', '.', 'b', '\n', 'a', '.', 'b', 'y'] {}).1 = .ok true ∧
      (Query.eval ⟨r, taggedFields⟩ (.leaf ⟨.word, ['a', '.', 'b', '~']⟩)
        ['w', '\n', 'x', 'a', '.', 'b', '\n', 'a', '.', 'b', 'y'] {}).1 = .ok true := by
  let o : Options := { delimiters := [.literal [',', ' '], .literal ['\n']], ignoreCase := false }
  let text : Text := ['w', '\n', 'x', 'a', '.', 'b', '\n', 'a', '.', 'b', 'y']
  have hds : o.delimiters = [[',', ' '], ['\n']].map .literal := rfl
  have hkind : LeafKind.word ≠ .pattern := by decide
  have hcore : ['a', '.', 'b'] ≠ [] := by simp
  obtain ⟨r, hr, h⟩ := eval_wildcard_iff hds (by simp) (by simp) rfl rfl hkind hcore (by simp)
  have hfragment : ⟨o, Delimiter.choice [escape [',', ' '], escape ['\n']]⟩ = r := Except.ok.inj hr
  refine ⟨r, hr, ?_⟩
  subst hfragment
  obtain ⟨hleading, htrailing⟩ := h taggedFields {} Cache.faithful_empty text
  obtain ⟨b, hb, -, hiff⟩ := hleading (by decide +kernel)
  obtain ⟨b', hb', -, hiff'⟩ := htrailing (by decide +kernel)
  have hunbroken : Unbroken [[',', ' '], ['\n']] text := .inr (by simp)
  have hcloses : Closes [[',', ' '], ['\n']] ['\n', 'a', '.', 'b', 'y'] :=
    .inr ⟨['\n'], by simp, _, rfl⟩
  have hopens : Opens [[',', ' '], ['\n']] ['w', '\n', 'x', 'a', '.', 'b', '\n'] :=
    .inr ⟨['\n'], by simp, ['w', '\n', 'x', 'a', '.', 'b'], rfl⟩
  obtain rfl : b = true := (hiff hunbroken).2 ⟨['w', '\n', 'x'], _, rfl, hcloses⟩
  obtain rfl : b' = true := (hiff' hunbroken).2 ⟨_, ['y'], rfl, hopens⟩
  exact ⟨hb, hb'⟩

/-- A line feed that is no delimiter stops a wildcard, though the text ends with the core. -/
theorem eval_wildcard_broken :
    ∃ r, ({ delimiters := [.literal [' ']], ignoreCase := false } : Options).resolve = .ok r ∧
      (Query.eval ⟨r, taggedFields⟩ (.leaf ⟨.word, ['~', 'c', 'a', 't']⟩)
        ['\n', 'c', 'a', 't'] {}).1 = .ok false ∧
      ∃ p v, ['\n', 'c', 'a', 't'] = p ++ ['c', 'a', 't'] ++ v ∧ Closes [[' ']] v :=
  ⟨_, rfl, by decide +kernel, ['\n'], [], rfl, .inl rfl⟩

end TextSieve
