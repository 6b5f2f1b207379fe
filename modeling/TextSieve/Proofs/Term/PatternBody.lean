import Mathlib.Data.List.TakeWhile
import TextSieve.Proofs.Pattern.Enclosed
import TextSieve.Proofs.Pattern.Leftmost
import TextSieve.Proofs.Term.Anchoring

/-! Terms whose core is a pattern. The core is put between the anchors as it stands. If it is a
pattern on its own, the group around it is closed where it was meant to be, and every match is
anchored; if it is not, it can close the group itself. -/

namespace TextSieve

open Pattern Reader

inductive Calm : Text → Prop
  | nil : Calm []
  | bar {t : Text} (h : Calm t) : Calm ('|' :: t)
  | char (c : Char) {t : Text} (h : Calm t) : Calm (escapeChar c ++ t)

def closing : Text := [')', '|', '$', ')']

theorem calm_escape (t : Text) {u : Text} (h : Calm u) : Calm (escape t ++ u) := by
  induction t with
  | nil => exact h
  | cons c t ih =>
    rw [escape_cons, List.append_assoc]
    exact .char c ih

theorem calm_join (ds : List Text) : Calm (Text.join ['|'] (ds.map escape)) := by
  induction ds with
  | nil => exact .nil
  | cons d ds ih =>
    cases ds with
    | nil => simpa [Text.join] using calm_escape d .nil
    | cons d' ds =>
      simp only [List.map_cons, Text.join, List.append_assoc] at ih ⊢
      exact calm_escape d (.bar ih)

namespace Calm

/-- What follows the end of a line is calm again. -/
theorem of_newline {t x y : Text} (h : Calm t) (ht : t = x ++ '\n' :: y) : Calm y := by
  induction h generalizing x with
  | nil => simp at ht
  | bar h ih =>
    cases x with
    | nil => simp at ht
    | cons c x => exact ih (List.cons_eq_cons.1 ht).2
  | @char c t h ih =>
    unfold escapeChar at ht
    split at ht
    · rename_i hmeta
      rcases x with _ | ⟨d, _ | ⟨e, x⟩⟩
      · simp at ht
      · obtain ⟨-, rfl, -⟩ : '\\' = d ∧ c = '\n' ∧ t = y := by simpa using ht
        cases hmeta
      · obtain ⟨-, -, ht⟩ : '\\' = d ∧ c = e ∧ t = x ++ '\n' :: y := by simpa using ht
        exact ih ht
    · cases x with
      | nil =>
        obtain ⟨-, rfl⟩ : c = '\n' ∧ t = y := by simpa using ht
        exact h
      | cons d x =>
        obtain ⟨-, ht⟩ : c = d ∧ t = x ++ '\n' :: y := by simpa using ht
        exact ih ht

/-- No comment that ends in calm text leaves a `?` behind. -/
theorem head?_skipBlank {t : Text} (h : Calm t) (inComment : Bool) :
    (Flags.skipBlank inComment (t ++ closing)).head? ≠ some '?' := by
  induction h generalizing inComment with
  | nil => cases inComment <;> decide +kernel
  | bar h ih =>
    rw [List.cons_append, Flags.skipBlank]
    split
    · exact ih _
    · simp [show Unicode.isBlank '|' = false from rfl]
  | char c h ih =>
    unfold escapeChar
    split
    · rename_i hmeta
      have hbreak : (c != '\n') = true := by
        simp only [bne_iff_ne, ne_eq]
        rintro rfl
        cases hmeta
      simp only [List.cons_append, List.nil_append, Flags.skipBlank]
      split
      · simpa [hbreak] using ih true
      · simp [show Unicode.isBlank '\\' = false from rfl]
    · rename_i hmeta
      simp only [List.cons_append, List.nil_append, Flags.skipBlank]
      split
      · exact ih _
      · split
        · exact ih _
        · split
          · rename_i hc
            exact absurd (by rw [hc]; rfl) hmeta
          · intro hc
            obtain rfl : c = '?' := by simpa using hc
            exact hmeta rfl

/-- Calm text changes nothing but the items and branches of the group it is read in. -/
theorem read {t : Text} (h : Calm t) {s : Reader} (hs : s.brackets = []) (rest : Text) :
    s.read? 0 (t ++ rest) = none ∨
      ∃ s' : Reader, s'.outers = s.outers ∧ s'.brackets = [] ∧
        s.read? 0 (t ++ rest) = s'.read? 0 rest := by
  induction h generalizing s with
  | nil => exact .inr ⟨s, rfl, hs, rfl⟩
  | @bar t h ih =>
    have hstep : s.step? '|' (t ++ rest) =
        some ({ s with branches := s.branch :: s.branches, items := [] }, 0) := by
      simp [step?, outside?, hs, show Unicode.isBlank '|' = false from rfl]
    rw [List.cons_append, read?_cons, hstep]
    exact ih hs
  | @char c t h ih =>
    unfold escapeChar
    split
    · rename_i hmeta
      have hstep : s.step? '\\' (c :: (t ++ rest)) =
          (literal? s.flags c false).map fun r => (s.push r 0, 1) := by
        simp [step?, outside?, hs, show Unicode.isBlank '\\' = false from rfl, Atom.read?, hmeta,
          atom?, upTo]
      simp only [List.cons_append, List.nil_append]
      rw [read?_cons, hstep]
      cases literal? s.flags c false with
      | none => exact .inl rfl
      | some r => exact ih (s := s.push r 0) hs
    · rename_i hmeta
      have hsign : c ≠ '#' := by
        rintro rfl
        exact hmeta rfl
      rw [List.cons_append, List.nil_append, List.cons_append, read?_cons]
      by_cases hblank : (s.flags.verbose && Unicode.isBlank c) = true
      · simp only [step?, hblank, if_true]
        exact ih hs
      · have hstep : s.step? c (t ++ rest) =
            (literal? s.flags c false).map fun r => (s.push r 0, 0) := by
          rw [← outside?_literal (by simpa using hmeta) (t ++ rest)]
          simp [step?, hblank, hsign, hs]
        rw [hstep]
        cases literal? s.flags c false with
        | none => exact .inl rfl
        | some r => exact ih (s := s.push r 0) hs

end Calm

/-- One group can be closed, but there is one parenthesis more. -/
theorem read?_closing {s : Reader} {o : Outer} (hs : s.brackets = []) (houters : s.outers = [o])
    (ho : o.flags.verbose = false) : s.read? 0 closing = none := by
  obtain ⟨m, hclose, hm, hflags, hbrackets⟩ : ∃ m, s.closeGroup? = some m ∧ m.outers = [] ∧
      m.flags = o.flags ∧ m.brackets = [] := by
    simp [closeGroup?, houters, hs]
  have hfirst : s.read? 0 closing = m.read? 0 ['|', '$', ')'] := by
    have hstep : s.step? ')' ['|', '$', ')'] = some (m, 0) := by
      simp [step?, outside?, hs, hclose, show Unicode.isBlank ')' = false from rfl]
    rw [closing, read?_cons, hstep]
    rfl
  have hplain : m.flags.verbose = false := by rw [hflags, ho]
  obtain ⟨flags, branches, items, outers, names, brackets⟩ := m
  obtain ⟨rfl, rfl⟩ : outers = [] ∧ brackets = [] := ⟨hm, hbrackets⟩
  have hverbose : flags.verbose = false := hplain
  rw [hfirst]
  simp [read?_cons, step?, outside?, push, closeGroup?, hverbose]

/-- What leads from the body to the delimiters behind it. -/
def joint : Text := [')', '(', '?', ':', '(', '?', ':']

def behind (ds : List Text) : Text :=
  joint ++ Text.join ['|'] (ds.map escape) ++ closing

theorem shuts_behind (ds : List Text) : Shuts (behind ds) := .inl rfl

/-- A line ends among the delimiters, or not at all. -/
theorem line_behind (ds : List Text) :
    (∃ x y, behind ds = x ++ '\n' :: (y ++ closing) ∧
        (behind ds).takeWhile (· != '\n') = x ∧ Calm y) ∨
      (behind ds).takeWhile (· != '\n') = behind ds := by
  have hjoint : ∀ c ∈ joint, (c != '\n') = true := List.all_eq_true.1 rfl
  have hclosing : ∀ c ∈ closing, (c != '\n') = true := List.all_eq_true.1 rfl
  by_cases hline : '\n' ∈ Text.join ['|'] (ds.map escape)
  · obtain ⟨x, y, hjoin, hx⟩ := List.eq_append_cons_of_mem hline
    have hsplit : behind ds = (joint ++ x) ++ '\n' :: (y ++ closing) := by
      simp [behind, hjoin]
    have hfirst : ∀ c ∈ joint ++ x, (c != '\n') = true := by
      intro c hc
      rcases List.mem_append.1 hc with hc | hc
      · exact hjoint c hc
      · simpa using ne_of_mem_of_not_mem hc hx
    refine .inl ⟨joint ++ x, y, hsplit, ?_, (calm_join ds).of_newline hjoin⟩
    rw [hsplit, List.takeWhile_append_of_pos hfirst]
    simp
  · refine .inr (List.takeWhile_eq_self_iff.2 fun c hc => ?_)
    rcases List.mem_append.1 hc with hc | hc
    · rcases List.mem_append.1 hc with hc | hc
      · exact hjoint c hc
      · simpa using ne_of_mem_of_not_mem hc hline
    · exact hclosing c hc

/-- A comment that runs past the body leaves the pattern with something open or one parenthesis too
many. -/
theorem open_of_comment (ds : List Text) {s s' : Reader} {o : Outer} (hs : s.brackets = [])
    (houters : s.outers = [o]) (ho : o.flags.verbose = false)
    (h : s.read? (((behind ds).takeWhile (· != '\n')).length + 1) (behind ds) = some s') :
    s'.outers ≠ [] := by
  rcases line_behind ds with ⟨x, y, hsplit, hline, hcalm⟩ | hall
  · have hread : s.read? 1 ('\n' :: (y ++ closing)) = s.read? 0 (y ++ closing) := rfl
    rw [hline, hsplit, read?_taken, hread] at h
    rcases hcalm.read hs closing with hnone | ⟨m, hm, hbrackets, hsome⟩
    · rw [hnone] at h
      cases h
    · rw [hsome, read?_closing hbrackets (hm.trans houters) ho] at h
      cases h
  · have hread := read?_taken s 1 (behind ds) []
    rw [List.append_nil, read?_nil] at hread
    rw [hall, hread] at h
    obtain rfl := Option.some.inj h
    simp [houters]

def around (g : Item) : Frame where
  branches := []
  outers := [⟨{}, some termGroup, [], [startItem g]⟩]
  names := [termGroup]

/-- The group around the body is opened. -/
theorem read?_before (g : Item) {t : Text} (ht : t.head? ≠ some '?') :
    (append { flags := {} } [startItem g]).read? 0
        (['(', '?', 'P', '<'] ++ termGroup ++ ['>'] ++ t) =
      (enclosed (around g) { flags := {} }).read? 0 t := by
  let s := append { flags := {} } [startItem g]
  have hs : Plain false s := ⟨rfl, rfl⟩
  have hnew : termGroup ∉ s.names := by simp [s, append]
  exact reads_openNamed hs (by decide) (by decide) hnew t ht

/-- The group around the body is closed. -/
theorem step?_behind {s : Reader} (houters : s.outers = []) (hbrackets : s.brackets = [])
    (g : Item) (rest : Text) :
    (s.enclosed (around g)).step? ')' rest =
      some (bodyRead false g s.allBranches.reverse (s.names ++ [termGroup]), 0) := by
  have henclosed := enclosed_of_closed (e := around g) houters
  rw [step?_close (by simpa using hbrackets) (by rw [henclosed]; rfl), henclosed]
  simp [around, bodyRead, append, allBranches, branch, hbrackets]

/-- The reading of an anchored pattern goes on with the body, inside the group around it. -/
theorem read?_body {ds : List Text} (hds : ds ≠ []) {body : Text} (hbody : body.head? ≠ some '?') :
    read? { flags := {} } 0 (anchored body (Delimiter.choice (ds.map escape))) =
      (enclosed (around (anyOfItem false ds)) { flags := {} }).read? 0 (body ++ behind ds) := by
  have hbehind : [')'] ++ (['(', '?', ':'] ++ (Delimiter.choice (ds.map escape) ++ '|' :: ['$']) ++
      [')']) = behind ds := by
    simp [behind, joint, closing, Delimiter.choice]
  have hhead : (body ++ behind ds).head? ≠ some '?' :=
    head?_append_ne hbody (by simp [behind, joint])
  rw [read?_anchored (readsAs_choice hds) (by simp [Delimiter.choice]), List.append_assoc (_ ++ body),
    hbehind, List.append_assoc, read?_before _ hhead]

/-- Behind a body that is over, the rest of an anchored pattern is read. -/
theorem read?_enclosed_behind {ds : List Text} (hds : ds ≠ []) {s : Reader}
    (houters : s.outers = []) (hbrackets : s.brackets = []) :
    (s.enclosed (around (anyOfItem false ds))).read? 0 (behind ds) =
      some (anchoredRead false (anyOfItem false ds) s.allBranches.reverse
        (s.names ++ [termGroup])) := by
  have hbehind : behind ds = ')' :: (['(', '?', ':'] ++
      (Delimiter.choice (ds.map escape) ++ '|' :: ['$']) ++ [')']) := by
    simp [behind, joint, closing, Delimiter.choice]
  rw [hbehind, read?_cons, step?_behind houters hbrackets]
  exact read?_behind (readsAs_choice hds) (by simp [Delimiter.choice]) _ _

/-- An anchored pattern whose body is a pattern on its own stands for that pattern between
delimiters. -/
theorem eq_delimited_of_ofPattern? {ds : List Text} (hds : ds ≠ []) {body : Text} {B r : Regex}
    (hB : Regex.ofPattern? false body = some B)
    (h : Regex.ofPattern? false (anchored body (Delimiter.choice (ds.map escape))) = some r) :
    r = delimited (anyOf false ds) B := by
  obtain ⟨e, ⟨he, houters, hbrackets⟩, -, -, rfl⟩ := ofPattern?_eq_some_iff.1 hB
  obtain ⟨s, ⟨hread, hshut, -⟩, -, -, rfl⟩ := ofPattern?_eq_some_iff.1 h
  rw [read?_body hds (head?_ne_of_read? he)] at hread
  rcases kept_read (around (anyOfItem false ds)) (shuts_behind ds) he (Nat.zero_le _) houters
      (fun _ => (calm_join ds).head?_skipBlank true) with ⟨hsame, -⟩ | ⟨hnone, -⟩ | ⟨-, hpast⟩
  · rw [hsame, read?_enclosed_behind hds houters hbrackets] at hread
    obtain rfl := Option.some.inj hread
    rw [choice_eq e, ← regex_anyOfItem]
    exact regex_anchoredRead _ _
  · rw [hnone] at hread
    cases hread
  · -- a comment takes the closing parenthesis
    have hopen : (e.enclosed (around (anyOfItem false ds))).outers =
        (around (anyOfItem false ds)).outers := by
      rw [enclosed_of_closed houters]
    have hclosed : (e.enclosed (around (anyOfItem false ds))).brackets = [] := hbrackets
    rw [hread] at hpast
    exact absurd hshut (open_of_comment ds hclosed hopen rfl hpast.symm)

/-- Under literal delimiters and with case, every match of a term whose body is a pattern on its own
takes in the group of the term, which lies between delimiters or the ends of the text. -/
theorem group_of_search {o : Options} {ds : List Text} (hds : o.delimiters = ds.map .literal)
    (hne : ds ≠ []) (hlit : [] ∉ ds) {l : Leaf} (hl : l.kind = .pattern ∨ o.regexp = true)
    {f : FuzzyTerm} (hf : FuzzyTerm.parse l.text = .ok f)
    (hbody : isPattern (f.body true) = true) :
    ∃ r, o.resolve = .ok r ∧
      ∀ extractor t, CompiledTerm.compile (Context.key ⟨r, extractor⟩ l) = .ok t →
        ∀ u v m, (t.matcher false).search (.between u v) = some m →
          ∃ a w b, u ++ v = a ++ w ++ b ∧ Opens ds a ∧ Closes ds b ∧
            m.group? termGroup = some ⟨Text.size a, Text.size (a ++ w)⟩ := by
  let r : Resolved := ⟨o, Delimiter.choice (ds.map escape)⟩
  refine ⟨r, resolve_literals hds hne hlit, fun extractor t ht u v m hm => ?_⟩
  have hkey : (Context.key ⟨r, extractor⟩ l).asPattern = true := by
    rcases hl with hl | hl <;> simp [Context.key, Leaf.isPattern, hl, r]
  have hexact := exact_of_compile ht hf
  rw [hkey] at hexact
  obtain ⟨B, hB⟩ := Option.isSome_iff_exists.1 hbody
  have hmatcher : t.matcher false = delimited (anyOf false ds) B :=
    eq_delimited_of_ofPattern? hne hB hexact
  rw [hmatcher] at hm
  obtain ⟨x, y, rfl, hg, -⟩ := Regex.first_of_search hm
  obtain ⟨d, w, d', b, rfl, hd, -, hd', hgroup⟩ := goes_delimited (ungrouped_anyOf ds) hg
  rw [matches_anyOf hne] at hd hd'
  exact ⟨u ++ x ++ d, w, d' ++ b, by simp, opens_append hd, closes_append hd', hgroup⟩

theorem exists_of_any_search {k : TermKey} {text : Text} {p : Thread → Bool}
    (h : ((CompiledTerm.compile k).toOption.bind fun t =>
      t.exact.search (.start text)).any p = true) :
    ∃ t m, CompiledTerm.compile k = .ok t ∧ (t.matcher false).search (.start text) = some m ∧
      p m = true := by
  obtain ⟨m, hm, hp⟩ := (Option.any_eq_true p _).1 h
  obtain ⟨t, ht, hm⟩ := Option.bind_eq_some_iff.1 hm
  cases hk : CompiledTerm.compile k with
  | ok t' =>
    rw [hk] at ht
    obtain rfl := Option.some.inj ht
    exact ⟨t', m, rfl, hm, hp⟩
  | error e =>
    rw [hk] at ht
    cases ht

/-- A choice stays inside the group, and its flags do not reach the anchors. -/
theorem group_of_search_lines :
    ∃ r t m a w b, ({ delimiters := [.literal [',', ' '], .literal ['\n']], ignoreCase := false } :
        Options).resolve = .ok r ∧
      CompiledTerm.compile (Context.key ⟨r, taggedFields⟩
        ⟨.pattern, ['(', '?', 'm', ')', 'a', '|', '^', 'b', '$']⟩) = .ok t ∧
      (t.matcher false).search (.start ['a', 'a', '\n', 'b']) = some m ∧
      ['a', 'a', '\n', 'b'] = a ++ w ++ b ∧ Opens [[',', ' '], ['\n']] a ∧
      Closes [[',', ' '], ['\n']] b ∧ Text.size a = 3 ∧
      m.group? termGroup = some ⟨Text.size a, Text.size (a ++ w)⟩ := by
  let o : Options := { delimiters := [.literal [',', ' '], .literal ['\n']], ignoreCase := false }
  let l : Leaf := ⟨.pattern, ['(', '?', 'm', ')', 'a', '|', '^', 'b', '$']⟩
  let k : TermKey := ⟨l.text, true, Delimiter.choice [escape [',', ' '], escape ['\n']]⟩
  have hds : o.delimiters = [[',', ' '], ['\n']].map .literal := rfl
  have hf : FuzzyTerm.parse l.text = .ok ⟨none, l.text, none⟩ := rfl
  obtain ⟨r, hr, h⟩ := group_of_search hds (by simp) (by simp) (.inl rfl) hf (by decide +kernel)
  have hfragment : ⟨o, k.fragment⟩ = r := Except.ok.inj hr
  subst hfragment
  have hany : ((CompiledTerm.compile k).toOption.bind fun t =>
      t.exact.search (.start ['a', 'a', '\n', 'b'])).any
        (·.group? termGroup == some ⟨3, 4⟩) = true := by decide +kernel
  obtain ⟨t, m, ht, hm, hspan⟩ := exists_of_any_search hany
  obtain ⟨a, w, b, htext, ha, hb, hgroup⟩ := h taggedFields t ht [] _ m hm
  have hsize : Text.size a = 3 := by
    rw [hgroup] at hspan
    exact (Span.mk.inj (Option.some.inj (eq_of_beq hspan))).1
  exact ⟨_, t, m, a, w, b, hr, ht, hm, htext, ha, hb, hsize, hgroup⟩

/-- A core that is no pattern on its own can close the group and add branches to the pattern: its
match is inside a word, and the group of the term takes no part in it. -/
theorem search_without_group :
    ∃ r t m, ({ delimiters := [.literal [' ']], ignoreCase := false } : Options).resolve = .ok r ∧
      CompiledTerm.compile (Context.key ⟨r, taggedFields⟩
        ⟨.pattern, ['x', ')', '|', 'c', 'a', 't', '|', '(', '?', ':', 'x']⟩) = .ok t ∧
      (t.matcher false).search
        (.start ['c', 'o', 'n', 'c', 'a', 't', 'e', 'n', 'a', 't', 'e']) = some m ∧
      m.group? termGroup = none := by
  let k : TermKey := ⟨['x', ')', '|', 'c', 'a', 't', '|', '(', '?', ':', 'x'], true,
    Delimiter.choice [escape [' ']]⟩
  have hany : ((CompiledTerm.compile k).toOption.bind fun t => t.exact.search
      (.start ['c', 'o', 'n', 'c', 'a', 't', 'e', 'n', 'a', 't', 'e'])).any
        (·.group? termGroup == none) = true := by decide +kernel
  obtain ⟨t, m, ht, hm, hgroup⟩ := exists_of_any_search hany
  exact ⟨_, t, m, rfl, ht, hm, by simpa using hgroup⟩

end TextSieve
