import Mathlib.Data.List.Nodup
import TextSieve.Proofs.Term.PatternBody
import TextSieve.Proofs.Term.Tokens

/-! Empty tokens. The delimiter behind one token can stand in front of the next, so a pattern that
matches the empty text finds the empty tokens of a text as it finds the others. The exception is the
start of a text: behind an empty match in front of a leading delimiter the search steps over that
delimiter, and the token that it leads to is not found. -/

namespace TextSieve

open Pattern

namespace Pattern.Regex

def Lookless : Regex → Prop
  | empty | one _ => True
  | look _ => False
  | cat a b | alt a b => a.Lookless ∧ b.Lookless
  | rep r _ _ _ => r.Lookless
  | group _ r => r.Lookless

/-- What such an expression matches does not depend on what stands around it. -/
theorem Lookless.matches_of_matches {r : Regex} (h : r.Lookless) {u w v u' v' : Text}
    (hm : r.Matches u w v) : r.Matches u' w v' := by
  induction r generalizing u w v u' v' with
  | empty => exact hm
  | one s => exact hm
  | look l => exact h.elim
  | cat a b iha ihb =>
    obtain ⟨x, y, rfl, hx, hy⟩ := hm
    exact ⟨x, y, rfl, iha h.1 hx, ihb h.2 hy⟩
  | alt a b iha ihb => exact hm.imp (iha h.1) (ihb h.2)
  | rep r low high greedy ih =>
    have hrounds : ∀ n {u w v u' v' : Text}, Rounds r.Matches n u w v →
        Rounds r.Matches n u' w v' := by
      intro n
      induction n with
      | zero => exact fun h => h
      | succ n ihn =>
        intro u w v u' v' hr
        obtain ⟨x, y, rfl, hx, hy⟩ := hr
        exact ⟨x, y, rfl, ih h hx, ihn hy⟩
    obtain ⟨more, hmore, hr⟩ := hm
    exact ⟨more, hmore, hrounds _ hr⟩
  | group name r ih => exact ih h hm

theorem run_alt_prefix (a b : Regex) (t : Thread) :
    Thread.distinct .empty (a.run [t]) <+: (alt a b).run [t] := by
  simpa [run] using ordered_distinct (a.run [t]) (b.run [t])

/-- At the start of a text the empty way to `c` is tried before any other. -/
theorem search_alt_textStart {F c : Regex} {v : Text} {g : Thread}
    (hg : c.Goes (.startAt (.between [] v)) g) :
    ∃ f, (cat (alt (look .textStart) F) c).search (.between [] v) = some f ∧
      c.Goes (.startAt (.between [] v)) f := by
  let t : Thread := .startAt (.between [] v)
  have hruns := runs_run v c
  have hin : t.cursor.In v := .between rfl
  obtain ⟨s, hs, -⟩ := hruns.complete (allIn_singleton hin) (List.mem_singleton_self t) hg
  obtain ⟨f, fs, hf⟩ := List.exists_cons_of_ne_nil (List.ne_nil_of_mem hs)
  have hlook : (look .textStart).run [t] = [t] := rfl
  obtain ⟨us, hus⟩ : [t] <+: (alt (look .textStart) F).run [t] := by
    simpa [hlook, Thread.distinct] using run_alt_prefix (look .textStart) F t
  obtain ⟨ys, hys⟩ := ordered_run c [t] us
  have hplace : (places 1 (.between [] v)).1 = [.between [] v] := by
    cases v <;> rfl
  refine ⟨f, ?_, ?_⟩
  · have hrun : (cat (alt (look .textStart) F) c).run [t] = f :: (fs ++ ys) := by
      have hcat : (cat (alt (look .textStart) F) c).run [t] = c.run ([t] ++ us) :=
        congrArg c.run hus.symm
      rw [hcat, ← hys, hf]
      rfl
    rw [search, searchLots_succ, hplace, List.map_singleton, hrun]
    rfl
  · have hmem : f ∈ c.run [t] := by simp [hf]
    obtain ⟨t', ht', hgoes⟩ := hruns.sound hmem
    obtain rfl := List.mem_singleton.1 ht'
    exact hgoes

end Pattern.Regex

variable {ds : List Char} {B : Regex}

/-- The token is behind a delimiter that the text starts with, and the expression matches the empty
token in front of that delimiter. -/
def Token.Shadowed (ds : List Char) (B : Regex) (t : Text) (k : Token) : Prop :=
  ∃ d ∈ ds, ∃ v, t = d :: v ∧ B.Matches [] [] t ∧ k.start = d.utf8Size

theorem exists_tokensFrom_eq (ds : List Char) (start : Nat) (part v : Text) :
    ∃ k rest, tokensFrom ds start part v = k :: rest ∧ k.start = start ∧
      ∀ k' ∈ rest, start < k'.start := by
  have hpair : (tokensFrom ds start part v).Pairwise _ := pairwise_tokensFrom start part v
  induction v generalizing part with
  | nil => exact ⟨⟨start, part⟩, [], rfl, rfl, by simp⟩
  | cons c v ih =>
    rw [tokensFrom] at hpair ⊢
    split
    · rename_i hc
      rw [if_pos hc] at hpair
      refine ⟨_, _, rfl, rfl, fun k' hk' => ?_⟩
      have hlt := (List.pairwise_cons.1 hpair).1 k' hk'
      simp only [Token.span] at hlt
      omega
    · rename_i hc
      rw [if_neg hc] at hpair
      exact ih _ hpair

section

variable (hds : ds ≠ []) (hfree : ∀ {u w v}, B.Matches u w v → ∀ c ∈ w, c ∉ ds)

include hds hfree

/-- Of the two matches at the start of a text that forks, the empty one is found. -/
theorem search_of_forks {t : Text} (h : Forks ds B t) :
    ((tokenTerm ds B).search (.between [] t)).bind (·.group? termGroup) = some ⟨0, 0⟩ := by
  obtain ⟨d, hd, v, rfl, hmatch⟩ := h
  have hbehind : (anyOf false (ds.map fun d => [d])).Matches [] [d] v :=
    (matches_anyOf (by simpa using hds)).2 (List.mem_map_of_mem hd)
  have hm : (Regex.cat (.group termGroup B)
      (.alt (anyOf false (ds.map fun d => [d])) (.look .textStop))).Matches [] [d] v :=
    ⟨[], [d], rfl, hmatch, .inl hbehind⟩
  obtain ⟨g, hg, -⟩ := (Regex.agree_goes _ (.startAt (.between [] (d :: v))) [] (d :: v) rfl _).2
    ⟨[d], v, rfl, rfl, hm⟩
  obtain ⟨f, hs, hf⟩ := Regex.search_alt_textStart hg
  obtain ⟨w, r, y, htext, hw, -, hgroup⟩ := goes_body (ungrouped_anyOf _) rfl hf
  have hempty : w = [] := by
    cases w with
    | nil => rfl
    | cons c w =>
      obtain ⟨rfl, -⟩ : d = c ∧ v = w ++ r ++ y := by simpa using htext
      exact absurd hd (hfree hw d (by simp))
  subst hempty
  rw [tokenTerm, delimited, hs]
  exact hgroup

open Classical in
/-- From inside a token on, the spans are those of the tokens behind it. By induction on the rest of
the token. -/
theorem termSpansFrom_inside {n start : Nat} {u part v : Text} (hu : u ≠ [])
    (hstart : start + Text.size part = Text.size u) (hn : v.length < n) :
    termSpansFrom (tokenTerm ds B) n (.between u v) =
      ((tokensFrom ds start part v).tail.filter (·.Matched B (u ++ v))).map Token.span := by
  induction v generalizing u part with
  | nil => exact termSpansFrom_end hds hu n
  | cons c v ih =>
    obtain ⟨n, rfl⟩ : ∃ m, n = m + 1 := ⟨n - 1, by omega⟩
    rw [tokensFrom]
    split
    · rename_i hc
      have hspans := termSpansFrom_tokens hds hfree u [c] [] v (by simp [hu]) (.inr ⟨c, hc, rfl⟩)
        (by simp) (n := n + 1) (by simp at hn ⊢; omega)
      simpa [hstart] using hspans
    · rename_i hc
      have hdead : ∀ x y, [c] ++ v = x ++ y → x.length < [c].length →
          (tokenTerm ds B).Dead (.between (u ++ x) y) := fun x y =>
        dead_inside hds (by simp [hu]) (by simpa using hc)
      have hskip := termSpansFrom_skip hds hfree (n := n) (by simp [hu]) hdead
      have hrest : termSpansFrom (tokenTerm ds B) (n + 1) (.between (u ++ [c]) v) =
          ((tokensFrom ds start (part ++ [c]) v).tail.filter
            (·.Matched B (u ++ [c] ++ v))).map Token.span :=
        ih (by simp) (by simp [← hstart, Nat.add_assoc]) (by simp at hn ⊢; omega)
      simpa using hskip.trans hrest

open Classical in
/-- Behind the empty match in front of a leading delimiter the search is inside the next token. -/
theorem termSpans_cons {d : Char} (hd : d ∈ ds) {v : Text} (hmatch : B.Matches [] [] (d :: v)) :
    termSpans (tokenTerm ds B) (d :: v) =
      ⟨0, 0⟩ :: ((tokensFrom ds d.utf8Size [] v).tail.filter (·.Matched B (d :: v))).map
        Token.span := by
  have hfound := search_of_forks hds hfree ⟨d, hd, v, rfl, hmatch⟩
  have hinside : termSpansFrom (tokenTerm ds B) (v.length + 1) (.between [d] v) =
      ((tokensFrom ds d.utf8Size [] v).tail.filter (·.Matched B ([d] ++ v))).map Token.span :=
    termSpansFrom_inside hds hfree (by simp) (by simp) (Nat.lt_succ_self _)
  have hpast : (Cursor.between [] (d :: v)).past d v = .between [d] v := Cursor.past_between [] v d
  have hspans : termSpans (tokenTerm ds B) (d :: v) =
      ⟨0, 0⟩ :: termSpansFrom (tokenTerm ds B) (v.length + 1) (.between [d] v) := by
    rw [← hpast]
    simp only [termSpans, Cursor.start_eq_between, List.length_cons]
    rw [termSpansFrom, hfound]
    rfl
  exact hspans.trans (congrArg (⟨0, 0⟩ :: ·) hinside)

open Classical in
/-- The spans are those of the tokens that the expression matches, but for one behind a leading
delimiter. -/
theorem termSpans_tokenTerm (t : Text) :
    termSpans (tokenTerm ds B) t =
      ((tokens ds t).filter fun k => k.Matched B t ∧ ¬ k.Shadowed ds B t).map Token.span := by
  by_cases hfork : Forks ds B t
  · obtain ⟨d, hd, v, rfl, hmatch⟩ := hfork
    obtain ⟨k, rest, htokens, hk, hrest⟩ := exists_tokensFrom_eq ds d.utf8Size [] v
    have hall : tokens ds (d :: v) = ⟨0, []⟩ :: k :: rest := by
      simp [tokens, tokensFrom, hd, htokens]
    have hfirst : (⟨0, []⟩ : Token).Matched B (d :: v) ∧
        ¬ (⟨0, []⟩ : Token).Shadowed ds B (d :: v) := by
      refine ⟨(matched_iff (u := []) (w := [])).2 hmatch, fun h => ?_⟩
      obtain ⟨d', -, -, -, -, hstart⟩ := h
      exact absurd hstart (Nat.ne_of_lt d'.utf8Size_pos)
    have hshadowed : k.Shadowed ds B (d :: v) := ⟨d, hd, v, rfl, hmatch, hk⟩
    have hclear : ∀ k' ∈ rest, ¬ k'.Shadowed ds B (d :: v) := by
      intro k' hk' h
      obtain ⟨d', -, v', hcons, -, hstart⟩ := h
      obtain ⟨rfl, -⟩ := List.cons.inj hcons
      exact absurd hstart (Nat.ne_of_gt (hrest k' hk'))
    have htail : rest.filter (·.Matched B (d :: v)) =
        rest.filter fun k => k.Matched B (d :: v) ∧ ¬ k.Shadowed ds B (d :: v) :=
      List.filter_congr fun k' hk' => by simp [hclear k' hk']
    rw [termSpans_cons hds hfree hd hmatch, htokens, hall,
      List.filter_cons_of_pos (by simpa using hfirst),
      List.filter_cons_of_neg (by simp [hshadowed]), ← htail]
    rfl
  · have hspans := termSpansFrom_tokens hds hfree [] [] [] t (by simpa using hfork)
      (.inl ⟨rfl, rfl⟩) (by simp) (Nat.lt_succ_self t.length)
    refine hspans.trans (congrArg (List.map Token.span) (List.filter_congr fun k hk => ?_))
    have hclear : ¬ k.Shadowed ds B t := by
      intro h
      obtain ⟨d, hd, v, ht, hmatch, -⟩ := h
      exact hfork ⟨d, hd, v, ht, hmatch⟩
    simp [hclear]

end

theorem exact_eq_tokenTerm {k : TermKey} (hk : k.asPattern = true) (hmarker : '~' ∉ k.term)
    {P : Regex} (hP : Regex.ofPattern? false k.term = some P) (hds : ds ≠ [])
    (hfragment : k.fragment = Delimiter.choice ((ds.map fun d => [d]).map escape))
    (hterm : k.term ≠ []) {t : CompiledTerm} (ht : CompiledTerm.compile k = .ok t) :
    t.exact = tokenTerm ds P := by
  have hexact := exact_of_compile ht (FuzzyTerm.parse_of_not_mem hterm hmarker)
  have hbody : (⟨none, k.term, none⟩ : FuzzyTerm).body true = k.term := by simp [FuzzyTerm.body]
  rw [hk, hbody, hfragment] at hexact
  exact eq_delimited_of_ofPattern? (by simpa using hds) hP hexact

theorem nodup_starts (ds : List Char) (t : Text) : ((tokens ds t).map Token.start).Nodup := by
  have htokens : (tokens ds t).Pairwise _ := pairwise_tokensFrom 0 [] t
  refine htokens.map _ fun j k hlt heq => ?_
  simp only [Token.span] at hlt
  omega

/-- A token that is found is found once, as no other starts where it does. -/
theorem count_found (found : Token → Bool) (term : Text) {t : Text} {k : Token}
    (hk : k ∈ tokens ds t) :
    (((tokens ds t).filter found).map fun j => (⟨term, j.span, j.text⟩ : Fragment)).count
      ⟨term, k.span, k.text⟩ = if found k then 1 else 0 := by
  have hsame : ∀ i ∈ tokens ds t, ∀ j ∈ tokens ds t,
      (⟨term, i.span, i.text⟩ : Fragment) = ⟨term, j.span, j.text⟩ → i = j := by
    intro i hi j hj heq
    have hstart : i.start = j.start := (Span.mk.inj (Fragment.mk.inj heq).2.1).1
    exact List.inj_on_of_nodup_map (nodup_starts ds t) hi hj hstart
  split
  · rename_i hfound
    have hnodup := ((nodup_starts ds t).of_map.filter found).map_on fun i hi j hj =>
      hsame i (List.mem_of_mem_filter hi) j (List.mem_of_mem_filter hj)
    exact List.count_eq_one_of_mem hnodup
      (List.mem_map_of_mem (List.mem_filter.2 ⟨hk, hfound⟩))
  · rename_i hmissed
    refine List.count_eq_zero.2 fun hmem => ?_
    obtain ⟨j, hj, heq⟩ := List.mem_map.1 hmem
    obtain ⟨hj, hfound⟩ := List.mem_filter.1 hj
    exact hmissed (hsame j hj k hk heq ▸ hfound)

open Classical in
/-- Under literal delimiters of one character each, the fragments of a leaf with a pattern that
never matches a delimiter are the tokens that the pattern matches in their places, in their order
and each once. The only token that is left out is one behind a leading delimiter, if the pattern
matches the empty token in front of that. So a pattern that matches the empty text, whatever stands
around it, reports each empty token but that one exactly once. -/
theorem fragments_empty_tokens {o : Options} {ds : List Char}
    (hds : o.delimiters = ds.map fun d => .literal [d]) (hne : ds ≠ [])
    (hcase : o.ignoreCase = false) {l : Leaf} (hl : l.kind = .pattern ∨ o.regexp = true)
    (hmarker : '~' ∉ l.text) {P : Regex} (hP : Regex.ofPattern? false l.text = some P)
    (hfree : ∀ u w v, P.Matches u w v → ∀ c ∈ w, c ∉ ds) :
    ∃ r, o.resolve = .ok r ∧ ∀ extractor,
      (CompiledTerm.compile (Context.key ⟨r, extractor⟩ l)).isOk = true →
        ∀ c : Cache, c.Faithful → ∀ text, ∃ fs,
          (Query.fragments ⟨r, extractor⟩ (.leaf l) text c).1 = .ok fs ∧
          fs = ((tokens ds text).filter fun k => k.Matched P text ∧ ¬ k.Shadowed ds P text).map
            (fun k => ⟨l.text, k.span, k.text⟩) ∧
          (P.Lookless → P.Matches [] [] [] → ∀ k ∈ tokens ds text, k.text = [] →
            (k.Shadowed ds P text → fs.count ⟨l.text, k.span, []⟩ = 0) ∧
            (¬ k.Shadowed ds P text → fs.count ⟨l.text, k.span, []⟩ = 1)) := by
  have hds' : o.delimiters = (ds.map fun d => [d]).map .literal := by
    simpa [List.map_map, Function.comp_def] using hds
  have hne' : (ds.map fun d => [d]) ≠ [] := by simpa using hne
  let r : Resolved := ⟨o, Delimiter.choice ((ds.map fun d => [d]).map escape)⟩
  refine ⟨r, resolve_literals hds' hne' (by simp), fun extractor hok c hc text => ?_⟩
  have hkey : (Context.key ⟨r, extractor⟩ l).asPattern = true := by
    rcases hl with hl | hl <;> simp [Context.key, Leaf.isPattern, hl, r]
  have htext : l.text ≠ [] := by
    intro hnil
    have hrefused : FuzzyTerm.parse [] = .error (.term (.noCore [])) := rfl
    have hterm : (Context.key ⟨r, extractor⟩ l).term = [] := hnil
    simp [CompiledTerm.compile, hterm, hrefused, Except.isOk, Except.toBool] at hok
  obtain ⟨t, ht⟩ := exists_of_isOk hok
  have hmatcher : t.matcher (Context.ignoreCase ⟨r, extractor⟩) = tokenTerm ds P := by
    have hterm := exact_eq_tokenTerm hkey hmarker hP hne rfl htext ht
    simp [CompiledTerm.matcher, Context.ignoreCase, r, hcase, hterm]
  let found (k : Token) : Prop := k.Matched P text ∧ ¬ k.Shadowed ds P text
  let fs : List Fragment :=
    ((tokens ds text).filter (found ·)).map fun k => ⟨l.text, k.span, k.text⟩
  have hfs : (termSpans (t.matcher (Context.ignoreCase ⟨r, extractor⟩)) text).map
      (fun s => ⟨l.text, s, text.slice s⟩) = fs := by
    rw [hmatcher, termSpans_tokenTerm hne (hfree _ _ _), List.map_map]
    refine List.map_congr_left fun k hk => ?_
    simp [slice_of_mem_tokens (List.mem_of_mem_filter hk)]
  refine ⟨fs, ?_, rfl, fun hlook hempty k hk htoken => ?_⟩
  · rw [(gives_fragments_leaf ht text c hc).1, hfs]
  · have hcount : fs.count ⟨l.text, k.span, []⟩ = if found k then 1 else 0 := by
      rw [← htoken]
      simpa using count_found (found ·) l.text hk
    have hmatched : k.Matched P text := by
      obtain ⟨u, v, hcut, hstart⟩ := exists_cut_of_mem_tokens hk
      refine ⟨u, v, hcut, hstart, ?_⟩
      rw [htoken]
      exact hlook.matches_of_matches hempty
    constructor
    · intro hshadowed
      rw [hcount, if_neg fun hfound => hfound.2 hshadowed]
    · intro hclear
      rw [hcount, if_pos ⟨hmatched, hclear⟩]

/-- What any number of one character matches. -/
theorem matches_any_number {c : Char} {u w v : Text} :
    (Regex.rep (.one (.single c)) 0 none true).Matches u w v ↔ ∀ x ∈ w, x = c := by
  simp only [Regex.matches_rep_one, CharSet.contains_single]

/-- Empty tokens at both ends and between two delimiters, of which the second is lost. -/
theorem fragments_empty_tokens_commas :
    ∃ r fs, ({ delimiters := [.literal [','], .literal [' ']], ignoreCase := false } :
        Options).resolve = .ok r ∧
      (Query.fragments ⟨r, taggedFields⟩ (.leaf ⟨.pattern, ['a', '*']⟩)
        [',', ' ', 'b', ' ', ',', 'a', ','] {}).1 = .ok fs ∧
      fs.count ⟨['a', '*'], ⟨0, 0⟩, []⟩ = 1 ∧ fs.count ⟨['a', '*'], ⟨1, 1⟩, []⟩ = 0 ∧
      fs.count ⟨['a', '*'], ⟨4, 4⟩, []⟩ = 1 ∧ fs.count ⟨['a', '*'], ⟨7, 7⟩, []⟩ = 1 := by
  let o : Options := { delimiters := [.literal [','], .literal [' ']], ignoreCase := false }
  let l : Leaf := ⟨.pattern, ['a', '*']⟩
  let P : Regex := .rep (.one (.single 'a')) 0 none true
  let text : Text := [',', ' ', 'b', ' ', ',', 'a', ',']
  have hds : o.delimiters = [',', ' '].map fun d => .literal [d] := rfl
  have hP : Regex.ofPattern? false l.text = some P := by decide +kernel
  have hempty : ∀ {u v}, P.Matches u [] v := matches_any_number.2 (by simp)
  have hfree : ∀ u w v, P.Matches u w v → ∀ c ∈ w, c ∉ [',', ' '] := by
    intro u w v hw c hc
    rw [matches_any_number.1 hw c hc]
    decide
  obtain ⟨r, hr, h⟩ := fragments_empty_tokens hds (by simp) rfl (.inl rfl) (by simp [l]) hP
    hfree
  have hfragment : ⟨o, Delimiter.choice [escape [','], escape [' ']]⟩ = r := Except.ok.inj hr
  subst hfragment
  obtain ⟨fs, hfs, -, hcount⟩ := h taggedFields (by decide +kernel) {} Cache.faithful_empty text
  have hshadowed : (⟨1, []⟩ : Token).Shadowed [',', ' '] P text :=
    ⟨',', by simp, _, rfl, hempty, rfl⟩
  have hclear : ∀ n ≠ 1, ¬ (⟨n, []⟩ : Token).Shadowed [',', ' '] P text := by
    rintro n hn ⟨d, -, v, hcons, -, hstart⟩
    obtain ⟨rfl, -⟩ := List.cons.inj hcons
    exact hn hstart
  have hall := hcount trivial hempty
  refine ⟨_, fs, hr, hfs, ?_, ?_, ?_, ?_⟩
  · exact (hall ⟨0, []⟩ (by decide) rfl).2 (hclear 0 (by decide))
  · exact (hall ⟨1, []⟩ (by decide) rfl).1 hshadowed
  · exact (hall ⟨4, []⟩ (by decide) rfl).2 (hclear 4 (by decide))
  · exact (hall ⟨7, []⟩ (by decide) rfl).2 (hclear 7 (by decide))

/-- The empty token behind a delimiter that the text starts with is not reported. -/
theorem fragments_leading_delimiter :
    ∃ r P, ({ delimiters := [.literal [',']], ignoreCase := false } : Options).resolve = .ok r ∧
      Regex.ofPattern? false ['a', '*'] = some P ∧ P.Matches [] [] [] ∧
      (∀ u w v, P.Matches u w v → ∀ c ∈ w, c ∉ [',']) ∧ ⟨1, []⟩ ∈ tokens [','] [','] ∧
      (Query.fragments ⟨r, taggedFields⟩ (.leaf ⟨.pattern, ['a', '*']⟩) [','] {}).1 =
        .ok [⟨['a', '*'], ⟨0, 0⟩, []⟩] := by
  have hfree : ∀ u w v, (Regex.rep (.one (.single 'a')) 0 none true).Matches u w v →
      ∀ c ∈ w, c ∉ [','] := by
    intro u w v hw c hc
    rw [matches_any_number.1 hw c hc]
    decide
  exact ⟨_, .rep (.one (.single 'a')) 0 none true, rfl, by decide +kernel,
    matches_any_number.2 (by simp), hfree, by decide, by decide +kernel⟩

end TextSieve
