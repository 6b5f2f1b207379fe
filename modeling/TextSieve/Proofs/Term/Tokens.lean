import TextSieve.Proofs.Pattern.Leftmost
import TextSieve.Proofs.Term.Anchoring
import TextSieve.Proofs.Term.Markers

/-! The tokens of a text under delimiters of one character. An expression that never matches a
delimiter matches whole tokens and nothing else, and a search that goes on from the end of one match
finds each of them once, unless the text has two matches at its start. A term without wildcards
matches the tokens that are equal to it. -/

namespace TextSieve

open Pattern Reader

/-- A stretch of a text between delimiters, with the offset where it starts. -/
structure Token where
  start : Nat
  text : Text
deriving DecidableEq, Repr

def Token.span (t : Token) : Span := ⟨t.start, t.start + Text.size t.text⟩

variable {ds : List Char}

/-- The tokens from one on that starts at an offset and of which a part has been read. -/
def tokensFrom (ds : List Char) (start : Nat) (part : Text) : Text → List Token
  | [] => [⟨start, part⟩]
  | c :: rest =>
    if c ∈ ds then ⟨start, part⟩ :: tokensFrom ds (start + Text.size part + c.utf8Size) [] rest
    else tokensFrom ds start (part ++ [c]) rest

def tokens (ds : List Char) (t : Text) : List Token :=
  tokensFrom ds 0 [] t

theorem map_text_tokensFrom (start : Nat) (part t : Text) :
    (tokensFrom ds start part t).map (·.text) =
      (t.splitOnP (· ∈ ds)).modifyHead (part ++ ·) := by
  induction t generalizing start part with
  | nil => simp [tokensFrom]
  | cons c t ih =>
    rw [List.splitOnP_cons_eq_if_modifyHead]
    by_cases hc : c ∈ ds
    · simp only [tokensFrom, hc, if_true, List.map_cons, ih, decide_true, List.modifyHead_cons,
        List.append_nil, List.nil_append]
      cases t.splitOnP (· ∈ ds) <;> rfl
    · simp only [tokensFrom, hc, if_false, ih, decide_false, Bool.false_eq_true]
      cases t.splitOnP (· ∈ ds) <;> simp

theorem map_text_tokens (t : Text) : (tokens ds t).map (·.text) = t.splitOnP (· ∈ ds) := by
  rw [tokens, map_text_tokensFrom]
  cases t.splitOnP (· ∈ ds) <;> rfl

/-- A token lies in the text where it says. -/
theorem exists_cut_of_mem_tokensFrom (u part t : Text) {k : Token}
    (h : k ∈ tokensFrom ds (Text.size u) part t) :
    ∃ x y, u ++ part ++ t = x ++ k.text ++ y ∧ k.start = Text.size x := by
  induction t generalizing u part with
  | nil =>
    obtain rfl := List.mem_singleton.1 h
    exact ⟨u, [], rfl, rfl⟩
  | cons c t ih =>
    rw [tokensFrom] at h
    split at h
    · rcases List.mem_cons.1 h with rfl | h
      · exact ⟨u, c :: t, rfl, rfl⟩
      · have hsize : Text.size u + Text.size part + c.utf8Size = Text.size (u ++ part ++ [c]) := by
          simp [Nat.add_assoc]
        rw [hsize] at h
        simpa using ih (u ++ part ++ [c]) [] h
    · simpa using ih u (part ++ [c]) h

theorem exists_cut_of_mem_tokens {t : Text} {k : Token} (h : k ∈ tokens ds t) :
    ∃ x y, t = x ++ k.text ++ y ∧ k.start = Text.size x :=
  exists_cut_of_mem_tokensFrom [] [] t h

theorem slice_of_mem_tokens {t : Text} {k : Token} (h : k ∈ tokens ds t) :
    t.slice k.span = k.text := by
  obtain ⟨x, y, rfl, hstart⟩ := exists_cut_of_mem_tokens h
  simpa [Token.span, hstart] using Text.slice_append x k.text y

theorem le_start_of_mem_tokensFrom {start : Nat} {part t : Text} {k : Token}
    (h : k ∈ tokensFrom ds start part t) : start ≤ k.start := by
  induction t generalizing start part with
  | nil =>
    obtain rfl := List.mem_singleton.1 h
    exact Nat.le_refl _
  | cons c t ih =>
    rw [tokensFrom] at h
    split at h
    · rcases List.mem_cons.1 h with rfl | h
      · exact Nat.le_refl _
      · have := ih h
        omega
    · exact ih h

/-- Every token ends before the delimiter behind it, and the next one starts after that. -/
theorem pairwise_tokensFrom (start : Nat) (part t : Text) :
    (tokensFrom ds start part t).Pairwise fun j k => j.span.stop < k.start := by
  induction t generalizing start part with
  | nil => exact List.pairwise_singleton _ _
  | cons c t ih =>
    rw [tokensFrom]
    split
    · refine List.pairwise_cons.2 ⟨fun k hk => ?_, ih _ _⟩
      have hstart := le_start_of_mem_tokensFrom hk
      have hc := c.utf8Size_pos
      simp only [Token.span]
      omega
    · exact ih _ _

/-- What may stand between the end of `u` and a token: one delimiter, or nothing at the start. -/
def Leads (ds : List Char) (u l : Text) : Prop := l = [] ∧ u = [] ∨ ∃ d ∈ ds, l = [d]

def Stops (ds : List Char) (v : Text) : Prop := ∀ c ∈ v.head?, c ∈ ds

/-- A token ends where the next delimiter is. -/
theorem eq_of_stops {w w' v v' : Text} (hw : ∀ c ∈ w, c ∉ ds) (hw' : ∀ c ∈ w', c ∉ ds)
    (hv : Stops ds v) (hv' : Stops ds v') (h : w ++ v = w' ++ v') : w = w' := by
  induction w generalizing w' with
  | nil =>
    cases w' with
    | nil => rfl
    | cons c w' =>
      obtain rfl : v = c :: (w' ++ v') := h
      exact absurd (hv c rfl) (hw' c (by simp))
  | cons c w ih =>
    cases w' with
    | nil =>
      obtain rfl : c :: (w ++ v) = v' := h
      exact absurd (hv' c rfl) (hw c (by simp))
    | cons c' w' =>
      obtain ⟨rfl, htail⟩ : c = c' ∧ w ++ v = w' ++ v' := by simpa using h
      have := ih (List.forall_mem_cons.1 hw).2 (List.forall_mem_cons.1 hw').2 htail
      rw [this]

theorem exists_of_length_lt {w v x z : Text} {c : Char} (h : w ++ v = x ++ c :: z)
    (hlt : x.length < w.length) : ∃ y, w = x ++ c :: y := by
  rcases List.append_eq_append_iff.1 h with ⟨y, hx, -⟩ | ⟨y, hw, hy⟩
  · simp only [hx, List.length_append] at hlt
    omega
  · cases y with
    | nil => simp [hw] at hlt
    | cons c' y =>
      obtain ⟨rfl, -⟩ : c = c' ∧ z = y ++ v := by simpa using hy
      exact ⟨y, hw⟩

def tokenTerm (ds : List Char) (B : Regex) : Regex :=
  delimited (anyOf false (ds.map fun d => [d])) B

/-- The text starts with a delimiter, and the expression matches the empty token in front of it. At
the start of such a text there is another match, of the token behind the delimiter. -/
def Forks (ds : List Char) (B : Regex) (t : Text) : Prop :=
  ∃ d ∈ ds, ∃ v, t = d :: v ∧ B.Matches [] [] t

def Token.Matched (B : Regex) (t : Text) (k : Token) : Prop :=
  ∃ u v, t = u ++ k.text ++ v ∧ k.start = Text.size u ∧ B.Matches u k.text v

theorem matched_iff {B : Regex} {u w v : Text} :
    (⟨Text.size u, w⟩ : Token).Matched B (u ++ w ++ v) ↔ B.Matches u w v := by
  constructor
  · intro h
    obtain ⟨x, y, htext, hstart, hmatch⟩ := h
    obtain ⟨rfl, hrest⟩ := Text.append_inj_of_size
      (show u ++ (w ++ v) = x ++ (w ++ y) by simpa using htext) hstart
    obtain rfl : v = y := List.append_cancel_left hrest
    exact hmatch
  · exact fun h => ⟨u, v, rfl, rfl, h⟩

open Classical in
theorem filter_matched {B : Regex} {u w v : Text} :
    ([⟨Text.size u, w⟩] : List Token).filter (·.Matched B (u ++ w ++ v)) =
      if B.Matches u w v then [⟨Text.size u, w⟩] else [] := by
  simp only [List.filter_cons, List.filter_nil, decide_eq_true_eq, matched_iff]

section

variable {B : Regex} (hds : ds ≠ [])

include hds

theorem goes_tokenTerm {u v : Text} {f : Thread}
    (h : (tokenTerm ds B).Goes (.startAt (.between u v)) f) :
    ∃ l w y, v = l ++ w ++ y ∧ Leads ds u l ∧ B.Matches (u ++ l) w y ∧ Stops ds y ∧
      f.group? termGroup = some ⟨Text.size (u ++ l), Text.size (u ++ l ++ w)⟩ := by
  obtain ⟨l, w, r, y, rfl, hl, hw, hr, hgroup⟩ := goes_delimited (ungrouped_anyOf _) h
  rw [matches_anyOf (by simpa using hds)] at hl hr
  refine ⟨l, w, r ++ y, by simp, by simpa [Leads, eq_comm] using hl, hw, ?_, hgroup⟩
  rcases hr with hr | ⟨rfl, rfl⟩
  · obtain ⟨d, hd, rfl⟩ := List.mem_map.1 hr
    simpa [Stops] using hd
  · simp [Stops]

theorem exists_goes_tokenTerm {u l w v : Text} (hl : Leads ds u l) (hw : B.Matches (u ++ l) w v)
    (hv : Stops ds v) :
    ∃ f, (tokenTerm ds B).Goes (.startAt (.between u (l ++ w ++ v))) f := by
  obtain ⟨r, y, rfl, hr⟩ : ∃ r y, v = r ++ y ∧
      (r ∈ ds.map (fun d => [d]) ∨ r = [] ∧ y = []) := by
    cases v with
    | nil => exact ⟨[], [], rfl, .inr ⟨rfl, rfl⟩⟩
    | cons d v => exact ⟨[d], v, rfl, .inl (List.mem_map.2 ⟨d, hv d rfl, rfl⟩)⟩
  have hm : (tokenTerm ds B).Matches u (l ++ w ++ r) y := by
    refine matches_delimited.2 ⟨l, w, r, rfl, ?_, hw, ?_⟩
    · rw [matches_anyOf (by simpa using hds)]
      simpa [Leads, eq_comm] using hl
    · rwa [matches_anyOf (by simpa using hds)]
  obtain ⟨f, hf, -⟩ := (Regex.agree_goes _ (.startAt (.between u (l ++ w ++ r ++ y))) u _
    rfl _).2 ⟨_, y, rfl, rfl, hm⟩
  exact ⟨f, by simpa only [List.append_assoc] using hf⟩

/-- Nothing is matched inside a token. -/
theorem dead_inside {u w v x y : Text} (hne : u ++ x ≠ []) (hw : ∀ c ∈ w, c ∉ ds)
    (h : w ++ v = x ++ y) (hlt : x.length < w.length) :
    (tokenTerm ds B).Dead (.between (u ++ x) y) := by
  intro f hf
  obtain ⟨l, w', z, rfl, hl, -⟩ := goes_tokenTerm hds hf
  rcases hl with ⟨-, hnil⟩ | ⟨d, hd, rfl⟩
  · exact hne hnil
  · obtain ⟨y, rfl⟩ := exists_of_length_lt h hlt
    exact hw d (by simp) hd

variable (hfree : ∀ {u w v}, B.Matches u w v → ∀ c ∈ w, c ∉ ds)

include hfree

omit hds in
theorem forks_of_cons {w y z : Text} {d : Char} (hd : d ∈ ds) (hw : B.Matches [] w y)
    (h : w ++ y = d :: z) : Forks ds B (d :: z) := by
  cases w with
  | nil => exact ⟨d, hd, z, rfl, h ▸ hw⟩
  | cons c w =>
    obtain ⟨rfl, -⟩ : c = d ∧ w ++ y = z := by simpa using h
    exact absurd hd (hfree hw c (by simp))

omit hds in
/-- At one place there is one match, except at the start of a text that forks. -/
theorem token_unique {u l w y l' w' y' : Text} (hclear : ¬ (u = [] ∧ Forks ds B (l ++ w ++ y)))
    (hl : Leads ds u l) (hl' : Leads ds u l') (hw : B.Matches (u ++ l) w y)
    (hw' : B.Matches (u ++ l') w' y') (hy : Stops ds y) (hy' : Stops ds y')
    (h : l ++ w ++ y = l' ++ w' ++ y') : l = l' ∧ w = w' := by
  rcases hl with ⟨rfl, rfl⟩ | ⟨d, hd, rfl⟩
  · rcases hl' with ⟨rfl, -⟩ | ⟨d', hd', rfl⟩
    · exact ⟨rfl, eq_of_stops (hfree hw) (hfree hw') hy hy' h⟩
    · have hcons : w ++ y = d' :: (w' ++ y') := by simpa using h
      have hfork := forks_of_cons hfree hd' hw hcons
      exact absurd ⟨rfl, by rwa [← hcons] at hfork⟩ hclear
  · rcases hl' with ⟨rfl, rfl⟩ | ⟨d', hd', rfl⟩
    · have hfork := forks_of_cons hfree hd hw' (z := w ++ y) (by simpa using h.symm)
      exact absurd ⟨rfl, by simpa using hfork⟩ hclear
    · obtain ⟨rfl, hrest⟩ : d = d' ∧ w ++ y = w' ++ y' := by simpa using h
      exact ⟨rfl, eq_of_stops (hfree hw) (hfree hw') hy hy' hrest⟩

theorem group_unique {u v : Text} (hclear : ¬ (u = [] ∧ Forks ds B v)) {f g : Thread}
    (hf : (tokenTerm ds B).Goes (.startAt (.between u v)) f)
    (hg : (tokenTerm ds B).Goes (.startAt (.between u v)) g) :
    f.group? termGroup = g.group? termGroup := by
  obtain ⟨l, w, y, rfl, hl, hw, hy, hf⟩ := goes_tokenTerm hds hf
  obtain ⟨l', w', y', hv, hl', hw', hy', hg⟩ := goes_tokenTerm hds hg
  obtain ⟨rfl, rfl⟩ := token_unique hfree hclear hl hl' hw hw' hy hy' hv
  rw [hf, hg]

/-- A token that the expression does not match is passed over. -/
theorem dead_of_not_matches {u l w v x y : Text} (hclear : ¬ (u = [] ∧ Forks ds B (l ++ w ++ v)))
    (hl : Leads ds u l) (hw : ∀ c ∈ w, c ∉ ds) (hv : Stops ds v) (hno : ¬ B.Matches (u ++ l) w v)
    (h : l ++ w ++ v = x ++ y) (hlt : x.length < (l ++ w).length) :
    (tokenTerm ds B).Dead (.between (u ++ x) y) := by
  rcases hl with ⟨rfl, rfl⟩ | ⟨d, hd, rfl⟩
  · by_cases hx : x = []
    · subst hx
      intro f hf
      obtain ⟨l', w', z, rfl, hl', hw', hz, -⟩ := goes_tokenTerm hds hf
      rcases hl' with ⟨rfl, -⟩ | ⟨d', hd', rfl⟩
      · obtain rfl := eq_of_stops hw (hfree hw') hv hz h
        obtain rfl : v = z := by simpa using h
        exact hno hw'
      · obtain ⟨y, rfl⟩ := exists_of_length_lt (x := []) (by simpa using h) hlt
        exact hw d' (by simp) hd'
    · exact dead_inside hds (by simpa using hx) hw h hlt
  · cases x with
    | nil =>
      intro f hf
      obtain ⟨l', w', z, rfl, hl', hw', hz, -⟩ := goes_tokenTerm hds hf
      rcases hl' with ⟨rfl, hnil⟩ | ⟨d', hd', rfl⟩
      · obtain rfl : u = [] := by simpa using hnil
        have hfork := forks_of_cons hfree hd hw' (z := w ++ v) (by simpa using h.symm)
        exact hclear ⟨rfl, by simpa using hfork⟩
      · obtain ⟨rfl, hrest⟩ : d = d' ∧ w ++ v = w' ++ z := by simpa using h
        obtain rfl := eq_of_stops hw (hfree hw') hv hz hrest
        obtain rfl : v = z := by simpa using hrest
        exact hno (by simpa using hw')
    | cons d' x =>
      obtain ⟨rfl, hrest⟩ : d = d' ∧ w ++ v = x ++ y := by simpa using h
      have hdead := dead_inside (B := B) (u := u ++ [d]) hds (by simp) hw hrest (by simpa using hlt)
      simpa using hdead

/-- The span that is found at a token that the expression matches. -/
theorem search_at_token {u l w v : Text} (hclear : ¬ (u = [] ∧ Forks ds B (l ++ w ++ v)))
    (hl : Leads ds u l) (hw : B.Matches (u ++ l) w v) (hv : Stops ds v) :
    ((tokenTerm ds B).search (.between u (l ++ w ++ v))).bind (·.group? termGroup) =
      some ⟨Text.size (u ++ l), Text.size (u ++ l ++ w)⟩ := by
  obtain ⟨f, hf⟩ := exists_goes_tokenTerm hds hl hw hv
  rw [Regex.search_bind_of_goes (group_unique hds hfree hclear) hf]
  obtain ⟨l', w', y, h, hl', hw', hy, hgroup⟩ := goes_tokenTerm hds hf
  obtain ⟨rfl, rfl⟩ := token_unique hfree hclear hl hl' hw hw' hv hy h
  exact hgroup

end

theorem moveTo_between (u z v : Text) :
    (Cursor.between u (z ++ v)).moveTo (Text.size (u ++ z)) = .between (u ++ z) v := by
  have hseek : ∀ (z u : Text) (before : Option Char), before = u.getLast? →
      Cursor.seek (Text.size (u ++ z)) (Text.size u) before (z ++ v) = .between (u ++ z) v := by
    intro z
    induction z with
    | nil =>
      rintro u _ rfl
      cases v <;> simp [Cursor.seek, Cursor.between]
    | cons c z ih =>
      rintro u _ rfl
      have hc := c.utf8Size_pos
      have hlt : ¬ Text.size (u ++ c :: z) ≤ Text.size u := by
        simp
        omega
      rw [List.cons_append, Cursor.seek, if_neg hlt]
      simpa using ih (u ++ [c]) (some c) (by simp)
  exact hseek z u _ rfl

variable {r : Regex} {n : Nat} {u v : Text}

theorem termSpansFrom_of_none {k : Cursor} (h : (r.search k).bind (·.group? termGroup) = none) :
    termSpansFrom r n k = [] := by
  cases n with
  | zero => rfl
  | succ n => simp [termSpansFrom, h]

/-- A term is found if it has spans, as long as every match says where the term is. -/
theorem isMatch_iff_termSpans_ne_nil {t : Text}
    (h : ∀ u v f, r.Goes (.startAt (.between u v)) f → (f.group? termGroup).isSome = true) :
    r.isMatch t = true ↔ termSpans r t ≠ [] := by
  rw [Regex.isMatch, termSpans]
  cases hs : r.search (Cursor.start t) with
  | none => simp [termSpansFrom_of_none (r := r) (k := Cursor.start t) (by rw [hs]; rfl)]
  | some f =>
    obtain ⟨x, y, -, hg, -⟩ := Regex.first_of_search (u := []) hs
    obtain ⟨span, hspan⟩ := Option.isSome_iff_exists.1 (h _ _ _ hg)
    simp [termSpansFrom, hs, hspan]

theorem termSpansFrom_of_some {z : Text} {start : Nat} (hz : z ≠ [])
    (h : (r.search (.between u (z ++ v))).bind (·.group? termGroup) =
      some ⟨start, Text.size (u ++ z)⟩) :
    termSpansFrom r (n + 1) (.between u (z ++ v)) =
      ⟨start, Text.size (u ++ z)⟩ :: termSpansFrom r n (.between (u ++ z) v) := by
  have hlt : (Cursor.between u (z ++ v)).offset < Text.size (u ++ z) := by
    obtain ⟨c, z, rfl⟩ := List.exists_cons_of_ne_nil hz
    have hc := c.utf8Size_pos
    simp [Cursor.between]
    omega
  simp only [termSpansFrom, h, hlt, if_true, moveTo_between]

section

variable {B : Regex} (hds : ds ≠ [])

include hds

theorem termSpansFrom_end (hu : u ≠ []) (n : Nat) :
    termSpansFrom (tokenTerm ds B) n (.between u []) = [] := by
  refine termSpansFrom_of_none ?_
  rw [Regex.search_eq_none_iff.2]
  · rfl
  · intro x y h f hf
    obtain ⟨rfl, rfl⟩ := List.append_eq_nil_iff.1 h.symm
    obtain ⟨l, w, y, h, hl, -⟩ := goes_tokenTerm hds hf
    rcases hl with ⟨-, hnil⟩ | ⟨d, -, rfl⟩
    · exact hu (by simpa using hnil)
    · simp at h

variable (hfree : ∀ {u w v}, B.Matches u w v → ∀ c ∈ w, c ∉ ds)

include hfree

/-- A search that passes over a stretch in which nothing is matched goes on as one that starts
behind it. -/
theorem termSpansFrom_skip {z : Text} (hne : u ++ z ≠ [])
    (hdead : ∀ x y, z ++ v = x ++ y → x.length < z.length →
      (tokenTerm ds B).Dead (.between (u ++ x) y)) :
    termSpansFrom (tokenTerm ds B) (n + 1) (.between u (z ++ v)) =
      termSpansFrom (tokenTerm ds B) (n + 1) (.between (u ++ z) v) := by
  have hclear : ∀ x y, ¬ (u ++ z ++ x = [] ∧ Forks ds B y) := fun x _ hnil =>
    hne (List.append_eq_nil_iff.1 hnil.1).1
  have hbind := Regex.search_bind_skip (fun _ => group_unique hds hfree (hclear _ _)) hdead
  cases hs : ((tokenTerm ds B).search (.between (u ++ z) v)).bind (·.group? termGroup) with
  | none => rw [termSpansFrom_of_none hs, termSpansFrom_of_none (hbind.trans hs)]
  | some span =>
    obtain ⟨f, hf, hgroup⟩ := Option.bind_eq_some_iff.1 hs
    obtain ⟨x, y, rfl, hg, -⟩ := Regex.first_of_search hf
    obtain ⟨l, w, v, rfl, hl, -, -, hgroup'⟩ := goes_tokenTerm hds hg
    obtain rfl := Option.some.inj (hgroup'.symm.trans hgroup)
    have hlead : l ≠ [] := by
      rcases hl with ⟨-, hnil⟩ | ⟨d, -, rfl⟩
      · exact absurd (List.append_eq_nil_iff.1 hnil).1 hne
      · simp
    -- both searches go on from the end of the token that was found
    have hnear : ((tokenTerm ds B).search
        (.between (u ++ z) (x ++ l ++ w ++ v))).bind (·.group? termGroup) =
          some ⟨Text.size (u ++ z ++ x ++ l), Text.size (u ++ z ++ (x ++ l ++ w))⟩ := by
      simpa only [List.append_assoc] using hs
    have hfar : ((tokenTerm ds B).search
        (.between u (z ++ (x ++ l ++ w) ++ v))).bind (·.group? termGroup) =
          some ⟨Text.size (u ++ z ++ x ++ l), Text.size (u ++ (z ++ (x ++ l ++ w)))⟩ := by
      simpa only [List.append_assoc] using hbind.trans hs
    have hnear := termSpansFrom_of_some (n := n) (by simp [hlead]) hnear
    have hfar := termSpansFrom_of_some (n := n) (by simp [hlead]) hfar
    simp only [List.append_assoc] at hnear hfar ⊢
    rw [hnear, hfar]

open Classical in
/-- One token: its span is found if the expression matches it, and the search goes on behind it. -/
theorem termSpansFrom_token {l w : Text} (hclear : ¬ (u = [] ∧ Forks ds B (l ++ w ++ v)))
    (hne : l ++ w ≠ []) (hl : Leads ds u l) (hw : ∀ c ∈ w, c ∉ ds) (hv : Stops ds v) :
    ∃ m ≥ n, termSpansFrom (tokenTerm ds B) (n + 1) (.between u (l ++ w ++ v)) =
      (([⟨Text.size (u ++ l), w⟩] : List Token).filter (·.Matched B (u ++ l ++ w ++ v))).map
          Token.span ++
        termSpansFrom (tokenTerm ds B) m (.between (u ++ (l ++ w)) v) := by
  by_cases hmatch : B.Matches (u ++ l) w v
  · refine ⟨n, Nat.le_refl n, ?_⟩
    have hfound := search_at_token hds hfree hclear hl hmatch hv
    rw [termSpansFrom_of_some hne (by simpa using hfound), filter_matched, if_pos hmatch]
    simp [Token.span, Nat.add_assoc]
  · have hskip := termSpansFrom_skip hds hfree (n := n) (u := u) (z := l ++ w) (by simp [hne])
      fun x y => dead_of_not_matches hds hfree hclear hl hw hv hmatch
    refine ⟨n + 1, Nat.le_succ n, ?_⟩
    rw [hskip, filter_matched, if_neg hmatch]
    rfl

open Classical in
/-- The one token of the empty text. -/
theorem termSpansFrom_nil (n : Nat) :
    termSpansFrom (tokenTerm ds B) (n + 1) (.between [] []) =
      (([⟨0, []⟩] : List Token).filter (·.Matched B [])).map Token.span := by
  have hclear : ¬ ([] = ([] : Text) ∧ Forks ds B []) := by simp [Forks]
  have hfilter := filter_matched (B := B) (u := []) (w := []) (v := [])
  simp only [List.append_nil, Text.size_nil] at hfilter
  by_cases hmatch : B.Matches [] [] []
  · have hfound := search_at_token hds hfree (u := []) (l := []) (w := []) hclear (.inl ⟨rfl, rfl⟩)
      hmatch (by simp [Stops])
    simp only [List.append_nil, Text.size_nil] at hfound
    rw [hfilter, if_pos hmatch]
    simp [termSpansFrom, hfound, Token.span]
  · have hdead : ∀ x y : Text, [] = x ++ y → (tokenTerm ds B).Dead (.between ([] ++ x) y) := by
      intro x y h f hf
      obtain ⟨rfl, rfl⟩ := List.append_eq_nil_iff.1 h.symm
      obtain ⟨l, w, y, h, -, hw, -⟩ := goes_tokenTerm hds hf
      obtain ⟨rfl, rfl, rfl⟩ : l = [] ∧ w = [] ∧ y = [] := by simpa using h
      exact hmatch hw
    rw [termSpansFrom_of_none (by rw [Regex.search_eq_none_iff.2 hdead]; rfl), hfilter,
      if_neg hmatch]
    rfl

open Classical in
/-- The spans from one token on are those of the tokens that the expression matches. By induction on
the text of which no token has been found yet. -/
theorem termSpansFrom_tokens (u l part v : Text)
    (hclear : ¬ (u = [] ∧ Forks ds B (l ++ part ++ v))) (hl : Leads ds u l)
    (hpart : ∀ c ∈ part, c ∉ ds) (hn : (part ++ v).length < n) :
    termSpansFrom (tokenTerm ds B) n (.between u (l ++ part ++ v)) =
      ((tokensFrom ds (Text.size (u ++ l)) part v).filter
        (·.Matched B (u ++ l ++ part ++ v))).map Token.span := by
  induction v generalizing u l part n with
  | nil =>
    obtain ⟨n, rfl⟩ : ∃ m, n = m + 1 := ⟨n - 1, by omega⟩
    by_cases hne : l ++ part = []
    · obtain ⟨rfl, rfl⟩ := List.append_eq_nil_iff.1 hne
      obtain rfl : u = [] := by simpa [Leads] using hl
      exact termSpansFrom_nil hds hfree n
    · obtain ⟨m, -, htoken⟩ := termSpansFrom_token hds hfree (n := n) hclear hne hl hpart
        (by simp [Stops])
      rw [htoken, termSpansFrom_end hds (by simp [hne]), List.append_nil]
      rfl
  | cons c v ih =>
    by_cases hc : c ∈ ds
    · by_cases hne : l ++ part = []
      · -- the empty token in front of the delimiter is not matched, or the text would fork
        obtain ⟨rfl, rfl⟩ := List.append_eq_nil_iff.1 hne
        obtain rfl : u = [] := by simpa [Leads] using hl
        have hno : ¬ (⟨0, []⟩ : Token).Matched B (c :: v) := fun h =>
          hclear ⟨rfl, c, hc, v, rfl, (matched_iff (u := []) (w := [])).1 h⟩
        have hlt : ([] ++ v).length < n := by
          simp at hn ⊢
          omega
        have hrest := ih [] [c] [] (by simpa using hclear) (.inr ⟨c, hc, rfl⟩) (by simp) hlt
        simpa [tokensFrom, hc, hno] using hrest
      · obtain ⟨n, rfl⟩ : ∃ m, n = m + 1 := ⟨n - 1, by omega⟩
        obtain ⟨m, hm, htoken⟩ := termSpansFrom_token hds hfree (n := n) hclear hne hl hpart
          (by simpa [Stops] using hc)
        have hlt : ([] ++ v).length < m := by
          simp at hn ⊢
          omega
        have hrest := ih (u ++ (l ++ part)) [c] [] (by simp [hne]) (.inr ⟨c, hc, rfl⟩) (by simp) hlt
        have hsize : Text.size (u ++ (l ++ part) ++ [c]) =
            Text.size (u ++ l) + Text.size part + c.utf8Size := by
          simp [Nat.add_assoc]
        rw [hsize] at hrest
        rw [htoken, tokensFrom, if_pos hc]
        simp only [List.append_nil, List.cons_append, List.nil_append, List.append_assoc]
          at hrest ⊢
        rw [hrest, ← List.map_append, ← List.filter_append]
        rfl
    · have hpart' : ∀ d ∈ part ++ [c], d ∉ ds := by
        simpa [or_imp, forall_and, hc] using hpart
      have := ih u l (part ++ [c]) (by simpa using hclear) hl hpart' (by simpa using hn)
      simpa [tokensFrom, hc] using this

end

def exactTerm (ds : List Char) (core : Text) : Regex :=
  delimited (anyOf false (ds.map fun d => [d])) (.cats (core.map (letter false)))

section

variable {core : Text} (hcore : core ≠ []) (hfree : ∀ c ∈ core, c ∉ ds) (hds : ds ≠ [])

include hcore hfree hds

theorem termSpans_exactTerm (t : Text) :
    termSpans (exactTerm ds core) t =
      ((tokens ds t).filter (·.text = core)).map Token.span := by
  classical
  have hmatches : ∀ {u w v}, (Regex.cats (core.map (letter false))).Matches u w v ↔ w = core :=
    Regex.matches_cats_single
  have hclear : ¬ (([] : Text) = [] ∧ Forks ds (Regex.cats (core.map (letter false))) t) := by
    rintro ⟨-, d, -, v, rfl, hmatch⟩
    exact hcore (hmatches.1 hmatch).symm
  have hspans := termSpansFrom_tokens hds (fun h => hmatches.1 h ▸ hfree) [] [] [] t hclear
    (.inl ⟨rfl, rfl⟩) (by simp) (Nat.lt_succ_self t.length)
  refine hspans.trans (congrArg (List.map Token.span) (List.filter_congr fun k hk => ?_))
  refine decide_eq_decide.2 ⟨fun h => ?_, fun h => ?_⟩
  · obtain ⟨u, v, -, -, hmatch⟩ := h
    exact hmatches.1 hmatch
  · obtain ⟨u, v, htext, hstart⟩ := exists_cut_of_mem_tokens hk
    exact ⟨u, v, htext, hstart, hmatches.2 h⟩

theorem isMatch_exactTerm (t : Text) :
    (exactTerm ds core).isMatch t = (tokens ds t).any (·.text = core) := by
  have hgroup : ∀ u v f, (exactTerm ds core).Goes (.startAt (.between u v)) f →
      (f.group? termGroup).isSome = true := by
    intro u v f hf
    obtain ⟨l, w, y, -, -, -, -, hgroup⟩ := goes_tokenTerm hds hf
    rw [hgroup]
    rfl
  rw [Bool.eq_iff_iff, isMatch_iff_termSpans_ne_nil hgroup, termSpans_exactTerm hcore hfree hds]
  simp

end

/-- Under literal delimiters of one character each, the fragments of a literal leaf without
wildcards are the tokens that are equal to it. -/
theorem fragments_leaf_tokens {o : Options} {ds : List Char}
    (hds : o.delimiters = ds.map fun d => .literal [d]) (hne : ds ≠ [])
    (hcase : o.ignoreCase = false) (hregexp : o.regexp = false) {l : Leaf}
    (hl : l.kind ≠ .pattern) (htext : l.text ≠ []) (hmarker : '~' ∉ l.text)
    (hfree : ∀ c ∈ l.text, c ∉ ds) :
    ∃ r, o.resolve = .ok r ∧
      ∀ extractor, (CompiledTerm.compile (Context.key ⟨r, extractor⟩ l)).isOk = true →
        ∀ c : Cache, c.Faithful → ∀ text,
          (Query.fragments ⟨r, extractor⟩ (.leaf l) text c).1 =
              .ok (((tokens ds text).filter (·.text = l.text)).map
                fun t => ⟨l.text, t.span, l.text⟩) ∧
            (Query.eval ⟨r, extractor⟩ (.leaf l) text c).1 =
              .ok ((tokens ds text).any (·.text = l.text)) := by
  have hds' : o.delimiters = (ds.map fun d => [d]).map .literal := by
    simpa [List.map_map, Function.comp_def] using hds
  let r : Resolved := ⟨o, Delimiter.choice ((ds.map fun d => [d]).map escape)⟩
  have hr : o.resolve = .ok r := resolve_literals hds' (by simpa using hne) (by simp)
  refine ⟨r, hr, fun extractor hok c hc text => ?_⟩
  obtain ⟨t, ht⟩ := exists_of_isOk hok
  have hkey : (Context.key ⟨r, extractor⟩ l).asPattern = false := by
    simp [Context.key, Leaf.isPattern, hl, hregexp, r]
  have hexact : t.exact = exactTerm ds l.text := by
    rw [exact_eq_delimited (by simpa using hne) hkey rfl ht
      (FuzzyTerm.parse_of_not_mem htext hmarker)]
    simp [exactTerm, FuzzyTerm.regexes, Wildcard.regexes, Context.key]
  have hmatcher : t.matcher (Context.ignoreCase ⟨r, extractor⟩) = exactTerm ds l.text := by
    simp [CompiledTerm.matcher, Context.ignoreCase, r, hcase, hexact]
  constructor
  · rw [(gives_fragments_leaf ht text c hc).1, hmatcher, termSpans_exactTerm htext hfree hne,
      List.map_map]
    refine congrArg Except.ok (List.map_congr_left fun k hk => ?_)
    obtain ⟨hmem, hk⟩ := List.mem_filter.1 hk
    simpa [slice_of_mem_tokens hmem] using hk
  · rw [(gives_eval_leaf ht text c hc).1, CompiledTerm.isMatch, hmatcher,
      isMatch_exactTerm htext hfree hne]

/-- Delimiters of one byte and of three, and a term of two bytes: three adjacent matches, and a
token that only starts like the term. -/
theorem fragments_leaf_arrows :
    ∃ r, ({ delimiters := [.literal [' '], .literal ['→']], ignoreCase := false } :
        Options).resolve = .ok r ∧
      (Query.fragments ⟨r, taggedFields⟩ (.leaf ⟨.word, ['é']⟩)
        ['é', '→', 'é', ' ', 'é', 'a', ' ', '→', 'é'] {}).1 =
          .ok [⟨['é'], ⟨0, 2⟩, ['é']⟩, ⟨['é'], ⟨5, 7⟩, ['é']⟩, ⟨['é'], ⟨15, 17⟩, ['é']⟩] ∧
      (Query.eval ⟨r, taggedFields⟩ (.leaf ⟨.word, ['é']⟩)
        ['é', '→', 'é', ' ', 'é', 'a', ' ', '→', 'é'] {}).1 = .ok true := by
  let o : Options := { delimiters := [.literal [' '], .literal ['→']], ignoreCase := false }
  let l : Leaf := ⟨.word, ['é']⟩
  have hds : o.delimiters = [' ', '→'].map fun d => .literal [d] := rfl
  have hl : l.kind ≠ .pattern := by decide
  obtain ⟨r, hr, h⟩ := fragments_leaf_tokens hds (by simp) rfl rfl hl (by simp [l]) (by simp [l])
    (by simp [l])
  have hfragment : ⟨o, Delimiter.choice [escape [' '], escape ['→']]⟩ = r := Except.ok.inj hr
  refine ⟨r, hr, ?_⟩
  subst hfragment
  obtain ⟨hfragments, heval⟩ := h taggedFields (by decide +kernel) {} Cache.faithful_empty
    ['é', '→', 'é', ' ', 'é', 'a', ' ', '→', 'é']
  exact ⟨hfragments, heval⟩

end TextSieve
