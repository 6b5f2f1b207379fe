import Mathlib.Tactic.Common
import TextSieve.Proofs.Query.Normal
import TextSieve.Proofs.Query.Rests

/-! Queries written one behind the other. Each part of a query is read again in the longer one; only
the parts on either side of the seam are joined, as the sign between them says. -/

namespace TextSieve

namespace Query

variable {delimiter : Option Text} {t rest : Text} {q : Query} {qs : List Query}

/-- What a query chooses between, which is the query itself if it is no choice. -/
def orParts : Query → List Query
  | or qs => qs
  | q => [q]

def andParts : Query → List Query
  | and qs => qs
  | q => [q]

theorem joined_append {combine : List Query → Query} {qs' : List Query} (h : qs ≠ [])
    (h' : qs' ≠ []) : joined combine (qs ++ qs') = combine (qs ++ qs') := by
  obtain ⟨q, qs, rfl⟩ := List.exists_cons_of_ne_nil h
  obtain ⟨q', qs', rfl⟩ := List.exists_cons_of_ne_nil h'
  cases qs <;> rfl

theorem orParts_joined (hne : qs ≠ []) (hor : ∀ q ∈ qs, q.isOr = false) :
    orParts (joined or qs) = qs := by
  match qs, hne with
  | [q], _ =>
    have hq := hor q List.mem_cons_self
    cases q <;> first | rfl | cases hq
  | _ :: _ :: _, _ => rfl

theorem andParts_joined (hne : qs ≠ []) (hop : ∀ q ∈ qs, q.isOperand = true) :
    andParts (joined and qs) = qs := by
  match qs, hne with
  | [q], _ =>
    have hq := hop q List.mem_cons_self
    cases q <;> first | rfl | cases hq
  | _ :: _ :: _, _ => rfl

section

variable {operand : Text → Reading Query}

theorem forall_of_readParts {next? : Text → Option Text} {P : Query → Prop} (hop : Yields operand P)
    (h : readParts next? operand t = .ok (qs, rest)) : qs ≠ [] ∧ ∀ q ∈ qs, P q := by
  unfold readParts at h
  split at h
  · cases h
  · rename_i q₁ rest₁ hfirst
    obtain ⟨⟨qs₁, rest₂⟩, hmore, heq⟩ := exists_of_map_eq_ok h
    obtain ⟨rfl, -⟩ := Prod.mk.inj heq
    exact ⟨by simp, List.forall_mem_cons.2 ⟨hop hfirst, forall_of_readMore hop hmore⟩⟩

theorem exists_of_readParts_cons {next? : Text → Option Text}
    (h : readParts next? operand t = .ok (q :: qs, rest)) :
    ∃ rest₁, operand t = .ok (q, rest₁) ∧ readMore next? operand rest₁ = .ok (qs, rest) := by
  unfold readParts at h
  split at h
  · cases h
  · rename_i q₁ rest₁ hfirst
    obtain ⟨⟨qs₁, rest₂⟩, hmore, heq⟩ := exists_of_map_eq_ok h
    obtain ⟨⟨rfl, rfl⟩, rfl⟩ : (q₁ = q ∧ qs₁ = qs) ∧ rest₂ = rest := by simpa using heq
    exact ⟨rest₁, hfirst, hmore⟩

theorem exists_of_readAnd (hop : Yields operand fun q => q.isOperand = true)
    (h : readAnd operand t = .ok (q, rest)) :
    ∃ qs, readParts andNext? operand t = .ok (qs, rest) ∧ qs ≠ [] ∧ andParts q = qs := by
  obtain ⟨qs, hparts, rfl⟩ := readJoined_eq_ok_iff.1 h
  obtain ⟨hne, hall⟩ := forall_of_readParts hop hparts
  exact ⟨qs, hparts, hne, andParts_joined hne hall⟩

end

def readTop (delimiter : Option Text) : Text → Reading Query :=
  readOperand delimiter depthLimit

theorem parse_eq_ok_iff : parse delimiter t = .ok q ↔
    ∃ qs rest, readParts orNext? (readAnd (readTop delimiter)) (Text.trimStart t) = .ok (qs, rest) ∧
      Blanks rest ∧ q = joined or qs := by
  rw [parse_eq_ok_iff_readAll]
  unfold readAll readOr readTop
  rw [readJoined_eq_readParts]
  cases readParts orNext? (readAnd (readOperand delimiter depthLimit)) (Text.trimStart t) with
  | error stop => simp [Except.map]
  | ok found =>
    obtain ⟨qs, rest⟩ := found
    simp only [Except.map]
    cases htrim : Text.trimStart rest with
    | nil =>
      have hrest := blanks_of_trimStart htrim
      simp [hrest, eq_comm]
    | cons c x =>
      have hrest : ¬ Blanks rest := fun h => by simp [h.trimStart] at htrim
      simp [hrest]

/-- What has been read as a whole query, with the parts it is made of. -/
theorem exists_of_parse (h : parse delimiter t = .ok q) :
    ∃ ws start rest, Blanks ws ∧ t = ws ++ start ∧ Text.trimStart t = start ∧
      readParts orNext? (readAnd (readTop delimiter)) start = .ok (orParts q, rest) ∧
      Blanks rest := by
  obtain ⟨qs, rest, hparts, hrest, rfl⟩ := parse_eq_ok_iff.1 h
  obtain ⟨ws, hws, ht⟩ := exists_blanks t
  have hyields := yields_readAnd (yields_readOperand delimiter depthLimit)
  obtain ⟨hne, hall⟩ := forall_of_readParts hyields hparts
  refine ⟨ws, Text.trimStart t, rest, hws, ht, rfl, ?_, hrest⟩
  rw [orParts_joined hne fun q hq => (hall q hq).1]
  exact hparts

theorem keeps_readTop (delimiter : Option Text) : Keeps Ends (readTop delimiter) :=
  keeps_readOperand delimiter depthLimit

theorem yields_readTop (delimiter : Option Text) :
    Yields (readTop delimiter) fun q => q.isOperand = true :=
  fun _ _ _ h => (yields_readOperand delimiter depthLimit h).1

theorem Blanks.append {ws ws' : Text} (h : Blanks ws) (h' : Blanks ws') : Blanks (ws ++ ws') :=
  fun c hc => (List.mem_append.1 hc).elim (h c) (h' c)

theorem blanks_space : Blanks [' '] := List.forall_mem_singleton.2 rfl

section

variable {operand : Text → Reading Query} {start start₁ start₂ rest₁ rest₂ x : Text}
  {qs₁ qs₂ : List Query}

/-- A query that has been read may follow anything that an operand may follow. -/
theorem opens_of_readParts (hop : Keeps Ends operand)
    (h : readParts orNext? (readAnd operand) start = .ok (qs, rest)) (hrest : Blanks rest) :
    Opens start := by
  obtain ⟨u, rfl, -, hagain⟩ := readParts_append gaps_or (keeps_readAnd hop) h
  exact (hagain rest (final_of_blanks hrest).1 id).1.opens

/-- ` OR ` behind a query is followed by the parts of the next one. -/
theorem orNext?_seam {ws : Text} (hws : Blanks ws) (x : Text) :
    orNext? (ws ++ (orSign ++ x)) = some (Text.trimStart x) ∧
      Ends (ws ++ (orSign ++ x)) ∧ andNext? (ws ++ (orSign ++ x)) = none := by
  have hblanks : Blanks (ws ++ [' ']) := hws.append blanks_space
  have hspace : ws ++ [' '] ≠ [] := by simp
  have hkey : keyword? orWord (orWord ++ ' ' :: x) = some (' ' :: x) :=
    keyword?_append (endsWord_space x)
  have hsplit : ws ++ (orSign ++ x) = (ws ++ [' ']) ++ (orWord ++ ' ' :: x) := by
    simp [orSign, orWord]
  rw [hsplit]
  refine ⟨?_, ends_of_startsBlank (hblanks.startsBlank_append hspace _), ?_⟩
  · rw [orNext?_of_or hblanks hspace hkey, trimStart_space]
  · exact andNext?_of_or hblanks hkey

/-- A blank or ` AND ` behind a query is followed by the operands of the next one. -/
theorem andNext?_seam {ws sign : Text} (hws : Blanks ws) (hsign : sign ∈ [[' '], andSign])
    (hx : Opens (Text.trimStart x)) :
    andNext? (ws ++ (sign ++ x)) = some (Text.trimStart x) ∧ Ends (ws ++ (sign ++ x)) := by
  have hblanks : Blanks (ws ++ [' ']) := hws.append blanks_space
  have hspace : ws ++ [' '] ≠ [] := by simp
  have hsplit : ∀ y, ws ++ ' ' :: y = (ws ++ [' ']) ++ y := by simp
  have hends : ∀ y, Ends (ws ++ ' ' :: y) := fun y =>
    ends_of_startsBlank (hsplit y ▸ hblanks.startsBlank_append hspace y)
  obtain rfl | rfl : sign = [' '] ∨ sign = andSign := by simpa using hsign
  · obtain ⟨ws', hws', hx'⟩ := exists_blanks x
    refine ⟨?_, hends x⟩
    have hnext := andNext?_of_opens (hblanks.append hws') (by simp) hx
    rwa [List.append_assoc, ← hx', ← hsplit] at hnext
  · have hkey : keyword? andWord (andWord ++ ' ' :: x) = some (' ' :: x) :=
      keyword?_append (endsWord_space x)
    have hnext : andNext? (ws ++ ' ' :: (andWord ++ ' ' :: x)) = some (Text.trimStart x) := by
      rw [hsplit, andNext?_of_and hblanks hspace hkey, trimStart_space]
    exact ⟨hnext, hends _⟩

/-- Where a part is found behind a query, the parts that start there follow those of the query. -/
theorem readParts_or (hop : Keeps Ends operand)
    (h₁ : readParts orNext? (readAnd operand) start₁ = .ok (qs₁, rest₁))
    (h₂ : readParts orNext? (readAnd operand) start₂ = .ok (qs₂, rest₂))
    (hnext : orNext? (rest₁ ++ x) = some start₂)
    (hends : Ends (rest₁ ++ x) ∧ andNext? (rest₁ ++ x) = none) (hslash : '/' ∉ rest₁ ++ x) :
    Opens (start₁ ++ x) ∧
      readParts orNext? (readAnd operand) (start₁ ++ x) = .ok (qs₁ ++ qs₂, rest₂) := by
  have hkeeps := keeps_readAnd hop
  obtain ⟨u, rfl, -, hagain⟩ := readParts_append gaps_or hkeeps h₁
  obtain ⟨hreplaces, hparts⟩ := hagain _ hends (foresees_of_not_mem hslash)
  rw [List.append_assoc]
  refine ⟨hreplaces.opens, ?_⟩
  rw [hparts, readMore_of_some gaps_or hkeeps hnext, h₂]
  rfl

/-- Where an operand is found behind a query, the last part of the query and the first one behind it
are required together. -/
theorem readParts_and {before behind : List Query} {last first : Query}
    (hop : Keeps Ends operand) (hyields : Yields operand fun q => q.isOperand = true)
    (h₁ : readParts orNext? (readAnd operand) start₁ = .ok (before ++ [last], rest₁))
    (h₂ : readParts orNext? (readAnd operand) start₂ = .ok (first :: behind, rest₂))
    (hnext : andNext? (rest₁ ++ x) = some start₂) (hends : Ends (rest₁ ++ x))
    (hslash : '/' ∉ rest₁ ++ x) :
    Opens (start₁ ++ x) ∧ readParts orNext? (readAnd operand) (start₁ ++ x) =
      .ok (before ++ and (andParts last ++ andParts first) :: behind, rest₂) := by
  have hkeeps := keeps_readAnd hop
  obtain ⟨before', last', start, heq, hreaches, hlast, -⟩ := exists_of_readParts gaps_or hkeeps h₁
  obtain ⟨rfl, hlast'⟩ := List.append_inj' heq rfl
  obtain rfl := (List.cons.inj hlast').1
  obtain ⟨rest, hfirst, hbehind⟩ := exists_of_readParts_cons h₂
  -- the last part is read again, up to the end of the first one behind the seam
  obtain ⟨bs, hbs, hbs₀, hb⟩ := exists_of_readAnd hyields hlast
  obtain ⟨cs, hcs, hcs₀, hc⟩ := exists_of_readAnd hyields hfirst
  obtain ⟨v, rfl, -, hagain⟩ := readParts_append gaps_and hop hbs
  obtain ⟨hreplaces, hparts⟩ := hagain _ hends (foresees_of_not_mem hslash)
  have hseam : readAnd operand (v ++ (rest₁ ++ x)) = .ok (and (bs ++ cs), rest) := by
    refine readJoined_eq_ok_iff.2 ⟨bs ++ cs, ?_, (joined_append hbs₀ hcs₀).symm⟩
    rw [hparts, readMore_of_some gaps_and hop hnext, hcs]
    rfl
  obtain ⟨u, rfl, hstart⟩ := hreaches.again gaps_or hkeeps
  obtain ⟨hreaches', hreplaces'⟩ := hstart _ hreplaces
  rw [List.append_assoc, List.append_assoc]
  refine ⟨hreplaces'.opens, ?_⟩
  rw [hreaches'.readParts gaps_or hkeeps, readParts_of_ok hseam, hbehind, hb, hc]
  rfl

end

/-- The reader `b` reads what `a` reads, as far as it is nested less than `n` deep. -/
def AgreesBelow (n : Nat) (a b : Text → Reading Query) : Prop :=
  ∀ ⦃t q rest⦄, a t = .ok (q, rest) → q.nesting < n → b t = .ok (q, rest)

theorem forall_nesting_lt {combine : List Query → Query} {n : Nat}
    (hcombine : ∀ qs, (combine qs).nesting = nestingOfAll qs) (hne : qs ≠ [])
    (h : (joined combine qs).nesting < n) : ∀ q ∈ qs, q.nesting < n := by
  match qs, hne with
  | [q], _ => exact List.forall_mem_singleton.2 h
  | q :: q' :: qs, hne =>
    have hjoined : joined combine (q :: q' :: qs) = combine (q :: q' :: qs) := rfl
    rw [hjoined, hcombine] at h
    exact (nestingOfAll_lt_iff hne).1 h

section

variable {admits : Text → Prop} {next? : Text → Option Text} {combine : List Query → Query}
  {n : Nat} {a b : Text → Reading Query} {start : Text}

theorem AgreesBelow.reaches (h : AgreesBelow n a b) (hr : Reaches next? a t qs start)
    (hn : ∀ q ∈ qs, q.nesting < n) : Reaches next? b t qs start := by
  induction hr with
  | here => exact .here
  | behind hread hnext _ ih =>
    obtain ⟨hq, hqs⟩ := List.forall_mem_cons.1 hn
    exact .behind (h hread hq) hnext (ih hqs)

theorem AgreesBelow.readJoined (h : AgreesBelow n a b) (hg : Gaps admits next?)
    (ha : Keeps admits a) (hb : Keeps admits b)
    (hcombine : ∀ qs, (combine qs).nesting = nestingOfAll qs) :
    AgreesBelow n (readJoined combine next? a) (readJoined combine next? b) := by
  intro t q rest hread hn
  obtain ⟨qs, hparts, rfl⟩ := readJoined_eq_ok_iff.1 hread
  obtain ⟨before, last, start, rfl, hreaches, hlast, hnone⟩ := exists_of_readParts hg ha hparts
  obtain ⟨hbefore, hlt⟩ := List.forall_mem_append.1 (forall_nesting_lt hcombine (by simp) hn)
  have hlast' := h hlast (hlt _ (List.mem_singleton_self _))
  refine readJoined_eq_ok_iff.2 ⟨before ++ [last], ?_, rfl⟩
  rw [(h.reaches hreaches hbefore).readParts hg hb, readParts_of_ok hlast', readMore_of_none hnone]
  rfl

theorem AgreesBelow.readOr (h : AgreesBelow n a b) (ha : Keeps Ends a) (hb : Keeps Ends b) :
    AgreesBelow n (readOr a) (readOr b) := by
  have hand : AgreesBelow n (readAnd a) (readAnd b) :=
    h.readJoined gaps_and ha hb fun qs => by rw [nesting]
  exact hand.readJoined gaps_or (keeps_readAnd ha) (keeps_readAnd hb) fun qs => by rw [nesting]

theorem AgreesBelow.readGroup (h : AgreesBelow n a b) (ha : Keeps Ends a) (hb : Keeps Ends b) :
    AgreesBelow (n + 1) (readGroup a) (readGroup b) := by
  intro t q rest hread hn
  unfold Query.readGroup at hread
  split at hread
  · cases hread
  · rename_i q₁ rest₁ hinner
    split at hread
    · rename_i rest₂ htrim
      obtain ⟨rfl, rfl⟩ := Prod.mk.inj (Except.ok.inj hread)
      rw [nesting] at hn
      unfold Query.readGroup
      rw [h.readOr ha hb hinner (Nat.lt_of_succ_lt_succ hn)]
      simp only [htrim]
    · cases hread

theorem AgreesBelow.readValue (h : AgreesBelow n a b) (ha : Keeps Ends a) (hb : Keeps Ends b) :
    AgreesBelow (n + 1) (readValue a) (readValue b) := by
  intro t q rest hread hn
  unfold Query.readValue at hread ⊢
  split at hread
  · exact h.readGroup ha hb hread hn
  · exact hread
  · exact hread

theorem AgreesBelow.readWord (h : AgreesBelow n a b) (ha : Keeps Ends a) (hb : Keeps Ends b) :
    AgreesBelow (n + 1) (readWord delimiter a) (readWord delimiter b) := by
  intro t q rest hread hn
  cases isWord_of_readWord hread with
  | word hne hw hkey hplain => exact readWord_word hne hw hkey hplain
  | field hd hne hcut hkey hval =>
    rw [nesting] at hn
    rw [hd, readWord_field hne hcut hkey, h.readValue ha hb hval hn]
    rfl

theorem AgreesBelow.readPrimary (h : AgreesBelow n a b) (ha : Keeps Ends a) (hb : Keeps Ends b) :
    AgreesBelow (n + 1) (readPrimary delimiter a) (readPrimary delimiter b) := by
  intro t q rest hread hn
  unfold Query.readPrimary at hread ⊢
  split at hread
  · exact h.readGroup ha hb hread hn
  · exact hread
  · exact hread
  · exact h.readWord ha hb hread hn

end

/-- A reader that may go less deep reads what is nested less deep. By induction on the depth, since
each group and negation takes one level of it away from both. -/
theorem agreesBelow_readOperand (delimiter : Option Text) (depth n : Nat) :
    AgreesBelow n (readOperand delimiter depth) (readOperand delimiter n) := by
  induction depth generalizing n with
  | zero =>
    intro t q rest h
    cases h
  | succ depth ih =>
    intro t q rest h hn
    obtain ⟨n, rfl⟩ : ∃ m, n = m + 1 := ⟨n - 1, by omega⟩
    unfold readOperand at h
    split at h
    · rename_i r hneg
      obtain ⟨⟨q₁, rest₁⟩, hread, heq⟩ := exists_of_map_eq_ok h
      obtain ⟨rfl, rfl⟩ := Prod.mk.inj heq
      rw [nesting] at hn
      simp only [readOperand, hneg, ih n hread (Nat.lt_of_succ_lt_succ hn)]
      rfl
    · rename_i hneg
      simp only [readOperand, hneg]
      exact (ih n).readPrimary (keeps_readOperand delimiter depth) (keeps_readOperand delimiter n)
        h hn

/-- An operand alone is a query. -/
theorem parse_of_readTop (ht : Solid t) (h : readTop delimiter t = .ok (q, [])) :
    parse delimiter t = .ok q := by
  have single : ∀ {next?} {operand : Text → Reading Query}, next? ([] : Text) = none →
      operand t = .ok (q, []) → readParts next? operand t = .ok ([q], []) := by
    intro next? operand hnext hread
    rw [readParts_of_ok hread, readMore_of_none hnext]
    rfl
  have hand : readAnd (readTop delimiter) t = .ok (q, []) :=
    readJoined_eq_ok_iff.2 ⟨[q], single rfl h, rfl⟩
  refine parse_eq_ok_iff.2 ⟨[q], [], ?_, blanks_nil, rfl⟩
  rw [ht.trimStart]
  exact single rfl hand

/-- In parentheses there is one level of depth less. -/
theorem readTop_group (h : parse delimiter t = .ok q) (hn : q.nesting < 255) :
    readTop delimiter ('(' :: (t ++ [')'])) = .ok (group q, []) := by
  obtain ⟨qs, rest, hparts, hrest, rfl⟩ := parse_eq_ok_iff.1 h
  have hor : readOr (readTop delimiter) (Text.trimStart t) = .ok (joined or qs, rest) :=
    readJoined_eq_ok_iff.2 ⟨qs, hparts, rfl⟩
  have hless := (agreesBelow_readOperand delimiter depthLimit 255).readOr
    (keeps_readOperand delimiter _) (keeps_readOperand delimiter _) hor hn
  obtain ⟨ws, hws, ht⟩ := exists_blanks t
  obtain ⟨u, hu, -, hagain⟩ := keeps_readOr (keeps_readOperand delimiter 255) hless
  have hslash : '/' ∉ rest ++ [')'] := by simp [hrest.not_mem (c := '/') rfl]
  obtain ⟨hread, hreplaces⟩ := hagain _ (final_blanks hrest []) (foresees_of_not_mem hslash)
  have hsplit : t ++ [')'] = ws ++ (u ++ (rest ++ [')'])) := by
    rw [ht, hu]
    simp
  have hgroup := readGroup_blanks hws hrest hreplaces.opens.solid hread
  rw [← hsplit] at hgroup
  exact hgroup

theorem readOperand_dash (ht : Solid t) (hclose : t.head? ≠ some ')') (depth : Nat) :
    readOperand delimiter (depth + 1) ('-' :: t) =
      readOperand delimiter (depth + 1) (notSign ++ t) := by
  have hdash : dashNegates t = true := by
    obtain ⟨c, x, rfl, hc⟩ := ht
    simp [dashNegates, hc, by simpa using hclose]
  simp only [readOperand, negated?_dash hdash, negated?_notSign ht]

/-- What follows the first operand is read from the rest alone. -/
theorem readAll_congr {t' : Text} (ht : Solid t) (ht' : Solid t')
    (h : readTop delimiter t = readTop delimiter t') :
    readAll delimiter t = readAll delimiter t' := by
  unfold readTop at h
  simp only [readAll, ht.trimStart, ht'.trimStart, readOr, readAnd, readJoined, h]

theorem parse_of_readParts {ws : Text} (hws : Blanks ws) (ht : Opens t)
    (h : readParts orNext? (readAnd (readTop delimiter)) t = .ok (qs, rest)) (hrest : Blanks rest) :
    parse delimiter (ws ++ t) = .ok (joined or qs) := by
  refine parse_eq_ok_iff.2 ⟨qs, rest, ?_, hrest, rfl⟩
  rw [hws.trimStart_append, ht.solid.trimStart, h]

section

variable {t₁ t₂ : Text} {q₁ q₂ : Query}

theorem orParts_ne_nil (h : parse delimiter t = .ok q) : orParts q ≠ [] := by
  obtain ⟨_, _, _, _, _, _, hparts, _⟩ := exists_of_parse h
  exact (forall_of_readParts (yields_readAnd (yields_readOperand delimiter depthLimit)) hparts).1

theorem parse_or (h₁ : parse delimiter t₁ = .ok q₁) (h₂ : parse delimiter t₂ = .ok q₂)
    (hslash : '/' ∉ t₂) :
    parse delimiter (t₁ ++ orSign ++ t₂) = .ok (or (orParts q₁ ++ orParts q₂)) := by
  obtain ⟨ws, start₁, rest₁, hws, ht₁, -, hparts₁, hrest₁⟩ := exists_of_parse h₁
  obtain ⟨-, start₂, rest₂, -, -, rfl, hparts₂, hrest₂⟩ := exists_of_parse h₂
  obtain ⟨hnext, hends⟩ := orNext?_seam hrest₁ t₂
  have hseam : '/' ∉ rest₁ ++ (orSign ++ t₂) := by
    simp [orSign, hslash, hrest₁.not_mem (c := '/') rfl]
  obtain ⟨hopens, hread⟩ :=
    readParts_or (keeps_readTop delimiter) hparts₁ hparts₂ hnext hends hseam
  have hjoined : joined or (orParts q₁ ++ orParts q₂) = or (orParts q₁ ++ orParts q₂) :=
    joined_append (orParts_ne_nil h₁) (orParts_ne_nil h₂)
  rw [List.append_assoc, ht₁, List.append_assoc, ← hjoined]
  exact parse_of_readParts hws hopens hread hrest₂

theorem parse_and (h₁ : parse delimiter t₁ = .ok q₁) (h₂ : parse delimiter t₂ = .ok q₂)
    (hslash : '/' ∉ t₂) {before behind : List Query} {last first : Query}
    (hq₁ : orParts q₁ = before ++ [last]) (hq₂ : orParts q₂ = first :: behind) {sign : Text}
    (hsign : sign ∈ [[' '], andSign]) : parse delimiter (t₁ ++ sign ++ t₂) =
      .ok (joined or (before ++ and (andParts last ++ andParts first) :: behind)) := by
  obtain ⟨ws, start₁, rest₁, hws, ht₁, -, hparts₁, hrest₁⟩ := exists_of_parse h₁
  obtain ⟨-, start₂, rest₂, -, -, rfl, hparts₂, hrest₂⟩ := exists_of_parse h₂
  have hkeeps := keeps_readTop delimiter
  obtain ⟨hnext, hends⟩ := andNext?_seam hrest₁ hsign (opens_of_readParts hkeeps hparts₂ hrest₂)
  have hsign' : '/' ∉ sign := by
    obtain rfl | rfl : sign = [' '] ∨ sign = andSign := by simpa using hsign
    · decide
    · decide
  have hseam : '/' ∉ rest₁ ++ (sign ++ t₂) := by
    simp [hsign', hslash, hrest₁.not_mem (c := '/') rfl]
  rw [hq₁] at hparts₁
  rw [hq₂] at hparts₂
  obtain ⟨hopens, hread⟩ :=
    readParts_and hkeeps (yields_readTop delimiter) hparts₁ hparts₂ hnext hends hseam
  rw [List.append_assoc, ht₁, List.append_assoc]
  exact parse_of_readParts hws hopens hread hrest₂

theorem parse_group_iff (h : parse delimiter t = .ok q) :
    parse delimiter ('(' :: (t ++ [')'])) = .ok (group q) ↔ q.nesting ≠ 255 := by
  have hlt : q.nesting < 256 := (within_of_parse h).2
  constructor
  · intro hgroup hn
    have := (within_of_parse hgroup).2
    rw [nesting, hn] at this
    exact absurd this (by decide)
  · intro hn
    exact parse_of_readTop (solid_cons rfl _) (readTop_group h (by omega))

theorem parse_dash_iff (ht : Solid t) (hclose : t.head? ≠ some ')') :
    parse delimiter ('-' :: t) = .ok q ↔ parse delimiter (notSign ++ t) = .ok q := by
  have hsame : readAll delimiter ('-' :: t) = readAll delimiter (notSign ++ t) :=
    readAll_congr (solid_cons rfl t) (solid_cons rfl _) (readOperand_dash ht hclose 255)
  rw [parse_eq_ok_iff_readAll, parse_eq_ok_iff_readAll, hsame]

/-- Queries compose: ` OR ` puts the parts of the second behind those of the first, a blank and
` AND ` join the parts on either side of them, parentheses group a query as long as one more level
of nesting is let through, and a dash negates what `NOT ` does. Only the second query must be free
of slashes, one of which might close a pattern that the first one leaves open. -/
theorem parse_composed (h₁ : parse delimiter t₁ = .ok q₁) (h₂ : parse delimiter t₂ = .ok q₂)
    (hslash : '/' ∉ t₂) :
    parse delimiter (t₁ ++ orSign ++ t₂) = .ok (or (orParts q₁ ++ orParts q₂)) ∧
    (∃ before last first behind, orParts q₁ = before ++ [last] ∧ orParts q₂ = first :: behind ∧
      ∀ sign ∈ [[' '], andSign], parse delimiter (t₁ ++ sign ++ t₂) =
        .ok (joined or (before ++ and (andParts last ++ andParts first) :: behind))) ∧
    (parse delimiter ('(' :: (t₁ ++ [')'])) = .ok (group q₁) ↔ q₁.nesting ≠ 255) ∧
    (∀ c x, t₁ = c :: x → Unicode.isBlank c = false → c ≠ ')' → ∀ q,
      parse delimiter ('-' :: t₁) = .ok q ↔ parse delimiter (notSign ++ t₁) = .ok q) := by
  refine ⟨parse_or h₁ h₂ hslash, ?_, parse_group_iff h₁, fun c x ht hblank hclose q => ?_⟩
  · obtain ⟨first, behind, hq₂⟩ := List.exists_cons_of_ne_nil (orParts_ne_nil h₂)
    have hq₁ := (List.dropLast_concat_getLast (orParts_ne_nil h₁)).symm
    exact ⟨_, _, first, behind, hq₁, hq₂, fun sign hsign => parse_and h₁ h₂ hslash hq₁ hq₂ hsign⟩
  · subst ht
    exact parse_dash_iff (solid_cons hblank x) (by simpa using hclose)

/-- A choice and a conjunction on either side of the seam: the conjunctions that meet there become
one. Grouped, the first query is one level deep, and a dash in front negates its first operand. -/
theorem parse_composed_choices :
    let t₁ := ['a', ' ', 'O', 'R', ' ', 'b', ' ', 'c']
    let t₂ := ['-', 'd', ' ', 'A', 'N', 'D', ' ', 'e', ' ', 'O', 'R', ' ', 'f']
    let q₁ := or [word ['a'], and [word ['b'], word ['c']]]
    let q₂ := or [and [.not (word ['d']), word ['e']], word ['f']]
    let met := and [word ['b'], word ['c'], .not (word ['d']), word ['e']]
    parse (some [':']) t₁ = .ok q₁ ∧ parse (some [':']) t₂ = .ok q₂ ∧ '/' ∉ t₂ ∧
      parse (some [':']) (t₁ ++ orSign ++ t₂) = .ok (or (orParts q₁ ++ orParts q₂)) ∧
      (∀ sign ∈ [[' '], andSign],
        parse (some [':']) (t₁ ++ sign ++ t₂) = .ok (or [word ['a'], met, word ['f']])) ∧
      parse (some [':']) ('(' :: (t₁ ++ [')'])) = .ok (group q₁) ∧
      parse (some [':']) ('-' :: t₁) =
        .ok (or [.not (word ['a']), and [word ['b'], word ['c']]]) := by
  intro t₁ t₂ q₁ q₂ met
  have h₁ : parse (some [':']) t₁ = .ok q₁ := by decide +kernel
  have h₂ : parse (some [':']) t₂ = .ok q₂ := by decide +kernel
  have hslash : '/' ∉ t₂ := by decide
  obtain ⟨hor, ⟨before, last, first, behind, hlast, hfirst, hand⟩, hgroup, hdash⟩ :=
    parse_composed h₁ h₂ hslash
  refine ⟨h₁, h₂, hslash, hor, fun sign hsign => ?_, hgroup.2 (by decide), ?_⟩
  · have hsplit : [word ['a']] ++ [and [word ['b'], word ['c']]] = before ++ [last] := hlast
    obtain ⟨rfl, hone⟩ := List.append_inj' hsplit rfl
    obtain rfl := List.singleton_inj.1 hone
    obtain ⟨rfl, rfl⟩ := List.cons.inj hfirst
    exact hand sign hsign
  · exact (hdash 'a' _ rfl (by decide) (by decide) _).2 (by decide +kernel)

end

end Query

end TextSieve
