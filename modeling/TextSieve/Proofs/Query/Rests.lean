import Mathlib.Tactic.Common
import TextSieve.Proofs.Query.Gaps

/-! Another rest behind what has been read. A reader takes the same from the beginning of a text
whatever rest stands behind it, as long as an operand may end there and no slash lies ahead that
would close a pattern where none did before. -/

namespace TextSieve

namespace Query

variable {a b t rest : Text} {q : Query}

/-- What the reader takes it takes again in front of any other rest that admits the end of such a
part and in front of which nothing closes that did not before. -/
def Keeps (admits : Text → Prop) (read : Text → Reading Query) : Prop :=
  ∀ ⦃t q rest⦄, read t = .ok (q, rest) → ∃ u, t = u ++ rest ∧ u ≠ [] ∧
    ∀ rest', admits rest' → Foresees rest rest' →
      read (u ++ rest') = .ok (q, rest') ∧ Replaces t (u ++ rest')

theorem Keeps.opens {admits : Text → Prop} {read : Text → Reading Query} (hread : Keeps admits read)
    (h : read t = .ok (q, rest)) (hrest : admits rest) : Opens t := by
  obtain ⟨u, rfl, -, hagain⟩ := hread h
  exact (hagain rest hrest id).2.opens

theorem endsWord_append {u : Text} (hu : u ≠ []) (h : endsWord (u ++ a) = true) (b : Text) :
    endsWord (u ++ b) = true := by
  obtain ⟨c, u, rfl⟩ := List.exists_cons_of_ne_nil hu
  exact h

def readParts (next? : Text → Option Text) (operand : Text → Reading Query) (t : Text) :
    Reading (List Query) :=
  match operand t with
  | .error stop => .error stop
  | .ok (q, rest) => (readMore next? operand rest).map fun (qs, rest) => (q :: qs, rest)

def joined (combine : List Query → Query) : List Query → Query
  | [q] => q
  | qs => combine qs

inductive Reaches (next? : Text → Option Text) (operand : Text → Reading Query) :
    Text → List Query → Text → Prop
  | here {t : Text} : Reaches next? operand t [] t
  | behind {t rest next start : Text} {q : Query} {qs : List Query}
    (hread : operand t = .ok (q, rest)) (hnext : next? rest = some next)
    (h : Reaches next? operand next qs start) : Reaches next? operand t (q :: qs) start

section

variable {admits : Text → Prop} {next? : Text → Option Text} {operand : Text → Reading Query}
  {combine : List Query → Query} {qs : List Query} {start : Text}

theorem readJoined_eq_readParts (t : Text) : readJoined combine next? operand t =
    (readParts next? operand t).map fun (qs, rest) => (joined combine qs, rest) := by
  unfold readJoined readParts
  cases operand t with
  | error stop => rfl
  | ok found =>
    obtain ⟨q, rest⟩ := found
    simp only
    cases readMore next? operand rest with
    | error stop => rfl
    | ok more =>
      obtain ⟨qs, rest⟩ := more
      cases qs <;> rfl

theorem readJoined_eq_ok_iff : readJoined combine next? operand t = .ok (q, rest) ↔
    ∃ qs, readParts next? operand t = .ok (qs, rest) ∧ q = joined combine qs := by
  rw [readJoined_eq_readParts]
  cases readParts next? operand t with
  | error stop => simp [Except.map]
  | ok found =>
    obtain ⟨qs, rest'⟩ := found
    simp [Except.map, eq_comm, and_comm]

/-- The next operand starts further on. -/
theorem length_lt_of_next? (hg : Gaps admits next?) (hop : Keeps admits operand)
    (hread : operand t = .ok (q, rest)) (hnext : next? rest = some start) :
    start.length < rest.length ∧ rest.length < t.length := by
  obtain ⟨gap, rfl, hgap, -⟩ := hg hnext
  obtain ⟨u, rfl, hu, -⟩ := hop hread
  have := List.length_pos_iff.2 hgap
  have := List.length_pos_iff.2 hu
  simp
  omega

theorem readMore_of_some (hg : Gaps admits next?) (hop : Keeps admits operand)
    (hnext : next? t = some start) :
    readMore next? operand t = readParts next? operand start := by
  rw [readMore.eq_def]
  unfold readParts
  simp only [hnext]
  cases hread : operand start with
  | error stop => rfl
  | ok found =>
    obtain ⟨q, rest⟩ := found
    -- the operand took something, so the sequence goes on behind it
    obtain ⟨gap, rfl, -⟩ := hg hnext
    obtain ⟨u, rfl, hu, -⟩ := hop hread
    have hlt : rest.length < (gap ++ (u ++ rest)).length := by
      have := List.length_pos_iff.2 hu
      simp
      omega
    simp only [hlt, dite_true]

theorem readParts_of_ok (hread : operand t = .ok (q, rest)) : readParts next? operand t =
    (readMore next? operand rest).map fun (qs, rest) => (q :: qs, rest) := by
  simp [readParts, hread]

/-- The operands on the way are read, and those behind them follow. -/
theorem Reaches.readParts (hg : Gaps admits next?) (hop : Keeps admits operand)
    (h : Reaches next? operand t qs start) : readParts next? operand t =
      (readParts next? operand start).map fun (more, rest) => (qs ++ more, rest) := by
  induction h with
  | @here t => cases Query.readParts next? operand t <;> rfl
  | @behind t rest next start q qs hread hnext h ih =>
    rw [readParts_of_ok hread, readMore_of_some hg hop hnext, ih]
    cases Query.readParts next? operand start <;> rfl

/-- Operands in a row come to an end. By induction on the length of the text, of which each operand
takes a part. -/
theorem exists_reaches (hg : Gaps admits next?) (hop : Keeps admits operand) (t : Text) :
    ∃ before start, Reaches next? operand t before start ∧
      ∀ q rest, operand start = .ok (q, rest) → next? rest = none := by
  induction hn : t.length using Nat.strongRecOn generalizing t with
  | _ n ih =>
    by_cases hlast : ∀ q rest, operand t = .ok (q, rest) → next? rest = none
    · exact ⟨[], t, .here, hlast⟩
    · simp only [not_forall] at hlast
      obtain ⟨q, rest, hread, hsome⟩ := hlast
      obtain ⟨next, hnext⟩ := Option.ne_none_iff_exists'.1 hsome
      have hlt := length_lt_of_next? hg hop hread hnext
      obtain ⟨before, start, hreaches, hlast⟩ := ih _ (by omega) next rfl
      exact ⟨q :: before, start, .behind hread hnext hreaches, hlast⟩

theorem exists_of_readParts (hg : Gaps admits next?) (hop : Keeps admits operand)
    (h : readParts next? operand t = .ok (qs, rest)) :
    ∃ before last start, qs = before ++ [last] ∧ Reaches next? operand t before start ∧
      operand start = .ok (last, rest) ∧ next? rest = none := by
  obtain ⟨before, start, hreaches, hlast⟩ := exists_reaches hg hop t
  rw [hreaches.readParts hg hop] at h
  obtain ⟨⟨more, rest₁⟩, hparts, heq⟩ := exists_of_map_eq_ok h
  obtain ⟨rfl, rfl⟩ := Prod.mk.inj heq
  cases hread : operand start with
  | error stop => simp [readParts, hread] at hparts
  | ok found =>
    obtain ⟨last, rest₂⟩ := found
    have hnone := hlast _ _ hread
    rw [readParts_of_ok hread, readMore_of_none hnone] at hparts
    obtain ⟨rfl, rfl⟩ := Prod.mk.inj (Except.ok.inj hparts)
    exact ⟨before, last, start, rfl, hreaches, hread, hnone⟩

/-- The way leads over the same operands to any other start that may stand there. -/
theorem Reaches.again (hg : Gaps admits next?) (hop : Keeps admits operand)
    (h : Reaches next? operand t qs start) :
    ∃ u, t = u ++ start ∧ ∀ start', Replaces start start' →
      Reaches next? operand (u ++ start') qs start' ∧ Replaces t (u ++ start') := by
  induction h with
  | here => exact ⟨[], rfl, fun start' hstart => ⟨.here, hstart⟩⟩
  | @behind t rest next start q qs hread hnext h ih =>
    obtain ⟨u, rfl, hstart⟩ := ih
    obtain ⟨gap, rfl, -, hgap⟩ := hg hnext
    obtain ⟨v, rfl, -, hagain⟩ := hop hread
    refine ⟨v ++ (gap ++ u), by simp, fun start' hreplaces => ?_⟩
    obtain ⟨hreaches, hreplaces'⟩ := hstart start' hreplaces
    obtain ⟨hnext', hadmits, hforesees⟩ := hgap _ hreplaces'
    obtain ⟨hread', hreplaces''⟩ := hagain _ hadmits hforesees
    simp only [List.append_assoc]
    exact ⟨.behind hread' hnext' hreaches, hreplaces''⟩

/-- Operands in a row are read again, and behind them those that the other rest goes on with. -/
theorem readParts_append (hg : Gaps admits next?) (hop : Keeps admits operand)
    (h : readParts next? operand t = .ok (qs, rest)) :
    ∃ u, t = u ++ rest ∧ u ≠ [] ∧ ∀ rest', admits rest' → Foresees rest rest' →
      Replaces t (u ++ rest') ∧ readParts next? operand (u ++ rest') =
        (readMore next? operand rest').map fun (more, rest) => (qs ++ more, rest) := by
  obtain ⟨before, last, start, rfl, hreaches, hlast, -⟩ := exists_of_readParts hg hop h
  obtain ⟨u, rfl, hstart⟩ := hreaches.again hg hop
  obtain ⟨v, rfl, hv, hagain⟩ := hop hlast
  refine ⟨u ++ v, by simp, by simp [hv], fun rest' hadmits hf => ?_⟩
  obtain ⟨hread, hreplaces⟩ := hagain rest' hadmits hf
  obtain ⟨hreaches', hreplaces'⟩ := hstart _ hreplaces
  rw [List.append_assoc]
  refine ⟨hreplaces', ?_⟩
  rw [hreaches'.readParts hg hop, readParts_of_ok hread]
  cases readMore next? operand rest' <;> simp [Except.map]

theorem keeps_readJoined (hg : Gaps admits next?) (hop : Keeps admits operand) :
    Keeps (fun rest => admits rest ∧ next? rest = none) (readJoined combine next? operand) := by
  intro t q rest h
  obtain ⟨qs, hparts, rfl⟩ := readJoined_eq_ok_iff.1 h
  obtain ⟨u, rfl, hu, hagain⟩ := readParts_append hg hop hparts
  refine ⟨u, rfl, hu, fun rest' hadmits hf => ?_⟩
  obtain ⟨hreplaces, hparts'⟩ := hagain rest' hadmits.1 hf
  refine ⟨readJoined_eq_ok_iff.2 ⟨qs, ?_, rfl⟩, hreplaces⟩
  rw [hparts', readMore_of_none hadmits.2]
  simp [Except.map]

end

theorem keeps_readAnd {operand : Text → Reading Query} (hop : Keeps Ends operand) :
    Keeps (fun rest => Ends rest ∧ andNext? rest = none) (readAnd operand) :=
  keeps_readJoined gaps_and hop

theorem keeps_readOr {operand : Text → Reading Query} (hop : Keeps Ends operand) :
    Keeps Final (readOr operand) :=
  keeps_readJoined gaps_or (keeps_readAnd hop)

/-- Nothing goes on at the end of a text or before a closing parenthesis, blanks aside. -/
theorem final_of_trimStart (h : Text.trimStart t = [] ∨ (Text.trimStart t).head? = some ')') :
    Final t := by
  have hnone : ∀ word : Text, word ≠ [] → word.head? ≠ some ')' →
      keyword? word (Text.trimStart t) = none := by
    intro word hne hhead
    rcases h with hnil | hclose
    · rw [hnil]
      cases word with
      | nil => contradiction
      | cons c word => rfl
    · obtain ⟨x, hx⟩ := List.head?_eq_some_iff.1 hclose
      rw [hx]
      exact keyword?_eq_none hne hhead x
  refine ⟨⟨ends_of_trimStart ?_, ?_⟩, ?_⟩
  · rcases h with hnil | hclose
    · rw [hnil]
      exact ends_nil
    · obtain ⟨x, hx⟩ := List.head?_eq_some_iff.1 hclose
      rw [hx]
      exact ends_close x
  · have hdone : Text.trimStart t = [] ∨ (Text.trimStart t).head? = some ')' ∨
        (keyword? orWord (Text.trimStart t)).isSome = true := h.imp_right .inl
    unfold andNext?
    simp only [hnone andWord (by decide) (by decide), if_pos hdone]
    split <;> rfl
  · unfold orNext?
    simp [hnone orWord (by decide) (by decide)]

theorem final_of_blanks (h : Blanks t) : Final t := final_of_trimStart (.inl h.trimStart)

theorem trimStart_close {ws : Text} (hws : Blanks ws) (x : Text) :
    Text.trimStart (ws ++ ')' :: x) = ')' :: x :=
  hws.trimStart_append (')' :: x)

theorem final_blanks {ws : Text} (hws : Blanks ws) (x : Text) : Final (ws ++ ')' :: x) :=
  final_of_trimStart (.inr (by rw [trimStart_close hws]; rfl))

section

variable {operand : Text → Reading Query}

theorem readPhrase_append (h : readPhrase t = .ok (q, rest)) :
    ∃ u, t = u ++ rest ∧ ∀ rest', Foresees rest rest' →
      readPhrase (u ++ rest') = .ok (q, rest') ∧ Covers t (u ++ rest') := by
  unfold readPhrase at h
  split at h
  · cases h
  · cases h
  · rename_i text after hne hcut
    obtain ⟨rfl, rfl⟩ := Prod.mk.inj (Except.ok.inj h)
    refine ⟨text ++ ['"'], Text.eq_of_cut? hcut, fun rest' hf => ⟨?_, ?_⟩⟩
    · exact readPhrase_of_cut? hne (Text.cut?_append hcut rest')
    · rw [Text.eq_of_cut? hcut, List.append_assoc, List.append_assoc]
      exact (hf.cons (by decide) (by decide)).append text

theorem eq_display_of_scanBody? {x p : Text} (h : Slashed.scanBody? x = some (p, rest)) :
    '/' :: x = (pattern p).display ++ rest := by
  rw [Slashed.eq_of_scanBody? h, pattern_display_append]

theorem readPattern_append (h : readPattern t = .ok (q, rest)) :
    ∃ u, t = u ++ rest ∧ u ≠ [] ∧ ∀ rest',
      readPattern (u ++ rest') = .ok (q, rest') ∧ Foresees t (u ++ rest') := by
  obtain ⟨p, x, hne, rfl, hbody, rfl⟩ := exists_of_readPattern h
  have hlast := Slashed.getLast?_of_scanBody? hbody
  refine ⟨(pattern p).display, eq_display_of_scanBody? hbody,
    by simp [pattern, display, displayLeaf, Slashed.write],
    fun rest' => ⟨readPattern_display hne hlast rest', ?_⟩⟩
  -- for what comes before, it is the opening slash that closes or not
  obtain ⟨c, y, hc⟩ := List.exists_cons_of_ne_nil (Slashed.encode_ne_nil hne)
  have hdisplay : ∀ z, (pattern p).display ++ z = '/' :: c :: (y ++ '/' :: z) := by
    simp [pattern_display_append, hc]
  rw [eq_display_of_scanBody? hbody, hdisplay, hdisplay]
  exact foresees_slash id

theorem readGroup_blanks {ws ws' : Text} (hws : Blanks ws) (hws' : Blanks ws') (ht : Solid t)
    (h : readOr operand t = .ok (q, ws' ++ ')' :: rest)) :
    readGroup operand (ws ++ t) = .ok (group q, rest) := by
  unfold readGroup
  rw [hws.trimStart_append, ht.trimStart, h]
  simp only [trimStart_close hws']

theorem readGroup_append (hop : Keeps Ends operand) (h : readGroup operand t = .ok (q, rest)) :
    ∃ u, t = u ++ rest ∧ ∀ rest', Foresees rest rest' →
      readGroup operand (u ++ rest') = .ok (q, rest') ∧ Foresees t (u ++ rest') := by
  unfold readGroup at h
  split at h
  · cases h
  · rename_i q₁ rest₁ hinner
    split at h
    · rename_i rest₂ htrim
      obtain ⟨rfl, rfl⟩ := Prod.mk.inj (Except.ok.inj h)
      obtain ⟨ws, hws, ht⟩ := exists_blanks t
      obtain ⟨ws', hws', hrest⟩ := exists_blanks rest₁
      obtain ⟨u, hu, -, hagain⟩ := keeps_readOr hop hinner
      rw [htrim] at hrest
      subst hrest
      refine ⟨ws ++ (u ++ (ws' ++ [')'])), ?_, fun rest' hf => ?_⟩
      · rw [ht, hu]
        simp
      have hf' : Foresees (ws' ++ ')' :: rest₂) (ws' ++ ')' :: rest') :=
        (hf.cons (by decide) (by decide)).foresees.blanks hws'
      obtain ⟨hread, hreplaces⟩ := hagain _ (final_blanks hws' rest') hf'
      have hsplit : ws ++ (u ++ (ws' ++ [')'])) ++ rest' = ws ++ (u ++ (ws' ++ ')' :: rest')) := by
        simp
      rw [hsplit, ht]
      exact ⟨readGroup_blanks hws hws' hreplaces.opens.solid hread,
        hreplaces.foresees.blanks hws⟩
    · cases h

theorem leadingWord_of_endsWord (h : endsWord t = true) : leadingWord t = [] := by
  cases t with
  | nil => rfl
  | cons c t =>
    have hc : isWordChar c = false := by simpa [endsWord] using h
    simp [leadingWord, hc]

theorem leadingWord_congr (ha : endsWord a = true) (hb : endsWord b = true) (u : Text) :
    leadingWord (u ++ a) = leadingWord (u ++ b) := by
  have ha' := leadingWord_of_endsWord ha
  have hb' := leadingWord_of_endsWord hb
  unfold leadingWord at ha' hb' ⊢
  rw [List.takeWhile_append, List.takeWhile_append, ha', hb']

theorem startsPattern_of_covers {w : Text} (hne : w ≠ []) (ha : endsWord a = true)
    (hb : endsWord b = true) (h : Covers a b) (hstart : startsPattern (w ++ a) = false) :
    startsPattern (w ++ b) = false := by
  obtain ⟨c, x, rfl⟩ := List.exists_cons_of_ne_nil hne
  by_cases hc : c = '/'
  · subst hc
    have hhead : (x ++ a).head? = some '/' ↔ (x ++ b).head? = some '/' := by
      cases x with
      | nil =>
        exact iff_of_false (head?_ne_of_endsWord (by decide) ha)
          (head?_ne_of_endsWord (by decide) hb)
      | cons d x => rfl
    have hx := h x
    simp only [List.cons_append, startsPattern_slash, ne_eq, hhead, Bool.and_eq_false_iff]
      at hstart ⊢
    rcases hstart with hstart | hstart
    · left
      cases hb' : closesAhead (x ++ b) with
      | false => rfl
      | true => rw [hx hb'] at hstart; cases hstart
    · exact .inr hstart
  · rw [List.cons_append, startsPattern_of_ne hc]

theorem endsWord_of_readValue {x p : Text} (hscan : Slashed.scanBody? x = some (p, rest))
    (h : readValue operand ('/' :: x) = .ok (pattern p, rest)) : endsWord rest = true := by
  rw [readValue_of_isWordChar (by decide)] at h
  split at h
  · rename_i hstart
    rw [startsPattern_of_scanBody? hscan] at hstart
    exact (Bool.and_eq_true_iff.1 hstart).2
  · cases h

theorem endsWord_of_leadingWord {w : Text} (h : leadingWord (w ++ rest) = w) :
    endsWord rest = true := by
  cases rest with
  | nil => rfl
  | cons c x =>
    cases hc : isWordChar c with
    | false => simp [endsWord, hc]
    | true =>
      -- the word would go on
      have hall : ∀ d ∈ w, isWordChar d = true := fun d hd => leadingWord_isWordChar (h ▸ hd)
      have hmore : leadingWord (w ++ c :: x) = w ++ c :: leadingWord x := by
        simp [leadingWord, List.takeWhile_append_of_pos hall, hc]
      rw [hmore] at h
      simp at h

theorem leadingWord_of_readValue {w : Text} {c : Char} (hc : isWordChar c = true)
    (hstart : startsPattern (c :: t) = false)
    (h : readValue operand (c :: t) = .ok (word w, rest)) : leadingWord (c :: t) = w := by
  rw [readValue_of_isWordChar hc, hstart] at h
  have hword := (Prod.mk.inj (Except.ok.inj h)).1
  simpa [word] using hword

/-- What a field's value takes it takes again, and the word it starts with is the same. -/
theorem readValue_append (hop : Keeps Ends operand) (h : readValue operand t = .ok (q, rest)) :
    ∃ u, t = u ++ rest ∧ ∀ rest', Ends rest' → Foresees rest rest' →
      readValue operand (u ++ rest') = .ok (q, rest') ∧ leadingWord (u ++ rest') = leadingWord t ∧
        Covers t (u ++ rest') := by
  cases isValue_of_readValue h with
  | @group x q rest hgroup =>
    obtain ⟨u, rfl, hagain⟩ := readGroup_append hop hgroup
    refine ⟨'(' :: u, rfl, fun rest' _ hf => ?_⟩
    obtain ⟨hread, hf'⟩ := hagain rest' hf
    exact ⟨hread, rfl, hf'.cons (by decide) (by decide)⟩
  | @phrase x q rest hphrase =>
    obtain ⟨u, rfl, hagain⟩ := readPhrase_append hphrase
    refine ⟨'"' :: u, rfl, fun rest' _ hf => ?_⟩
    obtain ⟨hread, hcovers⟩ := hagain rest' hf
    exact ⟨hread, rfl, hcovers.append ['"']⟩
  | @pattern x p rest hp hscan =>
    have hends := endsWord_of_readValue hscan h
    have hlast := Slashed.getLast?_of_scanBody? hscan
    refine ⟨(pattern p).display, eq_display_of_scanBody? hscan, fun rest' hrest' hf => ?_⟩
    rw [eq_display_of_scanBody? hscan]
    exact ⟨readValue_pattern hp hlast hrest', leadingWord_congr hrest'.endsWord hends _,
      (hf.covers hends hrest'.endsWord).append _⟩
  | @word w rest hne hw hstart =>
    obtain ⟨c, y, rfl⟩ := List.exists_cons_of_ne_nil hne
    have hc := hw c List.mem_cons_self
    -- the value is all of the word, so the word has ended where the rest begins
    have hword : leadingWord (c :: y ++ rest) = c :: y := leadingWord_of_readValue hc hstart h
    have hends : endsWord rest = true := endsWord_of_leadingWord hword
    refine ⟨c :: y, rfl, fun rest' hrest' hf => ?_⟩
    have hcovers := hf.covers hends hrest'.endsWord
    have hword' : leadingWord (c :: y ++ rest') = c :: y := leadingWord_append hw hrest'.endsWord
    refine ⟨?_, by rw [hword, hword'], hcovers.append _⟩
    have hstart' := startsPattern_of_covers hne hends hrest'.endsWord hcovers hstart
    have hread := @readValue_of_isWordChar operand c hc (y ++ rest')
    rw [← List.cons_append, hstart', hword'] at hread
    rw [hread]
    simp

variable {delimiter : Option Text}

/-- A field starts with a word of two characters and more, its name and the delimiter. -/
theorem word_of_cut? {name d after : Text} (hne : name ≠ [])
    (hcut : Text.cut? d (leadingWord t) = some (name, after)) :
    (∀ c ∈ name ++ d, isWordChar c = true) ∧ (name ++ d).length ≠ 1 := by
  refine ⟨fun c hc => leadingWord_isWordChar (t := t) ?_, ?_⟩
  · rw [Text.eq_of_cut? hcut]
    exact List.mem_append_left after hc
  · have hd : d ≠ [] := by
      rintro rfl
      exact hne (Prod.mk.inj (Option.some.inj (hcut.symm.trans (Text.cut?_needle_append [] _)))).1
    have := List.length_pos_iff.2 hne
    have := List.length_pos_iff.2 hd
    simp
    omega

theorem leadingWord_append_congr {w : Text} (hw : ∀ c ∈ w, isWordChar c = true)
    (h : leadingWord a = leadingWord b) : leadingWord (w ++ a) = leadingWord (w ++ b) := by
  unfold leadingWord at h ⊢
  rw [List.takeWhile_append_of_pos hw, List.takeWhile_append_of_pos hw, h]

/-- A word and a field are taken again. With one character alone before it, the rest behind a word
is all there is. -/
theorem readWord_append (hop : Keeps Ends operand)
    (h : readWord delimiter operand t = .ok (q, rest)) :
    ∃ w y, w ≠ [] ∧ (∀ c ∈ w, isWordChar c = true) ∧ t = w ++ (y ++ rest) ∧
      (w.length = 1 → y = []) ∧ ∀ rest', Ends rest' → Foresees rest rest' →
        readWord delimiter operand (w ++ (y ++ rest')) = .ok (q, rest') ∧
          Covers t (w ++ (y ++ rest')) := by
  cases isWord_of_readWord h with
  | @word w rest hne hw hkey hplain =>
    have hall : ∀ c ∈ w, isWordChar c = true := fun c hc => leadingWord_isWordChar (hw ▸ hc)
    refine ⟨w, [], hne, hall, rfl, fun _ => rfl, fun rest' hrest' hf => ⟨?_, ?_⟩⟩
    · exact readWord_word hne (leadingWord_append hall hrest'.endsWord) hkey hplain
    · exact (hf.covers (endsWord_of_leadingWord hw) hrest'.endsWord).append w
  | @field name d after x rest q hd hne hcut hkey hval =>
    obtain ⟨hall, hlong⟩ := word_of_cut? hne hcut
    obtain ⟨u, rfl, hagain⟩ := readValue_append hop hval
    refine ⟨name ++ d, u, by simp [hne], hall, by simp, fun h => absurd h hlong, ?_⟩
    intro rest' hrest' hf
    obtain ⟨hread, hword, hcovers⟩ := hagain rest' hrest' hf
    have hlead := leadingWord_append_congr hall hword
    refine ⟨?_, hcovers.append _⟩
    rw [hd, readWord_field hne (hlead ▸ hcut) (hlead ▸ hkey), hread]
    rfl

/-- What is read without a negation in front is taken again, and nothing is negated there. -/
theorem readPrimary_append (hop : Keeps Ends operand)
    (h : readPrimary delimiter operand t = .ok (q, rest)) (hneg : negated? t = none) :
    ∃ u, t = u ++ rest ∧ u ≠ [] ∧ ∀ rest', Ends rest' → Foresees rest rest' →
      negated? (u ++ rest') = none ∧
      readPrimary delimiter operand (u ++ rest') = .ok (q, rest') ∧
      Opens (u ++ rest') ∧ Foresees t (u ++ rest') := by
  unfold readPrimary at h
  split at h
  · obtain ⟨u, rfl, hagain⟩ := readGroup_append hop h
    refine ⟨'(' :: u, rfl, by simp, fun rest' _ hf => ?_⟩
    obtain ⟨hread, hf'⟩ := hagain rest' hf
    exact ⟨rfl, hread, opens_cons rfl _, (hf'.cons (by decide) (by decide)).foresees⟩
  · obtain ⟨u, rfl, hagain⟩ := readPhrase_append h
    refine ⟨'"' :: u, rfl, by simp, fun rest' _ hf => ?_⟩
    obtain ⟨hread, hcovers⟩ := hagain rest' hf
    exact ⟨rfl, hread, opens_cons rfl _, (hcovers.append ['"']).foresees⟩
  · obtain ⟨u, ht, hu, hagain⟩ := readPattern_append h
    obtain ⟨c, u, rfl⟩ := List.exists_cons_of_ne_nil hu
    obtain ⟨rfl, -⟩ := List.cons.inj ht
    refine ⟨'/' :: u, ht, hu, fun rest' _ _ => ?_⟩
    obtain ⟨hread, hf'⟩ := hagain rest'
    exact ⟨rfl, hread, opens_cons rfl _, hf'⟩
  · rename_i hslash
    obtain ⟨w, y, hne, hw, rfl, hshort, hagain⟩ := readWord_append hop h
    obtain ⟨c, w, rfl⟩ := List.exists_cons_of_ne_nil hne
    have hc := hw c List.mem_cons_self
    have hcs : c ≠ '/' := by
      rintro rfl
      exact hslash _ rfl
    refine ⟨c :: w ++ y, by simp, by simp, fun rest' hrest' hf => ?_⟩
    obtain ⟨hread, hcovers⟩ := hagain rest' hrest' hf
    have hkey := isKeyword_of_readWord hread
    rw [List.append_assoc]
    refine ⟨?_, ?_, opens_of_leadingWord (by simp [leadingWord, hc]) hkey, hcovers.foresees⟩
    · -- a dash alone, in front of a rest that must not start an operand either
      refine negated?_eq_none hne hkey fun hhead => ?_
      have heq := eq_dash_of_negated? hw hneg hhead
      rw [hshort (by rw [heq]; rfl)]
      exact ⟨heq, hrest'⟩
    · rw [← hread]
      exact readPrimary_of_isWordChar hc hcs _

end

theorem opens_of_negated? {r : Text} (h : negated? t = some r) : Opens t := by
  unfold negated? at h
  split at h
  · rename_i after hkey
    rw [(keyword?_eq_some hkey).1]
    exact opens_cons rfl _
  · split at h
    · exact opens_cons rfl _
    · cases h

/-- Every reader of operands takes the same whatever rest follows. By induction on the depth that it
may still go to. -/
theorem keeps_readOperand (delimiter : Option Text) (depth : Nat) :
    Keeps Ends (readOperand delimiter depth) := by
  induction depth with
  | zero =>
    intro t q rest h
    cases h
  | succ depth ih =>
    intro t q rest h
    unfold readOperand at h
    split at h
    · rename_i r hneg
      obtain ⟨⟨q₁, rest₁⟩, hread₁, heq⟩ := exists_of_map_eq_ok h
      obtain ⟨rfl, rfl⟩ := Prod.mk.inj heq
      obtain ⟨gap, rfl, hgap, hstart⟩ := gaps_negated hneg
      obtain ⟨u, rfl, hu, hagain⟩ := ih hread₁
      refine ⟨gap ++ u, by simp, by simp [hu], fun rest' hrest' hf => ?_⟩
      obtain ⟨hread, hreplaces⟩ := hagain rest' hrest' hf
      obtain ⟨hneg', -, hf'⟩ := hstart _ hreplaces
      rw [List.append_assoc]
      refine ⟨?_, opens_of_negated? hneg', fun h => endsWord_append hgap h _, hf'⟩
      simp only [readOperand, hneg', hread]
      rfl
    · rename_i hneg
      obtain ⟨u, rfl, hu, hagain⟩ := readPrimary_append ih h hneg
      refine ⟨u, rfl, hu, fun rest' hrest' hf => ?_⟩
      obtain ⟨hneg', hread, hopens, hf'⟩ := hagain rest' hrest' hf
      refine ⟨?_, hopens, fun h => endsWord_append hu h _, hf'⟩
      simp only [readOperand, hneg', hread]

theorem parse_eq_ok_iff_readAll {delimiter : Option Text} :
    parse delimiter t = .ok q ↔ readAll delimiter t = .ok q := by
  unfold parse
  cases readAll delimiter t <;> simp

end Query

end TextSieve
