import Mathlib.Tactic.Common
import TextSieve.Proofs.Query.Redisplay

/-! What stands between the operands of a query. A blank, a keyword or a sign of negation is found
again in front of any other operand that may begin there. Which operands may, depends on how they
begin and on the slashes ahead of them: none of these may close a pattern where none did before. -/

namespace TextSieve

namespace Query

variable {a b t : Text}

theorem head?_ne_of_endsWord {c : Char} (hc : isWordChar c = true) (h : endsWord t = true) :
    t.head? ≠ some c := by
  intro ht
  obtain ⟨x, rfl⟩ := List.head?_eq_some_iff.1 ht
  simp [endsWord, hc] at h

theorem Foresees.covers (h : Foresees a b) (ha : endsWord a = true) (hb : endsWord b = true) :
    Covers a b :=
  covers_of (head?_ne_of_endsWord (by decide) ha) (head?_ne_of_endsWord (by decide) hb)
    (fun _ => ha) h

theorem Foresees.cons (h : Foresees a b) {c : Char} (hs : c ≠ '/') (hb : c ≠ '\\') :
    Covers (c :: a) (c :: b) := by
  refine covers_of (by simpa using hs) (by simpa using hs) id ?_
  rw [Foresees, closesAhead_cons hs fun h => absurd h hb, closesAhead_cons hs fun h => absurd h hb]
  exact h

theorem foresees_slash (h : endsWord b = true → endsWord a = true) :
    Foresees ('/' :: a) ('/' :: b) := by
  rw [Foresees, closesAhead_slash, closesAhead_slash]
  exact h

theorem Foresees.append (h : Foresees a b) {w : Text} (hslash : '/' ∉ w) (hback : '\\' ∉ w) :
    Foresees (w ++ a) (w ++ b) := by
  rw [Foresees, closesAhead_append hslash hback, closesAhead_append hslash hback]
  exact h

theorem closesAhead_of_not_mem (h : '/' ∉ t) : closesAhead t = false := by
  cases hscan : Slashed.scanBody? t with
  | none => simp [closesAhead, hscan]
  | some found =>
    obtain ⟨p, r⟩ := found
    rw [Slashed.eq_of_scanBody? hscan] at h
    simp at h

theorem foresees_of_not_mem (h : '/' ∉ b) : Foresees a b := by
  intro hb
  rw [closesAhead_of_not_mem h] at hb
  cases hb

def Blanks (ws : Text) : Prop := ∀ c ∈ ws, Unicode.isBlank c = true

theorem blanks_nil : Blanks [] := by
  intro c hc
  cases hc

theorem exists_blanks (t : Text) : ∃ ws, Blanks ws ∧ t = ws ++ Text.trimStart t :=
  ⟨t.takeWhile Unicode.isBlank, List.all_eq_true.1 List.all_takeWhile,
    List.takeWhile_append_dropWhile.symm⟩

theorem Blanks.trimStart_append {ws : Text} (hws : Blanks ws) (t : Text) :
    Text.trimStart (ws ++ t) = Text.trimStart t :=
  List.dropWhile_append_of_pos hws

theorem Blanks.trimStart (h : Blanks t) : Text.trimStart t = [] := by
  simpa [Text.trimStart] using h.trimStart_append []

theorem blanks_of_trimStart (h : Text.trimStart t = []) : Blanks t := by
  obtain ⟨ws, hws, ht⟩ := exists_blanks t
  rw [h, List.append_nil] at ht
  exact ht ▸ hws

section

variable {ws x : Text}

theorem Blanks.not_mem (hws : Blanks ws) {c : Char} (hc : Unicode.isBlank c = false) : c ∉ ws := by
  intro hmem
  rw [hws c hmem] at hc
  cases hc

theorem Foresees.blanks (h : Foresees a b) (hws : Blanks ws) : Foresees (ws ++ a) (ws ++ b) :=
  h.append (hws.not_mem rfl) (hws.not_mem rfl)

theorem Blanks.startsBlank_append (hws : Blanks ws) (hne : ws ≠ []) (t : Text) :
    startsBlank (ws ++ t) = true := by
  obtain ⟨c, ws, rfl⟩ := List.exists_cons_of_ne_nil hne
  simpa [startsBlank] using hws c List.mem_cons_self

theorem exists_blanks_of_startsBlank (h : startsBlank t = true) :
    ∃ ws, Blanks ws ∧ ws ≠ [] ∧ t = ws ++ Text.trimStart t := by
  obtain ⟨ws, hws, ht⟩ := exists_blanks t
  refine ⟨ws, hws, ?_, ht⟩
  rintro rfl
  cases t with
  | nil => cases h
  | cons c t =>
    have hc : Unicode.isBlank c = true := by simpa [startsBlank] using h
    have hlen := congrArg List.length ht
    have hle : (t.dropWhile Unicode.isBlank).length ≤ t.length :=
      (List.dropWhile_sublist _).length_le
    simp [Text.trimStart, hc] at hlen
    omega

/-- Behind blanks a word has ended; without them it has if it has before `b`. -/
theorem Blanks.endsWord_append (hws : Blanks ws) (h : endsWord (ws ++ a) = true)
    (hb : endsWord a = true → endsWord b = true) : endsWord (ws ++ b) = true := by
  cases ws with
  | nil => exact hb h
  | cons c ws => exact h

structure Opens (t : Text) : Prop where
  solid : Solid t
  close : t.head? ≠ some ')'
  and : keyword? andWord t = none
  or : keyword? orWord t = none

theorem keyword?_eq_none {word : Text} {c : Char} (hne : word ≠ []) (h : word.head? ≠ some c)
    (x : Text) : keyword? word (c :: x) = none := by
  cases hk : keyword? word (c :: x) with
  | none => rfl
  | some after =>
    obtain ⟨d, word, rfl⟩ := List.exists_cons_of_ne_nil hne
    obtain ⟨rfl, -⟩ := List.cons.inj (keyword?_eq_some hk).1
    exact absurd rfl h

/-- No operator starts with such a character. -/
theorem opens_cons {c : Char}
    (hc : (!Unicode.isBlank c && c != ')' && c != 'A' && c != 'O') = true) (x : Text) :
    Opens (c :: x) := by
  simp only [Bool.and_eq_true, Bool.not_eq_true', bne_iff_ne, ne_eq] at hc
  obtain ⟨⟨⟨hb, hclose⟩, ha⟩, ho⟩ := hc
  exact ⟨solid_cons hb x, by simpa using hclose,
    keyword?_eq_none (by decide) (by simpa [andWord] using Ne.symm ha) x,
    keyword?_eq_none (by decide) (by simpa [orWord] using Ne.symm ho) x⟩

theorem opens_of_leadingWord (hne : leadingWord t ≠ []) (hkey : isKeyword (leadingWord t) = false) :
    Opens t := by
  have hnone : ∀ word : Text, (∀ c ∈ word, isWordChar c = true) → isKeyword word = true →
      keyword? word t = none := by
    intro word hword hkeyword
    cases hk : keyword? word t with
    | none => rfl
    | some after =>
      obtain ⟨rfl, hends⟩ := keyword?_eq_some hk
      rw [leadingWord_append hword hends, hkeyword] at hkey
      cases hkey
  obtain ⟨c, w, hw⟩ := List.exists_cons_of_ne_nil hne
  have hc : isWordChar c = true := leadingWord_isWordChar (t := t) (by rw [hw]; exact .head w)
  have ht := leadingWord_append_drop t
  rw [hw, List.cons_append] at ht
  have hclose : c ≠ ')' := by
    rintro rfl
    exact absurd hc (by decide)
  refine ⟨ht ▸ solid_cons (isBlank_of_isWordChar hc) _, ?_,
    hnone andWord (List.all_eq_true.1 rfl) rfl, hnone orWord (List.all_eq_true.1 rfl) rfl⟩
  rw [← ht]
  simpa using hclose

theorem andNext?_of_opens (hws : Blanks ws) (hne : ws ≠ []) (hx : Opens x) :
    andNext? (ws ++ x) = some x := by
  have hnil : x ≠ [] := by
    obtain ⟨c, y, rfl, -⟩ := hx.solid
    simp
  unfold andNext?
  simp [hws.startsBlank_append hne, hws.trimStart_append, hx.solid.trimStart, hx.and, hx.or,
    hx.close, hnil]

theorem andNext?_of_and {after : Text} (hws : Blanks ws) (hne : ws ≠ [])
    (h : keyword? andWord x = some after) : andNext? (ws ++ x) = some (Text.trimStart after) := by
  have hsolid : Solid x := (keyword?_eq_some h).1 ▸ solid_cons (by decide) _
  unfold andNext?
  simp [hws.startsBlank_append hne, hws.trimStart_append, hsolid.trimStart, h]

theorem andNext?_of_or {after : Text} (hws : Blanks ws) (h : keyword? orWord x = some after) :
    andNext? (ws ++ x) = none := by
  have hx := (keyword?_eq_some h).1
  have hand : keyword? andWord x = none := by
    rw [hx]
    rfl
  have hsolid : Solid x := hx ▸ solid_cons (by decide) _
  unfold andNext?
  simp [hws.trimStart_append, hsolid.trimStart, hand, h]

theorem orNext?_of_or {after : Text} (hws : Blanks ws) (hne : ws ≠ [])
    (h : keyword? orWord x = some after) : orNext? (ws ++ x) = some (Text.trimStart after) := by
  have hsolid : Solid x := (keyword?_eq_some h).1 ▸ solid_cons (by decide) _
  unfold orNext?
  simp [hws.startsBlank_append hne, hws.trimStart_append, hsolid.trimStart, h]

theorem exists_of_andNext? {start : Text} (h : andNext? t = some start) :
    ∃ ws x, Blanks ws ∧ ws ≠ [] ∧ t = ws ++ x ∧
      (keyword? andWord x = none ∧ start = x ∨
        ∃ after, keyword? andWord x = some after ∧ start = Text.trimStart after) := by
  unfold andNext? at h
  split at h
  · rename_i hblank
    obtain ⟨ws, hws, hne, ht⟩ := exists_blanks_of_startsBlank hblank
    refine ⟨ws, Text.trimStart t, hws, hne, ht, ?_⟩
    simp only at h
    split at h
    · rename_i after hkey
      exact .inr ⟨after, hkey, (Option.some.inj h).symm⟩
    · rename_i hkey
      split at h
      · cases h
      · exact .inl ⟨hkey, (Option.some.inj h).symm⟩
  · cases h

theorem exists_of_orNext? {start : Text} (h : orNext? t = some start) :
    ∃ ws x after, Blanks ws ∧ ws ≠ [] ∧ t = ws ++ x ∧ keyword? orWord x = some after ∧
      start = Text.trimStart after := by
  unfold orNext? at h
  split at h
  · rename_i hblank
    obtain ⟨ws, hws, hne, ht⟩ := exists_blanks_of_startsBlank hblank
    obtain ⟨after, hkey, rfl⟩ := Option.map_eq_some_iff.1 h
    exact ⟨ws, Text.trimStart t, after, hws, hne, ht, hkey, rfl⟩
  · cases h

end

/-- The text `t'` may stand where an operand begins with `t`: whatever comes before it is read as
before. -/
structure Replaces (t t' : Text) : Prop where
  opens : Opens t'
  endsWord : endsWord t = true → endsWord t' = true
  foresees : Foresees t t'

/-- The start of an operand is found behind a gap, and behind that gap any other start that may
stand there is found. -/
def Gaps (admits : Text → Prop) (next? : Text → Option Text) : Prop :=
  ∀ ⦃t start⦄, next? t = some start → ∃ gap, t = gap ++ start ∧ gap ≠ [] ∧
    ∀ start', Replaces start start' → next? (gap ++ start') = some start' ∧
      admits (gap ++ start') ∧ Foresees t (gap ++ start')

/-- The blanks behind a keyword, which is found again in front of any other start. -/
theorem exists_of_keyword? {word after : Text} (h : keyword? word t = some after) :
    ∃ ws, Blanks ws ∧ t = word ++ (ws ++ Text.trimStart after) ∧
      ∀ start', Replaces (Text.trimStart after) start' →
        keyword? word (word ++ (ws ++ start')) = some (ws ++ start') ∧
          Text.trimStart (ws ++ start') = start' := by
  obtain ⟨rfl, hends⟩ := keyword?_eq_some h
  obtain ⟨ws, hws, hafter⟩ := exists_blanks after
  rw [hafter] at hends
  refine ⟨ws, hws, by rw [← hafter], fun start' hstart => ⟨?_, ?_⟩⟩
  · exact keyword?_append (hws.endsWord_append hends hstart.endsWord)
  · rw [hws.trimStart_append, hstart.opens.solid.trimStart]

theorem gaps_and : Gaps Ends andNext? := by
  intro t start h
  obtain ⟨ws, x, hws, hne, rfl, ⟨hkey, rfl⟩ | ⟨after, hkey, rfl⟩⟩ := exists_of_andNext? h
  · refine ⟨ws, rfl, hne, fun start' hstart => ⟨andNext?_of_opens hws hne hstart.opens,
      ends_of_startsBlank (hws.startsBlank_append hne start'), hstart.foresees.blanks hws⟩⟩
  · obtain ⟨ws', hws', rfl, hagain⟩ := exists_of_keyword? hkey
    refine ⟨ws ++ (andWord ++ ws'), by simp, by simp [andWord], fun start' hstart => ?_⟩
    obtain ⟨hkey', htrim⟩ := hagain start' hstart
    simp only [List.append_assoc]
    refine ⟨?_, ends_of_startsBlank (hws.startsBlank_append hne _), ?_⟩
    · rw [andNext?_of_and hws hne hkey', htrim]
    · exact ((hstart.foresees.blanks hws').append (by decide) (by decide)).blanks hws

theorem gaps_or : Gaps (fun rest => Ends rest ∧ andNext? rest = none) orNext? := by
  intro t start h
  obtain ⟨ws, x, after, hws, hne, rfl, hkey, rfl⟩ := exists_of_orNext? h
  obtain ⟨ws', hws', rfl, hagain⟩ := exists_of_keyword? hkey
  refine ⟨ws ++ (orWord ++ ws'), by simp, by simp [orWord], fun start' hstart => ?_⟩
  obtain ⟨hkey', htrim⟩ := hagain start' hstart
  simp only [List.append_assoc]
  refine ⟨?_, ⟨ends_of_startsBlank (hws.startsBlank_append hne _), andNext?_of_or hws hkey'⟩, ?_⟩
  · rw [orNext?_of_or hws hne hkey', htrim]
  · exact ((hstart.foresees.blanks hws').append (by decide) (by decide)).blanks hws

theorem Opens.dashNegates {x : Text} (hx : Opens x) : dashNegates x = true := by
  obtain ⟨c, y, rfl, hc⟩ := hx.solid
  have hclose : c ≠ ')' := by simpa using hx.close
  simp [Query.dashNegates, hc, hclose]

theorem negated?_dash {x : Text} (hx : dashNegates x = true) : negated? ('-' :: x) = some x := by
  have hkey : keyword? notWord ('-' :: x) = none := rfl
  simp [negated?, hkey, hx]

theorem gaps_negated : Gaps (fun _ => True) negated? := by
  intro t start h
  unfold negated? at h
  split at h
  · rename_i after hkey
    obtain rfl := Option.some.inj h
    obtain ⟨ws, hws, rfl, hagain⟩ := exists_of_keyword? hkey
    refine ⟨notWord ++ ws, by simp, by simp [notWord], fun start' hstart => ?_⟩
    obtain ⟨hkey', htrim⟩ := hagain start' hstart
    rw [List.append_assoc]
    refine ⟨?_, trivial, (hstart.foresees.blanks hws).append (by decide) (by decide)⟩
    unfold negated?
    simp [hkey', htrim]
  · split at h
    · split at h
      · obtain rfl := Option.some.inj h
        refine ⟨['-'], rfl, by simp, fun start' hstart => ?_⟩
        have hforesees := (hstart.foresees.cons (c := '-') (by decide) (by decide)).foresees
        exact ⟨negated?_dash hstart.opens.dashNegates, trivial, hforesees⟩
      · cases h
    · cases h

end Query

end TextSieve
