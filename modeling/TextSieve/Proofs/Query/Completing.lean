import Mathlib.Tactic.Common
import TextSieve.Proofs.Query.Rests
import TextSieve.Proofs.Query.Writing
import TextSieve.Proofs.Text.Places

/-! Where the reading of a query stops. Up to there the query is the beginning of one that is read:
whatever is still open can be closed, and a phrase can stand wherever an operand or a value is
missing. -/

namespace TextSieve

/-- What a failed result was mapped from. -/
theorem eq_error_of_map {ε α β : Type} {f : α → β} {x : Except ε α} {e : ε}
    (h : x.map f = .error e) : x = .error e := by
  cases x with
  | ok a => exact absurd h nofun
  | error e' => exact congrArg _ (Except.error.inj h)

namespace Query

variable {delimiter : Option Text} {t rest : Text} {q : Query} {stop : Stop}

def closing (k : Nat) : Text := List.replicate k ')'

theorem closing_succ (k : Nat) : closing (k + 1) = ')' :: closing k := rfl

theorem append_closing (s : Text) (k : Nat) : s ++ [')'] ++ closing k = s ++ closing (k + 1) := by
  simp [closing_succ]

theorem final_closing (k : Nat) : Final (closing k) := by
  cases k with
  | zero => exact final_nil
  | succ k => exact final_close _

theorem slash_not_mem_closing (k : Nat) : '/' ∉ closing k := by simp [closing]

/-- A phrase, which can stand for any operand and for the value of any field. -/
def anyPhrase : Text := ['"', 'x', '"']

theorem readPhrase_any (k : Nat) :
    readPhrase ('x' :: '"' :: closing k) = .ok (phrase ['x'], closing k) :=
  @readPhrase_display ['x'] (by simp) (by simp) (closing k)

theorem slash_not_mem_any (k : Nat) : '/' ∉ anyPhrase ++ closing k := by
  simp [anyPhrase, slash_not_mem_closing]

/-- The stop lies in the text, and it is not that the end was expected there. Unless the text is
nested too deep, what comes before the stop can be completed so that the reader reads all of it, in
front of any number of closing parentheses; `R` relates the text to the completed one. -/
def Completable (R : Text → Text → Prop) (read : Text → Reading Query) (t : Text) (stop : Stop) :
    Prop :=
  stop.expected ≠ .endOfInput ∧ ∃ before, t = before ++ stop.rest ∧
    (stop.expected ≠ .shallowerNesting → ∃ s, ∀ k, R t (before ++ (s ++ closing k)) ∧
      ∃ q, read (before ++ (s ++ closing k)) = .ok (q, closing k))

def Completes (R : Text → Text → Prop) (read : Text → Reading Query) : Prop :=
  ∀ ⦃t stop⦄, read t = .error stop → Completable R read t stop

/-- What can be completed by itself can be completed behind `w`, if the reader of the whole goes on
to what the reader of the part reads. -/
theorem Completable.behind {R R' : Text → Text → Prop} {read read' : Text → Reading Query}
    {w x : Text} (h : Completable R read x stop)
    (hread : ∀ y q k, R x y → read y = .ok (q, closing k) →
      R' (w ++ x) (w ++ y) ∧ ∃ q', read' (w ++ y) = .ok (q', closing k)) :
    Completable R' read' (w ++ x) stop := by
  obtain ⟨hend, before, rfl, hcompletes⟩ := h
  refine ⟨hend, w ++ before, by rw [List.append_assoc], fun hdepth => ?_⟩
  obtain ⟨s, hs⟩ := hcompletes hdepth
  refine ⟨s, fun k => ?_⟩
  obtain ⟨hR, q, hq⟩ := hs k
  rw [List.append_assoc]
  exact hread _ q k hR hq

theorem foresees_behind {y : Text} (hy : '/' ∉ y) (t : Text) : Foresees t (t ++ y) := by
  have hhead : y.head? ≠ some '/' := fun h => hy (List.mem_of_mem_head? h)
  have hcovers : Covers [] y := covers_of (by simp) hhead (fun _ => rfl) (foresees_of_not_mem hy)
  simpa using (hcovers.append t).foresees

theorem completes_readPhrase : Completes Foresees readPhrase := by
  intro t stop h
  unfold readPhrase at h
  split at h
  · rename_i hcut
    obtain rfl := Except.error.inj h
    have hquote : '"' ∉ t := by
      intro hmem
      obtain ⟨u, v, rfl⟩ := List.append_of_mem hmem
      exact Text.cut?_eq_none_iff.1 hcut ⟨u, v, by simp⟩
    refine ⟨nofun, t, by simp, fun _ => ⟨['x', '"'], fun k => ⟨?_, phrase (t ++ ['x']), ?_⟩⟩⟩
    · exact foresees_behind (by simp [slash_not_mem_closing]) t
    · have hread := @readPhrase_display (t ++ ['x']) (by simp) (by simp [hquote]) (closing k)
      simpa using hread
  · obtain rfl := Except.error.inj h
    refine ⟨nofun, [], rfl, fun _ => ⟨['x', '"'], fun k => ⟨?_, phrase ['x'], readPhrase_any k⟩⟩⟩
    exact foresees_of_not_mem (by simp [slash_not_mem_closing])
  · cases h

/-- Behind the opening slash of a pattern. -/
theorem completes_readPattern : Completes (fun x x' => Foresees ('/' :: x) ('/' :: x'))
    fun x => readPattern ('/' :: x) := by
  intro x stop h
  change readPattern ('/' :: x) = .error stop at h
  unfold readPattern at h
  split at h
  · rename_i hscan
    obtain rfl := Except.error.inj h
    rw [Slashed.scan?_slash, Option.map_eq_none_iff] at hscan
    refine ⟨nofun, x, by simp, fun _ => ⟨['x', '/'], fun k => ?_⟩⟩
    obtain ⟨p, hp, hagain⟩ := Slashed.exists_scanBody?_append hscan (closing k)
    refine ⟨foresees_slash ?_, pattern p, readPattern_of_scanBody? hp hagain⟩
    cases x with
    | nil => exact fun _ => rfl
    | cons c x => exact id
  · obtain rfl := Except.error.inj h
    refine ⟨nofun, [], rfl, fun _ => ⟨['x', '/'], fun k => ⟨foresees_slash nofun, ?_⟩⟩⟩
    exact ⟨pattern ['x'], @readPattern_display ['x'] (by simp) (by simp) (closing k)⟩
  · cases h

section

variable {admits : Text → Prop} {next? : Text → Option Text} {operand : Text → Reading Query}
  {combine : List Query → Query}

/-- Where operands in a row cannot be read, one of them cannot. -/
theorem exists_of_readParts_error (hg : Gaps admits next?) (hop : Keeps admits operand)
    (h : readParts next? operand t = .error stop) :
    ∃ before start, Reaches next? operand t before start ∧ operand start = .error stop := by
  obtain ⟨before, start, hreaches, hlast⟩ := exists_reaches hg hop t
  rw [hreaches.readParts hg hop] at h
  have hparts := eq_error_of_map h
  refine ⟨before, start, hreaches, ?_⟩
  cases hread : operand start with
  | error stop' => simpa [readParts, hread] using hparts
  | ok found =>
    rw [readParts_of_ok hread, readMore_of_none (hlast _ _ hread)] at hparts
    cases hparts

/-- The operand that stopped the reading is completed, and those before it are read as before. -/
theorem completes_readJoined (hg : Gaps admits next?) (hop : Keeps admits operand)
    (hnext : ∀ k, next? (closing k) = none) (h : Completes Replaces operand) :
    Completes Replaces (readJoined combine next? operand) := by
  intro t stop hread
  rw [readJoined_eq_readParts] at hread
  obtain ⟨qs, start, hreaches, hstop⟩ := exists_of_readParts_error hg hop (eq_error_of_map hread)
  obtain ⟨u, rfl, hagain⟩ := hreaches.again hg hop
  refine (h hstop).behind fun y q k hreplaces hq => ?_
  obtain ⟨hreaches', hreplaces'⟩ := hagain y hreplaces
  refine ⟨hreplaces', joined combine (qs ++ [q]), readJoined_eq_ok_iff.2 ⟨qs ++ [q], ?_, rfl⟩⟩
  rw [hreaches'.readParts hg hop, readParts_of_ok hq, readMore_of_none (hnext k)]
  rfl

theorem completes_readOr (hop : Keeps Ends operand) (h : Completes Replaces operand) :
    Completes Replaces (readOr operand) := by
  have hand : Completes Replaces (readAnd operand) :=
    completes_readJoined gaps_and hop (fun k => (final_closing k).1.2) h
  exact completes_readJoined gaps_or (keeps_readAnd hop) (fun k => (final_closing k).2) hand

end

section

variable {operand : Text → Reading Query}

theorem completes_readGroup (hop : Keeps Ends operand) (h : Completes Replaces operand) :
    Completes Foresees (readGroup operand) := by
  intro t stop hread
  obtain ⟨ws, hws, ht⟩ := exists_blanks t
  unfold readGroup at hread
  split at hread
  · rename_i stop' hinner
    obtain rfl := Except.error.inj hread
    obtain ⟨hend, before, hbefore, hcompletes⟩ := completes_readOr hop h hinner
    refine ⟨hend, ws ++ before, by rw [List.append_assoc, ← hbefore, ← ht], fun hdepth => ?_⟩
    obtain ⟨s, hs⟩ := hcompletes hdepth
    -- one more parenthesis closes the group itself
    refine ⟨s ++ [')'], fun k => ?_⟩
    obtain ⟨hreplaces, q, hq⟩ := hs (k + 1)
    rw [append_closing, List.append_assoc]
    refine ⟨?_, group q, ?_⟩
    · rw [ht]
      exact hreplaces.foresees.blanks hws
    · exact readGroup_blanks hws blanks_nil hreplaces.opens.solid hq
  · rename_i q rest hinner
    split at hread
    · cases hread
    · obtain rfl := Except.error.inj hread
      obtain ⟨ws', hws', hrest⟩ := exists_blanks rest
      obtain ⟨u, hu, -, hagain⟩ := keeps_readOr hop hinner
      refine ⟨by simp, ws ++ (u ++ ws'), ?_, fun _ => ⟨[')'], fun k => ?_⟩⟩
      · rw [List.append_assoc, List.append_assoc, ← hrest, ← hu, ← ht]
      · have hslash : '/' ∉ ws' ++ closing (k + 1) := by
          simp [hws'.not_mem (c := '/') rfl, slash_not_mem_closing]
        obtain ⟨hq, hreplaces⟩ := hagain _ (final_blanks hws' _) (foresees_of_not_mem hslash)
        have hsplit : ws ++ (u ++ ws') ++ ([')'] ++ closing k) =
            ws ++ (u ++ (ws' ++ ')' :: closing k)) := by simp
        rw [hsplit]
        refine ⟨?_, group q, readGroup_blanks hws hws' hreplaces.opens.solid hq⟩
        rw [ht]
        exact hreplaces.foresees.blanks hws

theorem readPattern_of_startsPattern (h : startsPattern t = true) :
    ∃ q rest, readPattern t = .ok (q, rest) := by
  unfold startsPattern at h
  split at h
  · rename_i p n hscan
    obtain ⟨hp, -⟩ := Bool.and_eq_true_iff.1 h
    obtain ⟨x, rfl, -, hbody⟩ := Slashed.exists_of_scan? hscan
    exact ⟨pattern p, _, readPattern_of_scanBody? (by simpa using hp) hbody⟩
  · cases h

theorem completes_readValue (hop : Keeps Ends operand) (h : Completes Replaces operand) :
    Completes (fun t t' => leadingWord t' = leadingWord t ∧ Covers t t') (readValue operand) := by
  intro t stop hread
  unfold readValue at hread
  split at hread
  · refine (completes_readGroup hop h hread).behind (w := ['(']) fun y q k hforesees hq => ?_
    exact ⟨⟨rfl, hforesees.cons (by decide) (by decide)⟩, q, hq⟩
  · refine (completes_readPhrase hread).behind (w := ['"']) fun y q k hforesees hq => ?_
    exact ⟨⟨rfl, hforesees.cons (by decide) (by decide)⟩, q, hq⟩
  · split at hread
    · -- a value is only taken for a pattern where the pattern is there
      rename_i hstart
      obtain ⟨q, rest, hpattern⟩ := readPattern_of_startsPattern hstart
      rw [hpattern] at hread
      cases hread
    · split at hread
      · rename_i hword
        obtain rfl := Except.error.inj hread
        have hends : endsWord t = true := endsWord_of_leadingWord (w := []) hword
        refine ⟨nofun, [], rfl, fun _ => ⟨anyPhrase, fun k => ⟨⟨hword.symm, ?_⟩, ?_⟩⟩⟩
        · exact (foresees_of_not_mem (slash_not_mem_any k)).covers hends rfl
        · exact ⟨phrase ['x'], readPhrase_any k⟩
      · cases hread

/-- What a word that cannot be read lacks: a word at all, or the value of a field. -/
inductive LacksWord (delimiter : Option Text) (operand : Text → Reading Query) :
    Text → Stop → Prop
  | term {t : Text} : LacksWord delimiter operand t ⟨t, .term⟩
  | value {name d after x : Text} {stop : Stop} (hd : delimiter = some d) (hne : name ≠ [])
    (hcut : Text.cut? d (leadingWord (name ++ d ++ x)) = some (name, after))
    (hkey : isKeyword (leadingWord (name ++ d ++ x)) = false)
    (h : readValue operand x = .error stop) : LacksWord delimiter operand (name ++ d ++ x) stop

theorem lacksWord_of_readWord (h : readWord delimiter operand t = .error stop) :
    LacksWord delimiter operand t stop := by
  simp only [readWord] at h
  split at h
  · obtain rfl := Except.error.inj h
    exact .term
  rename_i hw
  obtain ⟨hne, hkey⟩ := not_or.1 hw
  rw [Bool.not_eq_true] at hkey
  cases hname : fieldName? delimiter (leadingWord t) with
  | none => cases delimiter <;> simp [hname] at h
  | some found =>
    obtain ⟨name, after⟩ := found
    obtain ⟨d, rfl, hcut, hne'⟩ := fieldName?_eq_some hname
    simp only [hname] at h
    have hprefix : name ++ d <+: t :=
      (Text.eq_of_cut? hcut ▸ List.prefix_append _ after).trans (List.takeWhile_prefix _)
    have ht : name ++ d ++ t.drop (name.length + d.length) = t := by
      rw [← List.length_append]
      exact List.prefix_iff_eq_append.1 hprefix
    have hlacks : LacksWord (some d) operand (name ++ d ++ t.drop (name.length + d.length)) stop :=
      .value rfl hne' (ht.symm ▸ hcut) (ht.symm ▸ hkey) (eq_error_of_map h)
    rwa [ht] at hlacks

structure Unnegated (t t' : Text) : Prop where
  negated : negated? t = none → negated? t' = none
  endsWord : endsWord t = true → endsWord t' = true
  foresees : Foresees t t'

theorem completes_readPrimary (hop : Keeps Ends operand) (h : Completes Replaces operand) :
    Completes Unnegated (readPrimary delimiter operand) := by
  intro t stop hread
  unfold readPrimary at hread
  split at hread
  · refine (completes_readGroup hop h hread).behind (w := ['(']) fun y q k hforesees hq => ?_
    have hforesees' := (hforesees.cons (c := '(') (by decide) (by decide)).foresees
    exact ⟨⟨fun _ => rfl, fun _ => rfl, hforesees'⟩, q, hq⟩
  · refine (completes_readPhrase hread).behind (w := ['"']) fun y q k hforesees hq => ?_
    have hforesees' := (hforesees.cons (c := '"') (by decide) (by decide)).foresees
    exact ⟨⟨fun _ => rfl, fun _ => rfl, hforesees'⟩, q, hq⟩
  · exact (completes_readPattern hread).behind (w := ['/']) fun y q k hforesees hq =>
      ⟨⟨fun _ => rfl, id, hforesees⟩, q, hq⟩
  · rename_i hslash
    cases lacksWord_of_readWord hread with
    | term =>
      refine ⟨nofun, [], rfl, fun _ => ⟨anyPhrase, fun k => ⟨⟨fun _ => rfl, fun _ => rfl, ?_⟩, ?_⟩⟩⟩
      · exact foresees_of_not_mem (slash_not_mem_any k)
      · exact ⟨phrase ['x'], readPhrase_any k⟩
    | @value name d after x stop hd hne hcut hkey hvalue =>
      obtain ⟨hall, hlong⟩ := word_of_cut? hne hcut
      have hname : name ++ d ≠ [] := by simp [hne]
      refine (completes_readValue hop h hvalue).behind fun y q k hy hq => ?_
      obtain ⟨hword, hcovers⟩ := hy
      have hlead := leadingWord_append_congr hall hword
      refine ⟨⟨fun hneg => ?_, fun hends => endsWord_append hname hends _,
        (hcovers.append _).foresees⟩, field name d q, ?_⟩
      · -- the name and the delimiter are more than a dash
        refine negated?_eq_none hname (hlead ▸ hkey) fun hhead => ?_
        exact absurd (congrArg List.length (eq_dash_of_negated? hall hneg hhead)) hlong
      · have hread' : readWord (some d) operand (name ++ d ++ y) =
            .ok (field name d q, closing k) := by
          rw [readWord_field hne (hlead ▸ hcut) (hlead ▸ hkey), hq]
          rfl
        obtain ⟨c, w, hcw⟩ := List.exists_cons_of_ne_nil hname
        have hc : isWordChar c = true := hall c (hcw ▸ List.mem_cons_self)
        have hcs : c ≠ '/' := by
          rintro rfl
          exact hslash _ (by rw [hcw]; rfl)
        rw [hcw] at hread' ⊢
        rw [hd]
        exact (readPrimary_of_isWordChar hc hcs _).trans hread'

end

/-- Wherever an operand stops being read, what comes before can be completed. By induction on the
depth that the reader may still go to. -/
theorem completes_readOperand (delimiter : Option Text) (depth : Nat) :
    Completes Replaces (readOperand delimiter depth) := by
  induction depth with
  | zero =>
    intro t stop hread
    obtain rfl := Except.error.inj hread
    exact ⟨nofun, [], rfl, fun h => absurd rfl h⟩
  | succ depth ih =>
    intro t stop hread
    unfold readOperand at hread
    split at hread
    · rename_i r hneg
      obtain ⟨gap, rfl, hgap, hstart⟩ := gaps_negated hneg
      refine (ih (eq_error_of_map hread)).behind fun y q k hreplaces hq => ?_
      obtain ⟨hneg', -, hforesees⟩ := hstart y hreplaces
      refine ⟨⟨opens_of_negated? hneg', fun h => endsWord_append hgap h _, hforesees⟩, not q, ?_⟩
      simp only [readOperand, hneg', hq]
      rfl
    · rename_i hneg
      have hkeeps := keeps_readOperand delimiter depth
      refine (completes_readPrimary hkeeps ih hread).behind (w := []) fun y q k hy hq => ?_
      have hread' : readOperand delimiter (depth + 1) y = .ok (q, closing k) := by
        simp only [readOperand, hy.negated hneg, hq]
      have hopens := (keeps_readOperand delimiter (depth + 1)).opens hread' (final_closing k).1.1
      exact ⟨⟨hopens, hy.endsWord, hy.foresees⟩, q, hread'⟩

/-- Where a whole query stops being read, what comes before can be completed. It is a query itself
if only the end was expected there. -/
theorem completable_of_readAll (h : readAll delimiter t = .error stop) :
    ∃ before, t = before ++ stop.rest ∧
      (stop.expected ≠ .shallowerNesting → ∃ s q, readAll delimiter (before ++ s) = .ok q) ∧
      (stop.expected = .endOfInput → ∃ q, readAll delimiter before = .ok q) := by
  obtain ⟨ws, hws, ht⟩ := exists_blanks t
  have hkeeps := keeps_readOperand delimiter depthLimit
  have hcompletes := completes_readOr hkeeps (completes_readOperand delimiter depthLimit)
  unfold readAll at h
  split at h
  · rename_i stop' hread
    obtain rfl := Except.error.inj h
    obtain ⟨hend, before, hbefore, hs⟩ := hcompletes hread
    refine ⟨ws ++ before, by rw [List.append_assoc, ← hbefore, ← ht], fun hdepth => ?_,
      fun h => absurd h hend⟩
    obtain ⟨s, hs⟩ := hs hdepth
    obtain ⟨hreplaces, q, hq⟩ := hs 0
    refine ⟨s ++ closing 0, q, ?_⟩
    unfold readAll
    rw [List.append_assoc, hws.trimStart_append, hreplaces.opens.solid.trimStart, hq]
    rfl
  · rename_i q rest hread
    split at h
    · cases h
    · obtain rfl := Except.error.inj h
      obtain ⟨ws', hws', hrest⟩ := exists_blanks rest
      obtain ⟨u, hu, -, hagain⟩ := keeps_readOr hkeeps hread
      have hforesees : Foresees rest ws' := foresees_of_not_mem (hws'.not_mem rfl)
      obtain ⟨hq, hreplaces⟩ := hagain ws' (final_of_blanks hws') hforesees
      have hall : readAll delimiter (ws ++ (u ++ ws')) = .ok q := by
        unfold readAll
        rw [hws.trimStart_append, hreplaces.opens.solid.trimStart, hq]
        simp only [hws'.trimStart]
      refine ⟨ws ++ (u ++ ws'), ?_, fun _ => ⟨[], q, by rw [List.append_nil, hall]⟩,
        fun _ => ⟨q, hall⟩⟩
      rw [List.append_assoc, List.append_assoc, ← hrest, ← hu, ← ht]

/-- The last line of a text, up to its end. -/
theorem exists_last_line (t : Text) : ∃ above line, t = above ++ line ∧ '\n' ∉ line ∧
    (above = [] ∨ above.getLast? = some '\n') ∧
      (t.reverse.takeWhile (· != '\n')).length = line.length := by
  refine ⟨(t.reverse.dropWhile (· != '\n')).reverse, (t.reverse.takeWhile (· != '\n')).reverse,
    ?_, ?_, ?_, by simp⟩
  · rw [← List.reverse_append, List.takeWhile_append_dropWhile, List.reverse_reverse]
  · intro hmem
    have hline := List.all_eq_true.1 List.all_takeWhile _ (List.mem_reverse.1 hmem)
    simp at hline
  · have hhead := List.head?_dropWhile_not (· != '\n') t.reverse
    rw [List.getLast?_reverse]
    cases hdrop : t.reverse.dropWhile (· != '\n') with
    | nil => exact .inl rfl
    | cons c x => exact .inr (by simpa [hdrop] using hhead)

/-- A query that is not read fails at one place. The place lies between two characters of the query,
its line and its column are those of the last character before it and one more, and up to there the
query can be completed to one that is read, unless it is nested too deep. -/
theorem failure_of_parse {e : Error} (h : parse delimiter t = .error e) :
    ∃ f before after, e = .query t [f] ∧ t = before ++ after ∧
      f.index = before.size ∧ f.index ≤ t.size ∧ t.isBoundary f.index = true ∧
      f.line = before.count '\n' + 1 ∧
      (∃ above line, before = above ++ line ∧ '\n' ∉ line ∧
        (above = [] ∨ above.getLast? = some '\n') ∧ f.column = line.length + 1) ∧
      (f.expected ≠ .shallowerNesting → ∃ s q, parse delimiter (before ++ s) = .ok q) ∧
      (f.expected = .endOfInput → ∃ q, parse delimiter before = .ok q) := by
  simp only [parse_eq_ok_iff_readAll]
  unfold parse at h
  split at h
  · cases h
  · rename_i stop hread
    obtain rfl := Except.error.inj h
    obtain ⟨before, hbefore, hcompletes, hend⟩ := completable_of_readAll hread
    have htake : t.take (t.length - stop.rest.length) = before := by
      rw [hbefore]
      simp
    have hfailure : stop.failure t = .behind before stop.expected := by
      rw [Stop.failure, htake]
    rw [hfailure]
    refine ⟨.behind before stop.expected, before, stop.rest, rfl, hbefore, rfl, ?_, ?_, rfl, ?_,
      hcompletes, hend⟩
    · rw [hbefore, Text.size_append]
      exact Nat.le_add_right _ _
    · exact Text.isBoundary_iff.2 ⟨before, stop.rest, hbefore, rfl⟩
    · obtain ⟨above, line, heq, hline, habove, hlength⟩ := exists_last_line before
      exact ⟨above, line, heq, hline, habove, congrArg (· + 1) hlength⟩

/-- An open phrase in an open group on the second line. -/
theorem failure_of_parse_open :
    let t := ['a', '\n', '-', '(', 'f', ':', '"', 'b', ' ']
    parse (some [':']) t = .error (.query t [⟨9, 2, 8, .closingQuote⟩]) ∧
      ∃ s q, parse (some [':']) (t ++ s) = .ok q := by
  intro t
  have h : parse (some [':']) t = .error (.query t [⟨9, 2, 8, .closingQuote⟩]) := by
    decide +kernel
  obtain ⟨f, before, after, he, ht, hindex, -, -, -, -, hs, -⟩ := failure_of_parse h
  obtain rfl : ⟨9, 2, 8, .closingQuote⟩ = f := by simpa using he
  have hsize : Text.size t = before.size := hindex
  obtain ⟨hbefore, -⟩ := Text.append_inj_of_size ((List.append_nil t).trans ht) hsize
  exact ⟨h, hbefore ▸ hs nofun⟩

end Query

end TextSieve
