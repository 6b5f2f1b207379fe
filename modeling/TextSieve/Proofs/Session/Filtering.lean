import Mathlib.Data.List.Sort
import TextSieve.CommandLine.Run
import TextSieve.Proofs.Session.Calls

/-! Filtering. A line is selected or left out by what the query says of it alone, so filtering and
inverted filtering part the lines of a text among them. Lines can be looked at in any order, on one
cache, and what is selected is put into the order of the lines afterwards. -/

namespace TextSieve

namespace Session

def accepts (s : Session) (text : Text) : Bool :=
  (s.eval taggedFields text {}).1.toOption == some true

def found (s : Session) (text : Text) : List Fragment :=
  (s.fragments taggedFields text {}).1.toOption.getD []

def Evaluates (s : Session) (lines : List Text) : Prop :=
  ∀ text ∈ lines, ∃ b, (s.eval taggedFields text {}).1 = .ok b

/-- No search for fragments fails that is to be made. -/
def FindsFragments (s : Session) (how : Selection) (lines : List Text) : Prop :=
  how.fragments = true → how.invert = false → ∀ text ∈ lines, s.accepts text = true →
    ∃ fs, (s.fragments taggedFields text {}).1 = .ok fs

def pick (s : Session) (how : Selection) (line : Text × Nat) : Option SelectedLine :=
  if s.accepts line.1 = how.invert then none
  else some ⟨line.2, line.1, if how.fragments && s.accepts line.1 then s.found line.1 else []⟩

/-- The numbers, from one on, of the lines that the query matches, or of those that it does not. -/
def numbers (s : Session) (invert : Bool) (lines : List Text) : List Nat :=
  ((lines.zipIdx 1).filter fun l => s.accepts l.1 != invert).map Prod.snd

variable {s : Session} {how : Selection}

theorem gives_eval {text : Text} {b : Bool} (h : (s.eval taggedFields text {}).1 = .ok b) :
    Gives (s.eval taggedFields text) (.ok b) :=
  (transparent_session_eval s taggedFields text).gives Cache.faithful_empty h

theorem gives_fragments {text : Text} {fs : List Fragment}
    (h : (s.fragments taggedFields text {}).1 = .ok fs) :
    Gives (s.fragments taggedFields text) (.ok fs) :=
  (transparent_fragments s taggedFields text).gives Cache.faithful_empty h

theorem accepts_eq {text : Text} {b : Bool} (h : (s.eval taggedFields text {}).1 = .ok b) :
    s.accepts text = b := by
  rw [accepts, h]
  cases b with
  | true => rfl
  | false => rfl

theorem found_eq {text : Text} {fs : List Fragment}
    (h : (s.fragments taggedFields text {}).1 = .ok fs) : s.found text = fs := by
  rw [found, h]
  rfl

/-- A line that can be evaluated is selected or not, on whatever cache. -/
theorem gives_selectLine {lines : List Text} (h : s.Evaluates lines)
    (hfragments : s.FindsFragments how lines) {text : Text} (htext : text ∈ lines) (number : Nat) :
    Gives (s.selectLine how number text) (.ok (s.pick how (text, number))) := by
  obtain ⟨b, hb⟩ := h text htext
  have haccepts := accepts_eq hb
  unfold selectLine pick
  refine (gives_eval hb).bind_ok ?_
  simp only [haccepts]
  by_cases hselected : b = how.invert
  · rw [if_pos hselected, if_pos hselected]
    exact gives_pure none
  · rw [if_neg hselected, if_neg hselected]
    by_cases hsearch : (how.fragments && b) = true
    · rw [if_pos hsearch, if_pos hsearch]
      obtain ⟨hon, rfl⟩ := Bool.and_eq_true_iff.1 hsearch
      have hinvert : how.invert = false := by
        cases hi : how.invert with
        | true => exact absurd hi.symm hselected
        | false => rfl
      obtain ⟨fs, hfs⟩ := hfragments hon hinvert text htext haccepts
      rw [found_eq hfs]
      exact (gives_fragments hfs).bind_ok (gives_pure _)
    · rw [if_neg hsearch, if_neg hsearch]
      exact (gives_pure []).bind_ok (gives_pure _)

theorem pick_eq_some {line : Text × Nat} {l : SelectedLine} (h : s.pick how line = some l) :
    l.number = line.2 ∧ l.text = line.1 ∧ (l.fragments ≠ [] → s.accepts l.text = true) := by
  unfold pick at h
  split at h
  · cases h
  · cases h
    refine ⟨rfl, rfl, fun hfragments => ?_⟩
    by_cases haccepts : s.accepts line.1 = true
    · exact haccepts
    · simp [haccepts] at hfragments

theorem gives_selectLines {all lines : List Text} (h : s.Evaluates all)
    (hfragments : s.FindsFragments how all) (hlines : ∀ text ∈ lines, text ∈ all) (n : Nat) :
    Gives (s.selectLines how n lines) (.ok ((lines.zipIdx n).filterMap (s.pick how))) := by
  induction lines generalizing n with
  | nil => exact gives_pure []
  | cons text rest ih =>
    obtain ⟨htext, hrest⟩ := List.forall_mem_cons.1 hlines
    have hhere := gives_selectLine h hfragments htext n
    unfold selectLines
    refine hhere.bind_ok ((ih hrest (n + 1)).bind_ok ?_)
    rw [List.zipIdx_cons, List.filterMap_cons]
    cases s.pick how (text, n) with
    | none => exact gives_pure _
    | some l => exact gives_pure _

theorem gives_mapM_selectLine {lines : List Text} (h : s.Evaluates lines)
    (hfragments : s.FindsFragments how lines) {work : List (Text × Nat)}
    (hwork : ∀ l ∈ work, l.1 ∈ lines) :
    Gives (work.mapM fun l => s.selectLine how l.2 l.1) (.ok (work.map (s.pick how))) := by
  induction work with
  | nil => exact gives_pure []
  | cons l work ih =>
    obtain ⟨hl, hwork⟩ := List.forall_mem_cons.1 hwork
    rw [List.mapM_cons]
    exact (gives_selectLine h hfragments hl l.2).bind_ok ((ih hwork).bind_ok (gives_pure _))

/-- The numbers of the lines that are selected are those of the lines that are to be. -/
theorem map_number_filterMap_pick (work : List (Text × Nat)) :
    (work.filterMap (s.pick how)).map SelectedLine.number =
      (work.filter fun l => s.accepts l.1 != how.invert).map Prod.snd := by
  induction work with
  | nil => rfl
  | cons l work ih =>
    rw [List.filterMap_cons, List.filter_cons]
    by_cases hselected : s.accepts l.1 = how.invert
    · have hpick : s.pick how l = none := if_pos hselected
      rw [hpick, if_neg (by simp [hselected])]
      exact ih
    · have hpick : ∃ m, s.pick how l = some m ∧ m.number = l.2 := ⟨_, if_neg hselected, rfl⟩
      obtain ⟨m, hm, hnumber⟩ := hpick
      rw [hm, if_pos (by simp [hselected])]
      simp only [List.map_cons, hnumber, ih]

theorem pairwise_numbers (s : Session) (invert : Bool) (lines : List Text) :
    (s.numbers invert lines).Pairwise (· < ·) := by
  have hall : ((lines.zipIdx 1).map Prod.snd).Pairwise (· < ·) := by
    rw [List.zipIdx_map_snd]
    exact List.pairwise_lt_range'
  exact hall.sublist (List.filter_sublist.map Prod.snd)

theorem mem_numbers {invert : Bool} {lines : List Text} {n : Nat} :
    n ∈ s.numbers invert lines ↔
      ∃ text, 1 ≤ n ∧ lines[n - 1]? = some text ∧ s.accepts text ≠ invert := by
  simp only [numbers, List.mem_map, List.mem_filter, bne_iff_ne]
  constructor
  · rintro ⟨l, ⟨hl, haccepts⟩, rfl⟩
    obtain ⟨hle, hget⟩ := List.mem_zipIdx_iff_le_and_getElem?_sub.1 hl
    exact ⟨l.1, hle, hget, haccepts⟩
  · rintro ⟨text, hle, hget, haccepts⟩
    exact ⟨(text, n), ⟨List.mem_zipIdx_iff_le_and_getElem?_sub.2 ⟨hle, hget⟩, haccepts⟩, rfl⟩

theorem numbers_lt_of_mem {invert : Bool} {lines : List Text} {n : Nat}
    (h : n ∈ s.numbers invert lines) : 1 ≤ n ∧ n ≤ lines.length := by
  obtain ⟨text, hle, hget, -⟩ := mem_numbers.1 h
  obtain ⟨hlt, -⟩ := List.getElem?_eq_some_iff.1 hget
  omega

/-- Every line is among those that match or among those that do not, and none is among both. -/
theorem numbers_partition (s : Session) (lines : List Text) :
    (s.numbers false lines).Disjoint (s.numbers true lines) ∧
      ∀ n, n ∈ s.numbers false lines ∨ n ∈ s.numbers true lines ↔ 1 ≤ n ∧ n ≤ lines.length := by
  constructor
  · intro n hplain hinverted
    obtain ⟨text, -, hget, haccepts⟩ := mem_numbers.1 hplain
    obtain ⟨text', -, hget', hrejects⟩ := mem_numbers.1 hinverted
    obtain rfl : text = text' := Option.some.inj (hget.symm.trans hget')
    exact hrejects (Bool.eq_true_of_not_eq_false haccepts)
  · intro n
    constructor
    · rintro (h | h)
      · exact numbers_lt_of_mem h
      · exact numbers_lt_of_mem h
    · rintro ⟨hle, hlt⟩
      have hget : lines[n - 1]? = some lines[n - 1] := List.getElem?_eq_getElem (by omega)
      cases haccepts : s.accepts lines[n - 1] with
      | true => exact .inl (mem_numbers.2 ⟨_, hle, hget, by simp [haccepts]⟩)
      | false => exact .inr (mem_numbers.2 ⟨_, hle, hget, by simp [haccepts]⟩)

/-- Whatever order lines are looked at in, sorting restores the order of the lines: no two of the
selected lines have one number. -/
theorem mergeSort_filterMap_pick {lines : List Text} {work : List (Text × Nat)}
    (h : work.Perm (lines.zipIdx 1)) :
    (work.filterMap (s.pick how)).mergeSort (fun a b => a.number ≤ b.number) =
      (lines.zipIdx 1).filterMap (s.pick how) := by
  have hascending : ((lines.zipIdx 1).filterMap (s.pick how)).Pairwise (·.number < ·.number) := by
    rw [← List.pairwise_map, map_number_filterMap_pick]
    exact pairwise_numbers s how.invert lines
  have hnodup : (((lines.zipIdx 1).filterMap (s.pick how)).map SelectedLine.number).Nodup :=
    (List.pairwise_map.2 hascending).imp Nat.ne_of_lt
  have hperm := (List.mergeSort_perm (work.filterMap (s.pick how))
    (fun a b => a.number ≤ b.number)).trans (h.filterMap (s.pick how))
  have hsorted : ((work.filterMap (s.pick how)).mergeSort fun a b => a.number ≤ b.number).Pairwise
      (·.number ≤ ·.number) := by
    refine (List.pairwise_mergeSort ?_ ?_ _).imp of_decide_eq_true
    · intro a b c hab hbc
      exact decide_eq_true (Nat.le_trans (of_decide_eq_true hab) (of_decide_eq_true hbc))
    · intro a b
      simpa using Nat.le_total a.number b.number
  refine List.Perm.eq_of_pairwise ?_ hsorted (hascending.imp Nat.le_of_lt) hperm
  intro a b ha hb hab hba
  exact List.inj_on_of_nodup_map hnodup (hperm.subset ha) hb (Nat.le_antisymm hab hba)

/-- A report on lines in which those with these numbers are selected. -/
structure Selects (s : Session) (how : Selection) (lines : List Text) (numbers : List Nat)
    (r : FilterReport) : Prop where
  total : r.totalLines = lines.length
  selected : r.selected = numbers.length
  /-- The lines that are reported, or would be without counting only. -/
  listed : ∃ picked : List SelectedLine, r.lines = (if how.count then none else some picked) ∧
    picked.map SelectedLine.number = numbers ∧
    ∀ l ∈ picked, lines[l.number - 1]? = some l.text ∧
      (l.fragments ≠ [] → s.accepts l.text = true)

def reportOf (s : Session) (how : Selection) (lines : List Text) : FilterReport :=
  s.reportSelected how lines.length ((lines.zipIdx 1).filterMap (s.pick how))

theorem selects_reportOf (s : Session) (how : Selection) (lines : List Text) :
    s.Selects how lines (s.numbers how.invert lines) (s.reportOf how lines) where
  total := rfl
  selected := by
    rw [numbers, ← map_number_filterMap_pick, List.length_map]
    rfl
  listed := by
    refine ⟨_, rfl, map_number_filterMap_pick _, fun l hl => ?_⟩
    obtain ⟨line, hline, hpick⟩ := List.mem_filterMap.1 hl
    obtain ⟨hnumber, htext, hfragments⟩ := pick_eq_some hpick
    rw [hnumber, htext]
    exact ⟨(List.mem_zipIdx_iff_le_and_getElem?_sub.1 hline).2, htext ▸ hfragments⟩

theorem gives_filterReport {lines : List Text} (h : s.Evaluates lines)
    (hfragments : s.FindsFragments how lines) :
    Gives (s.filterReport how lines) (.ok (s.reportOf how lines)) :=
  (gives_selectLines h hfragments (fun _ => id) 1).bind_ok (gives_pure _)

theorem gives_scatteredReport {lines : List Text} (h : s.Evaluates lines)
    (hfragments : s.FindsFragments how lines) {work : List (Text × Nat)}
    (hwork : work.Perm (lines.zipIdx 1)) :
    Gives (s.scatteredReport how work) (.ok (s.reportOf how lines)) := by
  have hmem : ∀ l ∈ work, l.1 ∈ lines := fun l hl =>
    List.fst_mem_of_mem_zipIdx (hwork.subset hl)
  have hselected : Gives (s.selectScattered how work)
      (.ok ((lines.zipIdx 1).filterMap (s.pick how))) := by
    refine (gives_mapM_selectLine h hfragments hmem).bind_ok ?_
    rw [List.filterMap_map, Function.id_comp, mergeSort_filterMap_pick hwork]
    exact gives_pure _
  refine hselected.bind_ok ?_
  rw [hwork.length_eq, List.length_zipIdx]
  exact gives_pure _

/-- Looking at lines side by side or one after the other makes no difference. -/
theorem gives_report_filter {input : Text} {invert count fragments : Bool}
    (h : s.Evaluates input.lines)
    (hfragments : s.FindsFragments ⟨invert, count, fragments⟩ input.lines) (schedule : Schedule)
    (query : Text) (file : Option Text) (parallel : Bool) :
    Gives (CommandLine.Command.report s input schedule
        (.filter query file invert count parallel fragments))
      (.ok (.filter (s.reportOf ⟨invert, count, fragments⟩ input.lines))) := by
  unfold CommandLine.Command.report
  cases parallel with
  | false => exact (gives_filterReport h hfragments).bind_ok (gives_pure _)
  | true => exact (gives_scatteredReport h hfragments (schedule.perm _)).bind_ok (gives_pure _)

/-- The lines of a text that filtering selects and those that inverted filtering selects are a
partition of them, whatever else is asked for, and on whatever schedule they are looked at side by
side. -/
theorem filter_partition {input : Text} (h : s.Evaluates input.lines) :
    (∀ invert, (s.numbers invert input.lines).Pairwise (· < ·)) ∧
    (s.numbers false input.lines).Disjoint (s.numbers true input.lines) ∧
    (∀ n, n ∈ s.numbers false input.lines ∨ n ∈ s.numbers true input.lines ↔
      1 ≤ n ∧ n ≤ input.lines.length) ∧
    ∀ (query : Text) (file : Option Text) (invert count parallel fragments : Bool),
      s.FindsFragments ⟨invert, count, fragments⟩ input.lines →
      ∃ r : FilterReport, s.Selects ⟨invert, count, fragments⟩ input.lines
          (s.numbers invert input.lines) r ∧
        ((Report.filter r).success = true ↔ 0 < r.selected) ∧
        (∀ c : Cache, c.Faithful → ∀ schedule : Schedule,
          (CommandLine.Command.report s input schedule
            (.filter query file invert count parallel fragments) c).1 = .ok (.filter r)) ∧
        ∀ c : Cache, c.Faithful → ∀ work : List (Text × Nat), work.Perm (input.lines.zipIdx 1) →
          (s.scatteredReport ⟨invert, count, fragments⟩ work c).1 = .ok r := by
  obtain ⟨hdisjoint, hcover⟩ := s.numbers_partition input.lines
  refine ⟨fun invert => pairwise_numbers s invert input.lines, hdisjoint, hcover, ?_⟩
  intro query file invert count parallel fragments hfragments
  refine ⟨_, selects_reportOf s _ input.lines, decide_eq_true_iff, ?_, ?_⟩
  · intro c hc schedule
    exact (gives_report_filter h hfragments schedule query file parallel c hc).1
  · intro c hc work hwork
    exact (gives_scatteredReport h hfragments hwork c hc).1

/-- Two lines of three match, one of them twice; they are looked at from the last to the first. -/
theorem filter_partition_hyphen :
    let s : Session := {
      root := some (.word ['b'])
      resolved := ⟨{ delimiters := [.literal ['-']] }, ['(', '?', ':', '\\', '-', ')']⟩ }
    let input : Text := ['b', '-', 'b', '\n', 'a', '\n', 'b']
    let how : Selection := ⟨false, false, true⟩
    s.numbers false input.lines = [1, 3] ∧ s.numbers true input.lines = [2] ∧
      (s.numbers false input.lines).Disjoint (s.numbers true input.lines) ∧
      ∃ r : FilterReport, s.Selects how input.lines [1, 3] r ∧ (Report.filter r).success = true ∧
        (CommandLine.Command.report s input ⟨List.reverse, List.reverse_perm⟩
          (.filter ['b'] none false false true true) {}).1 = .ok (.filter r) ∧
        (s.scatteredReport how [(['b'], 3), (['a'], 2), (['b', '-', 'b'], 1)] {}).1 = .ok r := by
  intro s input how
  have hlines : input.lines = [['b', '-', 'b'], ['a'], ['b']] := by decide +kernel
  have hcases : ∀ text ∈ input.lines, text = ['b', '-', 'b'] ∨ text = ['a'] ∨ text = ['b'] := by
    simp only [hlines, List.mem_cons, List.not_mem_nil, or_false]
    exact fun text => id
  have hall : s.Evaluates input.lines := by
    intro text htext
    rcases hcases text htext with rfl | rfl | rfl
    · exact ⟨true, by decide +kernel⟩
    · exact ⟨false, by decide +kernel⟩
    · exact ⟨true, by decide +kernel⟩
  have hfinds : s.FindsFragments how input.lines := by
    intro _ _ text htext haccepts
    rcases hcases text htext with rfl | rfl | rfl
    · exact ⟨s.found ['b', '-', 'b'], by decide +kernel⟩
    · exact absurd haccepts (by decide +kernel)
    · exact ⟨s.found ['b'], by decide +kernel⟩
  have hnumbers : s.numbers false input.lines = [1, 3] := by decide +kernel
  obtain ⟨-, hdisjoint, -, hreports⟩ := filter_partition hall
  obtain ⟨r, hr, hsuccess, hreport, hscattered⟩ :=
    hreports ['b'] none false false true true hfinds
  rw [hnumbers] at hr
  refine ⟨hnumbers, by decide +kernel, hdisjoint, r, hr, ?_, hreport {} Cache.faithful_empty _, ?_⟩
  · rw [hsuccess, hr.selected]
    decide
  · refine hscattered {} Cache.faithful_empty _ ?_
    rw [hlines]
    exact List.reverse_perm [(['b', '-', 'b'], 1), (['a'], 2), (['b'], 3)]

end Session

end TextSieve
