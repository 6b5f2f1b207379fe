import TextSieve.Json.Report
import TextSieve.Proofs.Json.Overrides

/-! Options, trees and reports as JSON. Each is read back from the value it is written as, with the
parts that the writing leaves out. Only the counts of a report have a limit, which is that of 64
bits. -/

namespace TextSieve

namespace Json

variable {α : Type} {write : α → Json} {read? : Json → Option α}

/-- A list is read back exactly if each of its items is. -/
theorem listOf?_map_iff {as : List α} :
    listOf? read? (array (as.map write)) = some as ↔ ∀ a ∈ as, read? (write a) = some a := by
  rw [listOf?, items?, Option.bind_some]
  induction as with
  | nil => simp
  | cons a as ih =>
    rw [List.map_cons, List.mapM_cons, List.forall_mem_cons, ← ih]
    simp [Option.bind_eq_some_iff]

/-- A list is read item by item. -/
theorem listOf?_cons (j : Json) (items : List Json) :
    listOf? read? (array (j :: items)) =
      (read? j).bind fun a => (listOf? read? (array items)).map (a :: ·) := by
  simp only [listOf?, items?, Option.bind_some, List.mapM_cons, Option.bind_eq_bind,
    Option.pure_def, Option.map_eq_bind]
  rfl

theorem natural?_natural_iff {n m : Nat} :
    natural? (natural n) = some m ↔ n < Nat.pow 2 64 ∧ n = m := by
  rw [natural, natural?]
  split <;> simp [*]

end Json

open Json (listOf? needed? optional? withDefault? natural?)

theorem Options.ofJson?_toJson (o : Options) : ofJson? o.toJson = some o := by
  obtain ⟨delimiters, ignoreCase, attributeDelimiter, regexp⟩ := o
  have hdelimiters : Delimiter.oneOrMore? (.array (delimiters.map Delimiter.toJson)) =
      some delimiters := Delimiter.listOfJson?_array delimiters
  have hattribute : Json.orNull? Json.text? (.textOrNull attributeDelimiter) =
      some attributeDelimiter := by
    cases attributeDelimiter <;> rfl
  have hfields : (toJson ⟨delimiters, ignoreCase, attributeDelimiter, regexp⟩).fields? fieldNames =
      some ⟨false, [some (.array (delimiters.map Delimiter.toJson)), some (.bool ignoreCase),
        some (.textOrNull attributeDelimiter), some (.bool regexp)]⟩ := rfl
  rw [ofJson?, hfields]
  simp [withDefault?, hdelimiters, hattribute, Json.bool?_bool]

namespace Query

theorem le_depthOfMembers {name : Option Text} {j : Json} {members : List (Option Text × Json)}
    (h : (name, j) ∈ members) : j.depth ≤ Json.depthOfMembers members := by
  induction members with
  | nil => cases h
  | cons m members ih =>
    rw [Json.depthOfMembers]
    rcases List.mem_cons.1 h with rfl | h
    · exact Nat.le_max_left _ _
    · exact Nat.le_trans (ih h) (Nat.le_max_right _ _)

/-- A level for a node leaves the levels for what stands in it. -/
theorem exists_levels {type : String} (name : String) {fields : List (String × Json)} {j : Json}
    {n : Nat} (hmem : (name, j) ∈ fields) (h : (node type fields).depth ≤ n) :
    ∃ m, n = m + 1 ∧ j.depth ≤ m := by
  have hmember : (some name.toList, j) ∈ (("type", Json.text type.toList) :: fields).map
      fun field => (some field.1.toList, field.2) :=
    List.mem_map.2 ⟨(name, j), List.mem_cons_of_mem _ hmem, rfl⟩
  have hlt : j.depth < n := Nat.lt_of_lt_of_le (Nat.lt_succ_of_le (le_depthOfMembers hmember)) h
  exact ⟨n - 1, by omega, by omega⟩

mutual
/-- A node is read by the reader of the nodes below it, for which its depth leaves enough levels. -/
theorem ofNode?_toJson (q : Query) (numbered : Bool) {n : Nat} (h : q.toJson.depth ≤ n) :
    ofNode? numbered n q.toJson = some q := by
  cases q with
  | leaf l =>
    obtain ⟨kind, text⟩ := l
    have hpos : 0 < n := by cases kind <;> exact h
    obtain ⟨n, rfl⟩ := Nat.exists_eq_add_of_lt hpos
    cases kind <;> rfl
  | field name d q =>
    rw [toJson] at h
    obtain ⟨n, rfl, hle⟩ := exists_levels "inner" (j := q.toJson) (by simp) h
    have hinner := ofNode?_toJson q true hle
    have hread : ofNode? numbered (n + 1) (field name d q).toJson =
        (ofNode? true n q.toJson).bind fun q => some (field name d q) := rfl
    rw [hread, hinner]
    rfl
  | not q =>
    rw [toJson] at h
    obtain ⟨n, rfl, hle⟩ := exists_levels "child" List.mem_cons_self h
    exact congrArg (Option.map not) (ofNode?_toJson q true hle)
  | and qs =>
    rw [toJson] at h
    obtain ⟨n, rfl, hle⟩ := exists_levels "children" List.mem_cons_self h
    exact congrArg (Option.map and) (listOf?_listJson qs (Nat.le_of_succ_le hle))
  | or qs =>
    rw [toJson] at h
    obtain ⟨n, rfl, hle⟩ := exists_levels "children" List.mem_cons_self h
    exact congrArg (Option.map or) (listOf?_listJson qs (Nat.le_of_succ_le hle))
  | group q =>
    rw [toJson] at h
    obtain ⟨n, rfl, hle⟩ := exists_levels "child" List.mem_cons_self h
    exact congrArg (Option.map group) (ofNode?_toJson q true hle)

theorem listOf?_listJson (qs : List Query) {n : Nat} (h : Json.depthOfItems (listJson qs) ≤ n) :
    listOf? (ofNode? true n) (.array (listJson qs)) = some qs := by
  cases qs with
  | nil => rfl
  | cons q qs =>
    rw [listJson, Json.depthOfItems, Nat.max_le] at h
    rw [listJson, Json.listOf?_cons, ofNode?_toJson q true h.1, listOf?_listJson qs h.2]
    rfl
end

theorem ofJson?_toJson (q : Query) : ofJson? q.toJson = some q :=
  ofNode?_toJson q false (Nat.le_refl _)

end Query

theorem TextMatch.ofJson?_toJson (m : TextMatch) : ofJson? m.toJson = some m := rfl

theorem MatchReport.ofJson?_toJson (r : MatchReport) : ofJson? r.toJson = some r := by
  have hresults := Json.listOf?_map TextMatch.ofJson?_toJson r.results
  have hfields : r.toJson.fields? ["query", "results"] =
      some ⟨false, [some (.text r.query), some (.array (r.results.map TextMatch.toJson))]⟩ := rfl
  rw [ofJson?, hfields]
  simp [needed?, Json.text?_text, hresults]

theorem TermsReport.ofJson?_toJson (r : TermsReport) : ofJson? r.toJson = some r := by
  have hterms := Json.listOf?_map Json.text?_text r.terms
  have hfields : r.toJson.fields? ["query", "terms"] =
      some ⟨false, [some (.text r.query), some (.array (r.terms.map Json.text))]⟩ := rfl
  rw [ofJson?, hfields]
  simp [needed?, Json.text?_text, hterms]

/-- A leaf has a pattern, an error, both or neither: what it lacks is no member of its value. -/
theorem LeafReport.ofJson?_toJson (l : LeafReport) : ofJson? l.toJson = some l := by
  obtain ⟨term, pattern, error⟩ := l
  cases pattern <;> cases error <;> rfl

theorem Explanation.ofJson?_toJson (e : Explanation) : ofJson? e.toJson = some e := by
  have hleaves := Json.listOf?_map LeafReport.ofJson?_toJson e.leaves
  have hfields : e.toJson.fields? ["query", "delimiter", "ignore_case", "ast", "leaves"] =
      some ⟨false, [some (.text e.query), some (.text e.delimiter), some (.bool e.ignoreCase),
        some e.tree.toJson, some (.array (e.leaves.map LeafReport.toJson))]⟩ := rfl
  rw [ofJson?, hfields]
  simp [needed?, Json.text?_text, Json.bool?_bool, Query.ofJson?_toJson, hleaves]

def Fragment.Counted (f : Fragment) : Prop :=
  f.span.start < Nat.pow 2 64 ∧ f.span.stop < Nat.pow 2 64

def SelectedLine.Counted (l : SelectedLine) : Prop :=
  l.number < Nat.pow 2 64 ∧ ∀ f ∈ l.fragments, f.Counted

/-- All counts of the report are of 64 bits. -/
def FilterReport.Counted (r : FilterReport) : Prop :=
  r.totalLines < Nat.pow 2 64 ∧ r.selected < Nat.pow 2 64 ∧
    (∀ lines ∈ r.lines, ∀ l ∈ lines, l.Counted) ∧ r.milliseconds < Nat.pow 2 64

theorem Fragment.ofJson?_toJson_iff (f : Fragment) : ofJson? f.toJson = some f ↔ f.Counted := by
  have hfields : f.toJson.fields? ["term", "start", "end", "text"] =
      some ⟨false, [some (.text f.term), some (.natural f.span.start),
        some (.natural f.span.stop), some (.text f.text)]⟩ := rfl
  rw [ofJson?, hfields]
  simp [needed?, Json.text?_text, Option.bind_eq_some_iff, Json.natural?_natural_iff, Counted,
    and_assoc]

theorem SelectedLine.ofJson?_toJson_iff (l : SelectedLine) :
    ofJson? l.toJson = some l ↔ l.Counted := by
  obtain ⟨number, text, fragments⟩ := l
  have hfragments : withDefault? [] (listOf? Fragment.ofJson?)
      (if fragments = [] then none else some (.array (fragments.map Fragment.toJson))) =
        some fragments ↔ ∀ f ∈ fragments, f.Counted := by
    simp only [← Fragment.ofJson?_toJson_iff]
    by_cases hnone : fragments = []
    · simp [hnone, withDefault?]
    · rw [if_neg hnone]
      exact Json.listOf?_map_iff
  have hfields : (toJson ⟨number, text, fragments⟩).fields? ["line_number", "text", "fragments"] =
      some ⟨false, [some (.natural number), some (.text text),
        if fragments = [] then none else some (.array (fragments.map Fragment.toJson))]⟩ := by
    cases fragments <;> rfl
  rw [ofJson?, hfields]
  simp [needed?, Json.text?_text, Option.bind_eq_some_iff, Json.natural?_natural_iff, Counted,
    hfragments]

theorem FilterReport.ofJson?_toJson_iff (r : FilterReport) :
    ofJson? r.toJson = some r ↔ r.Counted := by
  obtain ⟨query, totalLines, selected, lines, milliseconds⟩ := r
  have hlines : optional? false (listOf? SelectedLine.ofJson?)
      (lines.map fun lines => .array (lines.map SelectedLine.toJson)) = some lines ↔
        ∀ given ∈ lines, ∀ l ∈ given, l.Counted := by
    simp only [← SelectedLine.ofJson?_toJson_iff]
    cases lines with
    | none => simp [optional?]
    | some given =>
      have hread : optional? false (listOf? SelectedLine.ofJson?)
          (some (.array (given.map SelectedLine.toJson))) =
            (listOf? SelectedLine.ofJson? (.array (given.map SelectedLine.toJson))).map some := rfl
      rw [Option.map_some, hread, Option.map_eq_some_iff]
      simp [Json.listOf?_map_iff]
  have hfields : (toJson ⟨query, totalLines, selected, lines, milliseconds⟩).fields?
      ["query", "total_lines", "selected", "lines", "duration_ms"] =
        some ⟨false, [some (.text query), some (.natural totalLines), some (.natural selected),
          lines.map fun lines => .array (lines.map SelectedLine.toJson),
          some (.natural milliseconds)]⟩ := by
    cases lines <;> rfl
  rw [ofJson?, hfields]
  simp [needed?, Json.text?_text, Option.bind_eq_some_iff, Json.natural?_natural_iff, Counted,
    hlines]

/-- Whatever has been written as JSON is read back as it was. Of a report with counts that is so
exactly if they are of 64 bits. -/
theorem read_of_written :
    (∀ d : Delimiter, Delimiter.ofJson? d.toJson = some d) ∧
      (∀ o : Options, Options.ofJson? o.toJson = some o) ∧
      (∀ q : Query, Query.ofJson? q.toJson = some q) ∧
      (∀ r : MatchReport, MatchReport.ofJson? r.toJson = some r) ∧
      (∀ r : FilterReport, FilterReport.ofJson? r.toJson = some r ↔ r.Counted) ∧
      (∀ r : TermsReport, TermsReport.ofJson? r.toJson = some r) ∧
      ∀ e : Explanation, Explanation.ofJson? e.toJson = some e :=
  ⟨Delimiter.ofJson?_toJson, Options.ofJson?_toJson, Query.ofJson?_toJson,
    MatchReport.ofJson?_toJson, FilterReport.ofJson?_toJson_iff, TermsReport.ofJson?_toJson,
    Explanation.ofJson?_toJson⟩

end TextSieve
