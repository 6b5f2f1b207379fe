import TextSieve.Json.Query
import TextSieve.Report

/-! Reports as JSON. Parts that a report does not have are left out. -/

namespace TextSieve

open Json (needed? optional? withDefault? listOf? text? bool? natural?)

/-- A member that is left out if there is nothing to write. -/
def Json.optionalMember {α : Type} (name : String) (toJson : α → Json) :
    Option α → List (String × Json)
  | none => []
  | some a => [(name, toJson a)]

namespace Fragment

def toJson (f : Fragment) : Json :=
  .record [("term", .text f.term), ("start", .natural f.span.start), ("end", .natural f.span.stop),
    ("text", .text f.text)]

def ofJson? (j : Json) : Option Fragment :=
  match j.fields? ["term", "start", "end", "text"] with
  | some ⟨_, [term, start, stop, text]⟩ => do
    return ⟨← needed? text? term, ⟨← needed? natural? start, ← needed? natural? stop⟩,
      ← needed? text? text⟩
  | _ => none

end Fragment

namespace TextMatch

def toJson (m : TextMatch) : Json :=
  .record [("text", .text m.text), ("matched", .bool m.matched)]

def ofJson? (j : Json) : Option TextMatch :=
  match j.fields? ["text", "matched"] with
  | some ⟨_, [text, matched]⟩ => do return ⟨← needed? text? text, ← needed? bool? matched⟩
  | _ => none

end TextMatch

namespace MatchReport

def toJson (r : MatchReport) : Json :=
  .record [("query", .text r.query), ("results", .array (r.results.map TextMatch.toJson))]

def ofJson? (j : Json) : Option MatchReport :=
  match j.fields? ["query", "results"] with
  | some ⟨_, [query, results]⟩ => do
    return ⟨← needed? text? query, ← needed? (listOf? TextMatch.ofJson?) results⟩
  | _ => none

end MatchReport

namespace SelectedLine

def toJson (l : SelectedLine) : Json :=
  .record ([("line_number", .natural l.number), ("text", .text l.text)] ++
    if l.fragments = [] then [] else [("fragments", .array (l.fragments.map Fragment.toJson))])

def ofJson? (j : Json) : Option SelectedLine :=
  match j.fields? ["line_number", "text", "fragments"] with
  | some ⟨_, [number, text, fragments]⟩ => do
    return ⟨← needed? natural? number, ← needed? text? text,
      ← withDefault? [] (listOf? Fragment.ofJson?) fragments⟩
  | _ => none

end SelectedLine

namespace FilterReport

def toJson (r : FilterReport) : Json :=
  .record (
    [("query", .text r.query), ("total_lines", .natural r.totalLines),
      ("selected", .natural r.selected)] ++
    Json.optionalMember "lines" (fun lines => .array (lines.map SelectedLine.toJson)) r.lines ++
    [("duration_ms", .natural r.milliseconds)])

def ofJson? (j : Json) : Option FilterReport :=
  match j.fields? ["query", "total_lines", "selected", "lines", "duration_ms"] with
  | some ⟨byOrder, [query, totalLines, selected, lines, milliseconds]⟩ => do
    return {
      query := ← needed? text? query
      totalLines := ← needed? natural? totalLines
      selected := ← needed? natural? selected
      lines := ← optional? byOrder (listOf? SelectedLine.ofJson?) lines
      milliseconds := ← needed? natural? milliseconds }
  | _ => none

end FilterReport

namespace TermsReport

def toJson (r : TermsReport) : Json :=
  .record [("query", .text r.query), ("terms", .array (r.terms.map Json.text))]

def ofJson? (j : Json) : Option TermsReport :=
  match j.fields? ["query", "terms"] with
  | some ⟨_, [query, terms]⟩ => do
    return ⟨← needed? text? query, ← needed? (listOf? text?) terms⟩
  | _ => none

end TermsReport

namespace LeafReport

def toJson (l : LeafReport) : Json :=
  .record ([("term", .text l.term)] ++ Json.optionalMember "pattern" Json.text l.pattern ++
    Json.optionalMember "error" Json.text l.error)

def ofJson? (j : Json) : Option LeafReport :=
  match j.fields? ["term", "pattern", "error"] with
  | some ⟨byOrder, [term, pattern, error]⟩ => do
    return ⟨← needed? text? term, ← optional? byOrder text? pattern,
      ← optional? byOrder text? error⟩
  | _ => none

end LeafReport

namespace Explanation

def toJson (e : Explanation) : Json :=
  .record [("query", .text e.query), ("delimiter", .text e.delimiter),
    ("ignore_case", .bool e.ignoreCase), ("ast", e.tree.toJson),
    ("leaves", .array (e.leaves.map LeafReport.toJson))]

def ofJson? (j : Json) : Option Explanation :=
  match j.fields? ["query", "delimiter", "ignore_case", "ast", "leaves"] with
  | some ⟨_, [query, delimiter, ignoreCase, tree, leaves]⟩ => do
    return {
      query := ← needed? text? query
      delimiter := ← needed? text? delimiter
      ignoreCase := ← needed? bool? ignoreCase
      tree := ← needed? Query.ofJson? tree
      leaves := ← needed? (listOf? LeafReport.ofJson?) leaves }
  | _ => none

end Explanation

def Report.toJson : Report → Json
  | texts r => r.toJson
  | filter r => r.toJson
  | terms r => r.toJson
  | explanation e => e.toJson

end TextSieve
