import TextSieve.Session

/-!
Reports: what a command found, and how a reader is shown it. Lines of output end in a line feed.
-/

namespace TextSieve

/-- Whether a text matched. -/
structure TextMatch where
  text : Text
  matched : Bool
deriving DecidableEq, Repr

structure MatchReport where
  query : Text
  results : List TextMatch
deriving DecidableEq, Repr

structure SelectedLine where
  number : Nat
  text : Text
  fragments : List Fragment
deriving DecidableEq, Repr

structure FilterReport where
  query : Text
  totalLines : Nat
  selected : Nat
  /-- `none` if only the number was asked for. -/
  lines : Option (List SelectedLine)
  milliseconds : Nat
deriving DecidableEq, Repr

structure TermsReport where
  query : Text
  terms : List Text
deriving DecidableEq, Repr

/-- A leaf with its pattern, or with the reason why it has none. -/
structure LeafReport where
  term : Text
  pattern : Option Text
  error : Option Text
deriving DecidableEq, Repr

structure Explanation where
  query : Text
  delimiter : Text
  ignoreCase : Bool
  tree : Query
  leaves : List LeafReport
deriving DecidableEq, Repr

/-- A line of output. -/
def line (parts : List Text) : Text :=
  parts.flatten ++ ['\n']

namespace MatchReport

/-- From verbosity two on the query is shown. -/
def human (verbosity : Nat) (r : MatchReport) : Text :=
  (if 1 < verbosity then line ["Query: ".toList, r.query] else []) ++
    r.results.flatMap fun m =>
      line [(if m.matched then "match\t" else "no match\t").toList, m.text]

end MatchReport

def Fragment.human (f : Fragment) : Text :=
  line ["    ".toList, Text.ofNat f.span.start, "..".toList, Text.ofNat f.span.stop, [' '], f.text,
    " (".toList, f.term, ")".toList]

namespace SelectedLine

def human (verbosity : Nat) (l : SelectedLine) : Text :=
  line [if 1 < verbosity then Text.ofNat l.number ++ [':'] else [], l.text] ++
    l.fragments.flatMap Fragment.human

end SelectedLine

namespace FilterReport

def human (verbosity : Nat) (r : FilterReport) : Text :=
  match r.lines with
  | none => line [Text.ofNat r.selected]
  | some lines =>
    lines.flatMap (SelectedLine.human verbosity) ++
      if 1 < verbosity then
        line ["Selected ".toList, Text.ofNat r.selected, " of ".toList, Text.ofNat r.totalLines,
          " lines in ".toList, Text.ofNat r.milliseconds, "ms".toList]
      else []

end FilterReport

def TermsReport.human (r : TermsReport) : Text :=
  r.terms.flatMap fun t => line [t]

namespace LeafReport

/-- The terms are filled up to one width. -/
def human (l : LeafReport) : Text :=
  match l.pattern, l.error with
  | some pattern, _ => line ["  ".toList, l.term.padRight 20, [' '], pattern]
  | none, some error => line ["  ".toList, l.term.padRight 20, " error: ".toList, error]
  | none, none => line ["  ".toList, l.term]

end LeafReport

namespace Query

def leafTitle (l : Leaf) : Text :=
  match l.kind with
  | .word => "Word ".toList ++ l.text
  | .pattern => "Pattern ".toList ++ l.text
  | .phrase => "Phrase \"".toList ++ l.text ++ ['"']

/-- A line of an outline. -/
def outlineLine (level : Nat) (title : Text) : Text :=
  line [List.replicate (2 * level) ' ', title]

mutual
/-- The tree, one node to a line, each below the node it belongs to. -/
def outline (level : Nat) : Query → Text
  | leaf l => outlineLine level (leafTitle l)
  | field name _ q => outlineLine level ("Field ".toList ++ name) ++ outline (level + 1) q
  | not q => outlineLine level "Not".toList ++ outline (level + 1) q
  | group q => outlineLine level "Group".toList ++ outline (level + 1) q
  | and qs => outlineLine level "And".toList ++ outlineAll (level + 1) qs
  | or qs => outlineLine level "Or".toList ++ outlineAll (level + 1) qs

def outlineAll (level : Nat) : List Query → Text
  | [] => []
  | q :: qs => outline level q ++ outlineAll level qs
end

end Query

namespace Explanation

def human (e : Explanation) : Text :=
  line ["Query:       ".toList, e.query] ++
  line ["Delimiter:   ".toList, e.delimiter] ++
  line ["Ignore case: ".toList, (if e.ignoreCase then "true" else "false").toList] ++
  line [] ++
  line ["Tree:".toList] ++
  e.tree.outline 1 ++
  line [] ++
  line ["Terms:".toList] ++
  e.leaves.flatMap LeafReport.human

end Explanation

inductive Report
  | texts (r : MatchReport)
  | filter (r : FilterReport)
  | terms (r : TermsReport)
  | explanation (e : Explanation)
deriving DecidableEq, Repr

/-- The report for a reader. -/
def Report.human (verbosity : Nat) : Report → Text
  | texts r => r.human verbosity
  | filter r => r.human verbosity
  | terms r => r.human
  | explanation e => e.human

/-- Whether anything was found. To list or explain a query always succeeds. -/
def Report.success : Report → Bool
  | texts r => r.results.any (·.matched)
  | filter r => 0 < r.selected
  | terms _ | explanation _ => true

/-- The report of a command that took some time. Only filtering tells it. -/
def Report.lasting (milliseconds : Nat) : Report → Report
  | filter r => .filter { r with milliseconds := milliseconds }
  | r => r

/-! ### Making reports -/

/-- How lines are selected, and what is reported of them. -/
structure Selection where
  /-- Select the lines that do not match. -/
  invert : Bool := false
  /-- Report only how many there are. -/
  count : Bool := false
  /-- Report what matched in each line. -/
  fragments : Bool := false
deriving DecidableEq, Repr

/-- An order in which numbered lines are taken up when they are looked at side by side. -/
structure Schedule where
  order : List (Text × Nat) → List (Text × Nat)
  perm : ∀ work, (order work).Perm work

/-- One line after the other. -/
def Schedule.inTurn : Schedule := ⟨id, List.Perm.refl⟩

namespace Session

/-- The query in writing, which is empty if there is none. -/
def display (s : Session) : Text :=
  (s.root.map Query.display).getD []

def matchText (s : Session) (text : Text) : Cached TextMatch := do
  return ⟨text, ← s.eval taggedFields text⟩

def matchReport (s : Session) (texts : List Text) : Cached MatchReport := do
  return ⟨s.display, ← texts.mapM s.matchText⟩

/-- The line, if it is selected. -/
def selectLine (s : Session) (how : Selection) (number : Nat) (text : Text) :
    Cached (Option SelectedLine) := do
  let matched ← s.eval taggedFields text
  if matched = how.invert then return none
  let fragments ← if how.fragments && matched then s.fragments taggedFields text else pure []
  return some ⟨number, text, fragments⟩

/-- The selected lines of a text, the first of which has the given number. -/
def selectLines (s : Session) (how : Selection) (number : Nat) :
    List Text → Cached (List SelectedLine)
  | [] => return []
  | text :: rest => do
    let here ← s.selectLine how number text
    return here.toList ++ (← selectLines s how (number + 1) rest)

/-- Selects among numbered lines in the order in which they are given, and puts what was selected
into the order of the numbers. -/
def selectScattered (s : Session) (how : Selection) (work : List (Text × Nat)) :
    Cached (List SelectedLine) := do
  let picked ← work.mapM fun l => s.selectLine how l.2 l.1
  return (picked.filterMap id).mergeSort fun a b => a.number ≤ b.number

/-- The report on so many lines, of which some have been selected. -/
def reportSelected (s : Session) (how : Selection) (total : Nat) (selected : List SelectedLine) :
    FilterReport where
  query := s.display
  totalLines := total
  selected := selected.length
  lines := if how.count then none else some selected
  milliseconds := 0

def filterReport (s : Session) (how : Selection) (lines : List Text) : Cached FilterReport := do
  return s.reportSelected how lines.length (← s.selectLines how 1 lines)

/-- The report on numbered lines that are looked at in the order in which they are given. -/
def scatteredReport (s : Session) (how : Selection) (work : List (Text × Nat)) :
    Cached FilterReport := do
  return s.reportSelected how work.length (← s.selectScattered how work)

def termsReport (s : Session) : Except Error TermsReport :=
  s.terms.map fun terms => ⟨s.display, terms⟩

def leafReport (l : Leaf) : Except Error CompiledTerm → LeafReport
  | .ok t => ⟨Query.displayLeaf l, some t.pattern, none⟩
  | .error e => ⟨Query.displayLeaf l, none, some e.message⟩

def explanation (s : Session) : Cached Explanation := do
  let tree ← liftExcept s.query
  let leaves ← s.compileTerms
  return {
    query := tree.display
    delimiter := s.resolved.fragment
    ignoreCase := s.resolved.options.ignoreCase
    tree := tree
    leaves := leaves.map fun (l, t) => leafReport l t }

end Session

end TextSieve
