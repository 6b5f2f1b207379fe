import TextSieve.Text

/-! Where the reading of a query stopped, and what it expected there. -/

namespace TextSieve

/-- What a query should have gone on with. -/
inductive Expectation
  | endOfInput
  | term
  | fieldValue
  | phraseText
  | patternText
  | closingParenthesis
  | closingQuote
  | closingSlash
  | shallowerNesting
  /-- An expectation of a caller of the library. -/
  | described (text : Text)
deriving DecidableEq, Repr

def Expectation.text : Expectation → Text
  | endOfInput => "end of input".toList
  | term => "term".toList
  | fieldValue => "field value".toList
  | phraseText => "phrase text".toList
  | patternText => "pattern text".toList
  | closingParenthesis => "')'".toList
  | closingQuote => "'\"'".toList
  | closingSlash => "'/'".toList
  | shallowerNesting => "shallower nesting".toList
  | described text => text

/-- A place in a query, as an offset and as a line and a column counted from one, and what was
expected there. -/
structure Failure where
  index : Nat
  line : Nat
  column : Nat
  expected : Expectation
deriving DecidableEq, Repr

namespace Failure

/-- The failure right behind the part `before` of a query. -/
def behind (before : Text) (expected : Expectation) : Failure where
  index := before.size
  line := before.count '\n' + 1
  column := (before.reverse.takeWhile (· != '\n')).length + 1
  expected := expected

/-- The place in words. -/
def place (f : Failure) : Text :=
  " at line ".toList ++ Text.ofNat f.line ++ ", column ".toList ++ Text.ofNat f.column

def message (f : Failure) : Text :=
  "expected ".toList ++ f.expected.text ++ f.place

/-- Several failures at one place in words. -/
def describe : List Failure → Text
  | [] => "no diagnostics".toList
  | f :: rest =>
    "expected ".toList ++
      Text.join " or ".toList ((f :: rest).map fun f => f.expected.text) ++ f.place

end Failure

end TextSieve
