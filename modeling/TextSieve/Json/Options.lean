import TextSieve.Json.Reader
import TextSieve.Json.Record
import TextSieve.Options

/-! Delimiters, options and overrides as JSON. -/

namespace TextSieve

namespace Delimiter

/-- A literal is a string, a pattern an object with the pattern in it. -/
def toJson : Delimiter → Json
  | literal text => .text text
  | pattern source => .record [("pattern", .text source)]

/-- Reads a delimiter; a value with a part that cannot be told exactly is refused. -/
def ofJson? (j : Json) : Option Delimiter :=
  if j.isSound then
    match j with
    | .string t => t.map literal
    | .object _ =>
      match j.fields? ["pattern"] with
      | some ⟨_, [source]⟩ => (Json.needed? Json.text? source).map pattern
      | _ => none
    | _ => none
  else none

/-- The deepest nesting of a delimiter, or of a list of them. -/
def depthLimit : Nat := 126

def listOfJson? (j : Json) : Option (List Delimiter) :=
  if j.depth ≤ depthLimit then Json.listOf? ofJson? j else none

/-- One delimiter or a list of them. -/
def oneOrMore? (j : Json) : Option (List Delimiter) :=
  match j with
  | .array _ => listOfJson? j
  | _ => if j.depth ≤ depthLimit then (ofJson? j).map ([·]) else none

end Delimiter

namespace Options

/-- The names of the options, in their order. -/
def fieldNames : List String := ["delimiter", "ignore_case", "attribute_delimiter", "regexp"]

def toJson (o : Options) : Json :=
  .record [
    ("delimiter", .array (o.delimiters.map Delimiter.toJson)),
    ("ignore_case", .bool o.ignoreCase),
    ("attribute_delimiter", .textOrNull o.attributeDelimiter),
    ("regexp", .bool o.regexp)]

/-- Options that are not given have their defaults. -/
def ofJson? (j : Json) : Option Options :=
  let default : Options := {}
  match j.fields? fieldNames with
  | some ⟨_, [delimiter, ignoreCase, attributeDelimiter, regexp]⟩ => do
    return {
      delimiters := ← Json.withDefault? default.delimiters Delimiter.oneOrMore? delimiter
      ignoreCase := ← Json.withDefault? default.ignoreCase Json.bool? ignoreCase
      attributeDelimiter :=
        ← Json.withDefault? default.attributeDelimiter (Json.orNull? Json.text?) attributeDelimiter
      regexp := ← Json.withDefault? default.regexp Json.bool? regexp }
  | _ => none

/-- Reads the options that a text writes. -/
def ofText? (t : Text) : Option Options :=
  (Json.read? t).bind ofJson?

end Options

namespace Override

/-- An attribute delimiter that is switched off is written like one that is kept. -/
def toJson (o : Override) : Json :=
  .record [
    ("delimiter", (o.delimiters.map fun ds => .array (ds.map Delimiter.toJson)).getD .null),
    ("ignore_case", (o.ignoreCase.map .bool).getD .null),
    ("attribute_delimiter", (o.attributeDelimiter.map .textOrNull).getD .null),
    ("regexp", (o.regexp.map .bool).getD .null)]

/-- What is not given, or null, is kept. -/
def ofJson? (j : Json) : Option Override :=
  match j.fields? Options.fieldNames with
  | some ⟨_, [delimiter, ignoreCase, attributeDelimiter, regexp]⟩ => do
    return {
      delimiters := ← Json.optional? false Delimiter.listOfJson? delimiter
      ignoreCase := ← Json.optional? false Json.bool? ignoreCase
      attributeDelimiter :=
        (← Json.optional? false Json.text? attributeDelimiter).map some
      regexp := ← Json.optional? false Json.bool? regexp }
  | _ => none

def ofText? (t : Text) : Option Override :=
  (Json.read? t).bind ofJson?

end Override

end TextSieve
