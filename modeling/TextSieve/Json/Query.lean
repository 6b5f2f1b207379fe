import TextSieve.Json.Record
import TextSieve.Query.Tree

/-! Query trees as JSON. Every node is a record with its type in front. -/

namespace TextSieve.Query

def node (type : String) (fields : List (String × Json)) : Json :=
  .record (("type", .text type.toList) :: fields)

def leafJson (l : Leaf) : Json :=
  match l.kind with
  | .word => node "word" [("text", .text l.text), ("pattern_literal", .bool false)]
  | .pattern => node "word" [("text", .text l.text), ("pattern_literal", .bool true)]
  | .phrase => node "phrase" [("text", .text l.text)]

mutual
def toJson : Query → Json
  | leaf l => leafJson l
  | field name d q =>
    node "field" [("field", .text name), ("attribute_delimiter", .text d), ("inner", toJson q)]
  | not q => node "not" [("child", toJson q)]
  | and qs => node "and" [("children", .array (listJson qs))]
  | or qs => node "or" [("children", .array (listJson qs))]
  | group q => node "group" [("child", toJson q)]

def listJson : List Query → List Json
  | [] => []
  | q :: qs => toJson q :: listJson qs
end

/-- The types of nodes, in their order. -/
def typeNames : List String := ["word", "phrase", "field", "not", "and", "or", "group"]

/-- A type by its name or, if `numbered`, by its place in the order. -/
def typeName? (numbered : Bool) : Json → Option Text
  | .number (.natural n) => if numbered then typeNames[n]?.map String.toList else none
  | j => j.text?

/-- The type of a node and the rest of it, which is what the fields are looked for in. -/
def typed? (numbered : Bool) : Json → Option (Text × Json)
  | .object members =>
    match Json.member? members "type".toList with
    | some (some type) =>
      (typeName? numbered type).map fun t =>
        (t, .object (members.filter fun (k, _) => k != some "type".toList))
    | _ => none
  | .array (type :: rest) => (typeName? numbered type).map fun t => (t, .array rest)
  | _ => none

/-- Reads a node whose type and rest are known, with the reader `inner?` for nodes below it. -/
def ofTyped? (inner? : Json → Option Query) (type : Text) (j : Json) : Option Query :=
  match String.ofList type with
  | "word" =>
    match j.fields? ["text", "pattern_literal"] with
    | some ⟨_, [text, isPattern]⟩ => do
      let text ← Json.needed? Json.text? text
      return leaf ⟨if ← Json.needed? Json.bool? isPattern then .pattern else .word, text⟩
    | _ => none
  | "phrase" =>
    match j.fields? ["text"] with
    | some ⟨_, [text]⟩ => (Json.needed? Json.text? text).map phrase
    | _ => none
  | "field" =>
    match j.fields? ["field", "attribute_delimiter", "inner"] with
    | some ⟨_, [name, d, inner]⟩ => do
      return field (← Json.needed? Json.text? name) (← Json.needed? Json.text? d)
        (← Json.needed? inner? inner)
    | _ => none
  | "not" =>
    match j.fields? ["child"] with
    | some ⟨_, [child]⟩ => (Json.needed? inner? child).map not
    | _ => none
  | "and" =>
    match j.fields? ["children"] with
    | some ⟨_, [children]⟩ => (Json.needed? (Json.listOf? inner?) children).map and
    | _ => none
  | "or" =>
    match j.fields? ["children"] with
    | some ⟨_, [children]⟩ => (Json.needed? (Json.listOf? inner?) children).map or
    | _ => none
  | "group" =>
    match j.fields? ["child"] with
    | some ⟨_, [child]⟩ => (Json.needed? inner? child).map group
    | _ => none
  | _ => none

/-- Reads a tree of at most the given depth. Below its root types may be numbered. -/
def ofNode? (numbered : Bool) : Nat → Json → Option Query
  | 0, _ => none
  | depth + 1, j =>
    (typed? numbered j).bind fun (type, j) => ofTyped? (ofNode? true depth) type j

def ofJson? (j : Json) : Option Query :=
  ofNode? false j.depth j

end TextSieve.Query
