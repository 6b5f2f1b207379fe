import TextSieve.Options
import TextSieve.Pattern.Matching

/-!
The values of fields in a text. A tag is a name and the attribute delimiter behind it, at the start
of the text or after a word delimiter; the value of the field runs from the tag to the next one, or
to the end of the text.
-/

namespace TextSieve

/-- Where the values of a field lie in a text, under given options. -/
abbrev Extractor := Resolved → (text field : Text) → Except Error (List Span)

/-- A tag: where it starts, where its value starts, and the name. -/
structure Tag where
  start : Nat
  valueStart : Nat
  name : Text
deriving DecidableEq, Repr

namespace Tag

/-- The name of the group around the name of a tag. -/
def nameGroup : Text := ['n', 'a', 'm', 'e']

/-- The pattern of a tag. -/
def pattern (fragment attributeDelimiter : Text) : Text :=
  ['(', '?', ':', '^', '|'] ++ fragment ++ [')', '(', '?', 'P', '<'] ++ nameGroup ++
    ['>', '[', '\\', 'w', '.', '\\', '-', ']', '+', ')'] ++ Pattern.escape attributeDelimiter

def ofMatch? (text : Text) (m : Pattern.Thread) : Option Tag :=
  (m.group? nameGroup).map fun name => ⟨m.start, m.offset, text.slice name⟩

/-- All tags of a text from left to right. -/
def all (r : Resolved) (attributeDelimiter text : Text) : Except Error (List Tag) :=
  match Pattern.Regex.ofPattern? false (pattern r.fragment attributeDelimiter) with
  | none => .error (.pattern .fieldTag)
  | some regex => .ok ((regex.allMatches text).filterMap (ofMatch? text))

/-- Whether the tag is one of the field. -/
def isOf (t : Tag) (field : Text) (ignoreCase : Bool) : Bool :=
  if ignoreCase then Unicode.lower t.name == Unicode.lower field else t.name == field

/-- The values of the tags of a field, where `stop` is the end of the text. -/
def values (field : Text) (ignoreCase : Bool) (stop : Nat) : List Tag → List Span
  | [] => []
  | t :: rest =>
    let value : Span := ⟨t.valueStart, (rest.head?.map Tag.start).getD stop⟩
    if t.isOf field ignoreCase then value :: values field ignoreCase stop rest
    else values field ignoreCase stop rest

end Tag

/-- Finds values behind tags in the text itself. Without an attribute delimiter there are none. -/
def taggedFields : Extractor := fun r text field =>
  match r.options.activeAttributeDelimiter with
  | none => .ok []
  | some d => (Tag.all r d text).map (Tag.values field r.options.ignoreCase text.size)

end TextSieve
