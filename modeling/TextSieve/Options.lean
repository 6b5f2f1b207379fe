import TextSieve.Delimiter

/-!
Options of an evaluation. An override replaces the options it sets; resolving options works their
delimiters into one fragment.
-/

namespace TextSieve

structure Options where
  delimiters : List Delimiter := [.space]
  ignoreCase : Bool := true
  attributeDelimiter : Option Text := some [':']
  /-- Read every term as a pattern. -/
  regexp : Bool := false
deriving DecidableEq, Repr

/-- Options to be replaced; `none` keeps an option. -/
structure Override where
  delimiters : Option (List Delimiter) := none
  ignoreCase : Option Bool := none
  attributeDelimiter : Option (Option Text) := none
  regexp : Option Bool := none
deriving DecidableEq, Repr

/-- Options with the fragment that their delimiters stand for. -/
structure Resolved where
  options : Options
  fragment : Text
deriving DecidableEq, Repr

/-- An attribute delimiter that is not empty; any other switches fields off. -/
def activeDelimiter (delimiter : Option Text) : Option Text :=
  delimiter.filter (· ≠ [])

namespace Override

def isEmpty (o : Override) : Bool :=
  o.delimiters.isNone && o.ignoreCase.isNone && o.attributeDelimiter.isNone && o.regexp.isNone

theorem isEmpty_iff (o : Override) : o.isEmpty = true ↔ o = {} := by
  cases o
  simp [isEmpty, and_assoc]

end Override

namespace Options

def activeAttributeDelimiter (o : Options) : Option Text :=
  activeDelimiter o.attributeDelimiter

def merge (o : Options) (new : Override) : Options where
  delimiters := new.delimiters.getD o.delimiters
  ignoreCase := new.ignoreCase.getD o.ignoreCase
  attributeDelimiter := new.attributeDelimiter.getD o.attributeDelimiter
  regexp := new.regexp.getD o.regexp

@[simp] theorem merge_empty (o : Options) : o.merge {} = o := rfl

def resolve (o : Options) : Except Error Resolved :=
  (Delimiter.fragment o.delimiters).map fun fragment => ⟨o, fragment⟩

end Options

/-- Merging and resolving again; an empty override leaves everything as it is. -/
def Resolved.merge (r : Resolved) (new : Override) : Except Error Resolved :=
  if new.isEmpty then .ok r else (r.options.merge new).resolve

end TextSieve
