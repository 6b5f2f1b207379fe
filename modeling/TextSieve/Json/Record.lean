import TextSieve.Json.Basic

/-!
Reading records out of JSON values. A record is an object, of which unknown members are ignored, or
an array with the fields in their order.
-/

namespace TextSieve.Json

def text? : Json → Option Text
  | string t => t
  | _ => none

def bool? : Json → Option Bool
  | bool b => some b
  | _ => none

/-- Natural numbers are kept in 64 bits. -/
def natural? : Json → Option Nat
  | number (.natural n) => if n < Nat.pow 2 64 then some n else none
  | _ => none

def items? : Json → Option (List Json)
  | array items => some items
  | _ => none

def listOf? {α : Type} (item? : Json → Option α) (j : Json) : Option (List α) :=
  j.items?.bind fun items => items.mapM item?

/-- Null, or a value. -/
def orNull? {α : Type} (item? : Json → Option α) : Json → Option (Option α)
  | null => some none
  | j => (item? j).map some

/-- The fields of a record, in the order they were asked for. -/
structure Fields where
  /-- Whether they were given by their order. -/
  byOrder : Bool
  values : List (Option Json)

/-- The values that a member list has under a name. -/
def valuesOf (name : Text) (members : List (Option Text × Json)) : List Json :=
  (members.filter fun (k, _) => k == some name).map (·.2)

/-- The value under a name, if there is one; there must not be two. -/
def member? (members : List (Option Text × Json)) (name : Text) : Option (Option Json) :=
  match valuesOf name members with
  | [] => some none
  | [j] => some (some j)
  | _ => none

/-- The fields of a record that has the given ones. -/
def fields? (names : List String) : Json → Option Fields
  | object members =>
    if members.all (·.1.isSome) then
      (names.mapM fun name => member? members name.toList).map (⟨false, ·⟩)
    else none
  | array items =>
    if items.length ≤ names.length then
      some ⟨true, items.map some ++ List.replicate (names.length - items.length) none⟩
    else none
  | _ => none

/-- A field that must be there. -/
def needed? {α : Type} (item? : Json → Option α) (field : Option Json) : Option α :=
  field.bind item?

/-- A field that may be missing or null; given by order it must not be missing. -/
def optional? {α : Type} (byOrder : Bool) (item? : Json → Option α) (field : Option Json) :
    Option (Option α) :=
  match field with
  | none => if byOrder then none else some none
  | some j => orNull? item? j

/-- A field with a value for when it is missing. -/
def withDefault? {α : Type} (default : α) (item? : Json → Option α) (field : Option Json) :
    Option α :=
  match field with
  | none => some default
  | some j => item? j

mutual
/-- The value with the last of several members of one name only. -/
def lastMembers : Json → Json
  | array items => array (lastMembersOfItems items)
  | object members => object (lastMembersOfMembers members)
  | j => j

def lastMembersOfItems : List Json → List Json
  | [] => []
  | j :: rest => lastMembers j :: lastMembersOfItems rest

def lastMembersOfMembers : List (Option Text × Json) → List (Option Text × Json)
  | [] => []
  | (k, j) :: rest =>
    let rest := lastMembersOfMembers rest
    if rest.any (·.1 == k) then rest else (k, lastMembers j) :: rest
end

end TextSieve.Json
