import Mathlib.Order.Lattice
import TextSieve.Json.Options
import TextSieve.Proofs.Json.Compact

/-!
Overrides as JSON. Writing an override and reading it again keeps everything but one thing: an
override that switches fields off comes back as one that keeps the attribute delimiter.
-/

namespace TextSieve

namespace Json

theorem bool?_bool (b : Bool) : bool? (bool b) = some b := rfl

theorem text?_text (t : Text) : text? (text t) = some t := rfl

section

variable {α : Type} {write : α → Json} {read? : Json → Option α}

theorem listOf?_map (again : ∀ a, read? (write a) = some a) (as : List α) :
    listOf? read? (array (as.map write)) = some as := by
  have same : read? ∘ write = fun a => pure a := funext again
  rw [listOf?, items?, Option.bind_some, List.mapM_map, same, List.mapM_pure, List.map_id']
  rfl

/-- An optional field that is written as null if it is missing. -/
theorem optional?_getD (again : ∀ a, read? (write a) = some a) (something : ∀ a, write a ≠ null)
    (byOrder : Bool) (a : Option α) :
    optional? byOrder read? (some ((a.map write).getD null)) = some a := by
  cases a with
  | none => rfl
  | some a => simp [optional?, orNull?, again, something]

theorem worded_getD (worded : ∀ a, Worded (write a)) (a : Option α) :
    Worded ((a.map write).getD null) := by
  cases a with
  | none => exact .null
  | some a => exact worded a

theorem worded_map (worded : ∀ a, Worded (write a)) (as : List α) :
    Worded (array (as.map write)) := by
  refine .array fun j mem => ?_
  obtain ⟨a, -, rfl⟩ := List.mem_map.1 mem
  exact worded a

end

theorem worded_record {members : List (String × Json)} (worded : ∀ m ∈ members, Worded m.2) :
    Worded (record members) := by
  refine .object ?_ ?_
  · intro m mem
    obtain ⟨⟨k, j⟩, -, rfl⟩ := List.mem_map.1 mem
    rfl
  · intro m mem
    obtain ⟨⟨k, j⟩, given, rfl⟩ := List.mem_map.1 mem
    exact worded _ given

end Json

open Json (Worded)

namespace Delimiter

theorem ofJson?_toJson (d : Delimiter) : ofJson? d.toJson = some d := by
  cases d <;> rfl

theorem depth_toJson (d : Delimiter) : d.toJson.depth ≤ 1 := by
  cases d with
  | literal text => exact Nat.zero_le 1
  | pattern source => exact Nat.le_refl 1

theorem worded_toJson (d : Delimiter) : Worded d.toJson := by
  cases d with
  | literal text => exact .text text
  | pattern source => exact Json.worded_record (by simpa using .text source)

theorem depthOfItems_map_toJson (ds : List Delimiter) :
    Json.depthOfItems (ds.map toJson) ≤ 1 := by
  induction ds with
  | nil => exact Nat.zero_le 1
  | cons d ds ih => exact max_le (depth_toJson d) ih

/-- Lists of delimiters are never nested too deeply to be read. -/
theorem listOfJson?_array (ds : List Delimiter) :
    listOfJson? (.array (ds.map toJson)) = some ds := by
  have shallow : (Json.array (ds.map toJson)).depth ≤ depthLimit := by
    have := depthOfItems_map_toJson ds
    simp only [Json.depth, depthLimit]
    omega
  rw [listOfJson?, if_pos shallow, Json.listOf?_map ofJson?_toJson]

end Delimiter

namespace Override

/-- What is left of an override once it is written and read. -/
def stored (o : Override) : Override :=
  { o with attributeDelimiter := o.attributeDelimiter.filter Option.isSome }

theorem stored_eq_iff (o : Override) : o.stored = o ↔ o.attributeDelimiter ≠ some none := by
  obtain ⟨ds, ignoreCase, attributeDelimiter, regexp⟩ := o
  rcases attributeDelimiter with _ | _ | d <;> simp [stored, Option.filter]

theorem merge_stored (p : Options) (o : Override) :
    p.merge o.stored =
      if o.attributeDelimiter = some none then
        { p.merge o with attributeDelimiter := p.attributeDelimiter }
      else p.merge o := by
  split
  · rename_i off
    simp [stored, Options.merge, off, Option.filter]
  · rename_i on
    rw [(stored_eq_iff o).2 on]

theorem fields?_toJson (o : Override) :
    o.toJson.fields? Options.fieldNames =
      some ⟨false, [
        some ((o.delimiters.map fun ds => .array (ds.map Delimiter.toJson)).getD .null),
        some ((o.ignoreCase.map .bool).getD .null),
        some ((o.attributeDelimiter.join.map .text).getD .null),
        some ((o.regexp.map .bool).getD .null)]⟩ := by
  obtain ⟨ds, ignoreCase, attributeDelimiter, regexp⟩ := o
  rcases attributeDelimiter with _ | _ | d <;> rfl

theorem ofJson?_toJson (o : Override) : ofJson? o.toJson = some o.stored := by
  have filtered :
      o.attributeDelimiter.join.map some = o.attributeDelimiter.filter Option.isSome := by
    rcases o.attributeDelimiter with _ | _ | d <;> rfl
  have delimiters := Json.optional?_getD Delimiter.listOfJson?_array (by simp) false o.delimiters
  have attributeDelimiter :=
    Json.optional?_getD Json.text?_text (by simp [Json.text]) false o.attributeDelimiter.join
  have flag := Json.optional?_getD Json.bool?_bool (by simp) false
  rw [ofJson?, fields?_toJson]
  simp [delimiters, attributeDelimiter, flag, filtered, stored]

theorem worded_toJson (o : Override) : Worded o.toJson := by
  refine Json.worded_record ?_
  have delimiters := Json.worded_getD (Json.worded_map Delimiter.worded_toJson) o.delimiters
  have attributeDelimiter := Json.worded_getD (Json.worded_getD .text) o.attributeDelimiter
  have flag := Json.worded_getD .bool
  simp only [List.mem_cons, List.not_mem_nil, or_false, forall_eq_or_imp, forall_eq]
  exact ⟨delimiters, flag o.ignoreCase, attributeDelimiter, flag o.regexp⟩

theorem ofText?_toJson (o : Override) : ofText? o.toJson.compact = some o.stored := by
  rw [ofText?, Json.read?_compact o.worded_toJson, Option.bind_some, ofJson?_toJson]

/-- An override survives its text unless it switches fields off, and then all of it survives but
that: the options it is merged into keep their attribute delimiter. -/
theorem merge_written (o : Override) :
    ∃ back, ofJson? o.toJson = some back ∧ ofText? o.toJson.compact = some back ∧
      (back = o ↔ o.attributeDelimiter ≠ some none) ∧
      ∀ p : Options, p.merge back =
        if o.attributeDelimiter = some none then
          { p.merge o with attributeDelimiter := p.attributeDelimiter }
        else p.merge o :=
  ⟨o.stored, o.ofJson?_toJson, o.ofText?_toJson, o.stored_eq_iff, fun p => o.merge_stored p⟩

/-- Switched off, written and read, the fields of the default options are still on. -/
theorem merge_written_off :
    let o : Override := { attributeDelimiter := some none }
    ofJson? o.toJson = some {} ∧ ofText? o.toJson.compact = some {} ∧ o ≠ {} ∧
      (Options.merge {} o).activeAttributeDelimiter = none ∧
      (Options.merge {} {}).activeAttributeDelimiter = some [':'] := by
  decide

end Override

end TextSieve
