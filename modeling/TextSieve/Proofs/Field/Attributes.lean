import TextSieve.Proofs.Field.Tags

/-! Attributes written one behind the other are read back. A tag cannot start inside a value that
is free of the attribute delimiter, so a scan that has passed one tag finds the next one behind the
value, and the value ends before the word delimiter that opens it. -/

namespace TextSieve

open Pattern

structure Attribute where
  name : Text
  value : Text
deriving DecidableEq, Repr

namespace Attribute

def write (a : Text) (p : Attribute) : Text := p.name ++ a ++ p.value

def writeAll (d : Char) (a : Text) (ps : List Attribute) : Text :=
  Text.join [d] (ps.map (write a))

/-- Each attribute and where its value is written, if the first name is at `start`. -/
def placed (d : Char) (a : Text) : Nat → List Attribute → List (Attribute × Span)
  | _, [] => []
  | start, p :: ps =>
    (p, ⟨start + Text.size (p.name ++ a), start + Text.size (p.write a)⟩) ::
      placed d a (start + Text.size (p.write a) + d.utf8Size) ps

def isOf (field : Text) (ignoreCase : Bool) (p : Attribute) : Bool :=
  if ignoreCase then Unicode.lower p.name == Unicode.lower field else p.name == field

/-- The name is one, and the value cannot be taken for a tag. -/
structure Fits (a : Text) (p : Attribute) : Prop where
  name_ne_nil : p.name ≠ []
  name_chars : ∀ c ∈ p.name, Tag.isNameChar c = true
  value_free : ¬ a <:+: p.value

end Attribute

/-- The delimiters cannot be taken for a part of a name, nor one for a part of the other. -/
structure Separate (d : Char) (a : Text) : Prop where
  between : Tag.isNameChar d = false
  inside : ∃ c ∈ a.head?, Tag.isNameChar c = false
  not_mem : d ∉ a

theorem Separate.activeAttributeDelimiter {d : Char} {a : Text} (h : Separate d a) {o : Options}
    (ha : o.attributeDelimiter = some a) : o.activeAttributeDelimiter = some a := by
  obtain ⟨c, hc, -⟩ := h.inside
  have hne : a ≠ [] := by
    rintro rfl
    simp at hc
  simp [Options.activeAttributeDelimiter, activeDelimiter, ha, hne]

namespace Attribute

variable {d : Char} {a : Text}

def writeBehind (d : Char) (a : Text) (ps : List Attribute) : Text :=
  ps.flatMap fun p => d :: p.write a

theorem writeAll_cons (p : Attribute) (ps : List Attribute) :
    writeAll d a (p :: ps) = p.write a ++ writeBehind d a ps := by
  induction ps generalizing p with
  | nil => simp [writeAll, Text.join, writeBehind]
  | cons q ps ih =>
    have hjoin : writeAll d a (p :: q :: ps) = p.write a ++ [d] ++ writeAll d a (q :: ps) := rfl
    rw [hjoin, ih]
    simp [writeBehind]

theorem writeBehind_cons (p : Attribute) (ps : List Attribute) :
    writeBehind d a (p :: ps) = [d] ++ p.name ++ a ++ (p.value ++ writeBehind d a ps) := by
  simp [writeBehind, write]

theorem length_le_writeBehind (ps : List Attribute) : ps.length ≤ (writeBehind d a ps).length := by
  induction ps with
  | nil => simp
  | cons p ps ih =>
    rw [writeBehind_cons]
    simp only [List.length_append, List.length_cons]
    omega

theorem head?_writeBehind (ps : List Attribute) : ∀ c ∈ (writeBehind d a ps).head?, c = d := by
  cases ps with
  | nil => simp [writeBehind]
  | cons p ps => simp [writeBehind]

theorem map_fst_placed (start : Nat) (ps : List Attribute) :
    (placed d a start ps).map (·.1) = ps := by
  induction ps generalizing start with
  | nil => rfl
  | cons p ps ih => rw [placed, List.map_cons, ih]

theorem slice_of_mem_placed (u : Text) (ps : List Attribute) :
    ∀ x ∈ placed d a (Text.size u) ps, (u ++ writeAll d a ps).slice x.2 = x.1.value := by
  induction ps generalizing u with
  | nil => simp [placed]
  | cons p ps ih =>
    rw [placed, writeAll_cons]
    refine List.forall_mem_cons.2 ⟨?_, fun x hx => ?_⟩
    · have hcut := Span.slice_cut (u ++ (p.name ++ a)) p.value (writeBehind d a ps)
      simpa [write, Nat.add_assoc] using hcut
    · have hsize : Text.size u + Text.size (p.write a) + d.utf8Size =
          Text.size (u ++ p.write a ++ [d]) := by simp [Nat.add_assoc]
      rw [hsize] at hx
      cases ps with
      | nil => simp [placed] at hx
      | cons q ps =>
        have hbehind : writeBehind d a (q :: ps) = [d] ++ writeAll d a (q :: ps) := by
          rw [writeAll_cons]
          rfl
        rw [hbehind]
        simpa using ih _ x hx

/-- What does not hold the sign that the rest starts with ends before the rest. -/
theorem prefix_of_not_mem {p z v r : Text} (hr : ∀ c ∈ r.head?, c = d) (hd : d ∉ p)
    (heq : p ++ z = v ++ r) : p <+: v := by
  rcases List.append_eq_append_iff.1 heq with ⟨t, rfl, -⟩ | ⟨t, rfl, rfl⟩
  · exact List.prefix_append p t
  · cases t with
    | nil => simp
    | cons c t =>
      obtain rfl : c = d := hr c rfl
      exact absurd (by simp) hd

def seen (m : Thread) : Option (Nat × Cursor × Option Span) :=
  some (m.start, m.cursor, m.group? Tag.nameGroup)

theorem bind_seen_eq_none_iff {m : Option Thread} : m.bind seen = none ↔ m = none := by
  cases m <;> simp [seen]

section

variable (h : Separate d a)

include h

/-- A name ends where the attribute delimiter is. -/
theorem takeWhile_name {w : Text} (hw : ∀ c ∈ w, Tag.isNameChar c = true) (y : Text) :
    (w ++ (a ++ y)).takeWhile Tag.isNameChar = w := by
  obtain ⟨c, hc, hname⟩ := h.inside
  obtain ⟨a', rfl⟩ := List.head?_eq_some_iff.1 hc
  rw [List.takeWhile_append_of_pos hw]
  simp [hname]

theorem name_unique {w w' y y' : Text} (hw : ∀ c ∈ w, Tag.isNameChar c = true)
    (hw' : ∀ c ∈ w', Tag.isNameChar c = true) (heq : w ++ (a ++ y) = w' ++ (a ++ y')) :
    w = w' ∧ y = y' := by
  obtain rfl : w = w' := by rw [← takeWhile_name h hw y, heq, takeWhile_name h hw' y']
  exact ⟨rfl, by simpa using heq⟩

theorem delimiter_ne {w y z : Text} (hne : w ≠ []) (hw : ∀ c ∈ w, Tag.isNameChar c = true) :
    w ++ z ≠ d :: y := by
  intro heq
  obtain ⟨c, w, rfl⟩ := List.exists_cons_of_ne_nil hne
  obtain ⟨rfl, -⟩ : c = d ∧ w ++ z = y := by simpa using heq
  simpa [h.between] using hw c List.mem_cons_self

theorem leads_unique {u l l' w w' z z' : Text} (hne : w ≠ [])
    (hw : ∀ c ∈ w, Tag.isNameChar c = true) (hne' : w' ≠ [])
    (hw' : ∀ c ∈ w', Tag.isNameChar c = true) (hl : l = [] ∧ u = [] ∨ l = [d])
    (hl' : l' = [] ∧ u = [] ∨ l' = [d]) (heq : l ++ (w ++ z) = l' ++ (w' ++ z')) : l = l' := by
  rcases hl with ⟨rfl, -⟩ | rfl
  · rcases hl' with ⟨rfl, -⟩ | rfl
    · rfl
    · exact absurd (by simpa using heq) (delimiter_ne h hne hw)
  · rcases hl' with ⟨rfl, -⟩ | rfl
    · exact absurd (by simpa using heq.symm) (delimiter_ne h hne' hw')
    · rfl

theorem seen_unique {u v : Text} {f g : Thread}
    (hf : (Tag.regex [[d]] a).Goes (.startAt (.between u v)) f)
    (hg : (Tag.regex [[d]] a).Goes (.startAt (.between u v)) g) : seen f = seen g := by
  have hds : [[d]] ≠ [] := by simp
  obtain ⟨l, w, y, rfl, hl, hne, hw, hfs, hfc, hfg⟩ := Tag.goes_regex hds hf
  obtain ⟨l', w', y', heq, hl', hne', hw', hgs, hgc, hgg⟩ := Tag.goes_regex hds hg
  obtain rfl : l = l' := leads_unique h hne hw hne' hw' (by simpa using hl) (by simpa using hl')
    (by simpa using heq)
  obtain ⟨rfl, rfl⟩ := name_unique h hw hw' (by simpa using heq)
  simp only [seen, hfs, hfc, hfg, hgs, hgc, hgg]

/-- The tag of an attribute is found where it stands. -/
theorem search_tag {p : Attribute} (hp : p.Fits a) {u l : Text} (hl : l = [] ∧ u = [] ∨ l = [d])
    (y : Text) :
    ((Tag.regex [[d]] a).search (.between u (l ++ p.name ++ a ++ y))).bind seen =
      some (Text.size u, .between (u ++ l ++ p.name ++ a) y,
        some ⟨Text.size (u ++ l), Text.size (u ++ l ++ p.name)⟩) := by
  have hds : [[d]] ≠ [] := by simp
  obtain ⟨f, hf⟩ : ∃ f, (Tag.regex [[d]] a).Goes
      (.startAt (.between u (l ++ p.name ++ a ++ y))) f :=
    Tag.exists_goes_regex hds (by simpa using hl) hp.name_ne_nil hp.name_chars
  rw [Regex.search_bind_of_goes (seen_unique h) hf]
  obtain ⟨l', w, y', heq, hl', hne, hw, hstart, hcursor, hgroup⟩ := Tag.goes_regex hds hf
  obtain rfl : l = l' := leads_unique h hp.name_ne_nil hp.name_chars hne hw hl
    (by simpa using hl') (by simpa using heq)
  obtain ⟨rfl, rfl⟩ := name_unique h hp.name_chars hw (by simpa using heq)
  rw [seen, hstart, hcursor, hgroup]

theorem not_mem_tag {w : Text} (hw : ∀ c ∈ w, Tag.isNameChar c = true) : d ∉ w ++ a := by
  intro hmem
  rcases List.mem_append.1 hmem with hmem | hmem
  · simpa [h.between] using hw d hmem
  · exact h.not_mem hmem

/-- A tag does not start inside a value: it would lie in the value or reach over the next `d`. -/
theorem dead_in_value {u v x y : Text} (hu : u ≠ []) (hv : ¬ a <:+: v) (ps : List Attribute)
    (heq : v ++ writeBehind d a ps = x ++ y) (hlt : x.length < v.length) :
    (Tag.regex [[d]] a).Dead (.between (u ++ x) y) := by
  intro f hf
  obtain ⟨l, w, z, rfl, hl, -, hw, -⟩ := Tag.goes_regex (by simp) hf
  obtain rfl : l = [d] := by simpa [hu] using hl
  obtain ⟨v', rfl, hrest⟩ : ∃ v', v = x ++ v' ∧ v' ++ writeBehind d a ps = [d] ++ w ++ a ++ z := by
    rcases List.append_eq_append_iff.1 heq with ⟨v', rfl, -⟩ | ⟨v', rfl, hrest⟩
    · simp only [List.length_append] at hlt
      omega
    · exact ⟨v', rfl, hrest.symm⟩
  cases v' with
  | nil => simp at hlt
  | cons c v' =>
    obtain ⟨rfl, hrest⟩ : c = d ∧ w ++ a ++ z = v' ++ writeBehind d a ps := by
      simpa [eq_comm] using hrest
    obtain ⟨t, ht⟩ := prefix_of_not_mem (head?_writeBehind ps) (not_mem_tag h hw) hrest
    exact hv ⟨x ++ c :: w, t, by simp [← ht]⟩

/-- The search for a tag goes on behind the value. -/
theorem search_behind_value {u v : Text} (hu : u ≠ []) (hv : ¬ a <:+: v) (ps : List Attribute) :
    ((Tag.regex [[d]] a).search (.between u (v ++ writeBehind d a ps))).bind seen =
      ((Tag.regex [[d]] a).search (.between (u ++ v) (writeBehind d a ps))).bind seen :=
  Regex.search_bind_skip (fun _ => seen_unique h) fun _ _ heq hlt =>
    dead_in_value h hu hv ps heq hlt

end

theorem search_end (u : Text) : (Tag.regex [[d]] a).search (.between u []) = none := by
  refine Regex.search_eq_none_iff.2 fun x y hxy f hf => ?_
  obtain ⟨rfl, rfl⟩ := List.append_eq_nil_iff.1 hxy.symm
  obtain ⟨l, w, y, heq, -, hne, -⟩ := Tag.goes_regex (by simp) hf
  simp at heq
  exact hne heq.2.1

def tags (d : Char) (a : Text) : Nat → List Attribute → List Tag
  | _, [] => []
  | start, p :: ps =>
    ⟨start, start + d.utf8Size + Text.size (p.name ++ a), p.name⟩ ::
      tags d a (start + d.utf8Size + Text.size (p.write a)) ps

/-- One tag of a scan. -/
theorem tags_of_search {r : Regex} {k : Cursor} {u l w y text : Text} {n : Nat}
    {last : Option Nat} (hw : w ≠ []) (htext : text = u ++ l ++ w ++ a ++ y)
    (hk : (r.search k).bind seen = some (Text.size u, .between (u ++ l ++ w ++ a) y,
      some ⟨Text.size (u ++ l), Text.size (u ++ l ++ w)⟩)) :
    (r.matchesFrom (n + 1) last k).filterMap (Tag.ofMatch? text) =
      ⟨Text.size u, Text.size (u ++ l ++ w ++ a), w⟩ ::
        (r.matchesFrom n (some (Text.size (u ++ l ++ w ++ a)))
          (.between (u ++ l ++ w ++ a) y)).filterMap (Tag.ofMatch? text) := by
  obtain ⟨f, hf, hseen⟩ := Option.bind_eq_some_iff.1 hk
  obtain ⟨hstart, hcursor, hgroup⟩ : f.start = Text.size u ∧
      f.cursor = .between (u ++ l ++ w ++ a) y ∧
      f.group? Tag.nameGroup = some ⟨Text.size (u ++ l), Text.size (u ++ l ++ w)⟩ := by
    simpa [seen] using hseen
  have hoffset : f.offset = Text.size (u ++ l ++ w ++ a) := by
    rw [Thread.offset, hcursor]
    rfl
  have hlt : f.start ≠ f.offset := by
    obtain ⟨c, w, rfl⟩ := List.exists_cons_of_ne_nil hw
    have hc := c.utf8Size_pos
    rw [hstart, hoffset]
    simp
    omega
  have htag : Tag.ofMatch? text f =
      some ⟨Text.size u, Text.size (u ++ l ++ w ++ a), w⟩ := by
    have hcut := Span.slice_cut (u ++ l) w (a ++ y)
    simp only [Tag.ofMatch?, hgroup, hstart, hoffset, htext, Option.map_some]
    simpa using hcut
  have hmatches : r.matchesFrom (n + 1) last k = f :: r.matchesFrom n (some f.offset) f.cursor := by
    rw [Regex.matchesFrom, hf]
    exact if_neg fun hempty => hlt hempty.1
  simp only [hmatches, List.filterMap_cons, htag, hoffset, hcursor]

section

variable (h : Separate d a)

include h

/-- The scan behind a tag, from the value on. By induction on the attributes that follow. -/
theorem tags_behind {u v : Text} {ps : List Attribute} {n : Nat} {last : Option Nat}
    (hu : u ≠ []) (hv : ¬ a <:+: v) (hps : ∀ p ∈ ps, p.Fits a) (hn : ps.length ≤ n) :
    ((Tag.regex [[d]] a).matchesFrom n last (.between u (v ++ writeBehind d a ps))).filterMap
        (Tag.ofMatch? (u ++ v ++ writeBehind d a ps)) =
      tags d a (Text.size (u ++ v)) ps := by
  induction ps generalizing u v n last with
  | nil =>
    have hnone : (Tag.regex [[d]] a).search (.between u (v ++ writeBehind d a [])) = none := by
      rw [← bind_seen_eq_none_iff, search_behind_value h hu hv]
      exact bind_seen_eq_none_iff.2 (search_end _)
    cases n with
    | zero => rfl
    | succ n => simp [Regex.matchesFrom, hnone, tags]
  | cons p ps ih =>
    obtain ⟨hp, hps⟩ := List.forall_mem_cons.1 hps
    obtain ⟨n, rfl⟩ : ∃ m, n = m + 1 := ⟨n - 1, by simp at hn; omega⟩
    have hsearch := (search_behind_value h hu hv (p :: ps)).trans
      (writeBehind_cons (d := d) (a := a) p ps ▸ search_tag h hp (.inr rfl) _)
    rw [tags_of_search hp.name_ne_nil (by simp [writeBehind_cons]) hsearch]
    have htext : u ++ v ++ writeBehind d a (p :: ps) =
        u ++ v ++ [d] ++ p.name ++ a ++ p.value ++ writeBehind d a ps := by simp [writeBehind_cons]
    have hne : u ++ v ++ [d] ++ p.name ++ a ≠ [] := by simp
    rw [htext, ih hne hp.value_free hps (by simpa using hn)]
    simp [tags, write, Nat.add_assoc]

/-- All tags that a scan of attributes finds. -/
theorem tags_writeAll {p : Attribute} {ps : List Attribute} (hps : ∀ q ∈ p :: ps, q.Fits a) :
    ((Tag.regex [[d]] a).allMatches (writeAll d a (p :: ps))).filterMap
        (Tag.ofMatch? (writeAll d a (p :: ps))) =
      ⟨0, Text.size (p.name ++ a), p.name⟩ :: tags d a (Text.size (p.write a)) ps := by
  obtain ⟨hp, hps⟩ := List.forall_mem_cons.1 hps
  have htag : writeAll d a (p :: ps) =
      [] ++ [] ++ p.name ++ a ++ (p.value ++ writeBehind d a ps) := by simp [writeAll_cons, write]
  have hvalue : writeAll d a (p :: ps) =
      [] ++ [] ++ p.name ++ a ++ p.value ++ writeBehind d a ps := by simp [htag]
  have hsearch := search_tag h hp (u := []) (l := []) (.inl ⟨rfl, rfl⟩)
    (p.value ++ writeBehind d a ps)
  have hlength : ps.length ≤ (writeAll d a (p :: ps)).length + 1 := by
    have hle := length_le_writeBehind (d := d) (a := a) ps
    simp only [writeAll_cons, List.length_append]
    omega
  have hsplit : [] ++ p.name ++ a ++ (p.value ++ writeBehind d a ps) = writeAll d a (p :: ps) :=
    htag.symm
  rw [hsplit] at hsearch
  have hne : [] ++ [] ++ p.name ++ a ≠ [] := by simp [hp.name_ne_nil]
  rw [Regex.allMatches, Cursor.start_eq_between, tags_of_search hp.name_ne_nil htag hsearch,
    hvalue, tags_behind h hne hp.value_free hps (hvalue ▸ hlength)]
  simp [write]

end

theorem values_cons (field : Text) (ignoreCase : Bool) (start valueStart stop : Nat)
    (p : Attribute) (ps : List Attribute) :
    Tag.values field ignoreCase (stop + Text.size (writeBehind d a ps))
        (⟨start, valueStart, p.name⟩ :: tags d a stop ps) =
      (([(p, ⟨valueStart, stop⟩)] : List (Attribute × Span)).filter
          (·.1.isOf field ignoreCase)).map (·.2) ++
        Tag.values field ignoreCase (stop + Text.size (writeBehind d a ps)) (tags d a stop ps) := by
  have hstop : ((tags d a stop ps).head?.map Tag.start).getD
      (stop + Text.size (writeBehind d a ps)) = stop := by
    cases ps with
    | nil => simp [tags, writeBehind]
    | cons q ps => simp [tags]
  have hof : Tag.isOf ⟨start, valueStart, p.name⟩ field ignoreCase = p.isOf field ignoreCase := rfl
  rw [Tag.values, hstop, hof]
  cases hp : p.isOf field ignoreCase <;> simp [hp]

theorem values_tags (field : Text) (ignoreCase : Bool) (start : Nat) (ps : List Attribute) :
    Tag.values field ignoreCase (start + Text.size (writeBehind d a ps)) (tags d a start ps) =
      ((placed d a (start + d.utf8Size) ps).filter (·.1.isOf field ignoreCase)).map (·.2) := by
  induction ps generalizing start with
  | nil => rfl
  | cons p ps ih =>
    have hsize : start + Text.size (writeBehind d a (p :: ps)) =
        start + d.utf8Size + Text.size (p.write a) + Text.size (writeBehind d a ps) := by
      simp [writeBehind, Nat.add_assoc]
    rw [tags, hsize, values_cons, ih, placed, ← List.map_append, ← List.filter_append]
    rfl

theorem values_writeAll (h : Separate d a) {ps : List Attribute} (hps : ∀ p ∈ ps, p.Fits a)
    (field : Text) (ignoreCase : Bool) :
    Tag.values field ignoreCase (writeAll d a ps).size
        (((Tag.regex [[d]] a).allMatches (writeAll d a ps)).filterMap
          (Tag.ofMatch? (writeAll d a ps))) =
      ((placed d a 0 ps).filter (·.1.isOf field ignoreCase)).map (·.2) := by
  cases ps with
  | nil =>
    have hnone : (Tag.regex [[d]] a).allMatches [] = [] := by
      rw [Regex.allMatches, Cursor.start_eq_between, Regex.matchesFrom, search_end]
    rw [writeAll, List.map_nil, Text.join, hnone]
    rfl
  | cons p ps =>
    rw [tags_writeAll h hps, writeAll_cons, Text.size_append, values_cons, values_tags, placed,
      ← List.map_append, ← List.filter_append]
    simp

/-- Attributes of which neither a name nor a value can be taken for anything else are read back: the
values of a field are those of its attributes, in their order and each in full. Where the pattern of
a tag does not compile, which is where the attribute delimiter is too long for an engine, every field
is refused. -/
theorem taggedFields_writeAll {o : Options} (hd : o.delimiters = [.literal [d]])
    (ha : o.attributeDelimiter = some a) (h : Separate d a) {ps : List Attribute}
    (hps : ∀ p ∈ ps, p.Fits a) :
    (placed d a 0 ps).map (·.1) = ps ∧
      (∀ x ∈ placed d a 0 ps, (writeAll d a ps).slice x.2 = x.1.value) ∧
      ∃ r, o.resolve = .ok r ∧ ∀ field,
        taggedFields r (writeAll d a ps) field =
          if isPattern (Tag.pattern r.fragment a) then
            .ok (((placed d a 0 ps).filter (·.1.isOf field o.ignoreCase)).map (·.2))
          else .error (.pattern .fieldTag) := by
  have hds : o.delimiters = [[d]].map .literal := hd
  refine ⟨map_fst_placed 0 ps, slice_of_mem_placed [] ps, _,
    resolve_literals hds (by simp) (by simp), fun field => ?_⟩
  rw [Tag.taggedFields_literals (by simp) (h.activeAttributeDelimiter ha), values_writeAll h hps]

/-- A value of two lines, an empty one, and one that starts and ends with the delimiter. -/
theorem taggedFields_writeAll_lines :
    let ps : List Attribute :=
      [⟨['n'], ['x', '\n', 'm']⟩, ⟨['M', '.', '1'], []⟩, ⟨['N'], [' ', 'y', ' ']⟩]
    ∃ r, ({} : Options).resolve = .ok r ∧ isPattern (Tag.pattern r.fragment [':']) = true ∧
      taggedFields r (writeAll ' ' [':'] ps) ['n'] = .ok [⟨2, 5⟩, ⟨13, 16⟩] := by
  intro ps
  have hseparate : Separate ' ' [':'] :=
    ⟨by decide +kernel, ⟨':', rfl, by decide +kernel⟩, by decide⟩
  have hps : ∀ p ∈ ps, p.Fits [':'] := by
    have hname : ∀ p ∈ ps, p.name ≠ [] ∧ p.name.all Tag.isNameChar = true ∧ ':' ∉ p.value := by
      decide +kernel
    intro p hp
    obtain ⟨hne, hchars, hvalue⟩ := hname p hp
    exact ⟨hne, List.all_eq_true.1 hchars, fun hin => hvalue (hin.subset List.mem_cons_self)⟩
  obtain ⟨-, -, r, hr, h⟩ := taggedFields_writeAll (o := {}) rfl rfl hseparate hps
  obtain rfl : ⟨{}, ['(', '?', ':', ' ', ')']⟩ = r := Except.ok.inj hr
  have hpattern : isPattern (Tag.pattern ['(', '?', ':', ' ', ')'] [':']) = true := by
    decide +kernel
  refine ⟨_, hr, hpattern, (h ['n']).trans ?_⟩
  rw [if_pos hpattern]
  decide +kernel

theorem separate_colons {n : Nat} (hn : 0 < n) : Separate ' ' (List.replicate n ':') where
  between := by decide +kernel
  inside := ⟨':', by simp [List.head?_replicate, Nat.ne_of_gt hn], by decide +kernel⟩
  not_mem := by simp [List.mem_replicate]

theorem fits_colons {n : Nat} (hn : 1 < n) : Fits (List.replicate n ':') ⟨['n'], ['v']⟩ where
  name_ne_nil := by simp
  name_chars := List.all_eq_true.1 (by decide +kernel)
  value_free hin := by
    have hle := hin.length_le
    simp only [List.length_replicate, List.length_singleton] at hle
    omega

/-- An attribute delimiter that is too long is refused. -/
theorem taggedFields_writeAll_long :
    Separate ' ' (List.replicate 500000 ':') ∧
      Fits (List.replicate 500000 ':') ⟨['n'], ['v']⟩ ∧
      ∃ r, ({ attributeDelimiter := some (List.replicate 500000 ':') } : Options).resolve = .ok r ∧
        taggedFields r (writeAll ' ' (List.replicate 500000 ':') [⟨['n'], ['v']⟩]) ['n'] =
          .error (.pattern .fieldTag) := by
  have hseparate : Separate ' ' (List.replicate 500000 ':') := separate_colons (by decide)
  have hlong : Regex.sizeLimit < 32 * Text.size (List.replicate 500000 ':') := by
    rw [Text.size_replicate]
    decide
  have hblank : [[' ']] ≠ [] := by simp
  exact ⟨hseparate, fits_colons (by decide), _, rfl,
    Tag.taggedFields_of_long hblank (hseparate.activeAttributeDelimiter rfl) hlong _ _⟩

end Attribute

end TextSieve
