import Mathlib.Data.List.Basic
import Mathlib.Tactic.Common
import TextSieve.Proofs.Query.Normal

/-! Every query in normal form can be written. Its display is read back to the query itself, if the
nesting keeps to the limit; a query that is nested deeper is read from no text at all. -/

namespace TextSieve

namespace Query

def Rereads (admits : Text → Prop) (read : Text → Reading Query) (q : Query) : Prop :=
  ∀ rest, admits rest → read (q.display ++ rest) = .ok (q, rest)

theorem solid_of_isWordChar {w : Text} (hne : w ≠ []) (hw : ∀ c ∈ w, isWordChar c = true) :
    Solid w := by
  obtain ⟨c, w, rfl⟩ := List.exists_cons_of_ne_nil hne
  exact solid_cons (isBlank_of_isWordChar (hw c List.mem_cons_self)) w

theorem solid_displayLeaf {l : Leaf} (hl : l.Writable) : Solid (displayLeaf l) := by
  obtain ⟨kind, text⟩ := l
  obtain ⟨hne, htext⟩ := hl
  cases kind with
  | word => exact solid_of_isWordChar hne htext
  | pattern => exact solid_cons (by decide) _
  | phrase => exact solid_cons (by decide) _

theorem solid_displayAll {sign : Text} {qs : List Query} (hne : qs ≠ [])
    (h : ∀ q ∈ qs, Solid q.display) : Solid (displayAll sign qs) := by
  obtain ⟨q, qs, rfl⟩ := List.exists_cons_of_ne_nil hne
  rw [displayAll_cons]
  exact (h q List.mem_cons_self).append _

variable {delimiter : Option Text} {Value : Text → Prop} {q : Query}

theorem solid_display (hq : Normal delimiter Value q) : Solid q.display := by
  induction hq with
  | leaf hl =>
    rw [display]
    exact solid_displayLeaf hl
  | fieldLeaf _ hname =>
    rw [display, List.append_assoc]
    exact (solid_of_isWordChar hname.ne_nil hname.word).append _
  | fieldGroup _ hname =>
    rw [display, List.append_assoc]
    exact (solid_of_isWordChar hname.ne_nil hname.word).append _
  | not =>
    rw [display]
    exact solid_cons (by decide) _
  | and htwo _ _ ih =>
    rw [display]
    exact solid_displayAll (List.length_pos_iff.1 (by omega)) ih
  | or htwo _ _ ih =>
    rw [display]
    exact solid_displayAll (List.length_pos_iff.1 (by omega)) ih
  | group =>
    rw [display]
    exact solid_cons (by decide) _

section

variable {admits : Text → Prop} {next? : Text → Option Text} {sign : Text}
  {operand : Text → Reading Query} {combine : List Query → Query} {qs : List Query} {rest : Text}

theorem admits_displayMore (hsign : ∀ x, admits (sign ++ x)) (ha : admits rest) :
    admits (displayMore sign qs ++ rest) := by
  cases qs with
  | nil => exact ha
  | cons q qs =>
    have hsplit : displayMore sign (q :: qs) ++ rest =
        sign ++ (q.display ++ (displayMore sign qs ++ rest)) := by
      simp [displayMore]
    rw [hsplit]
    exact hsign _

theorem readMore_displayMore (hj : Joins next? sign) (hsign : ∀ x, admits (sign ++ x))
    (hop : ∀ q ∈ qs, Solid q.display ∧ Rereads admits operand q) (ha : admits rest)
    (hn : next? rest = none) :
    readMore next? operand (displayMore sign qs ++ rest) = .ok (qs, rest) := by
  induction qs with
  | nil => exact readMore_of_none hn
  | cons q qs ih =>
    obtain ⟨hsolid, hread⟩ := hop q List.mem_cons_self
    have hmore := ih fun q hq => hop q (List.mem_cons_of_mem _ hq)
    have hsplit : displayMore sign (q :: qs) ++ rest =
        sign ++ (q.display ++ (displayMore sign qs ++ rest)) := by
      simp [displayMore]
    have hpos : 0 < sign.length := List.length_pos_iff.2 hj.sign_ne_nil
    have hshort : (displayMore sign qs ++ rest).length <
        (sign ++ (q.display ++ (displayMore sign qs ++ rest))).length := by
      simp
      omega
    rw [hsplit, readMore_of_ok (hj.next?_sign _ (hsolid.append _))
      (hread _ (admits_displayMore hsign ha)) hshort, hmore]
    rfl

theorem rereads_single (h : Rereads admits operand q) :
    Rereads (fun rest => admits rest ∧ next? rest = none) (readJoined combine next? operand) q := by
  intro rest hrest
  obtain ⟨ha, hn⟩ := hrest
  simp [readJoined, h rest ha, readMore_of_none hn, Except.map]

theorem rereads_joined (hj : Joins next? sign) (hsign : ∀ x, admits (sign ++ x))
    (hop : ∀ q ∈ qs, Solid q.display ∧ Rereads admits operand q) (htwo : 2 ≤ qs.length)
    (hdisplay : (combine qs).display = displayAll sign qs) :
    Rereads (fun rest => admits rest ∧ next? rest = none) (readJoined combine next? operand)
      (combine qs) := by
  intro rest hrest
  obtain ⟨ha, hn⟩ := hrest
  obtain ⟨q, qs, rfl⟩ := List.exists_cons_of_length_pos (show 0 < qs.length by omega)
  have hne : qs ≠ [] := by
    rintro rfl
    simp at htwo
  have hadmits : admits (displayMore sign qs ++ rest) := admits_displayMore hsign ha
  have hfirst := (hop q List.mem_cons_self).2 _ hadmits
  have hmore := readMore_displayMore hj hsign
    (fun q hq => hop q (List.mem_cons_of_mem _ hq)) ha hn
  rw [hdisplay, displayAll_cons, List.append_assoc]
  simp only [readJoined, hfirst, hmore, Except.map, if_neg hne]

end

section

variable {operand : Text → Reading Query} {depth : Nat} {rest : Text}

theorem readPhrase_display {text : Text} (hne : text ≠ []) (hquote : '"' ∉ text) (rest : Text) :
    readPhrase (text ++ '"' :: rest) = .ok (phrase text, rest) := by
  refine readPhrase_of_cut? hne (Text.cut?_eq_some_iff.2 ⟨by simp, fun u v huv => ?_⟩)
  rcases List.eq_nil_or_concat' v with rfl | ⟨v, c, rfl⟩
  · rfl
  · -- a mark before the last one would lie in the text
    have htext : text = u ++ ['"'] ++ v := by
      rw [← List.append_assoc] at huv
      exact (List.append_inj' huv rfl).1
    simp [htext] at hquote

theorem rereads_pattern {p : Text} (hp : p ≠ []) (hlast : p.getLast? ≠ some '\\') :
    Rereads Ends readPattern (pattern p) :=
  fun rest _ => readPattern_display hp hlast rest

theorem rereads_value_leaf {l : Leaf} (hl : l.Writable)
    (hslash : l.kind = .word → l.text.head? ≠ some '/') :
    Rereads Ends (readValue operand) (leaf l) := by
  intro rest hrest
  obtain ⟨kind, text⟩ := l
  obtain ⟨hne, htext⟩ := hl
  cases kind with
  | word =>
    obtain ⟨c, w, rfl⟩ := List.exists_cons_of_ne_nil hne
    have hc : c ≠ '/' := by
      rintro rfl
      exact hslash rfl rfl
    have hword : leadingWord (c :: (w ++ rest)) = c :: w := leadingWord_append htext hrest.endsWord
    have hdisplay : (leaf ⟨.word, c :: w⟩).display ++ rest = c :: (w ++ rest) := rfl
    rw [hdisplay, readValue_of_isWordChar (htext c List.mem_cons_self), startsPattern_of_ne hc,
      hword]
    simp [word]
  | pattern => exact readValue_pattern hne htext hrest
  | phrase =>
    have hdisplay : (leaf ⟨.phrase, text⟩).display ++ rest = '"' :: (text ++ '"' :: rest) := by
      simp [display, displayLeaf]
    rw [hdisplay]
    exact readPhrase_display hne htext rest

theorem rereads_group (hsolid : Solid q.display) (h : Rereads Final (readOr operand) q)
    (rest : Text) :
    readGroup operand (q.display ++ ')' :: rest) = .ok (group q, rest) :=
  readGroup_of_readOr hsolid (h _ (final_close rest))

theorem display_group_append (q : Query) (rest : Text) :
    (group q).display ++ rest = '(' :: (q.display ++ ')' :: rest) := by
  simp [display]

theorem readOperand_of_negated? {t : Text} (h : negated? t = none) :
    readOperand delimiter (depth + 1) t =
      readPrimary delimiter (readOperand delimiter depth) t := by
  simp only [readOperand, h]

/-- What starts with a word that is no keyword and no negation is read as a word or a field. -/
theorem readOperand_of_word {w x : Text} (hne : w ≠ []) (hw : ∀ c ∈ w, isWordChar c = true)
    (hslash : w.head? ≠ some '/') (hkey : isKeyword (leadingWord (w ++ x)) = false)
    (hdash : w.head? = some '-' → w = ['-'] ∧ Ends x) :
    readOperand delimiter (depth + 1) (w ++ x) =
      readWord delimiter (readOperand delimiter depth) (w ++ x) := by
  rw [readOperand_of_negated? (negated?_eq_none hne hkey hdash)]
  obtain ⟨c, w, rfl⟩ := List.exists_cons_of_ne_nil hne
  refine readPrimary_of_isWordChar (hw c List.mem_cons_self) ?_ _
  rintro rfl
  exact hslash rfl

theorem rereads_leaf {l : Leaf} (hl : l.Writable)
    (hbare : l.kind = .word → Bare delimiter l.text) :
    Rereads Ends (readOperand delimiter (depth + 1)) (leaf l) := by
  intro rest hrest
  obtain ⟨kind, text⟩ := l
  obtain ⟨hne, htext⟩ := hl
  cases kind with
  | word =>
    obtain ⟨hkey, hslash, hdash, hplain⟩ := hbare rfl
    have hword : leadingWord (text ++ rest) = text := leadingWord_append htext hrest.endsWord
    have hdisplay : (leaf ⟨.word, text⟩).display ++ rest = text ++ rest := rfl
    rw [hdisplay, readOperand_of_word hne htext hslash (by rwa [hword]) fun h => ⟨hdash h, hrest⟩]
    exact readWord_word hne hword hkey (fieldName?_eq_none_iff.2 hplain)
  | pattern =>
    rw [readOperand_of_negated? rfl]
    exact rereads_pattern hne htext rest hrest
  | phrase =>
    have hdisplay : (leaf ⟨.phrase, text⟩).display ++ rest = '"' :: (text ++ '"' :: rest) := by
      simp [display, displayLeaf]
    rw [hdisplay, readOperand_of_negated? rfl]
    exact readPhrase_display hne htext rest

/-- A delimiter that is not written in capital letters alone keeps the name of a field from being
read as a keyword. -/
theorem rereads_field {name d : Text} (hd : delimiter = some d) (hname : IsName d name)
    (hword : ∀ c ∈ d, isWordChar c = true) (hcapital : ∃ c ∈ d, c.isUpper = false)
    (h : Rereads Ends (readValue (readOperand delimiter depth)) q) :
    Rereads Ends (readOperand delimiter (depth + 1)) (field name d q) := by
  intro rest hrest
  obtain ⟨c, hc, hlower⟩ := hcapital
  have hall : ∀ c ∈ name ++ d, isWordChar c = true := by
    intro c hc
    rcases List.mem_append.1 hc with hc | hc
    · exact hname.word c hc
    · exact hword c hc
  have hlead : leadingWord (name ++ d ++ (q.display ++ rest)) =
      name ++ d ++ leadingWord (q.display ++ rest) := List.takeWhile_append_of_pos hall
  have hkey : isKeyword (leadingWord (name ++ d ++ (q.display ++ rest))) = false := by
    rw [hlead]
    exact isKeyword_eq_false_of_mem hlower (by simp [hc])
  have hcut : Text.cut? d (leadingWord (name ++ d ++ (q.display ++ rest))) =
      some (name, leadingWord (q.display ++ rest)) := by
    rw [hlead]
    exact Text.cut?_eq_some_iff.2 ⟨rfl, hname.first⟩
  have hhead : (name ++ d).head? = name.head? := by
    obtain ⟨c, name, rfl⟩ := List.exists_cons_of_ne_nil hname.ne_nil
    rfl
  have hne : name ++ d ≠ [] := by simp [hname.ne_nil]
  have hsplit : (field name d q).display ++ rest = name ++ d ++ (q.display ++ rest) := by
    simp [display]
  rw [hsplit, readOperand_of_word hne hall (by rw [hhead]; exact hname.slash) hkey
    fun h => absurd (hhead.symm.trans h) hname.dash]
  subst hd
  rw [readWord_field hname.ne_nil hcut hkey, h rest hrest]
  rfl

theorem rereads_not (hsolid : Solid q.display) (h : Rereads Ends (readOperand delimiter depth) q) :
    Rereads Ends (readOperand delimiter (depth + 1)) (not q) := by
  intro rest hrest
  have hdisplay : (not q).display ++ rest = notSign ++ (q.display ++ rest) := by
    rw [display, List.append_assoc]
  rw [hdisplay]
  simp only [readOperand, negated?_notSign (hsolid.append rest), h rest hrest, Except.map]

end

/-- At each level of the reader, the query is read back if its shape belongs there. -/
structure Reread (delimiter : Option Text) (depth : Nat) (q : Query) : Prop where
  operand : q.isOperand = true → Rereads Ends (readOperand delimiter depth) q
  and : q.isOr = false →
    Rereads (fun rest => Ends rest ∧ andNext? rest = none) (readAnd (readOperand delimiter depth)) q
  or : Rereads Final (readOr (readOperand delimiter depth)) q

variable {depth : Nat}

theorem Reread.of_operand (h : Rereads Ends (readOperand delimiter depth) q) :
    Reread delimiter depth q :=
  ⟨fun _ => h, fun _ => rereads_single h, rereads_single (rereads_single h)⟩

theorem Reread.of_and
    (h : Rereads (fun rest => Ends rest ∧ andNext? rest = none)
      (readAnd (readOperand delimiter depth)) q) (hop : q.isOperand = false) :
    Reread delimiter depth q :=
  ⟨fun hq => by simp [hop] at hq, fun _ => h, rereads_single h⟩

theorem reread_and {qs : List Query} (htwo : 2 ≤ qs.length)
    (hqs : ∀ q ∈ qs, Solid q.display ∧ Rereads Ends (readOperand delimiter depth) q) :
    Reread delimiter depth (and qs) :=
  .of_and (rereads_joined joins_and joins_and.ends_sign hqs htwo (by rw [display])) rfl

theorem reread_or {qs : List Query} (htwo : 2 ≤ qs.length)
    (hqs : ∀ q ∈ qs, Solid q.display ∧ Rereads (fun rest => Ends rest ∧ andNext? rest = none)
      (readAnd (readOperand delimiter depth)) q) : Reread delimiter depth (or qs) :=
  ⟨fun h => (by cases h), fun h => (by cases h),
    rereads_joined joins_or (fun x => ⟨joins_or.ends_sign x, andNext?_orSign x⟩) hqs htwo
      (by rw [display])⟩

/-- By induction on the normal form: the level that an operand is read at has one level left for
what it holds. -/
theorem reread_of_normal
    (hd : ∀ d ∈ delimiter, (∀ c ∈ d, isWordChar c = true) ∧ ∃ c ∈ d, c.isUpper = false)
    (hq : Normal delimiter (·.head? ≠ some '/') q) (hdepth : q.nesting < depth) :
    Reread delimiter depth q := by
  induction hq generalizing depth with
  | leaf hl hbare =>
    obtain ⟨n, rfl⟩ := Nat.exists_eq_add_of_lt hdepth
    exact .of_operand (rereads_leaf hl hbare)
  | fieldLeaf hdel hname hl hvalue =>
    obtain ⟨n, rfl⟩ := Nat.exists_eq_add_of_lt hdepth
    obtain ⟨hword, hcapital⟩ := hd _ hdel
    exact .of_operand (rereads_field hdel hname hword hcapital (rereads_value_leaf hl hvalue))
  | @fieldGroup name d q hdel hname hq ih =>
    obtain ⟨n, rfl⟩ : ∃ n, depth = n + 1 := ⟨depth - 1, by omega⟩
    obtain ⟨hword, hcapital⟩ := hd _ hdel
    have hor := (ih (Nat.lt_of_succ_lt_succ hdepth)).or
    refine .of_operand (rereads_field hdel hname hword hcapital fun rest _ => ?_)
    rw [display_group_append]
    exact rereads_group (solid_display hq) hor rest
  | not hop hq ih =>
    obtain ⟨n, rfl⟩ : ∃ n, depth = n + 1 := ⟨depth - 1, by omega⟩
    exact .of_operand (rereads_not (solid_display hq)
      ((ih (Nat.lt_of_succ_lt_succ hdepth)).operand hop))
  | and htwo hop hqs ih =>
    have hlt := (nestingOfAll_lt_iff (List.length_pos_iff.1 (by omega))).1 hdepth
    exact reread_and htwo fun q hq =>
      ⟨solid_display (hqs q hq), (ih q hq (hlt q hq)).operand (hop q hq)⟩
  | or htwo hor hqs ih =>
    have hlt := (nestingOfAll_lt_iff (List.length_pos_iff.1 (by omega))).1 hdepth
    exact reread_or htwo fun q hq =>
      ⟨solid_display (hqs q hq), (ih q hq (hlt q hq)).and (hor q hq)⟩
  | group hq ih =>
    obtain ⟨n, rfl⟩ : ∃ n, depth = n + 1 := ⟨depth - 1, by omega⟩
    have hor := (ih (Nat.lt_of_succ_lt_succ hdepth)).or
    refine .of_operand fun rest _ => ?_
    rw [display_group_append, readOperand_of_negated? rfl]
    exact rereads_group (solid_display hq) hor rest

/-- A query in normal form is read from some text exactly if it is read from its display, and that
is exactly if no way through it has more groups and negations than the limit lets through. -/
theorem parse_eq_ok_iff_nesting
    (hd : ∀ d ∈ delimiter, (∀ c ∈ d, isWordChar c = true) ∧ ∃ c ∈ d, c.isUpper = false)
    (hq : Normal delimiter (·.head? ≠ some '/') q) :
    (parse delimiter q.display = .ok q ↔ q.nesting ≤ 255) ∧
      ((∃ t, parse delimiter t = .ok q) ↔ q.nesting ≤ 255) := by
  have hlimit : ∀ {t}, parse delimiter t = .ok q → q.nesting ≤ 255 :=
    fun h => Nat.le_of_lt_succ (within_of_parse h).2
  have hread : q.nesting ≤ 255 → parse delimiter q.display = .ok q := by
    intro hle
    have hor := (reread_of_normal hd hq (Nat.lt_succ_of_le hle)).or [] final_nil
    rw [List.append_nil] at hor
    have hall : readAll delimiter q.display = .ok q := by
      unfold readAll
      rw [(solid_display hq).trimStart, depthLimit, hor]
      rfl
    unfold parse
    rw [hall]
  exact ⟨⟨hlimit, hread⟩, fun ⟨_, h⟩ => hlimit h, fun hle => ⟨_, hread hle⟩⟩

/-- A dash that is a word, a pattern with a slash as the value of a field, and a choice in a group
under a negation. -/
theorem parse_eq_ok_of_dashes :
    let tree := and [word ['-'], field ['f'] [':'] (pattern ['a', '/', 'b']),
      .not (group (or [word ['x'], phrase ['(']]))]
    Normal (some [':']) (·.head? ≠ some '/') tree ∧ parse (some [':']) tree.display = .ok tree := by
  have pair : ∀ {P : Query → Prop} {a b : Query}, P a → P b → ∀ q ∈ [a, b], P q :=
    fun ha hb => List.forall_mem_cons.2 ⟨ha, List.forall_mem_singleton.2 hb⟩
  have hdash : Normal (some [':']) (·.head? ≠ some '/') (word ['-']) :=
    .leaf ⟨by simp, List.all_eq_true.1 rfl⟩ fun _ =>
      ⟨rfl, by simp, fun _ => rfl, fieldName?_eq_none_iff.1 rfl⟩
  have hx : Normal (some [':']) (·.head? ≠ some '/') (word ['x']) :=
    .leaf ⟨by simp, List.all_eq_true.1 rfl⟩ fun _ =>
      ⟨rfl, by simp, by simp, fieldName?_eq_none_iff.1 rfl⟩
  have hphrase : Normal (some [':']) (·.head? ≠ some '/') (phrase ['(']) :=
    .leaf ⟨by simp, by simp⟩ fun h => by cases h
  have hor : Normal (some [':']) (·.head? ≠ some '/') (or [word ['x'], phrase ['(']]) :=
    .or (by simp) (pair rfl rfl) (pair hx hphrase)
  have hname : IsName [':'] ['f'] :=
    ⟨by simp, List.all_eq_true.1 rfl, by simp, by simp,
      (Text.cut?_eq_some_iff.1 (rfl : Text.cut? [':'] ['f', ':'] = some (['f'], []))).2⟩
  have hfield : Normal (some [':']) (·.head? ≠ some '/')
      (field ['f'] [':'] (pattern ['a', '/', 'b'])) :=
    .fieldLeaf rfl hname ⟨by simp, by simp⟩ fun h => by cases h
  have htree : Normal (some [':']) (·.head? ≠ some '/')
      (and [word ['-'], field ['f'] [':'] (pattern ['a', '/', 'b']),
        .not (group (or [word ['x'], phrase ['(']]))]) :=
    .and (by simp)
      (List.forall_mem_cons.2 ⟨rfl, pair rfl rfl⟩)
      (List.forall_mem_cons.2 ⟨hdash, pair hfield (.not rfl (.group hor))⟩)
  have hd : ∀ d ∈ some [':'], (∀ c ∈ d, isWordChar c = true) ∧ ∃ c ∈ d, c.isUpper = false := by
    rintro d ⟨⟩
    exact ⟨List.all_eq_true.1 rfl, ':', List.mem_cons_self, rfl⟩
  exact ⟨htree, (parse_eq_ok_iff_nesting hd htree).1.2 (by decide)⟩

end Query

end TextSieve
