import TextSieve.Proofs.Pattern.Guarded
import TextSieve.Proofs.Query.Fragments
import TextSieve.Proofs.Term.Delimiters
import TextSieve.Proofs.Term.Tokens

/-! The search for all spans of a term. It goes on from where the last span has ended, or one
character further, so every text is searched to its end, and each span is the group of a match that
was found behind the one before it. Delimiters that are never empty keep the spans apart, even empty
ones: away from the start of the text no match can begin without a delimiter, and the group comes
behind it. -/

namespace TextSieve

open Pattern Reader

/-- What the search lists from a cursor on, if it comes to an end. -/
inductive Scans (r : Regex) (text : Text) : Cursor → List Span → Prop
  | none {k : Cursor} (h : (r.search k).bind (·.group? termGroup) = none) : Scans r text k []
  /-- The search goes on where the span ends. -/
  | on {k m : Cursor} {s : Span} {spans : List Span}
    (h : (r.search k).bind (·.group? termGroup) = some s) (hs : k.offset < s.stop)
    (hm : m.In text) (hoffset : m.offset = s.stop) (hrest : Scans r text m spans) :
    Scans r text k (s :: spans)
  /-- The span is empty and at the cursor, and the next character is passed over. -/
  | stepped {k m : Cursor} {s : Span} {spans : List Span}
    (h : (r.search k).bind (·.group? termGroup) = some s) (hs : s.stop ≤ k.offset)
    (hm : k.next? = some m) (hrest : Scans r text m spans) : Scans r text k (s :: spans)
  | last {k : Cursor} {s : Span} (h : (r.search k).bind (·.group? termGroup) = some s)
    (hs : s.stop ≤ k.offset) (hm : k.next? = none) : Scans r text k [s]

variable {r : Regex} {text : Text} {k m : Cursor} {s : Span} {spans : List Span}

theorem Pattern.Cursor.In.next (hk : k.In text) (hm : k.next? = some m) :
    m.In text ∧ k.offset < m.offset := by
  unfold Cursor.next? at hm
  split at hm
  · cases hm
  · rename_i c rest hrest
    obtain rfl := Option.some.inj hm
    exact ⟨hk.past hrest, Nat.lt_add_of_pos_right c.utf8Size_pos⟩

/-- The further a place, the less text is left. -/
theorem Pattern.Cursor.In.length_lt (hk : k.In text) (hm : m.In text) (h : k.offset < m.offset) :
    m.rest.length < k.rest.length := by
  obtain ⟨u, v, rfl, rfl⟩ := hk
  obtain ⟨u', v', he, rfl⟩ := hm
  obtain ⟨w, rfl, rfl⟩ := Text.exists_of_size_le he (Nat.le_of_lt h)
  cases w with
  | nil => simp [Cursor.between] at h
  | cons c w =>
    simp only [Cursor.between, List.cons_append, List.length_cons, List.length_append]
    omega

/-- A move to a place of the text that lies ahead gets there. -/
theorem Pattern.Cursor.In.offset_moveTo (hk : k.In text) {n : Nat} (hn : text.isBoundary n = true)
    (hle : k.offset ≤ n) : (k.moveTo n).offset = n := by
  obtain ⟨u, v, rfl, rfl⟩ := hk
  obtain ⟨u', v', he, rfl⟩ := Text.isBoundary_iff.1 hn
  obtain ⟨w, rfl, rfl⟩ := Text.exists_of_size_le he hle
  rw [moveTo_between]
  rfl

theorem exists_search_of_bind (h : (r.search k).bind (·.group? termGroup) = some s) :
    ∃ f, r.search k = some f ∧ f.group? termGroup = some s :=
  Option.bind_eq_some_iff.1 h

theorem within_of_bind (hk : k.In text) (h : (r.search k).bind (·.group? termGroup) = some s) :
    k.offset ≤ s.start ∧ s.Within text := by
  obtain ⟨f, hf, hs⟩ := exists_search_of_bind h
  exact (Regex.sound_of_search hk hf).group? hs

/-- With a round for every place that is left, the search comes to its end. -/
theorem scans_termSpansFrom {n : Nat} (hk : k.In text) (hn : k.rest.length < n) :
    Scans r text k (termSpansFrom r n k) := by
  induction n generalizing k with
  | zero => exact absurd hn (Nat.not_lt_zero _)
  | succ n ih =>
    unfold termSpansFrom
    split
    · rename_i h
      exact .none h
    · rename_i s h
      obtain ⟨-, hwithin⟩ := within_of_bind hk h
      split
      · rename_i hs
        have hoffset := hk.offset_moveTo hwithin.stop_boundary (Nat.le_of_lt hs)
        have hm := (hk.moveTo s.stop).1
        have hlt := hk.length_lt hm (by omega)
        exact .on h hs hm hoffset (ih hm (by omega))
      · rename_i hs
        have hle : s.stop ≤ k.offset := Nat.le_of_not_lt hs
        cases hrest : k.rest with
        | nil => exact .last h hle (by simp [Cursor.next?, hrest])
        | cons c rest =>
          have hnext : k.next? = some (k.past c rest) := by simp [Cursor.next?, hrest]
          obtain ⟨hm, hlt⟩ := hk.next hnext
          have hlength := hk.length_lt hm hlt
          exact .stepped h hle hnext (ih hm (by omega))

theorem scans_termSpans (r : Regex) (text : Text) :
    Scans r text (Cursor.start text) (termSpans r text) :=
  scans_termSpansFrom (.start text) (Nat.lt_succ_self _)

namespace Scans

/-- There is nothing else that the search can list. -/
theorem termSpansFrom_eq (h : Scans r text k spans) (hk : k.In text) {n : Nat}
    (hn : k.rest.length < n) : termSpansFrom r n k = spans := by
  induction h generalizing n with
  | none h => exact termSpansFrom_of_none h
  | @on k m s spans h hs hm hoffset _ ih =>
    obtain ⟨n, rfl⟩ := Nat.exists_eq_add_one_of_ne_zero (Nat.ne_zero_of_lt hn)
    have hmoved : k.moveTo s.stop = m := by
      have hstop := (within_of_bind hk h).2.stop_boundary
      exact (hk.moveTo s.stop).1.eq_of_offset hm
        ((hk.offset_moveTo hstop (Nat.le_of_lt hs)).trans hoffset.symm)
    have hlt := hk.length_lt hm (by omega)
    simp only [termSpansFrom, h, if_pos hs, hmoved, ih hm (n := n) (by omega)]
  | @stepped k m s spans h hs hm _ ih =>
    obtain ⟨n, rfl⟩ := Nat.exists_eq_add_one_of_ne_zero (Nat.ne_zero_of_lt hn)
    obtain ⟨hin, hlt⟩ := hk.next hm
    have hlength := hk.length_lt hin hlt
    have hrest := ih hin (n := n) (by omega)
    unfold Cursor.next? at hm
    split at hm
    · cases hm
    · rename_i c rest hcons
      obtain rfl := Option.some.inj hm
      simp only [termSpansFrom, h, if_neg (Nat.not_lt.2 hs), hcons, hrest]
  | @last k s h hs hm =>
    obtain ⟨n, rfl⟩ := Nat.exists_eq_add_one_of_ne_zero (Nat.ne_zero_of_lt hn)
    unfold Cursor.next? at hm
    split at hm
    · rename_i hnil
      simp only [termSpansFrom, h, if_neg (Nat.not_lt.2 hs), hnil]
    · cases hm

theorem termSpans_eq (h : Scans r text (Cursor.start text) spans) : termSpans r text = spans :=
  h.termSpansFrom_eq (.start text) (Nat.lt_succ_self _)

/-- There is at most one span for each place. -/
theorem length_le (h : Scans r text k spans) (hk : k.In text) :
    spans.length ≤ k.rest.length + 1 := by
  induction h with
  | none h => simp
  | on h hs hm hoffset _ ih =>
    have hlt := hk.length_lt hm (by omega)
    have hle := ih hm
    simp only [List.length_cons]
    omega
  | stepped h hs hm _ ih =>
    obtain ⟨hin, hlt⟩ := hk.next hm
    have hlength := hk.length_lt hin hlt
    have hle := ih hin
    simp only [List.length_cons]
    omega
  | last h hs hm => simp

theorem ne_nil_iff (h : Scans r text k spans) :
    spans ≠ [] ↔ ((r.search k).bind (·.group? termGroup)).isSome = true := by
  cases h with
  | none h => simp [h]
  | on h => simp [h]
  | stepped h => simp [h]
  | last h => simp [h]

/-- Every span was found by a search. -/
theorem exists_search (h : Scans r text k spans) (hk : k.In text) :
    ∀ s ∈ spans, ∃ m, m.In text ∧ (r.search m).bind (·.group? termGroup) = some s := by
  induction h with
  | none h => simp
  | on h hs hm _ _ ih => exact List.forall_mem_cons.2 ⟨⟨_, hk, h⟩, ih hm⟩
  | stepped h hs hm _ ih => exact List.forall_mem_cons.2 ⟨⟨_, hk, h⟩, ih (hk.next hm).1⟩
  | last h hs hm => exact List.forall_mem_singleton.2 ⟨_, hk, h⟩

/-- If no search but one at the start of the text can find a span where it begins, spans start one
behind the other. -/
theorem pairwise_start (hguard : ∀ m s, m.In text → 0 < m.offset →
      (r.search m).bind (·.group? termGroup) = some s → m.offset < s.start)
    (h : Scans r text k spans) (hk : k.In text) :
    (∀ s ∈ spans, 0 < k.offset → k.offset < s.start) ∧ spans.Pairwise (·.start < ·.start) := by
  induction h with
  | none h => simp
  | @on k m s spans h hs hm hoffset _ ih =>
    obtain ⟨hall, hpair⟩ := ih hm
    have hstart := (within_of_bind hk h).2.start_le
    have hbehind : ∀ s' ∈ spans, s.stop < s'.start := fun s' hs' =>
      hoffset ▸ hall s' hs' (by omega)
    refine ⟨List.forall_mem_cons.2 ⟨fun hpos => hguard k s hk hpos h, fun s' hs' _ => ?_⟩,
      List.pairwise_cons.2 ⟨fun s' hs' => ?_, hpair⟩⟩
    · exact Nat.lt_trans hs (hbehind s' hs')
    · exact Nat.lt_of_le_of_lt hstart (hbehind s' hs')
  | @stepped k m s spans h hs hm _ ih =>
    obtain ⟨hin, hlt⟩ := hk.next hm
    obtain ⟨hall, hpair⟩ := ih hin
    have hstart := (within_of_bind hk h).2.start_le
    have hbehind : ∀ s' ∈ spans, k.offset < s'.start := fun s' hs' =>
      Nat.lt_trans hlt (hall s' hs' (by omega))
    refine ⟨List.forall_mem_cons.2 ⟨fun hpos => hguard k s hk hpos h, fun s' hs' _ => hbehind s' hs'⟩,
      List.pairwise_cons.2 ⟨fun s' hs' => ?_, hpair⟩⟩
    exact Nat.lt_of_le_of_lt (Nat.le_trans hstart hs) (hbehind s' hs')
  | @last k s h hs hm =>
    exact ⟨List.forall_mem_singleton.2 fun hpos => hguard k s hk hpos h, List.pairwise_singleton _ s⟩

end Scans

section

variable {caseless : Bool} {ds : List Text}

theorem Text.Alike.ne_nil {w d : Text} (h : w.Alike caseless d) (hd : d ≠ []) : w ≠ [] := by
  rintro rfl
  cases caseless with
  | false => exact hd h.symm
  | true => exact hd (List.map_eq_nil_iff.1 (Eq.symm h))

/-- A delimiter that is not empty takes a match on. -/
theorem offset_lt_of_goes_anyOf (hne : ds ≠ []) (hlit : [] ∉ ds) (hk : k.In text) {f : Thread}
    (h : (anyOf caseless ds).Goes (.startAt k) f) : k.offset < f.offset := by
  obtain ⟨u, v, rfl, rfl⟩ := hk
  obtain ⟨w, v', rfl, hcursor, hw⟩ := (Regex.agree_goes _ _ u v rfl _).1 ⟨f, h, rfl⟩
  obtain ⟨_, hmem, hw⟩ := (Regex.matches_alts (by simpa using hne)).1 hw
  obtain ⟨d, hd, rfl⟩ := List.mem_map.1 hmem
  have hword : w ≠ [] := (matches_letters.1 hw).ne_nil fun hnil => hlit (hnil ▸ hd)
  obtain ⟨c, w, rfl⟩ := List.exists_cons_of_ne_nil hword
  have hpos := c.utf8Size_pos
  rw [Thread.offset, hcursor]
  simp only [Cursor.between, Text.size_append, Text.size_cons]
  omega

theorem regex_startItem (g : Item) : (startItem g).regex = .alt (.look .textStart) g.regex := rfl

/-- Away from the start of the text only a delimiter can stand in front of the group. -/
theorem offset_lt_of_goes_startItem (hne : ds ≠ []) (hlit : [] ∉ ds) (hk : k.In text)
    (hpos : 0 < k.offset) {f : Thread}
    (h : (startItem (anyOfItem caseless ds)).regex.Goes (.startAt k) f) : k.offset < f.offset := by
  rw [regex_startItem, regex_anyOfItem] at h
  rcases h with ⟨-, hstart⟩ | h
  · obtain ⟨u, v, rfl, rfl⟩ := hk
    have hu : u = [] := by simpa [Thread.meets, Thread.startAt, Look.holds] using hstart
    simp [hu, Cursor.between] at hpos
  · exact offset_lt_of_goes_anyOf hne hlit hk h

/-- However the body of a term goes on, its group stands behind a delimiter or the start of the
text. -/
theorem guards_of_read? {body fragment : Text} {g : Item} {e : Reader}
    (hg : ReadsAs caseless fragment [g]) (hf : fragment.head? ≠ some '?')
    (h : read? { flags := { caseless := caseless } } 0 (anchored body fragment) = some e) :
    Guards termGroup (startItem g) e := by
  let s : Reader := append { flags := { caseless := caseless } } [startItem g]
  have hs : Plain caseless s := ⟨rfl, rfl⟩
  rw [read?_anchored hg hf, List.append_assoc (_ ++ body), List.append_assoc,
    read?_openNamed hs (by decide) (by decide) (by simp [s, append])] at h
  exact Guards.read ⟨.within _ clear_nil, List.mem_cons_self⟩ h

/-- Away from the start of the text, the term of a match begins behind a delimiter. -/
theorem lt_start_of_compile (hne : ds ≠ []) (hlit : [] ∉ ds) {key : TermKey} {t : CompiledTerm}
    (hfragment : key.fragment = Delimiter.choice (ds.map escape))
    (ht : CompiledTerm.compile key = .ok t) (hk : k.In text) (hpos : 0 < k.offset)
    (h : ((t.matcher caseless).search k).bind (·.group? termGroup) = some s) :
    k.offset < s.start := by
  obtain ⟨fuzzy, hfuzzy⟩ := exists_parse_of_compile ht
  have hmatcher := matcher_of_compile ht hfuzzy caseless
  rw [hfragment] at hmatcher
  obtain ⟨e, hown, -, -, hregex⟩ := ofPattern?_eq_some_iff.1 hmatcher
  have hguards := guards_of_read? (readsAs_choice hne) (by simp [Delimiter.choice]) hown.read
  obtain ⟨rest, others, hchoice, hothers⟩ := hguards.choice hown.outers
  obtain ⟨f, hf, hs⟩ := exists_search_of_bind h
  rw [← hregex, hchoice] at hf
  have hfront : (startItem (anyOfItem caseless ds)).regex.Ungrouped := by
    rw [regex_startItem, regex_anyOfItem]
    exact ⟨trivial, ungrouped_anyOf ds⟩
  obtain ⟨k', m, hk', hle, hm, hstart⟩ := Regex.exists_front_of_search hfront hothers hk hf hs
  have hlt := offset_lt_of_goes_startItem hne hlit hk' (by omega) hm
  omega

end

/-- The search for the spans of a term ends on every text with one list. Its spans are groups of
matches, in their order and apart from each other, and there are some exactly if the first match has
the group. Spans start one behind the other wherever the earlier one is not empty, and everywhere if
all delimiters are literals and none is empty. -/
theorem termSpans_sound {key : TermKey} {t : CompiledTerm} (ht : CompiledTerm.compile key = .ok t)
    (ignoreCase : Bool) (text : Text) :
    let r := t.matcher ignoreCase
    let spans := termSpans r text
    (∀ spans', Scans r text (Cursor.start text) spans' ↔ spans' = spans) ∧
    spans.length ≤ text.length + 1 ∧
    (∀ s ∈ spans, s.Within text ∧ ∃ k k' f, k.In text ∧ k'.In text ∧ k.offset ≤ k'.offset ∧
      r.search k = some f ∧ r.Goes (.startAt k') f ∧ f.group? termGroup = some s) ∧
    spans.Pairwise (·.stop ≤ ·.start) ∧
    (spans ≠ [] ↔
      ∃ f, r.search (Cursor.start text) = some f ∧ (f.group? termGroup).isSome = true) ∧
    spans.Pairwise (fun a b => a.start < a.stop → a.start < b.start) ∧
    ∀ (o : Options) (ds : List Text) (resolved : Resolved), o.delimiters = ds.map .literal →
      [] ∉ ds → o.resolve = .ok resolved → key.fragment = resolved.fragment →
      spans.Pairwise (·.start < ·.start) ∧ spans.Nodup := by
  intro r spans
  have hscans := scans_termSpans r text
  have hpair := pairwise_termSpans r text
  refine ⟨?_, hscans.length_le (.start text), ?_, hpair, ?_, ?_, ?_⟩
  · intro spans'
    exact ⟨fun h => h.termSpans_eq.symm, fun h => h ▸ hscans⟩
  · intro s hs
    obtain ⟨k, hk, hbind⟩ := hscans.exists_search (.start text) s hs
    obtain ⟨f, hf, hgroup⟩ := exists_search_of_bind hbind
    obtain ⟨k', hk', hle, hg⟩ := Regex.goes_of_search hk hf
    exact ⟨within_of_mem_termSpans r text s hs, k, k', f, hk, hk', hle, hf, hg, hgroup⟩
  · rw [hscans.ne_nil_iff]
    cases hsearch : r.search (Cursor.start text) with
    | none => simp
    | some f => simp
  · refine hpair.imp ?_
    intro a b hle hlt
    exact Nat.lt_of_lt_of_le hlt hle
  · intro o ds resolved hds hlit hresolve hfragment
    have hne : ds ≠ [] := by
      rintro rfl
      simp [Options.resolve, hds, Delimiter.fragment, Except.map] at hresolve
    rw [resolve_literals hds hne hlit] at hresolve
    obtain rfl := Except.ok.inj hresolve
    have hstarts := (hscans.pairwise_start
      (fun m s hm hpos h => lt_start_of_compile hne hlit hfragment ht hm hpos h) (.start text)).2
    refine ⟨hstarts, hstarts.imp ?_⟩
    rintro a b hlt rfl
    exact Nat.lt_irrefl _ hlt

/-- A pattern that can match the empty text does so between commas and at the end, each time at a
place further on. -/
theorem termSpans_sound_commas :
    let key : TermKey := ⟨['a', '*'], true, Delimiter.choice [escape [',']]⟩
    ∃ t, CompiledTerm.compile key = .ok t ∧
      termSpans (t.matcher false) ['a', ',', ','] = [⟨0, 1⟩, ⟨2, 2⟩, ⟨3, 3⟩] ∧
      (termSpans (t.matcher false) ['a', ',', ',']).Pairwise (·.start < ·.start) := by
  intro key
  have hspans : ((CompiledTerm.compile key).toOption.map fun t =>
      termSpans (t.matcher false) ['a', ',', ',']) = some [⟨0, 1⟩, ⟨2, 2⟩, ⟨3, 3⟩] := by
    decide +kernel
  cases ht : CompiledTerm.compile key with
  | error e =>
    rw [ht] at hspans
    cases hspans
  | ok t =>
    rw [ht] at hspans
    obtain ⟨-, -, -, -, -, -, hliteral⟩ := termSpans_sound ht false ['a', ',', ',']
    exact ⟨t, rfl, Option.some.inj hspans,
      (hliteral { delimiters := [.literal [',']] } [[',']] _ rfl (by simp) rfl rfl).1⟩

end TextSieve
