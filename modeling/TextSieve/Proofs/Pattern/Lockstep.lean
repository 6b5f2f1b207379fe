import Mathlib.Data.List.Forall2
import TextSieve.Proofs.Pattern.Walk

/-! Texts that an expression cannot tell apart. Two texts of one length are aligned character by
character; if every set of an expression contains both characters of a pair or neither, its runs on
the two texts go in lockstep, so that all matches are at the same places, counted in characters. -/

namespace TextSieve.Pattern

/-- Two texts of one length, character against character. -/
abbrev Aligned := List (Char × Char)

namespace Aligned

variable {z : Aligned}

abbrev left (z : Aligned) : Text := z.map Prod.fst

abbrev right (z : Aligned) : Text := z.map Prod.snd

theorem exists_of_forall₂ {R : Char → Char → Prop} {t t' : Text} (h : List.Forall₂ R t t') :
    ∃ z : Aligned, t = z.left ∧ t' = z.right ∧ ∀ p ∈ z, R p.1 p.2 := by
  induction h with
  | nil => exact ⟨[], rfl, rfl, by simp⟩
  | @cons c c' t t' hc _ ih =>
    obtain ⟨z, rfl, rfl, hz⟩ := ih
    exact ⟨(c, c') :: z, rfl, rfl, List.forall_mem_cons.2 ⟨hc, hz⟩⟩

theorem forall₂_iff {R : Char → Char → Prop} :
    List.Forall₂ R z.left z.right ↔ ∀ p ∈ z, R p.1 p.2 := by
  rw [List.forall₂_map_left_iff, List.forall₂_map_right_iff]
  exact List.forall₂_same

def Places (z : Aligned) (n n' : Nat) : Prop :=
  ∃ x y, z = x ++ y ∧ n = x.left.size ∧ n' = x.right.size

def Cursors (z : Aligned) (k k' : Cursor) : Prop :=
  ∃ x y, z = x ++ y ∧ k = .between x.left y.left ∧ k' = .between x.right y.right

def Spans (z : Aligned) (s s' : Span) : Prop :=
  z.Places s.start s'.start ∧ z.Places s.stop s'.stop

structure Threads (z : Aligned) (t t' : Thread) : Prop where
  start : z.Places t.start t'.start
  cursor : z.Cursors t.cursor t'.cursor
  opened : List.Forall₂ z.Places t.opened t'.opened
  groups : List.Forall₂ (fun g g' => g.1 = g'.1 ∧ z.Spans g.2 g'.2) t.groups t'.groups

theorem size_left_eq_zero_iff : Text.size z.left = 0 ↔ z = [] := by
  cases z with
  | nil => simp
  | cons p z => simpa using fun h => absurd h (Nat.ne_of_gt p.1.utf8Size_pos)

theorem size_right_eq_zero_iff : Text.size z.right = 0 ↔ z = [] := by
  cases z with
  | nil => simp
  | cons p z => simpa using fun h => absurd h (Nat.ne_of_gt p.2.utf8Size_pos)

/-- Of two places of the texts, one is behind the other by a part of the texts. -/
theorem Places.cases {m m' n n' : Nat} (hm : z.Places m m') (hn : z.Places n n') :
    ∃ w : Aligned, w.Sublist z ∧
      (n = m + w.left.size ∧ n' = m' + w.right.size ∨
        m = n + w.left.size ∧ m' = n' + w.right.size) := by
  obtain ⟨x, y, rfl, rfl, rfl⟩ := hm
  obtain ⟨x', y', h, rfl, rfl⟩ := hn
  rcases List.append_eq_append_iff.1 h with ⟨w, rfl, rfl⟩ | ⟨w, rfl, rfl⟩
  · exact ⟨w, by simp, .inl (by simp)⟩
  · exact ⟨w, by simp, .inr (by simp)⟩

theorem Places.eq_iff {m m' n n' : Nat} (hm : z.Places m m') (hn : z.Places n n') :
    m = n ↔ m' = n' := by
  obtain ⟨w, -, ⟨rfl, rfl⟩ | ⟨rfl, rfl⟩⟩ := hm.cases hn
  · simp [size_left_eq_zero_iff, size_right_eq_zero_iff]
  · simp [size_left_eq_zero_iff, size_right_eq_zero_iff]

theorem cursors_start (z : Aligned) : z.Cursors (.start z.left) (.start z.right) :=
  ⟨[], z, rfl, rfl, rfl⟩

namespace Cursors

variable {k k' : Cursor} (h : z.Cursors k k')

include h

theorem places : z.Places k.offset k'.offset := by
  obtain ⟨x, y, hz, rfl, rfl⟩ := h
  exact ⟨x, y, hz, rfl, rfl⟩

theorem length_rest : k.rest.length = k'.rest.length := by
  obtain ⟨x, y, -, rfl, rfl⟩ := h
  simp

/-- Both texts end, or go on with a pair of characters. -/
theorem cases_rest :
    k.rest = [] ∧ k'.rest = [] ∨
      ∃ p ∈ z, ∃ y : Aligned, k.rest = p.1 :: y.left ∧ k'.rest = p.2 :: y.right ∧
        z.Cursors (k.past p.1 y.left) (k'.past p.2 y.right) := by
  obtain ⟨x, y, rfl, rfl, rfl⟩ := h
  cases y with
  | nil => exact .inl ⟨rfl, rfl⟩
  | cons p y =>
    refine .inr ⟨p, by simp, y, rfl, rfl, x ++ [p], y, by simp, ?_, ?_⟩
    · simp [Cursor.past_between]
    · simp [Cursor.past_between]

theorem next? : Option.Rel z.Cursors k.next? k'.next? := by
  rcases h.cases_rest with ⟨hk, hk'⟩ | ⟨p, -, y, hk, hk', hpast⟩
  · simp only [Cursor.next?, hk, hk']
    exact .none
  · simp only [Cursor.next?, hk, hk']
    exact .some hpast

/-- The characters before and after the place. -/
theorem exists_around :
    ∃ b a : Option (Char × Char), (∀ p ∈ b, p ∈ z) ∧ (∀ p ∈ a, p ∈ z) ∧
      k.before = b.map Prod.fst ∧ k'.before = b.map Prod.snd ∧
      k.rest.head? = a.map Prod.fst ∧ k'.rest.head? = a.map Prod.snd := by
  obtain ⟨x, y, rfl, rfl, rfl⟩ := h
  refine ⟨x.getLast?, y.head?, fun p hp => ?_, fun p hp => ?_, ?_⟩
  · exact List.mem_append_left _ (List.mem_of_getLast? hp)
  · exact List.mem_append_right _ (List.mem_of_head? hp)
  · simp [List.getLast?_map, List.head?_map]

end Cursors

theorem Threads.places {t t' : Thread} (h : z.Threads t t') : z.Places t.offset t'.offset :=
  h.cursor.places

theorem rel_find? {gs gs' : List (Text × Span)}
    (h : List.Forall₂ (fun g g' => g.1 = g'.1 ∧ z.Spans g.2 g'.2) gs gs') (name : Text) :
    Option.Rel z.Spans ((gs.find? (·.1 == name)).map (·.2))
      ((gs'.find? (·.1 == name)).map (·.2)) := by
  induction h with
  | nil => exact .none
  | cons hg _ ih =>
    rw [List.find?_cons, List.find?_cons, hg.1]
    split
    · exact .some hg.2
    · exact ih

theorem Threads.group? {t t' : Thread} (h : z.Threads t t') (name : Text) :
    Option.Rel z.Spans (t.group? name) (t'.group? name) :=
  rel_find? h.groups name

/-- A span that is at the same places in both texts covers a part of the aligned texts. -/
theorem Spans.exists_slice {s s' : Span} (h : z.Spans s s') :
    ∃ w : Aligned, w.Sublist z ∧ z.left.slice s = w.left ∧ z.right.slice s' = w.right := by
  obtain ⟨start, stop⟩ := s
  obtain ⟨start', stop'⟩ := s'
  obtain ⟨⟨x, y, hz, rfl, rfl⟩, ⟨x', y', hz', rfl, rfl⟩⟩ := h
  rcases List.append_eq_append_iff.1 (hz.symm.trans hz') with ⟨w, rfl, rfl⟩ | ⟨w, rfl, rfl⟩
  · subst hz
    refine ⟨w, by simp, ?_, ?_⟩
    · simpa using Text.slice_append x.left (left w) y'.left
    · simpa using Text.slice_append x.right (right w) y'.right
  · refine ⟨[], List.nil_sublist _, ?_, ?_⟩
    · exact Text.slice_of_le (by simp) _
    · exact Text.slice_of_le (by simp) _

end Aligned

def Marks (K : Nat → Nat → Prop) (s s' : OffsetSet) : Prop :=
  ∀ n n', K n n' → s.contains n = s'.contains n'

section

variable {K : Nat → Nat → Prop} {s s' : OffsetSet}

theorem marks_empty : Marks K .empty .empty := by
  intro n n' _
  simp

theorem Marks.insert (h : Marks K s s') {m m' : Nat}
    (hm : ∀ n n', K n n' → (m = n ↔ m' = n')) : Marks K (s.insert m) (s'.insert m') := by
  intro n n' hn
  simp [h n n' hn, hm n n' hn]

/-- What is kept of lists that correspond corresponds. -/
theorem forall₂_firsts {α : Type} {P : α → α → Prop} {key : α → Nat}
    (hkey : ∀ a a', P a a' → K (key a) (key a'))
    (hK : ∀ m m' n n', K m m' → K n n' → (m = n ↔ m' = n')) (h : Marks K s s') {as as' : List α}
    (has : List.Forall₂ P as as') :
    List.Forall₂ P (Regex.firsts key s as) (Regex.firsts key s' as') := by
  induction has generalizing s s' with
  | nil => exact .nil
  | cons ha has ih =>
    have hk := hkey _ _ ha
    simp only [Regex.firsts, h _ _ hk]
    split
    · exact ih h
    · exact .cons ha (ih (h.insert fun n n' => hK _ _ n n' hk))

end

namespace Regex

variable {z : Aligned} {body : List Thread → List Thread}

/-- No set and no look of the expression tells the two texts apart. -/
def Blind (z : Aligned) : Regex → Prop
  | empty => True
  | one s => ∀ p ∈ z, s.contains p.1 = s.contains p.2
  | look l => ∀ b a : Option (Char × Char), (∀ p ∈ b, p ∈ z) → (∀ p ∈ a, p ∈ z) →
    l.holds (b.map Prod.fst) (a.map Prod.fst) = l.holds (b.map Prod.snd) (a.map Prod.snd)
  | cat r r' | alt r r' => Blind z r ∧ Blind z r'
  | rep r _ _ _ | group _ r => Blind z r

theorem blind_cats {rs : List Regex} (h : ∀ r ∈ rs, r.Blind z) : (cats rs).Blind z :=
  cats_of_forall trivial (fun _ _ ha hb => ⟨ha, hb⟩) h

theorem blind_alts {rs : List Regex} (h : ∀ r ∈ rs, r.Blind z) : (alts rs).Blind z :=
  alts_of_forall trivial (fun _ _ ha hb => ⟨ha, hb⟩) h

theorem Blind.repeated {r : Regex} (h : r.Blind z) (low : Nat) (high : Option Nat)
    (greedy : Bool) : (r.repeated low high greedy).Blind z :=
  repeated_of_forall trivial h fun _ _ => h

theorem blind_textStart : (look .textStart).Blind z := by
  intro b a _ _
  simp [Look.holds]

theorem blind_textStop : (look .textStop).Blind z := by
  intro b a _ _
  simp [Look.holds]

/-- On threads that go in lockstep, so do the threads that they are taken to. -/
def Parallel (z : Aligned) (body : List Thread → List Thread) : Prop :=
  ∀ ts ts', List.Forall₂ z.Threads ts ts' → List.Forall₂ z.Threads (body ts) (body ts')

theorem parallel_distinct : Parallel z (Thread.distinct .empty) := by
  intro ts ts' h
  rw [distinct_eq_firsts, distinct_eq_firsts]
  exact forall₂_firsts (fun t t' ht => ht.places) (fun _ _ _ _ hm hn => hm.eq_iff hn)
    marks_empty h

theorem parallel_exactly (h : Parallel z body) (n : Nat) : Parallel z (exactly body n) := by
  induction n with
  | zero => exact fun ts ts' hts => hts
  | succ n ih =>
    intro ts ts' hts
    cases hts with
    | nil => exact .nil
    | cons ht hts => exact ih _ _ (h _ _ (.cons ht hts))

def Together (z : Aligned) (r r' : Round) : Prop :=
  z.Threads r.thread r'.thread ∧ r.active = r'.active

theorem forall₂_thread {rs rs' : List Round} (h : List.Forall₂ (Together z) rs rs') :
    List.Forall₂ z.Threads (rs.map (·.thread)) (rs'.map (·.thread)) := by
  rw [List.forall₂_map_left_iff, List.forall₂_map_right_iff]
  exact h.imp fun _ _ hr => hr.1

theorem any_active_eq {rs rs' : List Round} (h : List.Forall₂ (Together z) rs rs') :
    rs.any (·.active) = rs'.any (·.active) := by
  induction h with
  | nil => rfl
  | cons hr _ ih => simp [hr.2, ih]

theorem forall₂_rounds_distinct {rs rs' : List Round} (h : List.Forall₂ (Together z) rs rs') :
    List.Forall₂ (Together z) (Round.distinct .empty rs) (Round.distinct .empty rs') := by
  rw [rounds_distinct_eq_firsts, rounds_distinct_eq_firsts]
  refine forall₂_firsts
    (K := fun m m' => ∃ n n' b, z.Places n n' ∧ m = 2 * n + Bool.toNat b ∧
      m' = 2 * n' + Bool.toNat b) (fun r r' hr => ?_) ?_ marks_empty h
  · exact ⟨_, _, r.active, hr.1.places, rfl, by rw [hr.2]; rfl⟩
  · rintro _ _ _ _ ⟨m, m', b, hm, rfl, rfl⟩ ⟨n, n', c, hn, rfl, rfl⟩
    have heq := hm.eq_iff hn
    have hb := b.toNat_lt
    have hc := c.toNat_lt
    omega

theorem forall₂_step (h : Parallel z body) (greedy : Bool) {r r' : Round} (hr : Together z r r') :
    List.Forall₂ (Together z) (Round.step body greedy r) (Round.step body greedy r') := by
  obtain ⟨ht, hactive⟩ := hr
  have hdeeper : List.Forall₂ (Together z) ((body [r.thread]).map (⟨·, true⟩))
      ((body [r'.thread]).map (⟨·, true⟩)) := by
    rw [List.forall₂_map_left_iff, List.forall₂_map_right_iff]
    exact (h _ _ (.cons ht .nil)).imp fun _ _ hu => ⟨hu, rfl⟩
  have hleft : Together z ⟨r.thread, false⟩ ⟨r'.thread, false⟩ := ⟨ht, rfl⟩
  unfold Round.step
  rw [← hactive]
  split
  · cases greedy with
    | true => exact List.rel_append hdeeper (.cons hleft .nil)
    | false => exact .cons hleft hdeeper
  · exact .cons ⟨ht, hactive⟩ .nil

theorem forall₂_atMost (h : Parallel z body) (greedy : Bool) (n : Nat) {rs rs' : List Round}
    (hrs : List.Forall₂ (Together z) rs rs') :
    List.Forall₂ z.Threads (atMost body greedy n rs) (atMost body greedy n rs') := by
  induction n generalizing rs rs' with
  | zero => exact parallel_distinct _ _ (forall₂_thread hrs)
  | succ n ih =>
    simp only [atMost, any_active_eq hrs]
    split
    · exact ih (forall₂_rounds_distinct (List.rel_flatMap hrs fun _ _ => forall₂_step h greedy))
    · exact parallel_distinct _ _ (forall₂_thread hrs)

structure Walks (z : Aligned) (w w' : Walk) : Prop where
  left : List.Forall₂ z.Threads w.left w'.left
  begun : Marks z.Places w.begun w'.begun
  ended : Marks z.Places w.ended w'.ended

section

variable {w w' : Walk} {t t' : Thread}

theorem Walks.leave (h : Walks z w w') (ht : z.Threads t t') :
    Walks z (w.leave t) (w'.leave t') :=
  ⟨.cons ht h.left, h.begun, h.ended⟩

theorem Walks.begin (h : Walks z w w') (ht : z.Threads t t') :
    Walks z (w.begin t) (w'.begin t') :=
  ⟨h.left, h.begun.insert fun _ _ => ht.places.eq_iff, h.ended⟩

theorem Walks.finish (h : Walks z w w') (ht : z.Threads t t') :
    Walks z (w.finish t) (w'.finish t') :=
  ⟨h.left, h.begun, h.ended.insert fun _ _ => ht.places.eq_iff⟩

theorem walks_foldl {f f' : Walk → Thread → Walk}
    (hf : ∀ w w' t t', Walks z w w' → z.Threads t t' → Walks z (f w t) (f' w' t'))
    {ts ts' : List Thread} (hts : List.Forall₂ z.Threads ts ts') (h : Walks z w w') :
    Walks z (ts.foldl f w) (ts'.foldl f' w') := by
  induction hts generalizing w w' with
  | nil => exact h
  | cons ht _ ih => exact ih (hf _ _ _ _ h ht)

theorem walks_enter (hb : Parallel z body) (greedy : Bool) (n : Nat) (h : Walks z w w')
    (ht : z.Threads t t') : Walks z (w.enter body greedy n t) (w'.enter body greedy n t') := by
  induction n generalizing w w' t t' with
  | zero => exact h
  | succ n ih =>
    rw [Walk.enter_succ, Walk.enter_succ, h.begun _ _ ht.places]
    split
    · exact h
    · refine walks_foldl (fun w w' u u' hw hu => ?_) (hb _ _ (.cons ht .nil)) (h.begin ht)
      unfold Walk.hop
      rw [hw.ended _ _ hu.places]
      split
      · exact hw
      · cases greedy with
        | true => exact (ih (hw.finish hu) hu).leave hu
        | false => exact ih ((hw.finish hu).leave hu) hu

theorem walks_visit (hb : Parallel z body) (greedy skippable : Bool) (h : Walks z w w')
    (ht : z.Threads t t') :
    Walks z (w.visit body greedy skippable t) (w'.visit body greedy skippable t') := by
  unfold Walk.visit
  rw [ht.cursor.length_rest]
  cases skippable with
  | false => exact walks_enter hb greedy _ h ht
  | true =>
    cases greedy with
    | true => exact (walks_enter hb true _ h ht).leave ht
    | false => exact walks_enter hb false _ (h.leave ht) ht

end

theorem parallel_unbounded (hb : Parallel z body) (greedy skippable : Bool) :
    Parallel z (unbounded body greedy skippable) := by
  intro ts ts' hts
  have hempty : Walks z {} {} := ⟨.nil, marks_empty, marks_empty⟩
  have hwalks := walks_foldl (fun _ _ _ _ => walks_visit hb greedy skippable) hts hempty
  exact parallel_distinct _ _ (List.rel_reverse hwalks.left)

theorem parallel_rounds (hb : Parallel z body) (greedy : Bool) (low : Nat) (high : Option Nat) :
    Parallel z (rounds body greedy low high) := by
  intro ts ts' hts
  cases high with
  | none =>
    cases low with
    | zero => exact parallel_unbounded hb greedy true _ _ hts
    | succ n => exact parallel_unbounded hb greedy false _ _ (parallel_exactly hb n _ _ hts)
  | some high =>
    have heq : rounds body greedy low (some high) =
        fun ts => atMost body greedy (high - low) ((exactly body low ts).map (⟨·, true⟩)) := by
      cases low <;> rfl
    rw [heq]
    refine forall₂_atMost hb greedy _ ?_
    rw [List.forall₂_map_left_iff, List.forall₂_map_right_iff]
    exact (parallel_exactly hb low _ _ hts).imp fun _ _ ht => ⟨ht, rfl⟩

theorem threads_closeGroup (name : Text) {t t' : Thread} (h : z.Threads t t') :
    z.Threads (t.closeGroup name) (t'.closeGroup name) := by
  have hopened := h.opened
  unfold Thread.closeGroup
  generalize t.opened = os at hopened
  generalize t'.opened = os' at hopened
  cases hopened with
  | nil => exact h
  | cons hstart hopened =>
    exact ⟨h.start, h.cursor, hopened, .cons ⟨rfl, hstart, h.places⟩ h.groups⟩

/-- The run of an expression that cannot tell two texts apart goes in lockstep on them. -/
theorem parallel_run {r : Regex} (h : r.Blind z) : Parallel z r.run := by
  induction r with
  | empty => exact fun ts ts' hts => hts
  | one s =>
    intro ts ts' hts
    refine List.rel_filterMap (fun t t' ht => ?_) hts
    rcases ht.cursor.cases_rest with ⟨hk, hk'⟩ | ⟨p, hp, y, hk, hk', hpast⟩
    · simp only [Thread.past?, hk, hk']
      exact .none
    · simp only [Thread.past?, hk, hk', h p hp]
      split
      · exact .some ⟨ht.start, hpast, ht.opened, ht.groups⟩
      · exact .none
  | look l =>
    intro ts ts' hts
    refine List.rel_filter (fun t t' ht => ?_) hts
    obtain ⟨b, a, hb, ha, hbefore, hbefore', hafter, hafter'⟩ := ht.cursor.exists_around
    simp only [Thread.meets, hbefore, hbefore', hafter, hafter', h b a hb ha]
  | cat a b iha ihb => exact fun ts ts' hts => ihb h.2 _ _ (iha h.1 _ _ hts)
  | alt a b iha ihb =>
    intro ts ts' hts
    refine parallel_distinct _ _ (List.rel_flatMap hts fun t t' ht => ?_)
    exact List.rel_append (iha h.1 _ _ (.cons ht .nil)) (ihb h.2 _ _ (.cons ht .nil))
  | rep r low high greedy ih => exact parallel_rounds (ih h) greedy low high
  | group name r ih =>
    intro ts ts' hts
    refine List.rel_map (fun t t' ht => ?_) (ih h _ _ (List.rel_map (fun t t' ht => ?_) hts))
    · exact threads_closeGroup name ht
    · exact ⟨ht.start, ht.cursor, .cons ht.places ht.opened, ht.groups⟩

section

variable {α : Type} {P : α → α → Prop}

theorem rel_head? {as as' : List α} (h : List.Forall₂ P as as') :
    Option.Rel P as.head? as'.head? := by
  cases h with
  | nil => exact .none
  | cons ha _ => exact .some ha

theorem cases_of_rel {o o' : Option α} (h : Option.Rel P o o') :
    o = none ∧ o' = none ∨ ∃ a a', o = some a ∧ o' = some a' ∧ P a a' := by
  cases h with
  | none => exact .inl ⟨rfl, rfl⟩
  | some ha => exact .inr ⟨_, _, rfl, rfl, ha⟩

end

theorem forall₂_places (n : Nat) {k k' : Cursor} (h : z.Cursors k k') :
    List.Forall₂ z.Cursors (places n k).1 (places n k').1 ∧
      Option.Rel z.Cursors (places n k).2 (places n k').2 := by
  induction n generalizing k k' with
  | zero => exact ⟨.nil, .some h⟩
  | succ n ih =>
    unfold places
    rcases cases_of_rel h.next? with ⟨ha, ha'⟩ | ⟨a, a', ha, ha', hnext⟩
    · simp only [ha, ha']
      exact ⟨.cons h .nil, .none⟩
    · simp only [ha, ha']
      exact ⟨.cons h (ih hnext).1, (ih hnext).2⟩

variable {r : Regex}

theorem rel_searchLots (h : r.Blind z) (fuel lot : Nat) {k k' : Cursor} (hk : z.Cursors k k') :
    Option.Rel z.Threads (r.searchLots fuel lot k) (r.searchLots fuel lot k') := by
  induction fuel generalizing lot k k' with
  | zero => exact .none
  | succ fuel ih =>
    obtain ⟨hks, hafter⟩ := forall₂_places lot hk
    have hthreads : List.Forall₂ z.Threads ((places lot k).1.map .startAt)
        ((places lot k').1.map .startAt) := by
      refine List.rel_map (fun k k' hk => ?_) hks
      exact ⟨hk.places, hk, .nil, .nil⟩
    unfold searchLots
    rcases cases_of_rel (rel_head? (parallel_run h _ _ hthreads)) with
      ⟨ht, ht'⟩ | ⟨t, t', ht, ht', htt'⟩
    · simp only [ht, ht', Option.none_or]
      rcases cases_of_rel hafter with ⟨ha, ha'⟩ | ⟨a, a', ha, ha', haa'⟩
      · simp only [ha, ha', Option.bind_none]
        exact .none
      · simp only [ha, ha', Option.bind_some]
        exact ih _ haa'
    · simp only [ht, ht', Option.some_or]
      exact .some htt'

theorem rel_search (h : r.Blind z) {k k' : Cursor} (hk : z.Cursors k k') :
    Option.Rel z.Threads (r.search k) (r.search k') := by
  unfold search
  rw [hk.length_rest]
  exact rel_searchLots h _ _ hk

theorem isMatch_eq_of_blind (h : r.Blind z) : r.isMatch z.left = r.isMatch z.right := by
  unfold isMatch
  rcases cases_of_rel (rel_search h (Aligned.cursors_start z)) with
    ⟨hf, hf'⟩ | ⟨f, f', hf, hf', -⟩
  · rw [hf, hf']
  · rw [hf, hf']
    rfl

theorem forall₂_matchesFrom (h : r.Blind z) (n : Nat) {last last' : Option Nat}
    (hlast : Option.Rel z.Places last last') {k k' : Cursor} (hk : z.Cursors k k') :
    List.Forall₂ z.Threads (r.matchesFrom n last k) (r.matchesFrom n last' k') := by
  induction n generalizing last last' k k' with
  | zero => exact .nil
  | succ n ih =>
    have hfound : ∀ {f f' : Thread}, z.Threads f f' →
        List.Forall₂ z.Threads (f :: r.matchesFrom n (some f.offset) f.cursor)
          (f' :: r.matchesFrom n (some f'.offset) f'.cursor) :=
      fun hf => .cons hf (ih (.some hf.places) hf.cursor)
    unfold matchesFrom
    rcases cases_of_rel (rel_search h hk) with ⟨hf, hf'⟩ | ⟨f, f', hf, hf', hff'⟩
    · simp only [hf, hf']
      exact .nil
    · have hagain : f.start = f.offset ∧ last = some f.offset ↔
          f'.start = f'.offset ∧ last' = some f'.offset := by
        rw [hff'.start.eq_iff hff'.places]
        rcases cases_of_rel hlast with ⟨rfl, rfl⟩ | ⟨m, m', rfl, rfl, hm⟩
        · simp
        · simp [hm.eq_iff hff'.places]
      simp only [hf, hf']
      by_cases hempty : f.start = f.offset ∧ last = some f.offset
      · rw [if_pos hempty, if_pos (hagain.1 hempty)]
        rcases hk.cases_rest with ⟨hrest, hrest'⟩ | ⟨p, -, y, hrest, hrest', hpast⟩
        · simp only [hrest, hrest']
          exact .nil
        · simp only [hrest, hrest']
          rcases cases_of_rel (rel_search h hpast) with ⟨hg, hg'⟩ | ⟨g, g', hg, hg', hgg'⟩
          · simp only [hg, hg']
            exact .nil
          · simp only [hg, hg']
            exact hfound hgg'
      · rw [if_neg hempty, if_neg (mt hagain.2 hempty)]
        exact hfound hff'

theorem forall₂_allMatches (h : r.Blind z) :
    List.Forall₂ z.Threads (r.allMatches z.left) (r.allMatches z.right) := by
  unfold allMatches
  rw [List.length_map, List.length_map]
  exact forall₂_matchesFrom h _ .none (Aligned.cursors_start z)

end Regex

end TextSieve.Pattern
