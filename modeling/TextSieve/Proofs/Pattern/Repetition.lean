import TextSieve.Proofs.Pattern.Meaning

/-! Repetitions. The functions that go through the rounds of a repetition are given what a single
round does. If a round takes no step but those of a relation and misses no place that these lead to,
the same holds of the repetition and the relation `Steps` over that many rounds. -/

namespace TextSieve.Pattern.Regex

def AllIn (text : Text) (ts : List Thread) : Prop := ∀ t ∈ ts, t.cursor.In text

/-- The steps stay in the text, never lead back, and depend only on the place they start from. -/
structure Forward (text : Text) (step : Thread → Thread → Prop) : Prop where
  stays : ∀ {t t'}, t.cursor.In text → step t t' → t'.cursor.In text
  shrinks : ∀ {t t'}, t.cursor.In text → step t t' →
    t'.cursor.rest.length ≤ t.cursor.rest.length
  again : ∀ {t t' s}, t.cursor.In text → step t t' → s.cursor = t.cursor →
    ∃ s', step s s' ∧ s'.cursor = t'.cursor

/-- The function takes only steps of the relation and misses no place that they lead to. -/
structure Runs (text : Text) (step : Thread → Thread → Prop)
    (body : List Thread → List Thread) : Prop where
  sound : ∀ {ts t'}, t' ∈ body ts → ∃ t ∈ ts, step t t'
  complete : ∀ {ts t t'}, AllIn text ts → t ∈ ts → step t t' → ∃ s ∈ body ts, s.cursor = t'.cursor

theorem Agree.forward {step : Thread → Thread → Prop} {round : Text → Text → Text → Prop}
    (h : Agree step round) (text : Text) : Forward text step where
  stays := by
    intro t t' hx hs
    obtain ⟨u, v, rfl, ht⟩ := hx
    obtain ⟨w, v', rfl, hk, -⟩ := (h t u v ht _).1 ⟨t', hs, rfl⟩
    exact ⟨u ++ w, v', by simp, hk⟩
  shrinks := by
    intro t t' hx hs
    obtain ⟨u, v, rfl, ht⟩ := hx
    obtain ⟨w, v', rfl, hk, -⟩ := (h t u v ht _).1 ⟨t', hs, rfl⟩
    simp [ht, hk]
  again := by
    intro t t' s hx hs he
    obtain ⟨u, v, rfl, ht⟩ := hx
    exact (h s u v (he.trans ht) _).2 ((h t u v ht _).1 ⟨t', hs, rfl⟩)

variable {text : Text} {step : Thread → Thread → Prop} {body : List Thread → List Thread}

theorem AllIn.through (hf : Forward text step) (hb : Runs text step body) {ts : List Thread}
    (h : AllIn text ts) : AllIn text (body ts) := by
  intro t' ht'
  obtain ⟨t, ht, hs⟩ := hb.sound ht'
  exact hf.stays (h t ht) hs

theorem allIn_singleton {t : Thread} (h : t.cursor.In text) : AllIn text [t] := by
  intro s hs
  rw [List.mem_singleton.1 hs]
  exact h

/-- Keeps the first element of each key that is not in `seen`. -/
def firsts {α : Type} (key : α → Nat) (seen : OffsetSet) : List α → List α
  | [] => []
  | a :: rest =>
    if seen.contains (key a) then firsts key seen rest
    else a :: firsts key (seen.insert (key a)) rest

theorem distinct_eq_firsts (seen : OffsetSet) (ts : List Thread) :
    Thread.distinct seen ts = firsts Thread.offset seen ts := by
  induction ts generalizing seen with
  | nil => rfl
  | cons t ts ih => simp [Thread.distinct, firsts, ih]

theorem rounds_distinct_eq_firsts (seen : OffsetSet) (rs : List Round) :
    Round.distinct seen rs = firsts Round.key seen rs := by
  induction rs generalizing seen with
  | nil => rfl
  | cons r rs ih => simp [Round.distinct, firsts, ih]

theorem firsts_sublist {α : Type} (key : α → Nat) (seen : OffsetSet) (as : List α) :
    (firsts key seen as).Sublist as := by
  induction as generalizing seen with
  | nil => exact List.Sublist.refl _
  | cons a as ih =>
    unfold firsts
    split
    · exact (ih seen).cons a
    · exact (ih _).cons_cons a

theorem exists_mem_firsts {α : Type} (key : α → Nat) (seen : OffsetSet) {as : List α} {a : α}
    (h : a ∈ as) (hs : seen.contains (key a) = false) :
    ∃ b ∈ firsts key seen as, key b = key a := by
  induction as generalizing seen with
  | nil => simp at h
  | cons b as ih =>
    unfold firsts
    by_cases hk : key b = key a
    · exact ⟨b, by simp [hk, hs], hk⟩
    · have hmem : a ∈ as := by
        rcases List.mem_cons.1 h with rfl | h
        · exact absurd rfl hk
        · exact h
      split
      · exact ih seen hmem hs
      · obtain ⟨c, hc, he⟩ := ih (seen.insert (key b)) hmem (by simp [hs, hk])
        exact ⟨c, List.mem_cons_of_mem b hc, he⟩

theorem mem_of_mem_distinct {seen : OffsetSet} {ts : List Thread} {t : Thread}
    (h : t ∈ Thread.distinct seen ts) : t ∈ ts := by
  rw [distinct_eq_firsts] at h
  exact (firsts_sublist _ _ _).subset h

/-- Every place is kept. -/
theorem exists_mem_distinct {ts : List Thread} {t : Thread} (hin : AllIn text ts) (h : t ∈ ts) :
    ∃ s ∈ Thread.distinct .empty ts, s.cursor = t.cursor := by
  rw [distinct_eq_firsts]
  obtain ⟨s, hs, he⟩ := exists_mem_firsts Thread.offset .empty h (by simp)
  have hmem : s ∈ ts := (firsts_sublist _ _ _).subset hs
  exact ⟨s, hs, (hin s hmem).eq_of_offset (hin t h) he⟩

theorem forward_steps (hf : Forward text step) (n : Nat) : Forward text (Steps step n) := by
  induction n with
  | zero =>
    refine ⟨?_, ?_, ?_⟩
    · rintro t _ ht rfl
      exact ht
    · rintro t _ - rfl
      exact Nat.le_refl _
    · rintro t _ s - rfl he
      exact ⟨s, rfl, he⟩
  | succ n ih =>
    refine ⟨?_, ?_, ?_⟩
    · intro t t' ht hx
      obtain ⟨m, hm, h⟩ := hx
      exact ih.stays (hf.stays ht hm) h
    · intro t t' ht hx
      obtain ⟨m, hm, h⟩ := hx
      exact Nat.le_trans (ih.shrinks (hf.stays ht hm) h) (hf.shrinks ht hm)
    · intro t t' s ht hx he
      obtain ⟨m, hm, h⟩ := hx
      obtain ⟨m', hm', he'⟩ := hf.again ht hm he
      obtain ⟨s', hs', hs⟩ := ih.again (hf.stays ht hm) h he'
      exact ⟨s', ⟨m', hm', hs'⟩, hs⟩

theorem runs_exactly (hf : Forward text step) (hb : Runs text step body) (n : Nat) :
    Runs text (Steps step n) (exactly body n) := by
  induction n with
  | zero => exact ⟨fun {ts t'} h => ⟨t', h, rfl⟩, fun {ts t t'} _ h he => ⟨t, h, by rw [he]⟩⟩
  | succ n ih =>
    refine ⟨?_, ?_⟩
    · intro ts t' h
      cases ts with
      | nil => simp [exactly] at h
      | cons s ts =>
        obtain ⟨m, hm, hn⟩ := ih.sound h
        obtain ⟨t, ht, hs⟩ := hb.sound hm
        exact ⟨t, ht, m, hs, hn⟩
    · intro ts t t' hin ht h
      obtain ⟨m, hm, hn⟩ := h
      cases ts with
      | nil => simp at ht
      | cons s ts =>
        obtain ⟨m', hm', he⟩ := hb.complete hin ht hm
        obtain ⟨t'', hn', he'⟩ := (forward_steps hf n).again (hf.stays (hin t ht) hm) hn he
        obtain ⟨x, hx, hxe⟩ := ih.complete (hin.through hf hb) hm' hn'
        exact ⟨x, hx, hxe.trans he'⟩

def Round.Leads (step : Thread → Thread → Prop) (n : Nat) (r : Round) (t' : Thread) : Prop :=
  ∃ k ≤ n, (r.active = false → k = 0) ∧ Steps step k r.thread t'

theorem mem_round_step {greedy : Bool} {r r' : Round} :
    r' ∈ r.step body greedy ↔
      (r.active = false ∧ r' = r) ∨
        (r.active = true ∧ (r' = ⟨r.thread, false⟩ ∨ ∃ m ∈ body [r.thread], r' = ⟨m, true⟩)) := by
  unfold Round.step
  cases r.active with
  | false => simp
  | true => cases greedy <;> simp [or_comm, eq_comm]

theorem exists_mem_rounds_distinct {rs : List Round} {r : Round}
    (hin : AllIn text (rs.map Round.thread)) (h : r ∈ rs) :
    ∃ r' ∈ Round.distinct .empty rs,
      r'.thread.cursor = r.thread.cursor ∧ r'.active = r.active := by
  rw [rounds_distinct_eq_firsts]
  obtain ⟨r', hr', he⟩ := exists_mem_firsts Round.key .empty h (by simp)
  have hmem : r' ∈ rs := (firsts_sublist _ _ _).subset hr'
  have hkey : r'.thread.offset = r.thread.offset ∧ r'.active = r.active := by
    unfold Round.key at he
    cases h' : r'.active <;> cases h'' : r.active <;> simp [h', h''] at he ⊢ <;> omega
  exact ⟨r', hr', (hin _ (List.mem_map_of_mem hmem)).eq_of_offset (hin _ (List.mem_map_of_mem h))
    hkey.1, hkey.2⟩

/-- A thread that is there already may stop, whatever the number of rounds left. -/
theorem exists_leads_of_mem_distinct {rs : List Round} {t' : Thread} (n : Nat)
    (h : t' ∈ Thread.distinct .empty (rs.map (·.thread))) : ∃ r ∈ rs, r.Leads step n t' := by
  obtain ⟨r, hr, rfl⟩ := List.mem_map.1 (mem_of_mem_distinct h)
  exact ⟨r, hr, 0, Nat.zero_le n, fun _ => rfl, rfl⟩

theorem atMost_sound (hb : Runs text step body) {greedy : Bool} {n : Nat} {rs : List Round}
    {t' : Thread} (h : t' ∈ atMost body greedy n rs) : ∃ r ∈ rs, r.Leads step n t' := by
  induction n generalizing rs with
  | zero => exact exists_leads_of_mem_distinct 0 h
  | succ n ih =>
    unfold atMost at h
    split at h
    · rw [rounds_distinct_eq_firsts] at h
      obtain ⟨r', hr', k, hk, ha, hs⟩ := ih h
      obtain ⟨r, hr, hr'⟩ := List.mem_flatMap.1 ((firsts_sublist _ _ _).subset hr')
      refine ⟨r, hr, ?_⟩
      rcases mem_round_step.1 hr' with ⟨hf, rfl⟩ | ⟨ht, rfl | ⟨m, hm, rfl⟩⟩
      · exact ⟨k, by omega, ha, hs⟩
      · obtain rfl := ha rfl
        exact ⟨0, by omega, fun _ => rfl, hs⟩
      · obtain ⟨s, hs', hstep⟩ := hb.sound hm
        obtain rfl := List.mem_singleton.1 hs'
        exact ⟨k + 1, by omega, by simp [ht], m, hstep, hs⟩
    · exact exists_leads_of_mem_distinct _ h

theorem allIn_step (hf : Forward text step) (hb : Runs text step body) {greedy : Bool}
    {rs : List Round} (hin : AllIn text (rs.map Round.thread)) :
    AllIn text ((rs.flatMap (Round.step body greedy)).map Round.thread) := by
  intro s hs
  obtain ⟨q', hq', rfl⟩ := List.mem_map.1 hs
  obtain ⟨q, hq, hq'⟩ := List.mem_flatMap.1 hq'
  have hin' : q.thread.cursor.In text := hin _ (List.mem_map_of_mem hq)
  rcases mem_round_step.1 hq' with ⟨-, rfl⟩ | ⟨-, rfl | ⟨m, hm, rfl⟩⟩
  · exact hin'
  · exact hin'
  · exact (allIn_singleton hin').through hf hb m hm

theorem allIn_rounds_distinct {rs : List Round} (hin : AllIn text (rs.map Round.thread)) :
    AllIn text ((Round.distinct .empty rs).map Round.thread) := by
  intro s hs
  rw [rounds_distinct_eq_firsts] at hs
  exact hin s (((firsts_sublist _ _ _).map _).subset hs)

/-- One round takes a round that leads somewhere to one that leads there with one round less. -/
theorem exists_leads_of_step (hf : Forward text step) (hb : Runs text step body) (greedy : Bool)
    {n : Nat} {r : Round} {t' : Thread} (hin : r.thread.cursor.In text)
    (h : r.Leads step (n + 1) t') :
    ∃ q ∈ r.step body greedy, ∃ x, q.Leads step n x ∧ x.cursor = t'.cursor := by
  obtain ⟨k, hk, ha, hs⟩ := h
  cases hact : r.active with
  | false =>
    obtain rfl := ha hact
    exact ⟨r, mem_round_step.2 (.inl ⟨hact, rfl⟩), t', ⟨0, Nat.zero_le n, fun _ => rfl, hs⟩, rfl⟩
  | true =>
    cases k with
    | zero =>
      exact ⟨⟨r.thread, false⟩, mem_round_step.2 (.inr ⟨hact, .inl rfl⟩), t',
        ⟨0, Nat.zero_le n, fun _ => rfl, hs⟩, rfl⟩
    | succ k =>
      obtain ⟨m, hm, hs⟩ := hs
      obtain ⟨m', hm', he⟩ := hb.complete (allIn_singleton hin) (List.mem_singleton_self _) hm
      obtain ⟨x, hs', he'⟩ := (forward_steps hf k).again (hf.stays hin hm) hs he
      exact ⟨⟨m', true⟩, mem_round_step.2 (.inr ⟨hact, .inr ⟨m', hm', rfl⟩⟩), x,
        ⟨k, by omega, by simp, hs'⟩, he'⟩

/-- A round that is dropped leads no further than the one that is kept in its place. -/
theorem exists_leads_distinct (hf : Forward text step) {n : Nat} {rs : List Round} {q : Round}
    {x : Thread} (hin : AllIn text (rs.map Round.thread)) (hq : q ∈ rs) (h : q.Leads step n x) :
    ∃ q' ∈ Round.distinct .empty rs, ∃ x', q'.Leads step n x' ∧ x'.cursor = x.cursor := by
  obtain ⟨k, hk, ha, hs⟩ := h
  obtain ⟨q', hq', hc, hact⟩ := exists_mem_rounds_distinct hin hq
  obtain ⟨x', hs', he⟩ := (forward_steps hf k).again (hin _ (List.mem_map_of_mem hq)) hs hc
  exact ⟨q', hq', x', ⟨k, hk, by rwa [hact], hs'⟩, he⟩

theorem atMost_complete (hf : Forward text step) (hb : Runs text step body) {greedy : Bool}
    {n : Nat} {rs : List Round} {r : Round} {t' : Thread}
    (hin : AllIn text (rs.map Round.thread)) (hr : r ∈ rs) (h : r.Leads step n t') :
    ∃ s ∈ atMost body greedy n rs, s.cursor = t'.cursor := by
  induction n generalizing rs r t' with
  | zero =>
    obtain ⟨k, hk, -, hs⟩ := h
    obtain rfl : k = 0 := by omega
    rw [show t' = r.thread from hs]
    exact exists_mem_distinct hin (List.mem_map_of_mem hr)
  | succ n ih =>
    by_cases hany : rs.any (·.active) = true
    · have hnext : AllIn text ((rs.flatMap (Round.step body greedy)).map Round.thread) :=
        allIn_step hf hb hin
      have hmem : r.thread.cursor.In text := hin _ (List.mem_map_of_mem hr)
      obtain ⟨q, hq, x, hx, he⟩ := exists_leads_of_step hf hb greedy hmem h
      obtain ⟨q', hq', x', hx', he'⟩ :=
        exists_leads_distinct hf hnext (List.mem_flatMap.2 ⟨r, hr, hq⟩) hx
      obtain ⟨s, hs, hse⟩ := ih (allIn_rounds_distinct hnext) hq' hx'
      refine ⟨s, ?_, hse.trans (he'.trans he)⟩
      simpa [atMost, hany] using hs
    · -- no round is left to take, so the thread stays where it is
      have hact : r.active = false := by
        cases ha : r.active with
        | false => rfl
        | true => exact absurd (List.any_eq_true.2 ⟨r, hr, ha⟩) hany
      obtain ⟨k, -, ha, hs⟩ := h
      obtain rfl := ha hact
      rw [show t' = r.thread from hs]
      simpa [atMost, hany] using exists_mem_distinct hin (List.mem_map_of_mem hr)

end TextSieve.Pattern.Regex
