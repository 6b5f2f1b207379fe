import TextSieve.Proofs.Pattern.Repetition

/-! Unbounded repetition is a depth-first walk over the places of the text. A walk never loses what
it has marked, and whatever it adds is complete: behind each place at which a round has newly begun,
every place that a round leads to has ended one, and from there a round has begun and a thread has
left. Counted from the empty walk this says that every number of rounds is covered. -/

namespace TextSieve.Pattern.Regex

variable {text : Text} {step : Thread → Thread → Prop} {body : List Thread → List Thread}

namespace Walk

/-- `w'` keeps all marks of `w` and is complete in what it adds. -/
structure Extends (text : Text) (step : Thread → Thread → Prop) (w w' : Walk) : Prop where
  begun : ∀ {n}, w.begun.contains n = true → w'.begun.contains n = true
  ended : ∀ {n}, w.ended.contains n = true → w'.ended.contains n = true
  left : ∀ {t}, t ∈ w.left → t ∈ w'.left
  followed : ∀ {t t'}, t.cursor.In text → step t t' → w'.begun.contains t.offset = true →
    w.begun.contains t.offset = true ∨ w'.ended.contains t'.offset = true
  settled : ∀ {n}, w'.ended.contains n = true →
    w.ended.contains n = true ∨ (w'.begun.contains n = true ∧ ∃ t ∈ w'.left, t.offset = n)

theorem Extends.refl (w : Walk) : Extends text step w w :=
  ⟨id, id, id, fun _ _ h => .inl h, fun h => .inl h⟩

theorem Extends.trans {a b c : Walk} (h₁ : Extends text step a b) (h₂ : Extends text step b c) :
    Extends text step a c where
  begun h := h₂.begun (h₁.begun h)
  ended h := h₂.ended (h₁.ended h)
  left h := h₂.left (h₁.left h)
  followed := by
    intro t t' ht hs h
    rcases h₂.followed ht hs h with hb | he
    · rcases h₁.followed ht hs hb with ha | he
      · exact .inl ha
      · exact .inr (h₂.ended he)
    · exact .inr he
  settled := by
    intro n h
    rcases h₂.settled h with hb | hc
    · rcases h₁.settled hb with ha | ⟨hb, t, ht, hn⟩
      · exact .inl ha
      · exact .inr ⟨h₂.begun hb, t, h₂.left ht, hn⟩
    · exact .inr hc

theorem extends_leave (w : Walk) (t : Thread) : Extends text step w (w.leave t) :=
  ⟨id, id, fun h => List.mem_cons_of_mem t h, fun _ _ h => .inl h, fun h => .inl h⟩

/-- Handling threads one after the other extends a walk if each of them does, and what each of them
brings about is still so at the end. -/
theorem extends_foldl {f : Walk → Thread → Walk} (post : Walk → Thread → Prop) {us : List Thread}
    {w : Walk}
    (hf : ∀ w' u, u ∈ us → Extends text step w w' → Extends text step w' (f w' u) ∧ post (f w' u) u)
    (hpost : ∀ {w' w'' u}, Extends text step w' w'' → post w' u → post w'' u) :
    Extends text step w (us.foldl f w) ∧ ∀ u ∈ us, post (us.foldl f w) u := by
  induction us generalizing w with
  | nil => exact ⟨.refl w, by simp⟩
  | cons u us ih =>
    obtain ⟨hu, hp⟩ := hf w u List.mem_cons_self (.refl w)
    obtain ⟨h, hall⟩ := ih (w := f w u) fun w' x hx hw =>
      hf w' x (List.mem_cons_of_mem u hx) (hu.trans hw)
    refine ⟨hu.trans h, ?_⟩
    intro x hx
    rcases List.mem_cons.1 hx with rfl | hx
    · exact hpost h hp
    · exact hall x hx

def hop (body : List Thread → List Thread) (greedy : Bool) (n : Nat) (w : Walk) (u : Thread) :
    Walk :=
  if w.ended.contains u.offset then w
  else if greedy then (enter body greedy n (w.finish u) u).leave u
  else enter body greedy n ((w.finish u).leave u) u

theorem enter_succ (body : List Thread → List Thread) (greedy : Bool) (n : Nat) (w : Walk)
    (t : Thread) :
    enter body greedy (n + 1) w t =
      if w.begun.contains t.offset then w
      else (body [t]).foldl (hop body greedy n) (w.begin t) := rfl

theorem enter_of_begun {greedy : Bool} {n : Nat} {w : Walk} {t : Thread}
    (h : w.begun.contains t.offset = true) : enter body greedy n w t = w := by
  cases n with
  | zero => rfl
  | succ n => simp [enter_succ, h]

theorem hop_extends {greedy : Bool} {n : Nat} {w : Walk} {u : Thread}
    (henter : ∀ w', (w.begun.contains u.offset = true → w'.begun.contains u.offset = true) →
      Extends text step w' (enter body greedy n w' u) ∧
        (enter body greedy n w' u).begun.contains u.offset = true) :
    Extends text step w (hop body greedy n w u) ∧
      (hop body greedy n w u).ended.contains u.offset = true := by
  unfold hop
  split
  · rename_i he
    exact ⟨.refl w, he⟩
  · -- the mark is set before the rounds behind it are gone, and redeemed when they have been
    have finish : ∀ w', Extends text step (w.finish u) w' → w'.begun.contains u.offset = true →
        u ∈ w'.left → Extends text step w w' ∧ w'.ended.contains u.offset = true := by
      intro w' h hb hl
      refine ⟨⟨h.begun, fun hn => h.ended (by simp [Walk.finish, hn]), h.left, h.followed, ?_⟩,
        h.ended (by simp [Walk.finish])⟩
      intro n hn
      rcases h.settled hn with hn | hn
      · have : w.ended.contains n = true ∨ u.offset = n := by simpa [Walk.finish] using hn
        rcases this with hn | rfl
        · exact .inl hn
        · exact .inr ⟨hb, u, hl, rfl⟩
      · exact .inr hn
    split
    · obtain ⟨h, hb⟩ := henter (w.finish u) id
      exact finish _ (h.trans (extends_leave _ u)) hb List.mem_cons_self
    · obtain ⟨h, hb⟩ := henter ((w.finish u).leave u) id
      exact finish _ ((extends_leave _ u).trans h) hb (h.left List.mem_cons_self)

theorem enter_extends (hf : Forward text step) (hb : Runs text step body) {greedy : Bool} {n : Nat}
    {w : Walk} {t : Thread} (ht : t.cursor.In text)
    (hn : t.cursor.rest.length < n ∨ w.begun.contains t.offset = true) :
    Extends text step w (enter body greedy n w t) ∧
      (enter body greedy n w t).begun.contains t.offset = true := by
  induction n generalizing w t with
  | zero =>
    have hbegun : w.begun.contains t.offset = true := hn.resolve_left (Nat.not_lt_zero _)
    exact ⟨.refl w, hbegun⟩
  | succ n ih =>
    by_cases hbegun : w.begun.contains t.offset = true
    · rw [enter_of_begun hbegun]
      exact ⟨.refl w, hbegun⟩
    · have hlen : t.cursor.rest.length < n + 1 := hn.resolve_right hbegun
      have hin : AllIn text (body [t]) := (allIn_singleton ht).through hf hb
      -- a round that stays where it began finds its mark, and any other has less text before it
      have hhop : ∀ w' u, u ∈ body [t] → Extends text step (w.begin t) w' →
          Extends text step w' (hop body greedy n w' u) ∧
            (hop body greedy n w' u).ended.contains u.offset = true := by
        intro w' u hu hw'
        obtain ⟨s, hs, hstep⟩ := hb.sound hu
        obtain rfl := List.mem_singleton.1 hs
        refine hop_extends fun w'' hw'' => ih (hin u hu) ?_
        have hle := hf.shrinks ht hstep
        by_cases heq : u.cursor.rest.length = s.cursor.rest.length
        · have hc : u.cursor = s.cursor := (hin u hu).eq_of_length ht heq
          have ho : u.offset = s.offset := by rw [Thread.offset, hc]; rfl
          exact .inr (hw'' (hw'.begun (by simp [Walk.begin, ho])))
        · exact .inl (by omega)
      obtain ⟨h, hall⟩ := extends_foldl (fun w' u => w'.ended.contains u.offset = true)
        hhop fun hw he => hw.ended he
      rw [enter_succ, if_neg hbegun]
      refine ⟨⟨fun hm => h.begun (by simp [Walk.begin, hm]), h.ended, h.left, ?_, h.settled⟩,
        h.begun (by simp [Walk.begin])⟩
      intro x x' hx hstep hm
      rcases h.followed hx hstep hm with hm | hm
      · have : w.begun.contains x.offset = true ∨ t.offset = x.offset := by
          simpa [Walk.begin] using hm
        rcases this with hm | ho
        · exact .inl hm
        · obtain ⟨t', ht', hc⟩ := hf.again hx hstep (ht.eq_of_offset hx ho)
          obtain ⟨s, hs, hsc⟩ := hb.complete (allIn_singleton ht) (List.mem_singleton_self t) ht'
          have hse : s.offset = x'.offset := by rw [Thread.offset, hsc, hc]; rfl
          exact .inr (hse ▸ hall s hs)
      · exact .inr hm

theorem visit_extends (hf : Forward text step) (hb : Runs text step body)
    (greedy skippable : Bool) (w : Walk) {t : Thread} (ht : t.cursor.In text) :
    Extends text step w (visit body greedy skippable w t) ∧
      (visit body greedy skippable w t).begun.contains t.offset = true ∧
      (skippable = true → t ∈ (visit body greedy skippable w t).left) := by
  have h : ∀ w' : Walk, Extends text step w' (enter body greedy (t.cursor.rest.length + 1) w' t) ∧
      (enter body greedy (t.cursor.rest.length + 1) w' t).begun.contains t.offset = true :=
    fun w' => enter_extends hf hb ht (.inl (Nat.lt_succ_self _))
  unfold visit
  cases skippable with
  | false => exact ⟨(h w).1, (h w).2, by simp⟩
  | true =>
    cases greedy with
    | true => exact ⟨(h w).1.trans (extends_leave _ t), (h w).2, fun _ => List.mem_cons_self⟩
    | false =>
      obtain ⟨h', hb'⟩ := h (w.leave t)
      exact ⟨(extends_leave w t).trans h', hb', fun _ => h'.left List.mem_cons_self⟩

variable {started reached : Thread → Prop}

theorem hop_left {greedy : Bool} {n : Nat} {w : Walk} {u : Thread} (hu : reached u)
    (henter : ∀ w' : Walk, (∀ x ∈ w'.left, reached x) →
      ∀ x ∈ (enter body greedy n w' u).left, reached x)
    (hw : ∀ x ∈ w.left, reached x) : ∀ x ∈ (hop body greedy n w u).left, reached x := by
  have leave : ∀ w' : Walk, (∀ x ∈ w'.left, reached x) → ∀ x ∈ (w'.leave u).left, reached x := by
    intro w' h x hx
    rcases List.mem_cons.1 hx with rfl | hx
    · exact hu
    · exact h x hx
  unfold hop
  split
  · exact hw
  · split
    · exact leave _ (henter _ hw)
    · exact henter _ (leave _ hw)

/-- Threads that leave have gone a round from where the walk may go on. -/
theorem enter_left (hround : ∀ {t u}, started t → u ∈ body [t] → reached u)
    (hon : ∀ {u}, reached u → started u) {greedy : Bool} {n : Nat} {w : Walk} {t : Thread}
    (ht : started t) (hw : ∀ x ∈ w.left, reached x) :
    ∀ x ∈ (enter body greedy n w t).left, reached x := by
  induction n generalizing w t with
  | zero => exact hw
  | succ n ih =>
    rw [enter_succ]
    split
    · exact hw
    · have fold : ∀ (us : List Thread) (w : Walk), (∀ u ∈ us, reached u) →
          (∀ x ∈ w.left, reached x) → ∀ x ∈ (us.foldl (hop body greedy n) w).left, reached x := by
        intro us
        induction us with
        | nil => exact fun _ _ h => h
        | cons u us ihus =>
          intro w hus hw
          have hu : reached u := hus u List.mem_cons_self
          exact ihus _ (fun x hx => hus x (List.mem_cons_of_mem u hx))
            (hop_left hu (fun w' hw' => ih (hon hu) hw') hw)
      exact fold _ _ (fun u hu => hround ht hu) hw

theorem visit_left (hround : ∀ {t u}, started t → u ∈ body [t] → reached u)
    (hon : ∀ {u}, reached u → started u) {greedy skippable : Bool} {w : Walk} {t : Thread}
    (ht : started t) (hskip : skippable = true → reached t) (hw : ∀ x ∈ w.left, reached x) :
    ∀ x ∈ (visit body greedy skippable w t).left, reached x := by
  have henter : ∀ w' : Walk, (∀ x ∈ w'.left, reached x) →
      ∀ x ∈ (enter body greedy (t.cursor.rest.length + 1) w' t).left, reached x :=
    fun w' hw' => enter_left hround hon ht hw'
  have leave : ∀ w' : Walk, skippable = true → (∀ x ∈ w'.left, reached x) →
      ∀ x ∈ (w'.leave t).left, reached x := by
    intro w' hs h x hx
    rcases List.mem_cons.1 hx with rfl | hx
    · exact hskip hs
    · exact h x hx
  unfold visit
  cases skippable with
  | false => exact henter w hw
  | true =>
    cases greedy with
    | true => exact leave _ rfl (henter w hw)
    | false => exact henter _ (leave w rfl hw)

end Walk

end TextSieve.Pattern.Regex
