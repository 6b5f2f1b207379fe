import Mathlib.Tactic.Common
import TextSieve.CommandLine.Arguments

/-! What arguments give. The reader checks while it reads; a scan without checks tells which
parameters arguments give, with which values, and where the reading stands behind them. Arguments
are read exactly if the scan goes through and what it finds is valid, that is, no switch and no
single value is given twice and every value is accepted. -/

namespace TextSieve.CommandLine

/-- Parameters that are given, in their order; a switch has an empty value. -/
abbrev Given := List (Parameter × Text)

def valuesIn (g : Given) (p : Parameter) : List Text :=
  (g.filter (·.1 == p)).map (·.2)

def Accepted (g : Given) : Prop := ∀ x ∈ g, x.1.accepts x.2 = true

/-- Nothing is wrong with what is given, but that something may be missing or conflict. -/
structure Valid (g : Given) : Prop where
  single : ∀ p : Parameter, p.arity = .switch ∨ p.arity = .value → (valuesIn g p).length ≤ 1
  accepted : Accepted g

def added (p : Parameter) (values : List Text) : Given :=
  if p.takesValue then values.map (p, ·) else [(p, [])]

variable {g h : Given} {p q : Parameter} {values : List Text}

@[simp] theorem valuesIn_append (g h : Given) (p : Parameter) :
    valuesIn (g ++ h) p = valuesIn g p ++ valuesIn h p := by
  simp [valuesIn]

theorem valuesIn_filter (f : Parameter → Bool) (g : Given) (p : Parameter) :
    valuesIn (g.filter fun x => f x.1) p = if f p then valuesIn g p else [] := by
  have hfilter : (g.filter fun x => f x.1).filter (·.1 == p) =
      (g.filter (·.1 == p)).filter fun _ => f p := by
    rw [List.filter_filter, List.filter_filter]
    refine List.filter_congr fun x _ => ?_
    by_cases hx : x.1 = p
    · simp [hx]
    · simp [beq_eq_false_iff_ne.2 hx]
  rw [valuesIn, hfilter]
  cases f p <;> simp [valuesIn]

theorem has_iff {s : Progress} : s.has p = true ↔ valuesIn s.given p ≠ [] := by
  simp [Progress.has, valuesIn, List.filter_eq_nil_iff]

theorem Valid.sublist (hv : Valid h) (hsub : g.Sublist h) : Valid g where
  single := by
    intro p hp
    exact Nat.le_trans ((hsub.filter _).map _).length_le (hv.single p hp)
  accepted := fun x hx => hv.accepted x (hsub.subset hx)

theorem valid_nil : Valid [] := ⟨by simp [valuesIn], by simp [Accepted]⟩

theorem accepted_append : Accepted (g ++ h) ↔ Accepted g ∧ Accepted h :=
  List.forall_mem_append

theorem valuesIn_added_of_ne (hne : p ≠ q) (values : List Text) :
    valuesIn (added q values) p = [] := by
  unfold added valuesIn
  split
  · simp [List.filter_map, Function.comp_def, hne.symm]
  · simp [hne.symm]

theorem valuesIn_added (p : Parameter) (values : List Text) :
    valuesIn (added p values) p = if p.takesValue then values else [[]] := by
  unfold added valuesIn
  split
  · simp [List.filter_map, Function.comp_def]
  · simp

theorem added_nil (hp : p.takesValue = true) : added p [] = [] := by
  simp [added, hp]

theorem added_append (hp : p.takesValue = true) (values : List Text) (value : Text) :
    added p (values ++ [value]) = added p values ++ added p [value] := by
  simp [added, hp]

theorem Valid.append_added (hv : Valid g) (haccepted : Accepted (added p values))
    (hsingle : p.arity = .switch ∨ p.arity = .value →
      valuesIn g p = [] ∧ (valuesIn (added p values) p).length ≤ 1) :
    Valid (g ++ added p values) where
  single := by
    intro q hq
    rw [valuesIn_append, List.length_append]
    by_cases hqp : q = p
    · subst hqp
      obtain ⟨hnew, hle⟩ := hsingle hq
      simpa [hnew] using hle
    · simpa [valuesIn_added_of_ne hqp] using hv.single q hq
  accepted := accepted_append.2 ⟨hv.accepted, haccepted⟩

/-- The outcome of a check of what is given then: it is valid and the reading goes on, or it is not,
and that a value is not accepted is the only reason that is no conflict. -/
inductive Checked (g : Given) (s : Progress) (x : Except UsageError Progress) : Prop
  | ok (hv : Valid g) (hx : x = .ok s)
  | error (hv : ¬ Valid g) (e : UsageError) (hx : x = .error e) (he : Accepted g → e = .conflict)

theorem accepts_of_switch (hp : p.takesValue = false) (value : Text) : p.accepts value = true := by
  cases p <;> first | rfl | cases hp

theorem accepted_added_iff :
    Accepted (added p values) ↔ (p.takesValue = true → values.all p.accepts = true) := by
  unfold added Accepted
  cases hp : p.takesValue with
  | true => simp
  | false => simp [accepts_of_switch hp]

theorem not_valid_of_has {s : Progress} (hhas : s.has p = true)
    (hp : p.arity = .switch ∨ p.arity = .value) (hvalues : p.takesValue = true → values ≠ []) :
    ¬ Valid (s.given ++ added p values) := by
  intro hv
  have hle := hv.single p hp
  have hbefore := List.length_pos_iff.2 (has_iff.1 hhas)
  rw [valuesIn_append, List.length_append, valuesIn_added] at hle
  split at hle
  · rename_i htakes
    have hnew := List.length_pos_iff.2 (hvalues htakes)
    omega
  · simp only [List.length_singleton] at hle
    omega

/-- Adding checks for a second switch or single value first, and then for values that are refused.
-/
theorem add_eq (s : Progress) (hp : ∀ e, p.arity ≠ .answer e)
    (hvalues : p.takesValue = true → values ≠ []) :
    s.add p values =
      if (p.arity = .switch ∨ p.arity = .value) ∧ s.has p = true then .error .conflict
      else if p.takesValue = true ∧ values.all p.accepts = false then .error .invalidValue
      else .ok { s with given := s.given ++ added p values } := by
  cases harity : p.arity with
  | answer e => exact absurd harity (hp e)
  | counter =>
    have htakes : p.takesValue = false := by simp [Parameter.takesValue, harity]
    simp [Progress.add, harity, added, htakes]
  | switch =>
    have htakes : p.takesValue = false := by simp [Parameter.takesValue, harity]
    simp [Progress.add, harity, added, htakes]
  | value =>
    have htakes : p.takesValue = true := by simp [Parameter.takesValue, harity]
    cases hall : values.all p.accepts <;>
      simp [Progress.add, harity, added, htakes, hvalues htakes, hall, -List.all_eq_true,
        -List.all_eq_false]
  | values =>
    have htakes : p.takesValue = true := by simp [Parameter.takesValue, harity]
    cases hall : values.all p.accepts <;>
      simp [Progress.add, harity, added, htakes, hvalues htakes, hall, -List.all_eq_true,
        -List.all_eq_false]

theorem checked_add {s : Progress} (hv : Valid s.given) (hp : ∀ e, p.arity ≠ .answer e)
    (hvalues : p.takesValue = true → values ≠ [])
    (hsingle : p.arity = .value → values.length ≤ 1) :
    Checked (s.given ++ added p values) { s with given := s.given ++ added p values }
      (s.add p values) := by
  rw [add_eq s hp hvalues]
  split
  · rename_i htwice
    exact .error (not_valid_of_has htwice.2 htwice.1 hvalues) .conflict rfl fun _ => rfl
  · rename_i hnew
    split
    · rename_i hrefused
      have hnot : ¬ Accepted (s.given ++ added p values) := by
        rw [accepted_append, accepted_added_iff, hrefused.2]
        simp [hrefused.1]
      exact .error (fun h => hnot h.accepted) .invalidValue rfl fun h => absurd h hnot
    · rename_i haccepted
      have hadded : Accepted (added p values) := by
        rw [accepted_added_iff]
        intro htakes
        cases hall : values.all p.accepts with
        | true => rfl
        | false => exact absurd ⟨htakes, hall⟩ haccepted
      refine .ok (hv.append_added hadded fun harity => ⟨?_, ?_⟩) rfl
      · by_contra hne
        exact hnew ⟨harity, has_iff.2 hne⟩
      · rw [valuesIn_added]
        split
        · rename_i htakes
          rcases harity with harity | harity
          · simp [Parameter.takesValue, harity] at htakes
          · exact hsingle harity
        · simp

structure Control where
  awaiting : Option Parameter := none
  trailing : Bool := false
  filled : Nat := 0
deriving DecidableEq, Repr

def Control.isOpen (k : Control) : Bool := !k.trailing && k.awaiting.isNone

namespace Progress

def control (s : Progress) : Control := ⟨s.awaiting, s.trailing, s.filled⟩

def items (s : Progress) : Given :=
  s.given ++ s.pending.elim [] fun q => added q.parameter q.values

/-- What is given is valid, and a parameter is awaited if its values are pending and there are none.
-/
structure Coherent (s : Progress) : Prop where
  valid : Valid s.given
  awaiting : s.awaiting = s.pending.bind fun q => if q.values = [] then some q.parameter else none
  /-- Positions take values too, but have no name. -/
  pending : ∀ q ∈ s.pending, q.parameter.takesValue = true ∧
    (q.parameter.arity = .value → q.values.length ≤ 1) ∧
    (q.values = [] → q.parameter.long? ≠ none)

theorem coherent_start : Coherent {} := ⟨valid_nil, rfl, by simp⟩

end Progress

/-- A step of the reader against what a scan of the same argument finds: a scan that fails is an
error, and otherwise the step adds what the scan has found, or this is not valid. -/
def Yields (s : Progress) (x : Except UsageError Progress) : Option (Given × Control) → Prop
  | none => ∃ e, x = .error e
  | some (g, k) =>
    (∃ s' : Progress, x = .ok s' ∧ s'.Coherent ∧ s'.control = k ∧ s'.items = s.items ++ g) ∨
    ¬ Valid (s.items ++ g) ∧ ∃ e, x = .error e ∧ (Accepted (s.items ++ g) → e = .conflict)

namespace Progress

variable {s : Progress}

theorem Coherent.awaiting_of_pending (hs : s.Coherent) {q : Pending} (hq : s.pending = some q) :
    s.awaiting = if q.values = [] then some q.parameter else none := by
  rw [hs.awaiting, hq]
  rfl

theorem Coherent.pending_of_awaiting (hs : s.Coherent) (hp : s.awaiting = some p) :
    s.pending = some ⟨p, []⟩ := by
  have hawaiting := hs.awaiting
  rw [hp] at hawaiting
  obtain ⟨q, hq, hempty⟩ := Option.bind_eq_some_iff.1 hawaiting.symm
  split at hempty
  · rename_i hvalues
    obtain rfl := Option.some.inj hempty
    rw [hq, ← hvalues]
  · cases hempty

/-- What is pending can be settled, unless its value is still awaited. -/
theorem checked_settle (hs : s.Coherent) (hawaiting : s.awaiting = none) :
    Checked s.items { s with given := s.items, pending := none } s.settle := by
  unfold settle items
  cases hpending : s.pending with
  | none =>
    refine .ok (by simpa using hs.valid) (congrArg Except.ok ?_)
    cases s
    obtain rfl : _ = none := hpending
    simp
  | some q =>
    obtain ⟨htakes, hsingle, -⟩ := hs.pending q hpending
    have hvalues : q.values ≠ [] := by
      intro hempty
      rw [hs.awaiting_of_pending hpending, if_pos hempty] at hawaiting
      cases hawaiting
    have hanswer : ∀ e, q.parameter.arity ≠ .answer e := by
      intro e he
      simp [Parameter.takesValue, he] at htakes
    exact checked_add (s := { s with pending := none }) hs.valid hanswer (fun _ => hvalues) hsingle

theorem settle_of_awaiting (hs : s.Coherent) (hp : s.awaiting = some p) :
    ∃ e, s.settle = .error e := by
  have hpending := hs.pending_of_awaiting hp
  obtain ⟨htakes, -⟩ := hs.pending _ hpending
  rw [settle, hpending]
  cases harity : p.arity <;> simp [Parameter.takesValue, harity, add] at htakes ⊢

/-- What settles first cannot go on while a value is awaited. -/
theorem yields_settle_bind {f : Progress → Except UsageError Progress} {g : Given} {k : Control}
    (hs : s.Coherent)
    (hf : s.awaiting = none → Valid s.items →
      Yields s (f { s with given := s.items, pending := none }) (some (g, k))) :
    Yields s (s.settle >>= f) (if s.awaiting = none then some (g, k) else none) := by
  cases hawaiting : s.awaiting with
  | some p =>
    obtain ⟨e, he⟩ := settle_of_awaiting hs hawaiting
    rw [he, if_neg (by simp)]
    exact ⟨e, rfl⟩
  | none =>
    rw [if_pos rfl]
    rcases checked_settle hs hawaiting with ⟨hv, hx⟩ | ⟨hv, e, hx, he⟩
    · rw [hx]
      exact hf hawaiting hv
    · rw [hx]
      refine .inr ⟨fun h => hv (h.sublist (List.sublist_append_left _ _)), e, rfl, fun h => ?_⟩
      exact he (accepted_append.1 h).1

theorem yields_give (hs : s.Coherent) (hp : ∀ e, p.arity ≠ .answer e)
    (hvalues : p.takesValue = true → values ≠ [])
    (hsingle : p.arity = .value → values.length ≤ 1) :
    Yields s (s.give p values) (if s.awaiting = none then some (added p values, s.control)
      else none) := by
  refine yields_settle_bind hs fun hawaiting hv => ?_
  rcases checked_add (s := { s with given := s.items, pending := none }) hv hp hvalues hsingle with
    ⟨hv', hx⟩ | ⟨hv', e, hx, he⟩
  · rw [hx]
    exact .inl ⟨_, rfl, ⟨hv', rfl, by simp⟩, by simp [control, hawaiting], by simp [items]⟩
  · rw [hx]
    exact .inr ⟨hv', e, rfl, he⟩

/-- A flag that takes a value has one attached, or the next argument is awaited for it. -/
theorem yields_giveValue (hs : s.Coherent) (htakes : p.takesValue = true) (hnamed : p.long? ≠ none)
    (attached : Option Text) :
    Yields s (s.giveValue p attached) (if s.awaiting = none then
      some (match attached with
        | some value => (added p [value], s.control)
        | none => ([], { s.control with awaiting := some p }))
      else none) := by
  have hanswer : ∀ e, p.arity ≠ .answer e := by
    intro e he
    simp [Parameter.takesValue, he] at htakes
  cases attached with
  | some value => exact yields_give hs hanswer (by simp) (by simp)
  | none =>
    refine yields_settle_bind hs fun hawaiting hv => ?_
    refine .inl ⟨_, rfl, ⟨hv, by simp, ?_⟩, rfl, by simp [items, added_nil htakes]⟩
    intro q hq
    obtain rfl := Option.some.inj hq
    exact ⟨htakes, by simp, fun _ => hnamed⟩

theorem yields_takeValue (hs : s.Coherent) (hp : s.awaiting = some p) (value : Text) :
    Yields s (.ok (s.takeValue value))
      (some (added p [value], { s.control with awaiting := none })) := by
  have hpending := hs.pending_of_awaiting hp
  obtain ⟨htakes, -⟩ := hs.pending _ hpending
  have htaken : s.takeValue value = { s with pending := some ⟨p, [value]⟩, awaiting := none } := by
    simp [takeValue, hpending]
  rw [htaken]
  refine .inl ⟨_, rfl, ⟨hs.valid, by simp, ?_⟩, rfl, ?_⟩
  · intro q hq
    obtain rfl := Option.some.inj hq
    exact ⟨htakes, by simp, by simp⟩
  · simp [items, hpending, added_nil htakes]

/-- A position takes the argument, also if it goes on collecting. -/
theorem yields_takePosition (hs : s.Coherent) (htakes : p.takesValue = true)
    (hposition : p.long? = none) (value : Text) :
    Yields s (s.takePosition p value) (if s.awaiting = none then
      some (added p [value],
        { s.control with filled := if p.arity = .values then s.filled else s.filled + 1 })
      else none) := by
  have hnew : ∀ given : Given, Valid given → given = s.items → s.awaiting = none →
      ∀ filled, Yields s (.ok { s with
        given := given, pending := some ⟨p, [value]⟩, awaiting := none, filled := filled })
      (some (added p [value], { s.control with filled := filled })) := by
    rintro given hv rfl hawaiting filled
    refine .inl ⟨_, rfl, ⟨hv, by simp, ?_⟩, by simp [control, hawaiting], by simp [items]⟩
    intro q hq
    obtain rfl := Option.some.inj hq
    exact ⟨htakes, by simp, by simp⟩
  unfold takePosition
  dsimp only
  cases hpending : s.pending with
  | none =>
    have hawaiting : s.awaiting = none := by simp [hs.awaiting, hpending]
    rw [if_pos hawaiting]
    have hitems : s.given = s.items := by simp [items, hpending]
    simpa using hnew s.given hs.valid hitems hawaiting _
  | some q =>
    obtain ⟨hq, -, hnamed⟩ := hs.pending q hpending
    dsimp only
    split
    · rename_i hsame
      obtain ⟨rfl, hcollects⟩ := hsame
      have harity : q.parameter.arity = .values := by simpa using hcollects
      have hvalues : q.values ≠ [] := fun hempty => hnamed hempty hposition
      have hawaiting : s.awaiting = none := by rw [hs.awaiting_of_pending hpending, if_neg hvalues]
      rw [if_pos hawaiting, if_pos harity]
      refine .inl ⟨_, rfl, ⟨hs.valid, by simp, ?_⟩, by simp [control, hawaiting], ?_⟩
      · intro q' hq'
        obtain rfl := Option.some.inj hq'
        exact ⟨hq, by simp [harity], by simp⟩
      · simp [items, hpending, added_append hq]
    · refine yields_settle_bind hs fun hawaiting hv => ?_
      simpa [pure, Except.pure] using hnew s.items hv rfl hawaiting _

end Progress

end TextSieve.CommandLine
