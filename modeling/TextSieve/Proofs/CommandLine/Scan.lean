import TextSieve.Proofs.CommandLine.Given

/-! A scan of arguments reads their shape and checks nothing that is given. The readers yield what
the scan finds, argument by argument, so that arguments can be read on from where others end. -/

namespace TextSieve.CommandLine

variable {g : Given} {p : Parameter}

def andThen (found : Option (Given × Control)) (next : Control → Option (Given × Control)) :
    Option (Given × Control) :=
  found.bind fun r => (next r.2).map fun r' => (r.1 ++ r'.1, r'.2)

theorem Yields.after {s s' : Progress} {x : Except UsageError Progress} {k : Control}
    {g' : Given} (h : Yields s' x (some (g', k))) (hitems : s'.items = s.items ++ g) :
    Yields s x (some (g ++ g', k)) := by
  simp only [Yields, hitems, List.append_assoc] at h ⊢
  exact h

theorem Yields.of_ok {s s' : Progress} {found : Option (Given × Control)}
    (h : Yields s (.ok s') found) : s'.Coherent ∧ ∃ g, found = some (g, s'.control) := by
  cases found with
  | none =>
    obtain ⟨e, he⟩ := h
    cases he
  | some r =>
    rcases h with ⟨s'', hok, hs', hk, -⟩ | ⟨-, e, he, -⟩
    · obtain rfl := Except.ok.inj hok
      exact ⟨hs', r.1, by rw [hk]⟩
    · cases he

theorem Yields.bind {s : Progress} {x : Except UsageError Progress}
    {found : Option (Given × Control)} {f : Progress → Except UsageError Progress}
    {next : Control → Option (Given × Control)} (h : Yields s x found)
    (hf : ∀ s' : Progress, x = .ok s' → s'.Coherent → (∃ g, found = some (g, s'.control)) →
      Yields s' (f s') (next s'.control)) :
    Yields s (x >>= f) (andThen found next) := by
  cases found with
  | none =>
    obtain ⟨e, rfl⟩ := h
    exact ⟨e, rfl⟩
  | some r =>
    obtain ⟨g, k⟩ := r
    rcases h with ⟨s', rfl, hs', rfl, hitems⟩ | ⟨hv, e, rfl, he⟩
    · have hrest := hf s' rfl hs' ⟨g, rfl⟩
      cases hnext : next s'.control with
      | none =>
        rw [hnext] at hrest
        obtain ⟨e, he⟩ := hrest
        simp only [andThen, Option.bind_some, hnext, Option.map_none]
        exact ⟨e, he⟩
      | some r' =>
        rw [hnext] at hrest
        simp only [andThen, Option.bind_some, hnext, Option.map_some]
        exact hrest.after hitems
    · simp only [andThen, Option.bind_some]
      cases next k with
      | none => exact ⟨e, rfl⟩
      | some r' =>
        rw [Option.map_some]
        refine .inr ⟨fun h => hv (h.sublist ?_), e, rfl, fun h => he ?_⟩
        · simp
        · rw [← List.append_assoc] at h
          exact (accepted_append.1 h).1

def Parameter.answers (p : Parameter) : Bool :=
  match p.arity with
  | .answer _ => true
  | _ => false

def scanFlag (k : Control) (p : Parameter) (attached : Option Text) : Option (Given × Control) :=
  if k.awaiting = none then
    if p.takesValue then
      some (match attached with
        | some value => (added p [value], k)
        | none => ([], { k with awaiting := some p }))
    else if attached.isSome || p.answers then none
    else some (added p [], k)
  else none

def scanLong (place : Place) (k : Control) (t : Text) : Option (Given × Control) :=
  match Text.cut? ['='] t with
  | some (name, value) => (place.long? name).bind fun p => scanFlag k p (some value)
  | none => (place.long? t).bind fun p => scanFlag k p none

def attachedTo (rest : Text) : Option Text :=
  match rest with
  | [] => none
  | '=' :: value => some value
  | value => some value

def scanShort (place : Place) (k : Control) : Text → Option (Given × Control)
  | [] => some ([], k)
  | c :: rest =>
    (place.short? c).bind fun p =>
      if p.takesValue then scanFlag k p (attachedTo rest)
      else andThen (scanFlag k p none) fun k => scanShort place k rest

def scanPlain (place : Place) (k : Control) (arg : Text) : Option (Given × Control) :=
  match k.awaiting with
  | some p => if k.trailing then none else some (added p [arg], { k with awaiting := none })
  | none =>
    (place.positions[k.filled]?).map fun p =>
      (added p [arg], { k with filled := if p.arity = .values then k.filled else k.filled + 1 })

def scanOpen (place : Place) (k : Control) (arg : Text) : Option (Given × Control) :=
  match arg with
  | ['-', '-'] => some ([], { k with trailing := true })
  | '-' :: '-' :: rest => scanLong place k rest
  | ['-'] => scanPlain place k arg
  | '-' :: rest => scanShort place k rest
  | _ => scanPlain place k arg

def Control.seeks (k : Control) (place : Place) : Bool :=
  place.leads && k.isOpen

/-- An argument that is no command. A request for help ends the reading. -/
def scanWord (place : Place) (k : Control) (arg : Text) : Option (Given × Control) :=
  if k.seeks place && arg == helpCommand then none
  else if k.trailing then scanPlain place k arg
  else scanOpen place k arg

def Place.Proper (place : Place) : Prop :=
  ∀ p ∈ place.positions, p.takesValue = true ∧ p.long? = none

variable {place : Place} {s : Progress}

theorem long?_of_place_long? {name : Text} (h : place.long? name = some p) : p.long? ≠ none := by
  intro hnone
  have hfound := List.find?_some h
  simp [hnone] at hfound

theorem long?_of_place_short? {c : Char} (h : place.short? c = some p) : p.long? ≠ none := by
  intro hnone
  have hshort : p.short? = some c := by simpa using List.find?_some h
  cases p <;> simp_all [Parameter.long?, Parameter.short?]

theorem exists_error_of_answers (s : Progress) (hp : p.answers = true) :
    ∃ e, s.give p [] = .error e := by
  unfold Parameter.answers at hp
  split at hp
  · rename_i e harity
    unfold Progress.give
    cases s.settle with
    | error e' => exact ⟨e', rfl⟩
    | ok s' => exact ⟨e, by simp [Progress.add, harity, bind, Except.bind]⟩
  · cases hp

theorem yields_flag (hs : s.Coherent) (hnamed : p.long? ≠ none) (attached : Option Text) :
    Yields s (if p.takesValue then s.giveValue p attached
      else if attached.isSome then .error .tooManyValues
      else s.give p []) (scanFlag s.control p attached) := by
  unfold scanFlag
  cases htakes : p.takesValue with
  | true => exact Progress.yields_giveValue hs htakes hnamed attached
  | false =>
    cases attached with
    | some value =>
      simp only [Option.isSome_some, Bool.true_or, if_true, Bool.false_eq_true, if_false, ite_self]
      exact ⟨_, rfl⟩
    | none =>
      simp only [Option.isSome_none, Bool.false_or, Bool.false_eq_true, if_false]
      cases hanswers : p.answers with
      | true =>
        simp only [if_true, ite_self]
        exact exists_error_of_answers s hanswers
      | false =>
        have hp : ∀ e, p.arity ≠ .answer e := by
          intro e he
          simp [Parameter.answers, he] at hanswers
        have hgive : Yields s (s.give p [])
            (if s.awaiting = none then some (added p [], s.control) else none) :=
          Progress.yields_give hs hp (by simp [htakes]) (by simp)
        simp only [Bool.false_eq_true, if_false]
        exact hgive

theorem yields_long (hs : s.Coherent) (t : Text) :
    Yields s (readLong place s t) (scanLong place s.control t) := by
  unfold readLong scanLong
  cases Text.cut? ['='] t with
  | none =>
    dsimp only
    cases hname : place.long? t with
    | none => exact ⟨_, rfl⟩
    | some p => exact yields_flag hs (long?_of_place_long? hname) none
  | some parts =>
    dsimp only
    cases hname : place.long? parts.1 with
    | none => exact ⟨_, rfl⟩
    | some p => exact yields_flag hs (long?_of_place_long? hname) (some parts.2)

theorem yields_short (hs : s.Coherent) (t : Text) :
    Yields s (readShort place s t) (scanShort place s.control t) := by
  induction t generalizing s with
  | nil => exact .inl ⟨s, rfl, hs, rfl, by simp⟩
  | cons c rest ih =>
    unfold readShort scanShort
    cases hname : place.short? c with
    | none => exact ⟨_, rfl⟩
    | some p =>
      have hflag := fun attached => yields_flag hs (long?_of_place_short? hname) attached
      simp only [Option.bind_some]
      cases htakes : p.takesValue with
      | true =>
        have hvalue := hflag (attachedTo rest)
        simp only [htakes, if_true] at hvalue ⊢
        exact hvalue
      | false =>
        have hswitch := hflag none
        simp only [htakes, Bool.false_eq_true, if_false, Option.isSome_none] at hswitch ⊢
        exact hswitch.bind fun s' _ hs' _ => ih hs'

/-- An argument that fills a position, if there is one left. -/
theorem yields_position (hs : s.Coherent) (hplace : place.Proper) (arg : Text) (e : UsageError) :
    Yields s
      (match place.positions[s.filled]? with
        | some p => s.takePosition p arg
        | none => .error e)
      (if s.awaiting = none then (place.positions[s.filled]?).map fun p =>
        (added p [arg],
          { s.control with filled := if p.arity = .values then s.filled else s.filled + 1 })
        else none) := by
  cases hp : place.positions[s.filled]? with
  | none =>
    simp only [Option.map_none, ite_self]
    exact ⟨e, rfl⟩
  | some p =>
    obtain ⟨htakes, hnamed⟩ := hplace p (List.mem_of_getElem? hp)
    exact Progress.yields_takePosition hs htakes hnamed arg

theorem yields_plain (hs : s.Coherent) (hplace : place.Proper) (arg : Text) :
    Yields s (readPlain place s arg) (scanPlain place s.control arg) := by
  obtain ⟨e, he⟩ : ∃ e : UsageError, (if place.leads then
      if s.trailing && ((CommandName.ofText? arg).isSome || arg == helpCommand) then
        .error .unknownArgument
      else .error .invalidCommand
    else .error .unknownArgument : Except UsageError Progress) = .error e := by
    split
    · split <;> exact ⟨_, rfl⟩
    · exact ⟨_, rfl⟩
  have hposition := yields_position hs hplace arg e
  unfold readPlain scanPlain
  rw [he]
  cases hawaiting : s.awaiting with
  | none =>
    rw [if_pos hawaiting] at hposition
    simp only [Progress.control, hawaiting, Option.isSome_none, Bool.false_and, Bool.false_eq_true,
      if_false] at hposition ⊢
    exact hposition
  | some p =>
    cases htrailing : s.trailing with
    | false =>
      have hvalue := Progress.yields_takeValue hs hawaiting arg
      simp only [Progress.control, hawaiting, htrailing] at hvalue ⊢
      exact hvalue
    | true =>
      simp only [Progress.control, hawaiting, htrailing, reduceCtorEq, Option.isSome_some,
        Bool.not_true, Bool.and_false, Bool.false_eq_true, if_false, if_true] at hposition ⊢
      exact hposition

/-- Reading these arguments in front of any others yields what a scan of them finds. -/
def Reads (place : Place) (s : Progress) (args : List Text) (found : Option (Given × Control)) :
    Prop :=
  ∀ rest, ∃ x, Yields s x found ∧
    readArguments place s (args ++ rest) = x >>= fun s' => readArguments place s' rest

theorem reads_nil (hs : s.Coherent) : Reads place s [] (some ([], s.control)) :=
  fun _ => ⟨.ok s, .inl ⟨s, rfl, hs, rfl, by simp⟩, rfl⟩

theorem Reads.append {args args' : List Text} {found : Option (Given × Control)}
    {next : Control → Option (Given × Control)} (h : Reads place s args found)
    (hnext : ∀ s' : Progress, s'.Coherent → (∃ g, found = some (g, s'.control)) →
      Reads place s' args' (next s'.control)) :
    Reads place s (args ++ args') (andThen found next) := by
  intro rest
  obtain ⟨x, hx, hread⟩ := h (args' ++ rest)
  rw [List.append_assoc, hread]
  cases x with
  | error e => exact ⟨_, hx.bind (f := fun _ => .error e) (by simp), rfl⟩
  | ok s' =>
    obtain ⟨hs', hfound⟩ := hx.of_ok
    obtain ⟨y, hy, hread'⟩ := hnext s' hs' hfound rest
    refine ⟨_, hx.bind (f := fun _ => y) fun s'' hok _ _ => ?_, hread'⟩
    obtain rfl := Except.ok.inj hok
    exact hy

theorem yields_open {α : Type} (hs : s.Coherent) (hplace : place.Proper) (arg : Text)
    (f : Progress → Except UsageError α) :
    ∃ x, Yields s x (scanOpen place s.control arg) ∧
      (readFlag place s arg >>= fun
        | .done s => f s
        | .notFlag => readPlain place s arg >>= f) = x >>= f := by
  unfold scanOpen
  split
  · refine ⟨.ok { s with trailing := true }, .inl ⟨_, rfl, ?_, rfl, ?_⟩, rfl⟩
    · exact ⟨hs.valid, hs.awaiting, hs.pending⟩
    · simp [Progress.items]
  · rename_i t hne
    refine ⟨_, yields_long hs t, ?_⟩
    rw [readFlag.eq_2 _ _ _ hne]
    cases readLong place s t <;> rfl
  · exact ⟨_, yields_plain hs hplace _, rfl⟩
  · rename_i t hdashes hlong hne
    refine ⟨_, yields_short hs t, ?_⟩
    rw [readFlag.eq_4 _ _ _ hdashes hlong hne]
    cases readShort place s t <;> rfl
  · rename_i h₁ h₂ h₃ h₄
    refine ⟨_, yields_plain hs hplace arg, ?_⟩
    rw [readFlag.eq_5 _ _ _ h₁ h₂ h₃ h₄]
    rfl

/-- A step for one argument that is no command. -/
theorem reads_word (hs : s.Coherent) (hplace : place.Proper) {arg : Text}
    (hcommand : commandAt? place s arg = none) :
    Reads place s [arg] (scanWord place s.control arg) := by
  intro rest
  have hseeks : s.control.seeks place = (place.leads && !s.trailing && s.awaiting.isNone) :=
    (Bool.and_assoc ..).symm
  have htrailing : s.control.trailing = s.trailing := rfl
  rw [List.singleton_append, readArguments, hcommand, scanWord, hseeks, htrailing]
  dsimp only
  split
  · exact ⟨.error (helpOn rest), ⟨_, rfl⟩, rfl⟩
  · split
    · exact ⟨_, yields_plain hs hplace arg, rfl⟩
    · exact yields_open hs hplace arg fun s' => readArguments place s' rest

end TextSieve.CommandLine
