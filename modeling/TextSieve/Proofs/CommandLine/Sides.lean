import TextSieve.Proofs.CommandLine.Settings

/-! The two sides of a command. Each side is read and checked by itself, and a command line is
carried out if both fit. A shared flag that is given on both sides counts only behind the command.
-/

namespace TextSieve.CommandLine

variable {place : Place} {s : Progress} {g g' B H : Given} {p : Parameter} {name : CommandName}

def Complete (place : Place) (g : Given) : Prop := ∀ p ∈ place.required, valuesIn g p ≠ []

structure Fits (place : Place) (g : Given) : Prop where
  valid : Valid g
  conflicts : ∀ c ∈ place.conflicts, valuesIn g c.1 = [] ∨ valuesIn g c.2 = []
  complete : Complete place g

def finish (place : Place) (s : Progress) : Except UsageError Progress := do
  let s ← s.settle
  check place s
  return s

/-- The outcome for one side: everything is accepted, or something does not fit. This is a conflict
if nothing else is the matter. -/
inductive Judged (place : Place) (g : Given) (x : Except UsageError Progress) : Prop
  | ok (hfits : Fits place g) (s : Progress) (hx : x = .ok s) (hs : s.given = g)
  | error (hfits : ¬ Fits place g) (e : UsageError) (hx : x = .error e)
    (he : Accepted g → Complete place g → e = .conflict)

theorem check_eq (place : Place) (s : Progress) :
    check place s =
      if place.conflicts.any fun c => s.has c.1 && s.has c.2 then .error .conflict
      else if place.required.all s.has then .ok ()
      else .error .missingArgument := rfl

theorem conflicts_iff :
    (place.conflicts.any fun c => s.has c.1 && s.has c.2) = false ↔
      ∀ c ∈ place.conflicts, valuesIn s.given c.1 = [] ∨ valuesIn s.given c.2 = [] := by
  rw [List.any_eq_false]
  refine forall₂_congr fun c _ => ?_
  rw [Bool.and_eq_true, has_iff, has_iff, not_and_or, not_not, not_not]

theorem complete_iff : place.required.all s.has = true ↔ Complete place s.given := by
  rw [List.all_eq_true]
  exact forall₂_congr fun p _ => has_iff

theorem judged_check (hv : Valid s.given) :
    Judged place s.given (check place s >>= fun _ => .ok s) := by
  rw [check_eq]
  cases hconflicts : place.conflicts.any fun c => s.has c.1 && s.has c.2 with
  | true =>
    refine .error (fun hfits => ?_) .conflict rfl fun _ _ => rfl
    rw [conflicts_iff.2 hfits.conflicts] at hconflicts
    cases hconflicts
  | false =>
    simp only [Bool.false_eq_true, if_false]
    split
    · rename_i hrequired
      exact .ok ⟨hv, conflicts_iff.1 hconflicts, complete_iff.1 hrequired⟩ s rfl rfl
    · rename_i hrequired
      have hnot := fun h => hrequired (complete_iff.2 h)
      exact .error (fun hfits => hnot hfits.complete) .missingArgument rfl
        fun _ h => absurd h hnot

theorem judged_finish (hs : s.Coherent) (hawaiting : s.awaiting = none) :
    Judged place s.items (finish place s) := by
  unfold finish
  rcases Progress.checked_settle hs hawaiting with ⟨hv, hx⟩ | ⟨hv, e, hx, he⟩
  · rw [hx]
    exact judged_check (s := { s with given := s.items, pending := none }) hv
  · rw [hx]
    exact .error (fun hfits => hv hfits.valid) e rfl fun h _ => he h

def givenBy (place : Place) (pieces : List Piece) : Option Given :=
  (scanPieces place {} pieces).bind fun r => if r.2.awaiting = none then some r.1 else none

theorem offers_of_shared (place : Place)
    (h : ∀ p ∈ Parameter.shared,
      (p.long?.all fun name => place.long? name.toList = some p) = true ∧
        (p.short?.all fun c => place.short? c = some p) = true) :
    ∀ p ∈ Parameter.shared, place.Offers p := by
  intro p hp
  obtain ⟨hlong, hshort⟩ := h p hp
  rw [Option.all_eq_true] at hlong hshort
  exact ⟨fun name hname => of_decide_eq_true (hlong name hname),
    fun c hc => of_decide_eq_true (hshort c hc)⟩

theorem shares_beforeCommand : Place.beforeCommand.Shares where
  proper := by simp [Place.Proper, Place.beforeCommand]
  offers := offers_of_shared _ (by decide)
  required := by simp [Place.beforeCommand]
  attributes := by decide
  conflicts := by decide

theorem shares_behindCommand (name : CommandName) : (Place.behindCommand name).Shares where
  proper := by cases name <;> simp [Place.Proper, Place.behindCommand] <;> decide
  offers := offers_of_shared _ (by cases name <;> decide)
  required := by cases name <;> decide
  attributes := by cases name <;> decide
  conflicts := by cases name <;> decide

/-- What stands behind the command is read up to its end. -/
theorem readBehind_cases {pieces : List Piece}
    (hplaced : placed (Place.behindCommand name) {} pieces = true) :
    match givenBy (Place.behindCommand name) pieces with
    | none => ∃ e, readBehind name (pieces.flatMap Piece.args) = .error e
    | some g => Judged (Place.behindCommand name) g
        (readBehind name (pieces.flatMap Piece.args)) := by
  obtain ⟨x, hx, hread⟩ :=
    reads_pieces (shares_behindCommand name) Progress.coherent_start pieces hplaced []
  have hbehind : readBehind name (pieces.flatMap Piece.args) =
      x >>= finish (Place.behindCommand name) := by
    rw [List.append_nil] at hread
    unfold readBehind
    dsimp only
    rw [hread]
    cases x <;> rfl
  rw [hbehind]
  change Yields {} x (scanPieces (Place.behindCommand name) {} pieces) at hx
  unfold givenBy
  cases hscan : scanPieces (Place.behindCommand name) {} pieces with
  | none =>
    rw [hscan] at hx
    obtain ⟨e, rfl⟩ := hx
    exact ⟨e, rfl⟩
  | some r =>
    rw [hscan] at hx
    obtain ⟨g, k⟩ := r
    rw [Option.bind_some]
    by_cases hawaiting : k.awaiting = none
    · rw [if_pos hawaiting]
      rcases hx with ⟨s, rfl, hs, rfl, hitems⟩ | ⟨hv, e, rfl, he⟩
      · obtain rfl : s.items = g := hitems
        exact judged_finish hs hawaiting
      · exact .error (fun hfits => hv hfits.valid) e rfl fun h _ => he h
    · rw [if_neg hawaiting]
      rcases hx with ⟨s, rfl, hs, rfl, -⟩ | ⟨-, e, rfl, -⟩
      · obtain ⟨p, hp⟩ := Option.ne_none_iff_exists'.1 hawaiting
        obtain ⟨e, he⟩ := Progress.settle_of_awaiting hs hp
        exact ⟨e, by simp [finish, he, bind, Except.bind]⟩
      · exact ⟨e, rfl⟩

def CommandName.text : CommandName → Text
  | match_ => "match".toList
  | filter => "filter".toList
  | terms => "terms".toList
  | explain => "explain".toList

theorem ofText?_text (name : CommandName) : CommandName.ofText? name.text = some name := by
  cases name <;> decide

structure Line where
  before : List Piece
  name : CommandName
  behind : List Piece

namespace Line

def args (l : Line) : List Text :=
  l.before.flatMap Piece.args ++ l.name.text :: l.behind.flatMap Piece.args

def placed (l : Line) : Bool :=
  CommandLine.placed .beforeCommand {} l.before &&
    ((scanPieces .beforeCommand {} l.before).all fun r => r.2.isOpen) &&
    CommandLine.placed (.behindCommand l.name) {} l.behind

def sides? (l : Line) : Option (Given × Given) :=
  (givenBy .beforeCommand l.before).bind fun B =>
    (givenBy (.behindCommand l.name) l.behind).map fun H => (B, H)

def bare (l : Line) : Line where
  before := l.before.filter Piece.isWord
  name := l.name
  behind := l.behind.filter Piece.isWord

end Line

/-- What is given on both sides is carried out if each side fits. A side that does not is a conflict
if nothing else is the matter. -/
inductive Outcome (name : CommandName) (B H : Given) (x : Except UsageError Invocation) : Prop
  | ok (hbefore : Fits .beforeCommand B) (hbehind : Fits (.behindCommand name) H)
    (hx : x = .ok (.ofGiven name (combined { given := B } { given := H })))
  | error (hfits : ¬ (Fits .beforeCommand B ∧ Fits (.behindCommand name) H)) (e : UsageError)
    (hx : x = .error e)
    (he : Accepted B → Accepted H → Complete (.behindCommand name) H → e = .conflict)

theorem has_congr {s s' : Progress} (h : ∀ p, s.values p = s'.values p) (p : Parameter) :
    s.has p = s'.has p := by
  have hp : valuesIn s.given p = valuesIn s'.given p := h p
  rw [Bool.eq_iff_iff, has_iff, has_iff, hp]

/-- What is carried out depends on nothing but the values of each parameter. -/
theorem ofGiven_congr {s s' : Progress} (h : ∀ p, s.values p = s'.values p) :
    Invocation.ofGiven name s = Invocation.ofGiven name s' := by
  have hhas := has_congr h
  have hcommand : Command.ofGiven name s = Command.ofGiven name s' := by
    cases name <;> simp [Command.ofGiven, Progress.value?, h, hhas]
  have hvalue : ∀ p, s.value? p = s'.value? p := fun p => congrArg List.head? (h p)
  simp only [Invocation.ofGiven, OptionArguments.ofGiven, h, hhas, hcommand]
  rw [hvalue .format, hvalue .config, hvalue .attributeDelimiter]

/-- A shared parameter that is given behind the command has no other values. -/
theorem values_combined (before behind : Progress) (p : Parameter) :
    (combined before behind).values p =
      if p ∈ Parameter.shared ∧ valuesIn behind.given p ≠ [] then valuesIn behind.given p
      else valuesIn before.given p ++ valuesIn behind.given p := by
  have hcombined : (combined before behind).given =
      (before.given.filter fun x => !(x.1 ∈ Parameter.shared && behind.has x.1)) ++
        behind.given := rfl
  change valuesIn (combined before behind).given p = _
  rw [hcombined, valuesIn_append,
    valuesIn_filter (fun p => !(p ∈ Parameter.shared && behind.has p))]
  simp only [Bool.not_eq_true', Bool.and_eq_false_iff, decide_eq_false_iff_not, ← has_iff]
  split <;> split <;> simp_all

/-- Behind the command is read and checked first. -/
theorem read_of_command {args rest : List Text}
    (h : readArguments .beforeCommand {} args = .ok (s, some (name, rest))) :
    read args = readBehind name rest >>= fun behind => finish .beforeCommand s >>= fun before =>
      .ok (.ofGiven name (combined before behind)) := by
  unfold read finish
  rw [h]
  change (readBehind name rest >>= _) = _
  congr 1
  funext behind
  cases s.settle with
  | error e => rfl
  | ok before =>
    change (check .beforeCommand before >>= _) = (check .beforeCommand before >>= _) >>= _
    cases check .beforeCommand before <;> rfl

theorem outcome_of_judged {x y : Except UsageError Progress}
    (hbefore : Judged .beforeCommand B x) (hbehind : Judged (.behindCommand name) H y) :
    Outcome name B H (y >>= fun behind => x >>= fun before =>
      .ok (.ofGiven name (combined before behind))) := by
  rcases hbehind with ⟨hfits, behind, rfl, rfl⟩ | ⟨hfits, e, rfl, he⟩
  · rcases hbefore with ⟨hfits', before, rfl, rfl⟩ | ⟨hfits', e, rfl, he⟩
    · exact .ok hfits' hfits (congrArg Except.ok (ofGiven_congr fun _ => rfl))
    · have hcomplete : Complete .beforeCommand B := by simp [Complete, Place.beforeCommand]
      exact .error (fun h => hfits' h.1) e rfl fun h _ _ => he h hcomplete
  · exact .error (fun h => hfits h.2) e rfl fun _ => he

theorem read_cases (l : Line) (hl : l.placed = true) :
    match l.sides? with
    | none => ∃ e, read l.args = .error e
    | some (B, H) => Outcome l.name B H (read l.args) := by
  simp only [Line.placed, Bool.and_eq_true, Option.all_eq_true] at hl
  obtain ⟨⟨hbefore, hopen⟩, hbehind⟩ := hl
  obtain ⟨x, hx, hread⟩ := reads_pieces shares_beforeCommand Progress.coherent_start l.before
    hbefore (l.name.text :: l.behind.flatMap Piece.args)
  change Yields {} x (scanPieces .beforeCommand {} l.before) at hx
  have hside := readBehind_cases hbehind
  have hcommand : ∀ s : Progress, s.control.isOpen = true →
      readArguments .beforeCommand s (l.name.text :: l.behind.flatMap Piece.args) =
        .ok (s, some (l.name, l.behind.flatMap Piece.args)) := by
    intro s hs
    have hseeks : (Place.beforeCommand.leads && !s.trailing && s.awaiting.isNone) = true := by
      rw [Bool.and_assoc]
      exact hs
    rw [readArguments, commandAt?, if_pos hseeks, ofText?_text]
  unfold Line.sides?
  rw [givenBy]
  cases hscan : scanPieces .beforeCommand {} l.before with
  | none =>
    rw [hscan] at hx
    obtain ⟨e, rfl⟩ := hx
    exact ⟨e, by simp [read, Line.args, hread, bind, Except.bind]⟩
  | some r =>
    rw [hscan] at hx
    obtain ⟨B, k⟩ := r
    have hk : k.isOpen = true := hopen _ hscan
    have hawaiting : k.awaiting = none := by
      simp_all [Control.isOpen]
    rw [Option.bind_some, if_pos hawaiting, Option.bind_some]
    rcases hx with ⟨s, rfl, hs, rfl, hitems⟩ | ⟨hv, e, rfl, he⟩
    · obtain rfl : s.items = B := hitems
      have hline : readArguments .beforeCommand {} l.args =
          .ok (s, some (l.name, l.behind.flatMap Piece.args)) := hread.trans (hcommand s hk)
      rw [read_of_command hline]
      cases hH : givenBy (.behindCommand l.name) l.behind with
      | none =>
        rw [hH] at hside
        obtain ⟨e, he⟩ := hside
        rw [he]
        exact ⟨e, rfl⟩
      | some H =>
        rw [hH] at hside
        exact outcome_of_judged (judged_finish hs hawaiting) hside
    · have herror : read l.args = .error e := by
        simp [read, Line.args, hread, bind, Except.bind]
      cases givenBy (.behindCommand l.name) l.behind with
      | none => exact ⟨e, herror⟩
      | some H => exact .error (fun hfits => hv hfits.1.valid) e herror fun h _ _ => he h

theorem eq_text_of_ofText? {t : Text} (h : CommandName.ofText? t = some name) : t = name.text := by
  unfold CommandName.ofText? at h
  split at h <;> first
    | cases h; done
    | (rename_i hname
       obtain rfl := Option.some.inj h
       rw [← String.toList_ofList (l := t), hname]
       rfl)

/-- The arguments in front of a command, as far as the reader is concerned. -/
theorem exists_words (hplace : place.Proper) (hs : s.Coherent) {args rest : List Text}
    {s' : Progress} (h : readArguments place s args = .ok (s', some (name, rest))) :
    ∃ words : List Text, args = words ++ name.text :: rest ∧
      placed place s.control (words.map .word) = true ∧
      ∀ r ∈ scanPieces place s.control (words.map .word), r.2.isOpen = true := by
  induction args generalizing s with
  | nil => cases h
  | cons arg args ih =>
    cases hcommand : commandAt? place s arg with
    | some found =>
      rw [readArguments, hcommand] at h
      rw [commandAt?, Option.ite_none_right_eq_some, Bool.and_assoc] at hcommand
      obtain ⟨hseeks, hfound⟩ := hcommand
      obtain ⟨rfl, hcommand⟩ := Prod.mk.inj (Except.ok.inj h)
      obtain ⟨rfl, rfl⟩ := Prod.mk.inj (Option.some.inj hcommand)
      have hopen : s.control.isOpen = true := (Bool.and_eq_true_iff.1 hseeks).2
      refine ⟨[], by rw [eq_text_of_ofText? hfound]; rfl, rfl, fun r hr => ?_⟩
      obtain rfl := Option.some.inj hr
      exact hopen
    | none =>
      obtain ⟨x, hx, hread⟩ := reads_word hs hplace hcommand args
      rw [List.singleton_append] at hread
      rw [hread] at h
      cases x with
      | error e => cases h
      | ok s₁ =>
        obtain ⟨hs₁, g, hscan⟩ := hx.of_ok
        obtain ⟨words, rfl, hplaced, hopen⟩ := ih hs₁ h
        refine ⟨arg :: words, rfl, ?_, ?_⟩
        · rw [List.map_cons, placed, fits_word_iff.2 hcommand, Piece.scan, hscan]
          exact hplaced
        · rw [List.map_cons, scanPieces, Piece.scan, hscan]
          intro r hr
          obtain ⟨r', hr', rfl⟩ := Option.map_eq_some_iff.1 hr
          exact hopen r' hr'

/-- Where no command is looked for, words stand anywhere. -/
theorem placed_of_not_leads (hleads : place.leads = false) (k : Control) (words : List Text) :
    placed place k (words.map .word) = true := by
  induction words generalizing k with
  | nil => rfl
  | cons arg words ih =>
    rw [List.map_cons, placed, Bool.and_eq_true, Option.all_eq_true]
    exact ⟨by simp [Piece.fits, Control.seeks, hleads], fun r _ => ih r.2⟩

theorem flatMap_args_words (words : List Text) :
    (words.map Piece.word).flatMap Piece.args = words := by
  induction words with
  | nil => rfl
  | cons arg words ih => simp [Piece.args, ih]

/-- Arguments in which a command is found are such a line. -/
theorem exists_line {args rest : List Text}
    (h : readArguments .beforeCommand {} args = .ok (s, some (name, rest))) :
    ∃ l : Line, l.placed = true ∧ l.args = args ∧ l.name = name := by
  obtain ⟨words, rfl, hplaced, hopen⟩ :=
    exists_words shares_beforeCommand.proper Progress.coherent_start h
  have hleads : (Place.behindCommand name).leads = false := by cases name <;> rfl
  refine ⟨⟨words.map .word, name, rest.map .word⟩, ?_, ?_, rfl⟩
  · rw [Line.placed, Bool.and_eq_true, Bool.and_eq_true, Option.all_eq_true]
    exact ⟨⟨hplaced, hopen⟩, placed_of_not_leads hleads _ rest⟩
  · rw [Line.args, flatMap_args_words, flatMap_args_words]

end TextSieve.CommandLine
