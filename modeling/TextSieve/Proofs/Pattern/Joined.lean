import TextSieve.Delimiter
import TextSieve.Proofs.Pattern.Enclosed
import TextSieve.Proofs.Pattern.Outline

/-! Patterns joined into one choice. Each is read under the flags that the one before it leaves, and
otherwise as it is read on its own, so the choice has the branches of all of them. Names are the
exception: the choice can be refused where a name is taken. -/

namespace TextSieve

theorem Text.join_cons_cons (separator a b : Text) (ts : List Text) :
    join separator (a :: b :: ts) = a ++ separator ++ join separator (b :: ts) := rfl

namespace Pattern

open Reader

/-- The own readings of texts, each under the flags that the one before it leaves, where none may
leave `x`. -/
inductive OwnReadings : Flags → List Text → List Reader → Prop
  | nil (f : Flags) : OwnReadings f [] []
  | cons {f : Flags} {p : Text} {e : Reader} {ps : List Text} {es : List Reader} :
    OwnReading f p e → e.flags.verbose = false → OwnReadings e.flags ps es →
      OwnReadings f (p :: ps) (e :: es)

def branchesOf (es : List Reader) : List Branch :=
  es.flatMap fun e => e.allBranches.reverse

def namesOf (es : List Reader) : List Text :=
  es.reverse.flatMap Reader.names

theorem namesOf_cons (e : Reader) (es : List Reader) :
    namesOf (e :: es) = namesOf es ++ e.names := by
  simp [namesOf]

theorem namesOf_eq_nil_iff {es : List Reader} : namesOf es = [] ↔ ∀ e ∈ es, e.names = [] := by
  simp [namesOf]

variable {f g : Flags} {p z : Text} {ps : List Text} {s e : Reader} {es : List Reader}

namespace OwnReading

theorem head?_ne (h : OwnReading f p e) : p.head? ≠ some '?' :=
  head?_ne_of_read? h.read

theorem unique {e' : Reader} (h : OwnReading f p e) (h' : OwnReading f p e') : e = e' :=
  Option.some.inj (h.read.symm.trans h'.read)

/-- A pattern can be read under all flags with the same outline. -/
theorem exists_of_outline (h : OwnReading f p e) (hg : f.outline = g.outline) :
    ∃ e', OwnReading g p e' ∧ e'.outline = e.outline := by
  have hstart : outline { flags := f } = outline { flags := g } := by simp [outline, hg]
  have hread := outline_read? hstart 0 p
  rw [h.read] at hread
  obtain ⟨e', he', houtline⟩ := Option.map_eq_some_iff.1 hread.symm
  refine ⟨e', ⟨he', ?_, ?_⟩, houtline⟩
  · have houters := congrArg Reader.outers houtline
    simpa [outline, h.outers] using houters
  · have hbrackets := congrArg Reader.brackets houtline
    simpa [outline, h.brackets] using hbrackets

/-- A pattern as a branch of the group that is being read. -/
theorem read?_append (h : OwnReading f p e) (hverbose : e.flags.verbose = false)
    (hflags : s.flags = f) (hitems : s.items = []) (hbrackets : s.brackets = []) (hz : Shuts z) :
    (s.read? 0 (p ++ z) = ({ e with
        branches := e.branches ++ s.branches
        outers := s.outers
        names := e.names ++ s.names } : Reader).read? 0 z ∧
      (s.names.Nodup → (e.names ++ s.names).Nodup)) ∨
      s.read? 0 (p ++ z) = none ∧ e.names ≠ [] := by
  let frame : Frame := ⟨s.branches, s.outers, s.names⟩
  have hs : s = enclosed frame { flags := f } := by
    rw [enclosed_of_closed rfl]
    obtain ⟨_, _, _, _, _, _⟩ := s
    simp_all [frame]
  have hcomment : e.flags.verbose = true → (Flags.skipBlank true z).head? ≠ some '?' := by
    simp [hverbose]
  have hkept := kept_read frame hz h.read (Nat.zero_le _) h.outers hcomment
  rw [← hs, enclosed_of_closed h.outers] at hkept
  rcases hkept with hsame | ⟨hnone, name, hname, -⟩ | ⟨hcontra, -⟩
  · exact .inl hsame
  · exact .inr ⟨hnone, List.ne_nil_of_mem hname⟩
  · rw [hverbose] at hcontra
    cases hcontra

end OwnReading

/-- Patterns can be read one after the other if each can be read under all flags of a kind and
leaves flags of that kind. -/
theorem exists_ownReadings {S : Flags → Prop} {P : Text → Reader → Prop}
    (hverbose : ∀ f, S f → f.verbose = false)
    (h : ∀ f, S f → ∀ p ∈ ps, ∃ e, OwnReading f p e ∧ S e.flags ∧ P p e) (hf : S f) :
    ∃ es, OwnReadings f ps es ∧ List.Forall₂ P ps es := by
  induction ps generalizing f with
  | nil => exact ⟨[], .nil f, .nil⟩
  | cons p ps ih =>
    obtain ⟨e, he, hflags, hP⟩ := h f hf p List.mem_cons_self
    obtain ⟨es, hes, hall⟩ := ih (fun g hg q hq => h g hg q (List.mem_cons_of_mem p hq)) hflags
    exact ⟨e :: es, .cons he (hverbose _ hflags) hes, .cons hP hall⟩

namespace OwnReadings

theorem head?_join_ne (h : OwnReadings f ps es) : (Text.join ['|'] ps).head? ≠ some '?' := by
  cases h with
  | nil f => simp [Text.join]
  | @cons f p e ps es he _ _ =>
    cases ps with
    | nil => exact he.head?_ne
    | cons q ps =>
      rw [Text.join_cons_cons, List.append_assoc]
      exact head?_append_ne he.head?_ne (by simp)

/-- Patterns joined with bars, from the beginning of a branch. -/
theorem read?_join (h : OwnReadings f ps es) (hne : ps ≠ []) (hflags : s.flags = f)
    (hitems : s.items = []) (hbrackets : s.brackets = []) :
    ∃ s' : Reader, s'.outers = s.outers ∧ s'.brackets = [] ∧ s'.names = namesOf es ++ s.names ∧
      s'.allBranches = (branchesOf es).reverse ++ s.branches ∧ ∀ z, Shuts z →
        (s.read? 0 (Text.join ['|'] ps ++ z) = s'.read? 0 z ∧
          (s.names.Nodup → s'.names.Nodup)) ∨
        s.read? 0 (Text.join ['|'] ps ++ z) = none ∧ namesOf es ≠ [] := by
  induction h generalizing s with
  | nil f => exact absurd rfl hne
  | @cons f p e ps es he hverbose hes ih =>
    let m : Reader := { e with
      branches := e.branches ++ s.branches
      outers := s.outers
      names := e.names ++ s.names }
    have hm : m.allBranches = e.allBranches ++ s.branches := rfl
    cases ps with
    | nil =>
      cases hes
      refine ⟨m, rfl, he.brackets, by simp [namesOf, m], by simp [branchesOf, hm], fun z hz => ?_⟩
      have hread := he.read?_append hverbose hflags hitems hbrackets hz
      simpa [Text.join, namesOf] using hread
    | cons q ps =>
      let b : Reader := { m with branches := m.allBranches, items := [] }
      obtain ⟨s', houters, hbrackets', hnames, hall, hread⟩ :=
        ih (s := b) (by simp) rfl rfl he.brackets
      refine ⟨s', houters, hbrackets', ?_, ?_, fun z hz => ?_⟩
      · rw [hnames, namesOf_cons, List.append_assoc]
      · rw [hall]
        simp [branchesOf, b, hm]
      · have hbar : m.read? 0 (['|'] ++ Text.join ['|'] (q :: ps) ++ z) =
            b.read? 0 (Text.join ['|'] (q :: ps) ++ z) := by
          rw [List.append_assoc]
          exact read?_bar (s := m) hverbose he.brackets _
        have hz' : Shuts (['|'] ++ Text.join ['|'] (q :: ps) ++ z) := .inr (.inl rfl)
        rw [Text.join_cons_cons, List.append_assoc, List.append_assoc, ← List.append_assoc ['|'],
          namesOf_cons]
        rcases he.read?_append hverbose hflags hitems hbrackets hz' with
          ⟨hfirst, hnodup⟩ | ⟨hfirst, hnew⟩
        · rw [hfirst, hbar]
          rcases hread z hz with ⟨hrest, hnodup'⟩ | ⟨hrest, hnew⟩
          · exact .inl ⟨hrest, fun hs => hnodup' (hnodup hs)⟩
          · exact .inr ⟨hrest, by simp [hnew]⟩
        · exact .inr ⟨hfirst, by simp [hnew]⟩

variable {caseless : Bool}

/-- The choice between patterns, in parentheses. -/
theorem read?_choice (h : OwnReadings { caseless := caseless } ps es) (hne : ps ≠ [])
    (hs : Plain caseless s) (rest : Text) :
    (s.read? 0 (Delimiter.choice ps ++ rest) =
        ({ s.append [groupItem none (branchesOf es)] with
          names := namesOf es ++ s.names } : Reader).read? 0 rest ∧
      (s.names.Nodup → (namesOf es ++ s.names).Nodup)) ∨
      s.read? 0 (Delimiter.choice ps ++ rest) = none ∧ namesOf es ≠ [] := by
  obtain ⟨s', houters, hbrackets, hnames, hall, hread⟩ :=
    h.read?_join (s := s.openGroup s.flags none) hne hs.flags rfl hs.brackets
  have hopen : s.read? 0 (Delimiter.choice ps ++ rest) =
      (s.openGroup s.flags none).read? 0 (Text.join ['|'] ps ++ ([')'] ++ rest)) := by
    rw [Delimiter.choice, List.append_assoc, List.append_assoc]
    exact reads_openPlain hs _ (head?_append_ne h.head?_join_ne (by simp))
  have hclose : s'.read? 0 ([')'] ++ rest) =
      ({ s.append [groupItem none (branchesOf es)] with
        names := namesOf es ++ s.names } : Reader).read? 0 rest := by
    rw [List.singleton_append, read?_cons, step?_close hbrackets houters, hall, hbrackets, hnames]
    simp [openGroup, Reader.append, hs.brackets]
  rw [hopen]
  rcases hread ([')'] ++ rest) (.inl rfl) with ⟨hsame, hnodup⟩ | hrefused
  · rw [hnames] at hnodup
    exact .inl ⟨hsame.trans hclose, hnodup⟩
  · exact .inr hrefused

/-- Without names the choice stands for one item. -/
theorem readsAs_choice (h : OwnReadings { caseless := caseless } ps es) (hne : ps ≠ [])
    (hnames : ∀ e ∈ es, e.names = []) :
    ReadsAs caseless (Delimiter.choice ps) [groupItem none (branchesOf es)] := by
  intro s hs rest _
  have hnil := namesOf_eq_nil_iff.2 hnames
  rcases h.read?_choice hne hs rest with ⟨hsame, -⟩ | ⟨-, hnew⟩
  · rw [hsame, hnil]
    rfl
  · exact absurd hnil hnew

end OwnReadings

end Pattern

end TextSieve
