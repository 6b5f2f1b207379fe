import Mathlib.Tactic.Common
import TextSieve.Proofs.Session.Calls

/-! A session is known from its history. Each of its parts is what the latest call that could change
that part has left there; the options are so field by field, and the fragment follows them. -/

namespace TextSieve

namespace Session

structure Event where
  before : Session
  call : Call
  answer : Answer

def run (s : Session) (extractor : Extractor) (calls : List Call) (c : Cache) :
    List Event × Session × Cache :=
  match calls with
  | [] => ([], s, c)
  | x :: rest =>
    let (answer, s', c') := s.call extractor x c
    let (events, s'', c'') := s'.run extractor rest c'
    (⟨s, x, answer⟩ :: events, s'', c'')

namespace Event

def parsed? (e : Event) : Option (Except Error Unit) :=
  match e.call, e.answer with
  | .parse _, .done r => some r
  | _, _ => none

/-- The tree of a query that was read, under the attribute delimiter of the session at that time. -/
def tree? (e : Event) : Option Query :=
  match e.call, e.answer with
  | .parse query, .done (.ok ()) =>
    (Query.parse e.before.resolved.options.activeAttributeDelimiter query).toOption
  | _, _ => none

def override? (e : Event) : Option Override :=
  match e.call, e.answer with
  | .setOptions new, .done (.ok ()) => some new
  | _, _ => none

end Event

/-- What the latest event with an `f` has there. -/
def latest {α : Type} (f : Event → Option α) (past : List Event) : Option α :=
  past.reverse.findSome? f

@[simp] theorem latest_nil {α : Type} (f : Event → Option α) : latest f [] = none := rfl

@[simp] theorem latest_append {α : Type} (f : Event → Option α) (past : List Event) (e : Event) :
    latest f (past ++ [e]) = (f e).or (latest f past) := by
  rw [latest, List.reverse_append, List.reverse_singleton, List.singleton_append,
    List.findSome?_cons]
  cases f e with
  | none => rfl
  | some a => rfl

/-- The session is what its options at the start and its history make of it. -/
structure Explained (o : Options) (past : List Event) (s : Session) : Prop where
  root : s.root = latest Event.tree? past
  delimiters : s.resolved.options.delimiters =
    (latest (fun e => e.override?.bind Override.delimiters) past).getD o.delimiters
  ignoreCase : s.resolved.options.ignoreCase =
    (latest (fun e => e.override?.bind Override.ignoreCase) past).getD o.ignoreCase
  attributeDelimiter : s.resolved.options.attributeDelimiter =
    (latest (fun e => e.override?.bind Override.attributeDelimiter) past).getD o.attributeDelimiter
  regexp : s.resolved.options.regexp =
    (latest (fun e => e.override?.bind Override.regexp) past).getD o.regexp
  fragment : Delimiter.fragment s.resolved.options.delimiters = .ok s.resolved.fragment
  failures_eq_nil_iff : s.failures = [] ↔
    latest Event.parsed? past = none ∨ latest Event.parsed? past = some (.ok ())
  failures_eq : ∀ e, latest Event.parsed? past = some (.error e) → s.failures = e.failures

variable {o : Options} {s : Session}

theorem resolve_eq_ok {r : Resolved} (h : o.resolve = .ok r) :
    r.options = o ∧ Delimiter.fragment o.delimiters = .ok r.fragment := by
  obtain ⟨fragment, hf, rfl⟩ := exists_of_map_eq_ok h
  exact ⟨rfl, hf⟩

/-- Merged options are in step with their fragment, also where an empty override skips resolving. -/
theorem merge_eq_ok {r r' : Resolved} {new : Override}
    (hr : Delimiter.fragment r.options.delimiters = .ok r.fragment) (h : r.merge new = .ok r') :
    r'.options = r.options.merge new ∧
      Delimiter.fragment r'.options.delimiters = .ok r'.fragment := by
  unfold Resolved.merge at h
  split at h
  · rename_i hempty
    obtain rfl := Except.ok.inj h
    obtain rfl := (Override.isEmpty_iff new).1 hempty
    exact ⟨rfl, hr⟩
  · obtain ⟨hoptions, hfragment⟩ := resolve_eq_ok h
    exact ⟨hoptions, hoptions ▸ hfragment⟩

theorem failures_of_parse {d : Option Text} {t : Text} {e : Error}
    (h : Query.parse d t = .error e) : e.failures ≠ [] := by
  unfold Query.parse at h
  split at h
  · cases h
  · obtain rfl := Except.error.inj h
    exact List.cons_ne_nil _ _

theorem explained_start (h : start o = .ok s) : Explained o [] s := by
  obtain ⟨r, hr, rfl⟩ := exists_of_map_eq_ok h
  obtain ⟨rfl, hfragment⟩ := resolve_eq_ok hr
  exact ⟨rfl, rfl, rfl, rfl, rfl, hfragment, by simp, by simp⟩

namespace Explained

variable {past : List Event} {e : Event}

/-- An event that neither reads a query nor changes options explains nothing new. -/
theorem idle (h : Explained o past s) (hp : e.parsed? = none) (ht : e.tree? = none)
    (ho : e.override? = none) : Explained o (past ++ [e]) s where
  root := by simpa [ht] using h.root
  delimiters := by simpa [ho] using h.delimiters
  ignoreCase := by simpa [ho] using h.ignoreCase
  attributeDelimiter := by simpa [ho] using h.attributeDelimiter
  regexp := by simpa [ho] using h.regexp
  fragment := h.fragment
  failures_eq_nil_iff := by simpa [hp] using h.failures_eq_nil_iff
  failures_eq := by simpa [hp] using h.failures_eq

theorem read (h : Explained o past s) {q : Query} (hp : e.parsed? = some (.ok ()))
    (ht : e.tree? = some q) (ho : e.override? = none) :
    Explained o (past ++ [e]) { s with root := some q, failures := [] } where
  root := by simp [ht]
  delimiters := by simpa [ho] using h.delimiters
  ignoreCase := by simpa [ho] using h.ignoreCase
  attributeDelimiter := by simpa [ho] using h.attributeDelimiter
  regexp := by simpa [ho] using h.regexp
  fragment := h.fragment
  failures_eq_nil_iff := by simp [hp]
  failures_eq := by simp [hp]

theorem unread (h : Explained o past s) {fault : Error} (hp : e.parsed? = some (.error fault))
    (hfault : fault.failures ≠ []) (ht : e.tree? = none) (ho : e.override? = none) :
    Explained o (past ++ [e]) { s with failures := fault.failures } where
  root := by simpa [ht] using h.root
  delimiters := by simpa [ho] using h.delimiters
  ignoreCase := by simpa [ho] using h.ignoreCase
  attributeDelimiter := by simpa [ho] using h.attributeDelimiter
  regexp := by simpa [ho] using h.regexp
  fragment := h.fragment
  failures_eq_nil_iff := by simp [hp, hfault]
  failures_eq := by simp [hp]

/-- An option that the override sets is the latest one; any other is the one before. -/
theorem getD_latest {α : Type} {f : Event → Option α} {old : α} {x : Option α} (value : α)
    (he : f e = x) (hold : value = (latest f past).getD old) :
    x.getD value = (latest f (past ++ [e])).getD old := by
  rw [latest_append, he, hold]
  cases x with
  | none => rfl
  | some a => rfl

theorem changed (h : Explained o past s) {new : Override} {r : Resolved}
    (hm : s.resolved.merge new = .ok r) (hp : e.parsed? = none) (ht : e.tree? = none)
    (ho : e.override? = some new) : Explained o (past ++ [e]) { s with resolved := r } := by
  obtain ⟨hoptions, hfragment⟩ := merge_eq_ok h.fragment hm
  refine ⟨by simpa [ht] using h.root, ?_, ?_, ?_, ?_, hfragment,
    by simpa [hp] using h.failures_eq_nil_iff, by simpa [hp] using h.failures_eq⟩
  all_goals simp only [hoptions, Options.merge]
  · exact getD_latest _ (by rw [ho]; rfl) h.delimiters
  · exact getD_latest _ (by rw [ho]; rfl) h.ignoreCase
  · exact getD_latest _ (by rw [ho]; rfl) h.attributeDelimiter
  · exact getD_latest _ (by rw [ho]; rfl) h.regexp

theorem call (h : Explained o past s) (extractor : Extractor) (x : Call) (c : Cache) :
    Explained o (past ++ [⟨s, x, (s.call extractor x c).1⟩]) (s.call extractor x c).2.1 := by
  cases x with
  | parse query =>
    simp only [Session.call, parse]
    cases hq : Query.parse s.resolved.options.activeAttributeDelimiter query with
    | ok q => exact h.read rfl (by simp [Event.tree?, hq, Except.toOption]) rfl
    | error fault => exact h.unread rfl (failures_of_parse hq) rfl rfl
  | setOptions new =>
    simp only [Session.call, setOptions]
    cases hm : s.resolved.merge new with
    | ok r => exact h.changed hm rfl rfl rfl
    | error fault => exact h.idle rfl rfl rfl
  | eval text => exact h.idle rfl rfl rfl
  | evalWith text new => exact h.idle rfl rfl rfl
  | termsWith new => exact h.idle rfl rfl rfl
  | fragments text => exact h.idle rfl rfl rfl
  | compileTerms => exact h.idle rfl rfl rfl

theorem run (h : Explained o past s) (extractor : Extractor) (calls : List Call) (c : Cache) :
    Explained o (past ++ (s.run extractor calls c).1) (s.run extractor calls c).2.1 := by
  induction calls generalizing past s c with
  | nil => simpa [Session.run] using h
  | cons x rest ih =>
    have hnext := ih (h.call extractor x c) (s.call extractor x c).2.2
    rw [List.append_assoc] at hnext
    exact hnext

end Explained

/-- Whatever is asked of a session, its history explains it. -/
theorem explained_run (h : start o = .ok s) (extractor : Extractor) (calls : List Call)
    (c : Cache) : Explained o (s.run extractor calls c).1 (s.run extractor calls c).2.1 :=
  (explained_start h).run extractor calls c

/-- A tag is read before tags are switched off; options that do not resolve, the empty override and
a query that cannot be read each leave the rest as it was. -/
theorem explained_run_faults :
    let calls := [.parse ['a', ':', 'b'], .setOptions { attributeDelimiter := some none },
      .setOptions { delimiters := some [], ignoreCase := some false }, .setOptions {},
      .setOptions { delimiters := some [.literal ['-']] }, .eval ['b'], .parse ['(']]
    ∃ s, start {} = .ok s ∧
      Explained {} (s.run taggedFields calls {}).1 (s.run taggedFields calls {}).2.1 ∧
      (s.run taggedFields calls {}).2.1 = {
        root := some (.field ['a'] [':'] (.word ['b']))
        resolved := ⟨{ delimiters := [.literal ['-']], attributeDelimiter := none },
          ['(', '?', ':', '\\', '-', ')']⟩
        failures := [⟨1, 1, 2, .term⟩] } :=
  ⟨_, rfl, explained_run rfl _ _ _, by decide +kernel⟩

end Session

end TextSieve
