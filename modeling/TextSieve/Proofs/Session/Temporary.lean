import Mathlib.Tactic.Common
import TextSieve.Proofs.Session.History

/-! Options for one evaluation. An evaluation under changed options is the evaluation of a copy whose
options were changed for good, and the session is left as it is. Both ways merge resolved options, which
must not be normalized again where nothing changes: that is right as long as the fragment of resolved
options is the one of their delimiters, and there is no way to get others. -/

namespace TextSieve

namespace Resolved

/-- The resolved options there can be: options that were resolved, and changes of these. -/
inductive Reached : Resolved → Prop
  | resolve {o : Options} {r : Resolved} (h : o.resolve = .ok r) : Reached r
  | merge {r r' : Resolved} {new : Override} (hr : Reached r) (h : r.merge new = .ok r') :
    Reached r'

def InStep (r : Resolved) : Prop :=
  Delimiter.fragment r.options.delimiters = .ok r.fragment

theorem Reached.inStep {r : Resolved} (h : r.Reached) : r.InStep := by
  induction h with
  | resolve h =>
    obtain ⟨hoptions, hfragment⟩ := Session.resolve_eq_ok h
    rw [InStep, hoptions]
    exact hfragment
  | merge _ h ih => exact (Session.merge_eq_ok ih h).2

theorem InStep.resolve_options {r : Resolved} (h : r.InStep) : r.options.resolve = .ok r := by
  unfold Options.resolve
  rw [h]
  rfl

/-- Normalizing again changes nothing, so that the empty override may leave it out. -/
theorem InStep.merge_eq_resolve {r : Resolved} (h : r.InStep) (new : Override) :
    r.merge new = (r.options.merge new).resolve := by
  unfold merge
  split
  · rename_i hempty
    rw [(Override.isEmpty_iff new).1 hempty, Options.merge_empty, h.resolve_options]
  · rfl

end Resolved

namespace Session

variable {o : Options} {s : Session}

/-- Changes the options of a copy of the session and then evaluates the copy. -/
def evalCopy (s : Session) (extractor : Extractor) (text : Text) (new : Override) : Cached Bool :=
  match s.setOptions new with
  | (.ok (), copy) => copy.eval extractor text
  | (.error e, _) => throw e

/-- Options that do not resolve are reported before a query that is missing, on either way. -/
theorem evalWith_eq_copy (s : Session) (extractor : Extractor) (text : Text) (new : Override) :
    s.evalWith extractor text new = s.evalCopy extractor text new := by
  unfold evalWith evalCopy setOptions
  cases s.resolved.merge new with
  | error e => rfl
  | ok r => rfl

theorem reached_call (h : s.resolved.Reached) (extractor : Extractor) (x : Call) (c : Cache) :
    (s.call extractor x c).2.1.resolved.Reached := by
  cases x with
  | parse query =>
    simp only [call, parse]
    split
    · exact h
    · exact h
  | setOptions new =>
    simp only [call, setOptions]
    cases hm : s.resolved.merge new with
    | ok r => exact .merge h hm
    | error e => exact h
  | eval text => exact h
  | evalWith text new => exact h
  | termsWith new => exact h
  | fragments text => exact h
  | compileTerms => exact h

theorem reached_run (h : s.resolved.Reached) (extractor : Extractor) (calls : List Call)
    (c : Cache) : (s.run extractor calls c).2.1.resolved.Reached := by
  induction calls generalizing s c with
  | nil => exact h
  | cons x rest ih => exact ih (reached_call h extractor x c) (s.call extractor x c).2.2

theorem reached_start (h : start o = .ok s) : s.resolved.Reached := by
  obtain ⟨r, hr, rfl⟩ := exists_of_map_eq_ok h
  exact .resolve hr

/-- Whatever has been asked of a session, options for one evaluation and options for good agree: in the
answer, in the error and in what is in the cache afterwards. -/
theorem evalWith_eq_evalCopy {s₀ : Session} (h : start o = .ok s₀) (extractor : Extractor)
    (calls : List Call) (c₀ : Cache) :
    let s := (s₀.run extractor calls c₀).2.1
    (∀ (finder : Extractor) (text : Text) (new : Override) (c : Cache),
      (s.evalWith finder text new).run c = (s.evalCopy finder text new).run c ∧
      (s.call finder (.evalWith text new) c).2.1 = s) ∧
    s.resolved.Reached ∧
    ∀ r : Resolved, r.Reached → ∀ new : Override,
      r.merge new = (r.options.merge new).resolve := by
  intro s
  refine ⟨?_, ?_, ?_⟩
  · intro finder text new c
    exact ⟨by rw [evalWith_eq_copy], rfl⟩
  · exact reached_run (reached_start h) extractor calls c₀
  · intro r hr new
    exact hr.inStep.merge_eq_resolve new

/-- A query and other delimiters, which the empty override keeps; a delimiter that is no pattern is
reported by either way, and neither has compiled anything. -/
theorem evalWith_eq_evalCopy_hyphen :
    let calls := [.parse ['b'], .setOptions { delimiters := some [.literal ['-']] }]
    ∃ s₀, start {} = .ok s₀ ∧
      let s := (s₀.run taggedFields calls {}).2.1
      (s.evalWith taggedFields ['a', '-', 'b'] {}).run {} =
        (s.evalCopy taggedFields ['a', '-', 'b'] {}).run {} ∧
      ((s.evalWith taggedFields ['a', '-', 'b'] {}).run {}).1.toOption = some true ∧
      (s.evalWith taggedFields ['b'] { delimiters := some [.pattern ['(']] }).run {} =
        (s.evalCopy taggedFields ['b'] { delimiters := some [.pattern ['(']] }).run {} ∧
      ((s.evalWith taggedFields ['b'] { delimiters := some [.pattern ['(']] }).run {}).1.toOption =
        none ∧
      s.resolved.Reached ∧ s.resolved.merge {} = (s.resolved.options.merge {}).resolve := by
  have h := evalWith_eq_evalCopy (o := {}) rfl taggedFields
    [.parse ['b'], .setOptions { delimiters := some [.literal ['-']] }] {}
  exact ⟨_, rfl, (h.1 _ _ _ _).1, by decide +kernel, (h.1 _ _ _ _).1, by decide +kernel, h.2.1,
    h.2.2 _ h.2.1 _⟩

end Session

end TextSieve
