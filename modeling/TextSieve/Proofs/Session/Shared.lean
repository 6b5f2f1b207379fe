import Mathlib.Logic.Function.Basic
import TextSieve.Proofs.Session.Calls

/-! Sessions that share a cache, called in any order. What one of them has put into the cache is not
seen by another: every answer is the one that a new cache would have given. -/

namespace TextSieve

structure Member where
  session : Session
  extractor : Extractor

structure Pool (n : Nat) where
  members : Fin n → Member
  cache : Cache := {}

namespace Pool

variable {n : Nat}

def call (p : Pool n) (i : Fin n) (x : Session.Call) : Session.Answer × Pool n :=
  let m := p.members i
  let (answer, session, cache) := m.session.call m.extractor x p.cache
  (answer, ⟨Function.update p.members i { m with session := session }, cache⟩)

def renewed (p : Pool n) : Pool n := { p with cache := {} }

def run (p : Pool n) : List (Fin n × Session.Call) → List Session.Answer × Pool n
  | [] => ([], p)
  | (i, x) :: rest =>
    let (answer, p) := p.call i x
    let (answers, p) := run p rest
    (answer :: answers, p)

/-- Makes the calls one after the other, each on a new cache. -/
def runRenewed (p : Pool n) : List (Fin n × Session.Call) → List Session.Answer × Pool n
  | [] => ([], p)
  | (i, x) :: rest =>
    let (answer, p) := p.renewed.call i x
    let (answers, p) := runRenewed p rest
    (answer :: answers, p)

/-- Pools with the same sessions and faithful caches answer a call alike, and stay alike. -/
theorem call_alike {p p' : Pool n} (hm : p.members = p'.members) (hc : p.cache.Faithful)
    (hc' : p'.cache.Faithful) (i : Fin n) (x : Session.Call) :
    (p.call i x).1 = (p'.call i x).1 ∧ (p.call i x).2.members = (p'.call i x).2.members ∧
      (p.call i x).2.cache.Faithful := by
  have h := Session.indifferent_call (p'.members i).session (p'.members i).extractor x
  unfold call
  rw [hm]
  refine ⟨h.answer hc hc', ?_, h.faithful hc⟩
  simp only [h.session p.cache p'.cache]

theorem run_alike {p p' : Pool n} (hm : p.members = p'.members) (hc : p.cache.Faithful)
    (calls : List (Fin n × Session.Call)) :
    (p.run calls).1 = (p'.runRenewed calls).1 ∧
      (p.run calls).2.members = (p'.runRenewed calls).2.members := by
  induction calls generalizing p p' with
  | nil => exact ⟨rfl, hm⟩
  | cons call rest ih =>
    obtain ⟨i, x⟩ := call
    have hnew : p'.renewed.cache.Faithful := Cache.faithful_empty
    have hm' : p.members = p'.renewed.members := hm
    obtain ⟨ha, hms, hf⟩ := call_alike hm' hc hnew i x
    obtain ⟨has, hmss⟩ := ih hms hf
    simp only [run, runRenewed]
    exact ⟨by rw [ha, has], hmss⟩

/-- However calls of sessions on one new cache are interleaved, each is answered as on a new cache
of its own, and the sessions end up the same. -/
theorem run_eq_runRenewed (members : Fin n → Member) (calls : List (Fin n × Session.Call)) :
    (run ⟨members, {}⟩ calls).1 = (runRenewed ⟨members, {}⟩ calls).1 ∧
      (run ⟨members, {}⟩ calls).2.members = (runRenewed ⟨members, {}⟩ calls).2.members :=
  run_alike rfl Cache.faithful_empty calls

end Pool

end TextSieve
