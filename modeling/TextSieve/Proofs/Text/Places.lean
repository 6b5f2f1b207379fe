import Mathlib.Tactic.Common
import TextSieve.Text

/-! Places of a text. A place is a boundary if the text can be cut there, and a span lies in the
text if it goes from one boundary to a later one. A span inside a slice is the same stretch of text
as the span shifted by the place where the slice starts. -/

namespace TextSieve

namespace Text

theorem size_replicate (n : Nat) (c : Char) :
    size (List.replicate n c) = n * c.utf8Size := by
  induction n with
  | zero => simp
  | succ n ih => rw [List.replicate_succ, size_cons, ih, Nat.succ_mul, Nat.add_comm]

/-- The first part of a text is known by its size. -/
theorem append_inj_of_size {u v u' v' : Text} (h : u ++ v = u' ++ v') (hs : size u = size u') :
    u = u' ∧ v = v' := by
  have hu : u = u' := by
    rw [← takeBytes_size_append u v, ← takeBytes_size_append u' v', h, hs]
  subst hu
  exact ⟨rfl, List.append_cancel_left h⟩

theorem isBoundary_iff {t : Text} {n : Nat} :
    t.isBoundary n = true ↔ ∃ u v, t = u ++ v ∧ n = size u := by
  induction t generalizing n with
  | nil =>
    cases n with
    | zero => exact ⟨fun _ => ⟨[], [], rfl, rfl⟩, fun _ => rfl⟩
    | succ n => simp [isBoundary]
  | cons c t ih =>
    cases n with
    | zero => exact ⟨fun _ => ⟨[], c :: t, rfl, rfl⟩, fun _ => rfl⟩
    | succ n =>
      simp only [isBoundary, Bool.and_eq_true, decide_eq_true_eq, ih]
      constructor
      · intro h
        obtain ⟨hle, u, v, rfl, hn⟩ := h
        refine ⟨c :: u, v, rfl, ?_⟩
        simp only [size_cons]
        omega
      · intro h
        obtain ⟨u, v, ht, hn⟩ := h
        cases u with
        | nil => simp at hn
        | cons d u =>
          obtain ⟨rfl, rfl⟩ : c = d ∧ t = u ++ v := by simpa using ht
          simp only [size_cons] at hn
          exact ⟨by omega, u, v, rfl, by omega⟩

theorem isBoundary_size (t : Text) : t.isBoundary t.size = true :=
  isBoundary_iff.2 ⟨t, [], by simp, rfl⟩

/-- Of two cuts of a text the one at the earlier place is in front. -/
theorem exists_of_size_le {u v u' v' : Text} (h : u ++ v = u' ++ v') (hs : size u ≤ size u') :
    ∃ w, u' = u ++ w ∧ v = w ++ v' := by
  rcases List.append_eq_append_iff.1 h with ⟨w, hu, hv⟩ | ⟨w, hu, hv⟩
  · exact ⟨w, hu, hv⟩
  · have hsize : size u = size u' := by
      rw [hu, size_append] at hs ⊢
      omega
    obtain ⟨rfl, rfl⟩ := append_inj_of_size h hsize
    exact ⟨[], by simp, rfl⟩

theorem slice_of_le {s : Span} (h : s.stop ≤ s.start) (t : Text) : t.slice s = [] := by
  simpa [slice, Nat.sub_eq_zero_of_le h] using takeBytes_size_append [] (t.dropBytes s.start)

end Text

namespace Span

/-- The span goes from a boundary of the text to a boundary that is not before it. -/
structure Within (t : Text) (s : Span) : Prop where
  start_le : s.start ≤ s.stop
  stop_le : s.stop ≤ t.size
  start_boundary : t.isBoundary s.start = true
  stop_boundary : t.isBoundary s.stop = true

def shift (n : Nat) (s : Span) : Span := ⟨n + s.start, n + s.stop⟩

theorem within_iff {t : Text} {s : Span} :
    s.Within t ↔ ∃ u v w, t = u ++ v ++ w ∧ s = ⟨Text.size u, Text.size (u ++ v)⟩ := by
  constructor
  · intro h
    obtain ⟨u, x, ht, hstart⟩ := Text.isBoundary_iff.1 h.start_boundary
    obtain ⟨y, w, ht', hstop⟩ := Text.isBoundary_iff.1 h.stop_boundary
    obtain ⟨v, rfl, -⟩ := Text.exists_of_size_le (ht.symm.trans ht')
      (hstart ▸ hstop ▸ h.start_le)
    exact ⟨u, v, w, ht', by rw [← hstart, ← hstop]⟩
  · intro h
    obtain ⟨u, v, w, rfl, rfl⟩ := h
    refine ⟨by simp, by simp, ?_, ?_⟩
    · exact Text.isBoundary_iff.2 ⟨u, v ++ w, by simp, rfl⟩
    · exact Text.isBoundary_iff.2 ⟨u ++ v, w, rfl, rfl⟩

theorem slice_cut (u v w : Text) :
    (u ++ v ++ w).slice ⟨Text.size u, Text.size (u ++ v)⟩ = v := by
  simpa using Text.slice_append u v w

section

variable {t : Text} {v s : Span} (hv : v.Within t) (hs : s.Within (t.slice v))

include hv hs

/-- A span of a slice, as a span of the whole text. -/
theorem exists_cut_of_slice :
    ∃ u a b c w, t = u ++ (a ++ b ++ c) ++ w ∧ v = ⟨Text.size u, Text.size (u ++ (a ++ b ++ c))⟩ ∧
      s = ⟨Text.size a, Text.size (a ++ b)⟩ := by
  obtain ⟨u, x, w, rfl, rfl⟩ := within_iff.1 hv
  rw [slice_cut] at hs
  obtain ⟨a, b, c, rfl, rfl⟩ := within_iff.1 hs
  exact ⟨u, a, b, c, w, rfl, rfl, rfl⟩

theorem Within.shift : (s.shift v.start).Within t := by
  obtain ⟨u, a, b, c, w, rfl, rfl, rfl⟩ := exists_cut_of_slice hv hs
  refine within_iff.2 ⟨u ++ a, b, c ++ w, by simp, ?_⟩
  simp [Span.shift]

theorem slice_shift : t.slice (s.shift v.start) = (t.slice v).slice s := by
  obtain ⟨u, a, b, c, w, rfl, rfl, rfl⟩ := exists_cut_of_slice hv hs
  rw [slice_cut, slice_cut]
  have hcut := slice_cut (u ++ a) b (c ++ w)
  simpa [Span.shift, Nat.add_assoc] using hcut

theorem stop_shift_le : (s.shift v.start).stop ≤ v.stop := by
  obtain ⟨u, a, b, c, w, rfl, rfl, rfl⟩ := exists_cut_of_slice hv hs
  simp only [Span.shift, Text.size_append]
  omega

end

end Span

end TextSieve
