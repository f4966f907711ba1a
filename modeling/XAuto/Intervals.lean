import Mathlib.Algebra.BigOperators.Group.List.Basic
import Mathlib.Algebra.Order.Ring.Nat

namespace Intervals

variable {ι α : Type*}

/-- Half-open intervals in a row: each starts where the one before it ends. -/
def Chained (lo hi : ι → α) : α → List ι → α → Prop
  | c, [], d => c = d
  | c, p :: ps, d => lo p = c ∧ Chained lo hi (hi p) ps d

section Order

variable [LinearOrder α] {lo hi : ι → α}

theorem Chained.le_lo {c d : α} {ps : List ι} (h : Chained lo hi c ps d)
    (ordered : ∀ p ∈ ps, lo p ≤ hi p) {k : Nat} (hk : k < ps.length) : c ≤ lo ps[k] := by
  induction ps generalizing c k with
  | nil => simp at hk
  | cons p ps ih =>
    obtain ⟨rfl, h⟩ := h
    cases k with
    | zero => simp
    | succ k =>
      have tail := ih h (fun q hq => ordered q (by simp [hq])) (by simpa using hk)
      exact (ordered p (by simp)).trans (by simpa using tail)

/-- Every point of the range lies in exactly one of the intervals. -/
theorem Chained.existsUnique {c d x : α} {ps : List ι} (h : Chained lo hi c ps d)
    (ordered : ∀ p ∈ ps, lo p ≤ hi p) (hc : c ≤ x) (hd : x < d) :
    ∃! k, ∃ hk : k < ps.length, lo ps[k] ≤ x ∧ x < hi ps[k] := by
  induction ps generalizing c with
  | nil =>
    have eq : c = d := h
    exact absurd (hc.trans_lt hd) (by simp [eq])
  | cons p ps ih =>
    obtain ⟨rfl, h⟩ := h
    have tailOrdered : ∀ q ∈ ps, lo q ≤ hi q := fun q hq => ordered q (by simp [hq])
    rcases lt_or_ge x (hi p) with hx | hx
    · refine ⟨0, ⟨by simp, by simpa using ⟨hc, hx⟩⟩, ?_⟩
      rintro (_ | k) ⟨hk, hlo, hhi⟩
      · rfl
      · -- a later interval starts no earlier than `hi p`
        have hk' : k < ps.length := by simpa using hk
        have hstart : hi p ≤ lo ps[k] := h.le_lo tailOrdered hk'
        exact absurd hx (not_lt.mpr (hstart.trans (by simpa using hlo)))
    · obtain ⟨k, ⟨hk, hlo, hhi⟩, unique⟩ := ih h tailOrdered hx
      refine ⟨k + 1, ⟨by simpa using hk, by simpa using ⟨hlo, hhi⟩⟩, ?_⟩
      rintro (_ | j) ⟨hj, hjlo, hjhi⟩
      · exact absurd hx (not_le.mpr (by simpa using hjhi))
      · have eq := unique j ⟨by simpa using hj, by simpa using ⟨hjlo, hjhi⟩⟩
        rw [eq]

end Order

/-- The lengths of the intervals add up to the range. -/
theorem Chained.sum {lo hi : ι → Nat} {c d : Nat} {ps : List ι} (h : Chained lo hi c ps d)
    (ordered : ∀ p ∈ ps, lo p ≤ hi p) : c + (ps.map fun p => hi p - lo p).sum = d := by
  induction ps generalizing c with
  | nil =>
    have eq : c = d := h
    simp [eq]
  | cons p ps ih =>
    obtain ⟨rfl, h⟩ := h
    have hp := ordered p (by simp)
    have tail := ih h fun q hq => ordered q (by simp [hq])
    simp only [List.map_cons, List.sum_cons]
    omega

end Intervals
