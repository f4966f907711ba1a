import Mathlib.Data.List.Rotate
import Mathlib.Data.List.Nodup
import Mathlib.Data.List.Sort

namespace Rotation

variable {α : Type*}

/-- Reading a list from position `k` on, around its end, is rotating it. -/
theorem map_range_mod (f : Nat → α) (n k : Nat) :
    (List.range n).map (fun i => f ((k + i) % n)) = ((List.range n).map f).rotate k := by
  apply List.ext_getElem?
  intro i
  by_cases hi : i < n
  · have hlen : i < ((List.range n).map f).length := by simpa using hi
    have hmod : (k + i) % n < n := Nat.mod_lt _ (by omega)
    rw [List.getElem?_rotate hlen]
    simp [hi, hmod, Nat.add_comm i k]
  · have hlen : (((List.range n).map f).rotate k).length ≤ i := by simpa using hi
    rw [List.getElem?_eq_none hlen]
    simp only [List.getElem?_eq_none_iff, List.length_map, List.length_range]
    omega

/-- A rearrangement with increasing keys is what sorting by the key gives. -/
theorem mergeSort_eq_of_key {key : α → Nat} {xs ys : List α} (perm : ys.Perm xs)
    (increasing : (ys.map key).Pairwise (· < ·)) :
    xs.mergeSort (fun a b => key a ≤ key b) = ys := by
  have trans (a b c : α) : key a ≤ key b → key b ≤ key c → key a ≤ key c := le_trans
  have total (a b : α) : key a ≤ key b ∨ key b ≤ key a := le_total _ _
  have decided : (xs.mergeSort (fun a b => key a ≤ key b)).Pairwise
      fun a b => decide (key a ≤ key b) = true :=
    List.pairwise_mergeSort (by simpa using trans) (by simpa using total) xs
  have sorted : (xs.mergeSort (fun a b => key a ≤ key b)).Pairwise fun a b => key a ≤ key b :=
    decided.imp of_decide_eq_true
  have below : ys.Pairwise fun a b => key a ≤ key b :=
    (List.pairwise_map.mp increasing).imp fun h => h.le
  have same : (xs.mergeSort (fun a b => key a ≤ key b)).Perm ys :=
    (List.mergeSort_perm _ _).trans perm.symm
  have distinct : (ys.map key).Nodup := increasing.imp fun h => h.ne
  apply List.Perm.eq_of_pairwise _ sorted below same
  intro a b ha hb hab hba
  exact List.inj_on_of_nodup_map distinct (same.mem_iff.mp ha) hb (by omega)

/-- The blocks of a list, one after the other, are the list. -/
theorem flatten_blocks (w n : Nat) (xs : List α) :
    ((List.range n).map fun i => (xs.drop (w * i)).take w).flatten = xs.take (w * n) := by
  induction n with
  | zero => simp
  | succ n ih =>
    rw [List.range_succ, List.map_append, List.flatten_append, ih, Nat.mul_succ, List.take_add]
    simp

end Rotation
