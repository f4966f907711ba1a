import Mathlib.Data.Nat.Digits.Defs
import Mathlib.Algebra.BigOperators.Group.List.Basic

namespace BitFields

theorem and_two_pow_ne_zero (n k : Nat) : n &&& 2 ^ k ≠ 0 ↔ n.testBit k := by
  constructor
  · intro h
    obtain ⟨i, hi⟩ := Nat.exists_testBit_of_ne_zero h
    rw [Nat.testBit_and, Nat.testBit_two_pow, Bool.and_eq_true, decide_eq_true_eq] at hi
    obtain ⟨hbit, rfl⟩ := hi
    exact hbit
  · intro h hzero
    have hbit : (n &&& 2 ^ k).testBit k = true := by
      rw [Nat.testBit_and, h, Nat.testBit_two_pow_self, Bool.and_self]
    rw [hzero, Nat.zero_testBit] at hbit
    exact Bool.false_ne_true hbit

/-- A mask of one bit reads that bit. -/
theorem uint32_testBit (n : UInt32) {k : Nat} (hk : k < 32) :
    n.toNat.testBit k = ((n &&& UInt32.ofNat (2 ^ k)) != 0) := by
  have hpow : 2 ^ k < 2 ^ 32 := Nat.pow_lt_pow_right (by omega) hk
  have hmask : (n &&& UInt32.ofNat (2 ^ k)).toNat = n.toNat &&& 2 ^ k := by
    rw [UInt32.toNat_and, UInt32.toNat_ofNat_of_lt' hpow]
  have hne : (n &&& UInt32.ofNat (2 ^ k)) ≠ 0 ↔ n.toNat.testBit k := by
    rw [← and_two_pow_ne_zero, ← hmask, ne_eq, ne_eq, ← UInt32.toNat_inj]
    rfl
  rw [Bool.eq_iff_iff, bne_iff_ne]
  exact hne.symm

theorem uint16_testBit (n : UInt16) {k : Nat} (hk : k < 16) :
    n.toNat.testBit k = ((n &&& UInt16.ofNat (2 ^ k)) != 0) := by
  have hpow : 2 ^ k < 2 ^ 16 := Nat.pow_lt_pow_right (by omega) hk
  have hmask : (n &&& UInt16.ofNat (2 ^ k)).toNat = n.toNat &&& 2 ^ k := by
    rw [UInt16.toNat_and, UInt16.toNat_ofNat_of_lt' hpow]
  have hne : (n &&& UInt16.ofNat (2 ^ k)) ≠ 0 ↔ n.toNat.testBit k := by
    rw [← and_two_pow_ne_zero, ← hmask, ne_eq, ne_eq, ← UInt16.toNat_inj]
    rfl
  rw [Bool.eq_iff_iff, bne_iff_ne]
  exact hne.symm

/-- A mask of `w` bits from bit `k` on, shifted down, reads that field. -/
theorem and_shiftRight (n k w : Nat) :
    (n &&& (2 ^ w - 1) <<< k) >>> k = n / 2 ^ k % 2 ^ w := by
  rw [Nat.shiftRight_and_distrib, Nat.shiftLeft_shiftRight, Nat.and_two_pow_sub_one_eq_mod,
    Nat.shiftRight_eq_div_pow]

/-- The values of consecutive fields of a word, the lowest first. -/
def split : List Nat → Nat → List Nat
  | [], _ => []
  | w :: ws, n => n % 2 ^ w :: split ws (n / 2 ^ w)

theorem split_bits (m : Nat) (ws : List Nat) (n : Nat) :
    split (List.replicate m 1 ++ ws) n =
      (List.range m).map (fun k => (n.testBit k).toNat) ++ split ws (n / 2 ^ m) := by
  induction m generalizing n with
  | zero => simp
  | succ m ih =>
    have hshift : n / 2 ^ 1 / 2 ^ m = n / 2 ^ (m + 1) := by
      rw [Nat.div_div_eq_div_mul, ← Nat.pow_add, Nat.add_comm]
    have hbit : n % 2 ^ 1 = (n.testBit 0).toNat := by
      rw [Nat.toNat_testBit, Nat.pow_zero, Nat.div_one, Nat.pow_one]
    have hrest : (List.range m).map (fun k => ((n / 2 ^ 1).testBit k).toNat) =
        (List.range m).map fun k => (n.testBit (k + 1)).toNat := by
      refine List.map_congr_left fun k _ => ?_
      rw [Nat.testBit_succ]
      rfl
    rw [List.replicate_succ, List.cons_append, split, ih, hshift, hbit, hrest,
      List.range_succ_eq_map, List.map_cons, List.map_map]
    rfl

/-- The word with the given fields. -/
def join : List Nat → List Nat → Nat
  | w :: ws, v :: vs => v + 2 ^ w * join ws vs
  | _, _ => 0

/-- A word is its fields, whatever the layout. -/
theorem join_split {ws : List Nat} {n : Nat} (h : n < 2 ^ ws.sum) : join ws (split ws n) = n := by
  induction ws generalizing n with
  | nil =>
    have hzero : n = 0 := by simpa using h
    simp [join, hzero]
  | cons w ws ih =>
    rw [List.sum_cons, Nat.pow_add] at h
    have hrest : n / 2 ^ w < 2 ^ ws.sum := Nat.div_lt_of_lt_mul h
    rw [split, join, ih hrest, Nat.mod_add_div]

/-- The low digits of a number give it back. -/
theorem ofDigits_digits (b n m : Nat) :
    Nat.ofDigits b ((List.range m).map fun i => n / b ^ i % b) = n % b ^ m := by
  induction m with
  | zero => simp [Nat.mod_one]
  | succ m ih =>
    have hlen : ((List.range m).map fun i => n / b ^ i % b).length = m := by simp
    rw [List.range_succ, List.map_append, List.map_singleton, Nat.ofDigits_append, ih, hlen,
      Nat.ofDigits_singleton, Nat.mod_pow_succ]

end BitFields
