import Mathlib.Algebra.Order.Ring.Nat
import Mathlib.Data.List.Basic

namespace Decimal

/-- The decimal digits of a number in ASCII. -/
def text (n : Nat) : List UInt8 := (Nat.toDigits 10 n).map fun c => UInt8.ofNat c.toNat

def value (digits : List UInt8) : Nat := digits.foldl (fun n d => 10 * n + (d.toNat - 48)) 0

theorem toNat_of_isDigit {c : Char} (h : c.isDigit = true) : 48 ≤ c.toNat ∧ c.toNat ≤ 57 := by
  simp only [Char.isDigit, Bool.and_eq_true, decide_eq_true_eq] at h
  exact h

theorem toNat_ofNat_of_isDigit {c : Char} (h : c.isDigit = true) :
    (UInt8.ofNat c.toNat).toNat = c.toNat := by
  have := toNat_of_isDigit h
  exact Nat.mod_eq_of_lt (by omega)

theorem isDigit_of_mem {n : Nat} {c : Char} (h : c ∈ Nat.toDigits 10 n) : c.isDigit = true :=
  Nat.isDigit_of_mem_toDigits (by decide) (by decide) h

theorem digit_of_mem_text {n : Nat} {d : UInt8} (h : d ∈ text n) : 48 ≤ d ∧ d ≤ 57 := by
  obtain ⟨c, hc, rfl⟩ := List.mem_map.mp h
  have digit := isDigit_of_mem hc
  have bounds := toNat_of_isDigit digit
  rw [UInt8.le_iff_toNat_le, UInt8.le_iff_toNat_le, toNat_ofNat_of_isDigit digit]
  exact bounds

theorem value_text (n : Nat) : value (text n) = n := by
  have same : value (text n) = Nat.ofDigitChars 10 (Nat.toDigits 10 n) 0 := by
    unfold value text
    rw [List.foldl_map, Nat.ofDigitChars_eq_foldl]
    refine List.foldl_ext _ _ _ fun m c hc => ?_
    rw [toNat_ofNat_of_isDigit (isDigit_of_mem hc)]
    rfl
  rw [same, Nat.ofDigitChars_ten_toDigits]

theorem text_of_ten_le {n : Nat} (h : 10 ≤ n) :
    text n = text (n / 10) ++ [UInt8.ofNat (n % 10).digitChar.toNat] := by
  unfold text
  rw [Nat.toDigits_of_base_le (by decide) h, List.map_append, List.map_singleton]

theorem length_text_le_iff {n k : Nat} (hk : 0 < k) : (text n).length ≤ k ↔ n < 10 ^ k := by
  rw [text, List.length_map]
  exact Nat.length_toDigits_le_iff (by decide) hk

/-- The first digits are those of a number, which is the same or has all of them. -/
theorem take_text {k : Nat} (hk : 0 < k) (n : Nat) :
    ∃ m, (text n).take (k + 1) = text m ∧ (m = n ∨ 10 ^ k ≤ m) := by
  induction n using Nat.strongRecOn with
  | ind n ih =>
    by_cases hn : n < 10 ^ (k + 1)
    · have short := (length_text_le_iff (Nat.succ_pos k)).mpr hn
      exact ⟨n, List.take_of_length_le short, Or.inl rfl⟩
    · have hpos : 0 < 10 ^ k := Nat.pow_pos (by decide)
      have hpow : 10 ^ (k + 1) = 10 ^ k * 10 := Nat.pow_succ 10 k
      have hdiv : 10 ^ k ≤ n / 10 := by omega
      have hlen : k + 1 ≤ (text (n / 10)).length := by
        have := mt (length_text_le_iff hk).mp (Nat.not_lt.mpr hdiv)
        omega
      obtain ⟨m, hm, large⟩ := ih (n / 10) (by omega)
      refine ⟨m, ?_, Or.inr ?_⟩
      · rw [text_of_ten_le (by omega), List.take_append_of_le_length hlen, hm]
      · rcases large with rfl | large
        · exact hdiv
        · exact large

theorem toUTF8_toString (n : Nat) : (toString n).toUTF8.data.toList = text n := by
  have encoded : ∀ c ∈ Nat.toDigits 10 n, String.utf8EncodeChar c = [UInt8.ofNat c.toNat] := by
    intro c hc
    have := toNat_of_isDigit (isDigit_of_mem hc)
    refine String.utf8EncodeChar_eq_singleton (Char.utf8Size_eq_one_iff.mpr ?_)
    exact UInt32.le_iff_toNat_le.mpr (by simpa using by omega)
  rw [Nat.toString_eq_ofList_toDigits, String.toUTF8_eq_toByteArray, String.toByteArray_ofList,
    List.utf8Encode, List.toList_data_toByteArray, text, List.map_eq_flatMap]
  exact List.flatMap_congr encoded

/-- What follows the last separator of a text is determined. -/
theorem eq_of_append_cons {α : Type} {p q s t : List α} {c : α} (hs : c ∉ s) (ht : c ∉ t)
    (same : p ++ c :: s = q ++ c :: t) : s = t := by
  rcases List.append_eq_append_iff.mp same with ⟨between, -, rest⟩ | ⟨between, -, rest⟩
  · cases between with
    | nil => simpa using rest
    | cons b between =>
      have inside : s = between ++ c :: t := List.tail_eq_of_cons_eq rest
      exact absurd (by simp [inside]) hs
  · cases between with
    | nil => simpa using rest.symm
    | cons b between =>
      have inside : t = between ++ c :: s := List.tail_eq_of_cons_eq rest
      exact absurd (by simp [inside]) ht

/-- A number at the end of a text can be told from its digits. -/
theorem eq_of_append_text {α : Type} {f : UInt8 → α} (hf : Function.Injective f) {p q : List α}
    {c : α} (apart : ∀ d, 48 ≤ d → d ≤ 57 → f d ≠ c) {m n : Nat}
    (same : p ++ c :: (text m).map f = q ++ c :: (text n).map f) : m = n := by
  have digits (n : Nat) : c ∉ (text n).map f := by
    intro hc
    obtain ⟨d, hd, rfl⟩ := List.mem_map.mp hc
    have digit := digit_of_mem_text hd
    exact apart d digit.1 digit.2 rfl
  have texts := List.map_injective_iff.mpr hf (eq_of_append_cons (digits m) (digits n) same)
  rw [← value_text m, texts, value_text]

end Decimal
