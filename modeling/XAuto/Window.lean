import Mathlib.Data.List.Infix

namespace Window

variable {α : Type*}

/-- A suffix of a history that contains every suffix with the property. -/
structure Retains (P : List α → Prop) (history kept : List α) : Prop where
  suffix : kept <:+ history
  longest : ∀ other, other <:+ history → P other → other <:+ kept

theorem Retains.nil (P : List α → Prop) : Retains P [] [] :=
  ⟨List.suffix_rfl, fun _ h _ => h⟩

/-- Drop entries from the front while the list left over is still too large. -/
def evict (tooLarge : List α → Bool) : List α → List α
  | [] => []
  | x :: xs => if tooLarge (x :: xs) then evict tooLarge xs else x :: xs

theorem evict_suffix (tooLarge : List α → Bool) (xs : List α) : evict tooLarge xs <:+ xs := by
  induction xs with
  | nil => exact List.suffix_rfl
  | cons x xs ih =>
    unfold evict
    split
    · exact ih.trans (List.suffix_cons x xs)
    · exact List.suffix_rfl

theorem evict_stops {tooLarge : List α → Bool} {xs : List α} (h : evict tooLarge xs ≠ []) :
    tooLarge (evict tooLarge xs) = false := by
  induction xs with
  | nil => exact absurd rfl h
  | cons x xs ih =>
    unfold evict at h ⊢
    by_cases hl : tooLarge (x :: xs) = true
    · rw [if_pos hl] at h ⊢
      exact ih h
    · rw [if_neg hl]
      simpa using hl

/-- No entry is dropped before it has to be: a suffix that is small enough, or empty, stays. -/
theorem suffix_evict {tooLarge : List α → Bool} {kept xs : List α} (hs : kept <:+ xs)
    (hk : kept ≠ [] → tooLarge kept = false) : kept <:+ evict tooLarge xs := by
  induction xs with
  | nil => exact hs
  | cons x xs ih =>
    rcases List.suffix_cons_iff.mp hs with rfl | hs
    · have hl := hk (by simp)
      simp [evict, hl]
    · unfold evict
      split
      · exact ih hs
      · exact hs.trans (List.suffix_cons x xs)

section Push

variable {P : List α → Prop} [DecidablePred P]
  (initClosed : ∀ xs x, P (xs ++ [x]) → P xs) (suffixClosed : ∀ xs ys, ys <:+ xs → P xs → P ys)

def push (P : List α → Prop) [DecidablePred P] (kept : List α) (x : α) : List α :=
  evict (fun xs => !decide (P (xs ++ [x]))) kept ++ [x]

include initClosed in
theorem Retains.push {history kept : List α} (h : Retains P history kept) (x : α) :
    Retains P (history ++ [x]) (push P kept x) := by
  refine ⟨List.suffix_concat_iff.mpr (Or.inr ⟨_, rfl, (evict_suffix _ _).trans h.suffix⟩), ?_⟩
  intro other hs hp
  rcases List.suffix_concat_iff.mp hs with rfl | ⟨init, rfl, hinit⟩
  · exact List.nil_suffix
  · have hkept := h.longest init hinit (initClosed init x hp)
    have hroom : init <:+ evict (fun xs => !decide (P (xs ++ [x]))) kept :=
      suffix_evict hkept (fun _ => by simpa using hp)
    exact List.suffix_concat_iff.mpr (Or.inr ⟨init, rfl, hroom⟩)

theorem push_holds (kept : List α) {x : α} (hx : P [x]) : P (push P kept x) := by
  by_cases hnil : evict (fun xs => !decide (P (xs ++ [x]))) kept = []
  · simpa [push, hnil] using hx
  · simpa [push] using evict_stops hnil

include suffixClosed in
theorem push_oversized (kept : List α) {x : α} (hx : ¬P [x]) : push P kept x = [x] := by
  by_cases hnil : evict (fun xs => !decide (P (xs ++ [x]))) kept = []
  · simp [push, hnil]
  · have hp : P (evict (fun xs => !decide (P (xs ++ [x]))) kept ++ [x]) := by
      simpa using evict_stops hnil
    exact absurd (suffixClosed _ _ (List.suffix_append _ _) hp) hx

end Push

end Window
