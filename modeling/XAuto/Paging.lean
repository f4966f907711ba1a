import Mathlib.Data.List.Basic

namespace Paging

variable {α β : Type*} (f : α → Option β)

/-- How many entries are read until `n` of them match, all of them when `n` is never reached.
A limit of `0` asks for no limit. -/
def cut : Nat → List α → Nat
  | _, [] => 0
  | n, x :: xs =>
    match f x with
    | none => cut n xs + 1
    | some _ => if n = 1 then 1 else cut (n - 1) xs + 1

variable {f} in
theorem cut_cons_none {n : Nat} {x : α} {xs : List α} (h : f x = none) :
    cut f n (x :: xs) = cut f n xs + 1 := by
  simp [cut, h]

variable {f} in
theorem cut_cons_last {x : α} {xs : List α} (h : (f x).isSome) : cut f 1 (x :: xs) = 1 := by
  obtain ⟨y, hy⟩ := Option.isSome_iff_exists.mp h
  simp [cut, hy]

variable {f} in
theorem cut_cons_some {n : Nat} {x : α} {xs : List α} (h : (f x).isSome) (hn : n ≠ 1) :
    cut f n (x :: xs) = cut f (n - 1) xs + 1 := by
  obtain ⟨y, hy⟩ := Option.isSome_iff_exists.mp h
  simp [cut, hy, hn]

theorem cut_le_length (n : Nat) (xs : List α) : cut f n xs ≤ xs.length := by
  induction xs generalizing n with
  | nil => simp [cut]
  | cons x xs ih =>
    unfold cut
    cases f x with
    | none => simpa using ih n
    | some y =>
      by_cases h : n = 1
      · simp [h]
      · simpa [h] using ih (n - 1)

theorem cut_pos {n : Nat} {xs : List α} (h : xs ≠ []) : 0 < cut f n xs := by
  cases xs with
  | nil => exact absurd rfl h
  | cons x xs =>
    unfold cut
    split
    · omega
    · split <;> omega

theorem cut_zero (xs : List α) : cut f 0 xs = xs.length := by
  induction xs with
  | nil => rfl
  | cons x xs ih =>
    unfold cut
    cases f x <;> simp [ih]

theorem filterMap_take_cut {n : Nat} (hn : 0 < n) (xs : List α) :
    (xs.take (cut f n xs)).filterMap f = (xs.filterMap f).take n := by
  induction xs generalizing n with
  | nil => simp
  | cons x xs ih =>
    unfold cut
    cases hx : f x with
    | none => simp [hx, ih hn]
    | some y =>
      by_cases h1 : n = 1
      · simp [hx, h1]
      · obtain ⟨m, rfl⟩ : ∃ m, n = m + 1 := ⟨n - 1, by omega⟩
        have hm : m ≠ 0 := by omega
        simp [hx, hm, ih (n := m) (by omega)]

theorem filterMap_take_cut_zero (xs : List α) :
    (xs.take (cut f 0 xs)).filterMap f = xs.filterMap f := by
  rw [cut_zero, List.take_length]

theorem filterMap_cut_append (n : Nat) (xs : List α) :
    (xs.take (cut f n xs)).filterMap f ++ (xs.drop (cut f n xs)).filterMap f =
      xs.filterMap f := by
  rw [← List.filterMap_append, List.take_append_drop]

/-- With a limit, a page that leaves matches behind is not empty. -/
theorem page_ne_nil {n : Nat} (hn : 0 < n) {xs : List α}
    (h : (xs.drop (cut f n xs)).filterMap f ≠ []) :
    (xs.take (cut f n xs)).filterMap f ≠ [] := by
  rw [filterMap_take_cut f hn]
  intro hnil
  have hall : xs.filterMap f = [] := by
    rcases List.take_eq_nil_iff.mp hnil with h0 | h0
    · omega
    · exact h0
  have hsplit := filterMap_cut_append f n xs
  rw [hall] at hsplit
  exact h (List.append_eq_nil_iff.mp hsplit).2

theorem cut_append_of_none {pre : List α} (h : ∀ x ∈ pre, f x = none) (n : Nat) (xs : List α) :
    cut f n (pre ++ xs) = pre.length + cut f n xs := by
  induction pre with
  | nil => simp
  | cons x pre ih =>
    have hx : f x = none := h x (by simp)
    have tail := ih fun y hy => h y (by simp [hy])
    simp only [List.cons_append, cut, hx, tail, List.length_cons]
    omega

/-- The matches of a list with the positions they stand at, counted from `k`. -/
def hits (k : Nat) (xs : List α) : List (Nat × β) :=
  (xs.zipIdx k).filterMap fun x => (f x.1).map (x.2, ·)

variable {f} in
theorem hits_cons_none {k : Nat} {x : α} {xs : List α} (h : f x = none) :
    hits f k (x :: xs) = hits f (k + 1) xs := by
  simp [hits, h]

variable {f} in
theorem hits_cons_some {k : Nat} {x : α} {y : β} {xs : List α} (h : f x = some y) :
    hits f k (x :: xs) = (k, y) :: hits f (k + 1) xs := by
  simp [hits, h]

theorem hits_map_snd (k : Nat) (xs : List α) : (hits f k xs).map Prod.snd = xs.filterMap f := by
  induction xs generalizing k with
  | nil => rfl
  | cons x xs ih =>
    cases hx : f x with
    | none => rw [hits_cons_none hx, List.filterMap_cons_none hx, ih]
    | some y => rw [hits_cons_some hx, List.filterMap_cons_some hx, List.map_cons, ih]

/-- The hits from position `d` on are the hits of what is left after dropping `d` entries. -/
theorem hits_from (d k : Nat) (xs : List α) :
    ((xs.zipIdx k).filterMap fun x => if d ≤ x.2 then (f x.1).map (x.2, ·) else none) =
      hits f (max d k) (xs.drop (d - k)) := by
  induction xs generalizing k with
  | nil => simp [hits]
  | cons x xs ih =>
    rw [List.zipIdx_cons]
    by_cases h : d ≤ k
    · have hmax : max d k = k := by omega
      have hnext : max d (k + 1) = k + 1 := by omega
      have hdrop : d - k = 0 := by omega
      have hdrop' : d - (k + 1) = 0 := by omega
      have tail := ih (k + 1)
      rw [hnext, hdrop', List.drop_zero] at tail
      rw [hmax, hdrop, List.drop_zero]
      cases hx : f x with
      | none =>
        rw [List.filterMap_cons_none (by simp [h, hx]), tail, hits_cons_none hx]
      | some y =>
        rw [List.filterMap_cons_some (b := (k, y)) (by simp [h, hx]), tail, hits_cons_some hx]
    · have hmax : max d (k + 1) = max d k := by omega
      have hdrop : d - k = (d - (k + 1)) + 1 := by omega
      rw [List.filterMap_cons_none (by simp [h]), ih (k + 1), hmax, hdrop, List.drop_succ_cons]

/-- A limit that is reached stops the reading just past the hit that reaches it. -/
theorem cut_of_hit {n k : Nat} {xs : List α} {hit : Nat × β} (hn : 0 < n)
    (h : (hits f k xs)[n - 1]? = some hit) : k + cut f n xs = hit.1 + 1 := by
  induction xs generalizing n k with
  | nil => simp [hits] at h
  | cons x xs ih =>
    cases hx : f x with
    | none =>
      rw [hits_cons_none hx] at h
      have tail := ih hn h
      rw [cut_cons_none hx]
      omega
    | some y =>
      have matched : (f x).isSome := by simp [hx]
      rw [hits_cons_some hx] at h
      by_cases h1 : n = 1
      · subst n
        have eq : (k, y) = hit := by simpa using h
        rw [cut_cons_last matched, ← eq]
      · have hpos : 0 < n - 1 := by omega
        have hindex : n - 1 = (n - 1 - 1) + 1 := by omega
        rw [hindex, List.getElem?_cons_succ] at h
        have tail := ih hpos h
        rw [cut_cons_some matched h1]
        omega

/-- A limit that is not reached lets everything be read. -/
theorem cut_eq_length {n : Nat} {xs : List α} (h : n = 0 ∨ (xs.filterMap f).length < n) :
    cut f n xs = xs.length := by
  rcases h with rfl | h
  · exact cut_zero f xs
  induction xs generalizing n with
  | nil => rfl
  | cons x xs ih =>
    cases hx : f x with
    | none =>
      rw [List.filterMap_cons_none hx] at h
      rw [cut_cons_none hx, ih h, List.length_cons]
    | some y =>
      rw [List.filterMap_cons_some hx, List.length_cons] at h
      have matched : (f x).isSome := by simp [hx]
      rw [cut_cons_some matched (by omega), ih (by omega), List.length_cons]

end Paging
