import Mathlib.Data.List.Basic
import Mathlib.Data.List.Infix

namespace Lines

variable {α : Type*} [DecidableEq α]

/-- The lines of a text: cut after every separator, which stays at the end of its line. -/
def split (sep : α) : List α → List (List α)
  | [] => []
  | x :: xs =>
    if x = sep then [x] :: split sep xs
    else match split sep xs with
      | [] => [[x]]
      | line :: rest => (x :: line) :: rest

/-- A text in lines: each ends in its only separator, but the last may have none. -/
inductive IsLines (sep : α) : List (List α) → Prop
  | nil : IsLines sep []
  | unterminated {line : List α} : line ≠ [] → sep ∉ line → IsLines sep [line]
  | terminated {first : List α} {rest : List (List α)} :
      sep ∉ first → IsLines sep rest → IsLines sep ((first ++ [sep]) :: rest)

theorem isLines_split (sep : α) (xs : List α) : IsLines sep (split sep xs) := by
  induction xs with
  | nil => exact .nil
  | cons x xs ih =>
    unfold split
    by_cases hx : x = sep
    · subst hx
      rw [if_pos rfl]
      exact .terminated List.not_mem_nil ih
    · rw [if_neg hx]
      cases hs : split sep xs with
      | nil => exact .unterminated (List.cons_ne_nil x []) (by simpa using Ne.symm hx)
      | cons line rest =>
        rw [hs] at ih
        cases ih with
        | unterminated _ h =>
          exact .unterminated (List.cons_ne_nil x line) (by simpa using ⟨Ne.symm hx, h⟩)
        | @terminated first _ h tail =>
          have hfirst : sep ∉ x :: first := by simpa using ⟨Ne.symm hx, h⟩
          exact .terminated hfirst tail

omit [DecidableEq α] in
theorem IsLines.ne_nil {sep : α} {ls : List (List α)} (h : IsLines sep ls) {line : List α}
    (hl : line ∈ ls) : line ≠ [] := by
  induction h with
  | nil => exact absurd hl List.not_mem_nil
  | unterminated nonempty _ =>
    rw [List.mem_singleton.mp hl]
    exact nonempty
  | terminated _ _ ih =>
    rcases List.mem_cons.mp hl with rfl | hl
    · exact List.concat_ne_nil _ _
    · exact ih hl

theorem split_ne_nil {sep : α} {xs line : List α} (h : line ∈ split sep xs) : line ≠ [] :=
  (isLines_split sep xs).ne_nil h

theorem split_unterminated {sep : α} {xs : List α} (hx : xs ≠ []) (h : sep ∉ xs) :
    split sep xs = [xs] := by
  induction xs with
  | nil => exact absurd rfl hx
  | cons x xs ih =>
    have hne : x ≠ sep := fun e => h (by simp [e])
    cases xs with
    | nil => simp [split, hne]
    | cons y ys =>
      have tail := ih (by simp) (fun hm => h (List.mem_cons_of_mem x hm))
      rw [split, if_neg hne, tail]

theorem split_terminated {sep : α} {first : List α} (h : sep ∉ first) (rest : List α) :
    split sep (first ++ sep :: rest) = (first ++ [sep]) :: split sep rest := by
  induction first with
  | nil => simp [split]
  | cons x xs ih =>
    have hne : x ≠ sep := fun e => h (by simp [e])
    have tail := ih (fun hm => h (List.mem_cons_of_mem x hm))
    rw [List.cons_append, split, if_neg hne, tail]
    rfl

/-- Cutting at the first separator, as `find` followed by `substr` does. -/
theorem split_at_idxOf {sep : α} {xs : List α} (hm : sep ∈ xs) :
    split sep xs =
      xs.take (xs.idxOf sep + 1) :: split sep (xs.drop (xs.idxOf sep + 1)) := by
  obtain ⟨first, rest, eq, hf⟩ := List.eq_append_cons_of_mem hm
  have hidx : xs.idxOf sep = first.length := by
    simp [eq, List.idxOf_append, hf]
  have hlen : first.length + 1 = (first ++ [sep]).length := by simp
  have happ : xs = (first ++ [sep]) ++ rest := by simp [eq]
  rw [hidx, hlen, happ, List.take_left, List.drop_left, ← happ, eq]
  exact split_terminated hf rest

/-- The kept lines are empty together exactly when no line is kept. -/
theorem flatten_filter_eq_nil {sep : α} {xs : List α} (keep : List α → Bool) :
    ((split sep xs).filter keep).flatten = [] ↔ (split sep xs).filter keep = [] := by
  constructor
  · intro h
    by_contra hne
    obtain ⟨line, hl⟩ := List.exists_mem_of_ne_nil _ hne
    have hline := split_ne_nil (List.mem_filter.mp hl).1
    exact hline (List.flatten_eq_nil_iff.mp h line hl)
  · intro h
    simp [h]

theorem flatten_split (sep : α) (xs : List α) : (split sep xs).flatten = xs := by
  induction xs with
  | nil => rfl
  | cons x xs ih =>
    unfold split
    by_cases hx : x = sep
    · rw [if_pos hx, List.flatten_cons, ih]
      rfl
    · rw [if_neg hx]
      cases hs : split sep xs with
      | nil =>
        rw [hs] at ih
        simp [← ih]
      | cons line rest =>
        rw [hs] at ih
        simp [← ih]

namespace IsLines

variable {sep : α} {ls ks : List (List α)}

/-- Lines put together are neither merged nor cut in other places. -/
theorem split_flatten (h : IsLines sep ls) : split sep ls.flatten = ls := by
  induction h with
  | nil => rfl
  | unterminated nonempty h =>
    rw [List.flatten_singleton]
    exact split_unterminated nonempty h
  | @terminated first rest h _ ih =>
    have joined : ((first ++ [sep]) :: rest).flatten = first ++ sep :: rest.flatten := by simp
    rw [joined, split_terminated h, ih]

omit [DecidableEq α] in
/-- Any lines of a text can be left out. -/
theorem sublist (h : IsLines sep ls) (hk : ks.Sublist ls) : IsLines sep ks := by
  induction h generalizing ks with
  | nil =>
    rw [List.sublist_nil.mp hk]
    exact .nil
  | unterminated nonempty h =>
    rcases List.sublist_singleton.mp hk with rfl | rfl
    · exact .nil
    · exact .unterminated nonempty h
  | terminated h _ ih =>
    cases hk with
    | cons _ hk => exact ih hk
    | cons_cons _ hk => exact .terminated h (ih hk)

end IsLines

theorem split_flatten_filter (sep : α) (xs : List α) (keep : List α → Bool) :
    split sep ((split sep xs).filter keep).flatten = (split sep xs).filter keep :=
  ((isLines_split sep xs).sublist List.filter_sublist).split_flatten

omit [DecidableEq α] in
/-- A pattern without separator does not reach over the end of a line. -/
theorem infix_line_append_iff {sep : α} {pattern : List α} (h : sep ∉ pattern)
    (first rest : List α) : pattern <:+: (first ++ [sep]) ++ rest ↔
      pattern <:+: first ++ [sep] ∨ pattern <:+: rest := by
  rw [List.infix_append_iff]
  constructor
  · rintro (left | right | ⟨before, after, rfl, hb, ha⟩)
    · exact Or.inl left
    · exact Or.inr right
    · rcases List.suffix_concat_iff.mp hb with rfl | ⟨t, rfl, -⟩
      · exact Or.inr ha.isInfix
      · exact absurd (by simp) h
  · exact Or.imp_right Or.inl

omit [DecidableEq α] in
theorem IsLines.infix_flatten_iff {sep : α} {ls : List (List α)} (hl : IsLines sep ls)
    {pattern : List α} (nonempty : pattern ≠ []) (h : sep ∉ pattern) :
    pattern <:+: ls.flatten ↔ ∃ line ∈ ls, pattern <:+: line := by
  induction hl with
  | nil => simpa using nonempty
  | unterminated _ _ => simp
  | terminated _ _ ih =>
    rw [List.flatten_cons, infix_line_append_iff h, ih]
    simp

/-- A pattern without separator is found in a text exactly when it is found in one of its lines. -/
theorem infix_iff {sep : α} {pattern : List α} (nonempty : pattern ≠ []) (h : sep ∉ pattern)
    (xs : List α) : pattern <:+: xs ↔ ∃ line ∈ split sep xs, pattern <:+: line := by
  have lines := (isLines_split sep xs).infix_flatten_iff nonempty h
  rwa [flatten_split] at lines

end Lines
