import XAuto.LogQuery

namespace XAuto

namespace LogBuffer

/-- One round of the inner loop of `get_since`: what is left of the entry and what is kept of it. -/
def filterRound (filter : Bytes) (s : Bytes × Bytes) : Bytes × Bytes :=
  let found := newline ∈ s.1
  let nl := s.1.idxOf newline
  let line := if found then s.1.take (nl + 1) else s.1
  (if found then s.1.drop (nl + 1) else [], if filter <:+: line then s.2 ++ line else s.2)

theorem filterLoop_round (filter filtered : Bytes) {src : Bytes} (h : src ≠ []) :
    filterLoop filter src filtered =
      filterLoop filter (filterRound filter (src, filtered)).1
        (filterRound filter (src, filtered)).2 := by
  cases src with
  | nil => exact absurd rfl h
  | cons c cs =>
    rw [filterLoop]
    rfl

/-- A round takes off one line. -/
theorem filterRound_lines (filter filtered : Bytes) {line : Bytes} {rest : List Bytes}
    (h : Lines.IsLines newline (line :: rest)) :
    filterRound filter ((line :: rest).flatten, filtered) =
      (rest.flatten, filtered ++ ([line].filter (filter <:+: ·)).flatten) := by
  have kept (first : Bytes) : (if filter <:+: first then filtered ++ first else filtered) =
      filtered ++ ([first].filter (filter <:+: ·)).flatten := by
    by_cases hl : filter <:+: first <;> simp [hl]
  cases h with
  | unterminated _ h =>
    rw [List.flatten_singleton, ← kept]
    simp [filterRound, h]
  | @terminated first _ h _ =>
    have joined : ((first ++ [newline]) :: rest).flatten = (first ++ [newline]) ++ rest.flatten :=
      rfl
    have idx : ((first ++ [newline]) ++ rest.flatten).idxOf newline + 1 =
        (first ++ [newline]).length := by
      simp [List.idxOf_append, h]
    have found : newline ∈ (first ++ [newline]) ++ rest.flatten := by simp
    rw [joined, ← kept]
    unfold filterRound
    simp only [found, if_true, idx, List.take_left, List.drop_left]

/-- After `k` rounds the first `k` lines have been looked at. -/
theorem iterate_filterRound (filter s : Bytes) {k : Nat}
    (hk : k ≤ (Lines.split newline s).length) :
    (filterRound filter)^[k] (s, []) =
      (((Lines.split newline s).drop k).flatten,
        (((Lines.split newline s).take k).filter (filter <:+: ·)).flatten) := by
  induction k with
  | zero => simp [Lines.flatten_split]
  | succ k ih =>
    have next : (Lines.split newline s).drop k =
        (Lines.split newline s)[k] :: (Lines.split newline s).drop (k + 1) :=
      List.drop_eq_getElem_cons hk
    have taken : (Lines.split newline s).take (k + 1) =
        (Lines.split newline s).take k ++ [(Lines.split newline s)[k]] :=
      (List.take_append_getElem hk).symm
    have lines := (Lines.isLines_split newline s).sublist (List.drop_sublist k _)
    rw [next] at lines
    rw [Function.iterate_succ_apply', ih (by omega), next, filterRound_lines _ _ lines, taken,
      List.filter_append, List.flatten_append]

/-- The inner loop ends on an entry: after the given number of rounds, and not before. -/
structure LoopEnds (filter s : Bytes) (rounds : Nat) : Prop where
  running : ∀ k < rounds, ((filterRound filter)^[k] (s, [])).1 ≠ []
  ended : (filterRound filter)^[rounds] (s, []) = ([], filterLoop filter s [])

theorem filterLoop_iterate {filter s : Bytes} {rounds : Nat}
    (running : ∀ k < rounds, ((filterRound filter)^[k] (s, [])).1 ≠ []) :
    filterLoop filter s [] = filterLoop filter ((filterRound filter)^[rounds] (s, [])).1
      ((filterRound filter)^[rounds] (s, [])).2 := by
  induction rounds with
  | zero => rfl
  | succ k ih =>
    rw [ih fun j hj => running j (by omega), filterLoop_round _ _ (running k (Nat.lt_succ_self k)),
      Function.iterate_succ_apply']

theorem loopEnds (filter s : Bytes) :
    LoopEnds filter s (Lines.split newline s).length := by
  have running : ∀ k < (Lines.split newline s).length,
      ((filterRound filter)^[k] (s, [])).1 ≠ [] := by
    intro k hk
    have first : (Lines.split newline s)[k] ∈ (Lines.split newline s).drop k := by
      rw [List.drop_eq_getElem_cons hk]
      exact List.mem_cons_self
    rw [iterate_filterRound filter s hk.le]
    intro hnil
    exact Lines.split_ne_nil (List.getElem_mem hk) (List.flatten_eq_nil_iff.mp hnil _ first)
  refine ⟨running, ?_⟩
  have out := filterLoop_iterate running
  rw [iterate_filterRound filter s le_rfl, List.drop_length, List.flatten_nil, filterLoop] at out
  rw [iterate_filterRound filter s le_rfl, List.drop_length, out]
  rfl

end LogBuffer

/-- What the inner loop of `get_since` builds from an entry. -/
def filtered (filter s : Bytes) : Bytes := LogBuffer.filterLoop filter s []

/-- The lines of an entry, with their terminators. -/
def lines (s : Bytes) : List Bytes := Lines.split LogBuffer.newline s

section Laws

variable (filter other s : Bytes)

theorem filtered_eq : filtered filter s = ((lines s).filter (filter <:+: ·)).flatten :=
  filterLoop_eq filter s []

theorem lines_filtered : lines (filtered filter s) = (lines s).filter (filter <:+: ·) := by
  rw [filtered_eq]
  exact Lines.split_flatten_filter LogBuffer.newline s _

theorem filtered_filtered : filtered filter (filtered other s) =
    ((lines s).filter fun line => filter <:+: line && other <:+: line).flatten := by
  rw [filtered_eq, lines_filtered, List.filter_filter]

theorem filtered_eq_nil : filtered filter s = [] ↔ ∀ line ∈ lines s, ¬filter <:+: line := by
  rw [filtered_eq]
  refine (Lines.flatten_filter_eq_nil _).trans ?_
  simp [lines, List.filter_eq_nil_iff]

variable {filter} in
theorem candidate_eq_none (hf : filter ≠ []) :
    LogBuffer.candidate filter s = none ↔ filtered filter s = [] := by
  unfold LogBuffer.candidate
  rw [if_pos hf]
  show (if filtered filter s = [] then none else some (filtered filter s)) = none ↔ _
  split
  next h => exact iff_of_true rfl h
  next h => exact iff_of_false (Option.some_ne_none _) h

/-- How a filter acts on one entry, by itself and together with another one. -/
structure FilterLaws (filter other s : Bytes) : Prop where
  ends : LogBuffer.LoopEnds filter s (lines s).length
  kept : lines (filtered filter s) = (lines s).filter (filter <:+: ·)
  idempotent : filtered filter (filtered filter s) = filtered filter s
  commutes : filtered filter (filtered other s) = filtered other (filtered filter s)
  skipped : LogBuffer.candidate filter s = none ↔ filtered filter s = []
  noLine : filtered filter s = [] ↔ ∀ line ∈ lines s, ¬filter <:+: line
  whole : LogBuffer.newline ∉ filter → (filtered filter s = [] ↔ ¬filter <:+: s)

variable {filter} in
/-- The laws of the filter, for any entry and any filter that is not empty. -/
theorem filter_laws (hf : filter ≠ []) : FilterLaws filter other s where
  ends := LogBuffer.loopEnds filter s
  kept := lines_filtered filter s
  idempotent := by
    rw [filtered_filtered, filtered_eq]
    simp only [Bool.and_self]
  commutes := by
    rw [filtered_filtered, filtered_filtered]
    simp only [Bool.and_comm]
  skipped := candidate_eq_none s hf
  noLine := filtered_eq_nil filter s
  whole := by
    intro unbroken
    have found := Lines.infix_iff hf unbroken s
    rw [filtered_eq_nil, found, not_exists]
    exact forall_congr' fun line => not_and.symm

end Laws

theorem filter_laws_two_lines :
    FilterLaws (bytes "b") (bytes "a") (bytes "ab\na\nb") :=
  filter_laws (bytes "a") (bytes "ab\na\nb") (by decide)

end XAuto
