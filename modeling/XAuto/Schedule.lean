import Mathlib.Data.List.Basic

namespace Schedule

variable {σ α : Type*} {step : σ → α → Option σ}

/-- The state after the actions, if each of them is enabled when its turn comes. -/
def run (step : σ → α → Option σ) : σ → List α → Option σ
  | s, [] => some s
  | s, a :: as => (step s a).bind fun s' => run step s' as

theorem run_cons {s s' : σ} {a : α} (h : step s a = some s') (as : List α) :
    run step s (a :: as) = run step s' as := by
  rw [run, h, Option.bind_some]

theorem run_append {s s' : σ} {as : List α} (h : run step s as = some s') (bs : List α) :
    run step s (as ++ bs) = run step s' bs := by
  induction as generalizing s with
  | nil =>
    obtain rfl : s = s' := Option.some.inj h
    rfl
  | cons a as ih =>
    obtain ⟨t, ht, rest⟩ := Option.bind_eq_some_iff.mp h
    rw [List.cons_append, run_cons ht, ih rest]

/-- What every enabled action keeps, every schedule keeps. -/
theorem run_invariant {I : σ → Prop} (preserved : ∀ s a s', I s → step s a = some s' → I s')
    {s s' : σ} {as : List α} (hs : I s) (h : run step s as = some s') : I s' := by
  induction as generalizing s with
  | nil =>
    obtain rfl : s = s' := Option.some.inj h
    exact hs
  | cons a as ih =>
    obtain ⟨t, ht, rest⟩ := Option.bind_eq_some_iff.mp h
    exact ih (preserved s a t hs ht) rest

section Measure

variable {measure : σ → Nat} {G : α → Prop}
  (decreases : ∀ s a s', G a → step s a = some s' → measure s' < measure s)

include decreases in
/-- A schedule of actions that use up a measure is no longer than the measure. -/
theorem length_le {s s' : σ} {as : List α} (hg : ∀ a ∈ as, G a) (h : run step s as = some s') :
    measure s' + as.length ≤ measure s := by
  induction as generalizing s with
  | nil =>
    obtain rfl : s = s' := Option.some.inj h
    exact Nat.le_refl _
  | cons a as ih =>
    obtain ⟨t, ht, rest⟩ := Option.bind_eq_some_iff.mp h
    have first := decreases s a t (hg a List.mem_cons_self) ht
    have later := ih (fun b hb => hg b (List.mem_cons_of_mem a hb)) rest
    rw [List.length_cons]
    omega

end Measure

end Schedule
