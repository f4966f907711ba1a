import Mathlib.Data.List.Basic

namespace Run

variable {σ α : Type*} {step : σ → α → σ}

/-- The actions of a run, each with the state in which it is taken. -/
def visits (step : σ → α → σ) : σ → List α → List (σ × α)
  | _, [] => []
  | s, a :: as => (s, a) :: visits step (step s a) as

theorem mem_visits {s : σ} {as : List α} {v : σ × α} :
    v ∈ visits step s as ↔
      ∃ before rest, as = before ++ v.2 :: rest ∧ v.1 = before.foldl step s := by
  induction as generalizing s with
  | nil => simp [visits]
  | cons a as ih =>
    rw [visits, List.mem_cons, ih]
    constructor
    · rintro (rfl | ⟨before, rest, rfl, hv⟩)
      · exact ⟨[], as, rfl, rfl⟩
      · exact ⟨a :: before, rest, rfl, hv⟩
    · rintro ⟨before, rest, eq, hv⟩
      cases before with
      | nil =>
        obtain ⟨rfl, -⟩ := List.cons.inj eq
        exact Or.inl (Prod.ext hv rfl)
      | cons b before =>
        obtain ⟨rfl, rfl⟩ := List.cons.inj eq
        exact Or.inr ⟨before, rest, rfl, hv⟩

theorem visits_append (s : σ) (as bs : List α) :
    visits step s (as ++ bs) = visits step s as ++ visits step (as.foldl step s) bs := by
  induction as generalizing s with
  | nil => rfl
  | cons a as ih => simp only [List.cons_append, visits, ih, List.foldl_cons]

theorem length_visits (step : σ → α → σ) (s : σ) (as : List α) :
    (visits step s as).length = as.length := by
  induction as generalizing s with
  | nil => rfl
  | cons a as ih => rw [visits, List.length_cons, List.length_cons, ih]

theorem forall_visits {p : α → Prop} {s : σ} {as : List α} :
    (∀ v ∈ visits step s as, p v.2) ↔ ∀ a ∈ as, p a := by
  induction as generalizing s with
  | nil => simp [visits]
  | cons a as ih => simp only [visits, List.forall_mem_cons, ih]

/-- A property kept by every step whose guard holds, over a run whose guards all hold. -/
theorem foldl_guarded {I : σ → Prop} {G : σ → α → Prop}
    (preserved : ∀ s a, I s → G s a → I (step s a))
    {s : σ} {as : List α} (hs : I s) (hg : ∀ v ∈ visits step s as, G v.1 v.2) :
    I (as.foldl step s) := by
  induction as generalizing s with
  | nil => exact hs
  | cons a as ih =>
    have ha : G s a := hg (s, a) (by simp [visits])
    exact ih (preserved s a hs ha) fun v hv => hg v (by simp [visits, hv])

theorem visits_guarded {I : σ → Prop} {G : σ → α → Prop}
    (preserved : ∀ s a, I s → G s a → I (step s a))
    {s : σ} {as : List α} (hs : I s) (hg : ∀ v ∈ visits step s as, G v.1 v.2) :
    ∀ v ∈ visits step s as, I v.1 := by
  induction as generalizing s with
  | nil => simp [visits]
  | cons a as ih =>
    have ha : G s a := hg (s, a) (by simp [visits])
    intro v hv
    rcases List.mem_cons.mp hv with rfl | hv
    · exact hs
    · exact ih (preserved s a hs ha) (fun w hw => hg w (by simp [visits, hw])) v hv

theorem foldl_invariant {I : σ → Prop} (preserved : ∀ s a, I s → I (step s a))
    {s : σ} (hs : I s) (as : List α) : I (as.foldl step s) :=
  foldl_guarded (G := fun _ _ => True) (fun s a h _ => preserved s a h) hs (by simp)

theorem visits_invariant {I : σ → Prop} (preserved : ∀ s a, I s → I (step s a))
    {s : σ} (hs : I s) (as : List α) : ∀ v ∈ visits step s as, I v.1 :=
  visits_guarded (G := fun _ _ => True) (fun s a h _ => preserved s a h) hs (by simp)

/-- Two step functions that agree, through an abstraction, wherever the guard and the invariant
hold, agree along every run whose guards all hold. -/
theorem foldl_simulates {τ : Type*} {step' : τ → α → τ} {abs : σ → τ} {I : σ → Prop}
    {G : τ → α → Prop} (preserved : ∀ s a, I s → G (abs s) a → I (step s a))
    (simulates : ∀ s a, I s → G (abs s) a → step' (abs s) a = abs (step s a))
    {s : σ} {as : List α} (hs : I s) (hg : ∀ v ∈ visits step' (abs s) as, G v.1 v.2) :
    as.foldl step' (abs s) = abs (as.foldl step s) ∧ I (as.foldl step s) := by
  induction as generalizing s with
  | nil => exact ⟨rfl, hs⟩
  | cons a as ih =>
    obtain ⟨ha, later⟩ := List.forall_mem_cons.mp hg
    have same := simulates s a hs ha
    rw [same] at later
    rw [List.foldl_cons, List.foldl_cons, same]
    exact ih (preserved s a hs ha) later

/-- A step property that forces the guard in every state of the run, and follows from it in
the states that guarded steps reach, holds along a run exactly when the guard does. -/
theorem visits_iff_guard {B I : σ → Prop} {G P : σ → α → Prop}
    (basePreserved : ∀ s a, B s → B (step s a))
    (preserved : ∀ s a, I s → G s a → I (step s a))
    (necessary : ∀ s a, B s → P s a → G s a)
    (sufficient : ∀ s a, I s → G s a → P s a)
    {s : σ} (hb : B s) (hs : I s) (as : List α) :
    (∀ v ∈ visits step s as, P v.1 v.2) ↔ ∀ v ∈ visits step s as, G v.1 v.2 := by
  constructor
  · intro h v hv
    exact necessary v.1 v.2 (visits_invariant basePreserved hb as v hv) (h v hv)
  · intro h v hv
    exact sufficient v.1 v.2 (visits_guarded preserved hs h v hv) (h v hv)

end Run

namespace LastWrite

variable {σ α κ ν : Type*} {step : σ → α → σ} {write : α → κ → Option ν}

/-- The keys of a view that a step writes hold what it wrote, the others what they held. -/
def Writes (step : σ → α → σ) (view : σ → κ → ν) (write : α → κ → Option ν) (s : σ) (a : α) :
    Prop :=
  ∀ k, view (step s a) k = (write a k).getD (view s k)

/-- What the last of some steps to write a key wrote there. -/
def last (write : α → κ → Option ν) (as : List α) (k : κ) : Option ν :=
  as.reverse.findSome? (write · k)

@[simp] theorem last_nil (k : κ) : last write [] k = none := rfl

theorem last_append (as bs : List α) (k : κ) :
    last write (as ++ bs) k = (last write bs k).or (last write as k) := by
  rw [last, List.reverse_append, List.findSome?_append]
  rfl

theorem last_singleton (a : α) (k : κ) : last write [a] k = write a k := by
  simp only [last, List.reverse_singleton, List.findSome?_cons, List.findSome?_nil]
  cases write a k <;> rfl

theorem last_cons (a : α) (as : List α) (k : κ) :
    last write (a :: as) k = (last write as k).or (write a k) := by
  rw [← List.singleton_append, last_append, last_singleton]

/-- After a run each key holds what was written there last. -/
theorem view_foldl (view : σ → κ → ν) {s : σ} {as : List α}
    (h : ∀ v ∈ Run.visits step s as, Writes step view write v.1 v.2) (k : κ) :
    view (as.foldl step s) k = (last write as k).getD (view s k) := by
  induction as generalizing s with
  | nil => rfl
  | cons a as ih =>
    have first : Writes step view write s a := h (s, a) (by simp [Run.visits])
    have rest := ih (s := step s a) fun v hv => h v (by simp [Run.visits, hv])
    rw [List.foldl_cons, rest, first k, last_cons]
    cases last write as k <;> rfl

end LastWrite
