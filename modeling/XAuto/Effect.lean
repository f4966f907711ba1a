import Mathlib.Init

universe u

namespace Effect

variable {ε σ α β : Type u}

/-- The weakest precondition of a stateful program that may throw; the state survives a throw. -/
def wp (m : EStateM ε σ α) (Q : α → σ → Prop) (E : ε → σ → Prop) (s : σ) : Prop :=
  match m s with
  | .ok a s' => Q a s'
  | .error e s' => E e s'

variable {Q : α → σ → Prop} {E : ε → σ → Prop} {s : σ}

theorem wp_of_ok {m : EStateM ε σ α} {a : α} {s' : σ} (h : m s = .ok a s') (hq : Q a s') :
    wp m Q E s := by
  simpa [wp, h] using hq

/-- Two runs with one outcome have the same preconditions. -/
theorem wp_of_eq {m n : EStateM ε σ α} {s' : σ} (h : m s = n s') (hn : wp n Q E s') :
    wp m Q E s := by
  unfold wp at hn ⊢
  rwa [h]

theorem wp_of_error {m : EStateM ε σ α} {e : ε} {s' : σ} (h : m s = .error e s') (he : E e s') :
    wp m Q E s := by
  simpa [wp, h] using he

@[simp] theorem wp_pure (a : α) : wp (pure a) Q E s ↔ Q a s := Iff.rfl

@[simp] theorem wp_throw (e : ε) : wp (throw e : EStateM ε σ α) Q E s ↔ E e s := Iff.rfl

@[simp] theorem wp_get {Q : σ → σ → Prop} : wp (get : EStateM ε σ σ) Q E s ↔ Q s s := Iff.rfl

@[simp] theorem wp_modify {Q : PUnit → σ → Prop} (f : σ → σ) :
    wp (modify f : EStateM ε σ PUnit) Q E s ↔ Q ⟨⟩ (f s) := Iff.rfl

/-- A handler starts from the state the exception was thrown in. -/
@[simp] theorem wp_tryCatch (m : EStateM ε σ α) (handle : ε → EStateM ε σ α) :
    wp (tryCatch m handle) Q E s ↔ wp m Q (fun e s' => wp (handle e) Q E s') s := by
  change wp (EStateM.tryCatch m handle) Q E s ↔ _
  delta wp EStateM.tryCatch
  cases m s <;> rfl

@[simp] theorem wp_bind (m : EStateM ε σ β) (f : β → EStateM ε σ α) :
    wp (m >>= f) Q E s ↔ wp m (fun b s' => wp (f b) Q E s') E s := by
  simp only [wp, bind, EStateM.bind]
  cases m s <;> rfl

@[simp] theorem wp_map (f : β → α) (m : EStateM ε σ β) :
    wp (f <$> m) Q E s ↔ wp m (fun b s' => Q (f b) s') E s := by
  simp only [wp, Functor.map, EStateM.map]
  cases m s <;> rfl

@[simp] theorem wp_ite {c : Prop} [Decidable c] (m n : EStateM ε σ α) :
    wp (if c then m else n) Q E s ↔ if c then wp m Q E s else wp n Q E s := by
  split <;> rfl

theorem wp_mono {m : EStateM ε σ α} {Q' : α → σ → Prop} {E' : ε → σ → Prop} (h : wp m Q E s)
    (hq : ∀ a s', Q a s' → Q' a s') (he : ∀ e s', E e s' → E' e s') : wp m Q' E' s := by
  unfold wp at h ⊢
  cases hm : m s with
  | ok a s' => exact hq a s' (by simpa [hm] using h)
  | error e s' => exact he e s' (by simpa [hm] using h)

/-- What is known of a run's result decides between two postconditions of it. -/
theorem wp_congr {m : EStateM ε σ α} {R Q' : α → σ → Prop} (run : wp m R (fun _ _ => True) s)
    (h : ∀ a s', R a s' → (Q a s' ↔ Q' a s')) : wp m Q E s ↔ wp m Q' E s := by
  unfold wp at run ⊢
  cases hm : m s with
  | ok a s' => exact h a s' (by simpa [hm] using run)
  | error e s' => exact Iff.rfl

theorem wp_and {m : EStateM ε σ α} {Q' : α → σ → Prop} {E' : ε → σ → Prop} (h : wp m Q E s)
    (h' : wp m Q' E' s) : wp m (fun a s' => Q a s' ∧ Q' a s') (fun e s' => E e s' ∧ E' e s') s := by
  unfold wp at *
  cases hm : m s with
  | ok a s' => exact ⟨by simpa [hm] using h, by simpa [hm] using h'⟩
  | error e s' => exact ⟨by simpa [hm] using h, by simpa [hm] using h'⟩

theorem wp.ok {m : EStateM ε σ α} {a : α} {s' : σ} (h : wp m Q E s) (hm : m s = .ok a s') :
    Q a s' := by
  simpa [wp, hm] using h

theorem wp.error {m : EStateM ε σ α} {e : ε} {s' : σ} (h : wp m Q E s) (hm : m s = .error e s') :
    E e s' := by
  simpa [wp, hm] using h

/-- A run that has every precondition of another has its outcome. -/
theorem eq_of_wp {m n : EStateM ε σ α} {s' : σ}
    (h : ∀ (Q : α → σ → Prop) (E : ε → σ → Prop), wp n Q E s' → wp m Q E s) : m s = n s' := by
  cases hn : n s' with
  | ok a t =>
    have run := h (fun b u => b = a ∧ u = t) (fun _ _ => False) (wp_of_ok hn ⟨rfl, rfl⟩)
    cases hm : m s with
    | ok b u =>
      obtain ⟨rfl, rfl⟩ := run.ok hm
      rfl
    | error e u => exact (run.error hm).elim
  | error e t =>
    have run := h (fun _ _ => False) (fun d u => d = e ∧ u = t) (wp_of_error hn ⟨rfl, rfl⟩)
    cases hm : m s with
    | ok b u => exact (run.ok hm).elim
    | error d u =>
      obtain ⟨rfl, rfl⟩ := run.error hm
      rfl

theorem bind_congr_of_wp {m : EStateM ε σ β} {f g : β → EStateM ε σ α} {R : β → σ → Prop}
    (run : wp m R E s) (h : ∀ b s', R b s' → f b s' = g b s') : (m >>= f) s = (m >>= g) s := by
  simp only [bind, EStateM.bind]
  cases hm : m s with
  | ok b s' => exact h b s' (run.ok hm)
  | error e s' => rfl

theorem wp.returns {m : EStateM ε σ α} (h : wp m Q (fun _ _ => False) s) :
    ∃ a s', m s = .ok a s' := by
  cases hm : m s with
  | ok a s' => exact ⟨a, s', rfl⟩
  | error e s' => exact (h.error hm).elim

theorem wp.throws {m : EStateM ε σ α} (h : wp m (fun _ _ => False) E s) :
    ∃ e s', m s = .error e s' ∧ E e s' := by
  cases hm : m s with
  | ok a s' => exact (h.ok hm).elim
  | error e s' => exact ⟨e, s', rfl, h.error hm⟩

/-- The state a run ends in, whether it returns or throws. -/
def final (m : EStateM ε σ α) (s : σ) : σ :=
  match m s with
  | .ok _ s' => s'
  | .error _ s' => s'

theorem wp_final {m : EStateM ε σ α} {P : σ → Prop} :
    wp m (fun _ s' => P s') (fun _ s' => P s') s ↔ P (final m s) := by
  unfold wp final
  cases m s <;> rfl

/-- What holds of the state before a run holds after it. -/
def Keeps (P : σ → Prop) (m : EStateM ε σ α) : Prop :=
  ∀ s, P s → wp m (fun _ s' => P s') (fun _ s' => P s') s

namespace Keeps

variable {P : σ → Prop}

theorem pure (a : α) : Keeps P (Pure.pure a : EStateM ε σ α) := fun _ h => h

theorem throw (e : ε) : Keeps P (MonadExcept.throw e : EStateM ε σ α) := fun _ h => h

theorem bind {m : EStateM ε σ β} {f : β → EStateM ε σ α} (hm : Keeps P m)
    (hf : ∀ b, Keeps P (f b)) : Keeps P (m >>= f) := by
  intro s hs
  rw [Effect.wp_bind]
  exact wp_mono (hm s hs) (fun b s' h => hf b s' h) fun _ _ h => h

/-- What a preserved property is worth to the rest of a run. -/
theorem wp_bind {m : EStateM ε σ β} {f : β → EStateM ε σ α} (hm : Keeps P m) (hs : P s)
    (he : ∀ e s', P s' → E e s') (hf : ∀ b s', P s' → wp (f b) Q E s') : wp (m >>= f) Q E s :=
  (Effect.wp_bind m f).mpr (wp_mono (hm s hs) hf he)

theorem modify {f : σ → σ} (hf : ∀ s, P s → P (f s)) :
    Keeps P (modify f : EStateM ε σ PUnit) := hf

theorem tryCatch {m : EStateM ε σ α} {handle : ε → EStateM ε σ α} (hm : Keeps P m)
    (hh : ∀ e, Keeps P (handle e)) : Keeps P (MonadExcept.tryCatch m handle) := by
  intro s hs
  exact (wp_tryCatch m handle).mpr (wp_mono (hm s hs) (fun _ _ h => h) fun e s' h => hh e s' h)

theorem ite {c : Prop} [Decidable c] {m n : EStateM ε σ α} (hm : Keeps P m) (hn : Keeps P n) :
    Keeps P (if c then m else n) := by
  split
  · exact hm
  · exact hn

end Keeps

end Effect
