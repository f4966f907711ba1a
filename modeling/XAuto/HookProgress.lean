import XAuto.HookSafety
import Mathlib.Algebra.BigOperators.Group.Finset.Basic
import Mathlib.Algebra.Order.BigOperators.Group.Finset

namespace XAuto

/-- The steps that are left of a call. -/
def Frame.work : Frame → Nat
  | .hook _ pc =>
    match pc with
    | .original => 9
    | .capture => 8
    | .guard => 7
    | .wantLog => 6
    | .append => 5
    | .wantPub => 4
    | .send => 3
    | .sending => 2
    | .leave => 1
  | .callback _ pc =>
    match pc with
    | .wantLog => 5
    | .clear => 4
    | .wantPub => 3
    | .send => 2
    | .sending => 1
  | .stop pc =>
    match pc with
    | .deactivate => 4
    | .detach => 3
    | .wantPub => 2
    | .close => 1
  | .query pc =>
    match pc with
    | .wantLog => 2
    | .read => 1

def Thread.work (th : Thread) : Nat := (th.stack.map Frame.work).sum

theorem Frame.work_locked {f : Frame} {m : Mutex} (hf : f.wants = some m) :
    f.locked.work < f.work := by
  cases f with
  | hook line pc => cases pc <;> cases hf <;> exact Nat.lt_succ_self _
  | callback n pc => cases pc <;> cases hf <;> exact Nat.lt_succ_self _
  | stop pc =>
    cases pc <;> cases hf
    exact Nat.lt_succ_self _
  | query pc =>
    cases pc <;> cases hf
    exact Nat.lt_succ_self _

theorem Frame.work_pos (f : Frame) : 0 < f.work := by
  cases f with
  | hook line pc => cases pc <;> exact Nat.succ_pos _
  | callback n pc => cases pc <;> exact Nat.succ_pos _
  | stop pc => cases pc <;> exact Nat.succ_pos _
  | query pc => cases pc <;> exact Nat.succ_pos _

namespace Process

variable {τ : Type} [DecidableEq τ] {p p' : Process τ} {t : τ}

/-- A thread went on by one step of its innermost call. -/
structure Went (p : Process τ) (t : τ) (p' : Process τ) : Prop where
  threads : ∃ th, p'.threads = Function.update p.threads t th ∧ th.work < (p.threads t).work
  running : p'.terminated = false

theorem went_of_next {f : Frame} {rest : List Frame} {th : Thread}
    (before : (p.threads t).stack = f :: rest) (k : Frame) (after : th.stack = k :: rest)
    (threads : p'.threads = Function.update p.threads t th) (less : k.work < f.work)
    (running : p'.terminated = false) : Went p t p' := by
  refine ⟨⟨th, threads, ?_⟩, running⟩
  simpa [Thread.work, before, after] using less

theorem went_of_pop {f : Frame} {rest : List Frame} {th : Thread}
    (before : (p.threads t).stack = f :: rest) (after : th.stack = rest)
    (threads : p'.threads = Function.update p.threads t th) (positive : 0 < f.work)
    (running : p'.terminated = false) : Went p t p' := by
  refine ⟨⟨th, threads, ?_⟩, running⟩
  simpa [Thread.work, before, after] using positive

theorem advance_went (live : p.terminated = false) {f : Frame} {rest : List Frame}
    (stack : (p.threads t).stack = f :: rest) (wants : f.wants = none) :
    Went p t (p.advance t f rest) ∨ (p.advance t f rest).terminated = true := by
  cases f with
  | hook line pc =>
    cases pc with
    | wantLog | wantPub => cases wants
    | original =>
      exact Or.inl (went_of_next stack (.hook line .capture) rfl rfl (by simp [Frame.work]) live)
    | capture =>
      unfold advance
      dsimp only
      split
      · exact Or.inl (went_of_next stack (.hook line .guard) rfl rfl (by simp [Frame.work]) live)
      · exact Or.inl (went_of_pop stack rfl rfl (by simp [Frame.work]) live)
    | guard =>
      unfold advance
      dsimp only
      split
      · exact Or.inl (went_of_pop stack rfl rfl (by simp [Frame.work]) live)
      · exact Or.inl (went_of_next stack (.hook line .wantLog) rfl rfl (by simp [Frame.work]) live)
    | append =>
      exact Or.inl (went_of_next stack (.hook line .wantPub) rfl rfl (by simp [Frame.work]) live)
    | send =>
      unfold advance
      dsimp only
      split
      · exact Or.inl (went_of_next stack (.hook line .sending) rfl rfl (by simp [Frame.work]) live)
      · exact Or.inl (went_of_next stack (.hook line .leave) rfl rfl (by simp [Frame.work]) live)
    | sending =>
      exact Or.inl (went_of_next stack (.hook line .leave) rfl rfl (by simp [Frame.work]) live)
    | leave => exact Or.inl (went_of_pop stack rfl rfl (by simp [Frame.work]) live)
  | callback n pc =>
    cases pc with
    | wantLog | wantPub => cases wants
    | clear =>
      exact Or.inl (went_of_next stack (.callback n .wantPub) rfl rfl (by simp [Frame.work]) live)
    | send =>
      unfold advance
      dsimp only
      split
      · exact Or.inl (went_of_next stack (.callback n .sending) rfl rfl (by simp [Frame.work]) live)
      · exact Or.inr rfl
    | sending => exact Or.inl (went_of_pop stack rfl rfl (by simp [Frame.work]) live)
  | stop pc =>
    cases pc with
    | wantPub => cases wants
    | deactivate =>
      exact Or.inl (went_of_next stack (.stop .detach) rfl rfl (by simp [Frame.work]) live)
    | detach =>
      exact Or.inl (went_of_next stack (.stop .wantPub) rfl rfl (by simp [Frame.work]) live)
    | close => exact Or.inl (went_of_pop stack rfl rfl (by simp [Frame.work]) live)
  | query pc =>
    cases pc with
    | wantLog => cases wants
    | read => exact Or.inl (went_of_pop stack rfl rfl (by simp [Frame.work]) live)

theorem continues_went (live : p.terminated = false) (hs : p.step (.continues t) = some p') :
    Went p t p' ∨ p'.terminated = true := by
  obtain ⟨f, rest, stack, ⟨m, wants, -, rfl⟩ | ⟨wants, rfl⟩⟩ := step_continues hs
  · exact Or.inl (went_of_next stack _ rfl rfl (Frame.work_locked wants) live)
  · exact advance_went live stack wants

theorem terminated_of_step {move : Move τ} (hs : p.step move = some p') : p.terminated = false := by
  unfold step at hs
  split at hs
  · cases hs
  next live => simpa using live

section Work

variable [Fintype τ]

/-- The steps that are left of all calls; a process that is brought down takes none. -/
def work (p : Process τ) : Nat := if p.terminated then 0 else ∑ t, (p.threads t).work

theorem went_work (live : p.terminated = false) (h : Went p t p') : p'.work < p.work := by
  obtain ⟨⟨th, threads, less⟩, running⟩ := h
  simp only [work, live, running, threads, Bool.false_eq_true, if_false]
  refine Finset.sum_lt_sum (fun u _ => ?_) ⟨t, Finset.mem_univ t, by simpa using less⟩
  by_cases hu : u = t
  · subst hu
    simpa using less.le
  · simp [Function.update_of_ne hu]

theorem continues_work (hs : p.step (.continues t) = some p') : p'.work < p.work := by
  have live := terminated_of_step hs
  rcases continues_went live hs with went | ended
  · exact went_work live went
  · obtain ⟨f, rest, stack, -⟩ := step_continues hs
    have some_work : 0 < (p.threads t).work := by
      have positive := f.work_pos
      simp only [Thread.work, stack, List.map_cons, List.sum_cons]
      omega
    have all := Finset.single_le_sum (f := fun u => (p.threads u).work) (fun _ _ => Nat.zero_le _)
      (Finset.mem_univ t)
    simp only [work, live, ended, if_true, Bool.false_eq_true, if_false]
    exact lt_of_lt_of_le some_work all

end Work

/-- Where no thread can go on, none is in a call: a thread that waits for a mutex waits for one
that does not wait. -/
theorem Sound.idle (h : p.Sound) (live : p.terminated = false)
    (stuck : ∀ t, p.step (.continues t) = none) (t : τ) : (p.threads t).stack = [] := by
  have waiting (u : τ) {f : Frame} {rest : List Frame} (stack : (p.threads u).stack = f :: rest) :
      ∃ m, f.wants = some m ∧ p.owner m ≠ none := by
    have blocked := stuck u
    simp only [Process.step, live, stack, Bool.false_eq_true, if_false] at blocked
    split at blocked
    next m wants =>
      refine ⟨m, wants, fun free => ?_⟩
      rw [if_pos free] at blocked
      cases blocked
    next => cases blocked
  cases stack : (p.threads t).stack with
  | nil => rfl
  | cons f rest =>
    obtain ⟨m, -, taken⟩ := waiting t stack
    obtain ⟨u, owner⟩ := Option.ne_none_iff_exists'.mp taken
    have holds := (h.owners m u).mp owner
    cases other : (p.threads u).stack with
    | nil => simp [other, heldBy] at holds
    | cons g below =>
      obtain ⟨k, wants, -⟩ := waiting u other
      rw [h.heldBy_of_wants other wants] at holds
      cases holds

end Process

/-- The calls that threads are in come to an end however the threads are scheduled: without new
calls no schedule is longer than the steps that are left, and where no thread can go on, either a
late callback has brought the process down or every call has returned, every mutex is free, and
each line was sent, or was given up because the socket was closed. -/
theorem threads_drain {τ : Type} [DecidableEq τ] [Fintype τ] (hooked opened : Bool)
    (moves : List (Move τ)) (p : Process τ)
    (run : Schedule.run Process.step (Process.loaded hooked opened) moves = some p)
    (turns : List τ) (p' : Process τ)
    (rest : Schedule.run Process.step p (turns.map .continues) = some p') :
    turns.length ≤ p.work ∧
    ((∀ t, p'.step (.continues t) = none) → p'.terminated = false →
      (∀ t, p'.threads t = {}) ∧ (∀ m, p'.owner m = none) ∧
      ∀ t, p'.appendedBy t = p'.publishedBy t ++ p'.droppedBy t ∧
        (p'.opened = true → p'.droppedBy t = [])) := by
  constructor
  · have uses (q : Process τ) (a : Move τ) (q' : Process τ) (ha : ∃ t, a = .continues t)
        (hs : q.step a = some q') : q'.work < q.work := by
      obtain ⟨t, rfl⟩ := ha
      exact Process.continues_work hs
    have short := Schedule.length_le uses (by simp) rest
    simp only [List.length_map] at short
    omega
  · intro stuck live
    have sound : p'.Sound :=
      Schedule.run_invariant (fun _ _ _ h hs => h.step hs) (Process.sound_run run) rest
    have idle := sound.idle live stuck
    refine ⟨fun t => ?_, fun m => ?_, fun t => ⟨?_, fun opened => ?_⟩⟩
    · have guarded := (sound.threads t).guarded
      rw [idle t] at guarded
      cases th : p'.threads t with
      | mk stack inHook =>
        have none := idle t
        rw [th] at none guarded
        cases inHook with
        | false => exact congrArg (Thread.mk · false) none
        | true => simp at guarded
    · by_contra taken
      obtain ⟨t, owner⟩ := Option.ne_none_iff_exists'.mp taken
      have holds := (sound.owners m t).mp owner
      simp [idle t, heldBy] at holds
    · simpa [idle t, unsentOf] using sound.ledger t
    · simp [Process.droppedBy, sound.dropless opened]

theorem logged_line_drains :
    ∃ p p', Schedule.run Process.step (Process.loaded true true) [Move.logs () [65]] = some p ∧
      Schedule.run Process.step p ((List.replicate 9 ()).map .continues) = some p' ∧
      9 ≤ p.work :=
  ⟨_, _, rfl, rfl, (threads_drain true true [.logs () [65]] _ rfl (List.replicate 9 ()) _ rfl).1⟩

end XAuto
