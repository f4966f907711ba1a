import XAuto.LogHistory
import XAuto.LogQuery
import XAuto.Run
import XAuto.Intervals
import Mathlib.Logic.Function.Basic
import Mathlib.Order.Interval.Finset.Nat

namespace XAuto

inductive PollOp (ι : Type*)
  | append (msg : Option Bytes)
  | poll (client : ι) (limit : Nat)

/-- The log and the cursor each client carries from poll to poll. -/
structure Polling (ι : Type*) where
  session : Session := {}
  cursor : ι → Nat := fun _ => 0

/-- One poll as the client and the log see it. -/
structure Poll where
  since : Nat
  base : Nat
  history : List Bytes
  snap : LogBuffer.Snapshot

namespace Poll

/-- What a poll answers, in terms of the whole history at that point. -/
structure Exact (filter : Bytes) (p : Poll) : Prop where
  advances : p.since ≤ p.snap.nextIndex
  inside : p.snap.nextIndex ≤ p.history.length
  covers : p.base ≤ p.snap.nextIndex
  entries : p.snap.entries =
    ((p.history.take p.snap.nextIndex).drop (max p.since p.base)).filterMap (keptLines filter)
  evicted : p.snap.evicted = (Finset.Ico p.since p.base).card

def Scans (p : Poll) (j : Nat) : Prop := max p.since p.base ≤ j ∧ j < p.snap.nextIndex

def Evicts (p : Poll) (j : Nat) : Prop := p.since ≤ j ∧ j < p.base

/-- Without a filter every index a poll passes is either returned or counted as evicted. -/
theorem Exact.length_entries {p : Poll} (h : p.Exact []) :
    p.snap.evicted + p.snap.entries.length = p.snap.nextIndex - p.since := by
  have h1 := h.advances
  have h2 := h.covers
  have h3 := h.inside
  rw [h.evicted, h.entries, keptLines_nil, Nat.card_Ico]
  simp only [List.filterMap_some, List.length_drop, List.length_take]
  omega

end Poll

namespace Polling

variable {ι : Type*}

/-- No cursor is past the end of the log. -/
structure Ok (s : Polling ι) : Prop where
  tracks : s.session.Tracks
  bounded : ∀ client, s.cursor client ≤ s.session.history.length

theorem ok_empty : Ok ({} : Polling ι) := ⟨⟨List.suffix_rfl, rfl⟩, by simp⟩

variable (filter : ι → Bytes)

def answer (s : Polling ι) (client : ι) (limit : Nat) : LogBuffer.Snapshot :=
  s.session.buf.getSince (s.cursor client) limit (filter client)

def poll (s : Polling ι) (client : ι) (limit : Nat) : Poll :=
  { since := s.cursor client
    base := s.session.buf.baseIndex
    history := s.session.history
    snap := s.answer filter client limit }

variable {filter} in
theorem Ok.poll_exact {s : Polling ι} (h : s.Ok) (client : ι) (limit : Nat) :
    (s.poll filter client limit).Exact (filter client) := by
  have hsince : s.cursor client ≤ s.session.buf.baseIndex + s.session.buf.entries.length :=
    h.tracks.length ▸ h.bounded client
  have hnext := s.session.buf.getSince_nextIndex_of_le _ limit (filter client) hsince
  have hle := s.session.buf.getSince_nextIndex_le (s.cursor client) limit (filter client)
  rw [h.tracks.length] at hle
  refine ⟨?_, hle, ?_, ?_, ?_⟩
  · simp only [poll, answer, hnext]; omega
  · simp only [poll, answer, hnext]; omega
  · simp only [poll, answer, hnext, LogBuffer.getSince_entries, List.drop_take, LogBuffer.unread,
      h.tracks.unread_eq, Nat.add_sub_cancel_left]
  · simp only [poll, answer, LogBuffer.getSince_evicted, Nat.card_Ico]

variable [DecidableEq ι]

def step (s : Polling ι) : PollOp ι → Polling ι
  | .append msg => { s with session := s.session.append msg }
  | .poll client limit =>
    { s with cursor := Function.update s.cursor client (s.answer filter client limit).nextIndex }

/-- The polls of one client, in order. -/
def polls (client : ι) (s : Polling ι) (ops : List (PollOp ι)) : List Poll :=
  (Run.visits (step filter) s ops).filterMap fun
    | (s, .poll c limit) => if c = client then some (s.poll filter c limit) else none
    | (_, .append _) => none

variable {filter}

theorem Ok.step {s : Polling ι} (h : s.Ok) (op : PollOp ι) : (s.step filter op).Ok := by
  cases op with
  | append msg =>
    refine ⟨h.tracks.append msg, fun client => ?_⟩
    have := h.bounded client
    simp only [Polling.step, Session.append, List.length_append]
    omega
  | poll client limit =>
    refine ⟨h.tracks, fun c => ?_⟩
    by_cases hc : c = client
    · subst hc
      have hle := s.session.buf.getSince_nextIndex_le (s.cursor c) limit (filter c)
      rw [h.tracks.length] at hle
      simpa [Polling.step, answer] using hle
    · simpa [Polling.step, hc] using h.bounded c

theorem Ok.polls_exact {s : Polling ι} (h : s.Ok) (client : ι) (ops : List (PollOp ι)) :
    ∀ p ∈ polls filter client s ops, p.Exact (filter client) := by
  intro p hp
  obtain ⟨⟨t, op⟩, hv, hr⟩ := List.mem_filterMap.mp hp
  have ht : t.Ok := Run.visits_invariant (I := Ok) (fun _ op h => Ok.step h op) h ops _ hv
  cases op with
  | append msg => simp at hr
  | poll c limit =>
    obtain ⟨rfl, rfl⟩ : c = client ∧ t.poll filter c limit = p := by simpa using hr
    exact ht.poll_exact c limit

/-- The cursors of a client's polls lead from its first cursor to its last one. -/
theorem polls_chained (client : ι) (s : Polling ι) (ops : List (PollOp ι)) :
    Intervals.Chained Poll.since (·.snap.nextIndex) (s.cursor client) (polls filter client s ops)
      ((ops.foldl (step filter) s).cursor client) := by
  induction ops generalizing s with
  | nil => rfl
  | cons op ops ih =>
    have tail := ih (s.step filter op)
    cases op with
    | append msg => simpa [polls, Run.visits, step] using tail
    | poll c limit =>
      by_cases hc : c = client
      · subst hc
        have head : polls filter c s (.poll c limit :: ops) =
            s.poll filter c limit :: polls filter c (s.step filter (.poll c limit)) ops := by
          simp [polls, Run.visits]
        rw [head]
        refine ⟨rfl, ?_⟩
        simpa [step, poll] using tail
      · have hne : client ≠ c := Ne.symm hc
        simpa [polls, Run.visits, step, hc, hne] using tail

end Polling

/-- Polling with a carried cursor, over every interleaving of appends and polls: each poll returns
the filtered history between its cursors, counts what was evicted, and no index is covered twice. -/
theorem polling_exact {ι : Type*} [DecidableEq ι] (filter : ι → Bytes) (ops : List (PollOp ι))
    (client : ι) :
    let polls := Polling.polls filter client {} ops
    let last := (ops.foldl (Polling.step filter) {}).cursor client
    (∀ p ∈ polls, p.Exact (filter client)) ∧
    Intervals.Chained Poll.since (·.snap.nextIndex) 0 polls last ∧
    (∀ j < last, ∃! k, ∃ hk : k < polls.length, Xor (polls[k].Scans j) (polls[k].Evicts j)) ∧
    (filter client = [] →
      (polls.map (·.snap.evicted)).sum + (polls.map (·.snap.entries.length)).sum = last) := by
  intro polls last
  have exact : ∀ p ∈ polls, p.Exact (filter client) := Polling.ok_empty.polls_exact client ops
  have chained : Intervals.Chained Poll.since (·.snap.nextIndex) 0 polls last :=
    Polling.polls_chained client {} ops
  have ordered : ∀ p ∈ polls, p.since ≤ p.snap.nextIndex := fun p hp => (exact p hp).advances
  refine ⟨exact, chained, fun j hj => ?_, fun hf => ?_⟩
  · have covered : ∀ k, (∃ hk : k < polls.length, Xor (polls[k].Scans j) (polls[k].Evicts j)) ↔
        ∃ hk : k < polls.length, polls[k].since ≤ j ∧ j < polls[k].snap.nextIndex := by
      intro k
      refine exists_congr fun hk => ?_
      have := (exact polls[k] (List.getElem_mem hk)).covers
      simp only [Xor, Poll.Scans, Poll.Evicts]
      omega
    simpa only [covered] using chained.existsUnique ordered (Nat.zero_le j) hj
  · have each : ∀ p ∈ polls, p.snap.evicted + p.snap.entries.length = p.snap.nextIndex - p.since :=
      fun p hp => Poll.Exact.length_entries (by simpa [hf] using exact p hp)
    have total := chained.sum ordered
    rw [← List.sum_map_add, List.map_congr_left each]
    simpa using total

end XAuto
