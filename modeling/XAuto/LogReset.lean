import XAuto.LogHistory
import XAuto.LogQuery
import XAuto.Run

namespace XAuto

inductive CarryOp
  | append (msg : Option Bytes)
  | clear
  | poll
  deriving DecidableEq, Repr

/-- One client that carries its cursor across debug sessions. `returned` are the indices of the
current log it has been given, `stale` says that the log was cleared since its last poll. -/
structure Carried where
  session : Session := {}
  cursor : Nat := 0
  stale : Bool := false
  returned : List Nat := []

namespace Carried

def snap (s : Carried) : LogBuffer.Snapshot := s.session.buf.getSince s.cursor

/-- The index of the first entry a poll returns: its entries end just before `next_index`. -/
def first (s : Carried) : Nat := s.snap.nextIndex - s.snap.entries.length

def step (s : Carried) : CarryOp → Carried
  | .append msg => { s with session := s.session.append msg }
  | .clear => { s with session := s.session.clear, stale := true, returned := [] }
  | .poll =>
    { s with
      cursor := s.snap.nextIndex
      stale := false
      returned := s.returned ++ List.range' s.first s.snap.entries.length }

/-- A poll now returns every retained entry that the client has not been given. -/
def Complete (s : Carried) : Prop :=
  ∀ j, s.session.buf.baseIndex ≤ j → j < s.session.history.length → j ∉ s.returned →
    s.first ≤ j ∧ s.snap.entries[j - s.first]? = s.session.history[j]?

/-- A cursor left over from before a `clear()` has nothing of the new log behind it. -/
def Restarts (s : Carried) : Prop :=
  s.stale = true → s.cursor ≤ s.session.buf.baseIndex ∨ s.session.buf.entries = []

theorem snap_entries (s : Carried) : s.snap.entries = s.session.buf.unread s.cursor :=
  (s.session.buf.getSince_all s.cursor).1

theorem snap_nextIndex {s : Carried} (h : s.session.Tracks) :
    s.snap.nextIndex = s.session.history.length := by
  rw [← h.length]
  exact (s.session.buf.getSince_all s.cursor).2

theorem first_eq {s : Carried} (h : s.session.Tracks) :
    s.first = min (max s.cursor s.session.buf.baseIndex) s.session.history.length := by
  have hl := h.length
  rw [first, snap_nextIndex h, snap_entries, LogBuffer.length_unread]
  omega

theorem snap_getElem {s : Carried} (h : s.session.Tracks) {j : Nat} (hj : s.first ≤ j)
    (hlen : j < s.session.history.length) :
    s.snap.entries[j - s.first]? = s.session.history[j]? := by
  rw [first_eq h] at hj ⊢
  rw [snap_entries, LogBuffer.unread, h.unread_eq, List.getElem?_drop]
  congr 1
  omega

theorem mem_returned {s : Carried} (h : s.session.Tracks) {j : Nat} :
    j ∈ (s.step .poll).returned ↔
      j ∈ s.returned ∨ (s.first ≤ j ∧ j < s.session.history.length) := by
  have hl := h.length
  have hf := first_eq h
  have hlen : s.snap.entries.length = s.session.history.length - s.first := by
    rw [snap_entries, LogBuffer.length_unread]
    omega
  have hend : s.first + (s.session.history.length - s.first) = s.session.history.length := by omega
  simp only [step, List.mem_append, List.mem_range'_1, hlen, hend]

structure Base (s : Carried) : Prop where
  tracks : s.session.Tracks
  fresh : s.stale = true → s.returned = []

theorem Base.step {s : Carried} (h : s.Base) (op : CarryOp) : (s.step op).Base := by
  cases op with
  | append msg => exact ⟨h.tracks.append msg, h.fresh⟩
  | clear => exact ⟨s.session.tracks_clear, fun _ => rfl⟩
  | poll => exact ⟨h.tracks, fun hs => by simp [Carried.step] at hs⟩

/-- A left-over cursor inside or past the new log skips its first retained entry. -/
theorem Base.restarts {s : Carried} (h : s.Base) (hc : s.Complete) : s.Restarts := by
  intro hs
  by_contra hn
  rw [not_or] at hn
  have hne : 0 < s.session.buf.entries.length := List.length_pos_iff.mpr hn.2
  have hl := h.tracks.length
  have hskip := (hc s.session.buf.baseIndex le_rfl (by omega) (by simp [h.fresh hs])).1
  rw [first_eq h.tracks] at hskip
  omega

/-- Everything behind an up-to-date cursor has been returned. -/
structure Caught (s : Carried) : Prop where
  tracks : s.session.Tracks
  bounded : s.stale = false → s.cursor ≤ s.session.history.length
  behind : s.stale = false → ∀ j, s.session.buf.baseIndex ≤ j → j < s.cursor → j ∈ s.returned

theorem Caught.complete {s : Carried} (h : s.Caught) (hr : s.Restarts) : s.Complete := by
  intro j hj hlen hnew
  have hfirst : s.first ≤ j := by
    rw [first_eq h.tracks]
    cases hs : s.stale with
    | true =>
      rcases hr hs with hle | hnil
      · omega
      · have hl := h.tracks.length
        simp only [hnil, List.length_nil] at hl
        omega
    | false =>
      by_contra hlt
      exact hnew (h.behind hs j hj (by omega))
  exact ⟨hfirst, snap_getElem h.tracks hfirst hlen⟩

theorem Caught.step {s : Carried} (h : s.Caught) (op : CarryOp)
    (hr : op = .poll → s.Restarts) : (s.step op).Caught := by
  cases op with
  | append msg =>
    obtain ⟨k, hk⟩ : ∃ k, (s.session.append msg).buf.baseIndex = s.session.buf.baseIndex + k := by
      cases msg with
      | none => exact ⟨0, rfl⟩
      | some m =>
        obtain ⟨k, -, -, hb⟩ := s.session.buf.append_drop m
        exact ⟨k, hb⟩
    refine ⟨h.tracks.append msg, fun hs => ?_, fun hs j hj hlt => ?_⟩
    · have := h.bounded hs
      simp only [Carried.step, Session.append, List.length_append]
      omega
    · exact h.behind hs j (by simp only [Carried.step, hk] at hj; omega) hlt
  | clear => exact ⟨s.session.tracks_clear, by simp [Carried.step], by simp [Carried.step]⟩
  | poll =>
    have hnext := snap_nextIndex h.tracks
    refine ⟨h.tracks, fun _ => by simp [Carried.step, hnext], fun _ j hj hlt => ?_⟩
    have hlen : j < s.session.history.length := by simpa [Carried.step, hnext] using hlt
    rw [mem_returned h.tracks]
    by_contra hnot
    rw [not_or] at hnot
    exact hnot.2 ⟨(h.complete (hr rfl) j hj hlen hnot.1).1, hlen⟩

end Carried

/-- Along a run, no poll skips a retained entry of the current log exactly when every poll with a
left-over cursor finds that cursor at or below `base_index`, or an empty log. -/
theorem carried_polls_complete_iff (ops : List CarryOp) :
    (∀ v ∈ Run.visits Carried.step {} ops, v.2 = .poll → v.1.Complete) ↔
      ∀ v ∈ Run.visits Carried.step {} ops, v.2 = .poll → v.1.Restarts := by
  have base : Carried.Base {} := ⟨⟨List.suffix_rfl, rfl⟩, fun _ => rfl⟩
  have caught : Carried.Caught {} := ⟨⟨List.suffix_rfl, rfl⟩, by simp, by simp⟩
  have necessary (s : Carried) (op : CarryOp) (h : s.Base) (hc : op = .poll → s.Complete) :
      op = .poll → s.Restarts := fun hp => h.restarts (hc hp)
  have sufficient (s : Carried) (op : CarryOp) (h : s.Caught) (hr : op = .poll → s.Restarts) :
      op = .poll → s.Complete := fun hp => h.complete (hr hp)
  exact Run.visits_iff_guard (fun _ op h => h.step op) (fun _ op h hr => h.step op hr) necessary
    sufficient base caught ops

/-- A cursor at the end of a one-line session skips the first line of the next one. -/
theorem carried_cursor_skips_line :
    ¬∀ ops : List CarryOp,
      ∀ v ∈ Run.visits Carried.step {} ops, v.2 = .poll → v.1.Complete := by
  intro h
  have hc := h [.append (some (bytes "a")), .poll, .clear, .append (some (bytes "b")), .poll]
    (_, .poll) (List.mem_of_getElem? (i := 4) rfl) rfl
  exact absurd (hc 0 (by decide) (by decide) (by decide)).1 (by decide)

end XAuto
