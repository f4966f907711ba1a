import XAuto.LogHistory
import XAuto.Run

namespace XAuto

/-- Where an append throws. -/
inductive AppendFault
  | copy
  | pushBack
  deriving DecidableEq, Repr

namespace LogBuffer

/-- The buffer that `append` leaves behind, statement by statement, when it may throw. -/
def appendFaulting (buf : LogBuffer) (fault : Option AppendFault) : Option Bytes → LogBuffer
  | none => buf
  | some s =>
    if fault = some .copy then buf
    else
      let room := evictLoop s.length buf.entries buf.totalBytes buf.baseIndex
      let counted := { room with totalBytes := room.totalBytes + s.length }
      if fault = some .pushBack then counted
      else { counted with entries := counted.entries ++ [s] }

theorem appendFaulting_none (buf : LogBuffer) (msg : Option Bytes) :
    buf.appendFaulting none msg = buf.append msg := by
  cases msg with
  | none => rfl
  | some s => rfl

/-- The byte counter is `lost` bytes above the size of what is retained. -/
def Drifted (lost : Nat) (buf : LogBuffer) : Prop :=
  buf.totalBytes = totalSize buf.entries + lost

/-- Eviction neither adds to a drift of the counter nor repairs it. -/
theorem evictLoop_drifted {size lost : Nat} {entries : List Bytes} {totalBytes : Nat}
    (h : totalBytes = totalSize entries + lost) (baseIndex : Nat) :
    (evictLoop size entries totalBytes baseIndex).Drifted lost := by
  induction entries generalizing totalBytes baseIndex with
  | nil => exact h
  | cons front rest ih =>
    have hsize := totalSize_cons front rest
    unfold evictLoop
    split
    · exact ih (by omega) (baseIndex + 1)
    · exact h

theorem append_drifted {buf : LogBuffer} {lost : Nat} (h : buf.Drifted lost) (msg : Option Bytes) :
    (buf.append msg).Drifted lost := by
  cases msg with
  | none => exact h
  | some s =>
    have hroom : (evictLoop s.length buf.entries buf.totalBytes buf.baseIndex).Drifted lost :=
      evictLoop_drifted h buf.baseIndex
    have hone := totalSize_singleton s
    unfold Drifted at hroom ⊢
    simp only [append, totalSize_append]
    omega

/-- A failed `push_back` leaves the size of the dropped message in the counter. -/
theorem pushBack_drifted {buf : LogBuffer} {lost : Nat} (h : buf.Drifted lost) (s : Bytes) :
    (buf.appendFaulting (some .pushBack) (some s)).Drifted (lost + s.length) := by
  have hroom : (evictLoop s.length buf.entries buf.totalBytes buf.baseIndex).Drifted lost :=
    evictLoop_drifted h buf.baseIndex
  unfold Drifted at hroom ⊢
  simp only [appendFaulting, reduceCtorEq, Option.some.injEq, if_false, if_true]
  omega

/-- A failed `push_back` has already evicted. -/
theorem pushBack_drop (buf : LogBuffer) (s : Bytes) :
    ∃ k, k ≤ buf.entries.length ∧
      (buf.appendFaulting (some .pushBack) (some s)).entries = buf.entries.drop k ∧
      (buf.appendFaulting (some .pushBack) (some s)).baseIndex = buf.baseIndex + k := by
  obtain ⟨k, hk, he, hb⟩ := evictLoop_drop s.length buf.entries buf.totalBytes buf.baseIndex
  exact ⟨k, hk, he, hb⟩

end LogBuffer

/-- What `capture_log` and a cleared log do to the buffer; an append may end by an exception. -/
inductive FaultOp
  | append (msg : Option Bytes) (fault : Option AppendFault)
  | clear
  deriving DecidableEq, Repr

namespace FaultOp

/-- A message with bytes in it that fails at `push_back`. -/
def Drifts : FaultOp → Prop
  | .append (some s) (some .pushBack) => s ≠ []
  | _ => False

end FaultOp

namespace Session

/-- One operation. The history holds the messages whose append completed. -/
def faultStep (s : Session) : FaultOp → Session
  | .append msg fault =>
    { buf := s.buf.appendFaulting fault msg
      history := if fault = none then s.history ++ msg.toList else s.history }
  | .clear => s.clear

theorem faultStep_completed (s : Session) (msg : Option Bytes) :
    s.faultStep (.append msg none) = s.append msg := by
  simp [faultStep, Session.append, LogBuffer.appendFaulting_none]

/-- The accounting of the buffer is right. -/
def Accounted (s : Session) : Prop :=
  s.buf.totalBytes = totalSize s.buf.entries ∧
    s.buf.baseIndex + s.buf.entries.length = s.history.length

theorem Tracks.faultStep {s : Session} (h : s.Tracks) (op : FaultOp) :
    (s.faultStep op).Tracks := by
  cases op with
  | clear => exact s.tracks_clear
  | append msg fault =>
    cases fault with
    | none =>
      rw [faultStep_completed]
      exact h.append msg
    | some fault =>
      cases msg with
      | none => exact h
      | some m =>
        cases fault with
        | copy => exact h
        | pushBack =>
          obtain ⟨k, hk, he, hb⟩ := s.buf.pushBack_drop m
          have hl := h.length
          have hlen := congrArg List.length he
          rw [List.length_drop] at hlen
          refine ⟨?_, ?_⟩
          · show (s.buf.appendFaulting (some .pushBack) (some m)).entries <:+ s.history
            rw [he]
            exact (List.drop_suffix k _).trans h.suffix
          · show (s.buf.appendFaulting (some .pushBack) (some m)).baseIndex +
              (s.buf.appendFaulting (some .pushBack) (some m)).entries.length = s.history.length
            omega

/-- An operation that does not drift keeps whatever drift there is, or resets it. -/
theorem drifted_faultStep {s : Session} {lost : Nat} (h : s.buf.Drifted lost) {op : FaultOp}
    (hop : ¬op.Drifts) : (s.faultStep op).buf.Drifted lost ∨ op = .clear := by
  cases op with
  | clear => exact Or.inr rfl
  | append msg fault =>
    left
    cases fault with
    | none =>
      rw [faultStep_completed]
      exact LogBuffer.append_drifted h msg
    | some fault =>
      cases msg with
      | none => exact h
      | some m =>
        cases fault with
        | copy => exact h
        | pushBack =>
          have empty : m = [] := not_not.mp hop
          have hdrift := LogBuffer.pushBack_drifted h m
          rwa [empty] at hdrift ⊢

/-- An operation that drifts does so in any state whose counter is not too low. -/
theorem drifted_of_drifts {s : Session} {lost : Nat} (h : s.buf.Drifted lost) {op : FaultOp}
    (hop : op.Drifts) : ∃ size, 0 < size ∧ (s.faultStep op).buf.Drifted (lost + size) := by
  match op, hop with
  | .append (some m) (some .pushBack), hop =>
    have hm : m ≠ [] := hop
    exact ⟨m.length, List.length_pos_iff.mpr hm, LogBuffer.pushBack_drifted h m⟩

/-- The counter is never too low. -/
theorem drifted_step {s : Session} (h : ∃ lost, s.buf.Drifted lost) (op : FaultOp) :
    ∃ lost, (s.faultStep op).buf.Drifted lost := by
  obtain ⟨lost, hlost⟩ := h
  by_cases hop : op.Drifts
  · obtain ⟨size, -, hdrift⟩ := drifted_of_drifts hlost hop
    exact ⟨lost + size, hdrift⟩
  · rcases drifted_faultStep hlost hop with hdrift | rfl
    · exact ⟨lost, hdrift⟩
    · exact ⟨0, rfl⟩

theorem counted_faultStep {s : Session} (h : s.buf.Counted) {op : FaultOp}
    (hop : ¬op.Drifts) : (s.faultStep op).buf.Counted := by
  have hzero : s.buf.Drifted 0 := h
  rcases drifted_faultStep hzero hop with hdrift | rfl
  · exact hdrift
  · rfl

end Session

/-- Along a run the accounting stays right exactly when no append of a message with bytes in it
fails at `push_back`. -/
theorem faulted_accounting_iff (ops : List FaultOp) :
    (∀ v ∈ Run.visits Session.faultStep {} ops, (v.1.faultStep v.2).Accounted) ↔
      ∀ op ∈ ops, ¬op.Drifts := by
  have tracks : Session.Tracks {} := ⟨List.suffix_rfl, rfl⟩
  have base : ∃ lost, ({} : Session).buf.Drifted lost := ⟨0, rfl⟩
  have sound : Session.Tracks {} ∧ ({} : Session).buf.Counted := ⟨tracks, rfl⟩
  have necessary (s : Session) (op : FaultOp) (h : ∃ lost, s.buf.Drifted lost)
      (ha : (s.faultStep op).Accounted) : ¬op.Drifts := by
    intro hop
    obtain ⟨lost, hlost⟩ := h
    obtain ⟨size, hpos, hdrift⟩ := Session.drifted_of_drifts hlost hop
    have hcount := ha.1
    unfold LogBuffer.Drifted at hdrift
    omega
  have preserved (s : Session) (op : FaultOp) (h : s.Tracks ∧ s.buf.Counted)
      (hop : ¬op.Drifts) : (s.faultStep op).Tracks ∧ (s.faultStep op).buf.Counted :=
    ⟨h.1.faultStep op, Session.counted_faultStep h.2 hop⟩
  have sufficient (s : Session) (op : FaultOp) (h : s.Tracks ∧ s.buf.Counted)
      (hop : ¬op.Drifts) : (s.faultStep op).Accounted :=
    ⟨(preserved s op h hop).2, (preserved s op h hop).1.length⟩
  have guarded := Run.visits_iff_guard (fun _ op h => Session.drifted_step h op) preserved
    necessary sufficient base sound ops
  exact guarded.trans (Run.forall_visits (p := fun op : FaultOp => ¬op.Drifts))

/-- A message of one byte that fails at `push_back` stays in the counter. -/
theorem failed_append_counts :
    ¬∀ ops : List FaultOp,
      ∀ v ∈ Run.visits Session.faultStep {} ops, (v.1.faultStep v.2).Accounted := by
  intro h
  have hc := h [.append (some (bytes "a")) (some .pushBack)] (_, _) (List.mem_singleton_self _)
  exact absurd hc.1 (by decide)

end XAuto
