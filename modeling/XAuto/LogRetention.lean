import XAuto.LogHistory
import XAuto.Run

namespace XAuto

inductive LogOp
  | append (msg : Option Bytes)
  | clear
  deriving DecidableEq, Repr

namespace Session

def step (s : Session) : LogOp → Session
  | .append msg => s.append msg
  | .clear => s.clear

/-- What a run of appends and clears keeps true. -/
structure Kept (s : Session) : Prop where
  tracks : s.Tracks
  counted : s.buf.Counted
  retains : Window.Retains Fits s.history s.buf.entries
  newest : ∀ init last, s.history = init ++ [last] →
    if last.length ≤ maxBytes then Fits s.buf.entries else s.buf.entries = [last]

theorem kept_empty (s : Session) : s.clear.Kept where
  tracks := s.tracks_clear
  counted := rfl
  retains := Window.Retains.nil Fits
  newest := by simp [clear]

theorem Kept.append {s : Session} (h : s.Kept) (msg : Option Bytes) : (s.append msg).Kept := by
  cases msg with
  | none => simpa [Session.append, LogBuffer.append] using h
  | some m =>
    obtain ⟨hpush, hcount⟩ := LogBuffer.append_counted h.counted m
    refine ⟨h.tracks.append _, hcount, ?_, ?_⟩
    · simp only [Session.append, hpush, Option.toList_some]
      exact h.retains.push (fun _ _ => Fits.of_concat) m
    · intro init last eq
      obtain ⟨-, rfl⟩ : s.history = init ∧ m = last := by simpa [Session.append] using eq
      simp only [Session.append, hpush]
      split
      next hm => exact Window.push_holds _ (fits_singleton.mpr hm)
      next hm =>
        have hlarge : ¬Fits [m] := fun hf => hm (fits_singleton.mp hf)
        exact Window.push_oversized (fun _ _ => Fits.of_suffix) _ hlarge

theorem Kept.step {s : Session} (h : s.Kept) (op : LogOp) : (s.step op).Kept := by
  cases op with
  | append msg => exact h.append msg
  | clear => exact s.kept_empty

theorem kept_run (ops : List LogOp) : (ops.foldl step {}).Kept :=
  Run.foldl_invariant (fun _ op h => h.step op) (kept_empty {}) ops

theorem Kept.fits {s : Session} (h : s.Kept)
    (hsmall : ∀ last ∈ s.history.getLast?, last.length ≤ maxBytes) : Fits s.buf.entries := by
  rcases List.eq_nil_or_concat' s.history with hnil | ⟨init, last, eq⟩
  · have none : s.buf.entries = [] := by simpa [hnil] using h.tracks.suffix
    simp [none, Fits, totalSize]
  · have hl := hsmall last (by simp [eq])
    simpa [hl] using h.newest init last eq

/-- A non-empty history always keeps its last message. -/
theorem Kept.getLast {s : Session} (h : s.Kept) : s.buf.entries.getLast? = s.history.getLast? := by
  rcases List.eq_nil_or_concat' s.history with hnil | ⟨init, last, eq⟩
  · have none : s.buf.entries = [] := by simpa [hnil] using h.tracks.suffix
    simp [none, hnil]
  · have hn := h.newest init last eq
    split at hn
    next hl =>
      have hs : [last] <:+ s.buf.entries :=
        h.retains.longest [last] (by simp [eq]) (fits_singleton.mpr hl)
      obtain ⟨pre, hpre⟩ := hs
      simp [eq, ← hpre]
    next => simp [eq, hn]

/-- The retained entries are the longest suffix of the history that the two caps allow, or the
newest message alone when it is too large by itself. -/
theorem retained_longest_suffix (ops : List LogOp) :
    let s := ops.foldl step {}
    s.buf.entries <:+ s.history ∧
    s.buf.baseIndex + s.buf.entries.length = s.history.length ∧
    s.buf.entries.getLast? = s.history.getLast? ∧
    (∀ newest ∈ s.history.getLast?, maxBytes < newest.length → s.buf.entries = [newest]) ∧
    ((∀ newest ∈ s.history.getLast?, newest.length ≤ maxBytes) →
      Fits s.buf.entries ∧
      ∀ other, other <:+ s.history → Fits other → other.length ≤ s.buf.entries.length) := by
  intro s
  have h : s.Kept := kept_run ops
  refine ⟨h.tracks.suffix, h.tracks.length, h.getLast, ?_, ?_⟩
  · intro newest hm hlarge
    obtain ⟨init, eq⟩ := List.getLast?_eq_some_iff.mp hm
    have hn := h.newest init newest eq
    rwa [if_neg (by omega)] at hn
  · intro hsmall
    exact ⟨h.fits hsmall, fun other hs hf => (h.retains.longest other hs hf).length_le⟩

end Session

end XAuto
