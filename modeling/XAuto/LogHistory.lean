import XAuto.LogBuffer
import XAuto.Window
import Mathlib.Algebra.Order.BigOperators.Group.List

namespace XAuto

def totalSize (entries : List Bytes) : Nat := (entries.map List.length).sum

/-- What the two caps of the buffer allow. -/
def Fits (entries : List Bytes) : Prop :=
  entries.length ≤ maxEntries ∧ totalSize entries ≤ maxBytes

instance : DecidablePred Fits := fun _ => inferInstanceAs (Decidable (_ ∧ _))

theorem totalSize_cons (x : Bytes) (xs : List Bytes) :
    totalSize (x :: xs) = x.length + totalSize xs := by
  simp [totalSize]

theorem totalSize_singleton (x : Bytes) : totalSize [x] = x.length := rfl

theorem totalSize_append (xs ys : List Bytes) :
    totalSize (xs ++ ys) = totalSize xs + totalSize ys := by
  simp [totalSize]

theorem Fits.of_sublist {xs ys : List Bytes} (hs : ys.Sublist xs) (h : Fits xs) : Fits ys :=
  ⟨hs.length_le.trans h.1, ((hs.map List.length).sum_le_sum fun _ _ => Nat.zero_le _).trans h.2⟩

theorem Fits.of_concat {xs : List Bytes} {x : Bytes} (h : Fits (xs ++ [x])) : Fits xs :=
  h.of_sublist (List.sublist_append_left xs [x])

theorem Fits.of_suffix {xs ys : List Bytes} (hs : ys <:+ xs) (h : Fits xs) : Fits ys :=
  h.of_sublist hs.sublist

theorem fits_singleton {x : Bytes} : Fits [x] ↔ x.length ≤ maxBytes := by
  have : 1 ≤ maxEntries := by decide
  simp [Fits, totalSize, this]

namespace LogBuffer

/-- Eviction pops some number of entries and moves the base index along with them. -/
theorem evictLoop_drop (size : Nat) (entries : List Bytes) (totalBytes baseIndex : Nat) :
    ∃ k, k ≤ entries.length ∧
      (evictLoop size entries totalBytes baseIndex).entries = entries.drop k ∧
      (evictLoop size entries totalBytes baseIndex).baseIndex = baseIndex + k := by
  induction entries generalizing totalBytes baseIndex with
  | nil => exact ⟨0, by simp, rfl, rfl⟩
  | cons front rest ih =>
    unfold evictLoop
    split
    · obtain ⟨k, hk, he, hb⟩ := ih (totalBytes - front.length) (baseIndex + 1)
      exact ⟨k + 1, by simpa using hk, by simpa using he, by omega⟩
    · exact ⟨0, by simp, rfl, rfl⟩

theorem append_drop (buf : LogBuffer) (s : Bytes) :
    ∃ k, k ≤ buf.entries.length ∧
      (buf.append (some s)).entries = buf.entries.drop k ++ [s] ∧
      (buf.append (some s)).baseIndex = buf.baseIndex + k := by
  obtain ⟨k, hk, he, hb⟩ := evictLoop_drop s.length buf.entries buf.totalBytes buf.baseIndex
  exact ⟨k, hk, by simp [append, he], by simp [append, hb]⟩

/-- After any appends the buffer holds the end of what it held followed by the new messages. -/
theorem appends_drop (buf : LogBuffer) (msgs : List (Option Bytes)) :
    ∃ k, k ≤ buf.entries.length + (msgs.filterMap id).length ∧
      (msgs.foldl append buf).entries = (buf.entries ++ msgs.filterMap id).drop k ∧
      (msgs.foldl append buf).baseIndex = buf.baseIndex + k := by
  induction msgs generalizing buf with
  | nil => exact ⟨0, by simp, by simp, rfl⟩
  | cons msg msgs ih =>
    cases msg with
    | none => simpa [append] using ih buf
    | some s =>
      obtain ⟨j, hj, he, hb⟩ := buf.append_drop s
      obtain ⟨k, hk, hke, hkb⟩ := ih (buf.append (some s))
      rw [he] at hk hke
      refine ⟨j + k, ?_, ?_, ?_⟩
      · simp at hk ⊢
        omega
      · have hjoin : buf.entries.drop j ++ [s] ++ msgs.filterMap id =
            (buf.entries ++ s :: msgs.filterMap id).drop j := by
          rw [List.drop_append_of_le_length hj]
          simp
        simp only [List.foldl_cons, hke, hjoin, List.drop_drop]
        simp
      · simp only [List.foldl_cons, hkb, hb]
        omega

/-- The byte counter is the size of what is retained. -/
def Counted (buf : LogBuffer) : Prop := buf.totalBytes = totalSize buf.entries

/-- With an exact counter the loop evicts until the retained entries fit with the new one. -/
theorem evictLoop_counted (s : Bytes) {entries : List Bytes} {totalBytes : Nat}
    (counted : totalBytes = totalSize entries) (baseIndex : Nat) :
    (evictLoop s.length entries totalBytes baseIndex).entries =
      Window.evict (fun xs => !decide (Fits (xs ++ [s]))) entries ∧
    (evictLoop s.length entries totalBytes baseIndex).Counted := by
  induction entries generalizing totalBytes baseIndex with
  | nil => exact ⟨rfl, by simpa [Counted, evictLoop] using counted⟩
  | cons front rest ih =>
    have hsize := totalSize_cons front rest
    have htest : ((front :: rest).length ≥ maxEntries ∨ totalBytes + s.length > maxBytes) ↔
        ¬Fits (front :: rest ++ [s]) := by
      simp only [Fits, totalSize_append, List.length_append, List.length_singleton, counted]
      simp only [totalSize, List.map_cons, List.map_nil, List.sum_cons, List.sum_nil]
      omega
    unfold evictLoop Window.evict
    by_cases hfit : Fits (front :: rest ++ [s])
    · rw [if_neg (fun h => htest.mp h hfit), if_neg (by simpa using hfit)]
      exact ⟨rfl, counted⟩
    · rw [if_pos (htest.mpr hfit), if_pos (by simpa using hfit)]
      exact ih (by omega) (baseIndex + 1)

theorem append_counted {buf : LogBuffer} (counted : buf.Counted) (s : Bytes) :
    (buf.append (some s)).entries = Window.push Fits buf.entries s ∧
    (buf.append (some s)).Counted := by
  obtain ⟨he, hc⟩ := evictLoop_counted s counted buf.baseIndex
  constructor
  · simp [append, he, Window.push]
  · simp only [Counted, append, totalSize_append] at hc ⊢
    simp [hc, totalSize]

end LogBuffer

/-- A log buffer next to everything appended to it since it was last cleared. -/
structure Session where
  buf : LogBuffer := {}
  history : List Bytes := []

namespace Session

def append (s : Session) (msg : Option Bytes) : Session :=
  { buf := s.buf.append msg, history := s.history ++ msg.toList }

def clear (s : Session) : Session := { buf := s.buf.clear, history := [] }

/-- The retained entries are the end of the history, and absolute indices are history indices. -/
structure Tracks (s : Session) : Prop where
  suffix : s.buf.entries <:+ s.history
  length : s.buf.baseIndex + s.buf.entries.length = s.history.length

theorem tracks_clear (s : Session) : s.clear.Tracks := ⟨List.suffix_rfl, rfl⟩

theorem Tracks.append {s : Session} (h : s.Tracks) (msg : Option Bytes) :
    (s.append msg).Tracks := by
  cases msg with
  | none => simpa [Session.append, LogBuffer.append] using h
  | some m =>
    obtain ⟨k, hk, he, hb⟩ := s.buf.append_drop m
    have hl := h.length
    refine ⟨?_, ?_⟩
    · simp only [Session.append, he, Option.toList_some]
      exact List.suffix_concat_iff.mpr
        (Or.inr ⟨_, rfl, (List.drop_suffix k _).trans h.suffix⟩)
    · simp only [Session.append, he, hb, Option.toList_some, List.length_append, List.length_drop]
      omega

theorem Tracks.entries_eq {s : Session} (h : s.Tracks) :
    s.buf.entries = s.history.drop s.buf.baseIndex := by
  have hl := h.length
  rw [List.suffix_iff_eq_drop.mp h.suffix]
  congr 1
  omega

/-- The unread entries of a cursor are the history from there on. -/
theorem Tracks.unread_eq {s : Session} (h : s.Tracks) (sinceIndex : Nat) :
    s.buf.entries.drop (sinceIndex - s.buf.baseIndex) =
      s.history.drop (max sinceIndex s.buf.baseIndex) := by
  rw [h.entries_eq, List.drop_drop]
  congr 1
  omega

end Session

end XAuto
