import XAuto.LogRetention
import XAuto.Registers
import Mathlib.Logic.Relation

namespace XAuto

/-- Its message, if any, is shorter than `n` bytes. -/
def LogOp.Shorter (n : Nat) : LogOp → Prop
  | .append msg => ∀ s ∈ msg, s.length < n
  | .clear => True

instance (n : Nat) : DecidablePred (LogOp.Shorter n)
  | .append msg => inferInstanceAs (Decidable (∀ s ∈ msg, s.length < n))
  | .clear => .isTrue trivial

/-- `LogBuffer` with its counters in a `size_t` of `w` bits. -/
structure WordBuffer (w : Nat) where
  entries : List Bytes := []
  baseIndex : BitVec w := 0
  totalBytes : BitVec w := 0
  deriving DecidableEq, Repr

namespace WordBuffer

variable {w : Nat}

/-- `s.size()`. -/
def size (w : Nat) (s : Bytes) : BitVec w := BitVec.ofNat w s.length

/-- The test of the eviction loop of `append`. -/
def MustEvict (s : Bytes) (buf : WordBuffer w) : Prop :=
  buf.entries ≠ [] ∧
    (BitVec.ofNat w buf.entries.length ≥ BitVec.ofNat w maxEntries ∨
      buf.totalBytes + size w s > BitVec.ofNat w maxBytes)

instance (s : Bytes) (buf : WordBuffer w) : Decidable (buf.MustEvict s) :=
  inferInstanceAs (Decidable (_ ∧ _))

/-- The body of that loop. -/
def evictFront (buf : WordBuffer w) : WordBuffer w :=
  match buf.entries with
  | [] => buf
  | front :: rest =>
    { entries := rest
      totalBytes := buf.totalBytes - size w front
      baseIndex := buf.baseIndex + 1 }

theorem entries_evictFront (buf : WordBuffer w) : buf.evictFront.entries = buf.entries.tail := by
  unfold evictFront
  split
  next h => rw [h]; rfl
  next h => rw [h]; rfl

def evictLoop (s : Bytes) (buf : WordBuffer w) : WordBuffer w :=
  if buf.MustEvict s then evictLoop s buf.evictFront else buf
termination_by buf.entries.length
decreasing_by
  next h =>
    rw [entries_evictFront, List.length_tail]
    exact Nat.sub_lt (List.length_pos_iff.mpr h.1) Nat.one_pos

/-- `none` is a null pointer. -/
def append (buf : WordBuffer w) : Option Bytes → WordBuffer w
  | none => buf
  | some s =>
    let room := buf.evictLoop s
    { room with totalBytes := room.totalBytes + size w s, entries := room.entries ++ [s] }

def clear (_ : WordBuffer w) : WordBuffer w :=
  { entries := [], totalBytes := 0, baseIndex := 0 }

def step (buf : WordBuffer w) : LogOp → WordBuffer w
  | .append msg => buf.append msg
  | .clear => buf.clear

/-- The eviction loop gets from one test to a later one. -/
def Evicts (s : Bytes) : WordBuffer w → WordBuffer w → Prop :=
  Relation.ReflTransGen fun buf next => buf.MustEvict s ∧ next = buf.evictFront

theorem evictLoop_spec (s : Bytes) (buf : WordBuffer w) :
    Evicts s buf (buf.evictLoop s) ∧ ¬(buf.evictLoop s).MustEvict s := by
  fun_induction evictLoop s buf with
  | case1 buf h ih => exact ⟨.head ⟨h, rfl⟩ ih.1, ih.2⟩
  | case2 buf h => exact ⟨.refl, h⟩

/-- From every test on the loop ends where it would have ended. -/
theorem evictLoop_of_evicts {s : Bytes} {buf test : WordBuffer w} (run : Evicts s buf test) :
    test.evictLoop s = buf.evictLoop s := by
  induction run with
  | refl => rfl
  | tail _ turn ih =>
    obtain ⟨evict, rfl⟩ := turn
    rw [evictLoop, if_pos evict] at ih
    exact ih

/-- The size of the newest entry, 0 without any. -/
def newestSize (entries : List Bytes) : Nat := (entries.getLastD []).length

/-- The byte counter is the size of the entries, and that size is bounded. -/
structure Exact (buf : WordBuffer w) : Prop where
  counted : buf.totalBytes.toNat = totalSize buf.entries
  bounded : totalSize buf.entries ≤ max maxBytes (newestSize buf.entries)

/-- At a test of the eviction loop nothing wraps and nothing borrows. -/
structure ExactTest (s : Bytes) (buf : WordBuffer w) : Prop where
  exact : buf.Exact
  noBorrow : ∀ front ∈ buf.entries.head?, (size w front).toNat = front.length ∧
    BitVec.usubOverflow buf.totalBytes (size w front) = false
  noWrap : (size w s).toNat = s.length ∧
    BitVec.uaddOverflow buf.totalBytes (size w s) = false
  decides : buf.totalBytes + size w s > BitVec.ofNat w maxBytes ↔
    totalSize buf.entries + s.length > maxBytes

/-- The eviction loop of an `append` goes to the buffer that the message is put in by tests that
are exact. -/
structure ExactLoop (s : Bytes) (buf : WordBuffer w) : Prop where
  ends : Evicts s buf (buf.evictLoop s) ∧ ¬(buf.evictLoop s).MustEvict s
  tests : ∀ test, Evicts s buf test → Evicts s test (buf.evictLoop s) ∧ ExactTest s test

/-- The invariant that keeps the counter exact: both caps hold but for an oversized newest entry,
which is shorter than half the range of a word. -/
structure Sound (buf : WordBuffer w) : Prop where
  exact : buf.Exact
  few : buf.entries.length ≤ maxEntries
  short : newestSize buf.entries < 2 ^ (w - 1)

theorem sound_clear (buf : WordBuffer w) : buf.clear.Sound where
  exact := ⟨by simp [clear, totalSize], Nat.zero_le _⟩
  few := Nat.zero_le _
  short := Nat.two_pow_pos _

section Wide

variable (wide : maxBytes < 2 ^ (w - 1)) {buf : WordBuffer w} {s : Bytes}
include wide

theorem two_halves : 2 ^ (w - 1) + 2 ^ (w - 1) = 2 ^ w := by
  have positive : w ≠ 0 := by
    rintro rfl
    exact absurd wide (by decide)
  rw [← Nat.two_mul, ← Nat.pow_succ', Nat.succ_eq_add_one, Nat.sub_add_cancel (by omega)]

theorem size_toNat (h : s.length < 2 ^ (w - 1)) : (size w s).toNat = s.length := by
  have halves := two_halves wide
  rw [size, BitVec.toNat_ofNat, Nat.mod_eq_of_lt (by omega)]

theorem Sound.total_lt (h : buf.Sound) : totalSize buf.entries < 2 ^ (w - 1) := by
  have bounded := h.exact.bounded
  have short := h.short
  omega

theorem Sound.exactTest (h : buf.Sound) (hs : s.length < 2 ^ (w - 1)) : ExactTest s buf := by
  have halves := two_halves wide
  have total := h.total_lt wide
  have counted := h.exact.counted
  have sum : (buf.totalBytes + size w s).toNat = totalSize buf.entries + s.length := by
    rw [BitVec.toNat_add, counted, size_toNat wide hs, Nat.mod_eq_of_lt (by omega)]
  refine ⟨h.exact, fun front hf => ?_, ⟨size_toNat wide hs, ?_⟩, ?_⟩
  · obtain ⟨rest, eq⟩ := List.head?_eq_some_iff.mp hf
    have part : totalSize buf.entries = front.length + totalSize rest := by
      rw [eq, totalSize_cons]
    have exact := size_toNat wide (s := front) (by omega)
    refine ⟨exact, ?_⟩
    rw [BitVec.usubOverflow, decide_eq_false_iff_not, counted, exact]
    omega
  · rw [BitVec.uaddOverflow, decide_eq_false_iff_not, counted, size_toNat wide hs]
    omega
  · rw [gt_iff_lt, BitVec.lt_def, sum, BitVec.toNat_ofNat, Nat.mod_eq_of_lt (by omega)]

/-- The whole test decides what it does over the natural numbers. -/
theorem Sound.mustEvict_iff (h : buf.Sound) (hs : s.length < 2 ^ (w - 1)) :
    buf.MustEvict s ↔ buf.entries ≠ [] ∧
      (buf.entries.length ≥ maxEntries ∨ totalSize buf.entries + s.length > maxBytes) := by
  have halves := two_halves wide
  have few := h.few
  have caps : maxEntries ≤ maxBytes := by decide
  have count : BitVec.ofNat w buf.entries.length ≥ BitVec.ofNat w maxEntries ↔
      buf.entries.length ≥ maxEntries := by
    rw [ge_iff_le, BitVec.le_def, BitVec.toNat_ofNat, BitVec.toNat_ofNat,
      Nat.mod_eq_of_lt (by omega), Nat.mod_eq_of_lt (by omega)]
  rw [MustEvict, count, (h.exactTest wide hs).decides]

theorem Sound.evictFront (h : buf.Sound) : buf.evictFront.Sound := by
  have total := h.total_lt wide
  have counted := h.exact.counted
  have bounded := h.exact.bounded
  have few := h.few
  have short := h.short
  unfold WordBuffer.evictFront
  split
  next => exact h
  next front rest eq =>
    rw [eq] at counted bounded few short total
    have part := totalSize_cons front rest
    have exact := size_toNat wide (s := front) (by omega)
    have left : (buf.totalBytes - size w front).toNat = totalSize rest := by
      rw [BitVec.toNat_sub_of_le (by rw [BitVec.le_def]; omega), counted, exact]
      omega
    have fewer : rest.length ≤ maxEntries := by
      rw [List.length_cons] at few
      omega
    cases rest with
    | nil =>
      -- an oversized entry is the newest one and leaves the buffer empty
      exact ⟨⟨left, Nat.zero_le _⟩, fewer, Nat.two_pow_pos _⟩
    | cons second rest =>
      have same : newestSize (front :: second :: rest) = newestSize (second :: rest) := rfl
      rw [same] at bounded short
      have smaller : totalSize (second :: rest) ≤ max maxBytes (newestSize (second :: rest)) := by
        omega
      exact ⟨⟨left, smaller⟩, fewer, short⟩

theorem Sound.of_evicts {buf' : WordBuffer w} (h : buf.Sound) (run : Evicts s buf buf') :
    buf'.Sound := by
  induction run with
  | refl => exact h
  | tail _ step ih =>
    rw [step.2]
    exact ih.evictFront wide

/-- What the loop leaves has room for the message. -/
theorem Sound.fits_concat (h : buf.Sound) (hs : s.length < 2 ^ (w - 1))
    (stop : ¬buf.MustEvict s) : (buf.entries ++ [s]).length ≤ maxEntries ∧
      totalSize (buf.entries ++ [s]) ≤ max maxBytes s.length := by
  rw [h.mustEvict_iff wide hs] at stop
  rw [totalSize_append, List.length_append]
  by_cases empty : buf.entries = []
  · have one : 1 ≤ maxEntries := by decide
    simpa [empty, totalSize] using one
  · have unfilled : ¬(buf.entries.length ≥ maxEntries ∨
        totalSize buf.entries + s.length > maxBytes) := fun h => stop ⟨empty, h⟩
    have single := totalSize_singleton s
    have one : [s].length = 1 := rfl
    omega

theorem Sound.append (h : buf.Sound) {msg : Option Bytes}
    (hs : ∀ s ∈ msg, s.length < 2 ^ (w - 1)) : (buf.append msg).Sound := by
  cases msg with
  | none => exact h
  | some s =>
    have hs : s.length < 2 ^ (w - 1) := hs s rfl
    have halves := two_halves wide
    obtain ⟨run, stop⟩ := buf.evictLoop_spec s
    have room := h.of_evicts wide run
    have total := room.total_lt wide
    have sum : ((buf.evictLoop s).totalBytes + size w s).toNat =
        totalSize ((buf.evictLoop s).entries ++ [s]) := by
      rw [BitVec.toNat_add, room.exact.counted, size_toNat wide hs, Nat.mod_eq_of_lt (by omega),
        totalSize_append]
      rfl
    have newest : newestSize ((buf.evictLoop s).entries ++ [s]) = s.length := by
      simp [newestSize]
    obtain ⟨few, bounded⟩ := room.fits_concat wide hs stop
    rw [← newest] at bounded hs
    exact ⟨⟨sum, bounded⟩, few, hs⟩

theorem Sound.step (h : buf.Sound) {op : LogOp} (short : op.Shorter (2 ^ (w - 1))) :
    (buf.step op).Sound := by
  cases op with
  | append msg => exact h.append wide short
  | clear => exact buf.sound_clear

theorem sound_run {ops : List LogOp} (short : ∀ op ∈ ops, op.Shorter (2 ^ (w - 1))) :
    (ops.foldl WordBuffer.step ({} : WordBuffer w)).Sound :=
  Run.foldl_guarded (G := fun _ op => LogOp.Shorter (2 ^ (w - 1)) op)
    (fun _ _ h hop => h.step wide hop) (sound_clear {}) (Run.forall_visits.mpr short)

end Wide

theorem Sound.exactLoop (wide : maxBytes < 2 ^ (w - 1)) {s : Bytes} {buf : WordBuffer w}
    (h : buf.Sound) (hs : s.length < 2 ^ (w - 1)) : ExactLoop s buf where
  ends := buf.evictLoop_spec s
  tests test run := by
    have later := (test.evictLoop_spec s).1
    rw [evictLoop_of_evicts run] at later
    exact ⟨later, (h.of_evicts wide run).exactTest wide hs⟩

theorem wide_bits (bitness : Bitness) : maxBytes < 2 ^ (bitness.bits - 1) := by
  cases bitness <;> decide

/-- In a run of messages shorter than half the range of `size_t` the byte counter is exact after
every operation and at every test of the eviction loop, where no word wraps or borrows. -/
theorem counter_exact (bitness : Bitness) {ops : List LogOp}
    (short : ∀ op ∈ ops, op.Shorter (2 ^ (bitness.bits - 1))) :
    (∀ before, before <+: ops → (before.foldl step ({} : WordBuffer bitness.bits)).Exact) ∧
    ∀ v ∈ Run.visits step ({} : WordBuffer bitness.bits) ops,
      ∀ s, v.2 = .append (some s) → ExactLoop s v.1 := by
  have wide := wide_bits bitness
  constructor
  · intro before hbefore
    exact (sound_run wide fun op hop => short op (hbefore.subset hop)).exact
  · intro v hv s hop
    obtain ⟨before, rest, eq, hstate⟩ := Run.mem_visits.mp hv
    have sound : v.1.Sound := by
      rw [hstate]
      refine sound_run wide fun op hop => short op ?_
      rw [eq]
      exact List.mem_append_left _ hop
    have hs : s.length < 2 ^ (bitness.bits - 1) := by
      have shorter := short v.2 (by rw [eq]; simp)
      rw [hop] at shorter
      exact shorter s rfl
    exact sound.exactLoop wide hs

theorem counter_exact_two_messages :
    let ops : List LogOp := [.append (some (bytes "a\n")), .clear, .append (some (bytes "b"))]
    (∀ before, before <+: ops → (before.foldl step ({} : WordBuffer (Bitness.bits .x86))).Exact) ∧
    ∀ v ∈ Run.visits step ({} : WordBuffer (Bitness.bits .x86)) ops,
      ∀ s, v.2 = .append (some s) → ExactLoop s v.1 :=
  counter_exact .x86 (by decide)

end WordBuffer

/-- The buffer with its counters cut to words. -/
def LogBuffer.toWords (w : Nat) (buf : LogBuffer) : WordBuffer w :=
  ⟨buf.entries, BitVec.ofNat w buf.baseIndex, BitVec.ofNat w buf.totalBytes⟩

namespace WordBuffer

variable {w : Nat}

section Refinement

variable (wide : maxBytes < 2 ^ (w - 1)) {s : Bytes}
include wide

theorem evictFront_toWords {front : Bytes} {rest : List Bytes} {totalBytes : Nat}
    (counted : totalBytes = totalSize (front :: rest)) (small : totalBytes < 2 ^ (w - 1))
    (baseIndex : Nat) :
    (LogBuffer.toWords w ⟨front :: rest, baseIndex, totalBytes⟩).evictFront =
      LogBuffer.toWords w ⟨rest, baseIndex + 1, totalBytes - front.length⟩ := by
  have halves := two_halves wide
  have part := totalSize_cons front rest
  have left : BitVec.ofNat w totalBytes - size w front =
      BitVec.ofNat w (totalBytes - front.length) :=
    BitVec.ofNat_sub_ofNat_of_le _ _ (by omega) (by omega)
  simp [evictFront, LogBuffer.toWords, left, BitVec.ofNat_add]

/-- The eviction loop on words does what it does on numbers. -/
theorem evictLoop_toWords (hs : s.length < 2 ^ (w - 1)) {entries : List Bytes}
    {totalBytes baseIndex : Nat} (counted : totalBytes = totalSize entries)
    (sound : (LogBuffer.toWords w ⟨entries, baseIndex, totalBytes⟩).Sound) :
    (LogBuffer.toWords w ⟨entries, baseIndex, totalBytes⟩).evictLoop s =
      (LogBuffer.evictLoop s.length entries totalBytes baseIndex).toWords w := by
  induction entries generalizing totalBytes baseIndex with
  | nil =>
    rw [evictLoop, if_neg fun h => h.1 rfl]
    rfl
  | cons front rest ih =>
    have small := sound.total_lt wide
    have test : (LogBuffer.toWords w ⟨front :: rest, baseIndex, totalBytes⟩).MustEvict s ↔
        (front :: rest).length ≥ maxEntries ∨ totalBytes + s.length > maxBytes := by
      rw [sound.mustEvict_iff wide hs, counted]
      exact and_iff_right (List.cons_ne_nil front rest)
    have next := evictFront_toWords wide counted (counted ▸ small) baseIndex
    have part := totalSize_cons front rest
    rw [evictLoop, LogBuffer.evictLoop]
    by_cases evict : (front :: rest).length ≥ maxEntries ∨ totalBytes + s.length > maxBytes
    · rw [if_pos evict, if_pos (test.mpr evict), next]
      exact ih (by omega) (next ▸ sound.evictFront wide)
    · rw [if_neg evict, if_neg fun h => evict (test.mp h)]

theorem append_toWords {buf : LogBuffer} (counted : buf.Counted)
    (sound : (buf.toWords w).Sound) {msg : Option Bytes}
    (hs : ∀ s ∈ msg, s.length < 2 ^ (w - 1)) :
    (buf.toWords w).append msg = (buf.append msg).toWords w := by
  cases msg with
  | none => rfl
  | some s =>
    have room := evictLoop_toWords wide (hs s rfl) counted sound
    simp only [append, LogBuffer.append, room]
    simp [LogBuffer.toWords, size, BitVec.ofNat_add]

theorem step_toWords {session : Session} (counted : session.buf.Counted)
    (sound : (session.buf.toWords w).Sound) {op : LogOp} (short : op.Shorter (2 ^ (w - 1))) :
    (session.buf.toWords w).step op = (session.step op).buf.toWords w := by
  cases op with
  | append msg => exact append_toWords wide counted sound short
  | clear => rfl

/-- What the words hold is what the numbers come to, cut to words. -/
theorem run_toWords {ops : List LogOp} (short : ∀ op ∈ ops, op.Shorter (2 ^ (w - 1))) :
    ops.foldl step ({} : WordBuffer w) = (ops.foldl Session.step {}).buf.toWords w := by
  let I (session : Session) : Prop := session.Kept ∧ (session.buf.toWords w).Sound
  have simulates (session : Session) (op : LogOp) (h : I session)
      (hop : op.Shorter (2 ^ (w - 1))) :
      (session.buf.toWords w).step op = (session.step op).buf.toWords w :=
    step_toWords wide h.1.counted h.2 hop
  have preserved (session : Session) (op : LogOp) (h : I session)
      (hop : op.Shorter (2 ^ (w - 1))) : I (session.step op) :=
    ⟨h.1.step op, simulates session op h hop ▸ h.2.step wide hop⟩
  have start : I {} := ⟨Session.kept_empty {}, sound_clear {}⟩
  have guarded : ∀ v ∈ Run.visits step ({} : WordBuffer w) ops, v.2.Shorter (2 ^ (w - 1)) :=
    Run.forall_visits.mpr short
  exact (Run.foldl_simulates (G := fun _ op => LogOp.Shorter (2 ^ (w - 1)) op) preserved simulates
    start guarded).1

end Refinement

end WordBuffer

end XAuto
