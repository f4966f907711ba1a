import XAuto.LogArithmetic
import XAuto.LogDrain

namespace XAuto

/-- The locals of the loop of `get_since` with its counters in a `size_t` of `w` bits. -/
structure WordScan (w : Nat) where
  entries : List Bytes := []
  lastI : BitVec w
  limitHit : Bool := false
  remaining : BitVec w := 0
  deriving DecidableEq, Repr

structure WordSnapshot (w : Nat) where
  entries : List Bytes
  nextIndex : BitVec w
  remaining : BitVec w
  evicted : BitVec w
  deriving DecidableEq, Repr

/-- The words are the numbers, uncut. -/
structure WordSnapshot.Reads {w : Nat} (words : WordSnapshot w) (snap : LogBuffer.Snapshot) :
    Prop where
  entries : words.entries = snap.entries
  nextIndex : words.nextIndex.toNat = snap.nextIndex
  remaining : words.remaining.toNat = snap.remaining
  evicted : words.evicted.toNat = snap.evicted

namespace WordBuffer

variable {w : Nat}

section Words

theorem toNat_add_one {i : BitVec w} (small : i.toNat + 1 < 2 ^ w) :
    (i + 1).toNat = i.toNat + 1 := by
  have one : (1 : BitVec w).toNat = 1 := by
    show (BitVec.ofNat w 1).toNat = 1
    rw [BitVec.toNat_ofNat, Nat.mod_eq_of_lt (by omega)]
  rw [BitVec.toNat_add, one, Nat.mod_eq_of_lt small]

theorem ofNat_add_one (n : Nat) : BitVec.ofNat w (n + 1) = BitVec.ofNat w n + 1 :=
  BitVec.ofNat_add n 1

theorem ofNat_lt_ofNat {a b : Nat} (ha : a < 2 ^ w) (hb : b < 2 ^ w) :
    BitVec.ofNat w a < BitVec.ofNat w b ↔ a < b := by
  rw [BitVec.lt_def, BitVec.toNat_ofNat, BitVec.toNat_ofNat, Nat.mod_eq_of_lt ha,
    Nat.mod_eq_of_lt hb]

/-- A difference that is only taken of a larger word. -/
theorem guarded_sub {a b : Nat} (ha : a < 2 ^ w) (hb : b < 2 ^ w) :
    (if BitVec.ofNat w b < BitVec.ofNat w a then BitVec.ofNat w a - BitVec.ofNat w b else 0) =
      BitVec.ofNat w (a - b) := by
  by_cases above : b < a
  · rw [if_pos ((ofNat_lt_ofNat hb ha).mpr above)]
    exact BitVec.ofNat_sub_ofNat_of_le a b hb (Nat.le_of_lt above)
  · have nothing : a - b = 0 := by omega
    rw [if_neg fun h => above ((ofNat_lt_ofNat hb ha).mp h), nothing]
    rfl

end Words

def scanEntry (limit : BitVec w) (filter : Bytes) (i : BitVec w) (entry : Bytes)
    (scan : WordScan w) : WordScan w :=
  match LogBuffer.candidate filter entry with
  | none => scan
  | some candidate =>
    if scan.limitHit then { scan with remaining := scan.remaining + 1 }
    else
      let entries := scan.entries ++ [candidate]
      { scan with
        entries := entries
        lastI := i + 1
        limitHit := limit > 0 ∧ BitVec.ofNat w entries.length ≥ limit }

/-- `for (size_t i = start; i < entries.size(); i++)`. -/
def scanLoop (entries : List Bytes) (limit : BitVec w) (filter : Bytes) (i : BitVec w)
    (scan : WordScan w) : WordScan w :=
  if i < BitVec.ofNat w entries.length then
    scanLoop entries limit filter (i + 1)
      (scanEntry limit filter i (entries.getD i.toNat []) scan)
  else scan
termination_by (BitVec.ofNat w entries.length).toNat - i.toNat
decreasing_by
  next below =>
    have below : i.toNat < (BitVec.ofNat w entries.length).toNat := BitVec.lt_def.mp below
    rw [toNat_add_one (by omega)]
    omega

def getSince (buf : WordBuffer w) (sinceIndex limit : BitVec w) (filter : Bytes) :
    WordSnapshot w :=
  let start := if sinceIndex > buf.baseIndex then sinceIndex - buf.baseIndex else 0
  let scan := scanLoop buf.entries limit filter start { lastI := start }
  { entries := scan.entries
    nextIndex :=
      if scan.limitHit then buf.baseIndex + scan.lastI
      else buf.baseIndex + BitVec.ofNat w buf.entries.length
    remaining := scan.remaining
    evicted := if sinceIndex < buf.baseIndex then buf.baseIndex - sinceIndex else 0 }

end WordBuffer

namespace LogBuffer

def Scan.toWords (w : Nat) (scan : Scan) : WordScan w :=
  ⟨scan.entries, BitVec.ofNat w scan.lastI, scan.limitHit, BitVec.ofNat w scan.remaining⟩

def Snapshot.toWords (w : Nat) (snap : Snapshot) : WordSnapshot w :=
  ⟨snap.entries, BitVec.ofNat w snap.nextIndex, BitVec.ofNat w snap.remaining,
    BitVec.ofNat w snap.evicted⟩

end LogBuffer

namespace WordBuffer

variable {w : Nat} {limit : BitVec w} {filter : Bytes}

theorem scanEntry_toWords {scan : LogBuffer.Scan} (few : scan.entries.length + 1 < 2 ^ w)
    (i : Nat) (entry : Bytes) :
    scanEntry limit filter (BitVec.ofNat w i) entry (scan.toWords w) =
      (LogBuffer.scanEntry limit.toNat filter i entry scan).toWords w := by
  unfold scanEntry LogBuffer.scanEntry
  cases LogBuffer.candidate filter entry with
  | none => rfl
  | some candidate =>
    have count : (BitVec.ofNat w (scan.entries ++ [candidate]).length).toNat =
        (scan.entries ++ [candidate]).length := by
      rw [BitVec.toNat_ofNat, Nat.mod_eq_of_lt (by simpa using few)]
    have reached :
        decide (limit > 0 ∧ BitVec.ofNat w (scan.entries ++ [candidate]).length ≥ limit) =
          decide (limit.toNat > 0 ∧ (scan.entries ++ [candidate]).length ≥ limit.toNat) := by
      rw [decide_eq_decide, gt_iff_lt, ge_iff_le, BitVec.lt_def, BitVec.le_def, count]
      simp
    dsimp only
    by_cases full : scan.limitHit = true
    · have same : (scan.toWords w).limitHit = true := full
      rw [if_pos full, if_pos same]
      unfold LogBuffer.Scan.toWords
      dsimp only
      rw [ofNat_add_one]
    · have same : ¬(scan.toWords w).limitHit = true := full
      rw [if_neg full, if_neg same]
      unfold LogBuffer.Scan.toWords
      dsimp only
      rw [reached, ofNat_add_one]

theorem entries_scanEntry_length_le (limit : Nat) (filter : Bytes) (i : Nat) (entry : Bytes)
    (scan : LogBuffer.Scan) :
    (LogBuffer.scanEntry limit filter i entry scan).entries.length ≤ scan.entries.length + 1 := by
  unfold LogBuffer.scanEntry
  split
  · exact Nat.le_succ _
  split
  · exact Nat.le_succ _
  · simp

/-- The loop over words does what the loop over the rest of the entries does. -/
theorem scanLoop_toWords {entries : List Bytes} (few : entries.length < 2 ^ w) {i : Nat}
    (small : i < 2 ^ w) {scan : LogBuffer.Scan} (found : scan.entries.length ≤ i) :
    scanLoop entries limit filter (BitVec.ofNat w i) (scan.toWords w) =
      (LogBuffer.scanLoop limit.toNat filter i (entries.drop i) scan).toWords w := by
  have index : (BitVec.ofNat w i).toNat = i := by
    rw [BitVec.toNat_ofNat, Nat.mod_eq_of_lt small]
  have test := ofNat_lt_ofNat small few
  rw [scanLoop]
  by_cases more : i < entries.length
  · have entry : entries.getD i [] = entries[i] := by
      rw [List.getD_eq_getElem?_getD, List.getElem?_eq_getElem more, Option.getD_some]
    have found' := entries_scanEntry_length_le limit.toNat filter i entries[i] scan
    rw [if_pos (test.mpr more), index, entry, scanEntry_toWords (by omega),
      List.drop_eq_getElem_cons more, LogBuffer.scanLoop, ← ofNat_add_one]
    exact scanLoop_toWords few (by omega) (by omega)
  · rw [if_neg fun h => more (test.mp h), List.drop_eq_nil_of_le (by omega)]
    rfl
termination_by entries.length - i

theorem getSince_toWords {buf : LogBuffer} (low : buf.baseIndex < 2 ^ w)
    (few : buf.entries.length < 2 ^ w) (sinceIndex limit : BitVec w) (filter : Bytes) :
    (buf.toWords w).getSince sinceIndex limit filter =
      (buf.getSince sinceIndex.toNat limit.toNat filter).toWords w := by
  have bound := sinceIndex.isLt
  have word : sinceIndex = BitVec.ofNat w sinceIndex.toNat := by
    rw [BitVec.ofNat_toNat, BitVec.setWidth_eq]
  have start : (if sinceIndex > (buf.toWords w).baseIndex then
      sinceIndex - (buf.toWords w).baseIndex else 0) =
        BitVec.ofNat w (sinceIndex.toNat - buf.baseIndex) := by
    have distance := guarded_sub bound low
    rw [← word] at distance
    exact distance
  have evicted : (if sinceIndex < (buf.toWords w).baseIndex then
      (buf.toWords w).baseIndex - sinceIndex else 0) =
        BitVec.ofNat w (buf.baseIndex - sinceIndex.toNat) := by
    have distance := guarded_sub low bound
    rw [← word] at distance
    exact distance
  let scan := buf.scanned sinceIndex.toNat limit.toNat filter
  let first : LogBuffer.Scan := { lastI := sinceIndex.toNat - buf.baseIndex }
  have found : first.entries.length ≤ sinceIndex.toNat - buf.baseIndex := Nat.zero_le _
  have loop : scanLoop (buf.toWords w).entries limit filter
      (BitVec.ofNat w (sinceIndex.toNat - buf.baseIndex))
      { lastI := BitVec.ofNat w (sinceIndex.toNat - buf.baseIndex) } = scan.toWords w :=
    scanLoop_toWords few (by omega) found
  have next : (if scan.limitHit then
      BitVec.ofNat w buf.baseIndex + BitVec.ofNat w scan.lastI
      else BitVec.ofNat w buf.baseIndex + BitVec.ofNat w buf.entries.length) =
        BitVec.ofNat w (if scan.limitHit then buf.baseIndex + scan.lastI
          else buf.baseIndex + buf.entries.length) := by
    split
    · exact (BitVec.ofNat_add _ _).symm
    · exact (BitVec.ofNat_add _ _).symm
  have passed := buf.getSince_evicted sinceIndex.toNat limit.toNat filter
  unfold getSince LogBuffer.Snapshot.toWords
  rw [passed, start, evicted, LogBuffer.getSince_eq_scanned]
  dsimp only
  rw [← next, loop]
  rfl

theorem reads_toWords {buf : LogBuffer} (few : buf.baseIndex + buf.entries.length < 2 ^ w)
    (sinceIndex limit : Nat) (filter : Bytes) :
    ((buf.getSince sinceIndex limit filter).toWords w).Reads
      (buf.getSince sinceIndex limit filter) := by
  have next := buf.getSince_nextIndex_le sinceIndex limit filter
  have unread := buf.length_unread sinceIndex
  have remaining : (buf.getSince sinceIndex limit filter).remaining ≤ buf.entries.length := by
    rw [LogBuffer.getSince_remaining]
    have kept := List.length_filterMap_le (keptLines filter)
      ((buf.unread sinceIndex).drop (buf.readCount sinceIndex limit filter))
    rw [List.length_drop] at kept
    omega
  have evicted := buf.getSince_evicted sinceIndex limit filter
  have exact {n : Nat} (small : n < 2 ^ w) : (BitVec.ofNat w n).toNat = n := by
    rw [BitVec.toNat_ofNat, Nat.mod_eq_of_lt small]
  exact ⟨rfl, exact (by omega), exact (by omega), exact (by omega)⟩

/-- On either build, `get_since` answers as it does with unbounded counters, whatever the cursor,
the limit and the filter are, exactly as long as the messages since the last `clear` can be counted
in a `size_t`. -/
theorem words_read_alike (bitness : Bitness) {ops : List LogOp}
    (short : ∀ op ∈ ops, op.Shorter (2 ^ (bitness.bits - 1))) :
    (∀ sinceIndex limit filter,
      ((ops.foldl step ({} : WordBuffer bitness.bits)).getSince sinceIndex limit filter).Reads
        ((ops.foldl Session.step {}).buf.getSince sinceIndex.toNat limit.toNat filter)) ↔
      (ops.foldl Session.step {}).history.length < 2 ^ bitness.bits := by
  have words := run_toWords (wide_bits bitness) short
  have counted := (Session.kept_run ops).tracks.length
  rw [words, ← counted]
  constructor
  · intro reads
    have last := (reads 0#_ 0#_ []).nextIndex
    have all := (ops.foldl Session.step {}).buf.getSince_unlimited_nextIndex [] 0
    rw [BitVec.toNat_ofNat, Nat.zero_mod, all] at last
    rw [← last]
    exact BitVec.isLt _
  · intro few sinceIndex limit filter
    rw [getSince_toWords (by omega) (by omega)]
    exact reads_toWords few sinceIndex.toNat limit.toNat filter

theorem words_read_alike_two_messages :
    let ops : List LogOp := [.append (some (bytes "a\n")), .clear, .append (some (bytes "b"))]
    (∀ sinceIndex limit filter,
      ((ops.foldl step ({} : WordBuffer (Bitness.bits .x86))).getSince
          sinceIndex limit filter).Reads
        ((ops.foldl Session.step {}).buf.getSince sinceIndex.toNat limit.toNat filter)) ↔
      (ops.foldl Session.step {}).history.length < 2 ^ Bitness.bits .x86 :=
  words_read_alike .x86 (by decide)

end WordBuffer

end XAuto
