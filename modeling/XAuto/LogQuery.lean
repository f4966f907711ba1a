import XAuto.LogBuffer
import XAuto.Lines
import XAuto.Paging

namespace XAuto

/-- What a filter leaves of an entry: its lines that contain the filter, `none` without any. -/
def keptLines (filter entry : Bytes) : Option Bytes :=
  if filter = [] then some entry
  else
    let kept := (Lines.split LogBuffer.newline entry).filter (filter <:+: ·)
    if kept = [] then none else some kept.flatten

theorem keptLines_nil : keptLines [] = some := by
  funext entry
  simp [keptLines]

theorem filterLoop_eq (filter src filtered : Bytes) :
    LogBuffer.filterLoop filter src filtered =
      filtered ++ ((Lines.split LogBuffer.newline src).filter (filter <:+: ·)).flatten := by
  fun_induction LogBuffer.filterLoop filter src filtered with
  | case1 filtered => simp [Lines.split]
  | case2 c cs filtered src found nl line rest ih =>
    simp only [dite_eq_ite] at ih
    rw [ih]
    have cutLine : Lines.split LogBuffer.newline src =
        line :: Lines.split LogBuffer.newline rest := by
      by_cases hf : LogBuffer.newline ∈ src
      · simpa [line, rest, found, hf] using Lines.split_at_idxOf hf
      · have whole := Lines.split_unterminated (by simp [src]) hf
        simpa [line, rest, found, hf, Lines.split] using whole
    rw [cutLine]
    by_cases hl : filter <:+: line <;> simp [hl]

theorem candidate_eq_keptLines (filter entry : Bytes) :
    LogBuffer.candidate filter entry = keptLines filter entry := by
  unfold LogBuffer.candidate keptLines
  by_cases hf : filter = []
  · simp [hf]
  · simp only [hf, ne_eq, not_false_eq_true, if_true, if_false, filterLoop_eq, List.nil_append,
      Lines.flatten_filter_eq_nil]

namespace LogBuffer

theorem scanEntry_skip {limit i : Nat} {filter entry : Bytes} {scan : Scan}
    (h : keptLines filter entry = none) : scanEntry limit filter i entry scan = scan := by
  simp [scanEntry, candidate_eq_keptLines, h]

theorem scanEntry_count {limit i : Nat} {filter entry kept : Bytes} {scan : Scan}
    (h : keptLines filter entry = some kept) (full : scan.limitHit = true) :
    scanEntry limit filter i entry scan = { scan with remaining := scan.remaining + 1 } := by
  simp [scanEntry, candidate_eq_keptLines, h, full]

theorem scanEntry_take {limit i : Nat} {filter entry kept : Bytes} {scan : Scan}
    (h : keptLines filter entry = some kept) (room : scan.limitHit = false) :
    scanEntry limit filter i entry scan =
      { scan with
        entries := scan.entries ++ [kept]
        lastI := i + 1
        limitHit := limit > 0 ∧ scan.entries.length + 1 ≥ limit } := by
  simp [scanEntry, candidate_eq_keptLines, h, room]

/-- Once the limit is hit the loop only counts. -/
theorem scanLoop_full {limit i : Nat} {filter : Bytes} {xs : List Bytes} {scan : Scan}
    (full : scan.limitHit = true) :
    scanLoop limit filter i xs scan =
      { scan with remaining := scan.remaining + (xs.filterMap (keptLines filter)).length } := by
  induction xs generalizing i scan with
  | nil => rfl
  | cons entry rest ih =>
    unfold scanLoop
    cases hk : keptLines filter entry with
    | none => rw [scanEntry_skip hk, ih full, List.filterMap_cons_none hk]
    | some kept =>
      rw [scanEntry_count hk full, ih (by exact full), List.filterMap_cons_some hk]
      simp [Nat.add_assoc, Nat.add_comm]

/-- The loop before the limit is hit, with `n` entries still wanted (`0` when unlimited). -/
theorem scanLoop_spec {limit i n : Nat} (filter : Bytes) (xs : List Bytes) {scan : Scan}
    (room : scan.limitHit = false) (hn : n = limit - scan.entries.length)
    (wanted : 0 < limit → scan.entries.length < limit) :
    let c := Paging.cut (keptLines filter) n xs
    let out := scanLoop limit filter i xs scan
    out.entries = scan.entries ++ (xs.take c).filterMap (keptLines filter) ∧
    out.remaining = scan.remaining + ((xs.drop c).filterMap (keptLines filter)).length ∧
    (out.limitHit = true → out.lastI = i + c) ∧
    (out.limitHit = false → c = xs.length) := by
  induction xs generalizing i n scan with
  | nil => simp [scanLoop, Paging.cut, room]
  | cons entry rest ih =>
    unfold scanLoop
    cases hk : keptLines filter entry with
    | none =>
      rw [scanEntry_skip hk, Paging.cut_cons_none hk]
      obtain ⟨he, hr, hl, hu⟩ := ih (i := i + 1) room hn wanted
      refine ⟨by simpa [hk] using he, by simpa using hr, fun h => ?_, fun h => ?_⟩
      · rw [hl h]; omega
      · rw [hu h]; simp
    | some kept =>
      have matched : (keptLines filter entry).isSome := by simp [hk]
      rw [scanEntry_take hk room]
      by_cases hit : limit > 0 ∧ scan.entries.length + 1 ≥ limit
      · have hn1 : n = 1 := by have := wanted hit.1; omega
        rw [hn1, Paging.cut_cons_last matched, scanLoop_full (by simpa using hit)]
        simp [hk, hit]
      · have hn1 : n ≠ 1 := by omega
        rw [Paging.cut_cons_some matched hn1]
        let taken : Scan := { scan with
          entries := scan.entries ++ [kept]
          lastI := i + 1
          limitHit := limit > 0 ∧ scan.entries.length + 1 ≥ limit }
        have hroom : taken.limitHit = false := by simpa [taken] using hit
        have hleft : n - 1 = limit - taken.entries.length := by simp [taken]; omega
        have hwanted : 0 < limit → taken.entries.length < limit := by simp [taken]; omega
        obtain ⟨he, hr, hl, hu⟩ := ih (i := i + 1) hroom hleft hwanted
        refine ⟨by simpa [hk, taken] using he, by simpa [taken] using hr, fun h => ?_, fun h => ?_⟩
        · rw [hl h]; omega
        · rw [hu h]; simp

theorem start_eq (buf : LogBuffer) (sinceIndex : Nat) :
    buf.start sinceIndex = sinceIndex - buf.baseIndex := by
  unfold start
  split <;> omega

/-- The retained entries that a cursor has not passed. -/
def unread (buf : LogBuffer) (sinceIndex : Nat) : List Bytes :=
  buf.entries.drop (sinceIndex - buf.baseIndex)

/-- How many of them a call reads. -/
def readCount (buf : LogBuffer) (sinceIndex limit : Nat) (filter : Bytes) : Nat :=
  Paging.cut (keptLines filter) limit (buf.unread sinceIndex)

section Query

variable (buf : LogBuffer) (sinceIndex limit : Nat) (filter : Bytes)

theorem length_unread :
    (buf.unread sinceIndex).length = buf.entries.length - (sinceIndex - buf.baseIndex) := by
  simp [unread]

theorem readCount_le : buf.readCount sinceIndex limit filter ≤ (buf.unread sinceIndex).length :=
  Paging.cut_le_length _ _ _

/-- The loop variables of a call after its loop. -/
def scanned : Scan :=
  scanLoop limit filter (sinceIndex - buf.baseIndex) (buf.unread sinceIndex)
    { lastI := sinceIndex - buf.baseIndex }

theorem getSince_eq_scanned :
    buf.getSince sinceIndex limit filter =
      { entries := (buf.scanned sinceIndex limit filter).entries
        nextIndex :=
          if (buf.scanned sinceIndex limit filter).limitHit then
            buf.baseIndex + (buf.scanned sinceIndex limit filter).lastI
          else buf.baseIndex + buf.entries.length
        remaining := (buf.scanned sinceIndex limit filter).remaining
        evicted := if sinceIndex < buf.baseIndex then buf.baseIndex - sinceIndex else 0 } := by
  unfold getSince
  rw [start_eq]
  rfl

theorem scanned_spec :
    let c := buf.readCount sinceIndex limit filter
    let out := buf.scanned sinceIndex limit filter
    out.entries = ((buf.unread sinceIndex).take c).filterMap (keptLines filter) ∧
    out.remaining = (((buf.unread sinceIndex).drop c).filterMap (keptLines filter)).length ∧
    (out.limitHit = true → out.lastI = sinceIndex - buf.baseIndex + c) ∧
    (out.limitHit = false → c = (buf.unread sinceIndex).length) := by
  let first : Scan := { lastI := sinceIndex - buf.baseIndex }
  have room : first.limitHit = false := rfl
  have hn : limit = limit - first.entries.length := by simp [first]
  have wanted : 0 < limit → first.entries.length < limit := by simp [first]
  have hloop := scanLoop_spec (i := sinceIndex - buf.baseIndex) filter (buf.unread sinceIndex)
    room hn wanted
  simpa [scanned, readCount, first] using hloop

theorem getSince_entries :
    (buf.getSince sinceIndex limit filter).entries =
      ((buf.unread sinceIndex).take (buf.readCount sinceIndex limit filter)).filterMap
        (keptLines filter) := by
  rw [getSince_eq_scanned]
  exact (buf.scanned_spec sinceIndex limit filter).1

theorem getSince_remaining :
    (buf.getSince sinceIndex limit filter).remaining =
      (((buf.unread sinceIndex).drop (buf.readCount sinceIndex limit filter)).filterMap
        (keptLines filter)).length := by
  rw [getSince_eq_scanned]
  exact (buf.scanned_spec sinceIndex limit filter).2.1

theorem getSince_evicted :
    (buf.getSince sinceIndex limit filter).evicted = buf.baseIndex - sinceIndex := by
  simp only [getSince]
  split <;> omega

/-- `next_index` points just past what was read, wherever the read stopped. -/
theorem getSince_nextIndex :
    (buf.getSince sinceIndex limit filter).nextIndex =
      buf.baseIndex + min (sinceIndex - buf.baseIndex) buf.entries.length +
        buf.readCount sinceIndex limit filter := by
  obtain ⟨-, -, hl, hu⟩ := buf.scanned_spec sinceIndex limit filter
  have hlen := buf.length_unread sinceIndex
  rw [getSince_eq_scanned]
  dsimp only
  split
  next hit =>
    rw [hl hit]
    by_cases hs : sinceIndex - buf.baseIndex ≤ buf.entries.length
    · omega
    · -- past the end there is nothing to read, so no limit is hit
      have none : buf.unread sinceIndex = [] := List.drop_eq_nil_of_le (by omega)
      simp [scanned, none, scanLoop] at hit
  next hit =>
    rw [hu (by simpa using hit)]
    omega

theorem getSince_nextIndex_of_le (h : sinceIndex ≤ buf.baseIndex + buf.entries.length) :
    (buf.getSince sinceIndex limit filter).nextIndex =
      max sinceIndex buf.baseIndex + buf.readCount sinceIndex limit filter := by
  rw [getSince_nextIndex]
  omega

theorem getSince_nextIndex_le :
    (buf.getSince sinceIndex limit filter).nextIndex ≤ buf.baseIndex + buf.entries.length := by
  have hc := buf.readCount_le sinceIndex limit filter
  rw [length_unread] at hc
  rw [getSince_nextIndex]
  omega

/-- Without limit and filter a poll returns everything its cursor has not passed. -/
theorem getSince_all :
    (buf.getSince sinceIndex).entries = buf.unread sinceIndex ∧
    (buf.getSince sinceIndex).nextIndex = buf.baseIndex + buf.entries.length := by
  have hread : buf.readCount sinceIndex 0 [] = (buf.unread sinceIndex).length :=
    Paging.cut_zero _ _
  refine ⟨?_, ?_⟩
  · rw [getSince_entries, hread, keptLines_nil, List.filterMap_some, List.take_length]
  · rw [getSince_nextIndex, hread, length_unread]
    omega

/-- A call leaves unread what it did not read. -/
theorem unread_nextIndex :
    buf.unread (buf.getSince sinceIndex limit filter).nextIndex =
      (buf.unread sinceIndex).drop (buf.readCount sinceIndex limit filter) := by
  rw [getSince_nextIndex, unread, unread, List.drop_drop]
  by_cases hs : sinceIndex - buf.baseIndex ≤ buf.entries.length
  · congr 1
    omega
  · rw [List.drop_eq_nil_of_le (by omega), List.drop_eq_nil_of_le (by omega)]

end Query

/-- Two cursors with nothing but skipped entries between them get the same answer. -/
theorem getSince_skip (buf : LogBuffer) {c d : Nat} (limit : Nat) {filter : Bytes} (hcd : c ≤ d)
    (hd : d ≤ buf.baseIndex + buf.entries.length)
    (skipped : ∀ e ∈ (buf.unread c).take (max d buf.baseIndex - max c buf.baseIndex),
      keptLines filter e = none) :
    (buf.getSince c limit filter).entries = (buf.getSince d limit filter).entries ∧
    (buf.getSince c limit filter).remaining = (buf.getSince d limit filter).remaining ∧
    (buf.getSince c limit filter).nextIndex = (buf.getSince d limit filter).nextIndex := by
  obtain ⟨n, hn⟩ : ∃ n, n = max d buf.baseIndex - max c buf.baseIndex := ⟨_, rfl⟩
  rw [← hn] at skipped
  have hrest : (buf.unread c).drop n = buf.unread d := by
    rw [unread, unread, List.drop_drop]
    congr 1
    omega
  have hlen : ((buf.unread c).take n).length = n := by
    rw [List.length_take, length_unread]
    omega
  have hread : buf.readCount c limit filter = n + buf.readCount d limit filter := by
    have := Paging.cut_append_of_none (keptLines filter) skipped limit (buf.unread d)
    rwa [hlen, ← hrest, List.take_append_drop, hrest] at this
  have hnone : ((buf.unread c).take n).filterMap (keptLines filter) = [] :=
    List.filterMap_eq_nil_iff.mpr skipped
  refine ⟨?_, ?_, ?_⟩
  · rw [getSince_entries, getSince_entries, hread, List.take_add, List.filterMap_append, hnone,
      hrest, List.nil_append]
  · rw [getSince_remaining, getSince_remaining, hread, ← List.drop_drop, hrest]
  · rw [getSince_nextIndex_of_le _ _ _ _ (hcd.trans hd), getSince_nextIndex_of_le _ _ _ _ hd, hread]
    omega

end LogBuffer

end XAuto
