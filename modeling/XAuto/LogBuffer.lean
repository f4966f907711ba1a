import XAuto.MsgPack
import Mathlib.Data.List.Infix

namespace XAuto

def maxEntries : Nat := 50000

def maxBytes : Nat := 20 * 1024 * 1024

structure LogBuffer where
  entries : List Bytes := []
  baseIndex : Nat := 0
  totalBytes : Nat := 0
  deriving DecidableEq, Repr

namespace LogBuffer

/-- The eviction loop of `append`: pop the front while a message of `size` bytes does not fit. -/
def evictLoop (size : Nat) : List Bytes → Nat → Nat → LogBuffer
  | [], totalBytes, baseIndex => ⟨[], baseIndex, totalBytes⟩
  | front :: rest, totalBytes, baseIndex =>
    if (front :: rest).length ≥ maxEntries ∨ totalBytes + size > maxBytes then
      evictLoop size rest (totalBytes - front.length) (baseIndex + 1)
    else ⟨front :: rest, baseIndex, totalBytes⟩

/-- `none` is a null pointer. -/
def append (buf : LogBuffer) : Option Bytes → LogBuffer
  | none => buf
  | some s =>
    let room := evictLoop s.length buf.entries buf.totalBytes buf.baseIndex
    { room with totalBytes := room.totalBytes + s.length, entries := room.entries ++ [s] }

def clear (_ : LogBuffer) : LogBuffer :=
  { entries := [], totalBytes := 0, baseIndex := 0 }

structure Snapshot where
  entries : List Bytes
  nextIndex : Nat
  remaining : Nat
  evicted : Nat
  deriving DecidableEq, Repr

def newline : UInt8 := 10

/-- The inner loop of `get_since`: keep the lines of `src` that contain the filter. -/
def filterLoop (filter : Bytes) : Bytes → Bytes → Bytes
  | [], filtered => filtered
  | c :: cs, filtered =>
    let src := c :: cs
    let found := newline ∈ src
    let nl := src.idxOf newline
    let line := if found then src.take (nl + 1) else src
    let rest := if found then src.drop (nl + 1) else []
    filterLoop filter rest (if filter <:+: line then filtered ++ line else filtered)
termination_by src => src.length
decreasing_by
  split
  · rw [List.length_drop]
    exact Nat.sub_lt (Nat.succ_pos _) (Nat.succ_pos _)
  · exact Nat.succ_pos _

/-- What one entry contributes; `none` where the source says `continue`. -/
def candidate (filter entry : Bytes) : Option Bytes :=
  if filter ≠ [] then
    let filtered := filterLoop filter entry []
    if filtered = [] then none else some filtered
  else some entry

/-- The locals that the loop of `get_since` updates. -/
structure Scan where
  entries : List Bytes := []
  lastI : Nat
  limitHit : Bool := false
  remaining : Nat := 0
  deriving DecidableEq, Repr

def scanEntry (limit : Nat) (filter : Bytes) (i : Nat) (entry : Bytes) (scan : Scan) : Scan :=
  match candidate filter entry with
  | none => scan
  | some candidate =>
    if scan.limitHit then { scan with remaining := scan.remaining + 1 }
    else
      let entries := scan.entries ++ [candidate]
      { scan with
        entries := entries
        lastI := i + 1
        limitHit := limit > 0 ∧ entries.length ≥ limit }

def scanLoop (limit : Nat) (filter : Bytes) : Nat → List Bytes → Scan → Scan
  | _, [], scan => scan
  | i, entry :: rest, scan =>
    scanLoop limit filter (i + 1) rest (scanEntry limit filter i entry scan)

def start (buf : LogBuffer) (sinceIndex : Nat) : Nat :=
  if sinceIndex > buf.baseIndex then sinceIndex - buf.baseIndex else 0

def getSince (buf : LogBuffer) (sinceIndex : Nat) (limit : Nat := 0) (filter : Bytes := []) :
    Snapshot :=
  let start := buf.start sinceIndex
  let scan := scanLoop limit filter start (buf.entries.drop start) { lastI := start }
  { entries := scan.entries
    nextIndex :=
      if scan.limitHit then buf.baseIndex + scan.lastI else buf.baseIndex + buf.entries.length
    remaining := scan.remaining
    evicted := if sinceIndex < buf.baseIndex then buf.baseIndex - sinceIndex else 0 }

end LogBuffer

end XAuto
