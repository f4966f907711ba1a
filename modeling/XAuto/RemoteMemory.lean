import XAuto.RemoteCalls

namespace XAuto

variable {W : Type} {env : Env W} {mem : W → UInt64 → Option UInt8}

/-- The memory calls of a bridge as reads and writes of bytes: a read succeeds exactly where every
byte can be read, and a write that reports success has written all it was given. -/
structure Bridge.Memory (bridge : Bridge W) (mem : W → UInt64 → Option UInt8) : Prop where
  read : ∀ addr size w buf, (bridge.dbgMemRead addr size w).1 = some buf ↔
    ∀ i : Fin size, mem w (addr + UInt64.ofNat i) = some buf[i]
  read_mem : ∀ addr size w, mem (bridge.dbgMemRead addr size w).2 = mem w
  write : ∀ addr data w, (bridge.dbgMemWrite addr data w).1 = true →
    ∀ k, mem (bridge.dbgMemWrite addr data w).2 k = (data[(k - addr).toNat]?).or (mem w k)

namespace Call

def isMemory : Call → Bool
  | dbgReadMemory .. | dbgWriteMemory .. => true
  | _ => false

/-- The bytes that a call writes. -/
def memoryWrite : Call → UInt64 → Option (Option UInt8)
  | dbgWriteMemory addr data, k => (data[(k - addr).toNat]?).map some
  | _, _ => none

def SparesMemory (env : Env W) (mem : W → UInt64 → Option UInt8) (call : Call) : Prop :=
  ∀ w, mem (after env w call) = mem w

/-- A write is answered with `true`. -/
def Acknowledged (env : Env W) (w : W) (call : Call) : Prop :=
  ∀ addr data, call = dbgWriteMemory addr data → (call.perform env w).1 = .boolean true

theorem Acknowledged.written {w : W} {addr : UInt64} {data : Bytes}
    (h : Acknowledged env w (dbgWriteMemory addr data)) :
    (env.bridge.dbgMemWrite addr data w).1 = true := by
  have answer := h addr data rfl
  by_contra failed
  simp [perform, result, asking, Answer.toObj, Answer.writeFailed, failed, Obj.errorResponse]
    at answer

theorem memory_written (hm : env.bridge.Memory mem) {call : Call}
    (spares : call.isMemory = false → call.SparesMemory env mem) {w : W}
    (written : call.Acknowledged env w) :
    LastWrite.Writes (after env) mem memoryWrite w call := by
  intro k
  cases call with
  | dbgReadMemory addr size =>
    have kept : mem (after env w (.dbgReadMemory addr size)) = mem w := hm.read_mem addr _ w
    rw [kept]
    rfl
  | dbgWriteMemory addr data =>
    have set : mem (after env w (.dbgWriteMemory addr data)) k = _ :=
      hm.write addr data w written.written k
    rw [set, memoryWrite]
    cases data[(k - addr).toNat]? <;> rfl
  | _ =>
    rw [spares rfl w]
    rfl

/-- The memory that the calls leave: what was written last, or what was there before. -/
def lastMemory (calls : List Call) (m : UInt64 → Option UInt8) : UInt64 → Option UInt8 :=
  fun k => (LastWrite.last memoryWrite calls k).getD (m k)

theorem memory_foldl (hm : env.bridge.Memory mem) {calls : List Call}
    (spares : ∀ call ∈ calls, call.isMemory = false → call.SparesMemory env mem) {w : W}
    (written : ∀ v ∈ Run.visits (after env) w calls, v.2.Acknowledged env v.1) :
    mem (calls.foldl (after env) w) = lastMemory calls (mem w) := by
  funext k
  refine LastWrite.view_foldl mem (fun v hv => ?_) k
  have hmem : v.2 ∈ calls := by
    obtain ⟨before, rest, rfl, -⟩ := Run.mem_visits.mp hv
    simp
  exact memory_written hm (spares v.2 hmem) (written v hv)

/-- The reply to a read of memory that holds such bytes. -/
def ReadReply (m : UInt64 → Option UInt8) (addr size : UInt64) (reply : Obj) : Prop :=
  (∃ membuf : Vector UInt8 size.toNat, reply = .bin membuf.toList ∧
    ∀ i : Fin size.toNat, m (addr + UInt64.ofNat i) = some membuf[i]) ∨
  (reply = .errorResponse "XERROR_READ_FAILED" "Memory read failed" ∧
    ∃ i : Fin size.toNat, m (addr + UInt64.ofNat i) = none)

theorem perform_readMemory (hm : env.bridge.Memory mem) (addr size : UInt64) (w : W) :
    ReadReply (mem w) addr size ((dbgReadMemory addr size).perform env w).1 := by
  cases read : (env.bridge.dbgMemRead addr size.toNat w).1 with
  | some membuf =>
    refine Or.inl ⟨membuf, by simp [perform, result, asking, Answer.toObj, read], ?_⟩
    exact (hm.read addr size.toNat w membuf).mp read
  | none =>
    refine Or.inr ⟨by simp [perform, result, asking, Answer.toObj, Answer.readFailed, read], ?_⟩
    by_contra whole
    -- with every byte there the read would have succeeded
    let membuf : Vector UInt8 size.toNat :=
      Vector.ofFn fun i => (mem w (addr + UInt64.ofNat i)).getD 0
    have readable := (hm.read addr size.toNat w membuf).mpr fun i => by
      obtain ⟨b, hb⟩ := Option.ne_none_iff_exists'.mp fun missing => whole ⟨i, missing⟩
      simp [membuf, hb]
    rw [read] at readable
    cases readable

end Call

/-- Memory over the wire: after any calls whose writes were all acknowledged, where the other ones
leave the memory alone, a read is answered with a buffer of the size asked for that holds, at each
address, the byte that was written there last, or the byte that was there before if none was; and
it is answered with a failure exactly where some address has no byte. -/
theorem memory_read_back (hm : env.bridge.Memory mem) (unpack : Bytes → Option Obj)
    (calls : List Call) (datas : List Bytes)
    (hdatas : datas.map unpack = calls.map fun call => some call.toObj)
    (fits : ∀ call ∈ calls, call.Fits env.machine) (hquit : Call.quit ∉ calls)
    (spares : ∀ call ∈ calls, call.isMemory = false → call.SparesMemory env mem) (w : W)
    (acknowledged : ∀ v ∈ Run.visits (Call.after env) w calls, v.2.Acknowledged env v.1)
    (written : Call.Written env w calls) (addr size : UInt64) (data : Bytes)
    (hdata : unpack data = some (Call.dbgReadMemory addr size).toObj)
    (hfits : (Call.dbgReadMemory addr size).Fits env.machine) :
    let before := serve env unpack (requestTurns datas) w
    let after := serve env unpack (requestTurns (datas ++ [data])) w
    ∃ reply, after.io = before.io ++ exchange data reply ∧
      Call.ReadReply (Call.lastMemory calls (mem w)) addr size reply := by
  intro before after
  have memory := Call.memory_foldl hm spares acknowledged
  refine ⟨_, Call.serve_then_call hdatas fits hquit hdata hfits written id, ?_⟩
  rw [← memory]
  exact Call.perform_readMemory hm addr size _

section Example

def memoryBridge : Bridge (UInt64 → Option UInt8) :=
  { Bridge.idle with
    dbgMemRead := fun addr size m =>
      (if ∀ i : Fin size, (m (addr + UInt64.ofNat i)).isSome then
        some (Vector.ofFn fun i => (m (addr + UInt64.ofNat i)).getD 0)
      else none, m)
    dbgMemWrite := fun addr data m =>
      if ∀ i : Fin data.length, (m (addr + UInt64.ofNat i)).isSome then
        (true, fun k => (data[(k - addr).toNat]?).or (m k))
      else (false, m) }

theorem memoryBridge_memory : memoryBridge.Memory id where
  read addr size m buf := by
    simp only [memoryBridge]
    constructor
    · intro h i
      split at h
      next mapped =>
        obtain rfl := Option.some.inj h
        obtain ⟨b, hb⟩ := Option.isSome_iff_exists.mp (mapped i)
        simp [hb]
      next => cases h
    · intro h
      have h : ∀ i : Fin size, m (addr + UInt64.ofNat i) = some buf[i] := h
      have mapped : ∀ i : Fin size, (m (addr + UInt64.ofNat i)).isSome := fun i => by simp [h i]
      rw [if_pos mapped]
      congr 1
      ext i hi
      have found := h ⟨i, hi⟩
      simp only at found
      simp [found]
  read_mem _ _ _ := rfl
  write addr data m h k := by
    simp only [memoryBridge] at h ⊢
    split
    next mapped => rfl
    next unmapped => simp [unmapped] at h

def memoryEnv : Env (UInt64 → Option UInt8) :=
  { Env.idle (.native .x64) fun _ => none with bridge := memoryBridge }

/-- The first 32 bytes are mapped, all of them zero. -/
def lowMemory (addr : UInt64) : Option UInt8 := if addr < 32 then some 0 else none

def writeRequest : Bytes :=
  0x93 :: (fixStr Command.dbgWriteMemory.name ++ [0x10] ++ [0xc4, 2, 7, 8])

def readRequest : Bytes := 0x93 :: (fixStr Command.dbgReadMemory.name ++ [0x11, 2])

def unpackMemory (data : Bytes) : Option Obj :=
  if data = writeRequest then some (Call.dbgWriteMemory 16 [7, 8]).toObj
  else if data = readRequest then some (Call.dbgReadMemory 17 2).toObj
  else none

/-- A read that begins inside what was written. -/
theorem overlapping_read_back :
    let served := serve memoryEnv unpackMemory
    ∃ reply, (served (requestTurns [writeRequest, readRequest]) lowMemory).io =
        (served (requestTurns [writeRequest]) lowMemory).io ++ exchange readRequest reply ∧
      Call.ReadReply (Call.lastMemory [.dbgWriteMemory 16 [7, 8]] lowMemory) 17 2 reply := by
  have memory : memoryEnv.bridge.Memory id := memoryBridge_memory
  let write : Call := .dbgWriteMemory 16 [7, 8]
  have visits : Run.visits (Call.after memoryEnv) lowMemory [write] = [(lowMemory, write)] := rfl
  refine memory_read_back memory unpackMemory [write] [writeRequest] rfl (by decide) (by decide)
    (by simp [write, Call.isMemory]) lowMemory ?_ ?_ 17 2 readRequest rfl (by decide)
  · intro v hv addr data h
    obtain rfl : v = (lowMemory, write) := by simpa [visits] using hv
    rfl
  · intro v hv
    obtain rfl : v = (lowMemory, write) := by simpa [visits] using hv
    exact id

end Example

end XAuto
