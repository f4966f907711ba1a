import XAuto.Registers
import XAuto.LogBuffer

namespace XAuto

structure CString where
  ptr : Nat
  text : Bytes
  deriving DecidableEq, Repr

structure MemPage where
  baseAddress : UInt64
  allocationBase : UInt64
  allocationProtect : UInt32
  partitionId : UInt16
  regionSize : UInt64
  state : UInt32
  protect : UInt32
  type : UInt32
  info : Bytes

/-- A `MEMMAP` that the bridge filled in: `page` is the block that holds the `count` pages. -/
structure MemMap where
  page : Nat
  pages : List MemPage

/-- A `MEMMAP` as it stands on the stack before anything is written to it. -/
structure RawMemMap where
  count : Int32
  page : Nat

structure DisasmArg where
  mnemonic : Bytes
  type : UInt64
  segment : UInt64
  constant : UInt64
  value : UInt64
  memvalue : UInt64
  deriving Inhabited

structure DisasmInstr where
  instruction : Bytes
  argcount : UInt64
  instrSize : UInt64
  type : UInt64
  arg : Fin 3 → DisasmArg
  deriving Inhabited

structure BridgeBp where
  type : UInt64
  addr : UInt64
  enabled : Bool
  singleshoot : Bool
  active : Bool
  name : Bytes
  mod : Bytes
  slot : UInt16
  typeEx : UInt8
  hwSize : UInt8
  hitCount : UInt64
  fastResume : Bool
  silent : Bool
  breakCondition : Bytes
  logText : Bytes
  logCondition : Bytes
  commandText : Bytes
  commandCondition : Bytes

/-- A `BPMAP` that the bridge filled in: `bp` is the block that holds the breakpoints. -/
structure BpMap where
  bp : Nat
  bps : List BridgeBp

structure SymbolInfo where
  addr : UInt64 := 0
  decoratedSymbol : Option CString := none
  undecoratedSymbol : Option CString := none
  type : UInt64 := 0
  freeDecorated : Bool := false
  freeUndecorated : Bool := false
  ordinal : UInt64 := 0

/-- The debugger behind the plugin: what each call returns and how it changes the world `W`.
Output parameters are part of the result, `none` where a failed call leaves them unwritten; an
unwritten list of breakpoints comes with a count of none. -/
structure Bridge (W : Type) where
  getCurrentProcessId : W → UInt32 × W
  bridgeGetDbgVersion : W → Int32 × W
  dbgEval : Bytes → W → (UInt64 × Bool) × W
  dbgCmdExecDirect : Bytes → W → Bool × W
  dbgIsRunning : W → Bool × W
  dbgIsDebugging : W → Bool × W
  bridgeIsProcessElevated : W → Bool × W
  dbgMemMap : W → Option MemMap × W
  guiUpdateAllViews : W → Unit × W
  dbgMemRead : UInt64 → (size : Nat) → W → Option (Vector UInt8 size) × W
  dbgMemWrite : UInt64 → Bytes → W → Bool × W
  dbgGetRegDumpEx : W → Option RegDump × W
  stringFormatInline : Bytes → W → Option (Vector UInt8 128) × W
  bridgeSettingGet : Bytes → Bytes → W → Option Bytes × W
  bridgeSettingSet : Bytes → Bytes → Bytes → W → Bool × W
  bridgeSettingGetUint : Bytes → Bytes → W → Option UInt64 × W
  bridgeSettingSetUint : Bytes → Bytes → UInt64 → W → Bool × W
  dbgMemIsValidReadPtr : UInt64 → W → Bool × W
  dbgDisasmAt : UInt64 → W → DisasmInstr × W
  guiGetDisassembly : UInt64 → W → Option Bytes × W
  dbgAssembleAt : UInt64 → Bytes → W → Bool × W
  dbgGetBpList : UInt32 → W → Option BpMap × W
  dbgGetLabelAt : UInt64 → UInt32 → W → (Bool × Bytes) × W
  dbgGetCommentAt : UInt64 → W → (Bool × Bytes) × W
  dbgGetSymbolInfoAt : UInt64 → W → (Bool × SymbolInfo) × W
  bridgeAlloc : Nat → W → CString × W
  bridgeFree : Nat → W → Unit × W

/-- The contents of the locals that a handler passes on without initialising them. -/
structure Junk where
  settingVal : UInt64
  rd : RegDump
  mm : RawMemMap

/-- What is behind a pointer that nothing was written to: the page at an index, and whether the
heap takes the block back. What is not there faults; there is no page at null, and to free null is
no fault. -/
structure Stray where
  pageAt : Nat → Nat → Option MemPage
  freeable : Nat → Bool
  null_unreadable : pageAt 0 0 = none
  null_freeable : freeable 0 = true

/-- The process a request is served in. It can at least hold the name of a command. -/
structure Machine where
  bitness : Bitness
  maxLength : Nat
  holdsNames : 64 ≤ maxLength

/-- Everything a handler depends on besides the request. `past i` is what a read at index `i`
past the end of the argument array finds, `none` where it faults, and `bpList` what is in the
`bp` of an unwritten `BPMAP`. -/
structure Env (W : Type) where
  machine : Machine
  bridge : Bridge W
  log : W → LogBuffer
  maxSettingSize : Nat
  sizeofSymbolInfo : Nat
  past : Nat → Option Obj
  junk : Junk
  bpList : Nat
  stray : Stray

/-- What memory holds where nobody has written: past the end of a request, in the lists on the
stack, and behind the pointers in them. -/
structure Unset where
  past : Nat → Option Obj
  mm : RawMemMap
  bpList : Nat
  stray : Stray

def Env.withJunk {W : Type} (env : Env W) (junk : Junk) : Env W := { env with junk := junk }

def Env.withUnset {W : Type} (env : Env W) (u : Unset) : Env W :=
  { env with
    past := u.past
    junk := { env.junk with mm := u.mm }
    bpList := u.bpList
    stray := u.stray }

/-- The process of each build: its longest vector takes up to half of the address space. -/
def Machine.native (b : Bitness) : Machine :=
  ⟨b, 2 ^ (b.bits - 1) - 1, by cases b <;> decide⟩

def Bridge.idle {W : Type} : Bridge W where
  getCurrentProcessId w := (0, w)
  bridgeGetDbgVersion w := (0, w)
  dbgEval _ w := ((0, false), w)
  dbgCmdExecDirect _ w := (false, w)
  dbgIsRunning w := (false, w)
  dbgIsDebugging w := (false, w)
  bridgeIsProcessElevated w := (false, w)
  dbgMemMap w := (none, w)
  guiUpdateAllViews w := ((), w)
  dbgMemRead _ _ w := (none, w)
  dbgMemWrite _ _ w := (false, w)
  dbgGetRegDumpEx w := (none, w)
  stringFormatInline _ w := (none, w)
  bridgeSettingGet _ _ w := (none, w)
  bridgeSettingSet _ _ _ w := (false, w)
  bridgeSettingGetUint _ _ w := (none, w)
  bridgeSettingSetUint _ _ _ w := (false, w)
  dbgMemIsValidReadPtr _ w := (false, w)
  dbgDisasmAt _ w := (default, w)
  guiGetDisassembly _ w := (none, w)
  dbgAssembleAt _ _ w := (false, w)
  dbgGetBpList _ w := (some ⟨0, []⟩, w)
  dbgGetLabelAt _ _ w := ((false, []), w)
  dbgGetCommentAt _ w := ((false, []), w)
  dbgGetSymbolInfoAt _ w := ((false, {}), w)
  bridgeAlloc _ w := (⟨0, []⟩, w)
  bridgeFree _ w := ((), w)

/-- Nothing but null can be freed, and nothing read. -/
def Stray.nowhere : Stray where
  pageAt _ _ := none
  freeable ptr := ptr == 0
  null_unreadable := rfl
  null_freeable := rfl

/-- Every access to such memory faults. -/
def Unset.faulting : Unset where
  past _ := none
  mm := ⟨1, 0⟩
  bpList := 1
  stray := .nowhere

def Env.idle {W : Type} (m : Machine) (past : Nat → Option Obj) : Env W where
  machine := m
  bridge := .idle
  log _ := {}
  maxSettingSize := 0x10000
  sizeofSymbolInfo := 48
  past := past
  junk := ⟨0, default, ⟨0, 0⟩⟩
  bpList := 0
  stray := .nowhere

inductive Exn
  | zmqError
  | msgpackError
  | lengthError
  | accessViolation
  deriving DecidableEq, Repr

inductive Event
  | element (i : Nat)
  | dbgCmdExecDirect (cmd : Bytes)
  | dbgMemRead (addr : UInt64) (size : Nat) (success : Bool)
  | dbgMemWrite (addr : UInt64) (data : Bytes) (success : Bool)
  | dbgAssembleAt (addr : UInt64) (instr : Bytes)
  | bridgeSettingSet (section_ key value : Bytes)
  | bridgeSettingSetUint (section_ key : Bytes) (value : UInt64)
  | bridgeAlloc (block : Nat)
  | bridgeFree (block : Nat)
  deriving DecidableEq, Repr

/-- `response` are the objects packed into the response buffer so far. Every object takes at
least one byte, so the buffer is empty exactly when nothing was packed. -/
structure HandlerState (W : Type) where
  world : W
  response : List Obj := []
  trace : List Event := []

namespace HandlerState

variable {W : Type} (s : HandlerState W)

def note (e : Event) : HandlerState W := { s with trace := s.trace ++ [e] }

def pack (o : Obj) : HandlerState W := { s with response := s.response ++ [o] }

def moveTo (w : W) : HandlerState W := { s with world := w }

@[simp] theorem note_trace (e : Event) : (s.note e).trace = s.trace ++ [e] := rfl
@[simp] theorem note_response (e : Event) : (s.note e).response = s.response := rfl
@[simp] theorem note_world (e : Event) : (s.note e).world = s.world := rfl
@[simp] theorem pack_trace (o : Obj) : (s.pack o).trace = s.trace := rfl
@[simp] theorem pack_response (o : Obj) : (s.pack o).response = s.response ++ [o] := rfl
@[simp] theorem pack_world (o : Obj) : (s.pack o).world = s.world := rfl
@[simp] theorem moveTo_trace (w : W) : (s.moveTo w).trace = s.trace := rfl
@[simp] theorem moveTo_response (w : W) : (s.moveTo w).response = s.response := rfl
@[simp] theorem moveTo_world (w : W) : (s.moveTo w).world = w := rfl

end HandlerState

abbrev Handler (W : Type) := EStateM Exn (HandlerState W)

namespace Handler

variable {W : Type}

def note (e : Event) : Handler W Unit := fun s => .ok () (s.note e)

/-- Nothing that is packed comes near msgpack's own limit of 2^32 bytes or elements. -/
def pack (o : Obj) : Handler W Unit := fun s => .ok () (s.pack o)

def call {α : Type} (f : W → α × W) : Handler W α :=
  fun s => .ok (f s.world).1 (s.moveTo (f s.world).2)

def world : Handler W W := fun s => .ok s.world s

end Handler

end XAuto
