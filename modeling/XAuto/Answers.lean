import XAuto.Handlers
import XAuto.RegisterReply

namespace XAuto

section Records

def MemPage.ofObj (o : Obj) : Option MemPage := do
  pure {
    baseAddress := ← o.sizeAt 0
    allocationBase := ← o.sizeAt 1
    allocationProtect := (← o.sizeAt 2).toUInt32
    partitionId := (← o.sizeAt 3).toUInt16
    regionSize := ← o.sizeAt 4
    state := (← o.sizeAt 5).toUInt32
    protect := (← o.sizeAt 6).toUInt32
    type := (← o.sizeAt 7).toUInt32
    info := ← o.strAt 8 }

/-- A 32-bit build does not know of partitions. -/
def MemPage.seen (bitness : Bitness) (page : MemPage) : MemPage :=
  { page with
    partitionId := if bitness = .x64 then page.partitionId else 0
    info := cstr page.info }

theorem MemPage.ofObj_memPageTup (bitness : Bitness) (page : MemPage) :
    MemPage.ofObj (memPageTup bitness page) = some (page.seen bitness) := by
  cases bitness <;>
    simp [MemPage.ofObj, memPageTup, MemPage.seen, Obj.sizeAt, Obj.strAt, Obj.elems, Obj.asSize,
      Obj.asStr, Obj.ofU16, Obj.ofU32, Obj.ofNat]

def DisasmArg.ofObj (o : Obj) : Option DisasmArg := do
  pure {
    mnemonic := ← o.strAt 0
    type := ← o.sizeAt 1
    segment := ← o.sizeAt 2
    constant := ← o.sizeAt 3
    value := ← o.sizeAt 4
    memvalue := ← o.sizeAt 5 }

def DisasmArg.seen (arg : DisasmArg) : DisasmArg := { arg with mnemonic := cstr arg.mnemonic }

theorem DisasmArg.ofObj_disasmArgTup (arg : DisasmArg) :
    DisasmArg.ofObj (disasmArgTup arg) = some arg.seen := by
  simp [DisasmArg.ofObj, disasmArgTup, DisasmArg.seen, Obj.sizeAt, Obj.strAt, Obj.elems,
    Obj.asSize, Obj.asStr]

def DisasmInstr.ofObj (o : Obj) : Option DisasmInstr := do
  let args ← o.listAt DisasmArg.ofObj 5
  pure {
    instruction := ← o.strAt 0
    argcount := ← o.sizeAt 2
    instrSize := ← o.sizeAt 3
    type := ← o.sizeAt 4
    arg := fun i => args.getD i default }

def DisasmInstr.seen (instr : DisasmInstr) : DisasmInstr :=
  { instr with instruction := cstr instr.instruction, arg := fun i => (instr.arg i).seen }

/-- The reply to `XAUTO_REQ_DISASSEMBLE`. -/
def disasmTup (instr : DisasmInstr) (symbolized : Bytes) : Obj :=
  .array [.str (cstr instr.instruction), .str symbolized, .positiveInteger instr.argcount,
    .positiveInteger instr.instrSize, .positiveInteger instr.type,
    .array (List.ofFn fun i => disasmArgTup (instr.arg i))]

theorem DisasmInstr.ofObj_disasmTup (instr : DisasmInstr) (symbolized : Bytes) :
    DisasmInstr.ofObj (disasmTup instr symbolized) = some instr.seen := by
  have args : (List.ofFn fun i => disasmArgTup (instr.arg i)).mapM DisasmArg.ofObj =
      some (List.ofFn fun i => (instr.arg i).seen) := by
    have each := Obj.mapM_map (l := List.ofFn instr.arg) fun arg _ =>
      DisasmArg.ofObj_disasmArgTup arg
    rwa [List.map_ofFn, List.map_ofFn] at each
  simp only [DisasmInstr.ofObj, disasmTup, Obj.listAt, Obj.elems, List.getElem?_cons_succ,
    List.getElem?_cons_zero, Option.bind_eq_bind, Option.bind_some, args]
  simp [Obj.strAt, Obj.sizeAt, Obj.elems, Obj.asStr, Obj.asSize, DisasmInstr.seen]
  funext i
  have known : i < (List.ofFn fun i => (instr.arg i).seen).length := by simp
  exact List.getElem_ofFn known

/-- A breakpoint as a client reads it. -/
def BridgeBp.ofObj (o : Obj) : Option BridgeBp := do
  pure {
    type := ← o.sizeAt 0
    addr := ← o.sizeAt 1
    enabled := ← o.boolAt 2
    singleshoot := ← o.boolAt 3
    active := ← o.boolAt 4
    name := ← o.strAt 5
    mod := ← o.strAt 6
    slot := (← o.sizeAt 7).toUInt16
    typeEx := (← o.sizeAt 8).toUInt8
    hwSize := (← o.sizeAt 9).toUInt8
    hitCount := ← o.sizeAt 10
    fastResume := ← o.boolAt 11
    silent := ← o.boolAt 12
    breakCondition := ← o.strAt 13
    logText := ← o.strAt 14
    logCondition := ← o.strAt 15
    commandText := ← o.strAt 16
    commandCondition := ← o.strAt 17 }

/-- A breakpoint whose character buffers are read up to their terminators. -/
def BridgeBp.seen (bp : BridgeBp) : BridgeBp :=
  { bp with
    name := cstr bp.name, mod := cstr bp.mod, breakCondition := cstr bp.breakCondition
    logText := cstr bp.logText, logCondition := cstr bp.logCondition
    commandText := cstr bp.commandText, commandCondition := cstr bp.commandCondition }

theorem BridgeBp.ofObj_bpxTup (bp : BridgeBp) : BridgeBp.ofObj (bpxTup bp) = some bp.seen := by
  simp [BridgeBp.ofObj, bpxTup, Obj.sizeAt, Obj.boolAt, Obj.strAt, Obj.elems, Obj.asSize,
    Obj.asBool, Obj.asStr, Obj.ofU16, Obj.ofU8, BridgeBp.seen]

/-- The reply to `XAUTO_REQ_GET_LOG` as a client reads it. -/
structure LogPage where
  nextIndex : UInt64
  entries : List Bytes
  remaining : UInt64
  evicted : UInt64
  deriving DecidableEq, Repr

def LogPage.ofObj (o : Obj) : Option LogPage := do
  pure {
    nextIndex := ← o.sizeAt 0
    entries := ← o.listAt Obj.asStr 1
    remaining := ← o.sizeAt 2
    evicted := ← o.sizeAt 3 }

def LogBuffer.Snapshot.page (snap : LogBuffer.Snapshot) : LogPage where
  nextIndex := .ofNat snap.nextIndex
  entries := snap.entries
  remaining := .ofNat snap.remaining
  evicted := .ofNat snap.evicted

def LogPage.toObj (page : LogPage) : Obj :=
  .array [.positiveInteger page.nextIndex, .array (page.entries.map .str),
    .positiveInteger page.remaining, .positiveInteger page.evicted]

theorem LogPage.ofObj_toObj (page : LogPage) : LogPage.ofObj page.toObj = some page := by
  simp [LogPage.ofObj, LogPage.toObj, Obj.elems, Obj.sizeAt, Obj.listAt, Obj.asSize,
    Obj.mapM_asStr, -List.mapM_map]

end Records

/-- What a request comes to. A setting that was not found is `none`, and what is packed next to the
failure is whatever the buffer holds. -/
inductive Answer
  | flag (b : Bool)
  | number (n : UInt64)
  | signed (n : Int32)
  | text (s : Bytes)
  | evaluated (value : UInt64) (success : Bool)
  | pages (pages : List MemPage)
  | memory (membuf : Option Bytes)
  | written (success : Bool)
  | registers (tup : RegDumpTup)
  | found (res : Bool) (text : Bytes)
  | settingSz (value : Option Bytes) (unset : Bytes)
  | settingUint (value : Option UInt64) (unset : UInt64)
  | disassembly (instr : DisasmInstr) (symbolized : Bytes)
  | breakpoints (bps : List BridgeBp)
  | symbol (res : Bool) (addr : UInt64) (decorated undecorated : Bytes) (type ordinal : UInt64)
  | log (page : LogPage)

namespace Answer

def readFailed : Obj := .errorResponse "XERROR_READ_FAILED" "Memory read failed"

def writeFailed : Obj := .errorResponse "XERROR_WRITE_FAILED" "Memory write failed"

/-- The reply by which a client is told. -/
def toObj (bitness : Bitness) : Answer → Obj
  | flag b => .boolean b
  | number n => .positiveInteger n
  | signed n => .ofI32 n
  | text s => .str s
  | evaluated value success => .array [.positiveInteger value, .boolean success]
  | pages ps => .array (ps.map (memPageTup bitness))
  | memory membuf => membuf.elim readFailed .bin
  | written success => if success then .boolean true else writeFailed
  | registers tup => tup.toObj
  | found res s => .array [.boolean res, .str (cstr s)]
  | settingSz value unset => .array [.boolean value.isSome, .str (cstr (value.getD unset))]
  | settingUint value unset =>
    .array [.boolean value.isSome, .positiveInteger (value.getD unset)]
  | disassembly instr symbolized => disasmTup instr symbolized
  | breakpoints bps => .array (bps.map bpxTup)
  | symbol res addr decorated undecorated type ordinal =>
    .array [.boolean res, .positiveInteger addr, .str decorated, .str undecorated,
      .positiveInteger type, .positiveInteger ordinal]
  | log page => page.toObj

/-- What is left of it for the client: texts up to their terminators, the registers that the build
has, and nothing next to a failure. -/
def seen (bitness : Bitness) : Answer → Answer
  | pages ps => pages (ps.map (MemPage.seen bitness))
  | registers tup => registers tup.seen
  | found res s => found res (cstr s)
  | settingSz value _ => settingSz (value.map cstr) []
  | settingUint value _ => settingUint value 0
  | disassembly instr symbolized => disassembly instr.seen symbolized
  | breakpoints bps => breakpoints (bps.map BridgeBp.seen)
  | answer => answer

end Answer

end XAuto
