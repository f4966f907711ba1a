import XAuto.Bridge
import Mathlib.Data.List.DropRight

namespace XAuto

open Handler

variable {W : Type}

section Arguments

variable (env : Env W) (root : Obj)

/-- `root.via.array.ptr[i]`. -/
def element (i : Nat) : Handler W Obj := do
  note (.element i)
  match root.elems[i]? with
  | some o => pure o
  | none =>
    match env.past i with
    | some o => pure o
    | none => throw .accessViolation

/-- `root.via.array.ptr[i].type != ty || ...`, from left to right. -/
def wrongType : List (Nat × ObjType) → Handler W Bool
  | [] => pure false
  | (i, ty) :: rest => do
    if (← element env root i).type ≠ ty then pure true else wrongType rest

/-- `root.via.array.size < size || root.via.array.ptr[i].type != ty || ...`. -/
def badArgs (size : Nat) (tys : List (Nat × ObjType)) : Handler W Bool :=
  if root.elems.length < size then pure true else wrongType env root tys

/-- A copy of `n` bytes into a new string or vector. -/
def allocate (n : Nat) : Handler W Unit :=
  if n ≤ env.machine.maxLength then pure () else throw .lengthError

def convertBytes : Obj → Handler W Bytes
  | .str s => do allocate env s.length; pure s
  | .bin s => do allocate env s.length; pure s
  | _ => throw .msgpackError

/-- `convert` into a `size_t` of the build. -/
def convertSize : Obj → Handler W UInt64
  | .positiveInteger n =>
    if n.toNat < 2 ^ env.machine.bitness.bits then pure n else throw .msgpackError
  | _ => throw .msgpackError

def bytesArg (i : Nat) : Handler W Bytes := do convertBytes env (← element env root i)

def sizeArg (i : Nat) : Handler W UInt64 := do convertSize env (← element env root i)

/-- `if (size >= i + 1 && ptr[i].type == ty) ptr[i].convert(...)`. -/
def optionalArg {α : Type} (i : Nat) (ty : ObjType) (convert : Obj → Handler W α) (default : α) :
    Handler W α := do
  if root.elems.length ≥ i + 1 then
    if (← element env root i).type = ty then convert (← element env root i) else pure default
  else pure default

end Arguments

section Calls

variable (env : Env W)

def dbgMemRead (addr : UInt64) (size : Nat) : Handler W (Option (Vector UInt8 size)) := do
  let res ← call (env.bridge.dbgMemRead addr size)
  note (.dbgMemRead addr size res.isSome)
  pure res

def dbgMemWrite (addr : UInt64) (data : Bytes) : Handler W Bool := do
  let res ← call (env.bridge.dbgMemWrite addr data)
  note (.dbgMemWrite addr data res)
  pure res

def bridgeAlloc (size : Nat) : Handler W CString := do
  let block ← call (env.bridge.bridgeAlloc size)
  note (.bridgeAlloc block.ptr)
  pure block

def bridgeFree (block : Nat) : Handler W Unit := do
  note (.bridgeFree block)
  call (env.bridge.bridgeFree block)

/-- `BridgeFree` of a pointer that was never written. -/
def freeStray (ptr : Nat) : Handler W Unit := do
  if env.stray.freeable ptr then bridgeFree env ptr else throw .accessViolation

/-- `mm.page[i]` for `n` turns from `i` on, behind a pointer that was never written. -/
def strayPages (page : Nat) : Nat → Nat → Handler W (List MemPage)
  | 0, _ => pure []
  | n + 1, i => do
    match env.stray.pageAt page i with
    | some found => do pure (found :: (← strayPages page n (i + 1)))
    | none => throw .accessViolation

end Calls

section Handlers

variable (env : Env W)

def getDebuggerPid : Handler W Unit := do
  pack (.ofU32 (← call env.bridge.getCurrentProcessId))

def xautoCompatVersion : Bytes := bytes "ghost_fungus"

def getCompatV : Handler W Unit := pack (.str xautoCompatVersion)

def getDebuggerVersion : Handler W Unit := do
  pack (.ofI32 (← call env.bridge.bridgeGetDbgVersion))

def dbgIsRunning : Handler W Unit := do pack (.boolean (← call env.bridge.dbgIsRunning))

def dbgIsDebugging : Handler W Unit := do pack (.boolean (← call env.bridge.dbgIsDebugging))

def dbgIsElevated : Handler W Unit := do
  pack (.boolean (← call env.bridge.bridgeIsProcessElevated))

def dbgGetBitness : Handler W Unit := pack (.ofNat env.machine.bitness.bits)

def memPageTup (bitness : Bitness) (page : MemPage) : Obj :=
  .array [.positiveInteger page.baseAddress, .positiveInteger page.allocationBase,
    .ofU32 page.allocationProtect,
    match bitness with
    | .x64 => .ofU16 page.partitionId
    | .x86 => .ofNat 0,
    .positiveInteger page.regionSize, .ofU32 page.state, .ofU32 page.protect, .ofU32 page.type,
    .str (cstr page.info)]

/-- The turns of `for (size_t i = 0; i < mm.count; i++)`: a negative count is a large one. -/
def RawMemMap.turns (bitness : Bitness) (mm : RawMemMap) : Nat :=
  (mm.count.toInt % 2 ^ bitness.bits).toNat

/-- A failed `DbgMemMap` leaves `mm` as it was on the stack, and the loop goes through whatever its
count and its pointer happen to be. -/
def dbgMemmap : Handler W Unit := do
  match ← call env.bridge.dbgMemMap with
  | some mm => do
    pack (.array (mm.pages.map (memPageTup env.machine.bitness)))
    bridgeFree env mm.page
  | none => do
    let mm := env.junk.mm
    let pages ← strayPages env mm.page (mm.turns env.machine.bitness) 0
    pack (.array (pages.map (memPageTup env.machine.bitness)))
    freeStray env mm.page

def guiRefreshViews : Handler W Unit := do
  call env.bridge.guiUpdateAllViews
  pack (.boolean true)

/-- `"%X"`. -/
def hexUpper (n : Nat) : String := String.ofList ((Nat.toDigits 16 n).map Char.toUpper)

/-- The name of an error or status code, all zero when the format function is not there yet. -/
def codeName (format : String) (code : UInt32) : Handler W (Vector UInt8 128) := do
  let name ← call (env.bridge.stringFormatInline
    (bytes ("\x7b" ++ format ++ "@" ++ hexUpper code.toNat ++ "\x7d")))
  pure (name.getD (Vector.replicate 128 0))

/-- A failed `DbgGetRegDumpEx` leaves `rd` as it was on the stack. -/
def dbgReadRegs : Handler W Unit := do
  let rd := (← call env.bridge.dbgGetRegDumpEx).getD env.junk.rd
  let lastErrorName ← codeName env "winerrorname" rd.lastError
  let lastStatusName ← codeName env "ntstatusname" rd.lastStatus
  pack (regDumpTup env.machine.bitness rd lastErrorName lastStatusName).toObj

variable (root : Obj)

def dbgEval : Handler W Unit := do
  if ← badArgs env root 2 [(1, .str)] then
    pack (.errorResponse "XERROR_BAD_EVAL" "Invalid or missing eval string")
  else
    let cmd ← bytesArg env root 1
    let (res, success) ← call (env.bridge.dbgEval (cstr cmd))
    pack (.array [.positiveInteger res, .boolean success])

def dbgCmdExecDirect : Handler W Unit := do
  if ← badArgs env root 2 [(1, .str)] then
    pack (.errorResponse "XERROR_BAD_EVAL" "Invalid or missing command string")
  else
    let cmd ← bytesArg env root 1
    note (.dbgCmdExecDirect (cstr cmd))
    pack (.boolean (← call (env.bridge.dbgCmdExecDirect (cstr cmd))))

def dbgReadMemory : Handler W Unit := do
  if ← badArgs env root 3 [(1, .positiveInteger), (2, .positiveInteger)] then
    pack (.errorResponse "XERROR_BAD_READ" "Invalid or missing memory read parameters")
  else
    let addr ← sizeArg env root 1
    let size ← sizeArg env root 2
    allocate env size.toNat
    match ← dbgMemRead env addr size.toNat with
    | none => pack (.errorResponse "XERROR_READ_FAILED" "Memory read failed")
    | some membuf => pack (.bin membuf.toList)

def dbgWriteMemory : Handler W Unit := do
  if ← badArgs env root 3 [(1, .positiveInteger), (2, .bin)] then
    pack (.errorResponse "XERROR_BAD_WRITE" "Invalid or missing memory write parameters")
  else
    let addr ← sizeArg env root 1
    let data ← bytesArg env root 2
    if ← dbgMemWrite env addr data then
      pack (.boolean true)
    else
      pack (.errorResponse "XERROR_WRITE_FAILED" "Memory write failed")

def dbgReadSettingSz : Handler W Unit := do
  if ← badArgs env root 3 [(1, .str), (2, .str)] then
    pack (.errorResponse "XERROR_BAD_SETTING" "Invalid or missing setting string")
  else
    let section_ ← bytesArg env root 1
    let settingName ← bytesArg env root 2
    let settingVal ← bridgeAlloc env env.maxSettingSize
    let res ← call (env.bridge.bridgeSettingGet (cstr section_) (cstr settingName))
    pack (.array [.boolean res.isSome, .str (cstr (res.getD settingVal.text))])
    bridgeFree env settingVal.ptr

/-- The check asks for three elements and looks at the fourth. -/
def dbgWriteSettingSz : Handler W Unit := do
  if ← badArgs env root 3 [(1, .str), (2, .str), (3, .str)] then
    pack (.errorResponse "XERROR_BAD_SETTING" "Invalid or missing setting string")
  else
    let section_ ← bytesArg env root 1
    let settingName ← bytesArg env root 2
    let settingVal ← bytesArg env root 3
    note (.bridgeSettingSet (cstr section_) (cstr settingName) (cstr settingVal))
    pack (.boolean (← call
      (env.bridge.bridgeSettingSet (cstr section_) (cstr settingName) (cstr settingVal))))

/-- A failed `BridgeSettingGetUint` leaves `setting_val` as it was on the stack. -/
def dbgReadSettingUint : Handler W Unit := do
  if ← badArgs env root 3 [(1, .str), (2, .str)] then
    pack (.errorResponse "XERROR_BAD_SETTING" "Invalid or missing setting string")
  else
    let section_ ← bytesArg env root 1
    let settingName ← bytesArg env root 2
    let res ← call (env.bridge.bridgeSettingGetUint (cstr section_) (cstr settingName))
    pack (.array [.boolean res.isSome, .positiveInteger (res.getD env.junk.settingVal)])

/-- The check asks for three elements and looks at the fourth. -/
def dbgWriteSettingUint : Handler W Unit := do
  if ← badArgs env root 3 [(1, .str), (2, .str), (3, .positiveInteger)] then
    pack (.errorResponse "XERROR_BAD_SETTING" "Invalid or missing setting string")
  else
    let section_ ← bytesArg env root 1
    let settingName ← bytesArg env root 2
    let settingVal ← sizeArg env root 3
    note (.bridgeSettingSetUint (cstr section_) (cstr settingName) settingVal)
    pack (.boolean (← call
      (env.bridge.bridgeSettingSetUint (cstr section_) (cstr settingName) settingVal)))

def dbgIsValidReadPtr : Handler W Unit := do
  if ← badArgs env root 2 [(1, .positiveInteger)] then
    pack (.boolean false)
  else
    let addr ← sizeArg env root 1
    pack (.boolean (← call (env.bridge.dbgMemIsValidReadPtr addr)))

def disasmArgTup (arg : DisasmArg) : Obj :=
  .array [.str (cstr arg.mnemonic), .positiveInteger arg.type, .positiveInteger arg.segment,
    .positiveInteger arg.constant, .positiveInteger arg.value, .positiveInteger arg.memvalue]

/-- The symbolized text loses its trailing spaces. -/
def disassembleAt : Handler W Unit := do
  if ← badArgs env root 2 [(1, .positiveInteger)] then
    pack (.boolean false)
  else
    let addr ← sizeArg env root 1
    let instr ← call (env.bridge.dbgDisasmAt addr)
    let symbolizedInstruction :=
      match ← call (env.bridge.guiGetDisassembly addr) with
      | some symbolizedDisassembly => (cstr symbolizedDisassembly).rdropWhile (· = 32)
      | none => cstr instr.instruction
    pack (.array [.str (cstr instr.instruction), .str symbolizedInstruction,
      .positiveInteger instr.argcount, .positiveInteger instr.instrSize,
      .positiveInteger instr.type,
      .array [disasmArgTup (instr.arg 0), disasmArgTup (instr.arg 1), disasmArgTup (instr.arg 2)]])

def assembleAt : Handler W Unit := do
  if ← badArgs env root 3 [(1, .positiveInteger), (2, .str)] then
    pack (.boolean false)
  else
    let addr ← sizeArg env root 1
    let instr ← bytesArg env root 2
    note (.dbgAssembleAt addr (cstr instr))
    pack (.boolean (← call (env.bridge.dbgAssembleAt addr (cstr instr))))

def bpxTup (bp : BridgeBp) : Obj :=
  .array [.positiveInteger bp.type, .positiveInteger bp.addr, .boolean bp.enabled,
    .boolean bp.singleshoot, .boolean bp.active, .str (cstr bp.name), .str (cstr bp.mod),
    .ofU16 bp.slot, .ofU8 bp.typeEx, .ofU8 bp.hwSize, .positiveInteger bp.hitCount,
    .boolean bp.fastResume, .boolean bp.silent, .str (cstr bp.breakCondition),
    .str (cstr bp.logText), .str (cstr bp.logCondition), .str (cstr bp.commandText),
    .str (cstr bp.commandCondition)]

/-- A list that was not written has no breakpoints, but its pointer is freed all the same. -/
def getBreakpoints : Handler W Unit := do
  if ← badArgs env root 2 [(1, .positiveInteger)] then
    pack (.boolean false)
  else
    let bpType ← sizeArg env root 1
    match ← call (env.bridge.dbgGetBpList bpType.toUInt32) with
    | some bpList => do
      bridgeFree env bpList.bp
      pack (.array (bpList.bps.map bpxTup))
    | none => do
      freeStray env env.bpList
      pack (.array [])

def getLabelAt : Handler W Unit := do
  if ← badArgs env root 3 [(1, .positiveInteger), (2, .positiveInteger)] then
    pack (.boolean false)
  else
    let addr ← sizeArg env root 1
    let sreg ← sizeArg env root 2
    let (res, text) ← call (env.bridge.dbgGetLabelAt addr sreg.toUInt32)
    pack (.array [.boolean res, .str (cstr text)])

def getCommentAt : Handler W Unit := do
  if ← badArgs env root 2 [(1, .positiveInteger)] then
    pack (.boolean false)
  else
    let addr ← sizeArg env root 1
    let (res, text) ← call (env.bridge.dbgGetCommentAt addr)
    pack (.array [.boolean res, .str (cstr text)])

def symbolText (symbol : Option CString) : Bytes :=
  match symbol with
  | some s => cstr s.text
  | none => []

/-- `BridgeFree` of a symbol name that may be null. -/
def freeSymbol (symbol : Option CString) : Handler W Unit :=
  bridgeFree env ((symbol.map CString.ptr).getD 0)

/-- `info` is allocated before the check, whose early return keeps it. -/
def getSymbolAt : Handler W Unit := do
  let info ← bridgeAlloc env env.sizeofSymbolInfo
  if ← badArgs env root 2 [(1, .positiveInteger)] then
    pack (.boolean false)
  else
    let addr ← sizeArg env root 1
    let (res, symbol) ← call (env.bridge.dbgGetSymbolInfoAt addr)
    pack (.array [.boolean res, .positiveInteger symbol.addr,
      .str (symbolText symbol.decoratedSymbol), .str (symbolText symbol.undecoratedSymbol),
      .positiveInteger symbol.type, .positiveInteger symbol.ordinal])
    if res then
      if symbol.freeDecorated then freeSymbol env symbol.decoratedSymbol
      if symbol.freeUndecorated then freeSymbol env symbol.undecoratedSymbol
    bridgeFree env info.ptr

def getLog : Handler W Unit := do
  let sinceIndex ← optionalArg env root 1 .positiveInteger (convertSize env) 0
  let limit ← optionalArg env root 2 .positiveInteger (convertSize env) 0
  let filter ← optionalArg env root 3 .str (convertBytes env) []
  let snap := (env.log (← world)).getSince sinceIndex.toNat limit.toNat filter
  pack (.array [.ofNat snap.nextIndex, .array (snap.entries.map .str), .ofNat snap.remaining,
    .ofNat snap.evicted])

end Handlers

end XAuto
