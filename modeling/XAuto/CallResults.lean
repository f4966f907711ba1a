import XAuto.Answers
import XAuto.Calls

namespace XAuto

variable {W : Type}

namespace Call

section Results

variable (env : Env W)

/-- A bridge call with what is made of its result. -/
def asking {α : Type} (f : W → α × W) (answer : α → Answer) (w : W) : Answer × W :=
  (answer (f w).1, (f w).2)

/-- Frees of names that the debugger allocated. -/
def freeing (free : Bool) (symbol : Option CString) (w : W) : W :=
  if free then (env.bridge.bridgeFree ((symbol.map CString.ptr).getD 0) w).2 else w

/-- What a call does to the debugger and what it comes to. A list that the bridge leaves unwritten
is taken as an empty one. -/
def result : Call → W → Answer × W
  | ping, w => (.text (bytes "PONG"), w)
  | debuggerPid, w => asking env.bridge.getCurrentProcessId (fun pid => .number pid.toUInt64) w
  | compatVersion, w => (.text xautoCompatVersion, w)
  | debuggerVersion, w => asking env.bridge.bridgeGetDbgVersion .signed w
  | dbgEval cmd, w => asking (env.bridge.dbgEval (cstr cmd)) (fun res => .evaluated res.1 res.2) w
  | dbgCmdExecDirect cmd, w => asking (env.bridge.dbgCmdExecDirect (cstr cmd)) .flag w
  | dbgIsRunning, w => asking env.bridge.dbgIsRunning .flag w
  | dbgIsDebugging, w => asking env.bridge.dbgIsDebugging .flag w
  | dbgIsElevated, w => asking env.bridge.bridgeIsProcessElevated .flag w
  | dbgMemmap, w =>
    let mm := (env.bridge.dbgMemMap w).1.getD ⟨0, []⟩
    (.pages mm.pages, (env.bridge.bridgeFree mm.page (env.bridge.dbgMemMap w).2).2)
  | dbgGetBitness, w => (.number (.ofNat env.machine.bitness.bits), w)
  | guiRefreshViews, w => asking env.bridge.guiUpdateAllViews (fun _ => .flag true) w
  | dbgReadMemory addr size, w =>
    asking (env.bridge.dbgMemRead addr size.toNat) (fun membuf => .memory (membuf.map (·.toList))) w
  | dbgWriteMemory addr data, w => asking (env.bridge.dbgMemWrite addr data) .written w
  | dbgReadRegisters, w =>
    let dump := env.bridge.dbgGetRegDumpEx w
    let rd := dump.1.getD env.junk.rd
    let name (format : String) (code : UInt32) : W → Option (Vector UInt8 128) × W :=
      env.bridge.stringFormatInline
        (bytes ("\x7b" ++ format ++ "@" ++ hexUpper code.toNat ++ "\x7d"))
    let lastErrorName := name "winerrorname" rd.lastError dump.2
    let lastStatusName := name "ntstatusname" rd.lastStatus lastErrorName.2
    let zeros := Vector.replicate 128 0
    (.registers (regDumpTup env.machine.bitness rd (lastErrorName.1.getD zeros)
      (lastStatusName.1.getD zeros)), lastStatusName.2)
  | dbgReadSettingSz section_ settingName, w =>
    let block := env.bridge.bridgeAlloc env.maxSettingSize w
    let res := env.bridge.bridgeSettingGet (cstr section_) (cstr settingName) block.2
    (.settingSz res.1 block.1.text, (env.bridge.bridgeFree block.1.ptr res.2).2)
  | dbgWriteSettingSz section_ settingName settingVal, w =>
    asking (env.bridge.bridgeSettingSet (cstr section_) (cstr settingName) (cstr settingVal))
      .flag w
  | dbgReadSettingUint section_ settingName, w =>
    asking (env.bridge.bridgeSettingGetUint (cstr section_) (cstr settingName))
      (.settingUint · env.junk.settingVal) w
  | dbgWriteSettingUint section_ settingName settingVal, w =>
    asking (env.bridge.bridgeSettingSetUint (cstr section_) (cstr settingName) settingVal) .flag w
  | dbgIsValidReadPtr addr, w => asking (env.bridge.dbgMemIsValidReadPtr addr) .flag w
  | disassemble addr, w =>
    let instr := env.bridge.dbgDisasmAt addr w
    let symbolized := env.bridge.guiGetDisassembly addr instr.2
    (.disassembly instr.1 (symbolized.1.elim (cstr instr.1.instruction)
      fun text => (cstr text).rdropWhile (· = 32)), symbolized.2)
  | assemble addr instr, w => asking (env.bridge.dbgAssembleAt addr (cstr instr)) .flag w
  | getBreakpoints bpType, w =>
    let list := env.bridge.dbgGetBpList bpType.toUInt32 w
    let bpList := list.1.getD ⟨0, []⟩
    (.breakpoints bpList.bps, (env.bridge.bridgeFree bpList.bp list.2).2)
  | getLabel addr sreg, w =>
    asking (env.bridge.dbgGetLabelAt addr sreg.toUInt32) (fun res => .found res.1 res.2) w
  | getComment addr, w => asking (env.bridge.dbgGetCommentAt addr) (fun res => .found res.1 res.2) w
  | getSymbol addr, w =>
    let info := env.bridge.bridgeAlloc env.sizeofSymbolInfo w
    let found := env.bridge.dbgGetSymbolInfoAt addr info.2
    let symbol := found.1.2
    let named := freeing env (found.1.1 && symbol.freeUndecorated) symbol.undecoratedSymbol
      (freeing env (found.1.1 && symbol.freeDecorated) symbol.decoratedSymbol found.2)
    (.symbol found.1.1 symbol.addr (symbolText symbol.decoratedSymbol)
        (symbolText symbol.undecoratedSymbol) symbol.type symbol.ordinal,
      (env.bridge.bridgeFree info.1.ptr named).2)
  | getLog sinceIndex limit filter, w =>
    (.log ((env.log w).getSince sinceIndex.toNat limit.toNat filter).page, w)
  | quit, w => (.text (bytes "OK_QUITTING"), w)

/-- What a call does to the debugger and the reply to it. -/
def perform (call : Call) (w : W) : Obj × W :=
  ((call.result env w).1.toObj env.machine.bitness, (call.result env w).2)

/-- The call goes on with a list that the bridge left unwritten. -/
def Unwritten (w : W) : Call → Prop
  | dbgMemmap => (env.bridge.dbgMemMap w).1 = none
  | getBreakpoints bpType => (env.bridge.dbgGetBpList bpType.toUInt32 w).1 = none
  | _ => False

/-- The bridge writes all that the call passes on. -/
def Settled (w : W) : Call → Prop
  | dbgMemmap => (env.bridge.dbgMemMap w).1 ≠ none
  | getBreakpoints bpType => (env.bridge.dbgGetBpList bpType.toUInt32 w).1 ≠ none
  | dbgReadRegisters => (env.bridge.dbgGetRegDumpEx w).1 ≠ none
  | _ => True

theorem Settled.written {call : Call} {w : W} (h : call.Settled env w) :
    ¬call.Unwritten env w := by
  cases call with
  | dbgMemmap | getBreakpoints => exact h
  | _ => exact id

/-- What a client learns from such a call does not depend on what was left in the locals. -/
theorem Settled.seen_withJunk {call : Call} {w : W} (h : call.Settled env w) (junk : Junk)
    (bitness : Bitness) :
    (call.result (env.withJunk junk) w).1.seen bitness = (call.result env w).1.seen bitness ∧
      (call.result (env.withJunk junk) w).2 = (call.result env w).2 := by
  cases call with
  | dbgReadRegisters =>
    obtain ⟨rd, hrd⟩ := Option.ne_none_iff_exists'.mp h
    have same : ((env.withJunk junk).bridge.dbgGetRegDumpEx w).1 = some rd := hrd
    simp only [result, hrd, same, Option.getD_some]
    exact ⟨rfl, rfl⟩
  | _ => exact ⟨rfl, rfl⟩

theorem unwritten_of_ofCommand {root : Obj} {c : Command} {call : Call}
    (h : ofCommand root c = some call) (w : W) :
    c.Unwritten env root w ↔ call.Unwritten env w := by
  cases c with
  | dbgMemmap =>
    obtain rfl := Option.some.inj h
    exact Iff.rfl
  | getBreakpoints =>
    obtain ⟨bpType, read, rfl⟩ := Option.map_eq_some_iff.mp h
    rw [Obj.sizeAt_eq_some] at read
    simp [Command.Unwritten, Unwritten, read]
  | _ =>
    simp only [ofCommand, Option.map_eq_some_iff, Option.bind_eq_bind, Option.bind_eq_some_iff,
      Option.pure_def, Option.some.injEq] at h
    grind [Command.Unwritten, Unwritten]

end Results

end Call

/-- The reply to a call as a client reads it. -/
def Answer.ofObj (call : Call) (o : Obj) : Option Answer :=
  match call with
  | .ping | .compatVersion | .quit => o.asStr.map text
  | .debuggerPid | .dbgGetBitness => o.asSize.map number
  | .debuggerVersion => o.asInt.map signed
  | .dbgEval _ => do pure (evaluated (← o.sizeAt 0) (← o.boolAt 1))
  | .dbgMemmap => (o.elems.mapM MemPage.ofObj).map pages
  | .dbgReadMemory _ _ =>
    if o.asError = readFailed.asError then some (memory none) else o.asBin.map (memory ∘ some)
  | .dbgWriteMemory _ _ =>
    if o.asError = writeFailed.asError then some (written false) else o.asBool.map written
  | .dbgReadRegisters => (RegDumpTup.ofObj o).map registers
  | .dbgReadSettingSz _ _ => do
    let res ← o.boolAt 0
    let text ← o.strAt 1
    pure (settingSz (if res then some text else none) [])
  | .dbgReadSettingUint _ _ => do
    let res ← o.boolAt 0
    let value ← o.sizeAt 1
    pure (settingUint (if res then some value else none) 0)
  | .getLabel _ _ | .getComment _ => do pure (found (← o.boolAt 0) (← o.strAt 1))
  | .disassemble _ => do pure (disassembly (← DisasmInstr.ofObj o) (← o.strAt 1))
  | .getBreakpoints _ => (o.elems.mapM BridgeBp.ofObj).map breakpoints
  | .getSymbol _ => do
    pure (symbol (← o.boolAt 0) (← o.sizeAt 1) (← o.strAt 2) (← o.strAt 3) (← o.sizeAt 4)
      (← o.sizeAt 5))
  | .getLog _ _ _ => (LogPage.ofObj o).map log
  | .dbgCmdExecDirect _ | .dbgIsRunning | .dbgIsDebugging | .dbgIsElevated | .guiRefreshViews
  | .dbgWriteSettingSz _ _ _ | .dbgWriteSettingUint _ _ _ | .dbgIsValidReadPtr _
  | .assemble _ _ => o.asBool.map flag

/-- What a client reads in the reply to a call is what the call came to. -/
theorem Call.ofObj_perform (env : Env W) (call : Call) (w : W) :
    Answer.ofObj call (call.perform env w).1 =
      some ((call.result env w).1.seen env.machine.bitness) := by
  unfold perform
  cases call with
  | debuggerVersion => exact congrArg (Option.map Answer.signed) (Obj.asInt_ofI32 _)
  | dbgMemmap =>
    have read := Obj.mapM_map (l := ((env.bridge.dbgMemMap w).1.getD ⟨0, []⟩).pages) fun page _ =>
      MemPage.ofObj_memPageTup env.machine.bitness page
    exact congrArg (Option.map Answer.pages) read
  | dbgReadMemory addr size =>
    cases read : (env.bridge.dbgMemRead addr size.toNat w).1 with
    | none => simp [result, asking, read, Answer.toObj, Answer.ofObj, Answer.seen]
    | some membuf =>
      simp [result, asking, read, Answer.toObj, Answer.ofObj, Answer.seen, Answer.readFailed,
        Obj.errorResponse, Obj.asError, Obj.asBin]
  | dbgWriteMemory addr data =>
    cases wrote : (env.bridge.dbgMemWrite addr data w).1 with
    | true =>
      simp [result, asking, wrote, Answer.toObj, Answer.ofObj, Answer.seen, Answer.writeFailed,
        Obj.errorResponse, Obj.asError, Obj.asBool]
    | false => simp [result, asking, wrote, Answer.toObj, Answer.ofObj, Answer.seen]
  | dbgReadRegisters =>
    exact congrArg (Option.map Answer.registers) (RegDumpTup.ofObj_regDumpTup _ _ _ _)
  | dbgReadSettingSz section_ settingName =>
    let block := env.bridge.bridgeAlloc env.maxSettingSize w
    cases read : (env.bridge.bridgeSettingGet (cstr section_) (cstr settingName) block.2).1 with
    | none => simp [result, block, read, Answer.toObj, Answer.ofObj, Answer.seen, Obj.boolAt,
        Obj.strAt, Obj.elems, Obj.asBool, Obj.asStr]
    | some value => simp [result, block, read, Answer.toObj, Answer.ofObj, Answer.seen, Obj.boolAt,
        Obj.strAt, Obj.elems, Obj.asBool, Obj.asStr]
  | dbgReadSettingUint section_ settingName =>
    cases read : (env.bridge.bridgeSettingGetUint (cstr section_) (cstr settingName) w).1 with
    | none => simp [result, asking, read, Answer.toObj, Answer.ofObj, Answer.seen, Obj.boolAt,
        Obj.sizeAt, Obj.elems, Obj.asBool, Obj.asSize]
    | some value => simp [result, asking, read, Answer.toObj, Answer.ofObj, Answer.seen,
        Obj.boolAt, Obj.sizeAt, Obj.elems, Obj.asBool, Obj.asSize]
  | disassemble addr =>
    simp [Answer.ofObj, result, Answer.toObj, Answer.seen, DisasmInstr.ofObj_disasmTup]
    rfl
  | getBreakpoints bpType =>
    have read := Obj.mapM_map
      (l := ((env.bridge.dbgGetBpList bpType.toUInt32 w).1.getD ⟨0, []⟩).bps) fun bp _ =>
        BridgeBp.ofObj_bpxTup bp
    exact congrArg (Option.map Answer.breakpoints) read
  | getLog sinceIndex limit filter =>
    exact congrArg (Option.map Answer.log) (LogPage.ofObj_toObj _)
  | _ => rfl

end XAuto
