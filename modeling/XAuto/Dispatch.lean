import XAuto.Handlers
import Mathlib.Data.List.Nodup

namespace XAuto

open Handler

/-- The commands that `_dispatch_cmd` compares the head of a request with. -/
inductive Command
  | debuggerPid
  | compatVersion
  | debuggerVersion
  | dbgEval
  | dbgCmdExecDirect
  | dbgIsRunning
  | dbgIsDebugging
  | dbgIsElevated
  | dbgMemmap
  | dbgGetBitness
  | guiRefreshViews
  | dbgReadMemory
  | dbgWriteMemory
  | dbgReadRegisters
  | dbgReadSettingSz
  | dbgWriteSettingSz
  | dbgReadSettingUint
  | dbgWriteSettingUint
  | dbgIsValidReadPtr
  | disassemble
  | assemble
  | getBreakpoints
  | getLabel
  | getComment
  | getSymbol
  | getLog
  | quit
  deriving DecidableEq, Repr

namespace Command

def all : List Command :=
  [.debuggerPid, .compatVersion, .debuggerVersion, .dbgEval, .dbgCmdExecDirect, .dbgIsRunning,
    .dbgIsDebugging, .dbgIsElevated, .dbgMemmap, .dbgGetBitness, .guiRefreshViews, .dbgReadMemory,
    .dbgWriteMemory, .dbgReadRegisters, .dbgReadSettingSz, .dbgWriteSettingSz,
    .dbgReadSettingUint, .dbgWriteSettingUint, .dbgIsValidReadPtr, .disassemble, .assemble,
    .getBreakpoints, .getLabel, .getComment, .getSymbol, .getLog, .quit]

def text : Command → String
  | .debuggerPid => "XAUTO_REQ_DEBUGGER_PID"
  | .compatVersion => "XAUTO_REQ_COMPAT_VERSION"
  | .debuggerVersion => "XAUTO_REQ_DEBUGGER_VERSION"
  | .dbgEval => "XAUTO_REQ_DBG_EVAL"
  | .dbgCmdExecDirect => "XAUTO_REQ_DBG_CMD_EXEC_DIRECT"
  | .dbgIsRunning => "XAUTO_REQ_DBG_IS_RUNNING"
  | .dbgIsDebugging => "XAUTO_REQ_DBG_IS_DEBUGGING"
  | .dbgIsElevated => "XAUTO_REQ_DBG_IS_ELEVATED"
  | .dbgMemmap => "XAUTO_REQ_DBG_MEMMAP"
  | .dbgGetBitness => "XAUTO_REQ_DBG_GET_BITNESS"
  | .guiRefreshViews => "XAUTO_REQ_GUI_REFRESH_VIEWS"
  | .dbgReadMemory => "XAUTO_REQ_DBG_READ_MEMORY"
  | .dbgWriteMemory => "XAUTO_REQ_DBG_WRITE_MEMORY"
  | .dbgReadRegisters => "XAUTO_REQ_DBG_READ_REGISTERS"
  | .dbgReadSettingSz => "XAUTO_REQ_DBG_READ_SETTING_SZ"
  | .dbgWriteSettingSz => "XAUTO_REQ_DBG_WRITE_SETTING_SZ"
  | .dbgReadSettingUint => "XAUTO_REQ_DBG_READ_SETTING_UINT"
  | .dbgWriteSettingUint => "XAUTO_REQ_DBG_WRITE_SETTING_UINT"
  | .dbgIsValidReadPtr => "XAUTO_REQ_DBG_IS_VALID_READ_PTR"
  | .disassemble => "XAUTO_REQ_DISASSEMBLE"
  | .assemble => "XAUTO_REQ_ASSEMBLE"
  | .getBreakpoints => "XAUTO_REQ_GET_BREAKPOINTS"
  | .getLabel => "XAUTO_REQ_GET_LABEL"
  | .getComment => "XAUTO_REQ_GET_COMMENT"
  | .getSymbol => "XAUTO_REQ_GET_SYMBOL"
  | .getLog => "XAUTO_REQ_GET_LOG"
  | .quit => "XAUTO_REQ_QUIT"

def name (c : Command) : Bytes := bytes c.text

def ofName (s : Bytes) : Option Command := all.find? fun c => s == c.name

theorem mem_all (c : Command) : c ∈ all := by cases c <;> decide

theorem names_nodup : (all.map name).Nodup := by decide +kernel

theorem name_injective {c d : Command} (h : c.name = d.name) : c = d :=
  List.inj_on_of_nodup_map names_nodup c.mem_all d.mem_all h

theorem ofName_eq_some {s : Bytes} {c : Command} : ofName s = some c ↔ s = c.name := by
  constructor
  · intro h
    simpa using List.find?_some h
  · rintro rfl
    obtain ⟨d, hd⟩ : ∃ d, ofName c.name = some d := by
      rw [← Option.isSome_iff_exists, ofName, List.find?_isSome]
      exact ⟨c, c.mem_all, by simp⟩
    have eq : c.name = d.name := by simpa using List.find?_some hd
    rw [hd, name_injective eq]

theorem name_length_le : ∀ c ∈ all, c.name.length ≤ 64 := by decide +kernel

end Command

inductive DispatchResult
  | cont
  | exit
  deriving DecidableEq, Repr

variable {W : Type} (env : Env W) (root : Obj)

def handler : Command → Handler W Unit
  | .debuggerPid => getDebuggerPid env
  | .compatVersion => getCompatV
  | .debuggerVersion => getDebuggerVersion env
  | .dbgEval => dbgEval env root
  | .dbgCmdExecDirect => dbgCmdExecDirect env root
  | .dbgIsRunning => dbgIsRunning env
  | .dbgIsDebugging => dbgIsDebugging env
  | .dbgIsElevated => dbgIsElevated env
  | .dbgMemmap => dbgMemmap env
  | .dbgGetBitness => dbgGetBitness env
  | .guiRefreshViews => guiRefreshViews env
  | .dbgReadMemory => dbgReadMemory env root
  | .dbgWriteMemory => dbgWriteMemory env root
  | .dbgReadRegisters => dbgReadRegs env
  | .dbgReadSettingSz => dbgReadSettingSz env root
  | .dbgWriteSettingSz => dbgWriteSettingSz env root
  | .dbgReadSettingUint => dbgReadSettingUint env root
  | .dbgWriteSettingUint => dbgWriteSettingUint env root
  | .dbgIsValidReadPtr => dbgIsValidReadPtr env root
  | .disassemble => disassembleAt env root
  | .assemble => assembleAt env root
  | .getBreakpoints => getBreakpoints env root
  | .getLabel => getLabelAt env root
  | .getComment => getCommentAt env root
  | .getSymbol => getSymbolAt env root
  | .getLog => getLog env root
  | .quit => pack (.str (bytes "OK_QUITTING"))

def dispatchCmd : Handler W DispatchResult := do
  if root.type = .str then
    let str ← convertBytes env root
    if str = bytes "PING" then
      pack (.str (bytes "PONG"))
    pure .cont
  else if root.type = .array ∧ 0 < root.elems.length then
    if (← element env root 0).type = .str then
      let cmd ← bytesArg env root 0
      match Command.ofName cmd with
      | some c => do
        handler env root c
        pure (if c = .quit then .exit else .cont)
      | none => pure .cont
    else pure .cont
  else pure .cont

end XAuto
