import XAuto.SettingWrites

namespace XAuto

open Handler Effect

variable {W : Type}

/-- What a client can ask for: a command together with the arguments it takes. -/
inductive Call
  | ping
  | debuggerPid
  | compatVersion
  | debuggerVersion
  | dbgEval (cmd : Bytes)
  | dbgCmdExecDirect (cmd : Bytes)
  | dbgIsRunning
  | dbgIsDebugging
  | dbgIsElevated
  | dbgMemmap
  | dbgGetBitness
  | guiRefreshViews
  | dbgReadMemory (addr size : UInt64)
  | dbgWriteMemory (addr : UInt64) (data : Bytes)
  | dbgReadRegisters
  | dbgReadSettingSz (section_ settingName : Bytes)
  | dbgWriteSettingSz (section_ settingName settingVal : Bytes)
  | dbgReadSettingUint (section_ settingName : Bytes)
  | dbgWriteSettingUint (section_ settingName : Bytes) (settingVal : UInt64)
  | dbgIsValidReadPtr (addr : UInt64)
  | disassemble (addr : UInt64)
  | assemble (addr : UInt64) (instr : Bytes)
  | getBreakpoints (bpType : UInt64)
  | getLabel (addr sreg : UInt64)
  | getComment (addr : UInt64)
  | getSymbol (addr : UInt64)
  | getLog (sinceIndex limit : UInt64) (filter : Bytes)
  | quit
  deriving DecidableEq, Repr

namespace Call

/-- The call that a command makes of the elements of a request. -/
def ofCommand (root : Obj) : Command → Option Call
  | .debuggerPid => some debuggerPid
  | .compatVersion => some compatVersion
  | .debuggerVersion => some debuggerVersion
  | .dbgEval => (root.strAt 1).map dbgEval
  | .dbgCmdExecDirect => (root.strAt 1).map dbgCmdExecDirect
  | .dbgIsRunning => some dbgIsRunning
  | .dbgIsDebugging => some dbgIsDebugging
  | .dbgIsElevated => some dbgIsElevated
  | .dbgMemmap => some dbgMemmap
  | .dbgGetBitness => some dbgGetBitness
  | .guiRefreshViews => some guiRefreshViews
  | .dbgReadMemory => do pure (dbgReadMemory (← root.sizeAt 1) (← root.sizeAt 2))
  | .dbgWriteMemory => do pure (dbgWriteMemory (← root.sizeAt 1) (← root.binAt 2))
  | .dbgReadRegisters => some dbgReadRegisters
  | .dbgReadSettingSz => do pure (dbgReadSettingSz (← root.strAt 1) (← root.strAt 2))
  | .dbgWriteSettingSz => do
    pure (dbgWriteSettingSz (← root.strAt 1) (← root.strAt 2) (← root.strAt 3))
  | .dbgReadSettingUint => do pure (dbgReadSettingUint (← root.strAt 1) (← root.strAt 2))
  | .dbgWriteSettingUint => do
    pure (dbgWriteSettingUint (← root.strAt 1) (← root.strAt 2) (← root.sizeAt 3))
  | .dbgIsValidReadPtr => (root.sizeAt 1).map dbgIsValidReadPtr
  | .disassemble => (root.sizeAt 1).map disassemble
  | .assemble => do pure (assemble (← root.sizeAt 1) (← root.strAt 2))
  | .getBreakpoints => (root.sizeAt 1).map getBreakpoints
  | .getLabel => do pure (getLabel (← root.sizeAt 1) (← root.sizeAt 2))
  | .getComment => (root.sizeAt 1).map getComment
  | .getSymbol => (root.sizeAt 1).map getSymbol
  | .getLog => some (getLog ((root.sizeAt 1).getD 0) ((root.sizeAt 2).getD 0)
      ((root.strAt 3).getD []))
  | .quit => some quit

def ofObj : Obj → Option Call
  | .str s => if s = bytes "PING" then some ping else none
  | .array elems => (Obj.array elems).command.bind (ofCommand (.array elems))
  | _ => none

/-- The request by which a client makes a call. -/
def toObj : Call → Obj
  | ping => .str (bytes "PING")
  | debuggerPid => request .debuggerPid []
  | compatVersion => request .compatVersion []
  | debuggerVersion => request .debuggerVersion []
  | dbgEval cmd => request .dbgEval [.str cmd]
  | dbgCmdExecDirect cmd => request .dbgCmdExecDirect [.str cmd]
  | dbgIsRunning => request .dbgIsRunning []
  | dbgIsDebugging => request .dbgIsDebugging []
  | dbgIsElevated => request .dbgIsElevated []
  | dbgMemmap => request .dbgMemmap []
  | dbgGetBitness => request .dbgGetBitness []
  | guiRefreshViews => request .guiRefreshViews []
  | dbgReadMemory addr size =>
    request .dbgReadMemory [.positiveInteger addr, .positiveInteger size]
  | dbgWriteMemory addr data => request .dbgWriteMemory [.positiveInteger addr, .bin data]
  | dbgReadRegisters => request .dbgReadRegisters []
  | dbgReadSettingSz section_ settingName =>
    request .dbgReadSettingSz [.str section_, .str settingName]
  | dbgWriteSettingSz section_ settingName settingVal =>
    request .dbgWriteSettingSz [.str section_, .str settingName, .str settingVal]
  | dbgReadSettingUint section_ settingName =>
    request .dbgReadSettingUint [.str section_, .str settingName]
  | dbgWriteSettingUint section_ settingName settingVal =>
    request .dbgWriteSettingUint [.str section_, .str settingName, .positiveInteger settingVal]
  | dbgIsValidReadPtr addr => request .dbgIsValidReadPtr [.positiveInteger addr]
  | disassemble addr => request .disassemble [.positiveInteger addr]
  | assemble addr instr => request .assemble [.positiveInteger addr, .str instr]
  | getBreakpoints bpType => request .getBreakpoints [.positiveInteger bpType]
  | getLabel addr sreg => request .getLabel [.positiveInteger addr, .positiveInteger sreg]
  | getComment addr => request .getComment [.positiveInteger addr]
  | getSymbol addr => request .getSymbol [.positiveInteger addr]
  | getLog sinceIndex limit filter =>
    request .getLog [.positiveInteger sinceIndex, .positiveInteger limit, .str filter]
  | quit => request .quit []

theorem ofObj_request (c : Command) (args : List Obj) :
    ofObj (request c args) = ofCommand (request c args) c := by
  have hcmd : (request c args).command = some c := command_request c args
  exact congrArg (Option.bind · (ofCommand (request c args))) hcmd

theorem ofObj_toObj (call : Call) : ofObj call.toObj = some call := by
  cases call with
  | ping => rfl
  | _ => exact ofObj_request _ _

/-- A command takes the elements of a request exactly when they pass its check. -/
theorem exists_ofCommand {root : Obj} {c : Command} :
    (∃ call, ofCommand root c = some call) ↔ HasArgs root c.args := by
  unfold HasArgs
  cases c <;>
    simp only [Command.args, List.forall_mem_cons, List.not_mem_nil, ← Obj.exists_strAt,
      ← Obj.exists_sizeAt, ← Obj.exists_binAt]
  all_goals simp [ofCommand, Option.bind_eq_some_iff]

section Fits

variable {m : Machine}

/-- The process can represent and hold the arguments of a call, and what is read for it. -/
def Fits (m : Machine) : Call → Prop
  | dbgEval cmd | dbgCmdExecDirect cmd => (Obj.str cmd).Fits m
  | dbgReadMemory addr size =>
    ((Obj.positiveInteger addr).Fits m ∧ (Obj.positiveInteger size).Fits m) ∧
      size.toNat ≤ m.maxLength
  | dbgWriteMemory addr data => (Obj.positiveInteger addr).Fits m ∧ (Obj.bin data).Fits m
  | dbgReadSettingSz section_ settingName | dbgReadSettingUint section_ settingName =>
    (Obj.str section_).Fits m ∧ (Obj.str settingName).Fits m
  | dbgWriteSettingSz section_ settingName settingVal =>
    (Obj.str section_).Fits m ∧ (Obj.str settingName).Fits m ∧ (Obj.str settingVal).Fits m
  | dbgWriteSettingUint section_ settingName settingVal =>
    (Obj.str section_).Fits m ∧ (Obj.str settingName).Fits m ∧
      (Obj.positiveInteger settingVal).Fits m
  | dbgIsValidReadPtr addr | disassemble addr | getComment addr | getSymbol addr
  | getBreakpoints addr => (Obj.positiveInteger addr).Fits m
  | assemble addr instr => (Obj.positiveInteger addr).Fits m ∧ (Obj.str instr).Fits m
  | getLabel addr sreg => (Obj.positiveInteger addr).Fits m ∧ (Obj.positiveInteger sreg).Fits m
  | getLog sinceIndex limit filter =>
    (Obj.positiveInteger sinceIndex).Fits m ∧ (Obj.positiveInteger limit).Fits m ∧
      (Obj.str filter).Fits m
  | _ => True

instance : DecidablePred (Fits m) := fun call => by
  cases call <;> unfold Fits <;> infer_instance

theorem inBounds_toObj (call : Call) : call.toObj.InBounds := by
  rw [inBounds_iff]
  rintro ⟨length, -, hcmd⟩
  cases call with
  | ping => cases length
  | dbgReadMemory | dbgWriteMemory | dbgReadSettingSz | dbgReadSettingUint | assemble | getLabel =>
    rw [toObj, command_request] at hcmd
    rcases hcmd with hcmd | hcmd <;> cases hcmd
  | _ => cases length

theorem requestFits_request {c : Command} {args : List Obj} :
    (request c args).RequestFits m ↔ c.Fits m (request c args) := by
  have hcmd : (request c args).command = some c := command_request c args
  unfold Obj.RequestFits
  rw [hcmd, and_iff_right (headFits_of_command m hcmd)]
  simp

theorem requestFits_toObj (call : Call) : call.toObj.RequestFits m ↔ call.Fits m := by
  cases call with
  | ping =>
    have held : (bytes "PING").length ≤ m.maxLength := by
      have := m.holdsNames
      have short : (bytes "PING").length = 4 := rfl
      omega
    exact iff_of_true ⟨held, fun c hc => by cases hc⟩ trivial
  | _ =>
    rw [toObj, requestFits_request]
    simp [Command.Fits, HasArgs, ArgsFit, Command.args, Command.optionalArgs, request, Obj.elems,
      Obj.type, Fits]

end Fits

end Call

end XAuto
