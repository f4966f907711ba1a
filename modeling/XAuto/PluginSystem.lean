import XAuto.Conversations
import XAuto.Publications

namespace XAuto

variable {W : Type}

namespace PluginState

def moveTo (s : PluginState W) (w : W) : PluginState W := { s with server := s.server.moveTo w }

/-- A call of the debugger, which leaves the plugin's own state alone. -/
def asks {α : Type} (f : W → α × W) (s : PluginState W) : α × PluginState W :=
  ((f s.server.world).1, s.moveTo (f s.server.world).2)

end PluginState

open PluginState in
/-- The debugger behind a plugin that holds a state of its own. -/
def Bridge.onPlugin (bridge : Bridge W) : Bridge (PluginState W) where
  getCurrentProcessId := asks bridge.getCurrentProcessId
  bridgeGetDbgVersion := asks bridge.bridgeGetDbgVersion
  dbgEval cmd := asks (bridge.dbgEval cmd)
  dbgCmdExecDirect cmd := asks (bridge.dbgCmdExecDirect cmd)
  dbgIsRunning := asks bridge.dbgIsRunning
  dbgIsDebugging := asks bridge.dbgIsDebugging
  bridgeIsProcessElevated := asks bridge.bridgeIsProcessElevated
  dbgMemMap := asks bridge.dbgMemMap
  guiUpdateAllViews := asks bridge.guiUpdateAllViews
  dbgMemRead addr size := asks (bridge.dbgMemRead addr size)
  dbgMemWrite addr data := asks (bridge.dbgMemWrite addr data)
  dbgGetRegDumpEx := asks bridge.dbgGetRegDumpEx
  stringFormatInline format := asks (bridge.stringFormatInline format)
  bridgeSettingGet section_ key := asks (bridge.bridgeSettingGet section_ key)
  bridgeSettingSet section_ key value := asks (bridge.bridgeSettingSet section_ key value)
  bridgeSettingGetUint section_ key := asks (bridge.bridgeSettingGetUint section_ key)
  bridgeSettingSetUint section_ key value := asks (bridge.bridgeSettingSetUint section_ key value)
  dbgMemIsValidReadPtr addr := asks (bridge.dbgMemIsValidReadPtr addr)
  dbgDisasmAt addr := asks (bridge.dbgDisasmAt addr)
  guiGetDisassembly addr := asks (bridge.guiGetDisassembly addr)
  dbgAssembleAt addr instr := asks (bridge.dbgAssembleAt addr instr)
  dbgGetBpList type := asks (bridge.dbgGetBpList type)
  dbgGetLabelAt addr sreg := asks (bridge.dbgGetLabelAt addr sreg)
  dbgGetCommentAt addr := asks (bridge.dbgGetCommentAt addr)
  dbgGetSymbolInfoAt addr := asks (bridge.dbgGetSymbolInfoAt addr)
  bridgeAlloc size := asks (bridge.bridgeAlloc size)
  bridgeFree block := asks (bridge.bridgeFree block)

/-- What the handlers depend on in the plugin: `get_log` reads the buffer that the hook fills. -/
def Env.onPlugin (env : Env W) : Env (PluginState W) where
  machine := env.machine
  bridge := env.bridge.onPlugin
  log := PluginState.log
  maxSettingSize := env.maxSettingSize
  sizeofSymbolInfo := env.sizeofSymbolInfo
  past := env.past
  junk := env.junk
  bpList := env.bpList
  stray := env.stray

section Frames

variable {env : Env W}

/-- Only the debugger has moved. -/
def PluginState.Moved (s s' : PluginState W) : Prop := ∃ w, s' = s.moveTo w

theorem PluginState.Moved.trans {s s' s'' : PluginState W} (h : s.Moved s') (h' : s'.Moved s'') :
    s.Moved s'' := by
  obtain ⟨w, rfl⟩ := h
  obtain ⟨w', rfl⟩ := h'
  exact ⟨w', rfl⟩

theorem PluginState.moved_refl (s : PluginState W) : s.Moved s := ⟨s.server.world, rfl⟩

theorem PluginState.moved_asks {α : Type} (f : W → α × W) (s : PluginState W) :
    s.Moved (PluginState.asks f s).2 := ⟨_, rfl⟩

theorem freeing_moved (free : Bool) (symbol : Option CString) (s : PluginState W) :
    s.Moved (Call.freeing env.onPlugin free symbol s) := by
  unfold Call.freeing
  split
  · exact PluginState.moved_asks (env.bridge.bridgeFree _) s
  · exact s.moved_refl

theorem perform_moved (call : Call) (s : PluginState W) :
    s.Moved (call.perform env.onPlugin s).2 := by
  cases call with
  | getSymbol addr =>
    refine .trans ?_ (PluginState.moved_asks (env.bridge.bridgeFree _) _)
    refine .trans ?_ (freeing_moved _ _ _)
    refine .trans ?_ (freeing_moved _ _ _)
    refine .trans ?_ (PluginState.moved_asks (env.bridge.dbgGetSymbolInfoAt addr) _)
    exact PluginState.moved_asks (env.bridge.bridgeAlloc env.sizeofSymbolInfo) s
  | _ => exact ⟨_, rfl⟩

theorem outcome_moved (env : Env W) (root : Obj) (s : PluginState W) :
    s.Moved (root.outcome env.onPlugin s).2 := by
  unfold Obj.outcome
  cases Call.ofObj root with
  | some call => exact perform_moved call s
  | none =>
    change s.Moved (root.untouched env.onPlugin s)
    unfold Obj.untouched Command.untouched
    cases root.command with
    | none => exact s.moved_refl
    | some c =>
      dsimp only
      split
      · exact PluginState.moved_asks (env.bridge.bridgeAlloc _) s
      · exact s.moved_refl

end Frames

end XAuto
