import XAuto.Session
import XAuto.Handlers

namespace XAuto

open Effect

inductive DebugEvent
  | systemBreakpoint (reserved : UInt64)
  | breakpoint (bp : BridgeBp)
  | createThread (dwThreadId : UInt32) (lpThreadLocalBase lpStartAddress : UInt64)
  | exitThread (dwThreadId dwExitCode : UInt32)
  | loadDll (modname : Bytes) (lpBaseOfDll : UInt64)
  | unloadDll (lpBaseOfDll : UInt64)
  | outputDebugString (lpDebugStringData : UInt64) (nDebugStringLength : UInt16)
  | exception (exceptionCode exceptionFlags : UInt32) (exceptionRecord exceptionAddress : UInt64)
      (exceptionInformation : List UInt64) (dwFirstChance : UInt32)
  | stepped
  | resumeDebug
  | pauseDebug
  | attach (dwProcessId : UInt32)
  | detach (dwProcessId : UInt32)
  | initDebug (szFileName : Bytes)
  | stopDebug
  | createProcess (dwProcessId dwThreadId : UInt32) (lpStartAddress : UInt64)
      (debugFileName : Bytes)
  | exitProcess (dwExitCode : UInt32)
  | menuEntry (hEntry : Int32)

structure PluginState (W : Type) where
  server : ServerState W
  log : LogBuffer := {}
  logHookActive : Bool := false
  published : List Obj := []

abbrev PluginM (W : Type) := EStateM Exn (PluginState W)

variable {W : Type}

namespace PluginM

def call {α : Type} (f : W → α × W) : PluginM W α :=
  fun s => .ok (f s.server.world).1 { s with server := s.server.moveTo (f s.server.world).2 }

/-- A send on a socket without a handle throws. -/
def pubSend (o : Obj) : PluginM W Unit := do
  let s ← get
  if s.server.pubSocket = .null then throw .zmqError
  else set { s with published := s.published ++ [o] }

def publish (event : String) (fields : List Obj) : PluginM W Unit :=
  pubSend (.array (.str (bytes event) :: fields))

section Callbacks

def cbSysBreakpoint (reserved : UInt64) : PluginM W Unit :=
  publish "EVENT_SYSTEMBREAKPOINT" [.positiveInteger reserved]

def cbBreakpoint (bp : BridgeBp) : PluginM W Unit :=
  publish "EVENT_BREAKPOINT" (bpxTup bp).elems

def cbCreateThread (dwThreadId : UInt32) (lpThreadLocalBase lpStartAddress : UInt64) :
    PluginM W Unit :=
  publish "EVENT_CREATE_THREAD" [.ofU32 dwThreadId, .positiveInteger lpThreadLocalBase,
    .positiveInteger lpStartAddress]

def cbExitThread (dwThreadId dwExitCode : UInt32) : PluginM W Unit :=
  publish "EVENT_EXIT_THREAD" [.ofU32 dwThreadId, .ofU32 dwExitCode]

def cbLoadDll (modname : Bytes) (lpBaseOfDll : UInt64) : PluginM W Unit :=
  publish "EVENT_LOAD_DLL" [.str (cstr modname), .positiveInteger lpBaseOfDll]

def cbUnloadDll (lpBaseOfDll : UInt64) : PluginM W Unit :=
  publish "EVENT_UNLOAD_DLL" [.positiveInteger lpBaseOfDll]

def cbDebugstr (bridge : Bridge W) (lpDebugStringData : UInt64) (nDebugStringLength : UInt16) :
    PluginM W Unit := do
  match ← call (bridge.dbgMemRead lpDebugStringData nDebugStringLength.toNat) with
  | none => pure ()
  | some membuf => publish "EVENT_OUTPUT_DEBUG_STRING" [.bin membuf.toList]

def cbException (exceptionCode exceptionFlags : UInt32) (exceptionRecord exceptionAddress : UInt64)
    (exceptionInformation : List UInt64) (dwFirstChance : UInt32) : PluginM W Unit :=
  publish "EVENT_EXCEPTION" [.ofU32 exceptionCode, .ofU32 exceptionFlags,
    .positiveInteger exceptionRecord, .positiveInteger exceptionAddress,
    .ofNat exceptionInformation.length, .array (exceptionInformation.map .positiveInteger),
    .ofU32 dwFirstChance]

def cbStepped : PluginM W Unit := publish "EVENT_STEPPED" []

def cbResumeDebug : PluginM W Unit := publish "EVENT_RESUME_DEBUG" []

def cbPauseDebug : PluginM W Unit := publish "EVENT_PAUSE_DEBUG" []

def cbAttach (dwProcessId : UInt32) : PluginM W Unit :=
  publish "EVENT_ATTACH" [.ofU32 dwProcessId]

def cbDetach (dwProcessId : UInt32) : PluginM W Unit :=
  publish "EVENT_DETACH" [.ofU32 dwProcessId]

def cbInitDebug (szFileName : Bytes) : PluginM W Unit := do
  modify fun s => { s with log := s.log.clear }
  publish "EVENT_INIT_DEBUG" [.str (cstr szFileName)]

def cbStopDebug : PluginM W Unit := publish "EVENT_STOP_DEBUG" []

def cbCreateProcess (dwProcessId dwThreadId : UInt32) (lpStartAddress : UInt64)
    (debugFileName : Bytes) : PluginM W Unit :=
  publish "EVENT_CREATE_PROCESS" [.ofU32 dwProcessId, .ofU32 dwThreadId,
    .positiveInteger lpStartAddress, .str (cstr debugFileName)]

def cbExitProcess (dwExitCode : UInt32) : PluginM W Unit :=
  publish "EVENT_EXIT_PROCESS" [.ofU32 dwExitCode]

/-- The settings entry opens a dialog, which publishes nothing. -/
def cbMenuEntry (_hEntry : Int32) : PluginM W Unit := pure ()

end Callbacks

def callback (bridge : Bridge W) : DebugEvent → PluginM W Unit
  | .systemBreakpoint reserved => cbSysBreakpoint reserved
  | .breakpoint bp => cbBreakpoint bp
  | .createThread id base start => cbCreateThread id base start
  | .exitThread id code => cbExitThread id code
  | .loadDll modname base => cbLoadDll modname base
  | .unloadDll base => cbUnloadDll base
  | .outputDebugString addr length => cbDebugstr bridge addr length
  | .exception code flags record addr info first => cbException code flags record addr info first
  | .stepped => cbStepped
  | .resumeDebug => cbResumeDebug
  | .pauseDebug => cbPauseDebug
  | .attach pid => cbAttach pid
  | .detach pid => cbDetach pid
  | .initDebug fileName => cbInitDebug fileName
  | .stopDebug => cbStopDebug
  | .createProcess pid tid start fileName => cbCreateProcess pid tid start fileName
  | .exitProcess code => cbExitProcess code
  | .menuEntry hEntry => cbMenuEntry hEntry

/-- The log hook: buffers and publishes a line, and swallows whatever that throws. -/
def captureLog (msg : Option Bytes) : PluginM W Unit := do
  match msg with
  | none => pure ()
  | some line =>
    if (← get).logHookActive then
      tryCatch (do
        modify fun s => { s with log := s.log.append msg }
        publish "EVENT_LOG_MESSAGE" [.str line]) fun _ => pure ()

def pluginStop (os : Platform W) : PluginM W Unit :=
  modify fun s =>
    { s with logHookActive := false, server := final (ServerM.releaseSession os) s.server }

end PluginM

inductive Occurrence
  | event (e : DebugEvent)
  | logLine (msg : Option Bytes)
  | pluginStop

open PluginM in
def deliver (bridge : Bridge W) (os : Platform W) : Occurrence → PluginM W Unit
  | .event e => callback bridge e
  | .logLine msg => captureLog msg
  | .pluginStop => pluginStop os

/-- The plugin after `pluginInit`; the hook is installed when the functions it replaces are
found. -/
def pluginInit (hooked : Bool) (server : ServerState W) : PluginState W :=
  { server, logHookActive := hooked }

end XAuto
