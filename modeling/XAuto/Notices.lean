import XAuto.Answers
import XAuto.Plugin

namespace XAuto

/-- What a message on the PUB socket is about. -/
inductive Kind
  | systemBreakpoint
  | breakpoint
  | createThread
  | exitThread
  | loadDll
  | unloadDll
  | outputDebugString
  | exception
  | stepped
  | resumeDebug
  | pauseDebug
  | attach
  | detach
  | initDebug
  | stopDebug
  | createProcess
  | exitProcess
  | logMessage
  deriving DecidableEq, Repr

namespace Kind

def all : List Kind :=
  [.systemBreakpoint, .breakpoint, .createThread, .exitThread, .loadDll, .unloadDll,
    .outputDebugString, .exception, .stepped, .resumeDebug, .pauseDebug, .attach, .detach,
    .initDebug, .stopDebug, .createProcess, .exitProcess, .logMessage]

def text : Kind → String
  | .systemBreakpoint => "EVENT_SYSTEMBREAKPOINT"
  | .breakpoint => "EVENT_BREAKPOINT"
  | .createThread => "EVENT_CREATE_THREAD"
  | .exitThread => "EVENT_EXIT_THREAD"
  | .loadDll => "EVENT_LOAD_DLL"
  | .unloadDll => "EVENT_UNLOAD_DLL"
  | .outputDebugString => "EVENT_OUTPUT_DEBUG_STRING"
  | .exception => "EVENT_EXCEPTION"
  | .stepped => "EVENT_STEPPED"
  | .resumeDebug => "EVENT_RESUME_DEBUG"
  | .pauseDebug => "EVENT_PAUSE_DEBUG"
  | .attach => "EVENT_ATTACH"
  | .detach => "EVENT_DETACH"
  | .initDebug => "EVENT_INIT_DEBUG"
  | .stopDebug => "EVENT_STOP_DEBUG"
  | .createProcess => "EVENT_CREATE_PROCESS"
  | .exitProcess => "EVENT_EXIT_PROCESS"
  | .logMessage => "EVENT_LOG_MESSAGE"

def ofName (s : Bytes) : Option Kind := all.find? fun k => s == bytes k.text

theorem ofName_text (k : Kind) : ofName (bytes k.text) = some k := by
  cases k <;> rfl

end Kind

namespace Obj

/-- A `std::vector<size_t>`. -/
def sizesAt (root : Obj) (i : Nat) : Option (List UInt64) := root.listAt asSize i

/-- The elements after the name of an event. -/
def fields (root : Obj) : Obj := .array root.elems.tail

end Obj

/-- What a subscriber is told. -/
inductive Notice
  | systemBreakpoint (reserved : UInt64)
  | breakpoint (bp : BridgeBp)
  | createThread (dwThreadId : UInt32) (lpThreadLocalBase lpStartAddress : UInt64)
  | exitThread (dwThreadId dwExitCode : UInt32)
  | loadDll (modname : Bytes) (lpBaseOfDll : UInt64)
  | unloadDll (lpBaseOfDll : UInt64)
  | outputDebugString (membuf : Bytes)
  | exception (exceptionCode exceptionFlags : UInt32) (exceptionRecord exceptionAddress : UInt64)
      (exceptionInformation : List UInt64) (dwFirstChance : UInt32)
  | stepped
  | resumeDebug
  | pauseDebug
  | attach (dwProcessId : UInt32)
  | detach (dwProcessId : UInt32)
  | initDebug (szFileName : Bytes)
  | stopDebug
  | createProcess (dwProcessId dwThreadId : UInt32) (lpStartAddress : UInt64)
      (debugFileName : Bytes)
  | exitProcess (dwExitCode : UInt32)
  | logMessage (msg : Bytes)

namespace Notice

/-- A message of a kind as a subscriber reads it. -/
def ofKind (o : Obj) : Kind → Option Notice
  | .systemBreakpoint => do pure (systemBreakpoint (← o.sizeAt 1))
  | .breakpoint => do pure (breakpoint (← BridgeBp.ofObj o.fields))
  | .createThread => do
    pure (createThread (← o.sizeAt 1).toUInt32 (← o.sizeAt 2) (← o.sizeAt 3))
  | .exitThread => do pure (exitThread (← o.sizeAt 1).toUInt32 (← o.sizeAt 2).toUInt32)
  | .loadDll => do pure (loadDll (← o.strAt 1) (← o.sizeAt 2))
  | .unloadDll => do pure (unloadDll (← o.sizeAt 1))
  | .outputDebugString => do pure (outputDebugString (← o.binAt 1))
  | .exception => do
    pure (exception (← o.sizeAt 1).toUInt32 (← o.sizeAt 2).toUInt32 (← o.sizeAt 3)
      (← o.sizeAt 4) (← o.sizesAt 6) (← o.sizeAt 7).toUInt32)
  | .stepped => some stepped
  | .resumeDebug => some resumeDebug
  | .pauseDebug => some pauseDebug
  | .attach => do pure (attach (← o.sizeAt 1).toUInt32)
  | .detach => do pure (detach (← o.sizeAt 1).toUInt32)
  | .initDebug => do pure (initDebug (← o.strAt 1))
  | .stopDebug => some stopDebug
  | .createProcess => do
    pure (createProcess (← o.sizeAt 1).toUInt32 (← o.sizeAt 2).toUInt32 (← o.sizeAt 3)
      (← o.strAt 4))
  | .exitProcess => do pure (exitProcess (← o.sizeAt 1).toUInt32)
  | .logMessage => do pure (logMessage (← o.strAt 1))

/-- A message as a subscriber reads it. -/
def ofObj (o : Obj) : Option Notice := do
  ofKind o (← Kind.ofName (← o.strAt 0))

def kind : Notice → Kind
  | systemBreakpoint _ => .systemBreakpoint
  | breakpoint _ => .breakpoint
  | createThread _ _ _ => .createThread
  | exitThread _ _ => .exitThread
  | loadDll _ _ => .loadDll
  | unloadDll _ => .unloadDll
  | outputDebugString _ => .outputDebugString
  | exception _ _ _ _ _ _ => .exception
  | stepped => .stepped
  | resumeDebug => .resumeDebug
  | pauseDebug => .pauseDebug
  | attach _ => .attach
  | detach _ => .detach
  | initDebug _ => .initDebug
  | stopDebug => .stopDebug
  | createProcess _ _ _ _ => .createProcess
  | exitProcess _ => .exitProcess
  | logMessage _ => .logMessage

/-- The elements that follow the name in the message that is published. -/
def fields : Notice → List Obj
  | systemBreakpoint reserved => [.positiveInteger reserved]
  | breakpoint bp => (bpxTup bp).elems
  | createThread id base start => [.ofU32 id, .positiveInteger base, .positiveInteger start]
  | exitThread id code => [.ofU32 id, .ofU32 code]
  | loadDll modname base => [.str (cstr modname), .positiveInteger base]
  | unloadDll base => [.positiveInteger base]
  | outputDebugString membuf => [.bin membuf]
  | exception code flags record addr info first =>
    [.ofU32 code, .ofU32 flags, .positiveInteger record, .positiveInteger addr,
      .ofNat info.length, .array (info.map .positiveInteger), .ofU32 first]
  | stepped | resumeDebug | pauseDebug | stopDebug => []
  | attach pid | detach pid => [.ofU32 pid]
  | initDebug fileName => [.str (cstr fileName)]
  | createProcess pid tid start fileName =>
    [.ofU32 pid, .ofU32 tid, .positiveInteger start, .str (cstr fileName)]
  | exitProcess code => [.ofU32 code]
  | logMessage msg => [.str msg]

def toObj (n : Notice) : Obj := .array (.str (bytes n.kind.text) :: n.fields)

/-- A notice with the texts of the debugger read up to their terminators; log lines and debug
strings are told whole. -/
def seen : Notice → Notice
  | breakpoint bp => breakpoint bp.seen
  | loadDll modname base => loadDll (cstr modname) base
  | initDebug fileName => initDebug (cstr fileName)
  | createProcess pid tid start fileName => createProcess pid tid start (cstr fileName)
  | n => n

theorem ofObj_eq_ofKind (n : Notice) : ofObj n.toObj = ofKind n.toObj n.kind := by
  have head : n.toObj.strAt 0 = some (bytes n.kind.text) := rfl
  unfold ofObj
  rw [head]
  simp only [Option.bind_eq_bind, Option.bind_some, Kind.ofName_text]

theorem ofObj_toObj (n : Notice) : ofObj n.toObj = some n.seen := by
  rw [ofObj_eq_ofKind]
  cases n with
  | breakpoint bp =>
    have read : BridgeBp.ofObj (breakpoint bp).toObj.fields = some bp.seen := bp.ofObj_bpxTup
    simp [kind, ofKind, read, seen]
  | exception code flags record addr info first =>
    have read := Obj.mapM_asSize info
    simp [toObj, kind, fields, ofKind, seen, Obj.sizeAt, Obj.sizesAt, Obj.listAt, Obj.elems,
      Obj.asSize, Obj.ofU32, read, -List.mapM_map]
  | _ =>
    simp [toObj, kind, fields, ofKind, seen, Obj.strAt, Obj.sizeAt, Obj.binAt,
      Obj.elems, Obj.asStr, Obj.asSize, Obj.asBin, Obj.ofU32]

/-- The line of a log message. -/
def line : Notice → Option Bytes
  | logMessage msg => some msg
  | _ => none

theorem line_seen (n : Notice) : n.seen.line = n.line := by cases n <;> rfl

/-- What a callback has to tell, given what is known to the debugger. -/
def ofEvent {W : Type} (bridge : Bridge W) (w : W) : DebugEvent → Option Notice
  | .systemBreakpoint reserved => some (systemBreakpoint reserved)
  | .breakpoint bp => some (breakpoint bp)
  | .createThread id base start => some (createThread id base start)
  | .exitThread id code => some (exitThread id code)
  | .loadDll modname base => some (loadDll modname base)
  | .unloadDll base => some (unloadDll base)
  | .outputDebugString addr length =>
    (bridge.dbgMemRead addr length.toNat w).1.map fun membuf => outputDebugString membuf.toList
  | .exception code flags record addr info first =>
    some (exception code flags record addr info first)
  | .stepped => some stepped
  | .resumeDebug => some resumeDebug
  | .pauseDebug => some pauseDebug
  | .attach pid => some (attach pid)
  | .detach pid => some (detach pid)
  | .initDebug fileName => some (initDebug fileName)
  | .stopDebug => some stopDebug
  | .createProcess pid tid start fileName => some (createProcess pid tid start fileName)
  | .exitProcess code => some (exitProcess code)
  | .menuEntry _ => none

/-- No event is told as a log message. -/
theorem line_ofEvent {W : Type} {bridge : Bridge W} {w : W} {e : DebugEvent} {n : Notice}
    (h : ofEvent bridge w e = some n) : n.line = none := by
  cases e with
  | outputDebugString addr length =>
    obtain ⟨membuf, -, rfl⟩ := Option.map_eq_some_iff.mp h
    rfl
  | menuEntry hEntry => cases h
  | _ =>
    obtain rfl := Option.some.inj h
    rfl

/-- What is told when something occurs; a plugin that is stopped tells nothing. -/
def ofOccurrence {W : Type} (bridge : Bridge W) (hooked : Bool) (w : W) :
    Occurrence → Option Notice
  | .event e => ofEvent bridge w e
  | .logLine msg => if hooked then msg.map logMessage else none
  | .pluginStop => none

end Notice

end XAuto
