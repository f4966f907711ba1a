import XAuto.Decimal
import XAuto.SessionConfig
import Mathlib.Logic.Relation

namespace XAuto

open Effect ServerM

variable {W : Type}

/-- The UTF-16 form of an ASCII text. -/
def wide (s : String) : List UInt16 := (bytes s).map UInt8.toUInt16

/-- `get_session_filename`, with what `GetTempPathW` finds if it succeeds. -/
def getSessionFilename (tempPath : Option (List UInt16)) (sessionPid : UInt32) : List UInt16 :=
  tempPath.getD (wide "c:\\windows\\temp\\") ++ wide "xauto_session." ++
    wide (toString sessionPid.toNat) ++ wide ".lock"

/-- Processes never share a session file. -/
theorem pid_eq_of_sessionFilename {tempPath tempPath' : Option (List UInt16)} {pid pid' : UInt32}
    (same : getSessionFilename tempPath pid = getSessionFilename tempPath' pid') : pid = pid' := by
  have parts (tempPath : Option (List UInt16)) (pid : UInt32) : getSessionFilename tempPath pid =
      (tempPath.getD (wide "c:\\windows\\temp\\") ++ wide "xauto_session") ++
        46 :: (Decimal.text pid.toNat).map UInt8.toUInt16 ++ wide ".lock" := by
    have dot : wide "xauto_session." = wide "xauto_session" ++ [46] := by decide
    rw [getSessionFilename, dot, wide, wide, wide, wide, bytes_toString]
    simp
  have apart (d : UInt8) (large : 48 ≤ d) (_ : d ≤ 57) : d.toUInt16 ≠ 46 := by
    intro same
    have narrow : d = 46 := UInt8.toUInt16_inj.mp same
    rw [narrow] at large
    exact absurd large (by decide)
  rw [parts, parts] at same
  have numbers := Decimal.eq_of_append_text (fun _ _ => UInt8.toUInt16_inj.mp) apart
    (List.append_cancel_right same)
  exact UInt32.toNat_inj.mp numbers

/-- The host that the debuggers run on: what each of them, by its process id, sees of it, where its
temporary files are, and which socket of which debugger has bound an endpoint by its port. -/
structure Host (W : Type) where
  bridge : UInt32 → Bridge W
  os : UInt32 → Platform W
  /-- What `GetTempPathW` finds in a process. -/
  tempPath : UInt32 → Option (List UInt16)
  holder : W → Bytes → Option (UInt32 × Socket)
  /-- The socket of a process is closed, or its process ends. -/
  release : UInt32 → Socket → W → W

/-- A process that the plugin is loaded in. The world of its server is the one of its last call. -/
structure Debugger (W : Type) where
  server : ServerState W
  acquired : Bool

/-- The debuggers on a host, by process id, and the session files, by name. -/
structure Fleet (W : Type) where
  world : W
  debugger : UInt32 → Option (Debugger W) := fun _ => none
  file : List UInt16 → Option (List Bytes) := fun _ => none

namespace Host

variable (h : Host W)

def Quiet {α : Type} (f : W → α × W) : Prop := ∀ w, h.holder (f w).2 = h.holder w

/-- No endpoint is bound twice, and nothing but a bind or a release changes who has bound it. A
socket that is bound to port 0 gets a port of its own and takes no endpoint that has a name. -/
structure Lawful : Prop where
  processId : ∀ pid w, ((h.bridge pid).getCurrentProcessId w).1 = pid
  refuses : ∀ pid a e w, h.holder w e ≠ none → ((h.os pid).bind a e w).1 = false
  binds : ∀ pid a address port w,
    h.holder ((h.os pid).bind a (endpoint address port) w).2 =
      if ((h.os pid).bind a (endpoint address port) w).1 = true ∧ port ≠ 0 then
        Function.update (h.holder w) (endpoint address port) (some (pid, a))
      else h.holder w
  releases : ∀ pid a w e p b, h.holder (h.release pid a w) e = some (p, b) ↔
    h.holder w e = some (p, b) ∧ ¬(p = pid ∧ b = a)
  createSocket : ∀ pid a, h.Quiet ((h.os pid).createSocket a)
  distrib : ∀ pid, h.Quiet (h.os pid).distrib
  openSessionFile : ∀ pid file, h.Quiet ((h.os pid).openSessionFile file)
  removeSessionFile : ∀ pid file, h.Quiet ((h.os pid).removeSessionFile file)
  getCurrentProcessId : ∀ pid, h.Quiet (h.bridge pid).getCurrentProcessId
  bridgeSettingGet : ∀ pid section_ key, h.Quiet ((h.bridge pid).bridgeSettingGet section_ key)
  bridgeSettingGetUint : ∀ pid section_ key,
    h.Quiet ((h.bridge pid).bridgeSettingGetUint section_ key)

variable (pid : UInt32)

/-- Where a process with this id has its session file. -/
def sessionFilename : List UInt16 := getSessionFilename (h.tempPath pid) pid

/-- The endpoints of the sockets that a server has closed are free again. -/
def settle (s : ServerState W) (w : W) : W :=
  let free (a : Socket) (w : W) : W := if s.socket a = .null then h.release pid a w else w
  free .pub (free .rep w)

/-- The constructor of the server has returned, or goes on trying to bind. -/
def runs (d : Debugger W) (f : Fleet W) : Fleet W where
  world := h.settle pid d.server d.server.world
  debugger := Function.update f.debugger pid (some d)
  file :=
    if d.acquired then
      Function.update f.file (getSessionFilename (h.tempPath pid) d.server.sessionPid)
        d.server.sessionFile
    else f.file

/-- The sockets of the process are gone with it; its session file is not. -/
def ends (w : W) (f : Fleet W) : Fleet W :=
  { f with
    world := h.release pid .pub (h.release pid .rep w)
    debugger := Function.update f.debugger pid none }

def pluginit (fuel : Nat) (f : Fleet W) : Fleet W :=
  match acquireSession (h.bridge pid) (h.os pid) fuel { world := f.world } with
  | .ok acquired s => h.runs pid ⟨s, acquired⟩ f
  | .error .retrying s => h.runs pid ⟨s, false⟩ f
  | .error .zmqError s => h.ends pid s.world f

def plugstop (d : Debugger W) (f : Fleet W) : Fleet W :=
  let s := final (releaseSession (h.os pid)) (d.server.moveTo f.world)
  let removed := ((h.os pid).removeSessionFile d.server.sessionPid f.world).1
  { h.ends pid s.world f with
    file :=
      if removed then
        Function.update f.file (getSessionFilename (h.tempPath pid) d.server.sessionPid) none
      else f.file }

/-- What can happen on the host; anything else leaves the endpoints of the debuggers alone. -/
inductive Step : Fleet W → Fleet W → Prop
  | pluginit {f : Fleet W} {pid : UInt32} (idle : f.debugger pid = none) (fuel : Nat) :
    Step f (h.pluginit pid fuel f)
  | plugstop {f : Fleet W} {pid : UInt32} {d : Debugger W} (loaded : f.debugger pid = some d) :
    Step f (h.plugstop pid d f)
  | killed {f : Fleet W} (pid : UInt32) : Step f (h.ends pid f.world f)
  | elsewhere {f : Fleet W} {w : W} (same : h.holder w = h.holder f.world) :
    Step f { f with world := w }

abbrev Run : Fleet W → Fleet W → Prop := Relation.ReflTransGen h.Step

end Host

end XAuto
