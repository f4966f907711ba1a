import XAuto.Settings
import XAuto.Effect

namespace XAuto

inductive Socket
  | rep
  | pub
  deriving DecidableEq, Repr

/-- A `zmq::socket_t`: without a handle before it is created and after it is closed. -/
inductive SocketState
  | null
  | opened
  | bound (address : Bytes) (port : UInt16)
  deriving DecidableEq, Repr

/-- What ZeroMQ, the random generator and the file system answer. -/
structure Platform (W : Type) where
  createSocket : Socket → W → Bool × W
  bind : Socket → (endpoint : Bytes) → W → Bool × W
  distrib : W → Fin 0x4000 × W
  openSessionFile : UInt32 → W → Bool × W
  removeSessionFile : UInt32 → W → Bool × W

def Platform.always (ok : Bool) : Platform Unit where
  createSocket _ w := (ok, w)
  bind _ _ w := (ok, w)
  distrib w := (0, w)
  openSessionFile _ w := (ok, w)
  removeSessionFile _ w := (ok, w)

structure BindAttempt where
  socket : Socket
  address : Bytes
  port : UInt16
  bound : Bool
  deriving DecidableEq, Repr

/-- The members of `XAutoServer`, the lines of the session file and what was read and bound. -/
structure ServerState (W : Type) where
  world : W
  repSocket : SocketState := .null
  pubSocket : SocketState := .null
  sessReqRepPort : UInt16 := 0
  sessPubSubPort : UInt16 := 0
  bindAddress : Bytes := bytes "localhost"
  sessionPid : UInt32 := 0
  sessionFile : Option (List Bytes) := none
  reads : List SettingRead := []
  binds : List BindAttempt := []

/-- A call that does not return: it throws, or it is still in one of the retry loops. -/
inductive Halt
  | zmqError
  | retrying
  deriving DecidableEq, Repr

abbrev ServerM (W : Type) := EStateM Halt (ServerState W)

variable {W : Type}

namespace ServerState

def port (s : ServerState W) : Socket → UInt16
  | .rep => s.sessReqRepPort
  | .pub => s.sessPubSubPort

def setPort (socket : Socket) (port : UInt16) (s : ServerState W) : ServerState W :=
  match socket with
  | .rep => { s with sessReqRepPort := port }
  | .pub => { s with sessPubSubPort := port }

def socket (s : ServerState W) : Socket → SocketState
  | .rep => s.repSocket
  | .pub => s.pubSocket

def setSocket (socket : Socket) (state : SocketState) (s : ServerState W) : ServerState W :=
  match socket with
  | .rep => { s with repSocket := state }
  | .pub => { s with pubSocket := state }

def moveTo (w : W) (s : ServerState W) : ServerState W := { s with world := w }

def noteRead (r : SettingRead) (s : ServerState W) : ServerState W :=
  { s with reads := s.reads ++ [r] }

def noteBind (b : BindAttempt) (s : ServerState W) : ServerState W :=
  { s with binds := s.binds ++ [b] }

def setBindAddress (address : Bytes) (s : ServerState W) : ServerState W :=
  { s with bindAddress := address }

def setSessionPid (pid : UInt32) (s : ServerState W) : ServerState W := { s with sessionPid := pid }

def setSessionFile (file : Option (List Bytes)) (s : ServerState W) : ServerState W :=
  { s with sessionFile := file }

section Lemmas

variable (s : ServerState W) (a b : Socket)

@[simp] theorem reads_setSocket (state : SocketState) : (s.setSocket a state).reads = s.reads := by
  cases a <;> rfl

@[simp] theorem reads_setPort (port : UInt16) : (s.setPort a port).reads = s.reads := by
  cases a <;> rfl

@[simp] theorem socket_moveTo (w : W) : (s.moveTo w).socket b = s.socket b := by cases b <;> rfl

@[simp] theorem socket_setBindAddress (address : Bytes) :
    (s.setBindAddress address).socket b = s.socket b := by cases b <;> rfl

@[simp] theorem socket_setSessionFile (file : Option (List Bytes)) :
    (s.setSessionFile file).socket b = s.socket b := by cases b <;> rfl

@[simp] theorem socket_setSocket (state : SocketState) :
    (s.setSocket a state).socket a = state := by cases a <;> rfl

theorem socket_setSocket_ne {a b : Socket} (h : b ≠ a) (state : SocketState) :
    (s.setSocket a state).socket b = s.socket b := by
  cases a <;> cases b <;> first | rfl | exact absurd rfl h

@[simp] theorem port_setSocket (state : SocketState) : (s.setSocket a state).port b = s.port b := by
  cases a <;> cases b <;> rfl

@[simp] theorem port_setPort (port : UInt16) : (s.setPort a port).port a = port := by
  cases a <;> rfl

@[simp] theorem socket_setPort (port : UInt16) : (s.setPort a port).socket b = s.socket b := by
  cases a <;> cases b <;> rfl

end Lemmas

end ServerState

namespace ServerM

def call {α : Type} (f : W → α × W) : ServerM W α :=
  fun s => .ok (f s.world).1 (s.moveTo (f s.world).2)

def readSetting (bridge : Bridge W) (key : String) (capacity : Nat) : ServerM W (Option Bytes) := do
  let r ← call (settingGet bridge key capacity)
  modify (·.noteRead r)
  pure r.text

section Sockets

variable (os : Platform W)

/-- `bind_prefix + std::to_string(port)`. -/
def endpoint (address : Bytes) (port : UInt16) : Bytes :=
  bytes "tcp://" ++ address ++ bytes ":" ++ bytes (toString port.toNat)

/-- `socket = zmq::socket_t(context, type)`. -/
def create (socket : Socket) : ServerM W Unit := do
  if ← call (os.createSocket socket) then modify (·.setSocket socket .opened)
  else throw .zmqError

def bind (socket : Socket) (address : Bytes) : ServerM W Unit := do
  let port := (← get).port socket
  let bound ← call (os.bind socket (endpoint address port))
  modify (·.noteBind ⟨socket, address, port, bound⟩)
  if bound then modify (·.setSocket socket (.bound address port)) else throw .zmqError

def close (socket : Socket) : ServerM W Unit := modify (·.setSocket socket .null)

/-- The loop that binds a socket to random ports until one is free. -/
def bindRandom (socket : Socket) : Nat → ServerM W Unit
  | 0 => throw .retrying
  | fuel + 1 => do
    let draw ← call os.distrib
    modify (·.setPort socket (0xc000 + UInt16.ofNat draw))
    tryCatch (bind os socket (bytes "localhost")) fun
      | .zmqError => bindRandom socket fuel
      | e => throw e

end Sockets

section Acquire

variable (bridge : Bridge W) (os : Platform W)

def acquireRemote : ServerM W Bool := do
  let bindAddr ← readSetting bridge "BindAddress" 256
  let address :=
    match bindAddr with
    | some addr => if addr.length > 0 then addr else bytes "0.0.0.0"
    | none => bytes "0.0.0.0"
  modify (·.setBindAddress address)
  let reqPort ← call (settingGetUint bridge "ReqRepPort")
  let pubPort ← call (settingGetUint bridge "PubSubPort")
  let configuredReqPort := if reqPort = 0 then 27066 else reqPort
  let configuredPubPort := if pubPort = 0 then 27067 else pubPort
  tryCatch (do
    create os .rep
    modify (·.setPort .rep configuredReqPort.toUInt16)
    bind os .rep address
    create os .pub
    modify (·.setPort .pub configuredPubPort.toUInt16)
    bind os .pub address
    pure true) fun
    | .zmqError => do
      close .rep
      close .pub
      pure false
    | e => throw e

def acquireLocal (fuel : Nat) : ServerM W Unit := do
  modify (·.setBindAddress (bytes "localhost"))
  create os .rep
  bindRandom os .rep fuel
  create os .pub
  bindRandom os .pub fuel

def writeSessionFile : ServerM W Bool := do
  let pid := (← get).sessionPid
  if ← call (os.openSessionFile pid) then
    modify fun s => s.setSessionFile (some [bytes (toString s.sessReqRepPort.toNat),
      bytes (toString s.sessPubSubPort.toNat), s.bindAddress])
    pure true
  else pure false

/-- `fuel` bounds the number of turns of each retry loop. -/
def acquireSession (fuel : Nat) : ServerM W Bool := do
  let pid ← call bridge.getCurrentProcessId
  modify (·.setSessionPid pid)
  if (← readSetting bridge "Mode" 64) = some (bytes "remote") then
    if ← acquireRemote bridge os then writeSessionFile os else pure false
  else
    acquireLocal os fuel
    writeSessionFile os

def releaseSession : ServerM W Unit := do
  close .rep
  close .pub
  let pid := (← get).sessionPid
  if ← call (os.removeSessionFile pid) then
    modify (·.setSessionFile none)

end Acquire

end ServerM

end XAuto
