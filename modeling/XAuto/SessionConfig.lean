import XAuto.SocketBinds

namespace XAuto

open Effect

variable {W : Type}

/-- Where the sockets of a session are to be bound. -/
inductive Effective
  | localhost
  | remote (address : Bytes) (reqPort pubPort : UInt16)
  deriving DecidableEq, Repr

def Effective.address : Effective → Bytes
  | .localhost => bytes "localhost"
  | .remote address _ _ => address

/-- `0.0.0.0` stands for a missing or empty bind address. -/
def addressOrAny (addr : Option Bytes) : Bytes :=
  match addr with
  | some addr => if addr.length > 0 then addr else bytes "0.0.0.0"
  | none => bytes "0.0.0.0"

def portOr (default port : UInt64) : UInt64 := if port = 0 then default else port

namespace Bridge

variable (bridge : Bridge W)

/-- What the settings that `acquire_session` reads come to. -/
def effective (w : W) : Effective :=
  let mode := settingGet bridge "Mode" 64 w
  if mode.1.text = some (bytes "remote") then
    let bindAddr := settingGet bridge "BindAddress" 256 mode.2
    let reqPort := settingGetUint bridge "ReqRepPort" bindAddr.2
    let pubPort := settingGetUint bridge "PubSubPort" reqPort.2
    .remote (addressOrAny bindAddr.1.text) (portOr 27066 reqPort.1).toUInt16
      (portOr 27067 pubPort.1).toUInt16
  else .localhost

/-- The debugger once these settings have been read. -/
def afterSettings (w : W) : W :=
  let mode := settingGet bridge "Mode" 64 w
  if mode.1.text = some (bytes "remote") then
    let bindAddr := settingGet bridge "BindAddress" 256 mode.2
    let reqPort := settingGetUint bridge "ReqRepPort" bindAddr.2
    (settingGetUint bridge "PubSubPort" reqPort.2).2
  else mode.2

end Bridge

namespace Store

variable (st : Store) (text : SettingText)

def get (key : String) : Option Bytes := st (bytes "XAutomate", bytes key)

/-- The text of a setting in a buffer that it fits. -/
def string (key : String) : Option Bytes := (st.get key).map cstr

/-- A stored number, with a default for a missing one and for zero. -/
def port (key : String) (default : UInt64) : UInt64 :=
  portOr default (((st.get key).bind text.toUint).getD 0)

def effective : Effective :=
  if st.string "Mode" = some (bytes "remote") then
    .remote (addressOrAny (st.string "BindAddress")) (st.port text "ReqRepPort" 27066).toUInt16
      (st.port text "PubSubPort" 27067).toUInt16
  else .localhost

end Store

theorem Bridge.Stores.effective_eq {bridge : Bridge W} {store : W → Store} {text : SettingText}
    {maxSize : Nat} (hs : bridge.Stores store text maxSize) (w : W) :
    bridge.effective w = (store w).effective text := by
  unfold Bridge.effective Store.effective
  simp only [settingGet, settingGetUint, SettingRead.text, Store.string, Store.port, Store.get,
    hs.get, hs.getUint, hs.get_store, hs.getUint_store]
  rfl

namespace ServerM

/-- `acquireSession` up to the session file. -/
def acquireSockets (bridge : Bridge W) (os : Platform W) (fuel : Nat) : ServerM W Bool := do
  let pid ← call bridge.getCurrentProcessId
  modify (·.setSessionPid pid)
  if (← readSetting bridge "Mode" 64) = some (bytes "remote") then acquireRemote bridge os
  else
    acquireLocal os fuel
    pure true

/-- The same once it is known where to bind. -/
def bindSockets (os : Platform W) (fuel : Nat) : Effective → ServerM W Bool
  | .localhost => do
    acquireLocal os fuel
    pure true
  | .remote address reqPort pubPort => bindRemote os address reqPort pubPort

variable {bridge : Bridge W} {os : Platform W}

theorem acquireSession_eq (bridge : Bridge W) (os : Platform W) (fuel : Nat) :
    acquireSession bridge os fuel = (do
      if ← acquireSockets bridge os fuel then writeSessionFile os else pure false) := by
  unfold acquireSession acquireSockets
  simp only [bind_assoc]
  refine bind_congr fun pid => bind_congr fun _ => bind_congr fun mode => ?_
  by_cases hmode : mode = some (bytes "remote")
  · simp only [hmode, if_true]
  · simp only [hmode, if_false, bind_assoc, pure_bind, if_true]

/-- The state in which the binding starts. -/
structure Ready (bridge : Bridge W) (s t : ServerState W) : Prop where
  socket : ∀ a, t.socket a = s.socket a
  binds : t.binds = s.binds
  file : t.sessionFile = s.sessionFile
  pid : t.sessionPid = (bridge.getCurrentProcessId s.world).1
  world : t.world = bridge.afterSettings (bridge.getCurrentProcessId s.world).2

/-- What the settings come to when a session is acquired. -/
def config (bridge : Bridge W) (s : ServerState W) : Effective :=
  bridge.effective (bridge.getCurrentProcessId s.world).2

/-- The settings matter to the sockets only through what they come to. -/
theorem acquireSockets_eq (bridge : Bridge W) (s : ServerState W) :
    ∃ t, Ready bridge s t ∧
      (∀ address reqPort pubPort,
        config bridge s = .remote address reqPort pubPort → t.bindAddress = address) ∧
      ∀ (os : Platform W) (fuel : Nat),
        acquireSockets bridge os fuel s = bindSockets os fuel (config bridge s) t := by
  let w := (bridge.getCurrentProcessId s.world).2
  let mode := settingGet bridge "Mode" 64 w
  let read := (((s.moveTo w).setSessionPid (bridge.getCurrentProcessId s.world).1).moveTo
    mode.2).noteRead mode.1
  by_cases hmode : mode.1.text = some (bytes "remote")
  · let bindAddr := settingGet bridge "BindAddress" 256 mode.2
    let reqPort := settingGetUint bridge "ReqRepPort" bindAddr.2
    let pubPort := settingGetUint bridge "PubSubPort" reqPort.2
    let address := addressOrAny bindAddr.1.text
    have hconfig : config bridge s = .remote address (portOr 27066 reqPort.1).toUInt16
        (portOr 27067 pubPort.1).toUInt16 := if_pos hmode
    refine ⟨((((read.moveTo bindAddr.2).noteRead bindAddr.1).setBindAddress address).moveTo
      reqPort.2).moveTo pubPort.2, ⟨fun a => ?_, rfl, rfl, rfl, (if_pos hmode).symm⟩, ?_,
      fun os fuel => ?_⟩
    · cases a <;> rfl
    · intro address' reqPort' pubPort' h
      rw [hconfig] at h
      cases h
      rfl
    · rw [hconfig]
      show (if mode.1.text = some (bytes "remote") then acquireRemote bridge os else _ :
        ServerM W Bool) read = _
      rw [if_pos hmode]
      rfl
  · have hconfig : config bridge s = .localhost := if_neg hmode
    refine ⟨read, ⟨fun a => ?_, rfl, rfl, rfl, (if_neg hmode).symm⟩, ?_, fun os fuel => ?_⟩
    · cases a <;> rfl
    · intro address' reqPort' pubPort' h
      rw [hconfig] at h
      cases h
    · rw [hconfig]
      show (if mode.1.text = some (bytes "remote") then acquireRemote bridge os else _ :
        ServerM W Bool) read = _
      rw [if_neg hmode]
      rfl

/-- The sockets are bound where the settings say: remote ones at the first attempt. -/
def Acquisition.Follows (q : Acquisition) : Effective → Prop
  | .localhost => q.address = bytes "localhost" ∧ q.reqPort ≠ 0
  | .remote address reqPort pubPort => q = ⟨address, [], reqPort, [], pubPort⟩

/-- Remote sockets are given up at the first error, local ones never. -/
def GivenUp (s s' : ServerState W) : Effective → Prop
  | .localhost => False
  | .remote address reqPort pubPort => Abandoned (Chosen address reqPort pubPort) s s'

theorem GivenUp.left {s s' : ServerState W} {config : Effective} (h : GivenUp s s' config) :
    s'.Down ∧ s'.sessionFile = s.sessionFile := by
  cases config with
  | localhost => exact h.elim
  | remote address reqPort pubPort => exact ⟨h.down, h.file⟩

/-- Both sockets are bound where the settings say, from the state `t` on. -/
structure Bindings (bridge : Bridge W) (os : Platform W) (I : UInt16 → W → Prop)
    (s t s' : ServerState W) (q : Acquisition) : Prop where
  ready : Ready bridge s t
  established : Established os I t s' q
  address : t.bindAddress = q.address
  follows : q.Follows (config bridge s)

/-- Acquiring the sockets binds both, or, in remote mode only, closes both. -/
theorem acquireSockets_run {I : UInt16 → W → Prop} (bridge : Bridge W) (s : ServerState W)
    (guards : Guards os (config bridge s).address I) (fuel : Nat) :
    wp (acquireSockets bridge os fuel)
      (fun up s' =>
        if up then ∃ t q, Bindings bridge os I s t s' q
        else GivenUp s s' (config bridge s))
      (fun _ _ => True) s := by
  obtain ⟨t, ready, address, heq⟩ := acquireSockets_eq bridge s
  refine wp_of_eq (heq os fuel) ?_
  cases hconfig : config bridge s with
  | localhost =>
    rw [hconfig] at guards
    simp only [bindSockets, wp_bind, wp_pure, if_true]
    refine wp_mono (acquireLocal_run guards fuel t) (fun _ s' h => ?_) fun _ _ h => h
    obtain ⟨q, established, haddress, nonzero⟩ := h
    have ready' : Ready bridge s (t.setBindAddress (bytes "localhost")) := by
      refine ⟨fun a => ?_, ready.binds, ready.file, ready.pid, ready.world⟩
      rw [ServerState.socket_setBindAddress]
      exact ready.socket a
    exact ⟨_, q, ready', established, haddress.symm, hconfig ▸ ⟨haddress, nonzero⟩⟩
  | remote addr reqPort pubPort =>
    rw [hconfig] at guards
    refine wp_mono (bindRemote_run guards reqPort pubPort t) (fun up s' h => ?_)
      fun _ _ h => h.elim
    cases up with
    | true =>
      have follows : Acquisition.Follows ⟨addr, [], reqPort, [], pubPort⟩ (config bridge s) := by
        rw [hconfig]
        exact rfl
      exact ⟨t, _, ready, h, address _ _ _ hconfig, follows⟩
    | false =>
      obtain ⟨down, ⟨attempts, binds, chosen⟩, file⟩ := h
      exact ⟨down, ⟨attempts, ready.binds ▸ binds, chosen⟩, file.trans ready.file⟩

/-- An acquisition gives up, or goes on to the session file with both sockets bound. -/
theorem wp_acquireSession_cases {I : UInt16 → W → Prop} {Q : Bool → ServerState W → Prop}
    {s : ServerState W} (guards : Guards os (config bridge s).address I) (fuel : Nat)
    (givenUp : ∀ s', GivenUp s s' (config bridge s) → Q false s')
    (bound : ∀ t q s', Bindings bridge os I s t s' q →
      wp (writeSessionFile os) Q (fun _ _ => True) s') :
    wp (acquireSession bridge os fuel) Q (fun _ _ => True) s := by
  rw [acquireSession_eq, wp_bind]
  refine wp_mono (acquireSockets_run bridge s guards fuel) (fun up s' h => ?_) fun _ _ h => h
  cases up with
  | true =>
    obtain ⟨t, q, bindings⟩ := h
    exact bound t q s' bindings
  | false => exact givenUp s' h

/-- The three lines of the session file. -/
def sessionLines (s : ServerState W) : List Bytes :=
  [bytes (toString s.sessReqRepPort.toNat), bytes (toString s.sessPubSubPort.toNat), s.bindAddress]

theorem wp_writeSessionFile {Q : Bool → ServerState W → Prop} {E : Halt → ServerState W → Prop}
    {s : ServerState W} :
    wp (writeSessionFile os) Q E s ↔
      if (os.openSessionFile s.sessionPid s.world).1 then
        Q true ((s.moveTo (os.openSessionFile s.sessionPid s.world).2).setSessionFile
          (some (sessionLines s)))
      else Q false (s.moveTo (os.openSessionFile s.sessionPid s.world).2) := by
  unfold writeSessionFile
  simp only [wp_bind, wp_get, wp_call, wp_ite, wp_modify, wp_pure]
  rfl

/-- A session that is acquired has both sockets bound. One that is not has both, without a
session file, or none. -/
theorem acquireSession_sockets (fuel : Nat) (s : ServerState W) :
    wp (acquireSession bridge os fuel) (fun acquired s' => s'.Up ∨ acquired = false ∧ s'.Down)
      (fun _ _ => True) s := by
  refine wp_acquireSession_cases (Guards.trivial os _) fuel (fun s' h => Or.inr ⟨rfl, h.left.1⟩)
    fun t q s' bindings => ?_
  have up (t' : ServerState W) (same : ∀ a, t'.socket a = s'.socket a) : t'.Up := by
    intro a
    rw [same a]
    cases a with
    | rep => exact ⟨_, _, bindings.established.rep⟩
    | pub => exact ⟨_, _, bindings.established.pub⟩
  rw [wp_writeSessionFile]
  split
  · exact Or.inl (up _ fun a => by simp)
  · exact Or.inl (up _ fun a => by simp)

/-- An acquired session, as its file tells it. -/
structure Announced (s : ServerState W) : Prop where
  file : s.sessionFile = some (sessionLines s)
  socket : ∀ a, s.socket a = .bound s.bindAddress (s.port a)

/-- The sockets of a session are where the settings say. -/
def ServesAt (s : ServerState W) : Effective → Prop
  | .localhost => s.bindAddress = bytes "localhost" ∧ s.sessReqRepPort ≠ 0
  | .remote address reqPort pubPort =>
    s.bindAddress = address ∧ s.sessReqRepPort = reqPort ∧ s.sessPubSubPort = pubPort

theorem acquireSession_announced (bridge : Bridge W) (os : Platform W) (fuel : Nat)
    (s : ServerState W) :
    wp (acquireSession bridge os fuel)
      (fun acquired s' => acquired = true → Announced s' ∧ ServesAt s' (config bridge s))
      (fun _ _ => True) s := by
  refine wp_acquireSession_cases (Guards.trivial os _) fuel
    (fun s' _ acquired => absurd acquired Bool.false_ne_true) fun t q s' bindings => ?_
  have established := bindings.established
  have address : s'.bindAddress = q.address := established.address.trans bindings.address
  rw [wp_writeSessionFile]
  split
  next =>
    intro _
    refine ⟨⟨rfl, fun a => ?_⟩, ?_⟩
    · show s'.socket a = .bound s'.bindAddress (s'.port a)
      rw [address]
      cases a with
      | rep => exact established.rep.trans (by rw [← established.repPort]; rfl)
      | pub => exact established.pub.trans (by rw [← established.pubPort]; rfl)
    · have follows := bindings.follows
      cases hconfig : config bridge s with
      | localhost =>
        rw [hconfig] at follows
        refine ⟨address.trans follows.1, ?_⟩
        show s'.sessReqRepPort ≠ 0
        rw [established.repPort]
        exact follows.2
      | remote addr reqPort pubPort =>
        rw [hconfig] at follows
        obtain rfl : q = _ := follows
        exact ⟨address, established.repPort, established.pubPort⟩
  next => exact fun acquired => absurd acquired Bool.false_ne_true

end ServerM

end XAuto
