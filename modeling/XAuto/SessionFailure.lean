import XAuto.SessionConfig

namespace XAuto

open Effect

variable {W : Type}

namespace Platform

variable (os : Platform W)

/-- A socket is created, in the world that this leaves. -/
def creates (socket : Socket) (w : W) : Option W :=
  let made := os.createSocket socket w
  if made.1 then some made.2 else none

/-- A bind succeeds. -/
def binds (socket : Socket) (address : Bytes) (port : UInt16) (w : W) : Option W :=
  let made := os.bind socket (ServerM.endpoint address port) w
  if made.1 then some made.2 else none

/-- One of the first draws is of a free port. -/
def draws (socket : Socket) : Nat → W → Option W
  | 0, _ => none
  | fuel + 1, w =>
    let draw := os.distrib w
    let made := os.bind socket
      (ServerM.endpoint (bytes "localhost") (0xc000 + UInt16.ofNat draw.1)) draw.2
    if made.1 then some made.2 else draws socket fuel made.2

/-- Both sockets come to be bound where the settings say. -/
def bound (fuel : Nat) : Effective → W → Option W
  | .remote address reqPort pubPort, w => do
    let w ← os.creates .rep w
    let w ← os.binds .rep address reqPort w
    let w ← os.creates .pub w
    os.binds .pub address pubPort w
  | .localhost, w => do
    let w ← os.creates .rep w
    let w ← os.draws .rep fuel w
    let w ← os.creates .pub w
    os.draws .pub fuel w

end Platform

namespace ServerM

variable {bridge : Bridge W} {os : Platform W}

section Outcomes

/-- What happens to the world is an outcome of the platform, and the process id stays. -/
structure Follows (outcome : Option W) (s s' : ServerState W) : Prop where
  world : outcome = some s'.world
  pid : s'.sessionPid = s.sessionPid

variable {s : ServerState W} {socket : Socket}

theorem create_outcome (socket : Socket) (s : ServerState W) :
    wp (create os socket) (fun _ s' => Follows (os.creates socket s.world) s s')
      (fun e _ => e = .zmqError ∧ os.creates socket s.world = none) s := by
  unfold create Platform.creates
  simp only [wp_bind, wp_call, wp_ite, wp_modify, wp_throw]
  split
  · refine ⟨?_, ?_⟩
    · rw [ServerState.world_setSocket]
      rfl
    · cases socket <;> rfl
  · exact ⟨trivial, rfl⟩

theorem bind_outcome {port : UInt16} (os : Platform W) (socket : Socket) (address : Bytes)
    (hport : s.port socket = port) :
    wp (bind os socket address)
      (fun _ s' => (os.bind socket (endpoint address port) s.world).1 = true ∧
        Follows (some (os.bind socket (endpoint address port) s.world).2) s s')
      (fun e s' => e = .zmqError ∧ (os.bind socket (endpoint address port) s.world).1 = false ∧
        Follows (some (os.bind socket (endpoint address port) s.world).2) s s') s := by
  subst hport
  unfold bind
  simp only [wp_bind, wp_get, wp_call, wp_modify, wp_ite, wp_throw]
  split
  next made =>
    refine ⟨made, ?_, ?_⟩
    · rw [ServerState.world_setSocket]
      rfl
    · cases socket <;> rfl
  next failed => exact ⟨trivial, Bool.eq_false_iff.mpr failed, rfl, rfl⟩

theorem bindRandom_outcome (socket : Socket) (fuel : Nat) (s : ServerState W) :
    wp (bindRandom os socket fuel) (fun _ s' => Follows (os.draws socket fuel s.world) s s')
      (fun _ _ => os.draws socket fuel s.world = none) s := by
  induction fuel generalizing s with
  | zero => rfl
  | succ fuel ih =>
    simp only [bindRandom, wp_bind, wp_call, wp_modify, wp_tryCatch]
    obtain ⟨t, ht⟩ : ∃ t, t = (s.moveTo (os.distrib s.world).2).setPort socket
      (0xc000 + UInt16.ofNat (os.distrib s.world).1) := ⟨_, rfl⟩
    have pid : t.sessionPid = s.sessionPid := by rw [ht]; cases socket <;> rfl
    have world : t.world = (os.distrib s.world).2 := by rw [ht, ServerState.world_setPort]; rfl
    have attempt := bind_outcome os socket (bytes "localhost")
      (ht ▸ ServerState.port_setPort _ socket _)
    rw [world] at attempt
    rw [← ht]
    unfold Platform.draws
    refine wp_mono attempt (fun _ s' h => ?_) fun e s' h => ?_
    · obtain ⟨made, follows⟩ := h
      simp only [made, if_true]
      exact ⟨follows.world, follows.pid.trans pid⟩
    · obtain ⟨rfl, failed, follows⟩ := h
      simp only [failed, Bool.false_eq_true, if_false, Option.some.inj follows.world]
      refine wp_mono (ih s') (fun _ s'' h => ?_) fun _ _ h => h
      exact ⟨h.world, h.pid.trans (follows.pid.trans pid)⟩

theorem acquireLocal_outcome (fuel : Nat) (s : ServerState W) :
    wp (acquireLocal os fuel) (fun _ s' => Follows (os.bound fuel .localhost s.world) s s')
      (fun _ _ => os.bound fuel .localhost s.world = none) s := by
  unfold acquireLocal Platform.bound
  simp only [wp_bind, wp_modify, Option.bind_eq_bind]
  refine wp_mono (create_outcome .rep (s.setBindAddress _)) (fun _ s1 h1 => ?_) fun _ _ h => ?_
  · have made : os.creates .rep s.world = some s1.world := h1.world
    rw [made]
    refine wp_mono (bindRandom_outcome .rep fuel s1) (fun _ s2 h2 => ?_) fun _ _ h => ?_
    · rw [Option.bind_some, h2.world]
      refine wp_mono (create_outcome .pub s2) (fun _ s3 h3 => ?_) fun _ _ h => ?_
      · rw [Option.bind_some, h3.world]
        refine wp_mono (bindRandom_outcome .pub fuel s3) (fun _ s4 h4 => ?_) fun _ _ h => h
        exact ⟨h4.world, h4.pid.trans (h3.pid.trans (h2.pid.trans h1.pid))⟩
      · rw [Option.bind_some, h.2]
        rfl
    · rw [Option.bind_some, h]
      rfl
  · have failed : os.creates .rep s.world = none := h.2
    rw [failed]
    rfl

/-- One socket of a remote session. -/
theorem wp_connect_outcome {Q : ServerState W → Prop} {E : Halt → ServerState W → Prop}
    (address : Bytes) (port : UInt16)
    (hok : ∀ t, Follows ((os.creates socket s.world).bind (os.binds socket address port)) s t → Q t)
    (herr : ∀ t, (os.creates socket s.world).bind (os.binds socket address port) = none →
      E .zmqError t) :
    wp (create os socket)
      (fun _ t => wp (bind os socket address) (fun _ => Q) E (t.setPort socket port)) E s := by
  refine wp_mono (create_outcome socket s) (fun _ t h => ?_) fun e t h => ?_
  · have world : (t.setPort socket port).world = t.world := ServerState.world_setPort _ _ _
    have pid : (t.setPort socket port).sessionPid = t.sessionPid := by cases socket <;> rfl
    have attempt := bind_outcome os socket address (t.port_setPort socket port)
    rw [world] at attempt
    rw [h.world, Option.bind_some] at hok herr
    unfold Platform.binds at hok herr
    refine wp_mono attempt (fun _ t' h' => ?_) fun e t' h' => ?_
    · simp only [h'.1, if_true] at hok
      exact hok t' ⟨h'.2.world, h'.2.pid.trans (pid.trans h.pid)⟩
    · obtain ⟨rfl, failed, -⟩ := h'
      exact herr t' (if_neg (Bool.eq_false_iff.mp failed))
  · obtain ⟨rfl, failed⟩ := h
    exact herr t (by rw [failed]; rfl)

theorem bindRemote_outcome (address : Bytes) (reqPort pubPort : UInt16) (fuel : Nat)
    (s : ServerState W) :
    let bound := os.bound fuel (.remote address reqPort pubPort) s.world
    wp (bindRemote os address reqPort pubPort)
      (fun up s' => if up then Follows bound s s' else bound = none) (fun _ _ => False) s := by
  intro bound
  have parts : bound = ((os.creates .rep s.world).bind (os.binds .rep address reqPort)).bind
      fun w => (os.creates .pub w).bind (os.binds .pub address pubPort) :=
    (Option.bind_assoc ..).symm
  unfold bindRemote
  simp only [wp_bind, wp_modify, wp_tryCatch, wp_pure]
  refine wp_connect_outcome address reqPort (fun t rep => ?_) fun t failed => ?_
  · rw [rep.world, Option.bind_some] at parts
    refine wp_connect_outcome address pubPort (fun t' pub => ?_) fun t' failed => ?_
    · rw [← parts] at pub
      exact ⟨pub.world, pub.pid.trans rep.pid⟩
    · exact parts.trans failed
  · exact parts.trans (by rw [failed]; rfl)

/-- Both sockets are bound exactly when the platform lets them be, where the settings say. -/
theorem acquireSockets_outcome (bridge : Bridge W) (os : Platform W) (fuel : Nat)
    (s : ServerState W) :
    let pid := bridge.getCurrentProcessId s.world
    let bound := os.bound fuel (bridge.effective pid.2) (bridge.afterSettings pid.2)
    wp (acquireSockets bridge os fuel)
      (fun up s' => if up then bound = some s'.world ∧ s'.sessionPid = pid.1 else bound = none)
      (fun _ _ => bound = none) s := by
  intro pid bound
  obtain ⟨t, ready, -, heq⟩ := acquireSockets_eq bridge s
  refine wp_of_eq (heq os fuel) ?_
  have at_start : bound = os.bound fuel (config bridge s) t.world := by rw [ready.world]; rfl
  rw [at_start]
  cases config bridge s with
  | localhost =>
    simp only [bindSockets, wp_bind, wp_pure, if_true]
    refine wp_mono (acquireLocal_outcome fuel t) (fun _ s' h => ?_) fun _ _ h => h
    exact ⟨h.world, h.pid.trans ready.pid⟩
  | remote address reqPort pubPort =>
    refine wp_mono (bindRemote_outcome address reqPort pubPort fuel t) (fun up s' h => ?_)
      fun _ _ h => h.elim
    cases up with
    | true => exact ⟨h.world, h.pid.trans ready.pid⟩
    | false => exact h

end Outcomes

/-- A failed acquisition leaves neither socket open and no session file. -/
def LeavesNothing (acquired : Bool) (s' : ServerState W) : Prop :=
  acquired = false → s'.Down ∧ s'.sessionFile = none

theorem not_down_of_bound {s : ServerState W} {address : Bytes} {port : UInt16}
    (h : s.repSocket = .bound address port) : ¬s.Down := by
  intro down
  have null : s.repSocket = .null := down .rep
  rw [h] at null
  cases null

/-- The session file decides once the sockets have been bound. -/
theorem leavesNothing_iff_opens (bridge : Bridge W) (os : Platform W) (fuel : Nat)
    (s : ServerState W) (fresh : s.sessionFile = none) :
    wp (acquireSession bridge os fuel) LeavesNothing (fun _ _ => True) s ↔
      wp (acquireSockets bridge os fuel)
        (fun up s' => up = true → (os.openSessionFile s'.sessionPid s'.world).1 = true)
        (fun _ _ => True) s := by
  have run := acquireSockets_run bridge s (Guards.trivial os _) fuel
  rw [acquireSession_eq, wp_bind]
  refine wp_congr run fun up s' h => ?_
  cases up with
  | true =>
    obtain ⟨t, q, bindings⟩ := h
    have bound := bindings.established.rep
    simp only [if_true, wp_writeSessionFile, forall_const]
    cases (os.openSessionFile s'.sessionPid s'.world).1 with
    | true => simp [LeavesNothing]
    | false =>
      simp only [Bool.false_eq_true, if_false, iff_false]
      intro nothing
      exact not_down_of_bound bound (nothing rfl).1
  | false =>
    simp only [Bool.false_eq_true, if_false, wp_pure, false_implies, iff_true]
    intro _
    obtain ⟨down, file⟩ := GivenUp.left h
    exact ⟨down, file.trans fresh⟩

/-- Acquisition leaves nothing behind when it fails exactly when the session file can be opened
once the platform has let both sockets be bound where the settings say. -/
theorem failed_acquisition_iff (bridge : Bridge W) (os : Platform W) (fuel : Nat) (w : W) :
    let pid := bridge.getCurrentProcessId w
    wp (acquireSession bridge os fuel) LeavesNothing (fun _ _ => True) { world := w } ↔
      ∀ w', os.bound fuel (bridge.effective pid.2) (bridge.afterSettings pid.2) = some w' →
        (os.openSessionFile pid.1 w').1 = true := by
  intro pid
  have outcome := acquireSockets_outcome bridge os fuel { world := w }
  dsimp only at outcome
  rw [leavesNothing_iff_opens bridge os fuel _ rfl]
  cases hrun : acquireSockets bridge os fuel { world := w } with
  | ok up s' =>
    have reached := outcome.ok hrun
    cases up with
    | true =>
      obtain ⟨world, hpid⟩ := reached
      constructor
      · intro opens w' hw'
        obtain rfl : s'.world = w' := Option.some.inj (world.symm.trans hw')
        have opened := opens.ok hrun rfl
        rwa [hpid] at opened
      · intro opens
        refine wp_of_ok hrun fun _ => ?_
        rw [hpid]
        exact opens s'.world world
    | false =>
      refine iff_of_true (wp_of_ok hrun nofun) fun w' hw' => ?_
      cases reached.symm.trans hw'
  | error e s' =>
    refine iff_of_true (wp_of_error hrun trivial) fun w' hw' => ?_
    cases (outcome.error hrun).symm.trans hw'

/-- A platform on which everything succeeds but the session file. -/
def readOnlyPlatform : Platform Unit :=
  { Platform.always true with openSessionFile := fun _ w => (false, w) }

/-- Without a session file the sockets stay bound. -/
theorem unopened_file_keeps_sockets :
    ¬∀ (bridge : Bridge Unit) (os : Platform Unit) (fuel : Nat) (w : Unit),
      wp (acquireSession bridge os fuel) LeavesNothing (fun _ _ => True) { world := w } := by
  intro h
  have run := h .idle readOnlyPlatform 1 ()
  have down : ServerState.Down _ := (run.ok rfl rfl).1
  exact not_down_of_bound rfl down

end ServerM

end XAuto
