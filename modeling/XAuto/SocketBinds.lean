import XAuto.Session

namespace XAuto

open Effect

variable {W : Type}

namespace ServerState

def Up (s : ServerState W) : Prop := ∀ a, ∃ address port, s.socket a = .bound address port

def Down (s : ServerState W) : Prop := ∀ a, s.socket a = .null

/-- What is left alone while one socket is created and bound. -/
structure Frame (a : Socket) (s s' : ServerState W) : Prop where
  socket : ∀ b ≠ a, s'.socket b = s.socket b
  port : ∀ b ≠ a, s'.port b = s.port b
  address : s'.bindAddress = s.bindAddress
  pid : s'.sessionPid = s.sessionPid
  file : s'.sessionFile = s.sessionFile

namespace Frame

variable {a : Socket} {s s' s'' : ServerState W}

theorem refl (a : Socket) (s : ServerState W) : Frame a s s :=
  ⟨fun _ _ => rfl, fun _ _ => rfl, rfl, rfl, rfl⟩

theorem trans (h : Frame a s s') (h' : Frame a s' s'') : Frame a s s'' where
  socket b hb := (h'.socket b hb).trans (h.socket b hb)
  port b hb := (h'.port b hb).trans (h.port b hb)
  address := h'.address.trans h.address
  pid := h'.pid.trans h.pid
  file := h'.file.trans h.file

theorem moveTo (h : Frame a s s') (w : W) : Frame a s (s'.moveTo w) := by
  refine h.trans ⟨fun b _ => ?_, fun b _ => ?_, rfl, rfl, rfl⟩ <;> cases b <;> rfl

theorem noteBind (h : Frame a s s') (t : BindAttempt) : Frame a s (s'.noteBind t) := by
  refine h.trans ⟨fun b _ => ?_, fun b _ => ?_, rfl, rfl, rfl⟩ <;> cases b <;> rfl

theorem setSocket (h : Frame a s s') (state : SocketState) :
    Frame a s (s'.setSocket a state) := by
  refine h.trans ⟨fun b hb => socket_setSocket_ne s' hb state, fun b _ => ?_, ?_, ?_, ?_⟩
  · exact port_setSocket s' a b state
  all_goals cases a <;> rfl

theorem setPort (h : Frame a s s') (port : UInt16) : Frame a s (s'.setPort a port) := by
  refine h.trans ⟨fun b _ => socket_setPort s' a b port, fun b hb => ?_, ?_, ?_, ?_⟩
  · cases a <;> cases b <;> first | rfl | exact absurd rfl hb
  all_goals cases a <;> rfl

end Frame

section Lemmas

variable (s : ServerState W) (a : Socket)

@[simp] theorem binds_setSocket (state : SocketState) : (s.setSocket a state).binds = s.binds := by
  cases a <;> rfl

@[simp] theorem binds_setPort (port : UInt16) : (s.setPort a port).binds = s.binds := by
  cases a <;> rfl

@[simp] theorem world_setSocket (state : SocketState) : (s.setSocket a state).world = s.world := by
  cases a <;> rfl

@[simp] theorem world_setPort (port : UInt16) : (s.setPort a port).world = s.world := by
  cases a <;> rfl

@[simp] theorem port_moveTo (w : W) : (s.moveTo w).port a = s.port a := by cases a <;> rfl

@[simp] theorem port_noteBind (t : BindAttempt) : (s.noteBind t).port a = s.port a := by
  cases a <;> rfl

end Lemmas

end ServerState

namespace ServerM

variable {bridge : Bridge W} {os : Platform W}

@[simp] theorem wp_call {α : Type} {Q : α → ServerState W → Prop}
    {E : Halt → ServerState W → Prop} {s : ServerState W} (f : W → α × W) :
    wp (call f) Q E s ↔ Q (f s.world).1 (s.moveTo (f s.world).2) := Iff.rfl

/-- The bind attempts that lead from one state to another. -/
def Tries (P : BindAttempt → Prop) (s s' : ServerState W) : Prop :=
  ∃ attempts, s'.binds = s.binds ++ attempts ∧ ∀ b ∈ attempts, P b

theorem Tries.trans {P : BindAttempt → Prop} {s s' s'' : ServerState W} (h : Tries P s s')
    (h' : Tries P s' s'') : Tries P s s'' := by
  obtain ⟨xs, hxs, hp⟩ := h
  obtain ⟨ys, hys, hq⟩ := h'
  refine ⟨xs ++ ys, by rw [hys, hxs, List.append_assoc], fun b hb => ?_⟩
  rcases List.mem_append.mp hb with hb | hb
  · exact hp b hb
  · exact hq b hb

/-- A socket has been bound after some failed attempts, the last one in a world with `I`. -/
structure Bound (os : Platform W) (a : Socket) (address : Bytes) (I : W → Prop)
    (s s' : ServerState W) (misses : List BindAttempt) (hit : UInt16) : Prop where
  frame : s.Frame a s'
  socket : s'.socket a = .bound address hit
  port : s'.port a = hit
  binds : s'.binds = s.binds ++ (misses ++ [⟨a, address, hit, true⟩])
  missed : ∀ b ∈ misses, b.socket = a ∧ b.address = address ∧ b.bound = false
  world : ∃ w, I w ∧ (os.bind a (endpoint address hit) w).1 = true ∧
    s'.world = (os.bind a (endpoint address hit) w).2

/-- One attempt: the socket is bound, or a ZeroMQ error is all that happened. -/
theorem bind_run (a : Socket) (address : Bytes) {I : W → Prop} {s : ServerState W}
    (hI : I s.world) :
    wp (bind os a address) (fun _ s' => Bound os a address I s s' [] (s.port a))
      (fun e s' => e = .zmqError ∧ s.Frame a s' ∧
        s'.binds = s.binds ++ [⟨a, address, s.port a, false⟩] ∧
        s'.world = (os.bind a (endpoint address (s.port a)) s.world).2) s := by
  unfold bind
  simp only [wp_bind, wp_get, wp_call, wp_modify, wp_ite, wp_throw]
  have frame (bound : Bool) : s.Frame a ((s.moveTo
      (os.bind a (endpoint address (s.port a)) s.world).2).noteBind
        ⟨a, address, s.port a, bound⟩) :=
    ((ServerState.Frame.refl a s).moveTo _).noteBind _
  cases hb : (os.bind a (endpoint address (s.port a)) s.world).1 with
  | true =>
    refine ⟨(frame _).setSocket _, by simp, by simp, ?_, by simp, s.world, hI, hb, ?_⟩
    · rw [ServerState.binds_setSocket]
      rfl
    · rw [ServerState.world_setSocket]
      rfl
  | false => exact ⟨trivial, frame _, rfl, rfl⟩

theorem Bound.after {a : Socket} {address : Bytes} {I : W → Prop} {s s' s'' : ServerState W}
    {misses : List BindAttempt} {hit : UInt16} (h : Bound os a address I s' s'' misses hit)
    (frame : s.Frame a s') (binds : s'.binds = s.binds) : Bound os a address I s s'' misses hit :=
  { h with frame := frame.trans h.frame, binds := binds ▸ h.binds }

/-- One more failed attempt before the others. -/
theorem Bound.retry {a : Socket} {address : Bytes} {I : W → Prop} {s s' s'' : ServerState W}
    {misses : List BindAttempt} {hit port : UInt16} (h : Bound os a address I s' s'' misses hit)
    (frame : s.Frame a s') (binds : s'.binds = s.binds ++ [⟨a, address, port, false⟩]) :
    Bound os a address I s s'' (⟨a, address, port, false⟩ :: misses) hit := by
  refine { h with frame := frame.trans h.frame, binds := ?_, missed := ?_ }
  · rw [h.binds, binds]
    simp
  · intro b hb
    rcases List.mem_cons.mp hb with rfl | hb
    · exact ⟨rfl, rfl, rfl⟩
    · exact h.missed b hb

theorem randomPort_ne_zero (draw : Fin 0x4000) : (0xc000 : UInt16) + UInt16.ofNat draw ≠ 0 := by
  intro h
  have hnat := congrArg UInt16.toNat h
  have small : draw.val < 2 ^ 16 := by omega
  rw [UInt16.toNat_add, UInt16.toNat_ofNat_of_lt' small] at hnat
  have hdraw := draw.isLt
  have base : (0xc000 : UInt16).toNat = 0xc000 := rfl
  have zero : (0 : UInt16).toNat = 0 := rfl
  omega

/-- The retry loop ends with the first attempt that succeeds. -/
theorem bindRandom_run (a : Socket) (fuel : Nat) {I : W → Prop}
    (drawn : ∀ w, I w → I (os.distrib w).2) (tried : ∀ e w, I w → I (os.bind a e w).2)
    {s : ServerState W} (hI : I s.world) :
    wp (bindRandom os a fuel)
      (fun _ s' => ∃ misses hit, Bound os a (bytes "localhost") I s s' misses hit ∧ hit ≠ 0)
      (fun e _ => e = .retrying) s := by
  induction fuel generalizing s with
  | zero => rfl
  | succ fuel ih =>
    simp only [bindRandom, wp_bind, wp_call, wp_modify, wp_tryCatch]
    obtain ⟨port, hport⟩ : ∃ port, port = 0xc000 + UInt16.ofNat (os.distrib s.world).1 := ⟨_, rfl⟩
    obtain ⟨t, ht⟩ : ∃ t, t = (s.moveTo (os.distrib s.world).2).setPort a port := ⟨_, rfl⟩
    rw [← hport, ← ht]
    have frame : s.Frame a t := ht ▸ ((ServerState.Frame.refl a s).moveTo _).setPort _
    have binds : t.binds = s.binds := by
      rw [ht, ServerState.binds_setPort]
      rfl
    have world : t.world = (os.distrib s.world).2 := by
      rw [ht, ServerState.world_setPort]
      rfl
    have chosen : t.port a = port := by rw [ht, ServerState.port_setPort]
    have hIt : I t.world := world ▸ drawn _ hI
    refine wp_mono (bind_run a _ hIt) (fun _ s' h => ?_) fun e s' h => ?_
    · have nonzero : port ≠ 0 := hport ▸ randomPort_ne_zero _
      exact ⟨[], _, h.after frame binds, chosen ▸ nonzero⟩
    · obtain ⟨rfl, hframe, hbinds, hworld⟩ := h
      have hIs' : I s'.world := hworld ▸ tried _ _ hIt
      refine wp_mono (ih hIs') (fun _ s'' h => ?_) fun _ _ h => h
      obtain ⟨misses, hit, hbound, hhit⟩ := h
      exact ⟨_, hit, hbound.retry (frame.trans hframe) (binds ▸ hbinds), hhit⟩

/-- How both sockets were bound: the failed attempts and the port of each. -/
structure Acquisition where
  address : Bytes
  repMisses : List BindAttempt
  reqPort : UInt16
  pubMisses : List BindAttempt
  pubPort : UInt16

def Acquisition.attempts (q : Acquisition) : List BindAttempt :=
  (q.repMisses ++ [⟨.rep, q.address, q.reqPort, true⟩]) ++
    (q.pubMisses ++ [⟨.pub, q.address, q.pubPort, true⟩])

/-- Both sockets have been bound at one address, and nothing else has changed. -/
structure Established (os : Platform W) (I : UInt16 → W → Prop) (s s' : ServerState W)
    (q : Acquisition) : Prop where
  rep : s'.repSocket = .bound q.address q.reqPort
  pub : s'.pubSocket = .bound q.address q.pubPort
  repPort : s'.sessReqRepPort = q.reqPort
  pubPort : s'.sessPubSubPort = q.pubPort
  address : s'.bindAddress = s.bindAddress
  pid : s'.sessionPid = s.sessionPid
  file : s'.sessionFile = s.sessionFile
  binds : s'.binds = s.binds ++ q.attempts
  repMissed : ∀ b ∈ q.repMisses, b.socket = .rep ∧ b.address = q.address ∧ b.bound = false
  pubMissed : ∀ b ∈ q.pubMisses, b.socket = .pub ∧ b.address = q.address ∧ b.bound = false
  second : ∃ w, I q.reqPort w ∧ (os.bind .pub (endpoint q.address q.pubPort) w).1 = true

theorem Bound.established {I : UInt16 → W → Prop} {address : Bytes} {s s' s'' : ServerState W}
    {repMisses pubMisses : List BindAttempt} {reqPort pubPort : UInt16}
    (hrep : Bound os .rep address (fun _ => True) s s' repMisses reqPort)
    (hpub : Bound os .pub address (I reqPort) s' s'' pubMisses pubPort) :
    Established os I s s'' ⟨address, repMisses, reqPort, pubMisses, pubPort⟩ where
  rep := (hpub.frame.socket .rep (by decide)).trans hrep.socket
  pub := hpub.socket
  repPort := (hpub.frame.port .rep (by decide)).trans hrep.port
  pubPort := hpub.port
  address := hpub.frame.address.trans hrep.frame.address
  pid := hpub.frame.pid.trans hrep.frame.pid
  file := hpub.frame.file.trans hrep.frame.file
  binds := by rw [hpub.binds, hrep.binds, List.append_assoc, Acquisition.attempts]
  repMissed := hrep.missed
  pubMissed := hpub.missed
  second := by
    obtain ⟨w, hI, hok, -⟩ := hpub.world
    exact ⟨w, hI, hok⟩

/-- What `I` says of a REQ/REP port holds from its bind to the last attempt of the other socket. -/
structure Guards (os : Platform W) (address : Bytes) (I : UInt16 → W → Prop) : Prop where
  bound : ∀ port w, (os.bind .rep (endpoint address port) w).1 = true →
    I port (os.bind .rep (endpoint address port) w).2
  created : ∀ port w, I port w → I port (os.createSocket .pub w).2
  drawn : ∀ port w, I port w → I port (os.distrib w).2
  tried : ∀ port e w, I port w → I port (os.bind .pub e w).2

theorem Guards.trivial (os : Platform W) (address : Bytes) :
    Guards os address fun _ _ => True :=
  ⟨fun _ _ _ => ⟨⟩, fun _ _ _ => ⟨⟩, fun _ _ _ => ⟨⟩, fun _ _ _ _ => ⟨⟩⟩

/-- Once the REQ/REP port is bound and the other socket created, `I` holds of that port. -/
theorem Guards.before_pub {I : UInt16 → W → Prop} {address : Bytes} (guards : Guards os address I)
    {s s1 s2 : ServerState W} {misses : List BindAttempt} {reqPort : UInt16}
    (hrep : Bound os .rep address (fun _ => True) s s1 misses reqPort)
    (created : s2.world = (os.createSocket .pub s1.world).2) : I reqPort s2.world := by
  obtain ⟨w, -, hok, hworld⟩ := hrep.world
  rw [created, hworld]
  exact guards.created _ _ (guards.bound _ _ hok)

/-- Creating a socket leaves the other one and the attempts alone. -/
theorem create_run (a : Socket) (s : ServerState W) :
    wp (create os a) (fun _ s' => s.Frame a s' ∧ s'.binds = s.binds ∧
        s'.world = (os.createSocket a s.world).2)
      (fun e s' => e = .zmqError ∧ s.Frame a s' ∧ s'.binds = s.binds) s := by
  have frame : s.Frame a (s.moveTo (os.createSocket a s.world).2) :=
    (ServerState.Frame.refl a s).moveTo _
  unfold create
  simp only [wp_bind, wp_call, wp_ite, wp_modify, wp_throw]
  split
  · refine ⟨frame.setSocket _, ?_, ?_⟩
    · rw [ServerState.binds_setSocket]
      rfl
    · rw [ServerState.world_setSocket]
      rfl
  · exact ⟨trivial, frame, rfl⟩

theorem acquireLocal_run {I : UInt16 → W → Prop} (guards : Guards os (bytes "localhost") I)
    (fuel : Nat) (s : ServerState W) :
    wp (acquireLocal os fuel)
      (fun _ s' => ∃ q, Established os I (s.setBindAddress (bytes "localhost")) s' q ∧
        q.address = bytes "localhost" ∧ q.reqPort ≠ 0)
      (fun _ _ => True) s := by
  unfold acquireLocal
  simp only [wp_bind, wp_modify]
  refine wp_mono (create_run .rep _) (fun _ s1 h1 => ?_) fun _ _ _ => trivial
  obtain ⟨frame1, binds1, -⟩ := h1
  refine wp_mono (bindRandom_run .rep fuel (I := fun _ => True) (fun _ _ => trivial)
    (fun _ _ _ => trivial) trivial) (fun _ s2 h2 => ?_) fun _ _ _ => trivial
  obtain ⟨repMisses, reqPort, hrep, nonzero⟩ := h2
  refine wp_mono (create_run .pub s2) (fun _ s3 h3 => ?_) fun _ _ _ => trivial
  obtain ⟨frame3, binds3, world3⟩ := h3
  have held : I reqPort s3.world := guards.before_pub hrep world3
  refine wp_mono (bindRandom_run .pub fuel (guards.drawn reqPort) (guards.tried reqPort) held)
    (fun _ s4 h4 => ?_) fun _ _ _ => trivial
  obtain ⟨pubMisses, pubPort, hpub, -⟩ := h4
  exact ⟨_, (hrep.after frame1 binds1).established (hpub.after frame3 binds3), rfl, nonzero⟩

/-- The part of `acquireRemote` that follows the settings. -/
def bindRemote (os : Platform W) (address : Bytes) (reqPort pubPort : UInt16) : ServerM W Bool :=
  tryCatch (do
    create os .rep
    modify (·.setPort .rep reqPort)
    bind os .rep address
    create os .pub
    modify (·.setPort .pub pubPort)
    bind os .pub address
    pure true) fun
    | .zmqError => do
      close .rep
      close .pub
      pure false
    | e => throw e

/-- A bind attempt at the address and the port chosen for its socket. -/
def Chosen (address : Bytes) (reqPort pubPort : UInt16) (b : BindAttempt) : Prop :=
  b.address = address ∧ b.port = match b.socket with
    | .rep => reqPort
    | .pub => pubPort

/-- Binding fails as a whole: both sockets are closed, whatever was tried. -/
structure Abandoned (P : BindAttempt → Prop) (s s' : ServerState W) : Prop where
  down : s'.Down
  tries : Tries P s s'
  file : s'.sessionFile = s.sessionFile

theorem abandoned_of_tries {P : BindAttempt → Prop} {s t : ServerState W} (tries : Tries P s t)
    (file : t.sessionFile = s.sessionFile) :
    Abandoned P s ((t.setSocket .rep .null).setSocket .pub .null) := by
  refine ⟨fun a => ?_, tries, file⟩
  cases a <;> rfl

/-- One socket of a remote session: it is bound at the first attempt, or that attempt is all that
happened. -/
theorem wp_connect {P : BindAttempt → Prop} {a : Socket} {address : Bytes} {port : UInt16}
    {I : W → Prop} {Q : ServerState W → Prop} {E : Halt → ServerState W → Prop}
    {s : ServerState W} (hP : P ⟨a, address, port, false⟩)
    (hI : ∀ t : ServerState W, t.world = (os.createSocket a s.world).2 → I t.world)
    (hok : ∀ t, Bound os a address I s t [] port → Q t)
    (herr : ∀ t, Tries P s t → t.sessionFile = s.sessionFile → E .zmqError t) :
    wp (create os a) (fun _ t => wp (bind os a address) (fun _ => Q) E (t.setPort a port)) E s := by
  refine wp_mono (create_run a s) (fun _ t h => ?_) fun e t h => ?_
  · obtain ⟨frame, binds, world⟩ := h
    have hset : (t.setPort a port).port a = port := t.port_setPort a port
    have held : I (t.setPort a port).world := hI _ (by rw [ServerState.world_setPort, world])
    refine wp_mono (bind_run a address held) (fun _ t' h => ?_) fun e t' h => ?_
    · rw [hset] at h
      exact hok t' (h.after (frame.setPort port) (by simpa using binds))
    · obtain ⟨rfl, frame', tried, -⟩ := h
      rw [ServerState.binds_setPort, binds, hset] at tried
      exact herr t' ⟨_, tried, by simpa using hP⟩ ((frame.setPort port).trans frame').file
  · obtain ⟨rfl, frame, binds⟩ := h
    exact herr t ⟨[], by simpa using binds, by simp⟩ frame.file

theorem bindRemote_run {I : UInt16 → W → Prop} {address : Bytes} (guards : Guards os address I)
    (reqPort pubPort : UInt16) (s : ServerState W) :
    wp (bindRemote os address reqPort pubPort)
      (fun up s' => if up then Established os I s s' ⟨address, [], reqPort, [], pubPort⟩
        else Abandoned (Chosen address reqPort pubPort) s s')
      (fun _ _ => False) s := by
  unfold bindRemote
  simp only [wp_bind, wp_modify, wp_tryCatch, wp_pure]
  refine wp_connect (P := Chosen address reqPort pubPort) (I := fun _ => True) ⟨rfl, rfl⟩
    (fun _ _ => trivial) (fun t hrep => ?_) fun t tries file => abandoned_of_tries tries file
  refine wp_connect (P := Chosen address reqPort pubPort) ⟨rfl, rfl⟩
    (fun _ created => guards.before_pub hrep created) (fun t' hpub => hrep.established hpub)
    fun t' tries file => ?_
  have one : Tries (Chosen address reqPort pubPort) s t :=
    ⟨_, hrep.binds, by simp [Chosen]⟩
  exact abandoned_of_tries (one.trans tries) (file.trans hrep.frame.file)

end ServerM

end XAuto
