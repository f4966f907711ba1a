import XAuto.Host
import XAuto.SessionFiles

namespace XAuto

open Effect ServerM

variable {W : Type} {h : Host W} {pid : UInt32} {f : Fleet W}

/-- The endpoint that a socket has taken with a successful attempt. -/
structure BindAttempt.Takes (b : BindAttempt) (a : Socket) (e : Bytes) : Prop where
  bound : b.bound = true
  socket : b.socket = a
  nonzero : b.port ≠ 0
  endpoint : endpoint b.address b.port = e

def ServerState.Took (s : ServerState W) (a : Socket) (e : Bytes) : Prop :=
  ∃ b ∈ s.binds, b.Takes a e

theorem ServerState.took_noteBind (s : ServerState W) (b : BindAttempt) (a : Socket) (e : Bytes) :
    (s.noteBind b).Took a e ↔ s.Took a e ∨ b.Takes a e := by
  show (∃ x ∈ s.binds ++ [b], _) ↔ _
  simp only [List.mem_append, List.mem_singleton, or_and_right, exists_or, exists_eq_left]
  rfl

namespace Host

section Releases

variable (lawful : h.Lawful) {w : W} {e : Bytes} {p : UInt32} {b : Socket}

include lawful

theorem holder_ends : h.holder (h.ends pid w f).world e = some (p, b) ↔
    h.holder w e = some (p, b) ∧ p ≠ pid := by
  simp only [ends, lawful.releases]
  constructor
  · rintro ⟨⟨held, notRep⟩, notPub⟩
    refine ⟨held, fun same => ?_⟩
    cases b with
    | rep => exact notRep ⟨same, rfl⟩
    | pub => exact notPub ⟨same, rfl⟩
  · rintro ⟨held, other⟩
    exact ⟨⟨held, fun h => other h.1⟩, fun h => other h.1⟩

theorem holder_settle {s : ServerState W} :
    h.holder (h.settle pid s w) e = some (p, b) ↔
      h.holder w e = some (p, b) ∧ (p = pid → s.socket b ≠ .null) := by
  have free (a : Socket) (w : W) :
      h.holder (if s.socket a = .null then h.release pid a w else w) e = some (p, b) ↔
        h.holder w e = some (p, b) ∧ (p = pid → b = a → s.socket b ≠ .null) := by
    split
    next closed =>
      rw [lawful.releases]
      constructor
      · rintro ⟨held, other⟩
        exact ⟨held, fun hp ha => absurd ⟨hp, ha⟩ other⟩
      · rintro ⟨held, others⟩
        refine ⟨held, ?_⟩
        rintro ⟨hp, rfl⟩
        exact others hp rfl closed
    next opened =>
      constructor
      · intro held
        refine ⟨held, ?_⟩
        rintro - rfl
        exact opened
      · exact And.left
  simp only [settle]
  rw [free .pub, free .rep]
  constructor
  · rintro ⟨⟨held, rep⟩, pub⟩
    refine ⟨held, fun hp => ?_⟩
    cases b with
    | rep => exact rep hp rfl
    | pub => exact pub hp rfl
  · rintro ⟨held, live⟩
    exact ⟨⟨held, fun hp _ => live hp⟩, fun hp _ => live hp⟩

end Releases

/-- While a server binds its sockets it holds the endpoints of its successful attempts, and nobody
else gains or loses one. -/
structure Binding (h : Host W) (pid : UInt32) (w : W) (s : ServerState W) : Prop where
  mine : ∀ e a, h.holder s.world e = some (pid, a) ↔ s.Took a e
  others : ∀ e p a, p ≠ pid → (h.holder s.world e = some (p, a) ↔ h.holder w e = some (p, a))
  socket : ∀ a address port, s.socket a = .bound address port →
    ⟨a, address, port, true⟩ ∈ s.binds
  processId : s.sessionPid = pid

section Binding

variable {w : W} {s s' : ServerState W}

/-- What is done to a server between the calls that bind its sockets. -/
theorem Binding.keeps (hb : h.Binding pid w s) (world : h.holder s'.world = h.holder s.world)
    (binds : s'.binds = s.binds)
    (socket : ∀ a address port, s'.socket a = .bound address port →
      s.socket a = .bound address port) (processId : s'.sessionPid = s.sessionPid) :
    h.Binding pid w s' where
  mine e a := by
    rw [world, ServerState.Took, binds]
    exact hb.mine e a
  others e p a other := by
    rw [world]
    exact hb.others e p a other
  socket a address port bound := by
    rw [binds]
    exact hb.socket a address port (socket a address port bound)
  processId := processId.trans hb.processId

theorem Binding.calls {α : Type} {f : W → α × W} (quiet : h.Quiet f) :
    Keeps (h.Binding pid w) (call f) :=
  fun s hs => hs.keeps (quiet s.world) rfl (fun a address port bound => by simpa using bound) rfl

theorem Binding.setSocket (hb : h.Binding pid w s) (a : Socket) {state : SocketState}
    (free : ∀ address port, state ≠ .bound address port) :
    h.Binding pid w (s.setSocket a state) := by
  refine hb.keeps (by rw [ServerState.world_setSocket]) (by rw [ServerState.binds_setSocket])
    (fun b address port bound => ?_) (by cases a <;> rfl)
  by_cases same : b = a
  · rw [same, ServerState.socket_setSocket] at bound
    exact absurd bound (free address port)
  · rwa [ServerState.socket_setSocket_ne s same] at bound

theorem Binding.setPort (hb : h.Binding pid w s) (a : Socket) (port : UInt16) :
    h.Binding pid w (s.setPort a port) := by
  refine hb.keeps (by rw [ServerState.world_setPort]) (by rw [ServerState.binds_setPort])
    (fun b address port' bound => ?_) (by cases a <;> rfl)
  rwa [ServerState.socket_setPort] at bound

/-- An attempt that succeeds takes an endpoint that nobody held. -/
theorem Binding.taken (hb : h.Binding pid w s) {e : Bytes} {a : Socket}
    (free : h.holder s.world e = none)
    (world : h.holder s'.world = Function.update (h.holder s.world) e (some (pid, a)))
    (took : ∀ b e', s'.Took b e' ↔ s.Took b e' ∨ (b = a ∧ e' = e)) :
    (∀ e' b, h.holder s'.world e' = some (pid, b) ↔ s'.Took b e') ∧
      ∀ e' p b, p ≠ pid →
        (h.holder s'.world e' = some (p, b) ↔ h.holder w e' = some (p, b)) := by
  constructor
  · intro e' b
    rw [world, took]
    by_cases same : e' = e
    · subst same
      have unheld : ¬s.Took b e' := by
        rw [← hb.mine, free]
        exact nofun
      rw [Function.update_self]
      constructor
      · intro mine
        cases mine
        exact Or.inr ⟨rfl, rfl⟩
      · rintro (before | ⟨rfl, -⟩)
        · exact absurd before unheld
        · rfl
    · rw [Function.update_of_ne same, hb.mine]
      simp [same]
  · intro e' p b other
    rw [world]
    by_cases same : e' = e
    · subst same
      rw [Function.update_self, ← hb.others _ _ _ other, free]
      simp [Ne.symm other]
    · rw [Function.update_of_ne same]
      exact hb.others e' p b other

variable (lawful : h.Lawful)

include lawful

/-- An attempt at an endpoint that is held fails; one that succeeds takes the endpoint. -/
theorem Binding.attempt (hb : h.Binding pid w s) (a : Socket) (address : Bytes) (port : UInt16) :
    let attempt := (h.os pid).bind a (endpoint address port) s.world
    let s' := (s.moveTo attempt.2).noteBind ⟨a, address, port, attempt.1⟩
    h.Binding pid w s' := by
  intro attempt s'
  have world : h.holder s'.world = _ := lawful.binds pid a address port s.world
  have took (b : Socket) (e : Bytes) : s'.Took b e ↔
      s.Took b e ∨ (⟨a, address, port, attempt.1⟩ : BindAttempt).Takes b e :=
    (s.moveTo attempt.2).took_noteBind _ b e
  have kept (b : Socket) (address' : Bytes) (port' : UInt16)
      (bound : s'.socket b = .bound address' port') :
      (⟨b, address', port', true⟩ : BindAttempt) ∈ s'.binds := by
    have before : s.socket b = .bound address' port' := by
      cases b <;> exact bound
    exact List.mem_append_left _ (hb.socket b address' port' before)
  by_cases taken : attempt.1 = true ∧ port ≠ 0
  · rw [if_pos taken] at world
    have free : h.holder s.world (endpoint address port) = none := by
      by_contra held
      have refused := lawful.refuses pid a _ _ held
      rw [show attempt.1 = true from taken.1] at refused
      cases refused
    have takes (b : Socket) (e : Bytes) :
        (⟨a, address, port, attempt.1⟩ : BindAttempt).Takes b e ↔
          b = a ∧ e = endpoint address port := by
      constructor
      · intro new
        exact ⟨new.socket.symm, new.endpoint.symm⟩
      · rintro ⟨rfl, rfl⟩
        exact ⟨taken.1, rfl, taken.2, rfl⟩
    obtain ⟨mine, others⟩ := hb.taken free world fun b e => by rw [took, takes]
    exact ⟨mine, others, kept, hb.processId⟩
  · rw [if_neg taken] at world
    refine ⟨fun e b => ?_, fun e p b other => ?_, kept, hb.processId⟩
    · rw [world, took, hb.mine]
      constructor
      · exact Or.inl
      · rintro (before | new)
        · exact before
        · exact absurd ⟨new.bound, new.nonzero⟩ taken
    · rw [world]
      exact hb.others e p b other

theorem Binding.create (a : Socket) : Keeps (h.Binding pid w) (create (h.os pid) a) := by
  refine (Binding.calls (lawful.createSocket pid a)).bind fun created => ?_
  exact .ite (.modify fun s hs => hs.setSocket a nofun) (.throw _)

theorem Binding.bind (a : Socket) (address : Bytes) :
    Keeps (h.Binding pid w) (bind (h.os pid) a address) := by
  intro s hs
  unfold ServerM.bind
  simp only [wp_bind, wp_get, ServerM.wp_call, wp_modify, wp_ite, wp_throw]
  have attempt := hs.attempt lawful a address (s.port a)
  split
  next bound =>
    obtain ⟨mine, others, socket, processId⟩ := attempt
    rw [bound] at mine others socket processId ⊢
    refine ⟨fun e b => ?_, fun e p b other => ?_, fun b address' port' now => ?_,
      by cases a <;> exact processId⟩
    · rw [ServerState.world_setSocket, ServerState.Took, ServerState.binds_setSocket]
      exact mine e b
    · rw [ServerState.world_setSocket]
      exact others e p b other
    · rw [ServerState.binds_setSocket]
      by_cases same : b = a
      · subst same
        rw [ServerState.socket_setSocket] at now
        cases now
        exact List.mem_append_right _ List.mem_cons_self
      · rw [ServerState.socket_setSocket_ne _ same] at now
        exact socket b address' port' now
  next failed => exact attempt

theorem Binding.bindRandom (a : Socket) (fuel : Nat) :
    Keeps (h.Binding pid w) (bindRandom (h.os pid) a fuel) := by
  induction fuel with
  | zero => exact .throw _
  | succ fuel ih =>
    refine (Binding.calls (lawful.distrib pid)).bind fun draw => ?_
    refine Keeps.bind (.modify fun s hs => hs.setPort a _) fun _ => ?_
    refine (Binding.bind lawful a _).tryCatch fun e => ?_
    cases e with
    | zmqError => exact ih
    | retrying => exact .throw _

theorem Binding.writeSessionFile : Keeps (h.Binding pid w) (writeSessionFile (h.os pid)) := by
  refine Keeps.bind (fun s hs => hs) fun s => ?_
  refine (Binding.calls (lawful.openSessionFile pid _)).bind fun opened => ?_
  refine .ite (Keeps.bind (.modify fun s hs => ?_) fun _ => .pure _) (.pure _)
  exact hs.keeps rfl rfl (fun a address port bound => by simpa using bound) rfl

theorem Binding.acquireLocal (fuel : Nat) :
    Keeps (h.Binding pid w) (acquireLocal (h.os pid) fuel) := by
  refine Keeps.bind (.modify fun s hs => ?_) fun _ => ?_
  · exact hs.keeps rfl rfl (fun a address port bound => by simpa using bound) rfl
  refine (Binding.create lawful .rep).bind fun _ => ?_
  refine (Binding.bindRandom lawful .rep fuel).bind fun _ => ?_
  exact (Binding.create lawful .pub).bind fun _ => Binding.bindRandom lawful .pub fuel

theorem Binding.readSetting (key : String) (capacity : Nat) :
    Keeps (h.Binding pid w) (readSetting (h.bridge pid) key capacity) := by
  have get : h.Quiet (settingGet (h.bridge pid) key capacity) :=
    lawful.bridgeSettingGet pid _ _
  refine (Binding.calls get).bind fun r => ?_
  refine Keeps.bind (.modify fun s hs => ?_) fun _ => .pure _
  exact hs.keeps rfl rfl (fun a address port bound => by cases a <;> exact bound) rfl

theorem Binding.acquireRemote :
    Keeps (h.Binding pid w) (acquireRemote (h.bridge pid) (h.os pid)) := by
  have getUint (key : String) : h.Quiet (settingGetUint (h.bridge pid) key) :=
    lawful.bridgeSettingGetUint pid _ _
  refine (Binding.readSetting lawful _ _).bind fun bindAddr => ?_
  refine Keeps.bind (.modify fun s hs => ?_) fun _ => ?_
  · exact hs.keeps rfl rfl (fun a address port bound => by simpa using bound) rfl
  refine (Binding.calls (getUint _)).bind fun reqPort => ?_
  refine (Binding.calls (getUint _)).bind fun pubPort => ?_
  refine Keeps.tryCatch ?_ fun e => ?_
  · refine (Binding.create lawful .rep).bind fun _ => ?_
    refine Keeps.bind (.modify fun s hs => hs.setPort .rep _) fun _ => ?_
    refine (Binding.bind lawful .rep _).bind fun _ => ?_
    refine (Binding.create lawful .pub).bind fun _ => ?_
    refine Keeps.bind (.modify fun s hs => hs.setPort .pub _) fun _ => ?_
    exact (Binding.bind lawful .pub _).bind fun _ => .pure _
  · cases e with
    | zmqError =>
      refine Keeps.bind (.modify fun s hs => hs.setSocket .rep nofun) fun _ => ?_
      exact Keeps.bind (.modify fun s hs => hs.setSocket .pub nofun) fun _ => .pure _
    | retrying => exact .throw _

/-- A process that held nothing acquires a session. -/
theorem Binding.acquireSession (free : ∀ e a, h.holder w e ≠ some (pid, a)) (fuel : Nat) :
    wp (acquireSession (h.bridge pid) (h.os pid) fuel) (fun _ => h.Binding pid w)
      (fun _ => h.Binding pid w) { world := w } := by
  have begun : h.Binding pid w (((({ world := w } : ServerState W).moveTo
      ((h.bridge pid).getCurrentProcessId w).2)).setSessionPid
        ((h.bridge pid).getCurrentProcessId w).1) := by
    have world := lawful.getCurrentProcessId pid w
    refine ⟨fun e a => ?_, fun e p a other => ?_, fun a address port bound => ?_,
      lawful.processId pid w⟩
    · show h.holder ((h.bridge pid).getCurrentProcessId w).2 e = _ ↔ _
      rw [world]
      constructor
      · intro held
        exact absurd held (free e a)
      · rintro ⟨b, hb, -⟩
        exact absurd hb List.not_mem_nil
    · show h.holder ((h.bridge pid).getCurrentProcessId w).2 e = _ ↔ _
      rw [world]
    · cases a <;> cases bound
  unfold ServerM.acquireSession
  simp only [wp_bind, ServerM.wp_call, wp_modify]
  refine wp_mono (Binding.readSetting lawful _ _ _ begun) (fun mode s hs => ?_) fun _ _ hs => hs
  rw [wp_ite]
  split
  · rw [wp_bind]
    refine wp_mono (Binding.acquireRemote lawful s hs) (fun up s hs => ?_) fun _ _ hs => hs
    exact Keeps.ite (Binding.writeSessionFile lawful) (.pure _) s hs
  · rw [wp_bind]
    refine wp_mono (Binding.acquireLocal lawful fuel s hs) (fun _ s hs => ?_) fun _ _ hs => hs
    exact Binding.writeSessionFile lawful s hs

end Binding

/-- The endpoint that a session file tells a client to use. -/
def sessionEndpoint (lines : List Bytes) : Socket → Bytes
  | .rep => bytes "tcp://" ++ lines.getD 2 [] ++ bytes ":" ++ lines.getD 0 []
  | .pub => bytes "tcp://" ++ lines.getD 2 [] ++ bytes ":" ++ lines.getD 1 []

theorem sessionEndpoint_lines (s : ServerState W) (a : Socket) :
    sessionEndpoint (sessionLines s) a = endpoint s.bindAddress (s.port a) := by
  cases a <;> rfl

/-- An endpoint that a process has taken for a socket and not closed since. -/
structure Holds (d : Debugger W) (a : Socket) (e : Bytes) : Prop where
  live : d.server.socket a ≠ .null
  took : d.server.Took a e

structure Loaded (h : Host W) (f : Fleet W) (pid : UInt32) (d : Debugger W) : Prop where
  processId : d.server.sessionPid = pid
  socket : ∀ a address port, d.server.socket a = .bound address port →
    ⟨a, address, port, true⟩ ∈ d.server.binds
  told : d.acquired = true →
    Announced d.server ∧ f.file (h.sessionFilename pid) = some (sessionLines d.server)

/-- The invariant of a fleet: the endpoints are held by the sockets that took them, and the files
of acquired sessions are as they were written. -/
structure Sound (h : Host W) (f : Fleet W) : Prop where
  holders : ∀ e pid a, h.holder f.world e = some (pid, a) ↔
    ∃ d, f.debugger pid = some d ∧ Holds d a e
  loaded : ∀ pid d, f.debugger pid = some d → h.Loaded f pid d

theorem sessionFilename_ne {p : UInt32} (other : p ≠ pid) :
    h.sessionFilename p ≠ h.sessionFilename pid :=
  fun same => other (pid_eq_of_sessionFilename same)

theorem ends_debugger {p : UInt32} (other : p ≠ pid) (w : W) :
    (h.ends pid w f).debugger p = f.debugger p := by
  unfold Host.ends
  exact Function.update_of_ne other _ _

theorem pluginit_debugger {p : UInt32} (other : p ≠ pid) (fuel : Nat) :
    (h.pluginit pid fuel f).debugger p = f.debugger p := by
  unfold Host.pluginit
  split <;> exact Function.update_of_ne other _ _

section Steps

variable (lawful : h.Lawful)

include lawful

theorem Sound.ends (hf : h.Sound f) {w : W} (others : ∀ e p a, p ≠ pid →
      (h.holder w e = some (p, a) ↔ h.holder f.world e = some (p, a))) :
    h.Sound (h.ends pid w f) where
  holders e p a := by
    rw [holder_ends lawful]
    by_cases other : p = pid
    · simp [other, Host.ends]
    · rw [ends_debugger other, others e p a other, hf.holders]
      exact and_iff_left other
  loaded p d live := by
    by_cases other : p = pid
    · rw [other] at live
      simp [Host.ends] at live
    · rw [ends_debugger other] at live
      obtain ⟨processId, socket, told⟩ := hf.loaded p d live
      exact ⟨processId, socket, told⟩

theorem Sound.runs (hf : h.Sound f) {d : Debugger W}
    (binding : h.Binding pid f.world d.server) (told : d.acquired = true → Announced d.server) :
    h.Sound (h.runs pid d f) where
  holders e p a := by
    show h.holder (h.settle pid d.server d.server.world) e = _ ↔
      ∃ d', Function.update f.debugger pid (some d) p = some d' ∧ _
    rw [holder_settle lawful]
    by_cases other : p = pid
    · subst other
      rw [binding.mine, Function.update_self]
      constructor
      · rintro ⟨took, live⟩
        exact ⟨d, rfl, live rfl, took⟩
      · rintro ⟨d', same, live, took⟩
        cases same
        exact ⟨took, fun _ => live⟩
    · rw [binding.others e p a other, hf.holders, Function.update_of_ne other]
      exact ⟨And.left, fun held => ⟨held, fun same => absurd same other⟩⟩
  loaded p d' live := by
    have live : Function.update f.debugger pid (some d) p = some d' := live
    by_cases other : p = pid
    · subst other
      rw [Function.update_self] at live
      cases live
      refine ⟨binding.processId, binding.socket, fun acquired => ?_⟩
      have session := told acquired
      refine ⟨session, ?_⟩
      rw [Host.runs, if_pos acquired, binding.processId]
      exact (Function.update_self ..).trans session.file
    · rw [Function.update_of_ne other] at live
      obtain ⟨processId, socket, kept⟩ := hf.loaded p d' live
      refine ⟨processId, socket, fun acquired => ?_⟩
      obtain ⟨session, file⟩ := kept acquired
      refine ⟨session, Eq.trans ?_ file⟩
      rw [Host.runs]
      split
      · rw [binding.processId]
        exact Function.update_of_ne (sessionFilename_ne other) _ _
      · rfl

theorem Sound.pluginit (hf : h.Sound f) (idle : f.debugger pid = none) (fuel : Nat) :
    h.Sound (h.pluginit pid fuel f) := by
  have free (e : Bytes) (a : Socket) : h.holder f.world e ≠ some (pid, a) := by
    intro held
    obtain ⟨d, live, -⟩ := (hf.holders e pid a).mp held
    rw [idle] at live
    cases live
  have run := wp_and (Binding.acquireSession lawful free fuel)
    (acquireSession_announced (h.bridge pid) (h.os pid) fuel { world := f.world })
  unfold Host.pluginit
  split
  next acquired s returned =>
    obtain ⟨binding, told⟩ := run.ok returned
    exact hf.runs lawful binding fun acquired => (told acquired).1
  next s trying =>
    obtain ⟨binding, -⟩ := run.error trying
    exact hf.runs lawful binding fun acquired => absurd acquired Bool.false_ne_true
  next s threw =>
    obtain ⟨binding, -⟩ := run.error threw
    exact hf.ends lawful binding.others

omit lawful in
/-- The session file of a process that is gone says nothing of the others. -/
theorem Sound.file (hf : h.Sound f) (gone : f.debugger pid = none) (lines : Option (List Bytes)) :
    h.Sound { f with file := Function.update f.file (h.sessionFilename pid) lines } where
  holders := hf.holders
  loaded p d live := by
    have other : p ≠ pid := by
      rintro rfl
      rw [gone] at live
      cases live
    obtain ⟨processId, socket, told⟩ := hf.loaded p d live
    refine ⟨processId, socket, fun acquired => ?_⟩
    obtain ⟨session, file⟩ := told acquired
    exact ⟨session, (Function.update_of_ne (sessionFilename_ne other) lines f.file).trans file⟩

theorem Sound.plugstop (hf : h.Sound f) {d : Debugger W} (live : f.debugger pid = some d) :
    h.Sound (h.plugstop pid d f) := by
  have loaded := hf.loaded pid d live
  have world : h.holder (final (releaseSession (h.os pid)) (d.server.moveTo f.world)).world =
      h.holder f.world := by
    have released := @wp_releaseSession W (h.os pid) (d.server.moveTo f.world)
    have ran := wp_final.mp (wp_mono released (fun _ s hs => hs.2.1) fun _ _ hs => hs.elim)
    rw [ran]
    exact lawful.removeSessionFile pid _ _
  obtain ⟨w, hw⟩ : ∃ w, w = (final (releaseSession (h.os pid)) (d.server.moveTo f.world)).world :=
    ⟨_, rfl⟩
  rw [← hw] at world
  have ended : h.Sound (h.ends pid w f) := hf.ends lawful fun e p a _ => by rw [world]
  have gone : (h.ends pid w f).debugger pid = none := Function.update_self ..
  unfold Host.plugstop
  dsimp only
  rw [← hw]
  split
  · rw [loaded.processId]
    exact ended.file gone none
  · exact ended

theorem Sound.step (hf : h.Sound f) {f' : Fleet W} (step : h.Step f f') : h.Sound f' := by
  cases step with
  | pluginit idle fuel => exact hf.pluginit lawful idle fuel
  | plugstop live => exact hf.plugstop lawful live
  | killed pid => exact hf.ends lawful fun _ _ _ _ => Iff.rfl
  | elsewhere same =>
    refine ⟨fun e pid a => ?_, fun pid d live => ?_⟩
    · show h.holder _ e = _ ↔ _
      rw [same]
      exact hf.holders e pid a
    · obtain ⟨processId, socket, told⟩ := hf.loaded pid d live
      exact ⟨processId, socket, told⟩

theorem Sound.run (hf : h.Sound f) {f' : Fleet W} (run : h.Run f f') : h.Sound f' := by
  induction run with
  | refl => exact hf
  | tail _ step ih => exact ih.step lawful step

end Steps

theorem sound_idle {w : W} (free : ∀ e, h.holder w e = none) : h.Sound { world := w } where
  holders e pid a := by
    rw [free e]
    constructor
    · exact nofun
    · rintro ⟨d, live, -⟩
      cases live
  loaded _ _ live := by cases live

/-- What a client can rely on: the file of an acquired session leads to the sockets of its process
and to no others, and an endpoint is held only by a live process, for a socket it has bound. -/
structure Found (h : Host W) (f : Fleet W) : Prop where
  reaches : ∀ pid d, f.debugger pid = some d → d.acquired = true →
    ∃ lines, f.file (h.sessionFilename pid) = some lines ∧ ∀ a, d.server.port a ≠ 0 →
      d.server.socket a = .bound d.server.bindAddress (d.server.port a) ∧
        h.holder f.world (sessionEndpoint lines a) = some (pid, a)
  alone : ∀ pid d pid' d' a a' address port, f.debugger pid = some d →
    f.debugger pid' = some d' → port ≠ 0 → d.server.socket a = .bound address port →
      d'.server.socket a' = .bound address port → pid' = pid ∧ a' = a
  held : ∀ e pid a, h.holder f.world e = some (pid, a) → ∃ d, f.debugger pid = some d ∧
    d.server.socket a ≠ .null ∧ ∃ b ∈ d.server.binds, b.Takes a e

theorem Sound.holder (hf : h.Sound f) {d : Debugger W} (live : f.debugger pid = some d)
    {a : Socket} {address : Bytes} {port : UInt16} (nonzero : port ≠ 0)
    (bound : d.server.socket a = .bound address port) :
    h.holder f.world (endpoint address port) = some (pid, a) := by
  have attempt := (hf.loaded pid d live).socket a address port bound
  have took : d.server.Took a (endpoint address port) := ⟨_, attempt, rfl, rfl, nonzero, rfl⟩
  have opened : d.server.socket a ≠ .null := by
    rw [bound]
    exact nofun
  exact (hf.holders _ pid a).mpr ⟨d, live, opened, took⟩

theorem Sound.found (hf : h.Sound f) : h.Found f where
  reaches pid d live acquired := by
    obtain ⟨session, file⟩ := (hf.loaded pid d live).told acquired
    refine ⟨_, file, fun a nonzero => ⟨session.socket a, ?_⟩⟩
    rw [sessionEndpoint_lines]
    exact hf.holder live nonzero (session.socket a)
  alone pid d pid' d' a a' address port live live' nonzero bound bound' := by
    have one := hf.holder live nonzero bound
    rw [hf.holder live' nonzero bound'] at one
    cases one
    exact ⟨rfl, rfl⟩
  held e pid a held := by
    obtain ⟨d, live, opened, took⟩ := (hf.holders e pid a).mp held
    exact ⟨d, live, opened, took⟩

end Host

/-- However debuggers start, stop and die on one host, the session file of each that acquired a
session leads a client to that debugger. -/
theorem sessions_found (h : Host W) (lawful : h.Lawful) {w : W} (free : ∀ e, h.holder w e = none)
    {f : Fleet W} (run : h.Run { world := w } f) : h.Found f :=
  ((Host.sound_idle free).run lawful run).found

/-- A host without settings on which the ports are drawn from a list. -/
structure Bench where
  held : Bytes → Option (UInt32 × Socket) := fun _ => none
  draws : List (Fin 0x4000)

def Bench.host : Host Bench where
  bridge pid := { Bridge.idle with
    getCurrentProcessId := fun w => (pid, w)
    bridgeSettingGet := fun _ _ w => (none, w)
    bridgeSettingGetUint := fun _ _ w => (none, w) }
  os pid :=
    { createSocket := fun _ w => (true, w)
      bind := fun a e w =>
        if w.held e = none ∧ ¬bytes ":0" <:+ e then
          (true, { w with held := Function.update w.held e (some (pid, a)) })
        else (false, w)
      distrib := fun w => (w.draws.headD 0, { w with draws := w.draws.tail })
      openSessionFile := fun _ w => (true, w)
      removeSessionFile := fun _ w => (true, w) }
  tempPath _ := none
  holder := Bench.held
  release pid a w := { w with held := fun e => if w.held e = some (pid, a) then none else w.held e }

theorem Bench.host_lawful : Bench.host.Lawful where
  processId _ _ := rfl
  refuses pid a e w taken := by simp [host, show w.held e ≠ none from taken]
  binds pid a address port w := by
    dsimp only [host]
    split
    next free =>
      have nonzero : port ≠ 0 := by
        rintro rfl
        exact free.2 ⟨bytes "tcp://" ++ address, by simp [endpoint, bytes]; decide⟩
      rw [if_pos ⟨rfl, nonzero⟩]
    next => rw [if_neg (by simp)]
  releases pid a w e p b := by
    dsimp only [host]
    split
    next mine =>
      constructor
      · intro held
        cases held
      · rintro ⟨held, other⟩
        rw [mine] at held
        cases held
        exact absurd ⟨rfl, rfl⟩ other
    next other =>
      constructor
      · intro held
        refine ⟨held, ?_⟩
        rintro ⟨rfl, rfl⟩
        exact other held
      · exact And.left
  createSocket _ _ _ := rfl
  distrib _ _ := rfl
  openSessionFile _ _ _ := rfl
  removeSessionFile _ _ _ := rfl
  getCurrentProcessId _ _ := rfl
  bridgeSettingGet _ _ _ _ := rfl
  bridgeSettingGetUint _ _ _ _ := rfl

/-- The second debugger first draws both ports of the first one; a third one takes the place of the
first. -/
theorem three_debuggers_found :
    let bench : Fleet Bench := { world := { draws := [0, 1, 0, 1, 2, 3, 1, 0] } }
    let two := Bench.host.pluginit 2 4 (Bench.host.pluginit 1 2 bench)
    Bench.host.Found (Bench.host.pluginit 3 2 (Bench.host.ends 1 two.world two)) := by
  intro bench two
  let one := Bench.host.pluginit 1 2 bench
  have idle : one.debugger 2 = none ∧ one.debugger 3 = none :=
    ⟨Host.pluginit_debugger (by decide) 2, Host.pluginit_debugger (by decide) 2⟩
  have idle3 : two.debugger 3 = none := (Host.pluginit_debugger (by decide) 4).trans idle.2
  have gone : (Bench.host.ends 1 two.world two).debugger 3 = none :=
    (Host.ends_debugger (by decide) _).trans idle3
  have first : Bench.host.Run bench one := .single (.pluginit rfl 2)
  have second : Bench.host.Run bench two := first.tail (.pluginit idle.1 4)
  have third := (second.tail (.killed 1)).tail (.pluginit gone 2)
  exact sessions_found Bench.host Bench.host_lawful (fun _ => rfl) third

end XAuto
