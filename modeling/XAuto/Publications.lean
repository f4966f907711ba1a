import XAuto.CallbackSafety
import XAuto.Notices

namespace XAuto

open Effect PluginM

variable {W : Type} {bridge : Bridge W} {os : Platform W}

section Steps

/-- The plugin once it has left the debugger as `w` and the log as `log`, and has sent `told` if
the socket has a handle. -/
structure Told (s : PluginState W) (w : W) (log : LogBuffer) (told : Option Notice)
    (s' : PluginState W) : Prop where
  world : s'.server.world = w
  hooked : s'.logHookActive = s.logHookActive
  log : s'.log = log
  published : s'.published =
    s.published ++ if s.server.pubSocket = .null then [] else told.toList.map Notice.toObj

def Tells (s : PluginState W) (m : PluginM W Unit) (w : W) (log : LogBuffer)
    (told : Option Notice) : Prop :=
  wp m (fun _ => Told s w log told) (fun _ => Told s w log told) s

/-- A send after the debugger or the log have moved. -/
theorem pubSend_told {s t : PluginState W} (n : Notice)
    (socket : t.server.pubSocket = s.server.pubSocket)
    (hooked : t.logHookActive = s.logHookActive) (published : t.published = s.published) :
    wp (pubSend n.toObj) (fun _ => Told s t.server.world t.log (some n))
      (fun _ => Told s t.server.world t.log (some n)) t := by
  unfold pubSend
  simp only [wp_bind, wp_get, wp_ite, wp_throw, socket]
  split
  next closed => exact ⟨rfl, hooked, rfl, by simp [closed, published]⟩
  next opened => exact ⟨rfl, hooked, rfl, by simp [opened, published]⟩

theorem pubSend_tells (n : Notice) (s : PluginState W) :
    Tells s (pubSend n.toObj) s.server.world s.log (some n) := pubSend_told n rfl rfl rfl

/-- The debugger after its callback; the text of a debug string is read from its memory. -/
def DebugEvent.advance (bridge : Bridge W) (w : W) : DebugEvent → W
  | .outputDebugString addr length => (bridge.dbgMemRead addr length.toNat w).2
  | _ => w

/-- The log after its callback, which resets it for a new session. -/
def DebugEvent.log : DebugEvent → LogBuffer → LogBuffer
  | .initDebug _, log => log.clear
  | _, log => log

theorem callback_tells (e : DebugEvent) (s : PluginState W) :
    Tells s (callback bridge e) (e.advance bridge s.server.world) (e.log s.log)
      (Notice.ofEvent bridge s.server.world e) := by
  cases e with
  | outputDebugString addr length =>
    simp only [Tells, callback, cbDebugstr, wp_bind, PluginM.wp_call]
    cases hread : (bridge.dbgMemRead addr length.toNat s.server.world).1 with
    | none =>
      have told : Notice.ofEvent bridge s.server.world (.outputDebugString addr length) = none := by
        simp [Notice.ofEvent, hread]
      rw [told]
      exact ⟨rfl, rfl, rfl, by simp⟩
    | some membuf =>
      have told : Notice.ofEvent bridge s.server.world (.outputDebugString addr length) =
          some (.outputDebugString membuf.toList) := by
        simp [Notice.ofEvent, hread]
      rw [told]
      exact pubSend_told (t := { s with server := s.server.moveTo _ })
        (.outputDebugString membuf.toList) rfl rfl rfl
  | menuEntry hEntry => exact ⟨rfl, rfl, rfl, by simp [Notice.ofEvent]⟩
  | initDebug fileName =>
    exact pubSend_told (t := { s with log := s.log.clear }) (.initDebug fileName) rfl rfl rfl
  | systemBreakpoint reserved => exact pubSend_tells (.systemBreakpoint reserved) s
  | breakpoint bp => exact pubSend_tells (.breakpoint bp) s
  | createThread id base start => exact pubSend_tells (.createThread id base start) s
  | exitThread id code => exact pubSend_tells (.exitThread id code) s
  | loadDll modname base => exact pubSend_tells (.loadDll modname base) s
  | unloadDll base => exact pubSend_tells (.unloadDll base) s
  | exception code flags record addr info first =>
    exact pubSend_tells (.exception code flags record addr info first) s
  | stepped => exact pubSend_tells .stepped s
  | resumeDebug => exact pubSend_tells .resumeDebug s
  | pauseDebug => exact pubSend_tells .pauseDebug s
  | attach pid => exact pubSend_tells (.attach pid) s
  | detach pid => exact pubSend_tells (.detach pid) s
  | stopDebug => exact pubSend_tells .stopDebug s
  | createProcess pid tid start fileName =>
    exact pubSend_tells (.createProcess pid tid start fileName) s
  | exitProcess code => exact pubSend_tells (.exitProcess code) s

theorem captureLog_tells (msg : Option Bytes) (s : PluginState W) :
    Tells s (captureLog msg) s.server.world (if s.logHookActive then s.log.append msg else s.log)
      (if s.logHookActive then msg.map Notice.logMessage else none) := by
  cases msg with
  | none => exact ⟨rfl, rfl, by simp [LogBuffer.append], by simp⟩
  | some line =>
    simp only [Tells, captureLog, wp_bind, wp_get]
    split
    next active =>
      simp only [wp_tryCatch, wp_bind, wp_modify]
      exact pubSend_told (t := { s with log := s.log.append (some line) }) (.logMessage line)
        rfl rfl rfl
    next inactive => exact ⟨rfl, rfl, rfl, by simp⟩

end Steps

section Runs

/-- The debugger after an occurrence that the plugin outlives. -/
def Occurrence.advance (bridge : Bridge W) (w : W) : Occurrence → W
  | .event e => e.advance bridge w
  | _ => w

/-- The log after an occurrence, where the hook is installed. -/
def Occurrence.log (hooked : Bool) : Occurrence → LogBuffer → LogBuffer
  | .event e, log => e.log log
  | .logLine msg, log => if hooked then log.append msg else log
  | .pluginStop, log => log

def Occurrence.stops : Occurrence → Bool
  | .pluginStop => true
  | _ => false

theorem after_tells (bridge : Bridge W) (os : Platform W) {o : Occurrence} (ho : o.stops = false)
    (s : PluginState W) :
    Told s (o.advance bridge s.server.world) (o.log s.logHookActive s.log)
      (Notice.ofOccurrence bridge s.logHookActive s.server.world o) (after bridge os s o) := by
  cases o with
  | event e => exact wp_final.mp (callback_tells e s)
  | logLine msg => exact wp_final.mp (captureLog_tells msg s)
  | pluginStop => cases ho

theorem after_stop_published (s : PluginState W) :
    (after bridge os s .pluginStop).published = s.published := rfl

/-- Without a handle nothing is sent any more. -/
theorem foldl_closed {s : PluginState W} (closed : s.server.pubSocket = .null)
    (run : List Occurrence) : (run.foldl (after bridge os) s).published = s.published := by
  have kept : ∀ (s' : PluginState W) (o : Occurrence),
      s'.server.pubSocket = .null ∧ s'.published = s.published →
      (after bridge os s' o).server.pubSocket = .null ∧
        (after bridge os s' o).published = s.published := by
    rintro s' o ⟨closed, same⟩
    cases o with
    | pluginStop => exact ⟨after_pubSocket s' .pluginStop, same⟩
    | event e =>
      have sent := (after_tells bridge os (o := .event e) rfl s').published
      exact ⟨(after_pubSocket s' (.event e)).trans closed, by simp [sent, closed, same]⟩
    | logLine msg =>
      have sent := (after_tells bridge os (o := .logLine msg) rfl s').published
      exact ⟨(after_pubSocket s' (.logLine msg)).trans closed, by simp [sent, closed, same]⟩
  exact (Run.foldl_invariant kept ⟨closed, rfl⟩ run).2

/-- What there is to tell of a run, up to where the plugin is stopped. -/
def transcript (bridge : Bridge W) (hooked : Bool) (w : W) (run : List Occurrence) : List Notice :=
  (Run.visits (Occurrence.advance bridge) w (run.takeWhile (!·.stops))).flatMap fun v =>
    (Notice.ofOccurrence bridge hooked v.1 v.2).toList

theorem transcript_cons {hooked : Bool} {w : W} {o : Occurrence} (ho : o.stops = false)
    (rest : List Occurrence) :
    transcript bridge hooked w (o :: rest) = (Notice.ofOccurrence bridge hooked w o).toList ++
      transcript bridge hooked (o.advance bridge w) rest := by
  simp [transcript, ho, Run.visits]

theorem foldl_published (bridge : Bridge W) (os : Platform W) {s : PluginState W}
    (opened : s.server.pubSocket ≠ .null) (run : List Occurrence) :
    (run.foldl (after bridge os) s).published = s.published ++
      (transcript bridge s.logHookActive s.server.world run).map Notice.toObj := by
  induction run generalizing s with
  | nil => simp [transcript, Run.visits]
  | cons o rest ih =>
    rw [List.foldl_cons]
    cases ho : o.stops with
    | true =>
      obtain rfl : o = .pluginStop := by cases o <;> first | rfl | cases ho
      rw [foldl_closed (after_pubSocket s .pluginStop), after_stop_published]
      simp [transcript, Occurrence.stops, Run.visits]
    | false =>
      have told := after_tells bridge os ho s
      have still : (after bridge os s o).server.pubSocket ≠ .null := by
        rw [after_pubSocket]
        cases o <;> first | exact opened | cases ho
      rw [ih still, told.world, told.hooked, told.published, if_neg opened, transcript_cons ho,
        List.map_append, List.append_assoc]

end Runs

theorem loaded_up_iff {fuel : Nat} {w : W} {acquired : Bool} {server : ServerState W}
    (hload : ServerM.acquireSession bridge os fuel { world := w } = .ok acquired server) :
    server.Up ↔ server.pubSocket ≠ .null := by
  rcases (ServerM.acquireSession_sockets fuel _).ok hload with up | ⟨-, down⟩
  · refine iff_of_true up fun closed => ?_
    obtain ⟨address, port, bound⟩ := up .pub
    cases bound.symm.trans closed
  · refine iff_of_false (fun up => ?_) fun opened => opened (down .pub)
    obtain ⟨address, port, bound⟩ := up .pub
    cases bound.symm.trans (down .pub)

/-- What a subscriber of a loaded plugin reads is exactly what there was to tell until the plugin
was stopped, one message each, in order, and told apart by its name; a plugin whose sockets were
not bound sends nothing. -/
theorem notices_published (bridge : Bridge W) (os : Platform W) (fuel : Nat) (w : W)
    (hooked acquired : Bool) (server : ServerState W)
    (hload : ServerM.acquireSession bridge os fuel { world := w } = .ok acquired server)
    (run : List Occurrence) :
    let sent := (run.foldl (after bridge os) (pluginInit hooked server)).published
    (server.Up → sent.map Notice.ofObj =
      (transcript bridge hooked server.world run).map fun n => some n.seen) ∧
    (¬server.Up → sent = []) := by
  rw [loaded_up_iff hload]
  constructor
  · intro opened
    have sent := foldl_published bridge os (s := pluginInit hooked server) opened run
    rw [sent]
    simp [pluginInit, Notice.ofObj_toObj]
  · intro closed
    exact foldl_closed (s := pluginInit hooked server) (not_not.mp closed) run

theorem stepped_told_before_stop :
    ∃ server, ServerM.acquireSession .idle (.always true) 1 { world := () } = .ok true server ∧
      let run := [.logLine (some [65]), .event .stepped, .pluginStop, .event .stopDebug]
      let sent := (run.foldl (after .idle (.always true)) (pluginInit true server)).published
      (server.Up → sent.map Notice.ofObj =
        (transcript .idle true server.world run).map fun n => some n.seen) ∧
      (¬server.Up → sent = []) :=
  ⟨_, rfl, notices_published .idle (.always true) 1 () true true _ rfl _⟩

end XAuto
