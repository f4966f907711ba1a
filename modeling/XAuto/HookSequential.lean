import XAuto.HookSafety
import XAuto.Publications

namespace XAuto

open Effect PluginM

variable {W τ : Type} [DecidableEq τ]

def Move.thread : Move τ → τ
  | .logs t _ | .event t _ | .stop t | .query t | .continues t => t

/-- The call that an occurrence makes on a thread, unless it comes to nothing. -/
def Occurrence.call (bridge : Bridge W) (s : PluginState W) (t : τ) : Occurrence → Option (Move τ)
  | .event e => (Notice.ofEvent bridge s.server.world e).attach.map fun n =>
    .event t ⟨n.1, Notice.line_ofEvent n.2⟩
  | .logLine msg => if s.logHookActive then msg.map (.logs t) else none
  | .pluginStop => some (.stop t)

namespace Process

variable {p q : Process τ} {t : τ}

section Alone

/-- No thread is in a call. -/
structure Idle (p : Process τ) : Prop where
  threads : ∀ t, p.threads t = {}
  free : ∀ m, p.owner m = none
  live : p.terminated = false

/-- The process with one thread in one call. -/
def within (p : Process τ) (t : τ) (f : Frame) (inHook : Bool) : Process τ :=
  p.setThread t { stack := [f], inHook }

/-- The moves of a call whose thread takes it to its end. -/
def alone (call : Move τ) (steps : Nat) : List (Move τ) :=
  call :: List.replicate steps (.continues call.thread)

/-- Calls that are made one after the other: each of them where no thread is in a call, and only
its own thread moves until it has returned. -/
inductive Serial : Process τ → List (Move τ) → List (Move τ) → Process τ → Prop
  | done {p : Process τ} (idle : p.Idle) : Serial p [] [] p
  | call {p q r : Process τ} {call : Move τ} {steps : Nat} {calls moves : List (Move τ)}
      (idle : p.Idle) (ran : Schedule.run step p (alone call steps) = some q)
      (later : Serial q calls moves r) : Serial p (call :: calls) (alone call steps ++ moves) r

/-- Calls that do not overlap are a schedule. -/
theorem Serial.run {calls moves : List (Move τ)} (h : Serial p calls moves q) :
    Schedule.run step p moves = some q := by
  induction h with
  | done _ => rfl
  | call _ ran _ ih => exact (Schedule.run_append ran _).trans ih

theorem Serial.trans {r : Process τ} {calls moves calls' moves' : List (Move τ)}
    (h : Serial p calls moves q) (h' : Serial q calls' moves' r) :
    Serial p (calls ++ calls') (moves ++ moves') r := by
  induction h with
  | done _ => exact h'
  | call idle ran _ ih =>
    rw [List.append_assoc]
    exact .call idle ran (ih h')

theorem Idle.update_threads (h : p.Idle) : Function.update p.threads t {} = p.threads := by
  rw [← h.threads t, Function.update_eq_self]

omit [DecidableEq τ] in
theorem Idle.update_owner (h : p.Idle) (m : Mutex) : Function.update p.owner m none = p.owner := by
  rw [← h.free m, Function.update_eq_self]

/-- A call that wants nothing takes its next step. -/
theorem within_next (live : p.terminated = false) {f : Frame} {inHook : Bool}
    (wants : f.wants = none) (next : (p.within t f inHook).advance t f [] = q) :
    (p.within t f inHook).step (.continues t) = some q := by
  simp [step, within, setThread, live, wants, ← next]

theorem within_lock (live : p.terminated = false) (t : τ) (f : Frame) (inHook : Bool) {m : Mutex}
    (wants : f.wants = some m) (free : p.owner m = none) :
    (p.within t f inHook).step (.continues t) =
      some ((p.setOwner m (some t)).within t f.locked inHook) := by
  simp [step, within, setThread, setStack, setOwner, live, wants, free]

theorem within_frame (f g : Frame) (inHook : Bool) :
    (p.within t f inHook).setStack t [g] = p.within t g inHook := by
  simp [within, setStack, setThread]

theorem goes (hs : p.step (.continues t) = some q) (n : Nat) :
    Schedule.run step p (List.replicate (n + 1) (.continues t)) =
      Schedule.run step q (List.replicate n (.continues t)) := Schedule.run_cons hs _

/-- The hook up to where the line is in the buffer. -/
theorem logs_appends (h : p.Idle) (attached : p.attached = true)
    (active : p.logHookActive = true) (line : Bytes) (n : Nat) :
    Schedule.run step p (alone (.logs t line) (n + 5)) =
      Schedule.run step ((p.append t line).within t (.hook line .wantPub) true)
        (List.replicate n (.continues t)) := by
  have enters : p.step (.logs t line) = some (p.within t (.hook line .original) false) := by
    simp [step, h.live, h.threads, attached, setStack, within]
  have original : (p.within t (.hook line .original) false).step (.continues t) =
      some (p.within t (.hook line .capture) false) :=
    within_next h.live rfl (within_frame _ _ _)
  have capture : (p.within t (.hook line .capture) false).step (.continues t) =
      some (p.within t (.hook line .guard) false) :=
    within_next h.live rfl ((if_pos active).trans (within_frame _ _ _))
  have guard : (p.within t (.hook line .guard) false).step (.continues t) =
      some (p.within t (.hook line .wantLog) true) :=
    within_next h.live rfl (by simp [advance, within, setThread])
  have wantLog := within_lock h.live t (.hook line .wantLog) true rfl (h.free .log)
  have append : ((p.setOwner .log (some t)).within t (.hook line .append) true).step
      (.continues t) = some ((p.append t line).within t (.hook line .wantPub) true) :=
    within_next (p := p.setOwner .log (some t)) h.live rfl (by
      simp [advance, within, setThread, setStack, setOwner, Process.append, h.update_owner])
  rw [alone, Move.thread, Schedule.run_cons enters, goes original, goes capture, goes guard,
    goes wantLog]
  exact goes append n

theorem logs_alone (h : p.Idle) (attached : p.attached = true) (active : p.logHookActive = true)
    (opened : p.opened = true) (line : Bytes) :
    Schedule.run step p (alone (.logs t line) 9) =
      some ((p.append t line).publish t (.logMessage line)) := by
  have wantPub := within_lock (p := p.append t line) h.live t (.hook line .wantPub) true rfl
    (h.free .pub)
  let locked := (p.append t line).setOwner .pub (some t)
  have send : (locked.within t (.hook line .send) true).step (.continues t) =
      some (locked.within t (.hook line .sending) true) :=
    within_next (p := locked) h.live rfl ((if_pos opened).trans (within_frame _ _ _))
  let sent := (p.append t line).publish t (.logMessage line)
  have sending : (locked.within t (.hook line .sending) true).step (.continues t) =
      some (sent.within t (.hook line .leave) true) :=
    within_next (p := locked) h.live rfl (by
      simp [locked, sent, advance, within, setThread, setStack, setOwner, publish, Process.append,
        h.update_owner])
  have leave : (sent.within t (.hook line .leave) true).step (.continues t) = some sent :=
    within_next (p := sent) h.live rfl (by
      simp [sent, advance, within, setThread, publish, Process.append, h.update_threads])
  rw [logs_appends h attached active line 4, goes wantPub]
  exact (goes send _).trans ((goes sending _).trans (goes leave _))

theorem logs_closed (h : p.Idle) (attached : p.attached = true) (active : p.logHookActive = true)
    (closed : p.opened = false) (line : Bytes) :
    Schedule.run step p (alone (.logs t line) 8) = some ((p.append t line).drop t line) := by
  have wantPub := within_lock (p := p.append t line) h.live t (.hook line .wantPub) true rfl
    (h.free .pub)
  let locked := (p.append t line).setOwner .pub (some t)
  let dropped := (p.append t line).drop t line
  have send : (locked.within t (.hook line .send) true).step (.continues t) =
      some (dropped.within t (.hook line .leave) true) :=
    within_next (p := locked) h.live rfl (by
      simp [locked, dropped, closed, advance, within, setThread, setStack, setOwner, drop,
        Process.append, h.update_owner])
  have leave : (dropped.within t (.hook line .leave) true).step (.continues t) = some dropped :=
    within_next (p := dropped) h.live rfl (by
      simp [dropped, advance, within, setThread, drop, Process.append, h.update_threads])
  rw [logs_appends h attached active line 3, goes wantPub]
  exact (goes send _).trans (goes leave _)

/-- A callback from where it is about to send. -/
theorem event_sends (h : p.Idle) (opened : p.opened = true) (n : EventNotice) :
    Schedule.run step (p.within t (.callback n .wantPub) false)
      (List.replicate 3 (.continues t)) = some (p.publish t n.1) := by
  have wantPub := within_lock h.live t (.callback n .wantPub) false rfl (h.free .pub)
  let locked := p.setOwner .pub (some t)
  have send : (locked.within t (.callback n .send) false).step (.continues t) =
      some (locked.within t (.callback n .sending) false) :=
    within_next (p := locked) h.live rfl ((if_pos opened).trans (within_frame _ _ _))
  have sending : (locked.within t (.callback n .sending) false).step (.continues t) =
      some (p.publish t n.1) :=
    within_next (p := locked) h.live rfl (by
      simp [locked, advance, within, setThread, setStack, setOwner, publish, h.update_owner,
        h.update_threads])
  rw [goes wantPub]
  exact (goes send _).trans (goes sending _)

theorem event_enters (h : p.Idle) (n : EventNotice) :
    p.step (.event t n) = some (p.within t (.callback n (entry n)) false) := by
  simp [step, h.live, h.threads, setStack, within]

theorem event_alone (h : p.Idle) (opened : p.opened = true) {n : EventNotice}
    (plain : entry n = .wantPub) :
    Schedule.run step p (alone (.event t n) 3) = some (p.publish t n.1) := by
  rw [alone, Move.thread, Schedule.run_cons (event_enters h n), plain]
  exact event_sends h opened n

theorem reset_alone (h : p.Idle) (opened : p.opened = true) {n : EventNotice}
    (resets : entry n = .wantLog) :
    Schedule.run step p (alone (.event t n) 5) =
      some ({ p with session := p.session.clear }.publish t n.1) := by
  have wantLog := within_lock h.live t (.callback n .wantLog) false rfl (h.free .log)
  let cleared : Process τ := { p with session := p.session.clear }
  have clear : ((p.setOwner .log (some t)).within t (.callback n .clear) false).step
      (.continues t) = some (cleared.within t (.callback n .wantPub) false) :=
    within_next (p := p.setOwner .log (some t)) h.live rfl (by
      simp [cleared, advance, within, setThread, setStack, setOwner, h.update_owner])
  rw [alone, Move.thread, Schedule.run_cons (event_enters h n), resets, goes wantLog]
  exact (goes clear _).trans (event_sends (p := cleared) ⟨h.threads, h.free, h.live⟩ opened n)

theorem stop_alone (h : p.Idle) :
    Schedule.run step p (alone (.stop t) 4) =
      some { p with logHookActive := false, attached := false, opened := false } := by
  have enters : p.step (.stop t) = some (p.within t (.stop .deactivate) false) := by
    simp [step, h.live, h.threads, setStack, within]
  let inactive : Process τ := { p with logHookActive := false }
  have deactivate : (p.within t (.stop .deactivate) false).step (.continues t) =
      some (inactive.within t (.stop .detach) false) :=
    within_next h.live rfl (within_frame (p := inactive) _ _ _)
  let detached : Process τ := { inactive with attached := false }
  have detach : (inactive.within t (.stop .detach) false).step (.continues t) =
      some (detached.within t (.stop .wantPub) false) :=
    within_next (p := inactive) h.live rfl (within_frame (p := detached) _ _ _)
  have wantPub := within_lock (p := detached) h.live t (.stop .wantPub) false rfl (h.free .pub)
  have close : ((detached.setOwner .pub (some t)).within t (.stop .close) false).step
      (.continues t) = some { detached with opened := false } :=
    within_next (p := detached.setOwner .pub (some t)) h.live rfl (by
      simp [detached, inactive, advance, within, setThread, setStack, setOwner, h.update_owner,
        h.update_threads])
  rw [alone, Move.thread, Schedule.run_cons enters, goes deactivate, goes detach, goes wantPub]
  exact goes close 0

end Alone

section Sequential

variable {bridge : Bridge W} {os : Platform W} {s : PluginState W}

/-- A process that no thread is in, in the state that the plugin has for a single thread. -/
structure Matches (p : Process τ) (s : PluginState W) : Prop where
  idle : p.Idle
  log : p.session.buf = s.log
  active : p.logHookActive = s.logHookActive
  attached : p.attached = s.logHookActive
  opened : p.opened = true ↔ s.server.pubSocket ≠ .null
  published : p.published.map (·.2.toObj) = s.published

omit [DecidableEq τ] in
theorem Matches.after (h : p.Matches s) {o : Occurrence} (running : o.stops = false)
    (idle : q.Idle) (log : q.session.buf = o.log s.logHookActive s.log)
    (active : q.logHookActive = p.logHookActive) (attached : q.attached = p.attached)
    (opened : q.opened = p.opened)
    (published : q.published.map (·.2.toObj) = s.published ++
      if s.server.pubSocket = .null then [] else
        (Notice.ofOccurrence bridge s.logHookActive s.server.world o).toList.map Notice.toObj) :
    q.Matches (XAuto.after bridge os s o) := by
  have told := after_tells bridge os running s
  have socket : (XAuto.after bridge os s o).server.pubSocket = s.server.pubSocket := by
    rw [after_pubSocket]
    cases o <;> first | rfl | cases running
  refine ⟨idle, log.trans told.log.symm, ?_, ?_, ?_, published.trans told.published.symm⟩
  · rw [active, h.active, told.hooked]
  · rw [attached, h.attached, told.hooked]
  · rw [opened, h.opened, socket]

/-- What the plugin does at an occurrence is what one of its threads does in the call. -/
def Serialises (bridge : Bridge W) (os : Platform W) (p : Process τ) (s : PluginState W) (t : τ)
    (o : Occurrence) : Prop :=
  ∃ moves q, Serial p (o.call bridge s t).toList moves q ∧ q.Matches (XAuto.after bridge os s o)

/-- An occurrence that makes no call into the plugin, or one that comes to nothing. -/
theorem Matches.nothing (h : p.Matches s) {o : Occurrence} (running : o.stops = false)
    (log : o.log s.logHookActive s.log = s.log)
    (told : Notice.ofOccurrence bridge s.logHookActive s.server.world o = none)
    (quiet : o.call bridge s t = none) : Serialises bridge os p s t o := by
  refine ⟨[], p, by rw [quiet]; exact .done h.idle, ?_⟩
  refine h.after running h.idle (h.log.trans log.symm) rfl rfl rfl ?_
  rw [told, h.published]
  simp

/-- An occurrence that makes a call. -/
theorem Matches.makes (h : p.Matches s) {o : Occurrence} {call : Move τ} {steps : Nat}
    (made : o.call bridge s t = some call)
    (ran : Schedule.run step p (alone call steps) = some q)
    (hq : q.Matches (XAuto.after bridge os s o)) : Serialises bridge os p s t o := by
  have serial := Serial.call h.idle ran (.done hq.idle)
  exact ⟨_, q, by rwa [made], hq⟩

theorem Matches.logLine (h : p.Matches s) (t : τ) (msg : Option Bytes) :
    Serialises bridge os p s t (.logLine msg) := by
  cases active : s.logHookActive with
  | false =>
    refine h.nothing rfl ?_ ?_ ?_ <;>
      simp [Occurrence.log, Notice.ofOccurrence, Occurrence.call, active]
  | true =>
    cases msg with
    | none =>
      exact h.nothing rfl (by simp [Occurrence.log, LogBuffer.append])
        (by simp [Notice.ofOccurrence]) (by simp [Occurrence.call])
    | some line =>
      have attached := h.attached.trans active
      have hooked := h.active.trans active
      have made : Occurrence.call bridge s t (.logLine (some line)) = some (.logs t line) :=
        if_pos active
      cases opened : p.opened with
      | true =>
        have socket := h.opened.mp opened
        refine h.makes made (logs_alone h.idle attached hooked opened line) ?_
        refine h.after rfl ⟨h.idle.threads, h.idle.free, h.idle.live⟩ ?_ rfl rfl rfl ?_
        · simp [append, publish, Session.append, Occurrence.log, active, h.log]
        · simp [append, publish, h.published, socket, Notice.ofOccurrence, active]
      | false =>
        have socket : s.server.pubSocket = .null := by
          by_contra open_
          rw [h.opened.mpr open_] at opened
          cases opened
        refine h.makes made (logs_closed h.idle attached hooked opened line) ?_
        refine h.after rfl ⟨h.idle.threads, h.idle.free, h.idle.live⟩ ?_ rfl rfl rfl ?_
        · simp [append, drop, Session.append, Occurrence.log, active, h.log]
        · simp [append, drop, h.published, socket]

theorem publishes_iff (e : DebugEvent) :
    e.Publishes bridge s ↔ (Notice.ofEvent bridge s.server.world e).isSome = true := by
  cases e with
  | outputDebugString addr length => simp [DebugEvent.Publishes, Notice.ofEvent]
  | menuEntry hEntry => exact iff_of_false id (by simp [Notice.ofEvent])
  | _ => exact iff_of_true trivial rfl

theorem log_of_quiet {w : W} {e : DebugEvent} (quiet : Notice.ofEvent bridge w e = none)
    (log : LogBuffer) : e.log log = log := by
  cases e with
  | initDebug fileName => cases quiet
  | _ => rfl

/-- A callback that resets the log starts with it. -/
theorem entry_of_event {w : W} {e : DebugEvent} {n : Notice}
    (told : Notice.ofEvent bridge w e = some n) :
    (entry ⟨n, Notice.line_ofEvent told⟩ = .wantPub ∧ ∀ log, e.log log = log) ∨
      entry ⟨n, Notice.line_ofEvent told⟩ = .wantLog ∧ ∀ log, e.log log = log.clear := by
  cases e with
  | initDebug fileName =>
    obtain rfl := Option.some.inj told
    exact Or.inr ⟨rfl, fun _ => rfl⟩
  | outputDebugString addr length =>
    obtain ⟨membuf, -, rfl⟩ := Option.map_eq_some_iff.mp told
    exact Or.inl ⟨rfl, fun _ => rfl⟩
  | menuEntry hEntry => cases told
  | _ =>
    obtain rfl := Option.some.inj told
    exact Or.inl ⟨rfl, fun _ => rfl⟩

omit [DecidableEq τ] in
theorem call_of_event {e : DebugEvent} {n : Notice} (t : τ)
    (told : Notice.ofEvent bridge s.server.world e = some n) :
    Occurrence.call bridge s t (.event e) = some (.event t ⟨n, Notice.line_ofEvent told⟩) := by
  simp [Occurrence.call, told]

theorem Matches.event (h : p.Matches s) (t : τ) (e : DebugEvent)
    (returns : e.Publishes bridge s → s.server.pubSocket ≠ .null) :
    Serialises bridge os p s t (.event e) := by
  cases told : Notice.ofEvent bridge s.server.world e with
  | none =>
    exact h.nothing rfl (log_of_quiet told _) told (by simp [Occurrence.call, told])
  | some n =>
    have socket := returns ((publishes_iff e).mpr (by rw [told]; rfl))
    have opened := h.opened.mpr socket
    have made := call_of_event t told
    have sent :
        Notice.ofOccurrence bridge s.logHookActive s.server.world (.event e) = some n := told
    rcases entry_of_event told with ⟨plain, same⟩ | ⟨resets, cleared⟩
    · refine h.makes made (event_alone h.idle opened plain) ?_
      refine h.after rfl ⟨h.idle.threads, h.idle.free, h.idle.live⟩ ?_ rfl rfl rfl ?_
      · simp [publish, Occurrence.log, same, h.log]
      · simp [publish, h.published, socket, sent]
    · refine h.makes made (reset_alone h.idle opened resets) ?_
      refine h.after rfl ⟨h.idle.threads, h.idle.free, h.idle.live⟩ ?_ rfl rfl rfl ?_
      · simp [publish, Session.clear, Occurrence.log, cleared, h.log]
      · simp [publish, h.published, socket, sent]

theorem Matches.pluginStop (h : p.Matches s) (t : τ) :
    Serialises bridge os p s t .pluginStop := by
  refine h.makes rfl (stop_alone h.idle) ?_
  have closed := @after_pubSocket W bridge os s .pluginStop
  exact ⟨⟨h.idle.threads, h.idle.free, h.idle.live⟩, h.log, rfl, rfl, by simp [closed], h.published⟩

/-- The plugin after one more occurrence, on whichever thread. -/
def occurs (bridge : Bridge W) (os : Platform W) (s : PluginState W) (o : τ × Occurrence) :
    PluginState W :=
  XAuto.after bridge os s o.2

/-- The calls that a run of occurrences makes. -/
def calls (bridge : Bridge W) (os : Platform W) (s : PluginState W)
    (run : List (τ × Occurrence)) : List (Move τ) :=
  (Run.visits (occurs bridge os) s run).flatMap fun v => (v.2.2.call bridge v.1 v.2.1).toList

theorem Matches.foldl (h : p.Matches s) (run : List (τ × Occurrence))
    (returns : ∀ v ∈ Run.visits (occurs bridge os) s run,
      ∃ s', deliver bridge os v.2.2 v.1 = .ok () s') :
    ∃ moves q, Serial p (calls bridge os s run) moves q ∧
      q.Matches (run.foldl (occurs bridge os) s) := by
  induction run generalizing p s with
  | nil => exact ⟨[], p, .done h.idle, h⟩
  | cons o rest ih =>
    obtain ⟨t, o⟩ := o
    have first := (deliver_returns_iff s o).mp (returns (s, t, o) (by simp [Run.visits]))
    obtain ⟨moves, q, serial, hq⟩ : Serialises bridge os p s t o := by
      cases o with
      | event e => exact h.event t e (first e rfl)
      | logLine msg => exact h.logLine t msg
      | pluginStop => exact h.pluginStop t
    have later (v) (hv : v ∈ Run.visits (occurs bridge os) (XAuto.after bridge os s o) rest) :
        ∃ s', deliver bridge os v.2.2 v.1 = .ok () s' :=
      returns v (List.mem_cons_of_mem _ hv)
    obtain ⟨moves', q', serial', hq'⟩ := ih hq later
    exact ⟨moves ++ moves', q', serial.trans serial', hq'⟩

end Sequential

end Process

/-- What the plugin does when its callbacks, the hook and the stop are called one after the other,
on any threads, is what its threads do when no two of their calls overlap. -/
theorem sequential_run_is_schedule (bridge : Bridge W) (os : Platform W) (hooked : Bool)
    (server : ServerState W) (run : List (τ × Occurrence))
    (returns : ∀ v ∈ Run.visits (Process.occurs bridge os) (pluginInit hooked server) run,
      ∃ s', deliver bridge os v.2.2 v.1 = .ok () s') :
    let s := pluginInit hooked server
    let loaded := Process.loaded hooked (decide (server.pubSocket ≠ .null))
    ∃ (moves : List (Move τ)) (p : Process τ),
      Process.Serial loaded (Process.calls bridge os s run) moves p ∧
      Schedule.run Process.step loaded moves = some p ∧
      p.Matches (run.foldl (Process.occurs bridge os) s) := by
  intro s loaded
  have idle : loaded.Idle := ⟨fun _ => rfl, fun _ => rfl, rfl⟩
  have start : loaded.Matches s :=
    ⟨idle, rfl, rfl, rfl, by simp [loaded, s, Process.loaded, pluginInit], rfl⟩
  obtain ⟨moves, p, serial, hp⟩ := start.foldl run returns
  exact ⟨moves, p, serial, serial.run, hp⟩

theorem log_and_stop_is_schedule :
    let server : ServerState Unit :=
      { world := (), pubSocket := .bound (bytes "localhost") 0xc000 }
    let run : List (Bool × Occurrence) := [(true, .logLine (some [65])), (false, .pluginStop)]
    ∃ (moves : List (Move Bool)) (p : Process Bool),
      Process.Serial (Process.loaded true true)
        (Process.calls .idle (.always true) (pluginInit true server) run) moves p ∧
      Schedule.run Process.step (Process.loaded true true) moves = some p ∧
      p.Matches (run.foldl (Process.occurs .idle (.always true)) (pluginInit true server)) := by
  intro server run
  refine sequential_run_is_schedule .idle (.always true) true server run ?_
  simp only [run, Run.visits, List.forall_mem_cons, List.not_mem_nil]
  exact ⟨⟨_, rfl⟩, ⟨_, rfl⟩, by simp⟩

end XAuto
