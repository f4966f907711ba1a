import XAuto.Answers
import XAuto.LogPolling
import XAuto.LogRetention
import XAuto.PluginSystem
import XAuto.RemoteCalls

namespace XAuto

open Effect

/-- A client of the log: where it got to, what it was handed and how much it was told it missed. -/
structure LogClient where
  cursor : UInt64 := 0
  received : List Bytes := []
  missed : Nat := 0

namespace LogClient

def take (c : LogClient) (reply : Obj) : LogClient :=
  match LogPage.ofObj reply with
  | none => c
  | some page =>
    { cursor := page.nextIndex
      received := c.received ++ page.entries
      missed := c.missed + page.evicted.toNat }

/-- What a client has of the lines that were logged: all that its filter leaves up to its cursor,
but for lines that were evicted, and without a filter it knows how many those were. -/
structure Has (filter : Bytes) (lines : List Bytes) (c : LogClient) : Prop where
  inside : c.cursor.toNat ≤ lines.length
  received : c.received.Sublist ((lines.take c.cursor.toNat).filterMap (keptLines filter))
  counted : filter = [] → c.received.length + c.missed = c.cursor.toNat
  complete : Fits lines → c.missed = 0 ∧
    c.received = (lines.take c.cursor.toNat).filterMap (keptLines filter)

variable {filter : Bytes} {lines : List Bytes} {c : LogClient}

theorem has_nil (filter : Bytes) : Has filter [] {} where
  inside := Nat.zero_le _
  received := List.Sublist.refl _
  counted _ := rfl
  complete _ := ⟨rfl, rfl⟩

theorem Has.append (h : c.Has filter lines) (more : Option Bytes) :
    c.Has filter (lines ++ more.toList) := by
  have same : (lines ++ more.toList).take c.cursor.toNat = lines.take c.cursor.toNat :=
    List.take_append_of_le_length h.inside
  have inside := h.inside
  refine ⟨by simp; omega, ?_, h.counted, fun fits => ?_⟩
  · rw [same]
    exact h.received
  · rw [same]
    exact h.complete (fits.of_sublist (List.sublist_append_left _ _))

theorem take_snapshot (c : LogClient) (snap : LogBuffer.Snapshot) :
    c.take (snap.page.toObj) = {
      cursor := .ofNat snap.nextIndex
      received := c.received ++ snap.entries
      missed := c.missed + (UInt64.ofNat snap.evicted).toNat } := by
  unfold take
  rw [LogPage.ofObj_toObj]
  rfl

theorem Has.page {p : Poll} (h : c.Has filter p.history) (exact : p.Exact filter)
    (since : p.since = c.cursor.toNat) (all : Fits p.history → p.base = 0)
    (few : p.history.length < 2 ^ 64) : (c.take (p.snap.page.toObj)).Has filter p.history := by
  have advances := exact.advances
  have inside := exact.inside
  have covers := exact.covers
  have evicted : p.snap.evicted = p.base - c.cursor.toNat := by
    rw [exact.evicted, since, Nat.card_Ico]
  have next : (UInt64.ofNat p.snap.nextIndex).toNat = p.snap.nextIndex :=
    UInt64.toNat_ofNat_of_lt' (by show _ < 2 ^ 64; omega)
  have missed : (UInt64.ofNat p.snap.evicted).toNat = p.snap.evicted :=
    UInt64.toNat_ofNat_of_lt' (by show _ < 2 ^ 64; omega)
  rw [since] at advances
  have parts : p.history.take p.snap.nextIndex =
      p.history.take c.cursor.toNat ++ (p.history.take p.snap.nextIndex).drop c.cursor.toNat := by
    have whole := (List.take_append_drop c.cursor.toNat (p.history.take p.snap.nextIndex)).symm
    rwa [List.take_take, Nat.min_eq_left advances] at whole
  rw [take_snapshot, missed]
  refine ⟨?_, ?_, fun unfiltered => ?_, fun fits => ?_⟩
  all_goals dsimp only
  all_goals rw [next]
  · exact inside
  · rw [parts, List.filterMap_append, exact.entries, since]
    exact h.received.append ((List.drop_sublist_drop_left _ (le_max_left _ _)).filterMap _)
  · have counted := h.counted unfiltered
    subst unfiltered
    have poll := exact.length_entries
    rw [List.length_append]
    omega
  · obtain ⟨none, received⟩ := h.complete fits
    have base := all fits
    rw [base] at evicted
    refine ⟨by omega, ?_⟩
    rw [parts, List.filterMap_append, ← received, exact.entries, since, base, Nat.max_zero]

/-- A poll of a buffer that holds the end of the lines. -/
theorem Has.poll {buf : LogBuffer} (h : c.Has filter lines) (kept : Session.Kept ⟨buf, lines⟩)
    (few : lines.length < 2 ^ 64) (limit : Nat) :
    (c.take (buf.getSince c.cursor.toNat limit filter).page.toObj).Has filter lines := by
  let polling : Polling Unit := ⟨⟨buf, lines⟩, fun _ => c.cursor.toNat⟩
  have ok : polling.Ok := ⟨kept.tracks, fun _ => h.inside⟩
  have all : Fits lines → buf.baseIndex = 0 := by
    intro fits
    have longest := (kept.retains.longest lines List.suffix_rfl fits).length_le
    have length := kept.tracks.length
    dsimp only at longest length
    omega
  have exact : (polling.poll (fun _ => filter) () limit).Exact filter :=
    @Polling.Ok.poll_exact Unit (fun _ => filter) polling ok () limit
  exact Has.page h exact rfl all few

/-- After a poll without a limit there is nothing left to read. -/
theorem cursor_take_all {buf : LogBuffer} (tracks : Session.Tracks ⟨buf, lines⟩)
    (few : lines.length < 2 ^ 64) (c : LogClient) (filter : Bytes) :
    (c.take (buf.getSince c.cursor.toNat 0 filter).page.toObj).cursor.toNat = lines.length := by
  have read : buf.readCount c.cursor.toNat 0 filter = (buf.unread c.cursor.toNat).length :=
    Paging.cut_zero _ _
  have unread := buf.length_unread c.cursor.toNat
  have next : (buf.getSince c.cursor.toNat 0 filter).nextIndex = lines.length := by
    have length := tracks.length
    dsimp only at length
    rw [LogBuffer.getSince_nextIndex, read, unread]
    omega
  rw [take_snapshot, next]
  exact UInt64.toNat_ofNat_of_lt' few

end LogClient

/-- The plugin with its request thread, and the clients that poll its log. -/
structure System (W ι : Type) where
  thread : ThreadState (PluginState W)
  client : ι → LogClient := fun _ => {}

/-- What can happen between two turns of the request thread, and its turns. -/
inductive Action (ι : Type)
  | occurs (o : Occurrence)
  | requests (data : Bytes)
  | polls (who : ι) (data : Bytes)

variable {W ι : Type}

/-- The line that is logged. -/
def Action.line : Action ι → Option Bytes
  | .occurs (.logLine msg) => msg
  | _ => none

def linesOf (acts : List (Action ι)) : List Bytes := acts.filterMap Action.line

/-- The line of a log message that was published. -/
def loggedLine (o : Obj) : Option Bytes := (Notice.ofObj o).bind Notice.line

namespace System

section Act

variable [DecidableEq ι] (env : Env W) (os : Platform W) (unpack : Bytes → Option Obj)
  (filter : ι → Bytes)

def act (s : System W ι) : Action ι → System W ι
  | .occurs o =>
    { s with thread := { s.thread with world := after env.bridge os s.thread.world o } }
  | .requests data =>
    { s with thread := serveTurn env.onPlugin unpack s.thread (.request data true) }
  | .polls who data =>
    let thread := serveTurn env.onPlugin unpack s.thread (.request data true)
    let client := (lastReply thread.io).elim (s.client who) (s.client who).take
    { thread, client := Function.update s.client who client }

/-- A poll asks for the log from the client's cursor on. -/
def Polls (s : System W ι) (who : ι) (data : Bytes) (limit : UInt64) : Prop :=
  let call := Call.getLog (s.client who).cursor limit (filter who)
  unpack data = some call.toObj ∧ call.Fits env.machine

/-- What happens in the course of one debug session. -/
def Allows (s : System W ι) : Action ι → Prop
  | .occurs o => o.stops = false ∧ ∀ fileName, o ≠ .event (.initDebug fileName)
  | .requests data => ∃ root, unpack data = some root ∧
      root.Servable env.onPlugin s.thread.world ∧ Call.ofObj root ≠ some .quit
  | .polls who data => ∃ limit, s.Polls env unpack filter who data limit

end Act

/-- Each line that was logged is in the buffer unless it was evicted, was published once, and is
with the clients that have read so far. -/
structure Delivers (filter : ι → Bytes) (lines : List Bytes) (s : System W ι) : Prop where
  looping : s.thread.status = .looping
  hooked : s.thread.world.logHookActive = true
  opened : s.thread.world.server.pubSocket ≠ .null
  kept : Session.Kept ⟨s.thread.world.log, lines⟩
  published : s.thread.world.published.filterMap loggedLine = lines
  clients : ∀ who, (s.client who).Has (filter who) lines

section Steps

variable {env : Env W} {os : Platform W} {unpack : Bytes → Option Obj} {filter : ι → Bytes}
  {lines : List Bytes} {s : System W ι}

theorem loggedLine_toObj (n : Notice) : loggedLine n.toObj = n.line := by
  rw [loggedLine, n.ofObj_toObj, Option.bind_some, n.line_seen]

theorem loggedLine_event (bridge : Bridge W) (w : W) (e : DebugEvent) :
    ((Notice.ofEvent bridge w e).toList.map Notice.toObj).filterMap loggedLine = [] := by
  cases told : Notice.ofEvent bridge w e with
  | none => rfl
  | some n => simp [loggedLine_toObj, Notice.line_ofEvent told]

theorem Delivers.occurs [DecidableEq ι] (h : s.Delivers filter lines) {o : Occurrence}
    (running : o.stops = false) (same : ∀ fileName, o ≠ .event (.initDebug fileName)) :
    (s.act env os unpack (.occurs o)).Delivers filter
      (lines ++ (Action.occurs o : Action ι).line.toList) := by
  have told := after_tells env.bridge os running s.thread.world
  rw [h.hooked] at told
  have socket := @after_pubSocket W env.bridge os s.thread.world o
  refine ⟨h.looping, told.hooked.trans h.hooked, ?_, ?_, ?_, fun who => (h.clients who).append _⟩
  · intro closed
    have closed : (after env.bridge os s.thread.world o).server.pubSocket = .null := closed
    rw [socket] at closed
    cases o <;> first | exact h.opened closed | cases running
  · change Session.Kept ⟨(after env.bridge os s.thread.world o).log, _⟩
    rw [told.log]
    cases o with
    | logLine msg => exact h.kept.append msg
    | pluginStop => cases running
    | event e =>
      have kept : e.log s.thread.world.log = s.thread.world.log := by
        cases e with
        | initDebug fileName => exact absurd rfl (same fileName)
        | _ => rfl
      simpa [Occurrence.log, Action.line, kept] using h.kept
  · change (after env.bridge os s.thread.world o).published.filterMap loggedLine = _
    rw [told.published, if_neg h.opened, List.filterMap_append, h.published]
    congr 1
    cases o with
    | event e => exact loggedLine_event env.bridge s.thread.world.server.world e
    | logLine msg =>
      cases msg with
      | none => rfl
      | some line => simp [Notice.ofOccurrence, Action.line, loggedLine_toObj, Notice.line]
    | pluginStop => cases running

/-- A request that is not to quit moves the debugger and nothing else of the plugin. -/
theorem serveTurn_moved {thread : ThreadState (PluginState W)} {data : Bytes} {root : Obj}
    (looping : thread.status = .looping) (hroot : unpack data = some root)
    (servable : root.Servable env.onPlugin thread.world) (going : Call.ofObj root ≠ some .quit) :
    ∃ w io, serveTurn env.onPlugin unpack thread (.request data true) =
      { world := thread.world.moveTo w, io, status := .looping } := by
  obtain ⟨w, moved⟩ := outcome_moved env root thread.world
  rw [serveTurn_outcome looping hroot (Or.inl servable.bounds) servable.fits servable.written,
    if_neg going, advance, moved]
  exact ⟨w, _, rfl⟩

theorem Delivers.requests [DecidableEq ι] (h : s.Delivers filter lines) {data : Bytes} {root : Obj}
    (hroot : unpack data = some root) (servable : root.Servable env.onPlugin s.thread.world)
    (going : Call.ofObj root ≠ some .quit) :
    (s.act env os unpack (.requests data)).Delivers filter lines := by
  obtain ⟨w, io, turn⟩ := serveTurn_moved h.looping hroot servable going
  have same : s.act env os unpack (.requests data) =
      { s with thread := { world := s.thread.world.moveTo w, io, status := .looping } } := by
    rw [act, turn]
  rw [same]
  exact ⟨rfl, h.hooked, h.opened, h.kept, h.published, h.clients⟩

/-- The client reads from the buffer what it asked for. -/
theorem act_polls [DecidableEq ι] {who : ι} {data : Bytes} {limit : UInt64}
    (looping : s.thread.status = .looping) (polls : s.Polls env unpack filter who data limit) :
    let reply := (s.thread.world.log.getSince (s.client who).cursor.toNat limit.toNat
      (filter who)).page.toObj
    s.act env os unpack (.polls who data) =
      { thread := { world := s.thread.world, io := s.thread.io ++ exchange data reply }
        client := Function.update s.client who ((s.client who).take reply) } := by
  intro reply
  obtain ⟨hdata, fits⟩ := polls
  have turn : serveTurn env.onPlugin unpack s.thread (.request data true) =
      { world := s.thread.world, io := s.thread.io ++ exchange data reply } :=
    Call.serveTurn_call looping hdata fits id
  rw [act, turn, lastReply_exchange]
  rfl

theorem Delivers.polls [DecidableEq ι] (h : s.Delivers filter lines) {who : ι} {data : Bytes}
    {limit : UInt64} (polls : s.Polls env unpack filter who data limit)
    (few : lines.length < 2 ^ 64) :
    (s.act env os unpack (.polls who data)).Delivers filter lines := by
  rw [act_polls h.looping polls]
  refine ⟨rfl, h.hooked, h.opened, h.kept, h.published, fun other => ?_⟩
  dsimp only
  by_cases ho : other = who
  · subst ho
    rw [Function.update_self]
    exact (h.clients other).poll h.kept few limit.toNat
  · rw [Function.update_of_ne ho]
    exact h.clients other

theorem Delivers.act [DecidableEq ι] (h : s.Delivers filter lines) {a : Action ι}
    (allowed : s.Allows env unpack filter a) (few : lines.length < 2 ^ 64) :
    (s.act env os unpack a).Delivers filter (lines ++ a.line.toList) := by
  cases a with
  | occurs o => exact h.occurs allowed.1 allowed.2
  | requests data =>
    obtain ⟨root, hroot, servable, going⟩ := allowed
    simpa [Action.line] using h.requests hroot servable going
  | polls who data =>
    obtain ⟨limit, polls⟩ := allowed
    simpa [Action.line] using h.polls polls few

theorem Delivers.foldl [DecidableEq ι] (h : s.Delivers filter lines) (acts : List (Action ι))
    (allowed : ∀ v ∈ Run.visits (System.act env os unpack) s acts, v.1.Allows env unpack filter v.2)
    (few : (lines ++ linesOf acts).length < 2 ^ 64) :
    (acts.foldl (System.act env os unpack) s).Delivers filter (lines ++ linesOf acts) := by
  induction acts generalizing s lines with
  | nil => simpa [linesOf] using h
  | cons a rest ih =>
    have parts : lines ++ linesOf (a :: rest) = lines ++ a.line.toList ++ linesOf rest := by
      unfold linesOf
      cases hl : a.line <;> simp [hl]
    have first : s.Allows env unpack filter a := allowed (s, a) (by simp [Run.visits])
    have before : lines.length < 2 ^ 64 := by
      rw [List.length_append] at few
      omega
    rw [parts] at few ⊢
    exact ih (h.act first before) (fun v hv => allowed v (by simp [Run.visits, hv])) few

end Steps

/-- The plugin after a session was acquired, with its request thread started and no client yet. -/
def start (server : ServerState W) : System W ι := { thread := { world := pluginInit true server } }

end System

/-- Once a session is acquired, log lines reach every client over every interleaving of log lines,
events, servable requests and polls in one debug session: the request thread goes on, each line is
published once and in order, each client has what its filter leaves of the lines up to its cursor
but for what was evicted, and one more poll without a limit brings it to the end; as long as the
lines can be counted. -/
theorem log_delivered [DecidableEq ι] (env : Env W) (os : Platform W)
    (unpack : Bytes → Option Obj) (filter : ι → Bytes) (fuel : Nat) (w : W) (server : ServerState W)
    (hload : ServerM.acquireSession env.bridge os fuel { world := w } = .ok true server)
    (acts : List (Action ι))
    (allowed : ∀ v ∈ Run.visits (System.act env os unpack) (System.start server) acts,
      v.1.Allows env unpack filter v.2)
    (few : (linesOf acts).length < 2 ^ env.machine.bitness.bits) :
    let s := acts.foldl (System.act env os unpack) (System.start server)
    s.Delivers filter (linesOf acts) ∧
    ∀ who data, s.Polls env unpack filter who data 0 →
      let c := (s.act env os unpack (.polls who data)).client who
      c.cursor.toNat = (linesOf acts).length ∧
      (Fits (linesOf acts) → c.received = (linesOf acts).filterMap (keptLines (filter who))) := by
  intro s
  have few : (linesOf acts).length < 2 ^ 64 := by
    cases hb : env.machine.bitness <;> simp only [hb, Bitness.bits] at few <;> omega
  have announced :=
    (ServerM.acquireSession_announced env.bridge os fuel { world := w }).ok hload rfl
  have opened : server.pubSocket ≠ .null := by
    have bound : server.pubSocket = .bound _ _ := announced.1.socket .pub
    rw [bound]
    exact SocketState.noConfusion
  have started : (System.start server : System W ι).Delivers filter [] :=
    ⟨rfl, rfl, opened, Session.kept_empty {}, rfl, fun who => LogClient.has_nil (filter who)⟩
  have delivered : s.Delivers filter (linesOf acts) := started.foldl acts allowed few
  refine ⟨delivered, fun who data polls => ?_⟩
  have next : (s.act env os unpack (.polls who data)).Delivers filter (linesOf acts) :=
    delivered.polls polls few
  have cursor : ((s.act env os unpack (.polls who data)).client who).cursor.toNat =
      (linesOf acts).length := by
    rw [System.act_polls delivered.looping polls]
    dsimp only
    rw [Function.update_self]
    exact LogClient.cursor_take_all delivered.kept.tracks few _ _
  refine ⟨cursor, fun fits => ?_⟩
  have received := ((next.clients who).complete fits).2
  rwa [cursor, List.take_length] at received

section Example

/-- The msgpack form of a request for the log from its start, one entry at most, unfiltered. -/
def firstPoll : Bytes := [0x94] ++ fixStr Command.getLog.name ++ [0x00, 0x01, 0xa0]

def unpackFirstPoll (data : Bytes) : Option Obj :=
  if data = firstPoll then some (Call.getLog 0 1 []).toObj else none

theorem line_delivered_to_poll :
    ∃ server, ServerM.acquireSession .idle (.always true) 1 { world := () } = .ok true server ∧
      let env := Env.idle (.native .x64) fun _ => none
      let s := [Action.occurs (.logLine (some [65])), .polls () firstPoll].foldl
        (System.act env (.always true) unpackFirstPoll) (System.start server)
      s.Delivers (fun _ => []) [[65]] := by
  refine ⟨_, rfl, ?_⟩
  intro env s
  refine (log_delivered env (.always true) unpackFirstPoll (fun _ => []) 1 () _ rfl
    [.occurs (.logLine (some [65])), .polls () firstPoll] ?_ (by decide)).1
  simp only [Run.visits, List.forall_mem_cons, List.not_mem_nil]
  exact ⟨⟨rfl, by simp⟩, ⟨1, rfl, by decide⟩, by simp⟩

end Example

end XAuto
