import XAuto.Answers
import XAuto.RemoteCalls
import Mathlib.Logic.Function.Basic

namespace XAuto

/-- What a client calls next, given its calls so far with what it learnt from them. -/
abbrev Client := List (Call × Answer) → Option Call

variable {W ι : Type}

/-- Clients at the debugger itself, up to a call to quit. -/
structure Direct (W ι : Type) where
  debugger : W
  learnt : ι → List (Call × Answer) := fun _ => []
  closed : Bool := false

/-- Clients that send requests to the thread. -/
structure Remote (W ι : Type) where
  thread : ThreadState W
  learnt : ι → List (Call × Answer) := fun _ => []

section Steps

variable [DecidableEq ι] (env : Env W) (clients : ι → Client)

/-- A client makes its next call, and learns what there is to see of what it comes to. -/
def Direct.step (s : Direct W ι) (who : ι) : Direct W ι :=
  if s.closed then s
  else
    match clients who (s.learnt who) with
    | none => s
    | some call =>
      let answer := (call.result env s.debugger).1.seen env.machine.bitness
      { debugger := (call.result env s.debugger).2
        learnt := Function.update s.learnt who (s.learnt who ++ [(call, answer)])
        closed := call = .quit }

/-- The bridge writes all that the next call of a client passes on. -/
def Direct.Settled (s : Direct W ι) (who : ι) : Prop :=
  s.closed = false → ∀ call, clients who (s.learnt who) = some call → call.Settled env s.debugger

/-- A client sends its next call as a request and reads the reply, if it gets one. -/
def Remote.step (unpack : Bytes → Option Obj) (encode : Call → Bytes) (s : Remote W ι) (who : ι) :
    Remote W ι :=
  match clients who (s.learnt who) with
  | none => s
  | some call =>
    let thread := serveTurn env unpack s.thread (.request (encode call) true)
    let reply := lastReply (thread.io.drop s.thread.io.length)
    { thread
      learnt :=
        match reply.bind (Answer.ofObj call) with
        | some answer => Function.update s.learnt who (s.learnt who ++ [(call, answer)])
        | none => s.learnt }

/-- What the clients know and what they did to the debugger. -/
def Remote.direct (s : Remote W ι) : Direct W ι :=
  ⟨s.thread.world, s.learnt, s.thread.status != .looping⟩

end Steps

section Clients

variable [DecidableEq ι] {env : Env W} {clients : ι → Client} {unpack : Bytes → Option Obj}
  {encode : Call → Bytes}

/-- The calls of a client can be represented by the process and sent. -/
def Client.Sends (env : Env W) (unpack : Bytes → Option Obj) (encode : Call → Bytes)
    (client : Client) : Prop :=
  ∀ learnt call, client learnt = some call →
    call.Fits env.machine ∧ unpack (encode call) = some call.toObj

/-- What a client reads in the reply that it gets to its call. -/
theorem Call.lastReply_serveTurn {call : Call} {s : ThreadState W} {data : Bytes}
    (looping : s.status = .looping) (packed : unpack data = some call.toObj)
    (fits : call.Fits env.machine) (written : ¬call.Unwritten env s.world) :
    (lastReply ((serveTurn env unpack s (.request data true)).io.drop s.io.length)).bind
      (Answer.ofObj call) = some ((call.result env s.world).1.seen env.machine.bitness) := by
  have reply := lastReply_exchange [] data (call.perform env s.world).1
  rw [List.nil_append] at reply
  rw [Call.serveTurn_call looping packed fits written, List.drop_left, reply, Option.bind_some]
  exact call.ofObj_perform env s.world

/-- The thread goes on until a client calls to quit. -/
def Remote.Serving (s : Remote W ι) : Prop :=
  s.thread.status = .looping ∨ s.thread.status = .terminated

variable {junk : Junk}

theorem Remote.step_direct (sends : ∀ who, (clients who).Sends env unpack encode)
    (s : Remote W ι) (who : ι) (settled : s.direct.Settled env clients who) :
    s.direct.step (env.withJunk junk) clients who =
      (s.step env clients unpack encode who).direct := by
  unfold Direct.step Remote.step
  cases next : clients who (s.learnt who) with
  | none =>
    have same : clients who (s.direct.learnt who) = none := next
    rw [same]
    exact ite_self _
  | some call =>
    have same : clients who (s.direct.learnt who) = some call := next
    obtain ⟨fits, packed⟩ := sends who (s.learnt who) call next
    rw [same]
    dsimp only
    by_cases looping : s.thread.status = .looping
    · have opened : s.direct.closed = false := by simp [Remote.direct, looping]
      have settled : call.Settled env s.thread.world := settled opened call next
      obtain ⟨seen, effect⟩ := settled.seen_withJunk env junk env.machine.bitness
      have written := settled.written
      rw [if_neg (Bool.eq_false_iff.mp opened),
        Call.lastReply_serveTurn looping packed fits written,
        Call.serveTurn_call looping packed fits written]
      unfold Remote.direct
      dsimp only
      have machine : (env.withJunk junk).machine = env.machine := rfl
      rw [machine, seen, effect]
      by_cases quits : call = .quit <;> simp [quits, Call.after, Call.perform]
    · have closed : s.direct.closed = true := by simp [Remote.direct, looping]
      rw [if_pos closed, serveTurn_stopped looping, List.drop_length]
      rfl

theorem Remote.Serving.step (sends : ∀ who, (clients who).Sends env unpack encode)
    {s : Remote W ι} (serving : s.Serving) (who : ι) (settled : s.direct.Settled env clients who) :
    (s.step env clients unpack encode who).Serving := by
  unfold Remote.step
  cases next : clients who (s.learnt who) with
  | none => exact serving
  | some call =>
    obtain ⟨fits, data⟩ := sends who (s.learnt who) call next
    by_cases looping : s.thread.status = .looping
    · have opened : s.direct.closed = false := by simp [Remote.direct, looping]
      have settled : call.Settled env s.thread.world := settled opened call next
      unfold Remote.Serving
      dsimp only
      rw [Call.serveTurn_call looping data fits settled.written]
      dsimp only
      split
      · exact Or.inr rfl
      · exact Or.inl rfl
    · unfold Remote.Serving
      dsimp only
      rw [serveTurn_stopped looping]
      exact serving

end Clients

/-- Clients cannot tell the wire from the debugger: however any number of them take turns, and
whatever each makes of what it has learnt, they learn the same over requests and replies as from
calls to the debugger itself, whatever is in the locals there, and do the same to it, up to the
first call to quit; as long as the bridge writes the lists and the registers that are asked for. -/
theorem remote_clients_learn_the_same [DecidableEq ι] (env : Env W) (unpack : Bytes → Option Obj)
    (encode : Call → Bytes) (clients : ι → Client)
    (sends : ∀ who, (clients who).Sends env unpack encode) (w : W) (schedule : List ι) (junk : Junk)
    (settled : ∀ v ∈
      Run.visits (Direct.step (env.withJunk junk) clients) { debugger := w } schedule,
        v.1.Settled env clients v.2) :
    let remote :=
      schedule.foldl (Remote.step env clients unpack encode) { thread := { world := w } }
    let direct := schedule.foldl (Direct.step (env.withJunk junk) clients) { debugger := w }
    remote.learnt = direct.learnt ∧ remote.thread.world = direct.debugger ∧
      remote.thread.status = if direct.closed then .terminated else .looping := by
  intro remote direct
  let start : Remote W ι := { thread := { world := w } }
  obtain ⟨simulated, serving⟩ : schedule.foldl (Direct.step (env.withJunk junk) clients)
      start.direct = remote.direct ∧ remote.Serving :=
    Run.foldl_simulates (fun _ who serving h => Remote.Serving.step sends serving who h)
      (fun s who _ h => Remote.step_direct sends s who h) (Or.inl rfl) settled
  rw [show direct = remote.direct from simulated]
  refine ⟨rfl, rfl, ?_⟩
  rcases serving with looping | terminated
  · simp [Remote.direct, looping]
  · simp [Remote.direct, terminated]

section Example

/-- One client asks for the version once it knows the build; the other one quits before that. -/
def buildClient : Client
  | [] => some .dbgGetBitness
  | [(_, .number 64)] => some .compatVersion
  | _ => none

def quittingClient : Client
  | [] => some .dbgIsRunning
  | [_] => some .quit
  | _ => none

/-- The requests of the two, and their msgpack forms. -/
def textRequests : List (Command × List Bytes) :=
  [(.dbgGetBitness, []), (.compatVersion, []), (.dbgIsRunning, []), (.quit, [])]

def textOf : Call → Bytes
  | .dbgGetBitness => textRequest .dbgGetBitness []
  | .compatVersion => textRequest .compatVersion []
  | .dbgIsRunning => textRequest .dbgIsRunning []
  | .quit => textRequest .quit []
  | _ => []

theorem unpack_textRequest {c : Command} (known : (c, []) ∈ textRequests) :
    unpackTexts textRequests (textRequest c []) = some (request c []) := by
  have apart : ∀ r ∈ textRequests, ∀ r' ∈ textRequests,
      textRequest r.1 r.2 = textRequest r'.1 r'.2 → r = r' := by decide +kernel
  exact unpackTexts_textRequest apart known

/-- All that the two ask for. -/
theorem asked {who : Bool} {learnt : List (Call × Answer)} {call : Call}
    (next : (if who then quittingClient else buildClient) learnt = some call) :
    call ∈ [Call.dbgGetBitness, .compatVersion, .dbgIsRunning, .quit] := by
  cases who with
  | true =>
    have next : quittingClient learnt = some call := next
    unfold quittingClient at next
    split at next <;> cases next <;> decide
  | false =>
    have next : buildClient learnt = some call := next
    unfold buildClient at next
    split at next <;> cases next <;> decide

theorem build_learnt_before_quit :
    let env := Env.idle (.native .x64) fun _ => none
    let unpack := unpackTexts textRequests
    let clients : Bool → Client := fun who => if who then quittingClient else buildClient
    let schedule := [true, false, true, false, true]
    let remote :=
      schedule.foldl (Remote.step env clients unpack textOf) { thread := { world := () } }
    let direct := schedule.foldl (Direct.step (env.withJunk ⟨1, default, ⟨1, 0⟩⟩) clients)
      { debugger := () }
    direct.learnt false = [(.dbgGetBitness, .number 64)] ∧ direct.closed = true ∧
      remote.learnt = direct.learnt ∧ remote.thread.world = direct.debugger ∧
      remote.thread.status = if direct.closed then .terminated else .looping := by
  intro env unpack clients schedule
  have sends : ∀ who, (clients who).Sends env unpack textOf := by
    intro who learnt call next
    have known := asked next
    simp only [List.mem_cons, List.not_mem_nil, or_false] at known
    rcases known with rfl | rfl | rfl | rfl <;> exact ⟨trivial, unpack_textRequest (by decide)⟩
  have settled (s : Direct Unit Bool) (who : Bool) : s.Settled env clients who := by
    intro _ call next
    have known := asked next
    simp only [List.mem_cons, List.not_mem_nil, or_false] at known
    rcases known with rfl | rfl | rfl | rfl <;> trivial
  have same := remote_clients_learn_the_same env unpack textOf clients sends () schedule
    ⟨1, default, ⟨1, 0⟩⟩ fun v _ => settled v.1 v.2
  exact ⟨rfl, rfl, same⟩

end Example

end XAuto
