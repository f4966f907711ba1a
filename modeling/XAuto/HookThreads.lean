import XAuto.LogRetention
import XAuto.Notices
import XAuto.Schedule
import Mathlib.Logic.Function.Basic

namespace XAuto

/-- `LogBuffer::mtx` and `XAutoServer::pub_mutex`. -/
inductive Mutex
  | log
  | pub
  deriving DecidableEq, Repr

/-- Where a thread is in `hook_GuiAddLogMessage` and the `capture_log` it ends with. -/
inductive HookPc
  | original
  | capture
  | guard
  | wantLog
  | append
  | wantPub
  | send
  | sending
  | leave
  deriving DecidableEq, Repr

/-- Where a thread is in an event callback; only `cb_init_debug` starts with the log. -/
inductive CallbackPc
  | wantLog
  | clear
  | wantPub
  | send
  | sending
  deriving DecidableEq, Repr

/-- Where a thread is in `pluginStop`. -/
inductive StopPc
  | deactivate
  | detach
  | wantPub
  | close
  deriving DecidableEq, Repr

/-- Where a thread is in the `get_since` of a request. -/
inductive QueryPc
  | wantLog
  | read
  deriving DecidableEq, Repr

/-- What an event callback publishes, which is no log message. -/
abbrev EventNotice := { n : Notice // n.line = none }

/-- A call of the plugin that has not returned. -/
inductive Frame
  | hook (line : Bytes) (pc : HookPc)
  | callback (n : EventNotice) (pc : CallbackPc)
  | stop (pc : StopPc)
  | query (pc : QueryPc)

namespace Frame

def isHook : Frame → Bool
  | hook _ _ => true
  | _ => false

/-- The mutex a call is about to lock. -/
def wants : Frame → Option Mutex
  | hook _ .wantLog | callback _ .wantLog | query .wantLog => some .log
  | hook _ .wantPub | callback _ .wantPub | stop .wantPub => some .pub
  | _ => none

def holds : Frame → Option Mutex
  | hook _ .append | callback _ .clear | query .read => some .log
  | hook _ .send | hook _ .sending | callback _ .send | callback _ .sending | stop .close =>
    some .pub
  | _ => none

/-- The call once it has the mutex that it wanted. -/
def locked : Frame → Frame
  | hook line .wantLog => hook line .append
  | hook line .wantPub => hook line .send
  | callback n .wantLog => callback n .clear
  | callback n .wantPub => callback n .send
  | stop .wantPub => stop .close
  | query .wantLog => query .read
  | f => f

/-- The part of `capture_log` in which `in_hook` is set. -/
def guarded : Frame → Bool
  | hook _ pc => !(pc == .original || pc == .capture || pc == .guard)
  | _ => false

/-- A call has the socket in use. -/
def usesSocket : Frame → Bool
  | hook _ .sending | callback _ .sending => true
  | _ => false

/-- What a call leads to can be logged on its own thread, except where it holds a mutex outside
of the hook. -/
def logs (f : Frame) : Bool := f.isHook || f.holds.isNone

/-- The line of a call that is in the buffer and has not been sent. -/
def unsent : Frame → Option Bytes
  | hook line .wantPub | hook line .send | hook line .sending => some line
  | _ => none

end Frame

/-- A thread of x64dbg or of the plugin: the calls it is in, innermost first, and its `in_hook`. -/
structure Thread where
  stack : List Frame := []
  inHook : Bool := false

/-- The plugin's state that its threads share, with what became of the lines they logged. -/
structure Process (τ : Type) where
  session : Session := {}
  logHookActive : Bool := true
  attached : Bool := true
  opened : Bool
  owner : Mutex → Option τ := fun _ => none
  threads : τ → Thread := fun _ => {}
  appended : List (τ × Bytes) := []
  published : List (τ × Notice) := []
  dropped : List (τ × Bytes) := []
  terminated : Bool := false

/-- A thread logs a line, enters a callback, the stop or a query, or goes on in the call it is
in. -/
inductive Move (τ : Type)
  | logs (t : τ) (line : Bytes)
  | event (t : τ) (n : EventNotice)
  | stop (t : τ)
  | query (t : τ)
  | continues (t : τ)

namespace Process

variable {τ : Type} [DecidableEq τ]

def setThread (p : Process τ) (t : τ) (th : Thread) : Process τ :=
  { p with threads := Function.update p.threads t th }

def setStack (p : Process τ) (t : τ) (stack : List Frame) : Process τ :=
  p.setThread t { p.threads t with stack }

def setOwner (p : Process τ) (m : Mutex) (owner : Option τ) : Process τ :=
  { p with owner := Function.update p.owner m owner }

def append (p : Process τ) (t : τ) (line : Bytes) : Process τ :=
  { p with session := p.session.append (some line), appended := p.appended ++ [(t, line)] }

def publish (p : Process τ) (t : τ) (n : Notice) : Process τ :=
  { p with published := p.published ++ [(t, n)] }

def drop (p : Process τ) (t : τ) (line : Bytes) : Process τ :=
  { p with dropped := p.dropped ++ [(t, line)] }

/-- The next step of the innermost call of a thread, which wants no mutex. -/
def advance (p : Process τ) (t : τ) (f : Frame) (rest : List Frame) : Process τ :=
  match f with
  | .hook line pc =>
    match pc with
    | .original => p.setStack t (.hook line .capture :: rest)
    | .capture =>
      if p.logHookActive then p.setStack t (.hook line .guard :: rest) else p.setStack t rest
    | .guard =>
      if (p.threads t).inHook then p.setStack t rest
      else p.setThread t { stack := .hook line .wantLog :: rest, inHook := true }
    | .append =>
      ((p.append t line).setOwner .log none).setStack t (.hook line .wantPub :: rest)
    | .send =>
      if p.opened then p.setStack t (.hook line .sending :: rest)
      -- the send throws, the lock is released and the exception is swallowed
      else ((p.drop t line).setOwner .pub none).setStack t (.hook line .leave :: rest)
    | .sending =>
      ((p.publish t (.logMessage line)).setOwner .pub none).setStack t (.hook line .leave :: rest)
    | .leave => p.setThread t { stack := rest, inHook := false }
    | .wantLog | .wantPub => p
  | .callback n pc =>
    match pc with
    | .clear =>
      ({ p with session := p.session.clear }.setOwner .log none).setStack t
        (.callback n .wantPub :: rest)
    | .send =>
      if p.opened then p.setStack t (.callback n .sending :: rest)
      -- nothing above the callback catches what the send throws
      else { p with terminated := true }
    | .sending => ((p.publish t n.1).setOwner .pub none).setStack t rest
    | .wantLog | .wantPub => p
  | .stop pc =>
    match pc with
    | .deactivate => { p with logHookActive := false }.setStack t (.stop .detach :: rest)
    | .detach => { p with attached := false }.setStack t (.stop .wantPub :: rest)
    | .close => ({ p with opened := false }.setOwner .pub none).setStack t rest
    | .wantPub => p
  | .query pc =>
    match pc with
    | .read => (p.setOwner .log none).setStack t rest
    | .wantLog => p

/-- The first step of a callback that publishes. -/
def entry (n : EventNotice) : CallbackPc :=
  match n.1 with
  | .initDebug _ => .wantLog
  | _ => .wantPub

def step (p : Process τ) (move : Move τ) : Option (Process τ) :=
  if p.terminated then none else
  match move with
  | .logs t line =>
    match (p.threads t).stack with
    | [] => if p.attached then some (p.setStack t [.hook line .original]) else none
    | f :: rest =>
      if p.attached && f.logs then some (p.setStack t (.hook line .original :: f :: rest)) else none
  | .event t n =>
    if (p.threads t).stack.isEmpty then some (p.setStack t [.callback n (entry n)]) else none
  | .stop t => if (p.threads t).stack.isEmpty then some (p.setStack t [.stop .deactivate]) else none
  | .query t => if (p.threads t).stack.isEmpty then some (p.setStack t [.query .wantLog]) else none
  | .continues t =>
    match (p.threads t).stack with
    | [] => none
    | f :: rest =>
      match f.wants with
      | some m =>
        if p.owner m = none then some ((p.setOwner m (some t)).setStack t (f.locked :: rest))
        else none
      | none => some (p.advance t f rest)

section Ledger

variable (p : Process τ) (t : τ)

/-- The lines of a thread that are in the buffer or were in it, oldest first. -/
def appendedBy : List Bytes := p.appended.filterMap fun x => if x.1 = t then some x.2 else none

def publishedBy : List Bytes := p.published.filterMap fun x => if x.1 = t then x.2.line else none

def droppedBy : List Bytes := p.dropped.filterMap fun x => if x.1 = t then some x.2 else none

end Ledger

end Process

end XAuto
