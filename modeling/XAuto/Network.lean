import XAuto.Decimal
import XAuto.HostSessions
import XAuto.RemoteClients

namespace XAuto

open ServerM

/-- A debugger that takes calls up to one to quit. -/
structure Access (V : Type) where
  debugger : V
  closed : Bool := false

/-- Clients at the debuggers themselves, which they know by process id. -/
structure Directory (V ι : Type) where
  access : UInt32 → Option (Access V) := fun _ => none
  learnt : ι → List (UInt32 × Call × Answer) := fun _ => []

/-- The debuggers on a host with the request threads that their servers have started, and clients
that know of them by the session files. -/
structure Network (W V ι : Type) where
  fleet : Fleet W
  thread : UInt32 → Option (ThreadState V) := fun _ => none
  learnt : ι → List (UInt32 × Call × Answer) := fun _ => []

variable {W V ι : Type}

section Steps

variable [DecidableEq ι] (env : UInt32 → Env V)

namespace Directory

def enter (s : Directory V ι) (pid : UInt32) (a : Option (Access V)) : Directory V ι :=
  { s with access := Function.update s.access pid a }

/-- A client calls a debugger, if there is one by the process id that takes calls. -/
def call (who : ι) (pid : UInt32) (call : Call) (s : Directory V ι) : Directory V ι :=
  (s.access pid).elim s fun a =>
    if a.closed then s
    else
      let answer := (call.result (env pid) a.debugger).1.seen (env pid).machine.bitness
      { access := Function.update s.access pid
          (some ⟨(call.result (env pid) a.debugger).2, call = .quit⟩)
        learnt := Function.update s.learnt who (s.learnt who ++ [(pid, call, answer)]) }

inductive Step : Directory V ι → Directory V ι → Prop
  | opens {s : Directory V ι} {pid : UInt32} (new : s.access pid = none) (v : V) :
    Step s (s.enter pid (some ⟨v, false⟩))
  | ends {s : Directory V ι} (pid : UInt32) : Step s (s.enter pid none)
  | moves {s : Directory V ι} {pid : UInt32} {a a' : Access V} (known : s.access pid = some a)
    (stays : a.closed = true → a'.closed = true) : Step s (s.enter pid (some a'))
  | calls {s : Directory V ι} (who : ι) (pid : UInt32) (call : Call) :
    Step s (s.call env who pid call)

end Directory

namespace Network

variable (h : Host W) (unpack : Bytes → Option Obj)

/-- The constructor of `XAutoServer`: the thread is started if a session was acquired. -/
def pluginit (pid : UInt32) (fuel : Nat) (v : V) (n : Network W V ι) : Network W V ι :=
  let fleet := h.pluginit pid fuel n.fleet
  let acquired := (fleet.debugger pid).any Debugger.acquired
  { n with
    fleet
    thread := Function.update n.thread pid (if acquired then some { world := v } else none) }

/-- The process has no sockets any more. -/
def ends (pid : UInt32) (fleet : Fleet W) (n : Network W V ι) : Network W V ι :=
  { n with fleet, thread := Function.update n.thread pid none }

def setThread (pid : UInt32) (thread : ThreadState V) (n : Network W V ι) : Network W V ι :=
  { n with thread := Function.update n.thread pid (some thread) }

/-- The process that a session file leads a client to. -/
def reached (n : Network W V ι) (pid : UInt32) : Option UInt32 :=
  let held := (n.fleet.file (h.sessionFilename pid)).bind fun lines =>
    h.holder n.fleet.world (Host.sessionEndpoint lines .rep)
  held.bind fun holder => if holder.2 = .rep then some holder.1 else none

/-- A client sends a call to where a session file leads it, and reads the reply if it gets one. -/
def call (who : ι) (pid : UInt32) (call : Call) (data : Bytes) (n : Network W V ι) :
    Network W V ι :=
  ((n.reached h pid).bind fun p => (n.thread p).map fun thread => (p, thread)).elim n fun served =>
    let thread := serveTurn (env served.1) unpack served.2 (.request data true)
    let reply := lastReply (thread.io.drop served.2.io.length)
    { n.setThread served.1 thread with
      learnt := (reply.bind (Answer.ofObj call)).elim n.learnt fun answer =>
        Function.update n.learnt who (n.learnt who ++ [(pid, call, answer)]) }

/-- What can happen: to the processes, to the debuggers in them by themselves, to the threads by
whatever else they receive, and the calls of the clients, which call processes that live and have
acquired a session, with arguments that these can represent and for lists that the bridge writes. -/
inductive Step : Network W V ι → Network W V ι → Prop
  | pluginit {n : Network W V ι} {pid : UInt32} (idle : n.fleet.debugger pid = none) (fuel : Nat)
    (v : V) : Step n (n.pluginit h pid fuel v)
  | plugstop {n : Network W V ι} {pid : UInt32} {d : Debugger W}
    (loaded : n.fleet.debugger pid = some d) : Step n (n.ends pid (h.plugstop pid d n.fleet))
  | killed {n : Network W V ι} (pid : UInt32) :
    Step n (n.ends pid (h.ends pid n.fleet.world n.fleet))
  | elsewhere {n : Network W V ι} {w : W} (same : h.holder w = h.holder n.fleet.world) :
    Step n { n with fleet := { n.fleet with world := w } }
  | moves {n : Network W V ι} {pid : UInt32} {thread : ThreadState V}
    (started : n.thread pid = some thread) (v : V) :
    Step n (n.setThread pid { thread with world := v })
  | turns {n : Network W V ι} {pid : UInt32} {thread : ThreadState V}
    (started : n.thread pid = some thread) (turn : Turn) :
    Step n (n.setThread pid (serveTurn (env pid) unpack thread turn))
  | calls {n : Network W V ι} {pid : UInt32} {d : Debugger W} {call : Call} {data : Bytes}
    (alive : n.fleet.debugger pid = some d) (acquired : d.acquired = true)
    (fits : call.Fits (env pid).machine) (packed : unpack data = some call.toObj)
    (written : ∀ thread ∈ n.thread pid, ¬call.Unwritten (env pid) thread.world) (who : ι) :
    Step n (n.call env h unpack who pid call data)

/-- A process can be found if its socket was not bound to port 0. -/
def entry (d : Option (Debugger W)) (thread : Option (ThreadState V)) : Option (Access V) :=
  d.bind fun d =>
    if d.server.port .rep = 0 then none
    else thread.map fun t => ⟨t.world, t.status != .looping⟩

def directory (n : Network W V ι) : Directory V ι where
  access pid := entry (n.fleet.debugger pid) (n.thread pid)
  learnt := n.learnt

end Network

end Steps

section Endpoints

theorem port_eq_of_endpoint_eq {address address' : Bytes} {port port' : UInt16}
    (same : endpoint address port = endpoint address' port') : port = port' := by
  have parts (address : Bytes) (port : UInt16) : endpoint address port =
      (bytes "tcp://" ++ address) ++ 58 :: (Decimal.text port.toNat).map id := by
    have colon : bytes ":" = [58] := by decide
    rw [endpoint, colon, bytes_toString]
    simp
  have apart (d : UInt8) (_ : 48 ≤ d) (small : d ≤ 57) : id d ≠ 58 := by
    rintro rfl
    exact absurd small (by decide)
  rw [parts, parts] at same
  exact UInt16.toNat_inj.mp (Decimal.eq_of_append_text Function.injective_id apart same)

end Endpoints

namespace Network

variable {h : Host W} {env : UInt32 → Env V} {unpack : Bytes → Option Obj} {pid : UInt32}

/-- The invariant of a network: its fleet is sound, and the threads are those of the processes that
have acquired a session. -/
structure Sound (h : Host W) (n : Network W V ι) : Prop where
  fleet : h.Sound n.fleet
  started : ∀ pid, (n.thread pid).isSome ↔
    ∃ d, n.fleet.debugger pid = some d ∧ d.acquired = true

variable {n : Network W V ι}

/-- What a process does to its own debugger and thread is nothing to the others. -/
theorem Sound.replace (hn : n.Sound h) {n' : Network W V ι} (fleet : h.Sound n'.fleet)
    (others : ∀ p ≠ pid, n'.fleet.debugger p = n.fleet.debugger p ∧ n'.thread p = n.thread p)
    (started : (n'.thread pid).isSome ↔
      ∃ d, n'.fleet.debugger pid = some d ∧ d.acquired = true) : n'.Sound h where
  fleet := fleet
  started p := by
    by_cases same : p = pid
    · rw [same]
      exact started
    · obtain ⟨debugger, thread⟩ := others p same
      rw [debugger, thread]
      exact hn.started p

theorem Sound.setThread (hn : n.Sound h) {thread : ThreadState V}
    (started : n.thread pid = some thread) (thread' : ThreadState V) :
    (n.setThread pid thread').Sound h := by
  refine hn.replace hn.fleet (fun p other => ⟨rfl, Function.update_of_ne other _ _⟩) ?_
  have before := hn.started pid
  rw [started] at before
  have after : (n.setThread pid thread').thread pid = some thread' := Function.update_self ..
  rw [after]
  exact before

/-- The file of a session leads to its own process, but for one whose port has no name. -/
theorem Sound.reached (hn : n.Sound h) {d : Debugger W} (alive : n.fleet.debugger pid = some d)
    (acquired : d.acquired = true) :
    n.reached h pid = if d.server.port .rep = 0 then none else some pid := by
  obtain ⟨session, file⟩ := (hn.fleet.loaded pid d alive).told acquired
  unfold Network.reached
  rw [file, Option.bind_some, Host.sessionEndpoint_lines]
  split
  next zero =>
    have unheld : h.holder n.fleet.world (endpoint d.server.bindAddress (d.server.port .rep)) =
        none := by
      cases held : h.holder n.fleet.world (endpoint d.server.bindAddress (d.server.port .rep)) with
      | none => rfl
      | some holder =>
        obtain ⟨d', -, holds⟩ := (hn.fleet.holders _ holder.1 holder.2).mp held
        obtain ⟨b, -, takes⟩ := holds.took
        have port : b.port = d.server.port .rep := port_eq_of_endpoint_eq takes.endpoint
        exact absurd (port.trans zero) takes.nonzero
    rw [unheld]
    rfl
  next nonzero =>
    rw [hn.fleet.holder alive nonzero (session.socket .rep)]
    rfl

section Calls

variable [DecidableEq ι] {d : Debugger W} {thread : ThreadState V} {call : Call} {data : Bytes}

theorem Sound.call_unnamed (hn : n.Sound h) (alive : n.fleet.debugger pid = some d)
    (acquired : d.acquired = true) (unnamed : d.server.port .rep = 0) (who : ι) :
    n.call env h unpack who pid call data = n := by
  unfold Network.call
  rw [hn.reached alive acquired, if_pos unnamed]
  rfl

theorem Sound.call_stopped (hn : n.Sound h) (alive : n.fleet.debugger pid = some d)
    (acquired : d.acquired = true) (named : d.server.port .rep ≠ 0)
    (started : n.thread pid = some thread) (stopped : thread.status ≠ .looping) (who : ι) :
    n.call env h unpack who pid call data = n := by
  have same : n.setThread pid thread = n := by
    unfold Network.setThread
    rw [← started, Function.update_eq_self]
  unfold Network.call
  rw [hn.reached alive acquired, if_neg named, Option.bind_some, started, Option.map_some,
    Option.elim_some]
  dsimp only
  rw [serveTurn_stopped stopped, List.drop_length, same]
  rfl

/-- A call is served by the thread of the process, and by no other. -/
theorem Sound.call_served (hn : n.Sound h) (alive : n.fleet.debugger pid = some d)
    (acquired : d.acquired = true) (named : d.server.port .rep ≠ 0)
    (started : n.thread pid = some thread) (looping : thread.status = .looping)
    (fits : call.Fits (env pid).machine) (packed : unpack data = some call.toObj)
    (written : ¬call.Unwritten (env pid) thread.world) (who : ι) :
    n.call env h unpack who pid call data =
      { n.setThread pid (serveTurn (env pid) unpack thread (.request data true)) with
        learnt := Function.update n.learnt who (n.learnt who ++ [(pid, call,
          (call.result (env pid) thread.world).1.seen (env pid).machine.bitness)]) } := by
  unfold Network.call
  rw [hn.reached alive acquired, if_neg named, Option.bind_some, started, Option.map_some,
    Option.elim_some]
  dsimp only
  rw [Call.lastReply_serveTurn looping packed fits written]
  rfl

end Calls

section Runs

theorem ends_others {f : Fleet W} (fleet : ∀ p ≠ pid, f.debugger p = n.fleet.debugger p)
    (p : UInt32) (other : p ≠ pid) : (n.ends pid f).fleet.debugger p = n.fleet.debugger p ∧
      (n.ends pid f).thread p = n.thread p :=
  ⟨fleet p other, Function.update_of_ne other _ _⟩

theorem Sound.ends (hn : n.Sound h) {f : Fleet W} (fleet : h.Sound f)
    (others : ∀ p ≠ pid, f.debugger p = n.fleet.debugger p) (gone : f.debugger pid = none) :
    (n.ends pid f).Sound h := by
  refine hn.replace fleet (ends_others others) ?_
  show (Function.update n.thread pid none pid).isSome ↔ ∃ d, f.debugger pid = some d ∧ _
  rw [Function.update_self, gone]
  simp

theorem plugstop_debugger (d : Debugger W) (f : Fleet W) :
    (h.plugstop pid d f).debugger = Function.update f.debugger pid none := rfl

theorem plugstop_others (d : Debugger W) (f : Fleet W) (p : UInt32) (other : p ≠ pid) :
    (h.plugstop pid d f).debugger p = f.debugger p := by
  rw [plugstop_debugger, Function.update_of_ne other]

theorem pluginit_others (fuel : Nat) (v : V) (p : UInt32) (other : p ≠ pid) :
    (n.pluginit h pid fuel v).fleet.debugger p = n.fleet.debugger p ∧
      (n.pluginit h pid fuel v).thread p = n.thread p :=
  ⟨Host.pluginit_debugger other fuel, Function.update_of_ne other _ _⟩

variable [DecidableEq ι] (lawful : h.Lawful)

include lawful

theorem Sound.step (hn : n.Sound h) {n' : Network W V ι} (step : n.Step env h unpack n') :
    n'.Sound h := by
  cases step with
  | @pluginit pid idle fuel v =>
    refine hn.replace (hn.fleet.pluginit lawful idle fuel) (pluginit_others fuel v) ?_
    show (Function.update n.thread pid _ pid).isSome ↔
      ∃ d, (h.pluginit pid fuel n.fleet).debugger pid = some d ∧ _
    rw [Function.update_self]
    cases (h.pluginit pid fuel n.fleet).debugger pid with
    | none => simp
    | some d => cases acquired : d.acquired <;> simp [acquired]
  | @plugstop pid d loaded =>
    exact hn.ends (hn.fleet.plugstop lawful loaded) (plugstop_others d n.fleet)
      (Function.update_self ..)
  | killed pid =>
    exact hn.ends (hn.fleet.ends lawful fun _ _ _ _ => Iff.rfl)
      (fun p other => Host.ends_debugger other _) (Function.update_self ..)
  | elsewhere same => exact ⟨hn.fleet.step lawful (.elsewhere same), hn.started⟩
  | moves started v => exact hn.setThread started _
  | turns started turn => exact hn.setThread started _
  | @calls pid d call data alive acquired fits packed written who =>
    have begun := (hn.started pid).mpr ⟨d, alive, acquired⟩
    obtain ⟨thread, started⟩ := Option.isSome_iff_exists.mp begun
    by_cases unnamed : d.server.port .rep = 0
    · rw [hn.call_unnamed alive acquired unnamed]
      exact hn
    by_cases looping : thread.status = .looping
    · rw [hn.call_served alive acquired unnamed started looping fits packed
        (written thread started)]
      have served := hn.setThread started
        (serveTurn (env pid) unpack thread (.request data true))
      exact ⟨served.fleet, served.started⟩
    · rw [hn.call_stopped alive acquired unnamed started looping]
      exact hn

end Runs

section Directories

theorem entry_eq_some {d : Option (Debugger W)} {thread : Option (ThreadState V)} {a : Access V} :
    entry d thread = some a ↔ ∃ d' t, d = some d' ∧ thread = some t ∧ d'.server.port .rep ≠ 0 ∧
      a = ⟨t.world, t.status != .looping⟩ := by
  cases d with
  | none => simp [entry]
  | some d' =>
    cases thread with
    | none => simp [entry]
    | some t => simp [entry, eq_comm]

/-- Only the entry of a process depends on it. -/
theorem directory_replace (n n' : Network W V ι) (learnt : n'.learnt = n.learnt)
    (others : ∀ p ≠ pid, n'.fleet.debugger p = n.fleet.debugger p ∧ n'.thread p = n.thread p) :
    n'.directory = n.directory.enter pid (n'.directory.access pid) := by
  have access : n'.directory.access =
      Function.update n.directory.access pid (n'.directory.access pid) := by
    funext p
    by_cases same : p = pid
    · rw [same, Function.update_self]
    · obtain ⟨debugger, thread⟩ := others p same
      rw [Function.update_of_ne same]
      unfold directory
      dsimp only
      rw [debugger, thread]
  unfold Directory.enter
  rw [← access]
  exact congrArg _ learnt

theorem enter_access (s : Directory V ι) (pid : UInt32) : s.enter pid (s.access pid) = s := by
  unfold Directory.enter
  rw [Function.update_eq_self]

theorem directory_setThread {thread : ThreadState V} (started : n.thread pid = some thread)
    (thread' : ThreadState V) :
    (n.setThread pid thread').directory = n.directory.enter pid
      ((n.directory.access pid).map fun _ => ⟨thread'.world, thread'.status != .looping⟩) := by
  have others (p : UInt32) (other : p ≠ pid) :
      (n.setThread pid thread').fleet.debugger p = n.fleet.debugger p ∧
        (n.setThread pid thread').thread p = n.thread p :=
    ⟨rfl, Function.update_of_ne other _ _⟩
  have mine : (n.setThread pid thread').thread pid = some thread' := Function.update_self ..
  rw [directory_replace n (n.setThread pid thread') rfl others]
  congr 1
  show entry (n.fleet.debugger pid) ((n.setThread pid thread').thread pid) =
    (entry (n.fleet.debugger pid) (n.thread pid)).map _
  rw [mine, started]
  cases n.fleet.debugger pid with
  | none => rfl
  | some d => by_cases unnamed : d.server.port .rep = 0 <;> simp [entry, unnamed]

variable [DecidableEq ι]

theorem setThread_moves {thread thread' : ThreadState V} (started : n.thread pid = some thread)
    (stays : thread.status ≠ .looping → thread'.status ≠ .looping) :
    n.directory.Step env (n.setThread pid thread').directory ∨
      (n.setThread pid thread').directory = n.directory := by
  rw [directory_setThread started]
  cases known : n.directory.access pid with
  | none =>
    right
    rw [Option.map_none, ← known, enter_access]
  | some a =>
    left
    obtain ⟨d, t, live, same, named, rfl⟩ := entry_eq_some.mp known
    rw [started] at same
    cases same
    exact .moves known (by simpa using stays)

theorem pluginit_opens (idle : n.fleet.debugger pid = none) (fuel : Nat) (v : V) :
    n.directory.Step env (n.pluginit h pid fuel v).directory ∨
      (n.pluginit h pid fuel v).directory = n.directory := by
  have new : n.directory.access pid = none := by
    show entry (n.fleet.debugger pid) (n.thread pid) = none
    rw [idle]
    rfl
  have thread : (n.pluginit h pid fuel v).thread pid =
      if ((h.pluginit pid fuel n.fleet).debugger pid).any Debugger.acquired then some { world := v }
      else none := Function.update_self ..
  rw [directory_replace n (n.pluginit h pid fuel v) rfl (pluginit_others fuel v)]
  cases known : (n.pluginit h pid fuel v).directory.access pid with
  | none =>
    right
    rw [← new, enter_access]
  | some a =>
    left
    obtain ⟨d, t, live, started, named, rfl⟩ := entry_eq_some.mp known
    rw [thread] at started
    split at started
    · cases started
      exact .opens new v
    · cases started

theorem ends_ends {f : Fleet W} (others : ∀ p ≠ pid, f.debugger p = n.fleet.debugger p) :
    n.directory.Step env (n.ends pid f).directory := by
  have gone : (n.ends pid f).directory.access pid = none := by
    show entry (f.debugger pid) (Function.update n.thread pid none pid) = none
    rw [Function.update_self]
    cases f.debugger pid with
    | none => rfl
    | some d => simp [entry]
  rw [directory_replace n (n.ends pid f) rfl (ends_others others), gone]
  exact .ends pid

/-- A call by a session file is one at the debugger. -/
theorem Sound.call_directory (hn : n.Sound h) {d : Debugger W} {call : Call} {data : Bytes}
    (alive : n.fleet.debugger pid = some d) (acquired : d.acquired = true)
    (fits : call.Fits (env pid).machine) (packed : unpack data = some call.toObj)
    (written : ∀ thread ∈ n.thread pid, ¬call.Unwritten (env pid) thread.world) (who : ι) :
    (n.call env h unpack who pid call data).directory = n.directory.call env who pid call := by
  have begun := (hn.started pid).mpr ⟨d, alive, acquired⟩
  obtain ⟨thread, started⟩ := Option.isSome_iff_exists.mp begun
  have entered : n.directory.access pid = entry (some d) (some thread) := by
    rw [← alive, ← started]
    rfl
  by_cases unnamed : d.server.port .rep = 0
  · have unknown : n.directory.access pid = none := by simp [entered, entry, unnamed]
    rw [hn.call_unnamed alive acquired unnamed, Directory.call, unknown]
    rfl
  have known : n.directory.access pid = some ⟨thread.world, thread.status != .looping⟩ := by
    simp [entered, entry, unnamed]
  by_cases looping : thread.status = .looping
  · have effect : call.after (env pid) thread.world = (call.result (env pid) thread.world).2 := rfl
    have written := written thread started
    have after := directory_setThread started
      (serveTurn (env pid) unpack thread (.request data true))
    rw [known, Call.serveTurn_call looping packed fits written, effect] at after
    have closes : ((if call = .quit then ThreadStatus.terminated else .looping) != .looping) =
        decide (call = .quit) := by
      by_cases quits : call = .quit <;> simp [quits]
    have opened : ¬(thread.status != .looping) = true := by simp [looping]
    rw [hn.call_served alive acquired unnamed started looping fits packed written,
      Call.serveTurn_call looping packed fits written, effect, Directory.call, known,
      Option.elim_some]
    dsimp only
    rw [if_neg opened, ← closes]
    exact congrArg₂ Directory.mk (congrArg Directory.access after) rfl
  · rw [hn.call_stopped alive acquired unnamed started looping, Directory.call, known,
      Option.elim_some, if_pos (by simp [looping])]

/-- Each step of the network is one of the directory, or none. -/
theorem Sound.refines (hn : n.Sound h) {n' : Network W V ι} (step : n.Step env h unpack n') :
    n.directory.Step env n'.directory ∨ n'.directory = n.directory := by
  cases step with
  | pluginit idle fuel v => exact pluginit_opens idle fuel v
  | @plugstop pid d loaded => exact Or.inl (ends_ends (plugstop_others d n.fleet))
  | killed pid => exact Or.inl (ends_ends fun p other => Host.ends_debugger other _)
  | elsewhere same => exact Or.inr rfl
  | moves started v => exact setThread_moves started id
  | turns started turn =>
    refine setThread_moves started fun stopped => ?_
    rw [serveTurn_stopped stopped]
    exact stopped
  | calls alive acquired fits packed written who =>
    rw [hn.call_directory alive acquired fits packed written]
    exact Or.inl (.calls ..)

end Directories

theorem sound_idle {w : W} (free : ∀ e, h.holder w e = none) :
    Sound h ({ fleet := { world := w } } : Network W V ι) where
  fleet := Host.sound_idle free
  started pid := by
    constructor
    · exact nofun
    · rintro ⟨d, live, -⟩
      cases live

end Network

open Relation in
/-- Clients who find debuggers by their session files have them at hand by their process ids:
however debuggers start, stop and die on one host and whatever files they leave, each call of a
living session that it can represent, and that is for no list which the bridge leaves unwritten, is
the call at the debugger of that process, and reaches no other one. -/
theorem network_refines_directory [DecidableEq ι] (h : Host W) (lawful : h.Lawful)
    (env : UInt32 → Env V) (unpack : Bytes → Option Obj) {w : W}
    (free : ∀ e, h.holder w e = none) {n : Network W V ι}
    (run : ReflTransGen (Network.Step env h unpack) { fleet := { world := w } } n) :
    ReflTransGen (Directory.Step env) {} n.directory ∧
      ∀ pid d, n.fleet.debugger pid = some d → d.acquired = true →
        ∀ (call : Call) data, call.Fits (env pid).machine → unpack data = some call.toObj →
          (∀ thread ∈ n.thread pid, ¬call.Unwritten (env pid) thread.world) →
          ∀ who, (n.call env h unpack who pid call data).directory =
            n.directory.call env who pid call := by
  have refined : n.Sound h ∧ ReflTransGen (Directory.Step env) {} n.directory := by
    induction run with
    | refl => exact ⟨Network.sound_idle free, .refl⟩
    | tail _ step ih =>
      obtain ⟨sound, before⟩ := ih
      refine ⟨sound.step lawful step, ?_⟩
      rcases sound.refines step with next | same
      · exact before.tail next
      · rw [same]
        exact before
  obtain ⟨sound, directory⟩ := refined
  refine ⟨directory, ?_⟩
  intro pid d alive acquired call data fits packed written who
  exact sound.call_directory alive acquired fits packed written who

/-- A debugger takes the ports of one that has died and left its file. -/
theorem successor_called :
    let env := fun _ => Env.idle (.native .x64) fun _ => none
    let unpack := unpackTexts [(.dbgGetBitness, [])]
    let data := textRequest .dbgGetBitness []
    let bench : Network Bench Unit Unit := { fleet := { world := { draws := [0, 1, 0, 1] } } }
    let first := bench.pluginit Bench.host 1 2 ()
    let left := first.ends 1 (Bench.host.ends 1 first.fleet.world first.fleet)
    let second := left.pluginit Bench.host 3 2 ()
    let called := second.call env Bench.host unpack () 3 .dbgGetBitness data
    (called.learnt ()).map Prod.fst = [3] ∧
      Relation.ReflTransGen (Directory.Step env) {} called.directory ∧
      called.directory = second.directory.call env () 3 .dbgGetBitness := by
  intro env unpack data bench first left second called
  have idle : left.fleet.debugger 3 = none := by decide +kernel
  have acquired : (second.fleet.debugger 3).any Debugger.acquired = true := by decide +kernel
  have learnt : (called.learnt ()).map Prod.fst = [3] := by decide +kernel
  obtain ⟨d, alive, acquired⟩ := (Option.any_eq_true _ _).mp acquired
  have fits : Call.dbgGetBitness.Fits (env 3).machine := trivial
  have packed : unpack data = some Call.dbgGetBitness.toObj := rfl
  have died : Relation.ReflTransGen (Network.Step env Bench.host unpack) bench left :=
    (Relation.ReflTransGen.single (.pluginit rfl 2 ())).tail (.killed 1)
  have run := died.tail (.pluginit idle 2 ())
  have step : Network.Step env Bench.host unpack second called :=
    .calls alive acquired fits packed (fun _ _ => id) ()
  have before := network_refines_directory Bench.host Bench.host_lawful env unpack
    (fun _ => rfl) run
  have after := network_refines_directory Bench.host Bench.host_lawful env unpack
    (fun _ => rfl) (run.tail step)
  exact ⟨learnt, after.1,
    before.2 3 d alive acquired .dbgGetBitness data fits packed (fun _ _ => id) ()⟩

end XAuto
