import XAuto.Run
import XAuto.ServerThread

namespace XAuto

open Handler Effect

variable {W : Type}

/-- The replies to requests that are served one after the other. -/
def replies (env : Env W) (w : W) (roots : List Obj) : List Obj :=
  (Run.visits (advance env) w roots).map fun v => (v.2.outcome env v.1).1

variable {env : Env W} {unpack : Bytes → Option Obj}

theorem replies_append (w : W) (xs ys : List Obj) :
    replies env w (xs ++ ys) = replies env w xs ++ replies env (xs.foldl (advance env) w) ys := by
  unfold replies
  rw [Run.visits_append, List.map_append]

theorem replies_snoc (w : W) (roots : List Obj) (root : Obj) :
    replies env w (roots ++ [root]) =
      replies env w roots ++ [(root.outcome env (roots.foldl (advance env) w)).1] :=
  replies_append w roots [root]

theorem length_replies (w : W) (roots : List Obj) :
    (replies env w roots).length = roots.length := by
  have all := Run.length_visits (advance env) w roots
  simpa [replies] using all

section Turns

/-- The requests that were delivered, in order. -/
def requestsOf (turns : List Turn) : List Bytes :=
  turns.filterMap fun
    | .request data _ => some data
    | _ => none

/-- A request that the turn delivers is read within its bounds, or what lies behind it fails every
check, and it asks for no list that the bridge leaves unwritten. -/
def Turn.Safe (env : Env W) (unpack : Bytes → Option Obj) (w : W) : Turn → Prop
  | .request data _ => ∀ root, unpack data = some root →
      (root.InBounds ∨ env.MissingFails) ∧ ¬root.Unwritten env w
  | _ => True

/-- A run of turns in which every request was answered, and the thread goes on: each request is
answered, with what its command comes to in the state the earlier ones left, before the next one is
received. -/
structure Answering (env : Env W) (unpack : Bytes → Option Obj) (w : W) (turns : List Turn)
    (roots : List Obj) (s : ThreadState W) : Prop where
  receives : Turn.recvFails ∉ turns
  sends : ∀ data, Turn.request data false ∉ turns
  decoded : (requestsOf turns).map unpack = roots.map some
  fits : ∀ root ∈ roots, root.RequestFits env.machine
  going : ∀ root ∈ roots, Call.ofObj root ≠ some .quit
  world : s.world = roots.foldl (advance env) w
  io : s.io = (List.zipWith exchange (requestsOf turns) (replies env w roots)).flatten
  looping : s.status = .looping

/-- What a run of turns comes to: the thread is still answering, or it has come to an end at one of
the turns. -/
inductive Lockstep (env : Env W) (unpack : Bytes → Option Obj) (w : W) :
    List Turn → ThreadState W → Prop
  | answering {turns : List Turn} {roots : List Obj} {s : ThreadState W}
    (before : Answering env unpack w turns roots s) : Lockstep env unpack w turns s
  | quit {turns later : List Turn} {roots : List Obj} {s : ThreadState W} {data : Bytes}
    {root : Obj} (before : Answering env unpack w turns roots s) (hroot : unpack data = some root)
    (quits : Call.ofObj root = some .quit) :
    Lockstep env unpack w (turns ++ .request data true :: later)
      { world := advance env s.world root
        io := s.io ++ exchange data (root.outcome env s.world).1, status := .terminated }
  | recvFails {turns later : List Turn} {roots : List Obj} {s : ThreadState W}
    (before : Answering env unpack w turns roots s) :
    Lockstep env unpack w (turns ++ .recvFails :: later) { s with status := .caught }
  | sendFails {turns later : List Turn} {roots : List Obj} {s : ThreadState W} {data : Bytes}
    {root : Obj} (before : Answering env unpack w turns roots s) (hroot : unpack data = some root)
    (fits : root.RequestFits env.machine) :
    Lockstep env unpack w (turns ++ .request data false :: later)
      { world := advance env s.world root, io := s.io ++ [.received data], status := .caught }
  | undecodable {turns later : List Turn} {roots : List Obj} {s : ThreadState W} {data : Bytes}
    {sent : Bool} (before : Answering env unpack w turns roots s) (hroot : unpack data = none) :
    Lockstep env unpack w (turns ++ .request data sent :: later)
      { s with io := s.io ++ [.received data], status := .escaped .msgpackError }
  | misfit {turns later : List Turn} {roots : List Obj} {s : ThreadState W} {data : Bytes}
    {root : Obj} {sent : Bool} {e : Exn} (before : Answering env unpack w turns roots s)
    (hroot : unpack data = some root) (misfit : ¬root.RequestFits env.machine) :
    Lockstep env unpack w (turns ++ .request data sent :: later)
      { world := root.untouched env s.world, io := s.io ++ [.received data], status := .escaped e }

variable {w : W} {turns : List Turn} {s : ThreadState W} {roots : List Obj}

theorem requestsOf_snoc (turns : List Turn) (turn : Turn) :
    requestsOf (turns ++ [turn]) = requestsOf turns ++ requestsOf [turn] := List.filterMap_append

theorem zipWith_snoc {α β γ : Type*} {f : α → β → γ} {xs : List α} {ys : List β}
    (h : xs.length = ys.length) (x : α) (y : β) :
    List.zipWith f (xs ++ [x]) (ys ++ [y]) = List.zipWith f xs ys ++ [f x y] :=
  List.zipWith_append h

theorem Answering.noMessage (h : Answering env unpack w turns roots s) :
    Answering env unpack w (turns ++ [.noMessage]) roots s := by
  have same : requestsOf (turns ++ [.noMessage]) = requestsOf turns := by simp [requestsOf]
  refine ⟨?_, ?_, same ▸ h.decoded, h.fits, h.going, h.world, same ▸ h.io, h.looping⟩
  · simpa using h.receives
  · simpa using h.sends

theorem Answering.request (h : Answering env unpack w turns roots s) {data : Bytes} {root : Obj}
    (hroot : unpack data = some root) (fits : root.RequestFits env.machine)
    (going : Call.ofObj root ≠ some .quit) :
    Answering env unpack w (turns ++ [.request data true]) (roots ++ [root])
      { world := advance env s.world root
        io := s.io ++ exchange data (root.outcome env s.world).1, status := .looping } := by
  have length : (requestsOf turns).length = (replies env w roots).length := by
    rw [length_replies]
    simpa using congrArg List.length h.decoded
  have more : requestsOf (turns ++ [.request data true]) = requestsOf turns ++ [data] :=
    requestsOf_snoc ..
  refine ⟨?_, ?_, ?_, ?_, ?_, ?_, ?_, rfl⟩
  · simpa using h.receives
  · simpa using h.sends
  · simp [more, h.decoded, hroot]
  · simpa [or_imp, forall_and] using ⟨h.fits, fits⟩
  · simpa [or_imp, forall_and] using ⟨h.going, going⟩
  · simp [List.foldl_append, h.world]
  · dsimp only
    rw [more, replies_snoc, zipWith_snoc length, h.io, h.world]
    simp

/-- What happens in one more turn of a thread that goes on. -/
theorem Answering.turn (h : Answering env unpack w turns roots s) {turn : Turn}
    (safe : turn.Safe env unpack s.world) :
    Lockstep env unpack w (turns ++ [turn]) (serveTurn env unpack s turn) := by
  have hs := h.looping
  cases turn with
  | noMessage =>
    have same : serveTurn env unpack s .noMessage = s := by simp [serveTurn]
    rw [same]
    exact .answering h.noMessage
  | recvFails =>
    have failed : serveTurn env unpack s .recvFails = { s with status := .caught } := by
      simp [serveTurn, hs]
    rw [failed]
    exact .recvFails h
  | request data sent =>
    cases hroot : unpack data with
    | none =>
      have thrown : serveTurn env unpack s (.request data sent) =
          { s with io := s.io ++ [.received data], status := .escaped .msgpackError } := by
        simp [serveTurn, hs, hroot]
      rw [thrown]
      exact .undecodable h hroot
    | some root =>
      obtain ⟨hread, written⟩ := safe root hroot
      by_cases fits : root.RequestFits env.machine
      · cases sent with
        | true =>
          rw [serveTurn_outcome hs hroot hread fits written]
          split
          next quits => exact .quit h hroot quits
          next going => exact .answering (h.request hroot fits going)
        | false =>
          obtain ⟨res, s', hrun, served⟩ := replyTo_served hread fits written
          have failed : serveTurn env unpack s (.request data false) =
              { world := advance env s.world root, io := s.io ++ [.received data]
                status := .caught } := by
            simp [serveTurn, hs, hroot, hrun, served.world, advance]
          rw [failed]
          exact .sendFails h hroot fits
      · obtain ⟨e, s', hrun, uncaught, world⟩ := replyTo_misfit hread fits written
        have thrown : serveTurn env unpack s (.request data sent) =
            { world := root.untouched env s.world, io := s.io ++ [.received data]
              status := .escaped e } := by
          simp [serveTurn, hs, hroot, hrun, world, ThreadStatus.thrown, uncaught]
        rw [thrown]
        exact .misfit h hroot fits

theorem Lockstep.turn (h : Lockstep env unpack w turns s) {turn : Turn}
    (safe : s.status = .looping → turn.Safe env unpack s.world) :
    Lockstep env unpack w (turns ++ [turn]) (serveTurn env unpack s turn) := by
  cases h with
  | answering before => exact before.turn (safe before.looping)
  | quit before hroot quits =>
    rw [serveTurn_stopped (by simp), List.append_assoc]
    exact .quit before hroot quits
  | recvFails before =>
    rw [serveTurn_stopped (by simp), List.append_assoc]
    exact .recvFails before
  | sendFails before hroot fits =>
    rw [serveTurn_stopped (by simp), List.append_assoc]
    exact .sendFails before hroot fits
  | undecodable before hroot =>
    rw [serveTurn_stopped (by simp), List.append_assoc]
    exact .undecodable before hroot
  | misfit before hroot misfit =>
    rw [serveTurn_stopped (by simp), List.append_assoc]
    exact .misfit before hroot misfit

end Turns

/-- The request thread and its client stay in step over every run whose requests are read within
their bounds and ask for no list that the bridge leaves unwritten: each request is answered before
the next one is received, until one to quit is answered, the connection fails, or a message comes
that does not decode or does not fit. -/
theorem thread_lockstep (env : Env W) (unpack : Bytes → Option Obj) (turns : List Turn) (w : W)
    (safe : ∀ v ∈ Run.visits (serveTurn env unpack) { world := w } turns,
      v.1.status = .looping → v.2.Safe env unpack v.1.world) :
    Lockstep env unpack w turns (serve env unpack turns w) := by
  induction turns using List.reverseRecOn with
  | nil =>
    have start : Answering env unpack w [] [] { world := w } :=
      ⟨by simp, by simp, rfl, by simp, by simp, rfl, rfl, rfl⟩
    exact .answering start
  | append_singleton turns turn ih =>
    rw [Run.visits_append] at safe
    have before := ih fun v hv => safe v (List.mem_append_left _ hv)
    unfold serve at before ⊢
    rw [List.foldl_append]
    exact before.turn fun looping =>
      safe (_, turn) (List.mem_append_right _ (by simp [Run.visits])) looping

theorem empty_message_lockstep :
    let env := Env.idle (.native .x64) fun _ => some .nil
    let turns := [Turn.request [0xc0] true, .noMessage, .request [] true]
    Lockstep env unpackNil () turns (serve env unpackNil turns ()) := by
  intro env turns
  refine thread_lockstep env unpackNil turns () fun v hv _ => ?_
  have delivered : ∀ turn ∈ turns, turn.Safe env unpackNil () := by
    intro turn hturn
    have missing : env.MissingFails := idle_missing_fails (.native .x64)
    have reads (data : Bytes) (root : Obj) (hroot : unpackNil data = some root) :
        (root.InBounds ∨ env.MissingFails) ∧ ¬root.Unwritten env () := by
      refine ⟨Or.inr missing, ?_⟩
      unfold unpackNil at hroot
      split at hroot
      · cases hroot
        rintro ⟨c, hcmd, -⟩
        cases hcmd
      · cases hroot
    simp only [turns, List.mem_cons, List.not_mem_nil, or_false] at hturn
    rcases hturn with rfl | rfl | rfl
    · exact reads _
    · trivial
    · exact reads _
  exact Run.forall_visits.mpr delivered v hv

end XAuto
