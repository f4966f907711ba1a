import XAuto.DispatchSpecs

namespace XAuto

open Handler Effect

variable {W : Type} (env : Env W)

/-- What the loop does with a decoded request before it sends the response buffer. -/
def replyTo (root : Obj) : Handler W DispatchResult := do
  let dispatchExit ← dispatchCmd env root
  let s ← get
  if s.response.isEmpty then
    pack (.errorResponse "XERROR_UNK" "Could not understand input")
  pure dispatchExit

/-- What ZeroMQ does in one turn of the loop. -/
inductive Turn
  | noMessage
  | recvFails
  | request (data : Bytes) (sent : Bool)

inductive Exchange
  | received (data : Bytes)
  | replied (objs : List Obj)

inductive ThreadStatus
  | looping
  | terminated
  | caught
  | escaped (e : Exn)
  deriving DecidableEq, Repr

structure ThreadState (W : Type) where
  world : W
  io : List Exchange := []
  status : ThreadStatus := .looping

/-- The end of the thread by an exception: the one handler around the loop is for ZeroMQ errors. -/
def ThreadStatus.thrown (e : Exn) : ThreadStatus :=
  if e = .zmqError then .caught else .escaped e

/-- One turn of `xauto_srv_req_rep_thread`. `unpack` is `none` where `msgpack::unpack` throws. -/
def serveTurn (unpack : Bytes → Option Obj) (s : ThreadState W) (turn : Turn) : ThreadState W :=
  if s.status ≠ .looping then s else
  match turn with
  | .noMessage => s
  | .recvFails => { s with status := .caught }
  | .request data sent =>
    let io := s.io ++ [.received data]
    match unpack data with
    | none => { s with io, status := .escaped .msgpackError }
    | some root =>
      match replyTo env root { world := s.world } with
      | .error e s' => { world := s'.world, io, status := .thrown e }
      | .ok dispatchExit s' =>
        if sent then
          { world := s'.world, io := io ++ [.replied s'.response]
            status := if dispatchExit = .exit then .terminated else .looping }
        else { world := s'.world, io, status := .caught }

/-- `xauto_srv_req_rep_thread`. -/
def serve (unpack : Bytes → Option Obj) (turns : List Turn) (w : W) : ThreadState W :=
  turns.foldl (serveTurn env unpack) { world := w }

end XAuto
