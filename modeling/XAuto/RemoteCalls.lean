import XAuto.Conversations

namespace XAuto

variable {W : Type} {env : Env W} {unpack : Bytes → Option Obj}

/-- The reply that was sent last. -/
def lastReply (io : List Exchange) : Option Obj :=
  match io.getLast? with
  | some (.replied [reply]) => some reply
  | _ => none

theorem lastReply_exchange (io : List Exchange) (data : Bytes) (reply : Obj) :
    lastReply (io ++ exchange data reply) = some reply := by
  simp [lastReply, exchange]

namespace Call

/-- The debugger after a call. -/
def after (env : Env W) (w : W) (call : Call) : W := (call.perform env w).2

/-- The answers to calls that are made one after the other. -/
def answers (env : Env W) (w : W) (calls : List Call) : List Obj :=
  (Run.visits (after env) w calls).map fun v => (v.2.perform env v.1).1

/-- No call goes on with a list that the bridge leaves unwritten. -/
def Written (env : Env W) (w : W) (calls : List Call) : Prop :=
  ∀ v ∈ Run.visits (after env) w calls, ¬v.2.Unwritten env v.1

/-- The calls up to and including the first one to quit. -/
def upToQuit : List Call → List Call
  | [] => []
  | call :: rest => if call = quit then [call] else call :: upToQuit rest

theorem answers_cons (w : W) (call : Call) (rest : List Call) :
    answers env w (call :: rest) = (call.perform env w).1 :: answers env (after env w call) rest :=
  rfl

theorem outcome_toObj (call : Call) (w : W) : call.toObj.outcome env w = call.perform env w := by
  unfold Obj.outcome
  rw [ofObj_toObj]

theorem unwritten_toObj (call : Call) (w : W) :
    call.toObj.Unwritten env w ↔ call.Unwritten env w := by
  rw [unwritten_iff, ofObj_toObj]
  simp

theorem written_cons {call : Call} {rest : List Call} {w : W} :
    Written env w (call :: rest) ↔ ¬call.Unwritten env w ∧ Written env (after env w call) rest :=
  List.forall_mem_cons

theorem serveTurn_call {s : ThreadState W} {data : Bytes} {call : Call}
    (hs : s.status = .looping) (hdata : unpack data = some call.toObj)
    (fits : call.Fits env.machine) (written : ¬call.Unwritten env s.world) :
    serveTurn env unpack s (.request data true) =
      { world := after env s.world call, io := s.io ++ exchange data (call.perform env s.world).1
        status := if call = quit then .terminated else .looping } := by
  have fits := (requestFits_toObj call).mpr fits
  rw [← unwritten_toObj] at written
  rw [serveTurn_outcome hs hdata (Or.inl call.inBounds_toObj) fits written, advance, outcome_toObj,
    ofObj_toObj]
  simp [after]

theorem foldl_calls {calls : List Call} {datas : List Bytes}
    (hdatas : datas.map unpack = calls.map fun call => some call.toObj)
    (fits : ∀ call ∈ upToQuit calls, call.Fits env.machine) {s : ThreadState W}
    (written : Written env s.world (upToQuit calls)) (hs : s.status = .looping) :
    (requestTurns datas).foldl (serveTurn env unpack) s =
      { world := (upToQuit calls).foldl (after env) s.world
        io := s.io ++ (List.zipWith exchange datas (answers env s.world (upToQuit calls))).flatten
        status := if quit ∈ calls then .terminated else .looping } := by
  induction calls generalizing datas s with
  | nil =>
    obtain rfl : datas = [] := by simpa using hdatas
    simp [requestTurns, upToQuit, answers, Run.visits, ← hs]
  | cons call rest ih =>
    obtain ⟨data, datas, rfl⟩ : ∃ data later, datas = data :: later := by
      cases datas with
      | nil => simp at hdatas
      | cons data later => exact ⟨data, later, rfl⟩
    obtain ⟨hdata, hlater⟩ : unpack data = some call.toObj ∧
        datas.map unpack = rest.map fun call => some call.toObj := by simpa using hdatas
    have first : call ∈ upToQuit (call :: rest) := by
      unfold upToQuit
      split <;> simp
    have firstWritten : ¬call.Unwritten env s.world := by
      unfold upToQuit at written
      split at written <;> exact (written_cons.mp written).1
    rw [requestTurns_cons, List.foldl_cons,
      serveTurn_call hs hdata (fits call first) firstWritten]
    by_cases hq : call = quit
    · have all : upToQuit (call :: rest) = [call] := if_pos hq
      subst hq
      rw [all, foldl_stopped (by simp)]
      simp [answers, Run.visits, after]
    · have all : upToQuit (call :: rest) = call :: upToQuit rest := if_neg hq
      rw [all] at written
      have later := ih hlater (fun c hc => fits c (by simp [all, hc]))
        (s := ⟨after env s.world call, s.io ++ exchange data (call.perform env s.world).1,
          .looping⟩) (written_cons.mp written).2 rfl
      rw [if_neg hq, later]
      simp [all, answers_cons, Ne.symm hq]

theorem upToQuit_eq_self {calls : List Call} (h : quit ∉ calls) : upToQuit calls = calls := by
  induction calls with
  | nil => rfl
  | cons call rest ih =>
    rw [List.mem_cons, not_or] at h
    rw [upToQuit, if_neg (Ne.symm h.1), ih h.2]

/-- A call that comes after others is answered on the debugger they left. -/
theorem serve_then_call {calls : List Call} {datas : List Bytes}
    (hdatas : datas.map unpack = calls.map fun call => some call.toObj)
    (fits : ∀ call ∈ calls, call.Fits env.machine) (hquit : quit ∉ calls) {data : Bytes}
    {call : Call} (hdata : unpack data = some call.toObj) (hfits : call.Fits env.machine) {w : W}
    (written : Written env w calls)
    (hwritten : ¬call.Unwritten env (calls.foldl (after env) w)) :
    (serve env unpack (requestTurns (datas ++ [data])) w).io =
      (serve env unpack (requestTurns datas) w).io ++
        exchange data (call.perform env (calls.foldl (after env) w)).1 := by
  have all : upToQuit calls = calls := upToQuit_eq_self hquit
  have run := foldl_calls (s := { world := w }) hdatas (by rwa [all]) (by rwa [all]) rfl
  rw [all, if_neg hquit] at run
  have turns : requestTurns (datas ++ [data]) = requestTurns datas ++ [.request data true] := by
    simp [requestTurns]
  have world : (serve env unpack (requestTurns datas) w).world = calls.foldl (after env) w := by
    rw [serve, run]
  have served := serveTurn_call (s := serve env unpack (requestTurns datas) w)
    (by rw [serve, run]) hdata hfits (by rwa [world])
  rw [world] at served
  rw [turns, serve, List.foldl_append]
  exact congrArg ThreadState.io served

end Call

/-- A client that sends its calls as requests has each of them performed once, in order, on the
debugger that the earlier ones left, and gets each answer before the next call is received, up to
a call to quit, which is the last; as long as the arguments fit and the bridge writes every list
that is asked for. -/
theorem calls_answered (env : Env W) (unpack : Bytes → Option Obj) (calls : List Call)
    (datas : List Bytes) (hdatas : datas.map unpack = calls.map fun call => some call.toObj)
    (fits : ∀ call ∈ Call.upToQuit calls, call.Fits env.machine) (w : W)
    (written : Call.Written env w (Call.upToQuit calls)) :
    serve env unpack (requestTurns datas) w =
      { world := (Call.upToQuit calls).foldl (Call.after env) w
        io := (List.zipWith exchange datas
          (Call.answers env w (Call.upToQuit calls))).flatten
        status := if Call.quit ∈ calls then .terminated else .looping } := by
  have run := Call.foldl_calls hdatas fits (s := { world := w }) written rfl
  simpa [serve] using run

/-- The msgpack form of a string of fewer than 32 bytes. -/
def fixStr (s : Bytes) : Bytes := (0xa0 ||| UInt8.ofNat s.length) :: s

/-- The msgpack form of a request of fewer than 16 short strings. -/
def textRequest (c : Command) (args : List Bytes) : Bytes :=
  (0x90 ||| UInt8.ofNat (args.length + 1)) :: (fixStr c.name ++ args.flatMap fixStr)

/-- The decoding of some such requests. -/
def unpackTexts (requests : List (Command × List Bytes)) (data : Bytes) : Option Obj :=
  (requests.find? fun r => textRequest r.1 r.2 == data).map fun r => request r.1 (r.2.map .str)

/-- Requests whose msgpack forms differ are told apart. -/
theorem unpackTexts_textRequest {requests : List (Command × List Bytes)}
    (apart : ∀ r ∈ requests, ∀ r' ∈ requests,
      textRequest r.1 r.2 = textRequest r'.1 r'.2 → r = r')
    {c : Command} {args : List Bytes} (known : (c, args) ∈ requests) :
    unpackTexts requests (textRequest c args) = some (request c (args.map .str)) := by
  unfold unpackTexts
  cases found : requests.find? fun r => textRequest r.1 r.2 == textRequest c args with
  | none =>
    have missed := List.find?_eq_none.mp found (c, args) known
    exact absurd (beq_self_eq_true _) missed
  | some r =>
    have same := List.find?_some found
    obtain rfl := apart r (List.mem_of_find?_eq_some found) (c, args) known (eq_of_beq same)
    rfl

theorem bitness_answered_before_quit :
    let env := Env.idle (.native .x64) fun _ => none
    let unpack := unpackTexts [(.dbgGetBitness, []), (.quit, [])]
    serve env unpack (requestTurns [textRequest .dbgGetBitness [], textRequest .quit []]) () =
      { world := ()
        io := exchange (textRequest .dbgGetBitness []) (.positiveInteger 64) ++
          exchange (textRequest .quit []) (.str (bytes "OK_QUITTING"))
        status := .terminated } := by
  intro env unpack
  refine calls_answered env unpack [.dbgGetBitness, .quit] _ rfl (by decide) () ?_
  have all : Call.upToQuit [.dbgGetBitness, .quit] = [.dbgGetBitness, .quit] := by decide
  rw [all]
  exact Call.written_cons.mpr ⟨id, Call.written_cons.mpr ⟨id, by simp [Call.Written, Run.visits]⟩⟩

end XAuto
