import XAuto.CallSpecs
import XAuto.ArgumentReads
import XAuto.ArgumentValues

namespace XAuto

open Handler Effect

variable {W : Type} {unpack : Bytes → Option Obj}

section Requests

variable (unpack)

def IsQuit (data : Bytes) : Prop := (unpack data).bind Obj.command = some .quit

instance : DecidablePred (IsQuit unpack) := fun _ => inferInstanceAs (Decidable (_ = _))

/-- The requests up to and including the first request to quit. -/
def upToQuit : List Bytes → List Bytes
  | [] => []
  | data :: rest => if IsQuit unpack data then [data] else data :: upToQuit rest

/-- A request that is read within its bounds, has only values that fit, and asks for no list that
the bridge leaves unwritten. -/
structure Obj.Servable (env : Env W) (w : W) (root : Obj) : Prop where
  bounds : root.InBounds
  fits : root.RequestFits env.machine
  written : ¬root.Unwritten env w

/-- The debugger after a request. -/
def advance (env : Env W) (w : W) (root : Obj) : W := (root.outcome env w).2

/-- Every request up to the first one to quit decodes and can be served in the state that the
earlier ones leave. -/
def ServableFrom (env : Env W) : W → List Bytes → Prop
  | _, [] => True
  | w, data :: rest => ∃ root, unpack data = some root ∧ root.Servable env w ∧
      (Call.ofObj root ≠ some .quit → ServableFrom env (advance env w root) rest)

def exchange (data : Bytes) (reply : Obj) : List Exchange := [.received data, .replied [reply]]

/-- Each request is answered with one object before the next one is received, the loop goes on
until a request to quit, and then it ends. -/
def Serves (requests : List Bytes) (s : ThreadState W) : Prop :=
  s.status = (if ∃ data ∈ requests, IsQuit unpack data then .terminated else .looping) ∧
  ∃ replies : List Obj, replies.length = (upToQuit unpack requests).length ∧
    s.io = (List.zipWith exchange (upToQuit unpack requests) replies).flatten

end Requests

section Turns

variable {env : Env W} {s : ThreadState W} {data : Bytes}

theorem serveTurn_stopped (h : s.status ≠ .looping) (turn : Turn) :
    serveTurn env unpack s turn = s := if_pos h

theorem foldl_stopped (h : s.status ≠ .looping) (turns : List Turn) :
    turns.foldl (serveTurn env unpack) s = s := by
  induction turns with
  | nil => rfl
  | cons turn turns ih => rw [List.foldl_cons, serveTurn_stopped h, ih]

/-- A turn of the loop that serves a request to its end. -/
theorem serveTurn_outcome {root : Obj} (hs : s.status = .looping) (hroot : unpack data = some root)
    (hread : root.InBounds ∨ env.MissingFails) (fits : root.RequestFits env.machine)
    (written : ¬root.Unwritten env s.world) :
    serveTurn env unpack s (.request data true) =
      { world := advance env s.world root
        io := s.io ++ exchange data (root.outcome env s.world).1
        status := if Call.ofObj root = some .quit then .terminated else .looping } := by
  obtain ⟨res, s', hrun, served⟩ := replyTo_served hread fits written
  simp [serveTurn, hs, hroot, hrun, served.reply, served.world, served.exit, exchange, advance]

/-- Nothing catches what serving an object throws, where every access to memory that was not
written faults. -/
theorem replyTo_throws {root : Obj} {w : W} (h : ¬root.Servable env w) :
    ∃ e s', replyTo (env.withUnset .faulting) root { world := w } = .error e s' ∧
      e ≠ .zmqError := by
  have hrun : wp (replyTo (env.withUnset .faulting) root) (fun _ _ => False)
      (fun e _ => e ≠ .zmqError) { world := w } := by
    by_cases hb : root.InBounds
    · by_cases written : root.Unwritten env w
      · rw [wp_replyTo]
        exact dispatch_faults written
      · have hf : ¬root.RequestFits env.machine := fun hf => h ⟨hb, hf, written⟩
        exact wp_mono (replyTo_spec (Or.inl hb) w) (fun _ _ hr => hf hr.2) fun _ _ hr => hr.2
    · -- the check of a setting writer faults on the element it looks at
      have hshort : root.ShortSettingWrite := not_not.mp (mt inBounds_iff.mpr hb)
      have faulting : (env.withUnset .faulting).past 3 = none := rfl
      have hfault := (short_setting_write_looks_past_end hshort w).faults hshort.1.le faulting
      rw [wp_replyTo]
      exact wp_mono hfault (fun _ _ hr => hr.elim) fun e _ he => by simp [he]
  exact hrun.throws

theorem serveTurn_unservable (hs : s.status = .looping)
    (h : ∀ root, unpack data = some root → ¬root.Servable env s.world) :
    ∃ e, (serveTurn (env.withUnset .faulting) unpack s (.request data true)).status =
      .escaped e := by
  cases hroot : unpack data with
  | none => exact ⟨.msgpackError, by simp [serveTurn, hs, hroot]⟩
  | some root =>
    obtain ⟨e, s', hr, he⟩ := replyTo_throws (h root hroot)
    exact ⟨e, by simp [serveTurn, hs, hroot, hr, ThreadStatus.thrown, he]⟩

end Turns

section Runs

variable {env : Env W}

def requestTurns (requests : List Bytes) : List Turn := requests.map (.request · true)

@[simp] theorem requestTurns_nil : requestTurns [] = [] := rfl

@[simp] theorem requestTurns_cons (data : Bytes) (rest : List Bytes) :
    requestTurns (data :: rest) = .request data true :: requestTurns rest := rfl

theorem isQuit_iff {data : Bytes} {root : Obj} (hroot : unpack data = some root) :
    IsQuit unpack data ↔ Call.ofObj root = some .quit := by
  rw [ofObj_eq_quit_iff, IsQuit, hroot]
  rfl

theorem foldl_servable {requests : List Bytes} {s : ThreadState W} (hs : s.status = .looping)
    (h : ServableFrom unpack env s.world requests) :
    let s' := (requestTurns requests).foldl (serveTurn env unpack) s
    s'.status = (if ∃ data ∈ requests, IsQuit unpack data then .terminated else .looping) ∧
    ∃ replies : List Obj, replies.length = (upToQuit unpack requests).length ∧
      s'.io = s.io ++ (List.zipWith exchange (upToQuit unpack requests) replies).flatten := by
  induction requests generalizing s with
  | nil => exact ⟨by simpa using hs, [], rfl, by simp [upToQuit]⟩
  | cons data rest ih =>
    obtain ⟨root, hroot, servable, later⟩ := h
    have hquit := isQuit_iff hroot
    have hturn := serveTurn_outcome hs hroot (Or.inl servable.bounds) servable.fits
      servable.written
    let r := (root.outcome env s.world).1
    simp only [requestTurns_cons, List.foldl_cons, hturn]
    by_cases hq : Call.ofObj root = some .quit
    · have hdata := hquit.mpr hq
      rw [if_pos hq, foldl_stopped (by simp)]
      exact ⟨by simp [hdata], [r], by simp [upToQuit, hdata], by simp [upToQuit, hdata, r]⟩
    · have hdata := mt hquit.mp hq
      have hup : upToQuit unpack (data :: rest) = data :: upToQuit unpack rest := if_neg hdata
      rw [if_neg hq]
      obtain ⟨hstatus, replies, hlen, hio⟩ :=
        ih (s := ⟨advance env s.world root, s.io ++ exchange data r, .looping⟩) rfl (later hq)
      refine ⟨by simpa [hdata] using hstatus, r :: replies, by simp [hup, hlen], ?_⟩
      simpa [hup] using hio

theorem foldl_unservable {requests : List Bytes} {s : ThreadState W} (hs : s.status = .looping)
    (h : ¬ServableFrom unpack env s.world requests) :
    ∃ e, ((requestTurns requests).foldl (serveTurn (env.withUnset .faulting) unpack) s).status =
      .escaped e := by
  induction requests generalizing s with
  | nil => exact absurd trivial h
  | cons data rest ih =>
    simp only [requestTurns_cons, List.foldl_cons]
    by_cases hd : ∃ root, unpack data = some root ∧ root.Servable env s.world
    · obtain ⟨root, hroot, servable⟩ := hd
      have fits : root.RequestFits (env.withUnset .faulting).machine := servable.fits
      have written : ¬root.Unwritten (env.withUnset .faulting) s.world := servable.written
      have hturn := serveTurn_outcome hs hroot (Or.inl servable.bounds) fits written
      have hq : Call.ofObj root ≠ some .quit := fun hq =>
        h ⟨root, hroot, servable, fun going => absurd hq going⟩
      rw [hturn, if_neg hq]
      refine ih rfl fun hrest => h ⟨root, hroot, servable, fun _ => ?_⟩
      rwa [advance, outcome_withUnset] at hrest
    · obtain ⟨e, he⟩ := serveTurn_unservable hs fun root hroot servable =>
        hd ⟨root, hroot, servable⟩
      exact ⟨e, by rw [foldl_stopped (by simp [he]), he]⟩

theorem servableFrom_withUnset (u : Unset) {requests : List Bytes} {w : W}
    (h : ServableFrom unpack env w requests) :
    ServableFrom unpack (env.withUnset u) w requests := by
  induction requests generalizing w with
  | nil => trivial
  | cons data rest ih =>
    obtain ⟨root, hroot, servable, later⟩ := h
    refine ⟨root, hroot, ⟨servable.bounds, servable.fits, servable.written⟩, fun hq => ?_⟩
    rw [advance, outcome_withUnset]
    exact ih (later hq)

end Runs

/-- Whatever is in memory that was not written, the thread serves the requests exactly when every
one of them up to the first request to quit can be served. -/
theorem thread_serves_iff (env : Env W) (unpack : Bytes → Option Obj) (requests : List Bytes)
    (w : W) :
    (∀ u, Serves unpack requests (serve (env.withUnset u) unpack (requestTurns requests) w)) ↔
      ServableFrom unpack env w requests := by
  constructor
  · intro h
    by_contra hun
    obtain ⟨e, he⟩ := foldl_unservable (s := { world := w }) rfl hun
    have hstatus := (h .faulting).1
    rw [serve, he] at hstatus
    split at hstatus <;> simp at hstatus
  · intro h u
    have served := foldl_servable (s := { world := w }) rfl (servableFrom_withUnset u h)
    simpa [Serves, serve] using served

/-- The decoding of the one-byte message `nil`; `msgpack::unpack` throws on an empty one. -/
def unpackNil (data : Bytes) : Option Obj := if data = [0xc0] then some .nil else none

theorem empty_message_ends_thread :
    ¬Serves unpackNil [[0xc0], []] (serve (.idle (.native .x64) fun _ => none) unpackNil
      (requestTurns [[0xc0], []]) ()) := by
  intro h
  exact absurd h.1 (by decide)

end XAuto
