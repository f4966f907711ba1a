import XAuto.Server

namespace XAuto

open Handler Effect

variable {W : Type} {env : Env W} {root : Obj}

/-- The answer to a request that packed nothing. -/
def HandlerState.finish (s : HandlerState W) : HandlerState W :=
  if s.response.isEmpty then
    s.pack (.errorResponse "XERROR_UNK" "Could not understand input")
  else s

theorem wp_replyTo {Q : DispatchResult → HandlerState W → Prop} {E : Exn → HandlerState W → Prop}
    {s : HandlerState W} :
    wp (replyTo env root) Q E s ↔ wp (dispatchCmd env root) (fun res t => Q res t.finish) E s := by
  unfold replyTo HandlerState.finish
  simp only [wp_bind, wp_get, wp_ite, wp_pack, wp_pure, apply_ite]

/-- What the handler of a command leaves, and no packed object touches, is left by the whole
reply. -/
theorem final_replyTo {c : Command} {P : HandlerState W → Prop} {w : W}
    (hcmd : root.command = some c) (hpack : ∀ s o, P s → P (s.pack o))
    (h : wp (handler env root c) (fun _ => P) (fun _ => P) (begun w)) :
    P (final (replyTo env root) { world := w }) := by
  apply wp_final.mp
  rw [wp_replyTo, wp_dispatchCmd_command hcmd]
  refine wp_mono h (fun _ s hs => ?_) fun _ _ h => h
  unfold HandlerState.finish
  split
  · exact hpack s _ hs
  · exact hs

/-- A request headed by `XAUTO_REQ_QUIT`. -/
def Obj.Quits (root : Obj) : Prop := ∃ args, root = .array (.str (bytes "XAUTO_REQ_QUIT") :: args)

theorem quits_iff : root.Quits ↔ root.command = some .quit := by
  constructor
  · rintro ⟨args, rfl⟩
    exact Command.ofName_eq_some.mpr rfl
  · intro h
    exact eq_array_of_command h

structure Replied (root : Obj) (res : DispatchResult) (s' : HandlerState W) : Prop where
  one : ∃ r, s'.response = [r] ∧ (r.IsError ↔
    ¬root.Recognised ∨ root.Refused ∨ ∃ e ∈ s'.trace, e.memFailure = true)
  exit : res = .exit ↔ root.Quits

theorem replyTo_spec (hread : root.InBounds ∨ env.MissingFails) (w : W) :
    wp (replyTo env root) (fun res s' => Replied root res s' ∧ root.RequestFits env.machine)
      (fun e _ => (root.RequestFits env.machine → root.Unwritten env w) ∧ e ≠ .zmqError)
      { world := w } := by
  rw [wp_replyTo]
  refine wp_mono (dispatchCmd_spec hread w) (fun res s' h => ?_)
    fun e s' h => ⟨h.misfit, h.uncaught⟩
  unfold HandlerState.finish
  have exit : res = .exit ↔ root.Quits := h.exit.trans quits_iff.symm
  rcases h.reply with ⟨hrec, hr⟩ | ⟨hrec, r, hr, herr⟩
  · rw [if_pos (by simp [hr])]
    refine ⟨⟨⟨_, by rw [HandlerState.pack_response, hr, List.nil_append], ?_⟩, exit⟩, h.fits⟩
    exact iff_of_true (errorResponse_isError (by decide)) (Or.inl hrec)
  · rw [if_neg (by simp [hr])]
    exact ⟨⟨⟨r, hr, by simpa [hrec] using herr⟩, exit⟩, h.fits⟩

theorem replyTo_of_dispatch {w : W} {res : DispatchResult} {t : HandlerState W}
    (h : dispatchCmd env root { world := w } = .ok res t) :
    replyTo env root { world := w } = .ok res t.finish := by
  have run : wp (replyTo env root) (fun r u => r = res ∧ u = t.finish) (fun _ _ => False)
      { world := w } := wp_replyTo.mpr (wp_of_ok h ⟨rfl, rfl⟩)
  obtain ⟨r, u, hrun⟩ := run.returns
  obtain ⟨rfl, rfl⟩ := run.ok hrun
  exact hrun

/-- When the dispatch of a request returns, the loop sends one reply, an error exactly when the
request was not understood, was refused or met a memory access that failed; and it stops exactly
after a request to quit. -/
theorem one_reply_per_request (env : Env W) (hmissing : env.MissingFails)
    (unpack : Bytes → Option Obj) (data : Bytes) (root : Obj) (hroot : unpack data = some root)
    (s : ThreadState W) (looping : s.status = .looping) (res : DispatchResult)
    (t : HandlerState W) (hdispatch : dispatchCmd env root { world := s.world } = .ok res t) :
    ∃ s' r, replyTo env root { world := s.world } = .ok res s' ∧ s'.response = [r] ∧
      (r.IsError ↔
        ¬root.Recognised ∨ root.Refused ∨ ∃ e ∈ s'.trace, e.memFailure = true) ∧
      (res = .exit ↔ root.Quits) ∧
      let after := serveTurn env unpack s (.request data true)
      after.io = s.io ++ [.received data, .replied [r]] ∧
        (after.status = .terminated ↔ root.Quits) ∧ (after.status = .looping ↔ ¬root.Quits) := by
  have hreply := replyTo_of_dispatch hdispatch
  obtain ⟨⟨r, one, error⟩, exit⟩ := ((replyTo_spec (Or.inr hmissing) s.world).ok hreply).1
  have turn : serveTurn env unpack s (.request data true) =
      { world := t.finish.world, io := s.io ++ [.received data, .replied [r]]
        status := if res = .exit then .terminated else .looping } := by
    simp [serveTurn, looping, hroot, hreply, one]
  refine ⟨t.finish, r, hreply, one, error, exit, ?_⟩
  rw [turn]
  refine ⟨rfl, ?_, ?_⟩
  · rw [← exit]
    by_cases h : res = .exit <;> simp [h]
  · rw [← exit]
    by_cases h : res = .exit <;> simp [h]

theorem idle_missing_fails (m : Machine) :
    (Env.idle (W := W) m fun _ => some .nil).MissingFails := by
  intro i
  refine ⟨.nil, rfl, fun c p hp => ?_⟩
  cases c <;> revert p <;> decide

def memoryRead : Obj :=
  .array [.str Command.dbgReadMemory.name, .positiveInteger 0x401000, .positiveInteger 4]

/-- The decoding of one message. -/
def unpackOnly (data : Bytes) (root : Obj) (d : Bytes) : Option Obj :=
  if d = data then some root else none

theorem one_reply_to_memory_read :
    let env := Env.idle (.native .x64) fun _ => some .nil
    let thread : ThreadState Unit := { world := () }
    ∃ res s' r, replyTo env memoryRead { world := () } = .ok res s' ∧ s'.response = [r] ∧
      (r.IsError ↔
        ¬memoryRead.Recognised ∨ memoryRead.Refused ∨ ∃ e ∈ s'.trace, e.memFailure = true) ∧
      (res = .exit ↔ memoryRead.Quits) ∧
      let after := serveTurn env (unpackOnly [0x01] memoryRead) thread (.request [0x01] true)
      after.io = thread.io ++ [.received [0x01], .replied [r]] ∧
        (after.status = .terminated ↔ memoryRead.Quits) ∧
        (after.status = .looping ↔ ¬memoryRead.Quits) := by
  intro env thread
  exact ⟨_, one_reply_per_request env (idle_missing_fails (.native .x64))
    (unpackOnly [0x01] memoryRead) [0x01] memoryRead rfl thread rfl _ _ rfl⟩

end XAuto
