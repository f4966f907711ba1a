import XAuto.DispatchSpecs

namespace XAuto

open Handler Effect

variable {W : Type}

section Faults

variable {env : Env W} {root : Obj}

theorem dbgMemmap_faults {s : HandlerState W} (h : (env.bridge.dbgMemMap s.world).1 = none) :
    wp (dbgMemmap (env.withUnset .faulting)) (fun _ _ => False) (fun e _ => e = .accessViolation)
      s := by
  have turns : RawMemMap.turns env.machine.bitness Unset.faulting.mm = 1 := by
    cases env.machine.bitness <;> rfl
  have unwritten : ((env.withUnset .faulting).bridge.dbgMemMap s.world).1 = none := h
  unfold dbgMemmap
  rw [wp_bind, wp_call, unwritten]
  show wp (strayPages _ _ (RawMemMap.turns env.machine.bitness Unset.faulting.mm) 0 >>= _) _ _ _
  rw [turns]
  rfl

theorem getBreakpoints_faults {s : HandlerState W}
    (h : Command.getBreakpoints.Unwritten env root s.world) :
    wp (getBreakpoints (env.withUnset .faulting) root) (fun _ _ => False)
      (fun e _ => e ≠ .zmqError) s := by
  obtain ⟨bpType, h1, unwritten⟩ := h
  have long : ¬root.elems.length < 2 := by
    have := (List.getElem?_eq_some_iff.mp h1).1
    omega
  unfold getBreakpoints
  simp only [wp_bind, badArgs, long, if_false, wrongType, wp_element h1, Obj.type, ne_eq, not_true,
    wp_pure, Bool.false_eq_true, wp_sizeArg (Env.arg_of_elem h1)]
  split
  · have unwritten : ((env.withUnset .faulting).bridge.dbgGetBpList bpType.toUInt32 s.world).1 =
        none := unwritten
    simp only [wp_call, HandlerState.note_world, unwritten, wp_bind, wp_freeStray]
    exact Exn.noConfusion
  · exact Exn.noConfusion

/-- A list that was left unwritten can end a request by a fault. -/
theorem dispatch_faults {w : W} (h : root.Unwritten env w) :
    wp (dispatchCmd (env.withUnset .faulting) root) (fun _ _ => False) (fun e _ => e ≠ .zmqError)
      { world := w } := by
  obtain ⟨c, hcmd, h⟩ := h
  rw [wp_dispatchCmd_command hcmd]
  cases c with
  | dbgMemmap =>
    exact wp_mono (dbgMemmap_faults (s := begun w) h) (fun _ _ h => h) fun e _ he => by simp [he]
  | getBreakpoints => exact getBreakpoints_faults (s := begun w) h
  | _ => exact h.elim

end Faults

theorem dispatch_throws_of_misfit {env : Env W} {root : Obj} (hb : root.InBounds)
    (hf : ¬root.RequestFits env.machine) (w : W) :
    ∃ e s', dispatchCmd env root { world := w } = .error e s' := by
  have hrun : wp (dispatchCmd env root) (fun _ _ => False) (fun _ _ => True) { world := w } :=
    wp_mono (dispatchCmd_spec (Or.inl hb) w) (fun _ _ h => hf h.fits) fun _ _ _ => trivial
  obtain ⟨e, s', hd, -⟩ := hrun.throws
  exact ⟨e, s', hd⟩

/-- A request that is read within its bounds is answered without an exception, whatever is in
memory that was not written, exactly when the process can represent and hold every value it
converts and the bridge writes the list it asks for. -/
theorem dispatch_returns_iff_fits (env : Env W) (root : Obj) (hb : root.InBounds) (w : W) :
    (∀ u, ∃ res s', dispatchCmd (env.withUnset u) root { world := w } = .ok res s' ∧
      (¬root.RequestFits env.machine → ∃ r ∈ s'.response, r.IsError)) ↔
    root.RequestFits env.machine ∧ ¬root.Unwritten env w := by
  constructor
  · intro returns
    obtain ⟨res, s', hd, -⟩ := returns .faulting
    refine ⟨((dispatchCmd_spec (Or.inl hb) w).ok hd).fits, fun unwritten => ?_⟩
    exact (dispatch_faults unwritten).ok hd
  · rintro ⟨hf, written⟩ u
    cases hd : dispatchCmd (env.withUnset u) root { world := w } with
    | ok res s' => exact ⟨res, s', rfl, fun h => absurd hf h⟩
    | error e s' => exact absurd (((dispatchCmd_spec (Or.inl hb) w).error hd).misfit hf) written

/-- An address above 4 GiB, for the 32-bit build. -/
def farPointerCheck : Obj :=
  .array [.str Command.dbgIsValidReadPtr.name, .positiveInteger 0x100000000]

/-- A read that no vector of the 64-bit build can hold. -/
def hugeMemoryRead : Obj :=
  .array [.str Command.dbgReadMemory.name, .positiveInteger 0, .positiveInteger 0x8000000000000000]

theorem far_pointer_check_in_bounds : farPointerCheck.InBounds :=
  inBounds_iff.mpr fun h => absurd h.2.1 (by decide)

theorem far_pointer_check_not_fits : ¬farPointerCheck.RequestFits (.native .x86) := by
  intro h
  have hargs := h.2 .dbgIsValidReadPtr (by decide) (by decide)
  exact absurd hargs (by decide)

theorem huge_memory_read_in_bounds : hugeMemoryRead.InBounds :=
  inBounds_iff.mpr fun h => absurd h.2.1 (by decide)

theorem huge_memory_read_not_fits : ¬hugeMemoryRead.RequestFits (.native .x64) := by
  intro h
  have hsize := (h.2 .dbgReadMemory (by decide) (by decide)).2 _ rfl _ rfl
  exact absurd hsize (by decide)

theorem huge_memory_read_returns_iff_fits :
    let env := Env.idle (.native .x64) fun _ => none
    (∀ u, ∃ res s', dispatchCmd (env.withUnset u) hugeMemoryRead { world := () } = .ok res s' ∧
      (¬hugeMemoryRead.RequestFits env.machine → ∃ r ∈ s'.response, r.IsError)) ↔
    hugeMemoryRead.RequestFits env.machine ∧ ¬hugeMemoryRead.Unwritten env () :=
  dispatch_returns_iff_fits _ hugeMemoryRead huge_memory_read_in_bounds ()

theorem unrepresentable_argument_throws :
    (farPointerCheck.InBounds ∧ ∃ e s', dispatchCmd (.idle (.native .x86) fun _ => none)
      farPointerCheck { world := () } = .error e s') ∧
    (hugeMemoryRead.InBounds ∧ ∃ e s', dispatchCmd (.idle (.native .x64) fun _ => none)
      hugeMemoryRead { world := () } = .error e s') := by
  constructor
  · have hb : farPointerCheck.InBounds := far_pointer_check_in_bounds
    exact ⟨hb, dispatch_throws_of_misfit hb far_pointer_check_not_fits ()⟩
  · have hb : hugeMemoryRead.InBounds := huge_memory_read_in_bounds
    exact ⟨hb, dispatch_throws_of_misfit hb huge_memory_read_not_fits ()⟩

end XAuto
