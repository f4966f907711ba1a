import XAuto.DispatchSpecs

namespace XAuto

open Handler Effect

variable {W : Type} {env : Env W} {root : Obj}

section Traced

variable {e : Event}

def Traced (e : Event) (s : HandlerState W) : Prop := e ∈ s.trace

theorem traced_note (e : Event) (s : HandlerState W) : Traced e (s.note e) := by simp [Traced]

theorem traced_stable (d : Event) (s : HandlerState W) (h : Traced e s) : Traced e (s.note d) :=
  List.mem_append_left _ h

theorem traced_element (s : HandlerState W) (i : Nat) (h : Traced e s) :
    Traced e (s.note (.element i)) := traced_stable _ s h

theorem keeps_pack (o : Obj) : Keeps (Traced (W := W) e) (pack o) := fun _ h => h

theorem keeps_call {α : Type} (f : W → α × W) : Keeps (Traced e) (call f) := fun _ h => h

theorem element_traced (i : Nat) (s : HandlerState W) :
    wp (element env root i) (fun _ => Traced (.element i)) (fun _ => Traced (.element i)) s := by
  unfold element
  rw [wp_bind, wp_note]
  split
  · exact traced_note _ _
  · split <;> exact traced_note _ _

end Traced

section Third

variable {α β : Type}

/-- The run comes to look at the third argument, and keeps what it traced from there on. -/
def LooksAtThird (env : Env W) (root : Obj) (m : Handler W α) (s : HandlerState W) : Prop :=
  ∃ t rest, (∀ e o, Keeps (Traced e) (rest o)) ∧
    ∀ Q E, wp m Q E s ↔ wp (element env root 3 >>= rest) Q E t

theorem LooksAtThird.bind {m : Handler W α} {f : α → Handler W β} {s : HandlerState W}
    (h : LooksAtThird env root m s) (hf : ∀ e a, Keeps (Traced e) (f a)) :
    LooksAtThird env root (m >>= f) s := by
  obtain ⟨t, rest, hrest, hm⟩ := h
  refine ⟨t, fun o => rest o >>= f, fun e o => (hrest e o).bind (hf e), fun Q E => ?_⟩
  rw [wp_bind, hm]
  simp only [wp_bind]

theorem LooksAtThird.traced {m : Handler W α} {s : HandlerState W}
    (h : LooksAtThird env root m s) : .element 3 ∈ (final m s).trace := by
  obtain ⟨t, rest, hrest, hm⟩ := h
  have hrun : wp m (fun _ => Traced (.element 3)) (fun _ => Traced (.element 3)) s := by
    rw [hm, wp_bind]
    exact wp_mono (element_traced 3 t) (fun o => hrest _ o) fun _ _ h => h
  exact wp_final.mp hrun

theorem LooksAtThird.faults {m : Handler W α} {s : HandlerState W}
    (h : LooksAtThird env root m s) (hl : root.elems.length ≤ 3) (hp : env.past 3 = none) :
    wp m (fun _ _ => False) (fun e _ => e = .accessViolation) s := by
  obtain ⟨t, rest, -, hm⟩ := h
  have harg : env.arg root 3 = none := (Env.arg_of_missing hl).trans hp
  rw [hm, wp_bind, wp_element_fault harg]

theorem badArgs_looks_at_third {ty : ObjType} {s : HandlerState W} (hl : 3 ≤ root.elems.length)
    (h : HasArgs root [(1, .str), (2, .str)]) :
    LooksAtThird env root (badArgs env root 3 [(1, .str), (2, .str), (3, ty)]) s := by
  obtain ⟨sec, h1⟩ := h.str (i := 1) (by decide)
  obtain ⟨settingName, h2⟩ := h.str (i := 2) (by decide)
  refine ⟨(s.note (.element 1)).note (.element 2),
    fun o => if o.type ≠ ty then pure true else pure false,
    fun e o => .ite (.pure _) (.pure _), fun Q E => ?_⟩
  simp only [badArgs, wrongType, not_lt.mpr hl, if_false, wp_bind, wp_element h1, wp_element h2,
    Obj.type, ne_eq, not_true]

theorem setting_write_looks_at_third {c : Command}
    (hc : c = .dbgWriteSettingSz ∨ c = .dbgWriteSettingUint) (hl : 3 ≤ root.elems.length)
    (h : HasArgs root [(1, .str), (2, .str)]) (s : HandlerState W) :
    LooksAtThird env root (handler env root c) s := by
  rcases hc with rfl | rfl
  · refine (badArgs_looks_at_third hl h).bind fun e b => .ite (keeps_pack _) ?_
    refine (keeps_bytesArg traced_element 1).bind fun _ => ?_
    refine (keeps_bytesArg traced_element 2).bind fun _ => ?_
    refine (keeps_bytesArg traced_element 3).bind fun _ => ?_
    exact (keeps_note (traced_stable _)).bind fun _ => (keeps_call _).bind fun _ => keeps_pack _
  · refine (badArgs_looks_at_third hl h).bind fun e b => .ite (keeps_pack _) ?_
    refine (keeps_bytesArg traced_element 1).bind fun _ => ?_
    refine (keeps_bytesArg traced_element 2).bind fun _ => ?_
    refine (keeps_sizeArg traced_element 3).bind fun _ => ?_
    exact (keeps_note (traced_stable _)).bind fun _ => (keeps_call _).bind fun _ => keeps_pack _

theorem short_setting_write_looks_past_end (h : root.ShortSettingWrite) (w : W) :
    LooksAtThird env root (dispatchCmd env root) { world := w } := by
  obtain ⟨hl, ha, hcmd⟩ := h
  obtain ⟨c, hc, hw⟩ : ∃ c, root.command = some c ∧
      (c = .dbgWriteSettingSz ∨ c = .dbgWriteSettingUint) := by
    rcases hcmd with hcmd | hcmd
    · exact ⟨_, hcmd, Or.inl rfl⟩
    · exact ⟨_, hcmd, Or.inr rfl⟩
  obtain ⟨t, rest, hrest, hm⟩ := (setting_write_looks_at_third hw hl.ge ha (begun w)).bind
    (f := fun _ => pure (if c = .quit then DispatchResult.exit else .cont)) fun _ _ => .pure _
  refine ⟨t, rest, hrest, fun Q E => ?_⟩
  rw [wp_dispatchCmd_command hc, ← hm, wp_bind]
  simp only [wp_pure]

end Third

/-- Every element a handler looks at is there, and every call that changes the debugger is given
elements of the request, unless the request is a write of a setting without a value. -/
theorem dispatch_reads_request_iff (env : Env W) (root : Obj) (w : W) :
    (∀ e ∈ (final (dispatchCmd env root) { world := w }).trace,
      e.InRange root ∧ e.Passed root) ↔ ¬root.ShortSettingWrite := by
  constructor
  · intro h hshort
    have hr : 3 < root.elems.length := (h _ (short_setting_write_looks_past_end hshort w).traced).1
    have := hshort.1
    omega
  · intro h
    have hb : root.InBounds := inBounds_iff.mpr h
    let good (s : HandlerState W) : Prop := ∀ e ∈ s.trace, e.InRange root ∧ e.Passed root
    have hrun : wp (dispatchCmd env root) (fun _ => good) (fun _ => good) { world := w } :=
      wp_mono (dispatchCmd_spec (Or.inl hb) w)
        (fun _ s' h e he => ⟨h.inRange hb e he, h.passed e he⟩)
        fun _ s' h e he => ⟨h.inRange hb e he, h.passed e he⟩
    exact wp_final.mp hrun

def settingWriteWithoutValue : Obj :=
  .array [.str Command.dbgWriteSettingSz.name, .str (bytes "XAutomate"), .str (bytes "Mode")]

theorem setting_write_without_value_reads_past_end :
    let env := Env.idle (.native .x64) fun _ => some .nil
    ¬∀ e ∈ (final (dispatchCmd env settingWriteWithoutValue) { world := () }).trace,
      e.InRange settingWriteWithoutValue ∧ e.Passed settingWriteWithoutValue := by
  intro env h
  have hshort : settingWriteWithoutValue.ShortSettingWrite := ⟨rfl, by decide, by decide⟩
  have hr : 3 < 3 := (h _ (short_setting_write_looks_past_end hshort ()).traced).1
  omega

end XAuto
