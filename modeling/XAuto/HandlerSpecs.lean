import XAuto.HandlerRules

namespace XAuto

open Handler Effect

variable {W : Type} {env : Env W} {root : Obj}

theorem errorResponse_isError {success errorString : String}
    (h : bytes "XERROR_" <+: bytes success) : (Obj.errorResponse success errorString).IsError :=
  ⟨_, _, rfl, h⟩

/-- An array of more or fewer than two elements, or one that starts with no string. -/
theorem not_isError_of_head {o : Obj} {elems : List Obj} (h : o.type ≠ .str) :
    ¬(Obj.array (o :: elems)).IsError := by
  rintro ⟨a, b, eq, -⟩
  obtain ⟨rfl, -⟩ := List.cons.inj (Obj.array.inj eq)
  exact h rfl

theorem not_isError_of_length {elems : List Obj} (h : elems.length ≠ 2) :
    ¬(Obj.array elems).IsError := by
  rintro ⟨a, b, eq, -⟩
  exact h (by simp [Obj.array.inj eq])

theorem not_isError_of_type {o : Obj} (h : o.type ≠ .array) : ¬o.IsError := by
  rintro ⟨a, b, rfl, -⟩
  exact h rfl

theorem not_isError_boolean (b : Bool) : ¬(Obj.boolean b).IsError :=
  not_isError_of_type (by simp [Obj.type])

theorem not_isError_map {α : Type} {f : α → Obj} (hf : ∀ x, (f x).type ≠ .str) (xs : List α) :
    ¬(Obj.array (xs.map f)).IsError := by
  cases xs with
  | nil => exact not_isError_of_length (by simp)
  | cons x xs => exact not_isError_of_head (hf x)

section Checks

variable {c : Command} {size : Nat} {body : Handler W Unit}

theorem answers_of_error_check {success errorString : String}
    (hlt : ∀ p ∈ c.args, p.1 < size) (hlast : ∃ p ∈ c.args, p.1 + 1 = size)
    (hcode : bytes "XERROR_" <+: bytes success) (hreports : c.reportsBadArgs = true)
    (hbody : HasArgs root c.args → ∀ s, Clean root c s.trace →
      wp body (fun _ s' => Done env root c s s') (fun e s' => Threw env root c s.world e s') s) :
    Answers env root c (badArgs env root size c.args >>= fun b =>
      if b = true then pack (.errorResponse success errorString) else body) := by
  have herr : (Obj.errorResponse success errorString).IsError := errorResponse_isError hcode
  exact answers_of_covering_check hlt hlast (iff_of_true herr hreports) hbody

theorem answers_of_boolean_check
    (hlt : ∀ p ∈ c.args, p.1 < size) (hlast : ∃ p ∈ c.args, p.1 + 1 = size)
    (hquiet : c.reportsBadArgs = false)
    (hbody : HasArgs root c.args → ∀ s, Clean root c s.trace →
      wp body (fun _ s' => Done env root c s s') (fun e s' => Threw env root c s.world e s') s) :
    Answers env root c (badArgs env root size c.args >>= fun b =>
      if b = true then pack (.boolean false) else body) := by
  have hno : ¬c.reportsBadArgs = true := by simp [hquiet]
  exact answers_of_covering_check hlt hlast (iff_of_false (not_isError_boolean false) hno) hbody

end Checks

section Checked

theorem dbgEval_answers : Answers env root .dbgEval (dbgEval env root) := by
  refine answers_of_error_check (c := .dbgEval) (by decide) (by decide) (by decide) rfl ?_
  intro hargs s hc
  rw [wp_bind]
  refine wp_strArg_checked hargs (by decide) hc fun cmd h1 f1 hc => ?_
  simp only [wp_bind, wp_call, wp_pack]
  refine done_of_args hargs hc (fun _ => ?_) rfl (not_isError_of_head (by simp [Obj.type]))
  simp [Command.args, ArgsFit, h1, f1]

theorem dbgCmdExecDirect_answers :
    Answers env root .dbgCmdExecDirect (dbgCmdExecDirect env root) := by
  refine answers_of_error_check (c := .dbgCmdExecDirect) (by decide) (by decide) (by decide) rfl ?_
  intro hargs s hc
  rw [wp_bind]
  refine wp_strArg_checked hargs (by decide) hc fun cmd h1 f1 hc => ?_
  simp only [wp_bind, wp_note, wp_call, wp_pack]
  have hc := hc.event (e := .dbgCmdExecDirect (cstr cmd)) ⟨cmd, h1, rfl⟩ rfl trivial
  refine done_of_args hargs hc (fun _ => ?_) rfl (not_isError_boolean _)
  simp [Command.args, ArgsFit, h1, f1]

theorem dbgReadSettingSz_answers :
    Answers env root .dbgReadSettingSz (dbgReadSettingSz env root) := by
  refine answers_of_error_check (c := .dbgReadSettingSz) (by decide) (by decide) (by decide) rfl ?_
  intro hargs s hc
  rw [wp_bind]
  refine wp_strArg_checked hargs (by decide) hc fun sec h1 f1 hc => ?_
  rw [wp_bind]
  refine wp_strArg_checked hargs (by decide) hc fun settingName h2 f2 hc => ?_
  simp only [wp_bind, wp_bridgeAlloc, wp_call, wp_pack, wp_bridgeFree]
  refine done_of_args hargs ((hc.bridgeAlloc _).bridgeFree _) (fun _ => ?_) rfl
    (not_isError_of_head (by simp [Obj.type]))
  simp [Command.args, ArgsFit, h1, f1, h2, f2]

theorem dbgReadSettingUint_answers :
    Answers env root .dbgReadSettingUint (dbgReadSettingUint env root) := by
  refine answers_of_error_check (c := .dbgReadSettingUint) (by decide) (by decide) (by decide) rfl
    ?_
  intro hargs s hc
  rw [wp_bind]
  refine wp_strArg_checked hargs (by decide) hc fun sec h1 f1 hc => ?_
  rw [wp_bind]
  refine wp_strArg_checked hargs (by decide) hc fun settingName h2 f2 hc => ?_
  simp only [wp_bind, wp_call, wp_pack]
  refine done_of_args hargs hc (fun _ => ?_) rfl (not_isError_of_head (by simp [Obj.type]))
  simp [Command.args, ArgsFit, h1, f1, h2, f2]

theorem dbgIsValidReadPtr_answers :
    Answers env root .dbgIsValidReadPtr (dbgIsValidReadPtr env root) := by
  refine answers_of_boolean_check (c := .dbgIsValidReadPtr) (by decide) (by decide) rfl ?_
  intro hargs s hc
  rw [wp_bind]
  refine wp_sizeArg_checked hargs (by decide) hc fun addr h1 f1 hc => ?_
  simp only [wp_bind, wp_call, wp_pack]
  refine done_of_args hargs hc (fun _ => ?_) rfl (not_isError_boolean _)
  simp [Command.args, ArgsFit, h1, f1]

theorem disassembleAt_answers : Answers env root .disassemble (disassembleAt env root) := by
  refine answers_of_boolean_check (c := .disassemble) (by decide) (by decide) rfl ?_
  intro hargs s hc
  rw [wp_bind]
  refine wp_sizeArg_checked hargs (by decide) hc fun addr h1 f1 hc => ?_
  simp only [wp_bind, wp_call, wp_pack]
  refine done_of_args hargs hc (fun _ => ?_) rfl (not_isError_of_length (by simp))
  simp [Command.args, ArgsFit, h1, f1]

theorem assembleAt_answers : Answers env root .assemble (assembleAt env root) := by
  refine answers_of_boolean_check (c := .assemble) (by decide) (by decide) rfl ?_
  intro hargs s hc
  rw [wp_bind]
  refine wp_sizeArg_checked hargs (by decide) hc fun addr h1 f1 hc => ?_
  rw [wp_bind]
  refine wp_strArg_checked hargs (by decide) hc fun instr h2 f2 hc => ?_
  simp only [wp_bind, wp_note, wp_call, wp_pack]
  have hc := hc.event (e := .dbgAssembleAt addr (cstr instr)) ⟨h1, instr, h2, rfl⟩ rfl trivial
  refine done_of_args hargs hc (fun _ => ?_) rfl (not_isError_boolean _)
  simp [Command.args, ArgsFit, h1, f1, h2, f2]

theorem getBreakpoints_answers : Answers env root .getBreakpoints (getBreakpoints env root) := by
  refine answers_of_boolean_check (c := .getBreakpoints) (by decide) (by decide) rfl ?_
  intro hargs s hc
  rw [wp_bind]
  refine wp_sizeArg_checked hargs (by decide) hc fun bpType h1 f1 hc => ?_
  have hfits : Command.getBreakpoints.Fits env.machine root :=
    fun _ => by simp [Command.args, ArgsFit, h1, f1]
  rw [wp_bind, wp_call]
  cases written : (env.bridge.dbgGetBpList bpType.toUInt32 s.world).1 with
  | some bpList =>
    have hbps : ∀ bp, (bpxTup bp).type ≠ .str := fun bp => by simp [bpxTup, Obj.type]
    simp only [HandlerState.note_world, written, wp_bind, wp_bridgeFree, wp_pack]
    exact done_of_args hargs (hc.bridgeFree _) hfits rfl (not_isError_map hbps _)
  | none =>
    simp only [HandlerState.note_world, written, wp_bind, wp_freeStray, wp_pack]
    split
    · exact done_of_args hargs (hc.bridgeFree _) hfits rfl (not_isError_of_length (by simp))
    · exact threw_of_clean hc (fun _ => ⟨bpType, h1, written⟩) (by decide)

theorem getLabelAt_answers : Answers env root .getLabel (getLabelAt env root) := by
  refine answers_of_boolean_check (c := .getLabel) (by decide) (by decide) rfl ?_
  intro hargs s hc
  rw [wp_bind]
  refine wp_sizeArg_checked hargs (by decide) hc fun addr h1 f1 hc => ?_
  rw [wp_bind]
  refine wp_sizeArg_checked hargs (by decide) hc fun sreg h2 f2 hc => ?_
  simp only [wp_bind, wp_call, wp_pack]
  refine done_of_args hargs hc (fun _ => ?_) rfl (not_isError_of_head (by simp [Obj.type]))
  simp [Command.args, ArgsFit, h1, f1, h2, f2]

theorem getCommentAt_answers : Answers env root .getComment (getCommentAt env root) := by
  refine answers_of_boolean_check (c := .getComment) (by decide) (by decide) rfl ?_
  intro hargs s hc
  rw [wp_bind]
  refine wp_sizeArg_checked hargs (by decide) hc fun addr h1 f1 hc => ?_
  simp only [wp_bind, wp_call, wp_pack]
  refine done_of_args hargs hc (fun _ => ?_) rfl (not_isError_of_head (by simp [Obj.type]))
  simp [Command.args, ArgsFit, h1, f1]

end Checked

section Memory

theorem dbgReadMemory_answers : Answers env root .dbgReadMemory (dbgReadMemory env root) := by
  refine answers_of_error_check (c := .dbgReadMemory) (by decide) (by decide) (by decide) rfl ?_
  intro hargs s hc
  rw [wp_bind]
  refine wp_sizeArg_checked hargs (by decide) hc fun addr h1 f1 hc => ?_
  rw [wp_bind]
  refine wp_sizeArg_checked hargs (by decide) hc fun size h2 f2 hc => ?_
  simp only [wp_bind, wp_allocate, wp_dbgMemRead]
  have hfits : Command.dbgReadMemory.Fits env.machine root ↔
      size.toNat ≤ env.machine.maxLength := by
    refine (imp_iff_right hargs).trans ?_
    simp [Command.args, ArgsFit, h1, h2, f1, f2]
  by_cases hsize : size.toNat ≤ env.machine.maxLength
  · rw [if_pos hsize]
    split
    next h =>
      exact done_of_failure hc (hfits.mpr hsize) rfl trivial (congrArg (!Option.isSome ·) h)
        trivial rfl (errorResponse_isError (by decide))
    next membuf h =>
      exact done_of_args hargs (hc.event trivial (congrArg (!Option.isSome ·) h) trivial)
        (hfits.mpr hsize) rfl (not_isError_of_type (by simp [Obj.type]))
  · rw [if_neg hsize]
    exact threw_of_clean hc (fun h => absurd (hfits.mp h) hsize) (by decide)

theorem dbgWriteMemory_answers : Answers env root .dbgWriteMemory (dbgWriteMemory env root) := by
  refine answers_of_error_check (c := .dbgWriteMemory) (by decide) (by decide) (by decide) rfl ?_
  intro hargs s hc
  rw [wp_bind]
  refine wp_sizeArg_checked hargs (by decide) hc fun addr h1 f1 hc => ?_
  rw [wp_bind]
  refine wp_binArg_checked hargs (by decide) hc fun data h2 f2 hc => ?_
  simp only [wp_bind, wp_dbgMemWrite]
  have hfits : Command.dbgWriteMemory.Fits env.machine root :=
    fun _ => by simp [Command.args, ArgsFit, h1, h2, f1, f2]
  split
  next h =>
    have hc := hc.event (e := .dbgMemWrite addr data _) ⟨h1, h2⟩ (congrArg (!·) h) trivial
    exact done_of_args hargs hc hfits rfl (not_isError_boolean _)
  next h =>
    exact done_of_failure hc hfits rfl ⟨h1, h2⟩ (congrArg (!·) (eq_false_of_ne_true h))
      trivial rfl (errorResponse_isError (by decide))

end Memory

section Settings

theorem safeReads_of_setting {ty : ObjType}
    (hb : ¬(root.elems.length = 3 ∧ HasArgs root [(1, .str), (2, .str)]))
    (hl : 3 ≤ root.elems.length) : SafeReads root [(1, .str), (2, .str), (3, ty)] := by
  refine ⟨by omega, fun h1 => ⟨by omega, fun h2 => ⟨?_, fun _ => trivial⟩⟩⟩
  by_contra h3
  exact hb ⟨by omega, hasArgs_cons.mpr ⟨h1, hasArgs_cons.mpr ⟨h2, by simp [HasArgs]⟩⟩⟩

theorem dbgWriteSettingSz_answers :
    Answers env root .dbgWriteSettingSz (dbgWriteSettingSz env root) := by
  refine answers_of_check (c := .dbgWriteSettingSz) safeReads_of_setting
    (fun h => h.lt_length (p := (2, .str)) (by decide))
    (iff_of_true (errorResponse_isError (by decide)) rfl) ?_
  intro hargs s hc
  rw [wp_bind]
  refine wp_strArg_checked hargs (by decide) hc fun sec h1 f1 hc => ?_
  rw [wp_bind]
  refine wp_strArg_checked hargs (by decide) hc fun settingName h2 f2 hc => ?_
  rw [wp_bind]
  refine wp_strArg_checked hargs (by decide) hc fun settingVal h3 f3 hc => ?_
  simp only [wp_bind, wp_note, wp_call, wp_pack]
  have passed : (Event.bridgeSettingSet (cstr sec) (cstr settingName) (cstr settingVal)).Passed
      root := ⟨⟨sec, h1, rfl⟩, ⟨settingName, h2, rfl⟩, settingVal, h3, rfl⟩
  have hc := hc.event passed rfl trivial
  refine done_of_args hargs hc (fun _ => ?_) rfl (not_isError_boolean _)
  simp [Command.args, ArgsFit, h1, f1, h2, f2, h3, f3]

theorem dbgWriteSettingUint_answers :
    Answers env root .dbgWriteSettingUint (dbgWriteSettingUint env root) := by
  refine answers_of_check (c := .dbgWriteSettingUint) safeReads_of_setting
    (fun h => h.lt_length (p := (2, .str)) (by decide))
    (iff_of_true (errorResponse_isError (by decide)) rfl) ?_
  intro hargs s hc
  rw [wp_bind]
  refine wp_strArg_checked hargs (by decide) hc fun sec h1 f1 hc => ?_
  rw [wp_bind]
  refine wp_strArg_checked hargs (by decide) hc fun settingName h2 f2 hc => ?_
  rw [wp_bind]
  refine wp_sizeArg_checked hargs (by decide) hc fun settingVal h3 f3 hc => ?_
  simp only [wp_bind, wp_note, wp_call, wp_pack]
  have passed : (Event.bridgeSettingSetUint (cstr sec) (cstr settingName) settingVal).Passed
      root := ⟨⟨sec, h1, rfl⟩, ⟨settingName, h2, rfl⟩, h3⟩
  have hc := hc.event passed rfl trivial
  refine done_of_args hargs hc (fun _ => ?_) rfl (not_isError_boolean _)
  simp [Command.args, ArgsFit, h1, f1, h2, f2, h3, f3]

end Settings

section Symbols

/-- The body of the handler starts from the block allocated before its check. -/
theorem getSymbolAt_answers : Answers env root .getSymbol (getSymbolAt env root) := by
  intro hread s hc
  unfold getSymbolAt
  rw [wp_bind, wp_bridgeAlloc]
  refine wp_mono (answers_of_boolean_check (c := .getSymbol) (by decide) (by decide) rfl ?_ hread _
    (hc.bridgeAlloc _)) (fun _ _ h => ⟨h.passed, h.inRange, h.fits, h.reply⟩)
    fun _ _ h => ⟨h.passed, h.inRange, h.misfit, h.uncaught⟩
  intro hargs s hc
  rw [wp_bind]
  refine wp_sizeArg_checked hargs (by decide) hc fun addr h1 f1 hc => ?_
  simp only [wp_bind, wp_call, wp_pack, wp_ite, freeSymbol, wp_bridgeFree]
  have hfits : Command.getSymbol.Fits env.machine root :=
    fun _ => by simp [Command.args, ArgsFit, h1, f1]
  split_ifs
  all_goals
    refine done_of_args hargs ?_ hfits rfl (not_isError_of_head (by simp [Obj.type]))
    simpa [Event.Passed, Event.memFailure, Event.InRange] using hc

end Symbols

section Log

theorem wp_convertSize {o : Obj} {s : HandlerState W} (ho : o.type = .positiveInteger) :
    wp (convertSize env o) (fun _ s' => s' = s ∧ o.Fits env.machine)
      (fun e s' => s' = s ∧ ¬o.Fits env.machine ∧ e ≠ .zmqError) s := by
  obtain ⟨n, rfl⟩ := Obj.type_eq_positiveInteger.mp ho
  simp only [convertSize, wp_ite, wp_pure, wp_throw, Obj.Fits]
  split_ifs with h <;> simp [h]

theorem wp_convertBytes {o : Obj} {s : HandlerState W} (ho : o.type = .str) :
    wp (convertBytes env o) (fun _ s' => s' = s ∧ o.Fits env.machine)
      (fun e s' => s' = s ∧ ¬o.Fits env.machine ∧ e ≠ .zmqError) s := by
  obtain ⟨x, rfl⟩ := Obj.type_eq_str.mp ho
  simp only [convertBytes, wp_bind, wp_allocate, wp_pure, Obj.Fits]
  split_ifs with h <;> simp [h]

/-- An optional argument that is there with the right type fits, or the handler throws. -/
theorem wp_optionalArg {α : Type} {Q : α → HandlerState W → Prop} {i : Nat} {ty : ObjType}
    {convert : Obj → Handler W α} {default : α} {s : HandlerState W} {w : W}
    (hi : (i, ty) ∈ Command.optionalArgs) (hc : Clean root .getLog s.trace)
    (hconv : ∀ o s, o.type = ty → wp (convert o) (fun _ s' => s' = s ∧ o.Fits env.machine)
      (fun e s' => s' = s ∧ ¬o.Fits env.machine ∧ e ≠ .zmqError) s)
    (hq : ∀ a s', (∀ o ∈ root.elems[i]?, o.type = ty → o.Fits env.machine) →
      Clean root .getLog s'.trace → s'.response = s.response → Q a s') :
    wp (optionalArg env root i ty convert default) Q
      (fun e s' => Threw env root .getLog w e s') s := by
  unfold optionalArg
  by_cases hl : root.elems.length ≥ i + 1
  · have ho : root.elems[i]? = some root.elems[i] := List.getElem?_eq_getElem hl
    have hc1 : Clean root .getLog (s.note (.element i)).trace := hc.element ho
    rw [if_pos hl, wp_bind, wp_element ho, wp_ite]
    by_cases ht : root.elems[i].type = ty
    · rw [if_pos ht, wp_bind, wp_element ho]
      have hc2 : Clean root .getLog ((s.note (.element i)).note (.element i)).trace :=
        hc1.element ho
      refine wp_mono (hconv _ _ ht) ?_ ?_
      · rintro a _ ⟨rfl, hf⟩
        refine hq a _ (fun o h _ => ?_) hc2 rfl
        obtain rfl : root.elems[i] = o := by simpa [ho] using h
        exact hf
      · rintro e _ ⟨rfl, hf, he⟩
        exact threw_of_clean hc2 (fun h => absurd (h _ hi _ ho ht) hf) he
    · rw [if_neg ht, wp_pure]
      refine hq default _ (fun o h hty => absurd hty ?_) hc1 rfl
      obtain rfl : root.elems[i] = o := by simpa [ho] using h
      exact ht
  · rw [if_neg hl, wp_pure]
    exact hq default s (by simp [List.getElem?_eq_none (by omega : root.elems.length ≤ i)]) hc rfl

theorem getLog_answers : Answers env root .getLog (getLog env root) := by
  intro _ s hc
  unfold getLog
  rw [wp_bind]
  refine wp_optionalArg (by decide) hc (fun o s => wp_convertSize) fun since s1 f1 hc r1 => ?_
  rw [wp_bind]
  refine wp_optionalArg (by decide) hc (fun o s => wp_convertSize) fun limit s2 f2 hc r2 => ?_
  rw [wp_bind]
  refine wp_optionalArg (by decide) hc (fun o s => wp_convertBytes) fun filter s3 f3 hc r3 => ?_
  simp only [wp_bind, wp_world, wp_pack]
  have hfits : Command.getLog.Fits env.machine root := by
    simpa [Command.Fits, ArgsFit, Command.optionalArgs] using ⟨f1, f2, f3⟩
  have hargs : HasArgs root Command.getLog.args := by simp [HasArgs, Command.args]
  have hsame : s3.response = s.response := r3.trans (r2.trans r1)
  exact done_of_args hargs hc hfits (congrArg (· ++ [_]) hsame)
    (not_isError_of_head (by simp [Obj.ofNat, Obj.type]))

end Log

section Queries

theorem answers_of_query {c : Command} {h : Handler W Unit} (hargs : c.args = [])
    (hfits : c.Fits env.machine root)
    (hbody : ∀ s, Clean root c s.trace → wp h (fun _ s' => Clean root c s'.trace ∧
      ∃ r, s'.response = s.response ++ [r] ∧ ¬r.IsError) (fun _ _ => False) s) :
    Answers env root c h := by
  intro _ s hc
  refine wp_mono (hbody s hc) ?_ fun _ _ h => h.elim
  rintro _ s' ⟨hc', r, hr, hn⟩
  exact done_of_args (by simp [hargs, HasArgs]) hc' hfits hr hn

theorem dbgMemmap_answers : Answers env root .dbgMemmap (dbgMemmap env) := by
  intro _ s hc
  have hargs : HasArgs root Command.dbgMemmap.args := by simp [HasArgs, Command.args]
  have hfits : Command.dbgMemmap.Fits env.machine root := fun _ => by simp [ArgsFit, Command.args]
  have hpages : ∀ page, (memPageTup env.machine.bitness page).type ≠ .str :=
    fun page => by simp [memPageTup, Obj.type]
  unfold dbgMemmap
  rw [wp_bind, wp_call]
  cases written : (env.bridge.dbgMemMap s.world).1 with
  | some mm =>
    simp only [wp_bind, wp_pack, wp_bridgeFree]
    exact done_of_args hargs (hc.bridgeFree _) hfits rfl (not_isError_map hpages _)
  | none =>
    rw [wp_bind]
    refine wp_strayPages _ _ _ (fun pages => ?_) (threw_of_clean hc (fun _ => written) (by decide))
    rw [wp_bind, wp_pack, wp_freeStray]
    split
    · exact done_of_args hargs (hc.bridgeFree _) hfits rfl (not_isError_map hpages _)
    · exact threw_of_clean hc (fun _ => written) (by decide)

theorem dbgReadRegs_answers : Answers env root .dbgReadRegisters (dbgReadRegs env) := by
  refine answers_of_query rfl (fun _ => by simp [ArgsFit, Command.args]) fun s hc => ?_
  exact ⟨hc, _, rfl, not_isError_of_head (by simp [Obj.ofNat, Obj.type])⟩

theorem answers_of_scalar {c : Command} {h : Handler W Unit} (hargs : c.args = [])
    (hfits : c.Fits env.machine root)
    (hbody : ∀ s, ∃ w r, h s = .ok () ((s.moveTo w).pack r) ∧ r.type ≠ .array) :
    Answers env root c h := by
  refine answers_of_query hargs hfits fun s hc => ?_
  obtain ⟨w, r, hs, hr⟩ := hbody s
  exact wp_of_ok hs ⟨hc, r, rfl, not_isError_of_type hr⟩

theorem handler_answers (c : Command) : Answers env root c (handler env root c) := by
  have noArgs : ArgsFit env.machine root [] := by simp [ArgsFit]
  cases c with
  | debuggerPid | compatVersion | dbgIsRunning | dbgIsDebugging | dbgIsElevated | dbgGetBitness
    | guiRefreshViews | quit =>
    exact answers_of_scalar rfl (fun _ => noArgs) fun s =>
      ⟨_, _, rfl, by simp [Obj.ofU32, Obj.ofNat, Obj.type]⟩
  | debuggerVersion =>
    refine answers_of_scalar rfl (fun _ => noArgs) fun s => ⟨_, _, rfl, ?_⟩
    unfold Obj.ofI32
    split <;> simp [Obj.type]
  | dbgEval => exact dbgEval_answers
  | dbgCmdExecDirect => exact dbgCmdExecDirect_answers
  | dbgMemmap => exact dbgMemmap_answers
  | dbgReadMemory => exact dbgReadMemory_answers
  | dbgWriteMemory => exact dbgWriteMemory_answers
  | dbgReadRegisters => exact dbgReadRegs_answers
  | dbgReadSettingSz => exact dbgReadSettingSz_answers
  | dbgWriteSettingSz => exact dbgWriteSettingSz_answers
  | dbgReadSettingUint => exact dbgReadSettingUint_answers
  | dbgWriteSettingUint => exact dbgWriteSettingUint_answers
  | dbgIsValidReadPtr => exact dbgIsValidReadPtr_answers
  | disassemble => exact disassembleAt_answers
  | assemble => exact assembleAt_answers
  | getBreakpoints => exact getBreakpoints_answers
  | getLabel => exact getLabelAt_answers
  | getComment => exact getCommentAt_answers
  | getSymbol => exact getSymbolAt_answers
  | getLog => exact getLog_answers

end Queries

end XAuto
