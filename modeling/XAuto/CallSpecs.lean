import XAuto.CallResults

namespace XAuto

open Handler Effect

variable {W : Type} {env : Env W} {root : Obj} {c : Command}

namespace Command

/-- The reply to a request whose arguments the command refuses. -/
def refusal : Command → Obj
  | .dbgEval => .errorResponse "XERROR_BAD_EVAL" "Invalid or missing eval string"
  | .dbgCmdExecDirect => .errorResponse "XERROR_BAD_EVAL" "Invalid or missing command string"
  | .dbgReadMemory =>
    .errorResponse "XERROR_BAD_READ" "Invalid or missing memory read parameters"
  | .dbgWriteMemory =>
    .errorResponse "XERROR_BAD_WRITE" "Invalid or missing memory write parameters"
  | .dbgReadSettingSz | .dbgWriteSettingSz | .dbgReadSettingUint | .dbgWriteSettingUint =>
    .errorResponse "XERROR_BAD_SETTING" "Invalid or missing setting string"
  | _ => .boolean false

/-- The world after a request that nothing is done for: `get_symbol_at` allocates before it looks
at its argument. -/
def untouched (env : Env W) (c : Command) (w : W) : W :=
  if c = .getSymbol then (env.bridge.bridgeAlloc env.sizeofSymbolInfo w).2 else w

def outcome (env : Env W) (root : Obj) (c : Command) (w : W) : Obj × W :=
  match Call.ofCommand root c with
  | some call => call.perform env w
  | none => (c.refusal, c.untouched env w)

end Command

structure Answered (answer : Obj × W) (s s' : HandlerState W) : Prop where
  reply : s'.response = s.response ++ [answer.1]
  world : s'.world = answer.2

/-- A handler that goes on with no list left unwritten answers with what the call comes to, or
throws before it has done anything. -/
def Performs (env : Env W) (root : Obj) (c : Command) (h : Handler W Unit) : Prop :=
  (c.InBounds root ∨ env.MissingFails) → ∀ s, ¬c.Unwritten env root s.world →
    Clean root c s.trace →
      wp h (fun _ s' => Answered (c.outcome env root s.world) s s')
        (fun _ s' => s'.world = c.untouched env s.world) s

/-- The part of a handler behind its check. -/
def Executes (env : Env W) (root : Obj) (c : Command) (body : Handler W Unit) : Prop :=
  ∀ call, Call.ofCommand root c = some call → ∀ s, ¬call.Unwritten env s.world →
    wp body (fun _ s' => Answered (call.perform env s.world) s s') (fun _ s' => s'.world = s.world)
      s

section Arguments

variable {Q : Bytes → HandlerState W → Prop} {s : HandlerState W} {i : Nat}

theorem wp_strArg_at {x : Bytes} (h : root.strAt i = some x) (hq : Q x (s.note (.element i))) :
    wp (bytesArg env root i) Q (fun _ s' => s'.world = s.world) s := by
  rw [wp_bytesArg (Or.inl (Env.arg_of_elem (Obj.strAt_eq_some.mp h)))]
  split
  · exact hq
  · rfl

theorem wp_binArg_at {x : Bytes} (h : root.binAt i = some x) (hq : Q x (s.note (.element i))) :
    wp (bytesArg env root i) Q (fun _ s' => s'.world = s.world) s := by
  rw [wp_bytesArg (Or.inr (Env.arg_of_elem (Obj.binAt_eq_some.mp h)))]
  split
  · exact hq
  · rfl

theorem wp_sizeArg_at {Q : UInt64 → HandlerState W → Prop} {n : UInt64}
    (h : root.sizeAt i = some n) (hq : Q n (s.note (.element i))) :
    wp (sizeArg env root i) Q (fun _ s' => s'.world = s.world) s := by
  rw [wp_sizeArg (Env.arg_of_elem (Obj.sizeAt_eq_some.mp h))]
  split
  · exact hq
  · rfl

end Arguments

section Checks

variable {size : Nat} {bad : Obj} {body : Handler W Unit}

/-- A check either sends the handler away or leaves it the arguments of a call. -/
theorem wp_check {Q : Unit → HandlerState W → Prop} {E : Exn → HandlerState W → Prop}
    {s : HandlerState W} (hread : c.InBounds root ∨ env.MissingFails)
    (hsafe : c.InBounds root → size ≤ root.elems.length → SafeReads root c.args)
    (hsize : HasArgs root c.args → size ≤ root.elems.length) (clean : Clean root c s.trace)
    (refused : Call.ofCommand root c = none → ∀ t : HandlerState W, t.world = s.world →
      t.response = s.response → Q () (t.pack bad))
    (taken : ∀ call, Call.ofCommand root c = some call → ∀ t : HandlerState W,
      t.world = s.world → t.response = s.response → wp body Q E t) :
    wp (badArgs env root size c.args >>= fun b => if b = true then pack bad else body) Q E s := by
  rw [wp_bind]
  have keeps : Keeps (fun t => t.world = s.world) (badArgs env root size c.args) :=
    keeps_badArgs (fun _ _ h => h) size c.args
  have kept := keeps s rfl
  refine wp_mono (wp_and (wp_badArgs hread hsafe hsize clean) kept) ?_ fun _ _ h => h.1.elim
  rintro b t ⟨⟨-, response, hb⟩, world⟩
  cases b with
  | true =>
    have missing : ¬HasArgs root c.args := by simpa using hb
    refine refused ?_ t world response
    rw [Option.eq_none_iff_forall_ne_some]
    exact fun call h => missing (Call.exists_ofCommand.mp ⟨call, h⟩)
  | false =>
    obtain ⟨call, hcall⟩ := Call.exists_ofCommand.mpr (hb.mp rfl)
    exact taken call hcall t world response

theorem performs_of_check (hsafe : c.InBounds root → size ≤ root.elems.length →
      SafeReads root c.args)
    (hsize : HasArgs root c.args → size ≤ root.elems.length) (hbad : bad = c.refusal)
    (hc : c ≠ .getSymbol) (hbody : Executes env root c body) :
    Performs env root c (badArgs env root size c.args >>= fun b =>
      if b = true then pack bad else body) := by
  intro hread s written clean
  have same : c.untouched env s.world = s.world := if_neg hc
  refine wp_check hread hsafe hsize clean ?_ ?_
  · intro none t world response
    simp only [Command.outcome, none, same, hbad]
    exact ⟨congrArg (· ++ [_]) response, world⟩
  · intro call hcall t world response
    rw [Call.unwritten_of_ofCommand env hcall, ← world] at written
    refine wp_mono (hbody call hcall t written) (fun _ u h => ?_) fun _ u h => ?_
    · simp only [Command.outcome, hcall, ← world]
      exact ⟨response ▸ h.reply, h.world⟩
    · rw [same, h, world]

theorem covering_check_safe {size : Nat} (hlt : ∀ p ∈ c.args, p.1 < size) :
    c.InBounds root → size ≤ root.elems.length → SafeReads root c.args :=
  fun _ hl => safeReads_of_lt fun p hp => (hlt p hp).trans_le hl

theorem performs_of_covering_check (hlt : ∀ p ∈ c.args, p.1 < size)
    (hlast : ∃ p ∈ c.args, p.1 + 1 = size) (hbad : bad = c.refusal) (hc : c ≠ .getSymbol)
    (hbody : Executes env root c body) :
    Performs env root c (badArgs env root size c.args >>= fun b =>
      if b = true then pack bad else body) := by
  refine performs_of_check (covering_check_safe hlt) (fun h => ?_) hbad hc hbody
  · obtain ⟨⟨i, ty⟩, hp, rfl⟩ := hlast
    exact h.lt_length hp

end Checks

section Checked

theorem dbgEval_performs : Performs env root .dbgEval (dbgEval env root) := by
  refine performs_of_covering_check (c := .dbgEval) (by decide) (by decide) rfl (by decide) ?_
  intro call hcall s _
  obtain ⟨cmd, h1, rfl⟩ := Option.map_eq_some_iff.mp hcall
  rw [wp_bind]
  exact wp_strArg_at h1 ⟨rfl, rfl⟩

theorem dbgCmdExecDirect_performs :
    Performs env root .dbgCmdExecDirect (dbgCmdExecDirect env root) := by
  refine performs_of_covering_check (c := .dbgCmdExecDirect) (by decide) (by decide) rfl
    (by decide) ?_
  intro call hcall s _
  obtain ⟨cmd, h1, rfl⟩ := Option.map_eq_some_iff.mp hcall
  rw [wp_bind]
  exact wp_strArg_at h1 ⟨rfl, rfl⟩

theorem dbgReadSettingSz_performs :
    Performs env root .dbgReadSettingSz (dbgReadSettingSz env root) := by
  refine performs_of_covering_check (c := .dbgReadSettingSz) (by decide) (by decide) rfl
    (by decide) ?_
  intro call hcall s _
  obtain ⟨section_, h1, rest⟩ := Option.bind_eq_some_iff.mp hcall
  obtain ⟨settingName, h2, made⟩ := Option.bind_eq_some_iff.mp rest
  obtain rfl := Option.some.inj made
  rw [wp_bind]
  refine wp_strArg_at h1 ?_
  rw [wp_bind]
  exact wp_strArg_at h2 ⟨rfl, rfl⟩

theorem dbgReadSettingUint_performs :
    Performs env root .dbgReadSettingUint (dbgReadSettingUint env root) := by
  refine performs_of_covering_check (c := .dbgReadSettingUint) (by decide) (by decide) rfl
    (by decide) ?_
  intro call hcall s _
  obtain ⟨section_, h1, rest⟩ := Option.bind_eq_some_iff.mp hcall
  obtain ⟨settingName, h2, made⟩ := Option.bind_eq_some_iff.mp rest
  obtain rfl := Option.some.inj made
  rw [wp_bind]
  refine wp_strArg_at h1 ?_
  rw [wp_bind]
  exact wp_strArg_at h2 ⟨rfl, rfl⟩

theorem dbgIsValidReadPtr_performs :
    Performs env root .dbgIsValidReadPtr (dbgIsValidReadPtr env root) := by
  refine performs_of_covering_check (c := .dbgIsValidReadPtr) (by decide) (by decide) rfl
    (by decide) ?_
  intro call hcall s _
  obtain ⟨addr, h1, rfl⟩ := Option.map_eq_some_iff.mp hcall
  rw [wp_bind]
  exact wp_sizeArg_at h1 ⟨rfl, rfl⟩

theorem disassembleAt_performs : Performs env root .disassemble (disassembleAt env root) := by
  refine performs_of_covering_check (c := .disassemble) (by decide) (by decide) rfl (by decide) ?_
  intro call hcall s _
  obtain ⟨addr, h1, rfl⟩ := Option.map_eq_some_iff.mp hcall
  rw [wp_bind]
  refine wp_sizeArg_at h1 ⟨?_, rfl⟩
  let instr := env.bridge.dbgDisasmAt addr s.world
  cases text : (env.bridge.guiGetDisassembly addr instr.2).1 with
  | none => simp [Call.perform, Call.result, Answer.toObj, disasmTup, instr, text]
  | some symbolized => simp [Call.perform, Call.result, Answer.toObj, disasmTup, instr, text]

theorem assembleAt_performs : Performs env root .assemble (assembleAt env root) := by
  refine performs_of_covering_check (c := .assemble) (by decide) (by decide) rfl (by decide) ?_
  intro call hcall s _
  obtain ⟨addr, h1, rest⟩ := Option.bind_eq_some_iff.mp hcall
  obtain ⟨instr, h2, made⟩ := Option.bind_eq_some_iff.mp rest
  obtain rfl := Option.some.inj made
  rw [wp_bind]
  refine wp_sizeArg_at h1 ?_
  rw [wp_bind]
  exact wp_strArg_at h2 ⟨rfl, rfl⟩

theorem getBreakpoints_performs : Performs env root .getBreakpoints (getBreakpoints env root) := by
  refine performs_of_covering_check (c := .getBreakpoints) (by decide) (by decide) rfl
    (by decide) ?_
  intro call hcall s written
  obtain ⟨bpType, h1, rfl⟩ := Option.map_eq_some_iff.mp hcall
  obtain ⟨bpList, hlist⟩ := Option.ne_none_iff_exists'.mp written
  rw [wp_bind]
  refine wp_sizeArg_at h1 ?_
  simp only [wp_bind, wp_call, HandlerState.note_world, hlist]
  exact ⟨by simp [Call.perform, Call.result, Answer.toObj, hlist], by
    simp [Call.perform, Call.result, hlist]⟩

theorem getLabelAt_performs : Performs env root .getLabel (getLabelAt env root) := by
  refine performs_of_covering_check (c := .getLabel) (by decide) (by decide) rfl (by decide) ?_
  intro call hcall s _
  obtain ⟨addr, h1, rest⟩ := Option.bind_eq_some_iff.mp hcall
  obtain ⟨sreg, h2, made⟩ := Option.bind_eq_some_iff.mp rest
  obtain rfl := Option.some.inj made
  rw [wp_bind]
  refine wp_sizeArg_at h1 ?_
  rw [wp_bind]
  exact wp_sizeArg_at h2 ⟨rfl, rfl⟩

theorem getCommentAt_performs : Performs env root .getComment (getCommentAt env root) := by
  refine performs_of_covering_check (c := .getComment) (by decide) (by decide) rfl (by decide) ?_
  intro call hcall s _
  obtain ⟨addr, h1, rfl⟩ := Option.map_eq_some_iff.mp hcall
  rw [wp_bind]
  exact wp_sizeArg_at h1 ⟨rfl, rfl⟩

end Checked

section Memory

theorem dbgReadMemory_performs : Performs env root .dbgReadMemory (dbgReadMemory env root) := by
  refine performs_of_covering_check (c := .dbgReadMemory) (by decide) (by decide) rfl (by decide) ?_
  intro call hcall s _
  obtain ⟨addr, h1, rest⟩ := Option.bind_eq_some_iff.mp hcall
  obtain ⟨size, h2, made⟩ := Option.bind_eq_some_iff.mp rest
  obtain rfl := Option.some.inj made
  rw [wp_bind]
  refine wp_sizeArg_at h1 ?_
  rw [wp_bind]
  refine wp_sizeArg_at h2 ?_
  simp only [wp_bind, wp_allocate, wp_dbgMemRead]
  split
  · -- the reply depends on what the bridge read
    simp only [HandlerState.note_world]
    cases read : (env.bridge.dbgMemRead addr size.toNat s.world).1 with
    | none =>
      refine ⟨?_, rfl⟩
      simp [Call.perform, Call.result, Call.asking, Answer.toObj, read]
      rfl
    | some membuf =>
      refine ⟨?_, rfl⟩
      simp [Call.perform, Call.result, Call.asking, Answer.toObj, read]
  · rfl

theorem dbgWriteMemory_performs : Performs env root .dbgWriteMemory (dbgWriteMemory env root) := by
  refine performs_of_covering_check (c := .dbgWriteMemory) (by decide) (by decide) rfl (by decide)
    ?_
  intro call hcall s _
  obtain ⟨addr, h1, rest⟩ := Option.bind_eq_some_iff.mp hcall
  obtain ⟨data, h2, made⟩ := Option.bind_eq_some_iff.mp rest
  obtain rfl := Option.some.inj made
  rw [wp_bind]
  refine wp_sizeArg_at h1 ?_
  rw [wp_bind]
  refine wp_binArg_at h2 ?_
  simp only [wp_bind, wp_dbgMemWrite, wp_ite]
  split
  next written =>
    have written : (env.bridge.dbgMemWrite addr data s.world).1 = true := written
    exact ⟨by simp [Call.perform, Call.result, Call.asking, Answer.toObj, written], rfl⟩
  next failed =>
    have failed : ¬(env.bridge.dbgMemWrite addr data s.world).1 = true := failed
    exact ⟨by simp [Call.perform, Call.result, Call.asking, Answer.toObj, failed]; rfl, rfl⟩

end Memory

section Settings

theorem dbgWriteSettingSz_performs :
    Performs env root .dbgWriteSettingSz (dbgWriteSettingSz env root) := by
  refine performs_of_check (c := .dbgWriteSettingSz) safeReads_of_setting
    (fun h => h.lt_length (p := (2, .str)) (by decide)) rfl (by decide) ?_
  intro call hcall s _
  obtain ⟨section_, h1, rest⟩ := Option.bind_eq_some_iff.mp hcall
  obtain ⟨settingName, h2, rest⟩ := Option.bind_eq_some_iff.mp rest
  obtain ⟨settingVal, h3, made⟩ := Option.bind_eq_some_iff.mp rest
  obtain rfl := Option.some.inj made
  rw [wp_bind]
  refine wp_strArg_at h1 ?_
  rw [wp_bind]
  refine wp_strArg_at h2 ?_
  rw [wp_bind]
  exact wp_strArg_at h3 ⟨rfl, rfl⟩

theorem dbgWriteSettingUint_performs :
    Performs env root .dbgWriteSettingUint (dbgWriteSettingUint env root) := by
  refine performs_of_check (c := .dbgWriteSettingUint) safeReads_of_setting
    (fun h => h.lt_length (p := (2, .str)) (by decide)) rfl (by decide) ?_
  intro call hcall s _
  obtain ⟨section_, h1, rest⟩ := Option.bind_eq_some_iff.mp hcall
  obtain ⟨settingName, h2, rest⟩ := Option.bind_eq_some_iff.mp rest
  obtain ⟨settingVal, h3, made⟩ := Option.bind_eq_some_iff.mp rest
  obtain rfl := Option.some.inj made
  rw [wp_bind]
  refine wp_strArg_at h1 ?_
  rw [wp_bind]
  refine wp_strArg_at h2 ?_
  rw [wp_bind]
  exact wp_sizeArg_at h3 ⟨rfl, rfl⟩

end Settings

section Symbols

/-- The names that were found are freed as the debugger asks for, then the block. -/
theorem wp_frees (found decorated undecorated : Bool) (name undecoratedName : Option CString)
    (block : Nat) (t : HandlerState W) :
    wp (if found = true then
        if decorated = true then do
          freeSymbol env name
          if undecorated = true then do
            freeSymbol env undecoratedName
            bridgeFree env block
          else bridgeFree env block
        else if undecorated = true then do
          freeSymbol env undecoratedName
          bridgeFree env block
        else bridgeFree env block
      else bridgeFree env block)
      (fun _ u => u.response = t.response ∧ u.world = (env.bridge.bridgeFree block
        (Call.freeing env (found && undecorated) undecoratedName
          (Call.freeing env (found && decorated) name t.world))).2)
      (fun _ _ => False) t := by
  cases found with
  | false => exact ⟨rfl, rfl⟩
  | true => cases decorated <;> cases undecorated <;> exact ⟨rfl, rfl⟩

theorem getSymbolAt_performs : Performs env root .getSymbol (getSymbolAt env root) := by
  intro hread s _ clean
  unfold getSymbolAt
  rw [wp_bind, wp_bridgeAlloc]
  refine wp_check (c := .getSymbol) hread (covering_check_safe (by decide))
    (fun h => h.lt_length (p := (1, .positiveInteger)) (by decide)) (clean.bridgeAlloc _) ?_ ?_
  · intro none t world response
    simp only [Command.outcome, none]
    exact ⟨congrArg (· ++ [_]) response, world⟩
  · intro call hcall t world response
    obtain ⟨addr, h1, rfl⟩ := Option.map_eq_some_iff.mp hcall
    have touched : (env.bridge.bridgeAlloc env.sizeofSymbolInfo s.world).2 = t.world := world.symm
    simp only [Command.outcome, hcall, Command.untouched, if_true, Call.perform, Call.result,
      touched]
    rw [wp_bind]
    refine wp_sizeArg_at h1 ?_
    rw [wp_bind, wp_call, wp_bind, wp_pack]
    refine wp_mono (wp_frees _ _ _ _ _ _ _) (fun _ u freed => ?_) fun _ _ h => h.elim
    exact ⟨freed.1.trans (congrArg (· ++ [_]) response), freed.2⟩

end Symbols

section Log

/-- An optional argument of the right type is converted, any other one is passed over. -/
theorem wp_optionalArg_view {α : Type} {Q : α → HandlerState W → Prop} {i : Nat} {ty : ObjType}
    {convert : Obj → Handler W α} {view : Obj → Option α} {default : α} {s : HandlerState W} {w : W}
    (hs : s.world = w) (hview : ∀ o, (view o).isSome ↔ o.type = ty)
    (hconvert : ∀ o a t, view o = some a →
      wp (convert o) (fun b t' => b = a ∧ t' = t) (fun _ t' => t' = t) t)
    (hq : ∀ t, t.world = w → t.response = s.response →
      Q (((root.elems[i]?).bind view).getD default) t) :
    wp (optionalArg env root i ty convert default) Q (fun _ t => t.world = w) s := by
  unfold optionalArg
  by_cases hl : root.elems.length ≥ i + 1
  · have ho : root.elems[i]? = some root.elems[i] := List.getElem?_eq_getElem hl
    rw [if_pos hl, wp_bind, wp_element ho, wp_ite]
    by_cases ht : root.elems[i].type = ty
    · obtain ⟨a, ha⟩ := Option.isSome_iff_exists.mp ((hview _).mpr ht)
      rw [if_pos ht, wp_bind, wp_element ho]
      refine wp_mono (hconvert _ a _ ha) ?_ ?_
      · rintro b _ ⟨rfl, rfl⟩
        simpa [ho, ha] using hq ((s.note (.element i)).note (.element i)) hs rfl
      · rintro _ _ rfl
        exact hs
    · have other : view root.elems[i] = none := by
        rw [← Option.not_isSome_iff_eq_none, hview]
        exact ht
      rw [if_neg ht, wp_pure]
      simpa [ho, other] using hq (s.note (.element i)) hs rfl
  · have missing : root.elems[i]? = none := List.getElem?_eq_none (by omega)
    rw [if_neg hl, wp_pure]
    simpa [missing] using hq s hs rfl

theorem convertSize_view (o : Obj) (n : UInt64) (t : HandlerState W) (h : o.asSize = some n) :
    wp (convertSize env o) (fun m t' => m = n ∧ t' = t) (fun _ t' => t' = t) t := by
  obtain rfl := Obj.asSize_eq_some.mp h
  unfold convertSize
  rw [wp_ite]
  split
  · exact ⟨rfl, rfl⟩
  · rfl

theorem convertBytes_view (o : Obj) (x : Bytes) (t : HandlerState W) (h : o.asStr = some x) :
    wp (convertBytes env o) (fun y t' => y = x ∧ t' = t) (fun _ t' => t' = t) t := by
  obtain rfl := Obj.asStr_eq_some.mp h
  unfold convertBytes
  rw [wp_bind, wp_allocate]
  split
  · exact ⟨rfl, rfl⟩
  · rfl

theorem getLog_performs : Performs env root .getLog (getLog env root) := by
  intro _ s _ _
  unfold getLog
  rw [wp_bind]
  refine wp_optionalArg_view rfl (fun o => o.isSome_asSize) convertSize_view fun s1 w1 r1 => ?_
  rw [wp_bind]
  refine wp_optionalArg_view w1 (fun o => o.isSome_asSize) convertSize_view fun s2 w2 r2 => ?_
  rw [wp_bind]
  refine wp_optionalArg_view w2 (fun o => o.isSome_asStr) convertBytes_view fun s3 w3 r3 => ?_
  simp only [wp_bind, wp_world, wp_pack, w3]
  have response : s3.response = s.response := r3.trans (r2.trans r1)
  exact ⟨congrArg (· ++ [_]) response, w3⟩

end Log

section Queries

theorem performs_of_query {h : Handler W Unit} {call : Call}
    (hcall : Call.ofCommand root c = some call)
    (hrun : ∀ s, ∃ trace, h s = .ok () {
      world := (call.perform env s.world).2
      response := s.response ++ [(call.perform env s.world).1]
      trace }) :
    Performs env root c h := by
  intro _ s _ _
  obtain ⟨trace, hs⟩ := hrun s
  refine wp_of_ok hs ?_
  simp only [Command.outcome, hcall]
  exact ⟨rfl, rfl⟩

theorem dbgMemmap_performs : Performs env root .dbgMemmap (dbgMemmap env) := by
  intro _ s written _
  obtain ⟨mm, hmm⟩ := Option.ne_none_iff_exists'.mp written
  unfold dbgMemmap
  simp only [wp_bind, wp_call, hmm]
  exact ⟨by simp [Command.outcome, Call.ofCommand, Call.perform, Call.result, Answer.toObj, hmm],
    by simp [Command.outcome, Call.ofCommand, Call.perform, Call.result, hmm]⟩

theorem handler_performs (c : Command) : Performs env root c (handler env root c) := by
  cases c with
  | dbgMemmap => exact dbgMemmap_performs
  | dbgEval => exact dbgEval_performs
  | dbgCmdExecDirect => exact dbgCmdExecDirect_performs
  | dbgReadMemory => exact dbgReadMemory_performs
  | dbgWriteMemory => exact dbgWriteMemory_performs
  | dbgReadSettingSz => exact dbgReadSettingSz_performs
  | dbgWriteSettingSz => exact dbgWriteSettingSz_performs
  | dbgReadSettingUint => exact dbgReadSettingUint_performs
  | dbgWriteSettingUint => exact dbgWriteSettingUint_performs
  | dbgIsValidReadPtr => exact dbgIsValidReadPtr_performs
  | disassemble => exact disassembleAt_performs
  | assemble => exact assembleAt_performs
  | getBreakpoints => exact getBreakpoints_performs
  | getLabel => exact getLabelAt_performs
  | getComment => exact getCommentAt_performs
  | getSymbol => exact getSymbolAt_performs
  | getLog => exact getLog_performs
  | _ => exact performs_of_query rfl fun s => ⟨_, rfl⟩

end Queries

namespace Obj

variable (env : Env W) (root : Obj)

/-- The answer to a request that makes no call. -/
def refusal : Obj :=
  match root.command with
  | some c => c.refusal
  | none => .errorResponse "XERROR_UNK" "Could not understand input"

def untouched (w : W) : W :=
  match root.command with
  | some c => c.untouched env w
  | none => w

/-- What serving a request comes to: the reply, and the debugger after it. -/
def outcome (w : W) : Obj × W :=
  match Call.ofObj root with
  | some call => call.perform env w
  | none => (root.refusal, root.untouched env w)

end Obj

section Requests

/-- A request is served as the call that it makes. -/
structure Served (env : Env W) (root : Obj) (w : W) (res : DispatchResult) (s' : HandlerState W) :
    Prop where
  reply : s'.response = [(root.outcome env w).1]
  world : s'.world = (root.outcome env w).2
  exit : res = .exit ↔ Call.ofObj root = some .quit

theorem ofObj_of_command (hcmd : root.command = some c) :
    Call.ofObj root = Call.ofCommand root c := by
  obtain ⟨args, rfl⟩ := eq_array_of_command hcmd
  exact Call.ofObj_request c args

theorem outcome_of_command (hcmd : root.command = some c) (w : W) :
    root.outcome env w = c.outcome env root w := by
  unfold Obj.outcome Command.outcome Obj.refusal Obj.untouched
  rw [ofObj_of_command hcmd, hcmd]

theorem ofObj_of_no_command (hcmd : root.command = none) (hping : root ≠ .str (bytes "PING")) :
    Call.ofObj root = none := by
  cases root with
  | str s => exact if_neg fun h => hping (congrArg Obj.str h)
  | array elems => simp [Call.ofObj, hcmd]
  | _ => rfl

/-- Only the requests for the two lists can meet an unwritten one. -/
theorem unwritten_iff {w : W} : root.Unwritten env w ↔
    ∃ call, Call.ofObj root = some call ∧ call.Unwritten env w := by
  constructor
  · rintro ⟨c, hcmd, h⟩
    have made : ∃ call, Call.ofCommand root c = some call := by
      cases c with
      | dbgMemmap => exact ⟨_, rfl⟩
      | getBreakpoints =>
        obtain ⟨bpType, h1, -⟩ := h
        exact Call.exists_ofCommand.mpr (by simp [HasArgs, Command.args, h1, Obj.type])
      | _ => exact h.elim
    obtain ⟨call, hcall⟩ := made
    rw [ofObj_of_command hcmd]
    exact ⟨call, hcall, (Call.unwritten_of_ofCommand env hcall w).mp h⟩
  · rintro ⟨call, hcall, h⟩
    cases hcmd : root.command with
    | some c =>
      rw [ofObj_of_command hcmd] at hcall
      exact ⟨c, hcmd, (Call.unwritten_of_ofCommand env hcall w).mpr h⟩
    | none =>
      by_cases hping : root = .str (bytes "PING")
      · subst hping
        obtain rfl : .ping = call := Option.some.inj hcall
        exact h.elim
      · rw [ofObj_of_no_command hcmd hping] at hcall
        cases hcall

theorem ofObj_eq_quit_iff : Call.ofObj root = some .quit ↔ root.command = some .quit := by
  cases hcmd : root.command with
  | none =>
    refine iff_of_false (fun h => ?_) (by simp)
    by_cases hping : root = .str (bytes "PING")
    · subst hping
      exact absurd h (by decide)
    · rw [ofObj_of_no_command hcmd hping] at h
      cases h
  | some c =>
    rw [ofObj_of_command hcmd]
    cases c <;> simp [Call.ofCommand, Option.bind_eq_some_iff]

theorem finish_of_response {s : HandlerState W} {r : Obj} (h : s.response = [r]) :
    s.finish = s := if_neg (by simp [h])

theorem replyTo_command (hcmd : root.command = some c) (hread : c.InBounds root ∨ env.MissingFails)
    {w : W} (written : ¬c.Unwritten env root w) :
    wp (replyTo env root) (fun res s' => Served env root w res s')
      (fun _ s' => s'.world = root.untouched env w) { world := w } := by
  rw [wp_replyTo, wp_dispatchCmd_command hcmd]
  refine wp_mono (handler_performs c hread _ written (clean_begun hcmd w)) (fun _ s h => ?_)
    fun _ s h => ?_
  · have response : s.response = [(c.outcome env root w).1] := h.reply
    rw [finish_of_response response]
    refine ⟨?_, ?_, ?_⟩
    · rw [response, outcome_of_command hcmd]
    · rw [h.world, outcome_of_command hcmd]
      rfl
    · rw [ofObj_eq_quit_iff, hcmd]
      split <;> simp [*]
  · rw [h]
    unfold Obj.untouched
    rw [hcmd]
    rfl

theorem served_unknown (hcmd : root.command = none) (hping : root ≠ .str (bytes "PING"))
    {s : HandlerState W} (response : s.response = []) :
    Served env root s.world .cont s.finish := by
  have none : Call.ofObj root = none := ofObj_of_no_command hcmd hping
  have finished : s.finish = s.pack (.errorResponse "XERROR_UNK" "Could not understand input") :=
    if_pos (by simp [response])
  refine ⟨?_, ?_, by simp [none]⟩
  · simp [finished, response, Obj.outcome, none, Obj.refusal, hcmd]
  · simp [finished, Obj.outcome, none, Obj.untouched, hcmd]

theorem replyTo_str (x : Bytes) (w : W) :
    wp (replyTo env (.str x)) (fun res s' => Served env (.str x) w res s')
      (fun _ s' => s'.world = w) { world := w } := by
  rw [wp_replyTo]
  simp only [dispatchCmd, Obj.type, if_true, wp_bind, convertBytes, wp_allocate, wp_pure]
  split
  · by_cases hping : x = bytes "PING"
    · subst hping
      simp only [if_true, wp_bind, wp_pack, wp_pure]
      exact ⟨rfl, rfl, by decide⟩
    · simp only [hping, if_false, wp_pure]
      exact served_unknown (s := { world := w }) rfl (fun h => hping (Obj.str.inj h)) rfl
  · trivial

theorem replyTo_other (hcmd : root.command = none) (hs : root.type ≠ .str) (w : W) :
    wp (replyTo env root) (fun res s' => Served env root w res s') (fun _ s' => s'.world = w)
      { world := w } := by
  have hping : root ≠ .str (bytes "PING") := by
    rintro rfl
    exact hs rfl
  let idle (s : HandlerState W) : Prop := s.world = w ∧ s.response = []
  have noted (s : HandlerState W) (i : Nat) (h : idle s) : idle (s.note (.element i)) := h
  have stays (s : HandlerState W) (h : idle s) : Served env root w .cont s.finish := by
    have served : Served env root s.world .cont s.finish := served_unknown hcmd hping h.2
    rwa [h.1] at served
  rw [wp_replyTo]
  refine wp_of_eq (dispatchCmd_of_no_command hcmd _) ?_
  unfold dispatchNone
  rw [if_neg hs, wp_ite]
  split
  · refine (keeps_element noted 0).wp_bind ⟨rfl, rfl⟩ (fun _ _ h => h.1) fun o s h => ?_
    rw [wp_ite]
    split
    · refine (keeps_bytesArg noted 0).wp_bind h (fun _ _ h => h.1) fun _ s h => ?_
      exact stays s h
    · exact stays s h
  · exact stays _ ⟨rfl, rfl⟩

/-- A request is answered with what its call comes to, or it throws and nothing has been done. -/
theorem replyTo_outcome (hread : root.InBounds ∨ env.MissingFails) {w : W}
    (written : ¬root.Unwritten env w) :
    wp (replyTo env root) (fun res s' => Served env root w res s')
      (fun _ s' => s'.world = root.untouched env w) { world := w } := by
  cases hcmd : root.command with
  | some c =>
    exact replyTo_command hcmd (hread.imp_left fun h => h c hcmd) fun h => written ⟨c, hcmd, h⟩
  | none =>
    have same : root.untouched env w = w := by
      unfold Obj.untouched
      rw [hcmd]
    rw [same]
    by_cases hs : root.type = .str
    · obtain ⟨x, rfl⟩ := Obj.type_eq_str.mp hs
      exact replyTo_str x w
    · exact replyTo_other hcmd hs w

theorem replyTo_served (hread : root.InBounds ∨ env.MissingFails)
    (fits : root.RequestFits env.machine) {w : W} (written : ¬root.Unwritten env w) :
    ∃ res s', replyTo env root { world := w } = .ok res s' ∧ Served env root w res s' := by
  cases hrun : replyTo env root { world := w } with
  | ok res s' => exact ⟨res, s', rfl, (replyTo_outcome hread written).ok hrun⟩
  | error e s' => exact absurd (((replyTo_spec hread w).error hrun).1 fits) written

theorem replyTo_misfit (hread : root.InBounds ∨ env.MissingFails)
    (misfit : ¬root.RequestFits env.machine) {w : W} (written : ¬root.Unwritten env w) :
    ∃ e s', replyTo env root { world := w } = .error e s' ∧ e ≠ .zmqError ∧
      s'.world = root.untouched env w := by
  cases hrun : replyTo env root { world := w } with
  | ok res s' => exact absurd ((replyTo_spec hread w).ok hrun).2 misfit
  | error e s' =>
    have uncaught := ((replyTo_spec hread w).error hrun).2
    exact ⟨e, s', rfl, uncaught, (replyTo_outcome hread written).error hrun⟩

/-- What was not written has no part in what a request comes to. -/
theorem outcome_withUnset (u : Unset) (w : W) :
    root.outcome (env.withUnset u) w = root.outcome env w := by
  unfold Obj.outcome
  cases Call.ofObj root with
  | none => rfl
  | some call => cases call <;> rfl

end Requests

/-- A request that is read within its bounds, or where what lies behind it fails every check, and
that asks for no list the bridge leaves unwritten, either makes exactly the debugger calls of the
command it encodes, with its arguments, and is answered with their result, or it leaves the
debugger alone; it throws exactly when the process cannot hold one of its values, and then nothing
has been done. -/
theorem request_all_or_nothing (env : Env W) (root : Obj)
    (hread : root.InBounds ∨ env.MissingFails) (w : W) (written : ¬root.Unwritten env w) :
    (root.RequestFits env.machine → ∃ res s', replyTo env root { world := w } = .ok res s' ∧
      s'.response = [(root.outcome env w).1] ∧ s'.world = (root.outcome env w).2 ∧
      (res = .exit ↔ Call.ofObj root = some .quit)) ∧
    (¬root.RequestFits env.machine → ∃ e s', replyTo env root { world := w } = .error e s' ∧
      s'.world = root.untouched env w) := by
  constructor
  · intro fits
    obtain ⟨res, s', hrun, served⟩ := replyTo_served hread fits written
    exact ⟨res, s', hrun, served.reply, served.world, served.exit⟩
  · intro misfit
    obtain ⟨e, s', hrun, -, world⟩ := replyTo_misfit hread misfit written
    exact ⟨e, s', hrun, world⟩

theorem pointer_check_all_or_nothing :
    let env := Env.idle (.native .x64) fun _ => none
    ∃ res s', replyTo env (Call.dbgIsValidReadPtr 0x401000).toObj { world := () } = .ok res s' ∧
      s'.response = [.boolean false] := by
  intro env
  let check : Call := .dbgIsValidReadPtr 0x401000
  have fits := (Call.requestFits_toObj (m := env.machine) check).mpr (by decide)
  have written : ¬check.toObj.Unwritten env () := by
    rintro ⟨c, hcmd, h⟩
    obtain rfl : .dbgIsValidReadPtr = c := Option.some.inj hcmd
    exact h
  obtain ⟨res, s', hrun, reply, -⟩ :=
    (request_all_or_nothing env _ (Or.inl check.inBounds_toObj) () written).1 fits
  exact ⟨res, s', hrun, reply⟩

end XAuto
