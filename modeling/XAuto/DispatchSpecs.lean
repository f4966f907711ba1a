import XAuto.HandlerSpecs

namespace XAuto

open Handler Effect

variable {W : Type}

section Requests

variable (m : Machine) (root : Obj)

def Obj.command : Obj → Option Command
  | .array (.str s :: _) => Command.ofName s
  | _ => none

/-- The string that `_dispatch_cmd` compares fits into one of the process. -/
def Obj.HeadFits : Obj → Prop
  | .str s => s.length ≤ m.maxLength
  | .array (.str s :: _) => s.length ≤ m.maxLength
  | _ => True

def Obj.Recognised : Prop := root = .str (bytes "PING") ∨ root.command ≠ none

def Obj.InBounds : Prop := ∀ c ∈ root.command, c.InBounds root

/-- The process can represent and hold every value that serving the request converts. -/
def Obj.RequestFits : Prop := root.HeadFits m ∧ ∀ c ∈ root.command, c.Fits m root

def Obj.Refused : Prop := ∃ c ∈ root.command, c.Refuses root

/-- Serving the request goes on with a list that the bridge left unwritten. -/
def Obj.Unwritten (env : Env W) (w : W) : Prop := ∃ c ∈ root.command, c.Unwritten env root w

variable {root}

/-- A write of a setting that stops after the name of the setting. -/
def Obj.ShortSettingWrite (root : Obj) : Prop :=
  root.elems.length = 3 ∧ HasArgs root [(1, .str), (2, .str)] ∧
    (root.command = some .dbgWriteSettingSz ∨ root.command = some .dbgWriteSettingUint)

theorem inBounds_iff : root.InBounds ↔ ¬root.ShortSettingWrite := by
  unfold Obj.InBounds Obj.ShortSettingWrite
  constructor
  · rintro h ⟨hl, ha, hc | hc⟩
    · exact h _ hc ⟨hl, ha⟩
    · exact h _ hc ⟨hl, ha⟩
  · intro h c hc
    cases c with
    | dbgWriteSettingSz => exact fun hb => h ⟨hb.1, hb.2, Or.inl hc⟩
    | dbgWriteSettingUint => exact fun hb => h ⟨hb.1, hb.2, Or.inr hc⟩
    | _ => trivial

end Requests

structure Dispatched (env : Env W) (root : Obj) (res : DispatchResult) (s' : HandlerState W) :
    Prop where
  passed : ∀ e ∈ s'.trace, e.Passed root
  inRange : root.InBounds → ∀ e ∈ s'.trace, e.InRange root
  fits : root.RequestFits env.machine
  exit : res = .exit ↔ root.command = some .quit
  reply : (¬root.Recognised ∧ s'.response = []) ∨
    root.Recognised ∧ ∃ r, s'.response = [r] ∧
      (r.IsError ↔ root.Refused ∨ ∃ e ∈ s'.trace, e.memFailure = true)

structure DispatchThrew (env : Env W) (root : Obj) (w : W) (e : Exn) (s' : HandlerState W) :
    Prop where
  passed : ∀ e ∈ s'.trace, e.Passed root
  inRange : root.InBounds → ∀ e ∈ s'.trace, e.InRange root
  misfit : root.RequestFits env.machine → root.Unwritten env w
  uncaught : e ≠ .zmqError

section Dispatch

variable {env : Env W} {root : Obj}

theorem command_fits_head {s : Bytes} {c : Command} (m : Machine)
    (h : Command.ofName s = some c) : s.length ≤ m.maxLength := by
  obtain rfl := Command.ofName_eq_some.mp h
  exact (c.name_length_le c.mem_all).trans m.holdsNames

/-- Nothing was looked at but the head. -/
def Quiet (root : Obj) (s : HandlerState W) : Prop :=
  ∀ e ∈ s.trace, e = .element 0 ∧ 0 < root.elems.length

theorem Quiet.passed {s : HandlerState W} (h : Quiet root s) : ∀ e ∈ s.trace, e.Passed root := by
  intro e he
  rw [(h e he).1]
  trivial

theorem Quiet.inRange {s : HandlerState W} (h : Quiet root s) :
    ∀ e ∈ s.trace, e.InRange root := by
  intro e he
  obtain ⟨rfl, hlen⟩ := h e he
  exact hlen

theorem dispatched_of_no_command {s : HandlerState W} (hcmd : root.command = none)
    (quiet : Quiet root s) (fits : root.HeadFits env.machine)
    (reply : (¬root.Recognised ∧ s.response = []) ∨
      root.Recognised ∧ ∃ r, s.response = [r] ∧ ¬r.IsError) :
    Dispatched env root .cont s := by
  have unrefused : ¬root.Refused := by simp [Obj.Refused, hcmd]
  have noFailure : ¬∃ e ∈ s.trace, e.memFailure = true := by
    rintro ⟨e, he, failed⟩
    rw [(quiet e he).1] at failed
    exact Bool.false_ne_true failed
  refine ⟨quiet.passed, fun _ => quiet.inRange, ⟨fits, by simp [hcmd]⟩, by simp [hcmd], ?_⟩
  refine reply.imp_right fun ⟨known, r, hr, noError⟩ => ⟨known, r, hr, ?_⟩
  exact iff_of_false noError (not_or.mpr ⟨unrefused, noFailure⟩)

theorem dispatchThrew_of_misfit {s : HandlerState W} {w : W} (quiet : Quiet root s)
    (misfit : ¬root.HeadFits env.machine) : DispatchThrew env root w .lengthError s :=
  ⟨quiet.passed, fun _ => quiet.inRange, fun h => absurd h.1 misfit, by decide⟩

theorem dispatchCmd_str {s : Bytes} (w : W) :
    wp (dispatchCmd env (.str s)) (fun res s' => Dispatched env (.str s) res s')
      (fun e s' => DispatchThrew env (.str s) w e s') { world := w } := by
  simp only [dispatchCmd, Obj.type, if_true, wp_bind, convertBytes, wp_allocate, wp_pure]
  have hcmd : (Obj.str s).command = none := rfl
  by_cases hf : s.length ≤ env.machine.maxLength
  · rw [if_pos hf]
    by_cases hping : s = bytes "PING"
    · subst hping
      have hpong : ¬(Obj.str (bytes "PONG")).IsError := not_isError_of_type (by simp [Obj.type])
      simp only [if_true, wp_bind, wp_pack, wp_pure]
      exact dispatched_of_no_command hcmd (by simp [Quiet]) hf
        (Or.inr ⟨Or.inl rfl, _, rfl, hpong⟩)
    · have hunknown : ¬(Obj.str s).Recognised := by simpa [Obj.Recognised, hcmd] using hping
      simp only [hping, if_false, wp_pure]
      exact dispatched_of_no_command hcmd (by simp [Quiet]) hf (Or.inl ⟨hunknown, rfl⟩)
  · rw [if_neg hf]
    exact dispatchThrew_of_misfit (by simp [Quiet]) hf

theorem eq_array_of_head {o : Obj} (h : root.elems[0]? = some o) :
    ∃ args, root = .array (o :: args) := by
  cases root with
  | array elems =>
    cases elems with
    | nil => simp [Obj.elems] at h
    | cons p args => exact ⟨args, by simpa [Obj.elems] using h⟩
  | _ => simp [Obj.elems] at h

theorem eq_array_of_command {c : Command} (h : root.command = some c) :
    ∃ args, root = .array (.str c.name :: args) := by
  unfold Obj.command at h
  split at h
  next s args => exact ⟨args, by rw [Command.ofName_eq_some.mp h]⟩
  next => simp at h

/-- The two looks at the head, and what is left to do. -/
theorem wp_dispatchCmd_headed {s : Bytes} {args : List Obj}
    {Q : DispatchResult → HandlerState W → Prop} {E : Exn → HandlerState W → Prop}
    {t : HandlerState W} :
    wp (dispatchCmd env (.array (.str s :: args))) Q E t ↔
      if s.length ≤ env.machine.maxLength then
        wp (match Command.ofName s with
          | some c => do
            handler env (.array (.str s :: args)) c
            pure (if c = .quit then .exit else .cont)
          | none => pure .cont) Q E ((t.note (.element 0)).note (.element 0))
      else E .lengthError ((t.note (.element 0)).note (.element 0)) := by
  have h0 : (Obj.array (.str s :: args)).elems[0]? = some (.str s) := rfl
  have hlen : 0 < (Obj.array (.str s :: args)).elems.length := Nat.succ_pos _
  unfold dispatchCmd
  cases hname : Command.ofName s <;>
    simp only [hlen, and_self, if_true, reduceCtorEq, if_false, wp_bind, wp_element h0,
      wp_bytesArg (Or.inl (Env.arg_of_elem h0)), Obj.type, hname]

/-- Where the handler of a command starts. -/
def begun (w : W) : HandlerState W :=
  (({ world := w } : HandlerState W).note (.element 0)).note (.element 0)

theorem wp_dispatchCmd_command {c : Command} {Q : DispatchResult → HandlerState W → Prop}
    {E : Exn → HandlerState W → Prop} {w : W} (hcmd : root.command = some c) :
    wp (dispatchCmd env root) Q E { world := w } ↔
      wp (handler env root c) (fun _ s => Q (if c = .quit then .exit else .cont) s) E
        (begun w) := by
  obtain ⟨args, rfl⟩ := eq_array_of_command hcmd
  have hname : Command.ofName c.name = some c := hcmd
  rw [wp_dispatchCmd_headed, if_pos (command_fits_head env.machine hname), hname]
  simp only [wp_bind, wp_pure]
  rfl

theorem clean_begun {c : Command} (hcmd : root.command = some c) (w : W) :
    Clean root c (begun w).trace := by
  obtain ⟨args, rfl⟩ := eq_array_of_command hcmd
  have hlen : 0 < (Obj.array (.str c.name :: args)).elems.length := Nat.succ_pos _
  simp [begun, Event.Passed, Event.memFailure, Event.InRange, hlen]

theorem headFits_of_command {c : Command} (m : Machine) (hcmd : root.command = some c) :
    root.HeadFits m := by
  obtain ⟨args, rfl⟩ := eq_array_of_command hcmd
  exact command_fits_head m hcmd

theorem dispatchCmd_command {c : Command} (hcmd : root.command = some c)
    (hread : c.InBounds root ∨ env.MissingFails) (w : W) :
    wp (dispatchCmd env root) (fun res s' => Dispatched env root res s')
      (fun e s' => DispatchThrew env root w e s') { world := w } := by
  rw [wp_dispatchCmd_command hcmd]
  refine wp_mono (handler_answers c hread _ (clean_begun hcmd w)) ?_ ?_
  · intro _ s' h
    have hknown : root.Recognised := by simp [Obj.Recognised, hcmd]
    obtain ⟨r, hr, herr⟩ := h.reply
    refine ⟨h.passed, fun hb => h.inRange (hb c hcmd),
      ⟨headFits_of_command env.machine hcmd, ?_⟩, ?_, Or.inr ⟨hknown, r, hr, ?_⟩⟩
    · simpa [hcmd] using h.fits
    · rw [hcmd]
      split <;> simp [*]
    · simpa [Obj.Refused, hcmd] using herr
  · intro e s' h
    exact
      { passed := h.passed
        inRange := fun hb => h.inRange (hb c hcmd)
        misfit := fun hf => ⟨c, hcmd, h.misfit (hf.2 c hcmd)⟩
        uncaught := h.uncaught }

theorem dispatchCmd_unknown {s : Bytes} {args : List Obj} (hname : Command.ofName s = none)
    (w : W) :
    wp (dispatchCmd env (.array (.str s :: args)))
      (fun res s' => Dispatched env (.array (.str s :: args)) res s')
      (fun e s' => DispatchThrew env (.array (.str s :: args)) w e s') { world := w } := by
  have hcmd : (Obj.array (.str s :: args)).command = none := hname
  have hunknown : ¬(Obj.array (.str s :: args)).Recognised := by simp [Obj.Recognised, hcmd]
  have hlen : 0 < (Obj.array (.str s :: args)).elems.length := Nat.succ_pos _
  have quiet : Quiet (.array (.str s :: args)) (begun w) := by simp [Quiet, begun, hlen]
  rw [wp_dispatchCmd_headed, hname]
  by_cases hf : s.length ≤ env.machine.maxLength
  · rw [if_pos hf, wp_pure]
    exact dispatched_of_no_command hcmd quiet hf (Or.inl ⟨hunknown, rfl⟩)
  · rw [if_neg hf]
    exact dispatchThrew_of_misfit quiet hf

theorem dispatchCmd_other (hs : root.type ≠ .str) (hh : ∀ s args, root ≠ .array (.str s :: args))
    (w : W) : wp (dispatchCmd env root) (fun res s' => Dispatched env root res s')
      (fun e s' => DispatchThrew env root w e s') { world := w } := by
  have hcmd : root.command = none := by
    unfold Obj.command
    split
    next s args => exact absurd rfl (hh s args)
    next => rfl
  have hfits : root.HeadFits env.machine := by
    unfold Obj.HeadFits
    split
    next => exact absurd rfl hs
    next s args => exact absurd rfl (hh s args)
    next => trivial
  have hunknown : ¬root.Recognised := by
    rintro (rfl | h)
    · exact hs rfl
    · exact h hcmd
  unfold dispatchCmd
  rw [if_neg hs]
  split
  next h =>
    obtain ⟨o, ho⟩ : ∃ o, root.elems[0]? = some o := ⟨_, List.getElem?_eq_getElem h.2⟩
    have ht : o.type ≠ .str := by
      rintro ht
      obtain ⟨s, rfl⟩ := Obj.type_eq_str.mp ht
      obtain ⟨args, eq⟩ := eq_array_of_head ho
      exact hh s args eq
    rw [wp_bind, wp_element ho, if_neg ht]
    exact dispatched_of_no_command hcmd (by simp [Quiet, h.2]) hfits (Or.inl ⟨hunknown, rfl⟩)
  next => exact dispatched_of_no_command hcmd (by simp [Quiet]) hfits (Or.inl ⟨hunknown, rfl⟩)

theorem dispatchCmd_spec (hread : root.InBounds ∨ env.MissingFails) (w : W) :
    wp (dispatchCmd env root) (fun res s' => Dispatched env root res s')
      (fun e s' => DispatchThrew env root w e s') { world := w } := by
  by_cases hs : root.type = .str
  · obtain ⟨s, rfl⟩ := Obj.type_eq_str.mp hs
    exact dispatchCmd_str w
  by_cases hh : ∃ s args, root = .array (.str s :: args)
  · obtain ⟨s, args, rfl⟩ := hh
    cases hname : Command.ofName s with
    | none => exact dispatchCmd_unknown hname w
    | some c =>
      have hcmd : (Obj.array (.str s :: args)).command = some c := hname
      exact dispatchCmd_command hcmd (hread.imp_left fun h => h c hcmd) w
  · exact dispatchCmd_other hs (fun s args h => hh ⟨s, args, h⟩) w

/-- What is left of the dispatch when the request names no command. -/
def dispatchNone (env : Env W) (root : Obj) : Handler W DispatchResult := do
  if root.type = .str then
    let str ← convertBytes env root
    if str = bytes "PING" then
      pack (.str (bytes "PONG"))
    pure .cont
  else if root.type = .array ∧ 0 < root.elems.length then
    if (← element env root 0).type = .str then
      let _ ← bytesArg env root 0
      pure .cont
    else pure .cont
  else pure .cont

theorem dispatchCmd_of_no_command (hcmd : root.command = none) (s : HandlerState W) :
    dispatchCmd env root s = dispatchNone env root s := by
  unfold dispatchCmd dispatchNone
  by_cases hs : root.type = .str
  · rw [if_pos hs, if_pos hs]
  rw [if_neg hs, if_neg hs]
  by_cases hl : root.type = .array ∧ 0 < root.elems.length
  · have ho : root.elems[0]? = some root.elems[0] := List.getElem?_eq_getElem hl.2
    rw [if_pos hl, if_pos hl, element_run ho, element_run ho]
    by_cases ht : root.elems[0].type = .str
    · obtain ⟨x, hx⟩ := Obj.type_eq_str.mp ht
      obtain ⟨args, rfl⟩ := eq_array_of_head (hx ▸ ho)
      have unknown : Command.ofName x = none := hcmd
      have head : wp (bytesArg env (.array (.str x :: args)) 0) (fun cmd _ => cmd = x)
          (fun _ _ => True) (s.note (.element 0)) := by
        rw [wp_bytesArg (Or.inl (Env.arg_of_elem rfl))]
        split <;> trivial
      rw [if_pos ht, if_pos ht]
      refine bind_congr_of_wp head fun cmd _ hcmd => ?_
      rw [hcmd, unknown]
    · rw [if_neg ht, if_neg ht]
  · rw [if_neg hl, if_neg hl]

end Dispatch

end XAuto
