import XAuto.DecodedWords
import XAuto.Replies

namespace XAuto

open Handler Effect

variable {W : Type}

/-- The response buffer that is sent for a request, `none` when serving it throws. -/
def reply (env : Env W) (root : Obj) (w : W) : Option (List Obj) :=
  match replyTo env root { world := w } with
  | .ok _ s => some s.response
  | .error _ _ => none

/-- The request names a setting in two strings that the process can hold. -/
structure NamesSetting (m : Machine) (root : Obj) (section_ settingName : Bytes) : Prop where
  section_at : root.elems[1]? = some (.str section_)
  name_at : root.elems[2]? = some (.str settingName)
  section_fits : section_.length ≤ m.maxLength
  name_fits : settingName.length ≤ m.maxLength

/-- A request for a value that the bridge fails to write. -/
inductive ReadsJunk (env : Env W) (root : Obj) (w : W) : Command → Prop
  | settingUint {section_ settingName : Bytes}
      (names : NamesSetting env.machine root section_ settingName)
      (fails : (env.bridge.bridgeSettingGetUint (cstr section_) (cstr settingName) w).1 = none) :
      ReadsJunk env root w .dbgReadSettingUint
  | registers (fails : (env.bridge.dbgGetRegDumpEx w).1 = none) :
      ReadsJunk env root w .dbgReadRegisters
  | memmap (fails : (env.bridge.dbgMemMap w).1 = none) : ReadsJunk env root w .dbgMemmap

section Names

variable {env : Env W} {root : Obj}

/-- The first half of `dbg_read_setting_uint`. -/
def settingNames (env : Env W) (root : Obj) : Handler W (Option (Bytes × Bytes)) := do
  if ← badArgs env root 3 [(1, .str), (2, .str)] then
    pure none
  else
    let section_ ← bytesArg env root 1
    let settingName ← bytesArg env root 2
    pure (some (section_, settingName))

/-- The second half. -/
def settingUintReply (env : Env W) : Option (Bytes × Bytes) → Handler W Unit
  | none => pack (.errorResponse "XERROR_BAD_SETTING" "Invalid or missing setting string")
  | some (section_, settingName) => do
    let res ← call (env.bridge.bridgeSettingGetUint (cstr section_) (cstr settingName))
    pack (.array [.boolean res.isSome, .positiveInteger (res.getD env.junk.settingVal)])

theorem dbgReadSettingUint_eq (env : Env W) (root : Obj) :
    dbgReadSettingUint env root = settingNames env root >>= settingUintReply env := by
  unfold dbgReadSettingUint settingNames
  rw [bind_assoc]
  refine bind_congr fun bad => ?_
  cases bad with
  | true => rfl
  | false =>
    simp only [Bool.false_eq_true, if_false, bind_assoc, pure_bind]
    rfl

theorem NamesSetting.hasArgs {m : Machine} {section_ settingName : Bytes}
    (h : NamesSetting m root section_ settingName) :
    HasArgs root Command.dbgReadSettingUint.args := by
  simp [HasArgs, Command.args, h.section_at, h.name_at, Obj.type]

theorem namesSetting_iff {m : Machine} {a b : Bytes} (ha : root.elems[1]? = some (.str a))
    (hb : root.elems[2]? = some (.str b)) (section_ settingName : Bytes) :
    NamesSetting m root section_ settingName ↔
      section_ = a ∧ settingName = b ∧ a.length ≤ m.maxLength ∧ b.length ≤ m.maxLength := by
  constructor
  · intro h
    have h1 := h.section_at
    have h2 := h.name_at
    rw [ha] at h1
    rw [hb] at h2
    cases h1
    cases h2
    exact ⟨rfl, rfl, h.section_fits, h.name_fits⟩
  · rintro ⟨rfl, rfl, hfa, hfb⟩
    exact ⟨ha, hb, hfa, hfb⟩

theorem keeps_settingNames (w : W) :
    Keeps (fun s : HandlerState W => s.world = w ∧ s.response = []) (settingNames env root) := by
  have noted : ∀ (s : HandlerState W) (i : Nat), s.world = w ∧ s.response = [] →
      (s.note (.element i)).world = w ∧ (s.note (.element i)).response = [] := fun _ _ h => h
  refine (keeps_badArgs noted _ _).bind fun bad => .ite (.pure _) ?_
  exact (keeps_bytesArg noted 1).bind fun _ => (keeps_bytesArg noted 2).bind fun _ => .pure _

theorem settingNames_found {s : HandlerState W} (hc : Clean root .dbgReadSettingUint s.trace) :
    wp (settingNames env root)
      (fun names _ => ∀ section_ settingName, names = some (section_, settingName) ↔
        NamesSetting env.machine root section_ settingName)
      (fun _ _ => ∀ section_ settingName,
        ¬NamesSetting env.machine root section_ settingName) s := by
  have check := wp_badArgs_covering env 3 (by decide) (by decide) hc
  unfold settingNames
  rw [wp_bind]
  refine wp_mono check (fun bad t ht => ?_) fun _ _ h => h.elim
  obtain ⟨-, -, hbad⟩ := ht
  cases bad with
  | true =>
    have missing : ¬HasArgs root Command.dbgReadSettingUint.args := by simpa using hbad
    rw [if_pos rfl, wp_pure]
    intro section_ settingName
    exact iff_of_false (by simp) fun h => missing h.hasArgs
  | false =>
    have hargs : HasArgs root Command.dbgReadSettingUint.args := hbad.mp rfl
    obtain ⟨a, ha⟩ := hargs.str (i := 1) (by decide)
    obtain ⟨b, hb⟩ := hargs.str (i := 2) (by decide)
    simp only [namesSetting_iff ha hb]
    rw [if_neg Bool.false_ne_true, wp_bind, wp_bytesArg (Or.inl (Env.arg_of_elem ha))]
    by_cases hfa : a.length ≤ env.machine.maxLength
    · rw [if_pos hfa, wp_bind, wp_bytesArg (Or.inl (Env.arg_of_elem hb))]
      by_cases hfb : b.length ≤ env.machine.maxLength
      · rw [if_pos hfb, wp_pure]
        intro section_ settingName
        constructor
        · intro h
          cases h
          exact ⟨rfl, rfl, hfa, hfb⟩
        · rintro ⟨rfl, rfl, -⟩
          rfl
      · rw [if_neg hfb]
        exact fun _ _ h => hfb h.2.2.2
    · rw [if_neg hfa]
      exact fun _ _ h => hfa h.2.2.1

theorem wp_settingNames {s : HandlerState W} (hs : s.response = [])
    (hc : Clean root .dbgReadSettingUint s.trace) :
    wp (settingNames env root)
      (fun names t => (∀ section_ settingName, names = some (section_, settingName) ↔
        NamesSetting env.machine root section_ settingName) ∧ t.world = s.world ∧ t.response = [])
      (fun _ _ => ∀ section_ settingName,
        ¬NamesSetting env.machine root section_ settingName) s :=
  wp_mono (wp_and (settingNames_found hc) (keeps_settingNames s.world s ⟨rfl, hs⟩))
    (fun _ _ h => h) fun _ _ h => h.1

end Names

section Replies

variable {env : Env W} {root : Obj} {c : Command} {w : W} {s : HandlerState W}

theorem call_congr {α β : Type} {f : W → α × W} {g₁ g₂ : α → Handler W β} {a : α}
    (h : (f s.world).1 = a) (hg : g₁ a = g₂ a) : (call f >>= g₁) s = (call f >>= g₂) s := by
  show g₁ (f s.world).1 _ = g₂ (f s.world).1 _
  rw [h, hg]

/-- The uninitialised locals matter to the handler only where the bridge leaves one unwritten. -/
theorem handler_withJunk (junk : Junk) (hs : s.response = []) (hc : Clean root c s.trace)
    (h : ¬ReadsJunk env root s.world c) :
    handler (env.withJunk junk) root c s = handler env root c s := by
  cases c with
  | dbgMemmap =>
    obtain ⟨mm, hmm⟩ : ∃ mm, (env.bridge.dbgMemMap s.world).1 = some mm :=
      Option.ne_none_iff_exists'.mp fun fails => h (.memmap fails)
    exact call_congr hmm rfl
  | dbgReadRegisters =>
    obtain ⟨rd, hrd⟩ : ∃ rd, (env.bridge.dbgGetRegDumpEx s.world).1 = some rd :=
      Option.ne_none_iff_exists'.mp fun fails => h (.registers fails)
    exact call_congr hrd rfl
  | dbgReadSettingUint =>
    show dbgReadSettingUint (env.withJunk junk) root s = dbgReadSettingUint env root s
    rw [dbgReadSettingUint_eq, dbgReadSettingUint_eq]
    refine bind_congr_of_wp (wp_settingNames hs hc) fun names t ht => ?_
    obtain ⟨named, world, -⟩ := ht
    match names, named with
    | none, _ => rfl
    | some (section_, settingName), named =>
      have found := fun fails => h (.settingUint ((named _ _).mp rfl) fails)
      rw [← world] at found
      obtain ⟨value, hvalue⟩ := Option.ne_none_iff_exists'.mp found
      exact call_congr hvalue rfl
  | _ => rfl

theorem dispatchCmd_withJunk (junk : Junk)
    (h : ∀ c, root.command = some c → ¬ReadsJunk env root w c) :
    dispatchCmd (env.withJunk junk) root { world := w } = dispatchCmd env root { world := w } := by
  cases hcmd : root.command with
  | some c =>
    refine eq_of_wp fun Q E run => ?_
    rw [wp_dispatchCmd_command hcmd] at run ⊢
    have same := handler_withJunk junk (s := begun w) rfl (clean_begun hcmd w) (h c hcmd)
    exact wp_of_eq same run
  | none =>
    rw [dispatchCmd_of_no_command hcmd, dispatchCmd_of_no_command hcmd]
    rfl

theorem reply_withJunk (junk : Junk)
    (h : ∀ c, root.command = some c → ¬ReadsJunk env root w c) :
    reply (env.withJunk junk) root w = reply env root w := by
  have same := dispatchCmd_withJunk junk h
  have replies : replyTo (env.withJunk junk) root { world := w } =
      replyTo env root { world := w } := by
    refine eq_of_wp fun Q E run => ?_
    rw [wp_replyTo] at run ⊢
    exact wp_of_eq same run
  unfold reply
  rw [replies]

/-- A handler that returns with one object packed sends it. -/
theorem reply_of_handler {R : Obj → Prop} (hcmd : root.command = some c)
    (h : wp (handler env root c) (fun _ s => ∃ r, s.response = [r] ∧ R r) (fun _ _ => False)
      (begun w)) : ∃ r, reply env root w = some [r] ∧ R r := by
  have run : wp (replyTo env root) (fun _ s => ∃ r, s.response = [r] ∧ R r) (fun _ _ => False)
      { world := w } := by
    rw [wp_replyTo, wp_dispatchCmd_command hcmd]
    refine wp_mono h (fun _ s hs => ?_) fun _ _ h => h
    obtain ⟨r, hr, hR⟩ := hs
    have packed : s.finish = s := if_neg (by simp [hr])
    rw [packed]
    exact ⟨r, hr, hR⟩
  obtain ⟨res, s, hs⟩ := run.returns
  obtain ⟨r, hr, hR⟩ := run.ok hs
  refine ⟨r, ?_, hR⟩
  unfold reply
  rw [hs]
  exact congrArg some hr

theorem reply_of_handler_throws (hcmd : root.command = some c)
    (h : wp (handler env root c) (fun _ _ => False) (fun _ _ => True) (begun w)) :
    reply env root w = none := by
  have run : wp (replyTo env root) (fun _ _ => False) (fun _ _ => True) { world := w } := by
    rw [wp_replyTo, wp_dispatchCmd_command hcmd]
    exact wp_mono h (fun _ _ h => h.elim) fun _ _ h => h
  obtain ⟨e, s, hs, -⟩ := run.throws
  unfold reply
  rw [hs]

/-- A part of the reply in which the contents of a local can be seen. -/
theorem leaks_of_seen {α : Type} {part : Obj → α} {seen : Junk → α} (hcmd : root.command = some c)
    (run : ∀ j, wp (handler (env.withJunk j) root c)
      (fun _ s => ∃ r, s.response = [r] ∧ part r = seen j) (fun _ _ => False) (begun w))
    {j₁ j₂ : Junk} (apart : seen j₁ ≠ seen j₂) :
    reply (env.withJunk j₁) root w ≠ reply (env.withJunk j₂) root w := by
  obtain ⟨r₁, h₁, hr₁⟩ := reply_of_handler hcmd (run j₁)
  obtain ⟨r₂, h₂, hr₂⟩ := reply_of_handler hcmd (run j₂)
  intro same
  rw [h₁, h₂] at same
  obtain rfl : r₁ = r₂ := by simpa using same
  exact apart (hr₁.symm.trans hr₂)

theorem wp_dbgReadSettingUint_failed (env : Env W) {section_ settingName : Bytes}
    (names : NamesSetting env.machine root section_ settingName)
    (fails : (env.bridge.bridgeSettingGetUint (cstr section_) (cstr settingName) s.world).1 = none)
    (hs : s.response = []) (hc : Clean root .dbgReadSettingUint s.trace) :
    wp (dbgReadSettingUint env root)
      (fun _ t => t.response = [.array [.boolean false, .positiveInteger env.junk.settingVal]])
      (fun _ _ => False) s := by
  rw [dbgReadSettingUint_eq, wp_bind]
  refine wp_mono (wp_settingNames hs hc) (fun found t ht => ?_) fun _ _ h => absurd names (h _ _)
  obtain ⟨named, world, response⟩ := ht
  rw [(named _ _).mpr names]
  simp only [settingUintReply, wp_bind, wp_call, wp_pack, HandlerState.pack_response,
    HandlerState.moveTo_response, response, world, fails]
  rfl

theorem ReadsJunk.leaks (hcmd : root.command = some c) (h : ReadsJunk env root w c) :
    ∃ j₁ j₂, reply (env.withJunk j₁) root w ≠ reply (env.withJunk j₂) root w := by
  have zero : Junk := ⟨0, default, ⟨0, 0⟩⟩
  cases h with
  | settingUint names fails =>
    let seen (j : Junk) : Obj := .array [.boolean false, .positiveInteger j.settingVal]
    have run (j : Junk) : wp (handler (env.withJunk j) root .dbgReadSettingUint)
        (fun _ s => ∃ r, s.response = [r] ∧ id r = seen j) (fun _ _ => False) (begun w) :=
      wp_mono (wp_dbgReadSettingUint_failed (env.withJunk j) names fails rfl
        (clean_begun hcmd w)) (fun _ t ht => ⟨_, ht, rfl⟩) fun _ _ h => h
    have apart : seen { zero with settingVal := 0 } ≠ seen { zero with settingVal := 1 } := by
      simp [seen]
    exact ⟨_, _, leaks_of_seen hcmd run apart⟩
  | registers fails =>
    let part (r : Obj) : Option Obj := r.path [1, RegDumpTup.eflagsIndex env.machine.bitness]
    let seen (j : Junk) : Option Obj := some (.positiveInteger j.rd.eflags)
    have run (j : Junk) : wp (handler (env.withJunk j) root .dbgReadRegisters)
        (fun _ s => ∃ r, s.response = [r] ∧ part r = seen j) (fun _ _ => False) (begun w) := by
      refine wp_mono (wp_dbgReadRegs (env.withJunk j) (begun w)) (fun _ t ht => ?_) fun _ _ h => h
      obtain ⟨lastErrorName, lastStatusName, ht⟩ := ht
      have unread : ((env.withJunk j).bridge.dbgGetRegDumpEx (begun w).world).1 = none := fails
      rw [unread] at ht
      exact ⟨_, ht, RegDumpTup.path_eflags ..⟩
    have apart : seen { zero with rd := { zero.rd with eflags := 0 } } ≠
        seen { zero with rd := { zero.rd with eflags := 1 } } := by
      simp [seen]
    exact ⟨_, _, leaks_of_seen hcmd run apart⟩
  | memmap fails =>
    -- with no page on the stack an empty list is sent, with one at null the handler faults
    let j₁ : Junk := { zero with mm := ⟨0, 0⟩ }
    let j₂ : Junk := { zero with mm := ⟨1, 0⟩ }
    have unread (j : Junk) : ((env.withJunk j).bridge.dbgMemMap (begun w).world).1 = none := fails
    have sent : wp (handler (env.withJunk j₁) root .dbgMemmap)
        (fun _ s => ∃ r, s.response = [r] ∧ True) (fun _ _ => False) (begun w) := by
      have turns : j₁.mm.turns env.machine.bitness = 0 := by
        cases env.machine.bitness <;> rfl
      show wp (dbgMemmap (env.withJunk j₁)) _ _ _
      simp only [dbgMemmap, wp_bind, wp_call, unread]
      show wp (strayPages _ _ (j₁.mm.turns env.machine.bitness) 0) _ _ _
      rw [turns, strayPages, wp_pure, wp_pack, freeStray]
      show wp (if env.stray.freeable 0 = true then _ else _) _ _ _
      rw [env.stray.null_freeable, if_pos rfl, wp_bridgeFree]
      exact ⟨_, rfl, trivial⟩
    have faulted : wp (handler (env.withJunk j₂) root .dbgMemmap) (fun _ _ => False)
        (fun _ _ => True) (begun w) := by
      have turns : j₂.mm.turns env.machine.bitness = 1 := by
        cases env.machine.bitness <;> rfl
      show wp (dbgMemmap (env.withJunk j₂)) _ _ _
      simp only [dbgMemmap, wp_bind, wp_call, unread]
      show wp (strayPages _ _ (j₂.mm.turns env.machine.bitness) 0) _ _ _
      have unreadable : (env.withJunk j₂).stray.pageAt j₂.mm.page 0 = none :=
        env.stray.null_unreadable
      rw [turns]
      exact (wp_strayPages_unreadable unreadable).mpr trivial
    obtain ⟨r, sends, -⟩ := reply_of_handler hcmd sent
    have throws := reply_of_handler_throws hcmd faulted
    exact ⟨j₁, j₂, by simp [sends, throws]⟩

end Replies

/-- Replies are free of the contents of uninitialised locals exactly when no request is for a
value that the bridge fails to write. -/
theorem reply_junk_free_iff (env : Env W) (root : Obj) (w : W) :
    (∀ j₁ j₂, reply (env.withJunk j₁) root w = reply (env.withJunk j₂) root w) ↔
      ∀ c, root.command = some c → ¬ReadsJunk env root w c := by
  constructor
  · intro same c hcmd h
    obtain ⟨j₁, j₂, apart⟩ := h.leaks hcmd
    exact apart (same j₁ j₂)
  · intro h j₁ j₂
    rw [reply_withJunk j₁ h, reply_withJunk j₂ h]

def registerRead : Obj := .array [.str Command.dbgReadRegisters.name]

/-- A failed register dump sends what was on the stack. -/
theorem failed_register_read_leaks :
    ¬∀ (env : Env Unit) (root : Obj) (w : Unit) (j₁ j₂ : Junk),
      reply (env.withJunk j₁) root w = reply (env.withJunk j₂) root w := by
  intro h
  let env : Env Unit := .idle (.native .x64) fun _ => none
  have unread : ReadsJunk env registerRead () .dbgReadRegisters := .registers rfl
  obtain ⟨j₁, j₂, apart⟩ := unread.leaks (by decide)
  exact apart (h env registerRead () j₁ j₂)

end XAuto
