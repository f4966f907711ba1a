import XAuto.RemoteCalls

namespace XAuto

variable {W : Type} {env : Env W} {store : W → Store} {text : SettingText}

namespace Call

/-- The commands that read or write settings. -/
def isSetting : Call → Bool
  | dbgReadSettingSz .. | dbgWriteSettingSz .. => true
  | dbgReadSettingUint .. | dbgWriteSettingUint .. => true
  | _ => false

/-- What a call writes to a setting; a text that is too long is not stored. -/
def settingWrite (text : SettingText) (maxSize : Nat) : Call → Bytes × Bytes → Option (Option Bytes)
  | dbgWriteSettingSz section_ settingName settingVal, k =>
    if k = (cstr section_, cstr settingName) ∧ (cstr settingVal).length < maxSize then
      some (some (cstr settingVal))
    else none
  | dbgWriteSettingUint section_ settingName settingVal, k =>
    if k = (cstr section_, cstr settingName) then some (some (text.ofUint settingVal)) else none
  | _, _ => none

/-- A call that leaves the settings alone. -/
def SparesSettings (env : Env W) (store : W → Store) (call : Call) : Prop :=
  ∀ w, store (after env w call) = store w

/-- The blocks that a setting is read into are no settings. -/
structure BlocksApart (bridge : Bridge W) (store : W → Store) : Prop where
  alloc : ∀ size w, store (bridge.bridgeAlloc size w).2 = store w
  free : ∀ block w, store (bridge.bridgeFree block w).2 = store w

theorem set_eq_getD (st : Store) (section_ key value : Bytes) (k : Bytes × Bytes) :
    st.set section_ key value k =
      (if k = (section_, key) then some (some value) else none).getD (st k) := by
  split
  next h => rw [h, Store.set_same]; rfl
  next h => rw [Store.set_of_ne st h]; rfl

theorem settings_written (hs : env.bridge.Stores store text env.maxSettingSize)
    (hb : BlocksApart env.bridge store) {call : Call}
    (spares : call.isSetting = false → call.SparesSettings env store) (w : W) :
    LastWrite.Writes (after env) store (settingWrite text env.maxSettingSize) w call := by
  intro k
  cases call with
  | dbgReadSettingSz section_ settingName =>
    have kept : store (after env w (.dbgReadSettingSz section_ settingName)) = store w := by
      simp only [after, perform, result, hb.free, hs.get_store, hb.alloc]
    rw [kept]
    rfl
  | dbgReadSettingUint section_ settingName =>
    have kept : store (after env w (.dbgReadSettingUint section_ settingName)) = store w :=
      hs.getUint_store _ _ w
    rw [kept]
    rfl
  | dbgWriteSettingSz section_ settingName settingVal =>
    have set : store (after env w (.dbgWriteSettingSz section_ settingName settingVal)) = _ :=
      hs.set_store _ _ _ w
    rw [set]
    split
    next short => simp [settingWrite, short, set_eq_getD]
    next long => simp [settingWrite, long]
  | dbgWriteSettingUint section_ settingName settingVal =>
    have set : store (after env w (.dbgWriteSettingUint section_ settingName settingVal)) = _ :=
      hs.setUint_store _ _ _ w
    rw [set, set_eq_getD]
    rfl
  | _ =>
    rw [spares rfl w]
    rfl

/-- The setting that the calls leave: what was written last, or what was there before. -/
def lastSetting (env : Env W) (text : SettingText) (calls : List Call) (st : Store) : Store :=
  fun k => (LastWrite.last (settingWrite text env.maxSettingSize) calls k).getD (st k)

theorem store_foldl (hs : env.bridge.Stores store text env.maxSettingSize)
    (hb : BlocksApart env.bridge store) {calls : List Call}
    (spares : ∀ call ∈ calls, call.isSetting = false → call.SparesSettings env store) (w : W) :
    store (calls.foldl (after env) w) = lastSetting env text calls (store w) := by
  funext k
  refine LastWrite.view_foldl store (fun v hv => ?_) k
  have hmem : v.2 ∈ calls := by
    obtain ⟨before, rest, rfl, -⟩ := Run.mem_visits.mp hv
    simp
  exact settings_written hs hb (spares v.2 hmem) v.1

/-- The reply to a read of a setting; what it holds beside a failure is not initialised. -/
def szReply (unset : Bytes) : Option Bytes → Obj
  | some value => .array [.boolean true, .str (cstr value)]
  | none => .array [.boolean false, .str unset]

def uintReply (unset : UInt64) : Option UInt64 → Obj
  | some n => .array [.boolean true, .positiveInteger n]
  | none => .array [.boolean false, .positiveInteger unset]

theorem perform_readSettingSz (hs : env.bridge.Stores store text env.maxSettingSize)
    (hb : BlocksApart env.bridge store) (section_ settingName : Bytes) (w : W) :
    ∃ unset, ((dbgReadSettingSz section_ settingName).perform env w).1 =
      szReply unset (store w (cstr section_, cstr settingName)) := by
  refine ⟨cstr (env.bridge.bridgeAlloc env.maxSettingSize w).1.text, ?_⟩
  simp only [perform, result, hs.get, hb.alloc]
  cases store w (cstr section_, cstr settingName) <;> rfl

theorem perform_readSettingUint (hs : env.bridge.Stores store text env.maxSettingSize)
    (section_ settingName : Bytes) (w : W) :
    ((dbgReadSettingUint section_ settingName).perform env w).1 =
      uintReply env.junk.settingVal
        ((store w (cstr section_, cstr settingName)).bind text.toUint) := by
  simp only [perform, result, asking, hs.getUint]
  cases (store w (cstr section_, cstr settingName)).bind text.toUint <;> rfl

end Call

/-- The settings over the wire are one map: after any calls, where those that are for no setting
leave the settings alone, a request for a setting is answered with the value that was written to it
last, by whichever request, cut at its terminator and left out when it is too long to be stored. -/
theorem settings_read_back (hs : env.bridge.Stores store text env.maxSettingSize)
    (hb : Call.BlocksApart env.bridge store) (unpack : Bytes → Option Obj) (calls : List Call)
    (datas : List Bytes) (hdatas : datas.map unpack = calls.map fun call => some call.toObj)
    (fits : ∀ call ∈ calls, call.Fits env.machine) (hquit : Call.quit ∉ calls)
    (spares : ∀ call ∈ calls, call.isSetting = false → call.SparesSettings env store)
    (section_ settingName : Bytes) (data : Bytes) (w : W) (written : Call.Written env w calls) :
    let setting := Call.lastSetting env text calls (store w) (cstr section_, cstr settingName)
    let before := serve env unpack (requestTurns datas) w
    let after := serve env unpack (requestTurns (datas ++ [data])) w
    (unpack data = some (Call.dbgReadSettingSz section_ settingName).toObj →
      (Call.dbgReadSettingSz section_ settingName).Fits env.machine →
      ∃ unset, after.io = before.io ++ exchange data (Call.szReply unset setting)) ∧
    (unpack data = some (Call.dbgReadSettingUint section_ settingName).toObj →
      (Call.dbgReadSettingUint section_ settingName).Fits env.machine →
      ∃ unset, after.io = before.io ++
        exchange data (Call.uintReply unset (setting.bind text.toUint))) := by
  intro setting before after
  have settings := Call.store_foldl hs hb spares w
  constructor
  · intro hdata hfits
    obtain ⟨unset, answer⟩ :=
      Call.perform_readSettingSz hs hb section_ settingName (calls.foldl (Call.after env) w)
    rw [settings] at answer
    exact ⟨unset, answer ▸ Call.serve_then_call hdatas fits hquit hdata hfits written id⟩
  · intro hdata hfits
    have answer :=
      Call.perform_readSettingUint hs section_ settingName (calls.foldl (Call.after env) w)
    rw [settings] at answer
    exact ⟨_, answer ▸ Call.serve_then_call hdatas fits hquit hdata hfits written id⟩

section Example

/-- A debugger that is nothing but a store of settings. -/
def settingsEnv : Env Store :=
  { Env.idle (.native .x64) fun _ => none with bridge := storeBridge .hex 0x10000 }

def writeMode (value : String) : List Bytes := [bytes "XAutomate", bytes "Mode", bytes value]

def readMode : List Bytes := [bytes "XAutomate", bytes "Mode"]

/-- The second of two writes is read back. -/
theorem second_write_read_back :
    let unpack := unpackTexts [(.dbgWriteSettingSz, writeMode "local"),
      (.dbgWriteSettingSz, writeMode "remote"), (.dbgReadSettingSz, readMode)]
    let writes := [textRequest .dbgWriteSettingSz (writeMode "local"),
      textRequest .dbgWriteSettingSz (writeMode "remote")]
    let read := textRequest .dbgReadSettingSz readMode
    let served := serve settingsEnv unpack
    ∃ unset, (served (requestTurns (writes ++ [read])) Store.empty).io =
      (served (requestTurns writes) Store.empty).io ++
        exchange read (Call.szReply unset (some (bytes "remote"))) := by
  intro unpack writes read served
  have apart : Call.BlocksApart settingsEnv.bridge id := ⟨fun _ _ => rfl, fun _ _ => rfl⟩
  let mode (value : String) : Call :=
    .dbgWriteSettingSz (bytes "XAutomate") (bytes "Mode") (bytes value)
  have stores : settingsEnv.bridge.Stores id .hex settingsEnv.maxSettingSize :=
    storeBridge_stores .hex 0x10000
  have written : Call.Written settingsEnv Store.empty [mode "local", mode "remote"] :=
    Call.written_cons.mpr ⟨id, Call.written_cons.mpr ⟨id, by simp [Call.Written, Run.visits]⟩⟩
  exact (settings_read_back stores apart unpack [mode "local", mode "remote"] writes rfl
    (by decide) (by decide) (by simp [mode, Call.isSetting])
    (bytes "XAutomate") (bytes "Mode") _ Store.empty written).1 rfl (by decide)

end Example

end XAuto
