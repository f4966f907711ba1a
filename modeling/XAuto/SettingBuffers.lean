import XAuto.SettingWrites
import XAuto.SessionConfig
import XAuto.Run

namespace XAuto

open Effect

variable {W : Type}

structure Store.Fits (st : Store) : Prop where
  mode : ∀ v ∈ st (bytes "XAutomate", bytes "Mode"), v.length + 1 ≤ 64
  bindAddress : ∀ v ∈ st (bytes "XAutomate", bytes "BindAddress"), v.length + 1 ≤ 256

theorem Store.fits_empty : Store.empty.Fits := ⟨nofun, nofun⟩

theorem Store.Fits.set {st : Store} (h : st.Fits) {section_ key value : Bytes}
    (hm : section_ = bytes "XAutomate" → key = bytes "Mode" → value.length ≤ 63)
    (ha : section_ = bytes "XAutomate" → key = bytes "BindAddress" → value.length ≤ 255) :
    (st.set section_ key value).Fits := by
  constructor
  · intro v hv
    by_cases hk : (bytes "XAutomate", bytes "Mode") = (section_, key)
    · obtain ⟨rfl, rfl⟩ := Prod.mk.inj hk
      obtain rfl : value = v := by simpa using hv
      have := hm rfl rfl
      omega
    · exact h.mode v (by rwa [Store.set_of_ne st hk] at hv)
  · intro v hv
    by_cases hk : (bytes "XAutomate", bytes "BindAddress") = (section_, key)
    · obtain ⟨rfl, rfl⟩ := Prod.mk.inj hk
      obtain rfl : value = v := by simpa using hv
      have := ha rfl rfl
      omega
    · exact h.bindAddress v (by rwa [Store.set_of_ne st hk] at hv)

section Reads

variable (bridge : Bridge W)

/-- Every value that the start of the server or of the settings dialog copies out of the store fits
the buffer it is copied into. -/
def ReadsFit (w : W) : Prop :=
  (∀ (os : Platform W) fuel,
    ∀ r ∈ (final (ServerM.acquireSession bridge os fuel) { world := w }).reads, r.Fits) ∧
  ∀ r ∈ (onInitDialog bridge w).1.2, r.Fits

end Reads

section Settings

variable {bridge : Bridge W} {store : W → Store} {text : SettingText} {maxSize : Nat}

theorem settingGet_fits_iff (hs : bridge.Stores store text maxSize) (key : String) (capacity : Nat)
    (w : W) : (settingGet bridge key capacity w).1.Fits ↔
      ∀ v ∈ store w (bytes "XAutomate", bytes key), v.length + 1 ≤ capacity := by
  simp [settingGet, SettingRead.Fits, hs.get]

theorem settingGet_store (hs : bridge.Stores store text maxSize) (key : String) (capacity : Nat)
    (w : W) : store (settingGet bridge key capacity w).2 = store w := hs.get_store ..

end Settings

section Acquire

open ServerM

variable {bridge : Bridge W} {os : Platform W}

def ReadsFitSoFar (s : ServerState W) : Prop := ∀ r ∈ s.reads, r.Fits

theorem keeps_reads_modify {f : ServerState W → ServerState W} (hf : ∀ s, (f s).reads = s.reads) :
    Keeps ReadsFitSoFar (modify f : ServerM W PUnit) := by
  refine .modify fun s h => ?_
  unfold ReadsFitSoFar
  rwa [hf s]

theorem keeps_reads_call {α : Type} (f : W → α × W) : Keeps ReadsFitSoFar (call f) := fun _ h => h

theorem keeps_reads_create (a : Socket) : Keeps ReadsFitSoFar (create os a) :=
  (keeps_reads_call _).bind fun _ => .ite (keeps_reads_modify (by simp)) (.throw _)

theorem keeps_reads_bind (a : Socket) (address : Bytes) :
    Keeps ReadsFitSoFar (bind os a address) := by
  refine Keeps.bind (fun s h => h) fun s => (keeps_reads_call _).bind fun bound => ?_
  refine Keeps.bind (keeps_reads_modify fun _ => rfl) fun _ => ?_
  exact .ite (keeps_reads_modify (by simp)) (.throw _)

theorem keeps_reads_bindRandom (a : Socket) (fuel : Nat) :
    Keeps ReadsFitSoFar (bindRandom os a fuel) := by
  induction fuel with
  | zero => exact .throw _
  | succ fuel ih =>
    refine (keeps_reads_call _).bind fun draw => ?_
    refine Keeps.bind (keeps_reads_modify (by simp)) fun _ => ?_
    refine (keeps_reads_bind a _).tryCatch fun e => ?_
    cases e with
    | zmqError => exact ih
    | retrying => exact .throw _

theorem keeps_reads_writeSessionFile : Keeps ReadsFitSoFar (writeSessionFile os) := by
  refine Keeps.bind (fun s h => h) fun s => (keeps_reads_call _).bind fun opened => ?_
  exact .ite (Keeps.bind (keeps_reads_modify fun _ => rfl) fun _ => .pure _) (.pure _)

theorem keeps_reads_acquireLocal (fuel : Nat) : Keeps ReadsFitSoFar (acquireLocal os fuel) := by
  refine Keeps.bind (keeps_reads_modify fun _ => rfl) fun _ => ?_
  refine (keeps_reads_create _).bind fun _ => (keeps_reads_bindRandom _ _).bind fun _ => ?_
  exact (keeps_reads_create _).bind fun _ => keeps_reads_bindRandom _ _

theorem ReadsFitSoFar.noteRead {s : ServerState W} (h : ReadsFitSoFar s) {r : SettingRead}
    (hr : r.Fits) : ReadsFitSoFar (s.noteRead r) :=
  List.forall_mem_append.mpr ⟨h, by simpa using hr⟩

theorem wp_acquireRemote {s : ServerState W} (h : ReadsFitSoFar s)
    (hr : (settingGet bridge "BindAddress" 256 s.world).1.Fits) :
    wp (acquireRemote bridge os) (fun _ => ReadsFitSoFar) (fun _ => ReadsFitSoFar) s := by
  unfold acquireRemote readSetting
  simp only [wp_bind, wp_modify, wp_pure]
  refine Keeps.tryCatch ?_ (fun e => ?_) _ (h.noteRead hr)
  · refine (keeps_reads_create _).bind fun _ => ?_
    refine Keeps.bind (keeps_reads_modify (by simp)) fun _ => ?_
    refine (keeps_reads_bind _ _).bind fun _ => ?_
    refine (keeps_reads_create _).bind fun _ => ?_
    refine Keeps.bind (keeps_reads_modify (by simp)) fun _ => ?_
    exact (keeps_reads_bind _ _).bind fun _ => .pure _
  · cases e with
    | zmqError =>
      refine Keeps.bind (keeps_reads_modify (by simp)) fun _ => ?_
      exact Keeps.bind (keeps_reads_modify (by simp)) fun _ => .pure _
    | retrying => exact .throw _

theorem wp_acquireSession {store : W → Store} {text : SettingText} {maxSize : Nat}
    (hs : bridge.Stores store text maxSize) (fuel : Nat) {s : ServerState W}
    (h : ReadsFitSoFar s) (hst : (store s.world).Fits) :
    wp (acquireSession bridge os fuel) (fun _ => ReadsFitSoFar) (fun _ => ReadsFitSoFar) s := by
  let w := (bridge.getCurrentProcessId s.world).2
  have hpid : store w = store s.world := hs.getPid s.world
  have hmode : (settingGet bridge "Mode" 64 w).1.Fits := by
    rw [settingGet_fits_iff hs, hpid]
    exact hst.mode
  have haddr : (settingGet bridge "BindAddress" 256 (settingGet bridge "Mode" 64 w).2).1.Fits := by
    rw [settingGet_fits_iff hs, settingGet_store hs, hpid]
    exact hst.bindAddress
  unfold acquireSession readSetting
  simp only [wp_bind, ServerM.wp_call, wp_modify, wp_pure, wp_ite]
  split
  · refine wp_mono (wp_acquireRemote (ReadsFitSoFar.noteRead h hmode) haddr)
      (fun up s2 hup => ?_) fun _ _ h => h
    cases up with
    | true => exact keeps_reads_writeSessionFile s2 hup
    | false => exact hup
  · exact wp_mono (keeps_reads_acquireLocal fuel _ (ReadsFitSoFar.noteRead h hmode))
      (fun _ s2 h2 => keeps_reads_writeSessionFile s2 h2) fun _ _ h => h

end Acquire

section Start

variable {bridge : Bridge W} {store : W → Store} {text : SettingText} {maxSize : Nat}

theorem readsFit_iff (hs : bridge.Stores store text maxSize) (w : W) :
    ReadsFit bridge w ↔ (store w).Fits := by
  have hmode := settingGet_fits_iff hs "Mode" 64 w
  have haddr := settingGet_fits_iff hs "BindAddress" 256 (settingGet bridge "Mode" 64 w).2
  rw [settingGet_store hs] at haddr
  constructor
  · rintro ⟨-, h⟩
    simp only [onInitDialog, List.forall_mem_cons] at h
    exact ⟨hmode.mp h.1, haddr.mp h.2.1⟩
  · intro h
    refine ⟨fun os fuel => ?_, ?_⟩
    · have hrun : wp (ServerM.acquireSession bridge os fuel) (fun _ => ReadsFitSoFar)
          (fun _ => ReadsFitSoFar) { world := w } :=
        wp_acquireSession hs fuel (by simp [ReadsFitSoFar]) h
      exact wp_final.mp hrun
    · simp only [onInitDialog, List.forall_mem_cons]
      exact ⟨hmode.mpr h.mode, haddr.mpr h.bindAddress, by simp⟩

end Start

section Dialog

variable {user : User32} {bridge : Bridge W} {store : W → Store} {text : SettingText}
  {maxSize : Nat}

theorem fits_settingSet (hs : bridge.Stores store text maxSize) {key : String}
    {value : Bytes} {w : W} (h : (store w).Fits)
    (hm : bytes key = bytes "Mode" → value.length ≤ 63) (ha : value.length ≤ 255) :
    (store (settingSet bridge key value w)).Fits := by
  unfold settingSet
  rw [hs.set_store]
  split
  · exact h.set (fun _ hk => hm hk) fun _ _ => ha
  · exact h

theorem fits_settingSetUint (hs : bridge.Stores store text maxSize) {key : String}
    {n : UInt64} {w : W} (h : (store w).Fits) (hm : bytes key ≠ bytes "Mode")
    (ha : bytes key ≠ bytes "BindAddress") : (store (settingSetUint bridge key n w)).Fits := by
  unfold settingSetUint
  rw [hs.setUint_store]
  exact h.set (fun _ hk => absurd hk hm) fun _ hk => absurd hk ha

/-- The dialog stores nothing that does not fit: its own buffer for the address is as large. -/
theorem fits_pressOk (hs : bridge.Stores store text maxSize) (dlg : SettingsDlg)
    {w : W} (h : (store w).Fits) : (store (onOk user bridge dlg w).2).Fits := by
  have haddr : (user.getDlgItemText dlg.bindAddr 256).length ≤ 255 := user.text_length _ 256
  unfold onOk
  split
  · dsimp only
    split
    · exact h
    split
    · exact h
    split
    · exact h
    refine fits_settingSetUint hs (fits_settingSetUint hs (fits_settingSet hs ?_ ?_ haddr) ?_ ?_)
      ?_ ?_
    · exact fits_settingSet hs h (fun _ => by decide) (by decide)
    · exact fun hk => absurd hk (by decide)
    all_goals decide
  · exact fits_settingSet hs h (fun _ => by decide) (by decide)

end Dialog

/-- What can change the stored settings: a write by a client, with any arguments, or pressing OK in
the settings dialog. -/
inductive SettingAction
  | writeSettingSz (args : List Obj)
  | writeSettingUint (args : List Obj)
  | pressOk (dlg : SettingsDlg)

def applySetting (user : User32) (env : Env W) (w : W) : SettingAction → W
  | .writeSettingSz args =>
    (final (replyTo env (request .dbgWriteSettingSz args)) { world := w }).world
  | .writeSettingUint args =>
    (final (replyTo env (request .dbgWriteSettingUint args)) { world := w }).world
  | .pressOk dlg => (onOk user env.bridge dlg w).2

/-- The texts a client stores as the mode or the address, if they can be stored at all, are short
enough for the buffers they are going to be read into. -/
def SettingAction.Short (env : Env W) : SettingAction → Prop
  | .writeSettingSz args => ∀ section_ key value,
      WritesSz env (request .dbgWriteSettingSz args) section_ key value →
      (cstr value).length < env.maxSettingSize → cstr section_ = bytes "XAutomate" →
      (cstr key = bytes "Mode" → (cstr value).length ≤ 63) ∧
      (cstr key = bytes "BindAddress" → (cstr value).length ≤ 255)
  | _ => True

section Actions

variable {user : User32} {env : Env W} {store : W → Store} {text : SettingText}

theorem store_writeSettingSz (hs : env.bridge.Stores store text env.maxSettingSize)
    {args : List Obj} {section_ key value : Bytes}
    (h : WritesSz env (request .dbgWriteSettingSz args) section_ key value) (w : W) :
    store (applySetting user env w (.writeSettingSz args)) =
      if (cstr value).length < env.maxSettingSize
      then (store w).set (cstr section_) (cstr key) (cstr value) else store w := by
  let stored (s : HandlerState W) : Prop := store s.world =
    if (cstr value).length < env.maxSettingSize
    then (store w).set (cstr section_) (cstr key) (cstr value) else store w
  have hwrite := wp_dbgWriteSettingSz (hs.set_store _ _ _) h (begun w)
  exact final_replyTo (P := stored) (command_request _ _) (fun _ _ h => h)
    (wp_mono hwrite (fun _ _ h => h) fun _ _ h => h.elim)

theorem store_writeSettingSz_none {args : List Obj}
    (hn : ¬∃ section_ key value, WritesSz env (request .dbgWriteSettingSz args) section_ key value)
    (w : W) : store (applySetting user env w (.writeSettingSz args)) = store w := by
  exact final_replyTo (P := Kept store (store w)) (command_request _ _) (fun _ _ h => h)
    (wp_dbgWriteSettingSz_none hn (begun w))

theorem store_writeSettingUint (hs : env.bridge.Stores store text env.maxSettingSize)
    (args : List Obj) (w : W) :
    SetsUint text (store w) (store (applySetting user env w (.writeSettingUint args))) := by
  let sets (s : HandlerState W) : Prop := SetsUint text (store w) (store s.world)
  exact final_replyTo (P := sets) (command_request _ _) (fun _ _ h => h)
    (wp_dbgWriteSettingUint hs.setUint_store (begun w))

theorem fits_setUint (htext : ∀ n, (text.ofUint n).length ≤ 20) {st st' : Store} (h : st.Fits)
    (hset : SetsUint text st st') : st'.Fits := by
  rcases hset with rfl | ⟨section_, key, n, rfl⟩
  · exact h
  · have := htext n
    exact h.set (fun _ _ => by omega) fun _ _ => by omega

theorem fits_applySetting (hs : env.bridge.Stores store text env.maxSettingSize)
    (htext : ∀ n, (text.ofUint n).length ≤ 20) {w : W} {a : SettingAction}
    (h : (store w).Fits) (ha : a.Short env) : (store (applySetting user env w a)).Fits := by
  cases a with
  | writeSettingSz args =>
    by_cases hw : ∃ section_ key value,
        WritesSz env (request .dbgWriteSettingSz args) section_ key value
    · obtain ⟨section_, key, value, hw⟩ := hw
      rw [store_writeSettingSz hs hw]
      split
      next hl =>
        exact h.set (fun hsec => (ha _ _ _ hw hl hsec).1) fun hsec => (ha _ _ _ hw hl hsec).2
      next => exact h
    · have kept : store (applySetting user env w (.writeSettingSz args)) = store w :=
        store_writeSettingSz_none hw w
      rwa [kept]
  | writeSettingUint args => exact fits_setUint htext h (store_writeSettingUint hs args w)
  | pressOk dlg => exact fits_pressOk hs dlg h

theorem short_of_fits (hs : env.bridge.Stores store text env.maxSettingSize) {w : W}
    {a : SettingAction} (h : (store (applySetting user env w a)).Fits) : a.Short env := by
  cases a with
  | writeSettingSz args =>
    intro section_ key value hw hl hsec
    rw [store_writeSettingSz hs hw, if_pos hl] at h
    constructor
    · intro hkey
      have := h.mode (cstr value) (by simp [← hsec, ← hkey])
      omega
    · intro hkey
      have := h.bindAddress (cstr value) (by simp [← hsec, ← hkey])
      omega
  | _ => trivial

end Actions

/-- From an empty store on, whatever clients and the dialog store, what the server and the dialog
read at their next start fits their buffers exactly when every text that a client stores as the
mode or the address is short enough. -/
theorem setting_reads_fit_iff (user : User32) (env : Env W) (store : W → Store) (text : SettingText)
    (hs : env.bridge.Stores store text env.maxSettingSize)
    (htext : ∀ n, (text.ofUint n).length ≤ 20) (w : W) (hempty : store w = .empty)
    (run : List SettingAction) :
    (∀ before rest, run = before ++ rest →
      ReadsFit env.bridge (before.foldl (applySetting user env) w)) ↔
    ∀ a ∈ run, a.Short env := by
  simp only [readsFit_iff hs]
  constructor
  · intro h a ha
    obtain ⟨before, rest, rfl⟩ := List.append_of_mem ha
    have hafter := h (before ++ [a]) rest (by simp)
    rw [List.foldl_append] at hafter
    exact short_of_fits hs hafter
  · rintro h before rest rfl
    have start : (store w).Fits := by
      rw [hempty]
      exact Store.fits_empty
    have short : ∀ v ∈ Run.visits (applySetting user env) w before, v.2.Short env := by
      intro v hv
      obtain ⟨l, r, hl, -⟩ := Run.mem_visits.mp hv
      exact h v.2 (by simp [hl])
    exact Run.foldl_guarded (I := fun w => (store w).Fits)
      (fun _ _ hf ha => fits_applySetting hs htext hf ha) start short

def storeEnv : Env Store :=
  { Env.idle (.native .x64) fun _ => some .nil with bridge := storeBridge .hex 0x10000 }

def remoteMode : SettingAction :=
  .writeSettingSz [.str (bytes "XAutomate"), .str (bytes "Mode"), .str (bytes "remote")]

theorem remote_mode_reads_fit_iff :
    (∀ before rest, [remoteMode] = before ++ rest →
      ReadsFit storeEnv.bridge (before.foldl (applySetting .ansi storeEnv) .empty)) ↔
    ∀ a ∈ [remoteMode], a.Short storeEnv :=
  setting_reads_fit_iff .ansi storeEnv id .hex (storeBridge_stores .hex 0x10000)
    SettingText.hex_length .empty rfl [remoteMode]

/-- A mode of 64 bytes, one more than its buffer holds. -/
def longMode : SettingAction :=
  .writeSettingSz [.str (bytes "XAutomate"), .str (bytes "Mode"), .str (List.replicate 64 65)]

theorem long_mode_overruns_buffer :
    ¬∀ before rest, [longMode] = before ++ rest →
      ReadsFit storeEnv.bridge (before.foldl (applySetting .ansi storeEnv) .empty) := by
  intro h
  have hs : storeEnv.bridge.Stores id .hex storeEnv.maxSettingSize :=
    storeBridge_stores .hex 0x10000
  have hfits : (id (applySetting .ansi storeEnv .empty longMode)).Fits :=
    (readsFit_iff hs _).mp (h [longMode] [] rfl)
  have hshort := short_of_fits hs hfits (bytes "XAutomate") (bytes "Mode") (List.replicate 64 65)
    ⟨by decide, rfl, rfl, rfl, by decide, by decide, by decide⟩ (by decide) (by decide)
  exact absurd (hshort.1 (by decide)) (by decide)

end XAuto
