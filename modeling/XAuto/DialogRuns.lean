import XAuto.DialogConfig
import XAuto.RemotePorts

namespace XAuto

open Effect ServerM

/-- What the user does to the settings dialog. -/
inductive DlgAction
  | radioLocal
  | radioRemote
  | editBind (text : Bytes)
  | editReqPort (text : Bytes)
  | editPubPort (text : Bytes)
  | ok
  | cancel
  | close
  deriving DecidableEq, Repr

inductive DlgEnd
  | ok
  | cancel
  deriving DecidableEq, Repr

/-- A dialog about settings of any kind. -/
structure DlgRun (σ : Type) where
  settings : σ
  dlg : SettingsDlg
  warnings : List Bytes := []
  result : Option DlgEnd := none

section Dialogs

variable {σ τ : Type}

def enableRemoteControls (dlg : SettingsDlg) (enable : Bool) : SettingsDlg :=
  { dlg with remoteControls := enable }

/-- A disabled control cannot be edited. -/
def SettingsDlg.edit (dlg : SettingsDlg) (f : SettingsDlg → SettingsDlg) : SettingsDlg :=
  if dlg.remoteControls then f dlg else dlg

/-- The radio buttons check themselves before the dialog is told. -/
def settingsDlgProc (pressOk : SettingsDlg → σ → DlgResult × σ) (r : DlgRun σ) (a : DlgAction) :
    DlgRun σ :=
  if r.result.isSome then r
  else
    match a with
    | .radioLocal => { r with dlg := enableRemoteControls { r.dlg with remote := false } false }
    | .radioRemote => { r with dlg := enableRemoteControls { r.dlg with remote := true } true }
    | .editBind text => { r with dlg := r.dlg.edit fun dlg => { dlg with bindAddr := text } }
    | .editReqPort text => { r with dlg := r.dlg.edit fun dlg => { dlg with reqPort := text } }
    | .editPubPort text => { r with dlg := r.dlg.edit fun dlg => { dlg with pubPort := text } }
    | .ok =>
      let pressed := pressOk r.dlg r.settings
      match pressed.1 with
      | .warning text => { r with settings := pressed.2, warnings := r.warnings ++ [text] }
      | .ended => { r with settings := pressed.2, result := some .ok }
    | .cancel | .close => { r with result := some .cancel }

def DlgRun.map (f : σ → τ) (r : DlgRun σ) : DlgRun τ :=
  ⟨f r.settings, r.dlg, r.warnings, r.result⟩

/-- A dialog only looks at the settings when OK is pressed. -/
theorem settingsDlgProc_map {pressOk : SettingsDlg → σ → DlgResult × σ}
    {pressOk' : SettingsDlg → τ → DlgResult × τ} {f : σ → τ}
    (pressed : ∀ dlg s, pressOk' dlg (f s) = ((pressOk dlg s).1, f (pressOk dlg s).2))
    (r : DlgRun σ) (a : DlgAction) :
    settingsDlgProc pressOk' (r.map f) a = (settingsDlgProc pressOk r a).map f := by
  unfold settingsDlgProc
  by_cases ended : r.result.isSome
  · rw [if_pos ended, if_pos (show (r.map f).result.isSome from ended)]
  · rw [if_neg ended, if_neg (show ¬(r.map f).result.isSome from ended)]
    cases a with
    | ok =>
      have same : pressOk' (r.map f).dlg (r.map f).settings = _ := pressed r.dlg r.settings
      simp only [same]
      cases (pressOk r.dlg r.settings).1 <;> rfl
    | _ => rfl

/-- The fields can be edited exactly in remote mode, and the settings stay what they were until OK
has ended the dialog. -/
structure DlgRun.Steady (start : σ) (r : DlgRun σ) : Prop where
  controls : r.dlg.remoteControls = r.dlg.remote
  settings : r.result ≠ some .ok → r.settings = start

theorem DlgRun.Steady.step {pressOk : SettingsDlg → σ → DlgResult × σ}
    (refused : ∀ dlg s text, (pressOk dlg s).1 = .warning text → (pressOk dlg s).2 = s)
    {start : σ} {r : DlgRun σ} (hr : r.Steady start) (a : DlgAction) :
    (settingsDlgProc pressOk r a).Steady start := by
  unfold settingsDlgProc
  split
  · exact hr
  next running =>
    have before : r.settings = start := hr.settings fun ok => running (by simp [ok])
    have edit {f : SettingsDlg → SettingsDlg}
        (kept : (f r.dlg).remoteControls = r.dlg.remoteControls ∧ (f r.dlg).remote = r.dlg.remote) :
        (r.dlg.edit f).remoteControls = (r.dlg.edit f).remote := by
      unfold SettingsDlg.edit
      split
      · exact kept.1.trans (hr.controls.trans kept.2.symm)
      · exact hr.controls
    cases a with
    | radioLocal => exact ⟨rfl, fun _ => before⟩
    | radioRemote => exact ⟨rfl, fun _ => before⟩
    | editBind => exact ⟨edit ⟨rfl, rfl⟩, fun _ => before⟩
    | editReqPort => exact ⟨edit ⟨rfl, rfl⟩, fun _ => before⟩
    | editPubPort => exact ⟨edit ⟨rfl, rfl⟩, fun _ => before⟩
    | ok =>
      dsimp only
      split
      next text warned => exact ⟨hr.controls, fun _ => (refused _ _ text warned).trans before⟩
      next => exact ⟨hr.controls, fun notOk => absurd rfl notOk⟩
    | cancel => exact ⟨hr.controls, fun _ => before⟩
    | close => exact ⟨hr.controls, fun _ => before⟩

end Dialogs

section Menu

variable {W : Type} (user : User32) (bridge : Bridge W)

def menuSettings : Int32 := 1

/-- `DialogBoxA` with what the user does to the dialog. -/
def dialogBox (w : W) (actions : List DlgAction) : DlgRun W :=
  let opened := onInitDialog bridge w
  actions.foldl (settingsDlgProc (onOk user bridge)) { settings := opened.2, dlg := opened.1.1 }

/-- `cb_menu_entry` with what the user does to the dialog, if one opens. -/
def menuEntry (w : W) (entry : Int32 × List DlgAction) : W :=
  if entry.1 = menuSettings then (dialogBox user bridge w entry.2).settings else w

end Menu

/-- What the settings dialog is about. -/
structure Preferences where
  remote : Bool
  address : Bytes
  reqPort : UInt64
  pubPort : UInt64
  deriving DecidableEq, Repr

namespace Preferences

variable (user : User32)

def dialog (p : Preferences) : SettingsDlg where
  remote := p.remote
  bindAddr := p.address
  reqPort := portText p.reqPort
  pubPort := portText p.pubPort
  remoteControls := p.remote

/-- The warning for the first rule that the remote settings break. -/
def refusal (dlg : SettingsDlg) : Option Bytes :=
  let reqPort := (user.getDlgItemInt dlg.reqPort).toNat
  let pubPort := (user.getDlgItemInt dlg.pubPort).toNat
  if ¬(1 ≤ reqPort ∧ reqPort ≤ 65535 ∧ 1 ≤ pubPort ∧ pubPort ≤ 65535) then
    some (bytes "Ports must be between 1 and 65535.")
  else if reqPort = pubPort then
    some (bytes "REQ/REP and PUB/SUB ports must be different.")
  else if user.getDlgItemText dlg.bindAddr 256 = [] then
    some (bytes "Bind address cannot be empty.")
  else none

/-- Local mode keeps the other preferences for when remote mode is chosen again. -/
def pressOk (dlg : SettingsDlg) (p : Preferences) : DlgResult × Preferences :=
  if dlg.remote then
    match refusal user dlg with
    | some warning => (.warning warning, p)
    | none =>
      (.ended, ⟨true, user.getDlgItemText dlg.bindAddr 256,
        (user.getDlgItemInt dlg.reqPort).toUInt64, (user.getDlgItemInt dlg.pubPort).toUInt64⟩)
  else (.ended, { p with remote := false })

def menuEntry (p : Preferences) (entry : Int32 × List DlgAction) : Preferences :=
  if entry.1 = menuSettings then
    (entry.2.foldl (settingsDlgProc (pressOk user)) { settings := p, dlg := p.dialog }).settings
  else p

/-- Sockets can be bound as the preferences say. -/
structure Valid (p : Preferences) : Prop where
  address : p.address ≠ []
  reqPort : Usable p.reqPort.toNat
  pubPort : Usable p.pubPort.toNat
  distinct : p.reqPort ≠ p.pubPort

end Preferences

/-- The preferences that a store stands for. -/
def Store.preferences (st : Store) (text : SettingText) : Preferences where
  remote := decide (st.string "Mode" = some (bytes "remote"))
  address := addressOrAny (st.string "BindAddress")
  reqPort := st.port text "ReqRepPort" 27066
  pubPort := st.port text "PubSubPort" 27067

namespace Preferences

variable {user : User32}

theorem refusal_eq_none {dlg : SettingsDlg} (accepted : refusal user dlg = none) :
    (Usable (user.getDlgItemInt dlg.reqPort).toNat ∧
        Usable (user.getDlgItemInt dlg.pubPort).toNat) ∧
      (user.getDlgItemInt dlg.reqPort).toNat ≠ (user.getDlgItemInt dlg.pubPort).toNat ∧
      user.getDlgItemText dlg.bindAddr 256 ≠ [] := by
  unfold refusal at accepted
  dsimp only at accepted
  split at accepted
  · cases accepted
  next ports =>
    split at accepted
    · cases accepted
    next distinct =>
      split at accepted
      · cases accepted
      next address =>
        have usable := not_not.mp ports
        exact ⟨⟨⟨usable.1, usable.2.1⟩, usable.2.2⟩, distinct, address⟩

/-- OK as the source has it, in terms of the warning. -/
theorem onOk_eq {W : Type} (user : User32) (bridge : Bridge W) {dlg : SettingsDlg}
    (remote : dlg.remote = true) (w : W) : onOk user bridge dlg w =
      match refusal user dlg with
      | some warning => (.warning warning, w)
      | none =>
        (.ended, settingSetUint bridge "PubSubPort" (user.getDlgItemInt dlg.pubPort).toUInt64
          (settingSetUint bridge "ReqRepPort" (user.getDlgItemInt dlg.reqPort).toUInt64
            (settingSet bridge "BindAddress" (user.getDlgItemText dlg.bindAddr 256)
              (settingSet bridge "Mode" (bytes "remote") w)))) := by
  have limit : (65535 : UInt32).toNat = 65535 := rfl
  have zero (n : UInt32) : n = 0 ↔ n.toNat = 0 := by
    rw [← UInt32.toNat_inj]
    rfl
  have wide (n : UInt32) : n > 65535 ↔ 65535 < n.toNat := by
    rw [gt_iff_lt, UInt32.lt_iff_toNat_lt, limit]
  have ports (m n : UInt32) : (m = 0 ∨ n = 0 ∨ m > 65535 ∨ n > 65535) ↔
      ¬(1 ≤ m.toNat ∧ m.toNat ≤ 65535 ∧ 1 ≤ n.toNat ∧ n.toNat ≤ 65535) := by
    rw [zero, zero, wide, wide]
    omega
  unfold onOk refusal
  rw [if_pos remote]
  simp only [ports, List.length_eq_zero_iff, UInt32.toNat_inj]
  split
  · rfl
  split
  · rfl
  split <;> rfl

theorem onOk_warning {W : Type} {bridge : Bridge W} (dlg : SettingsDlg) (w : W) (text : Bytes)
    (warned : (onOk user bridge dlg w).1 = .warning text) : (onOk user bridge dlg w).2 = w := by
  cases remote : dlg.remote with
  | true =>
    rw [onOk_eq user bridge remote] at warned ⊢
    split
    · rfl
    next accepted =>
      rw [accepted] at warned
      cases warned
  | false =>
    have run : (onOk user bridge dlg w).1 = .ended := by simp [onOk, remote]
    rw [run] at warned
    cases warned

theorem Valid.pressOk {p : Preferences} (valid : p.Valid) (dlg : SettingsDlg) :
    (pressOk user dlg p).2.Valid := by
  unfold Preferences.pressOk
  split
  · split
    · exact valid
    next accepted =>
      obtain ⟨⟨req, pub⟩, distinct, address⟩ := refusal_eq_none accepted
      have stored (n : UInt32) : n.toUInt64.toNat = n.toNat := UInt32.toNat_toUInt64 n
      refine ⟨address, ?_, ?_, fun same => ?_⟩
      · rw [stored]
        exact req
      · rw [stored]
        exact pub
      · have numbers := congrArg UInt64.toNat same
        rw [stored, stored] at numbers
        exact distinct numbers
  · exact ⟨valid.address, valid.reqPort, valid.pubPort, valid.distinct⟩

theorem Valid.menuEntry {p : Preferences} (valid : p.Valid) (entry : Int32 × List DlgAction) :
    (p.menuEntry user entry).Valid := by
  unfold Preferences.menuEntry
  split
  · refine Run.foldl_invariant (I := fun r : DlgRun Preferences => r.settings.Valid)
      (fun r a hr => ?_) valid entry.2
    unfold settingsDlgProc
    split
    · exact hr
    cases a with
    | ok =>
      dsimp only
      split
      · exact hr.pressOk r.dlg
      · exact hr.pressOk r.dlg
    | _ => exact hr
  · exact valid

end Preferences

section Stored

variable {W : Type} {user : User32} {bridge : Bridge W} {store : W → Store} {text : SettingText}
  {maxSize : Nat}

namespace Store

variable (st : Store)

theorem effective_preferences : st.effective text =
    if (st.preferences text).remote then
      .remote (st.preferences text).address (st.preferences text).reqPort.toUInt16
        (st.preferences text).pubPort.toUInt16
    else .localhost := by
  unfold effective preferences
  simp only [decide_eq_true_eq]

theorem preferences_setLocal :
    (st.set (bytes "XAutomate") (bytes "Mode") (bytes "local")).preferences text =
      { st.preferences text with remote := false } := by
  have other {key : String} (different : bytes key ≠ bytes "Mode") :
      (st.set (bytes "XAutomate") (bytes "Mode") (bytes "local")).get key = st.get key := by
    rw [get_set, if_neg different]
  have mode : (st.set (bytes "XAutomate") (bytes "Mode") (bytes "local")).get "Mode" =
      some (bytes "local") := by
    rw [get_set, if_pos rfl]
  unfold preferences string port
  rw [mode, other (by decide), other (by decide), other (by decide)]
  rfl

theorem preferences_setRemote (faithful : ∀ n, text.toUint (text.ofUint n) = some n)
    {address : Bytes} (terminated : cstr address = address) (nonempty : address ≠ [])
    {reqPort pubPort : UInt64} (req : reqPort ≠ 0) (pub : pubPort ≠ 0) :
    (st.setRemote text address reqPort pubPort).preferences text =
      ⟨true, address, reqPort, pubPort⟩ := by
  obtain ⟨⟨mode, bindAddr⟩, reqStored, pubStored⟩ :=
    st.get_setRemote text address reqPort pubPort
  have remote : cstr (bytes "remote") = bytes "remote" := by decide
  have positive : address.length > 0 := List.length_pos_iff.mpr nonempty
  simp [preferences, string, port, mode, bindAddr, reqStored, pubStored, remote, terminated,
    addressOrAny, positive, faithful, portOr, req, pub]

end Store

/-- Pressing OK does to the store what it does to the preferences. -/
theorem onOk_pressOk (hs : bridge.Stores store text maxSize) (hmax : 256 ≤ maxSize)
    (faithful : ∀ n, text.toUint (text.ofUint n) = some n) (dlg : SettingsDlg) (w : W) :
    Preferences.pressOk user dlg ((store w).preferences text) =
      ((onOk user bridge dlg w).1, (store (onOk user bridge dlg w).2).preferences text) := by
  unfold Preferences.pressOk
  cases remote : dlg.remote with
  | false =>
    have run : onOk user bridge dlg w = (.ended, settingSet bridge "Mode" (bytes "local") w) := by
      simp [onOk, remote]
    have short : (bytes "local").length = 5 := by decide
    rw [run, settingSet_store hs _ (by omega), Store.preferences_setLocal]
    rfl
  | true =>
    rw [Preferences.onOk_eq user bridge remote]
    simp only [if_true]
    cases refused : Preferences.refusal user dlg with
    | some warning => rfl
    | none =>
      obtain ⟨⟨req, pub⟩, -, nonempty⟩ := Preferences.refusal_eq_none refused
      have nonzero (n : UInt32) (usable : Usable n.toNat) : n.toUInt64 ≠ 0 := by
        intro zero
        have numbers := congrArg UInt64.toNat zero
        rw [UInt32.toNat_toUInt64] at numbers
        have positive := usable.1
        have zeroNat : (0 : UInt64).toNat = 0 := rfl
        omega
      have modeFits : (bytes "remote").length = 6 := by decide
      have addressFits : (user.getDlgItemText dlg.bindAddr 256).length ≤ 255 :=
        user.text_length _ 256
      have stored := Store.preferences_setRemote (store w) faithful
        (user.text_terminated dlg.bindAddr 256) nonempty (nonzero _ req) (nonzero _ pub)
      dsimp only
      rw [settingSetUint_store hs, settingSetUint_store hs, settingSet_store hs _ (by omega),
        settingSet_store hs _ (by omega)]
      exact congrArg (Prod.mk DlgResult.ended) stored.symm

/-- A menu entry does to the store what it does to the preferences. -/
theorem menuEntry_preferences (hs : bridge.Stores store text maxSize) (hmax : 256 ≤ maxSize)
    (faithful : ∀ n, text.toUint (text.ofUint n) = some n) (w : W)
    (entry : Int32 × List DlgAction) :
    ((store w).preferences text).menuEntry user entry =
      (store (menuEntry user bridge w entry)).preferences text := by
  unfold Preferences.menuEntry menuEntry
  split
  · have opened := onInitDialog_eq hs w
    let abs (w : W) : Preferences := (store w).preferences text
    have start : ({ settings := (store w).preferences text
                    dlg := ((store w).preferences text).dialog } : DlgRun Preferences) =
        DlgRun.map abs
          { settings := (onInitDialog bridge w).2, dlg := (onInitDialog bridge w).1.1 } := by
      unfold DlgRun.map
      rw [opened.1]
      dsimp only [abs]
      rw [opened.2]
      rfl
    rw [start, List.foldl_hom (DlgRun.map abs)
      (settingsDlgProc_map (onOk_pressOk hs hmax faithful))]
    rfl
  · rfl

theorem dialogBox_steady (hs : bridge.Stores store text maxSize) (w : W)
    (actions : List DlgAction) :
    (dialogBox user bridge w actions).dlg.remoteControls =
        (dialogBox user bridge w actions).dlg.remote ∧
      ((dialogBox user bridge w actions).result ≠ some .ok →
        store (dialogBox user bridge w actions).settings = store w) := by
  have opened := onInitDialog_eq hs w
  have start : (onInitDialog bridge w).1.1.remoteControls = (onInitDialog bridge w).1.1.remote := by
    rw [opened.1]
    rfl
  have steady : DlgRun.Steady (onInitDialog bridge w).2 (dialogBox user bridge w actions) :=
    Run.foldl_invariant (I := DlgRun.Steady (onInitDialog bridge w).2)
      (fun r a hr => hr.step Preferences.onOk_warning a) ⟨start, fun _ => rfl⟩ actions
  refine ⟨steady.controls, fun notOk => ?_⟩
  have kept := steady.settings notOk
  exact (congrArg store kept).trans opened.2

/-- The sockets of a session are bound as the preferences say, its ports as numbers. -/
structure Preferences.Serves (p : Preferences) (s : ServerState W) : Prop where
  address : s.bindAddress = if p.remote then p.address else bytes "localhost"
  ports : p.remote = true →
    s.sessReqRepPort.toNat = p.reqPort.toNat ∧ s.sessPubSubPort.toNat = p.pubPort.toNat

theorem Preferences.Valid.serves {st : Store} (valid : (st.preferences text).Valid)
    {s : ServerState W} (serves : ServerM.ServesAt s (st.effective text)) :
    (st.preferences text).Serves s := by
  rw [Store.effective_preferences] at serves
  cases remote : (st.preferences text).remote with
  | true =>
    rw [if_pos remote] at serves
    obtain ⟨address, reqPort, pubPort⟩ := serves
    refine ⟨by rw [remote]; exact address, fun _ => ⟨?_, ?_⟩⟩
    · rw [reqPort]
      exact toUInt16_toNat valid.reqPort.2
    · rw [pubPort]
      exact toUInt16_toNat valid.pubPort.2
  | false =>
    rw [if_neg (by simp [remote])] at serves
    refine ⟨by rw [remote]; exact serves.1, fun h => ?_⟩
    rw [remote] at h
    cases h

theorem menuEntry_fits (hs : bridge.Stores store text maxSize) {w : W} (fits : (store w).Fits)
    (entry : Int32 × List DlgAction) : (store (menuEntry user bridge w entry)).Fits := by
  unfold menuEntry
  split
  · refine Run.foldl_invariant (I := fun r : DlgRun W => (store r.settings).Fits)
      (fun r a hr => ?_) ?_ entry.2
    · unfold settingsDlgProc
      split
      · exact hr
      cases a with
      | ok =>
        dsimp only
        split <;> exact fits_pressOk hs r.dlg hr
      | _ => exact hr
    · rwa [← (onInitDialog_eq hs w).2] at fits
  · exact fits

/-- Whatever the user does in however many dialogs, the fields can be edited exactly in remote mode
and the store changes only when OK is accepted; the store follows the preferences, and its texts
fit the buffers that they are read into; and preferences that sockets can be bound by stay so, and
are where the next session is. -/
theorem dialogs_configure_sessions (user : User32) (hs : bridge.Stores store text maxSize)
    (hmax : 256 ≤ maxSize) (faithful : ∀ n, text.toUint (text.ofUint n) = some n) (w : W)
    (fits : (store w).Fits) :
    (∀ actions, (dialogBox user bridge w actions).dlg.remoteControls =
        (dialogBox user bridge w actions).dlg.remote ∧
      ((dialogBox user bridge w actions).result ≠ some .ok →
        store (dialogBox user bridge w actions).settings = store w)) ∧
    ∀ entries : List (Int32 × List DlgAction),
      let later := entries.foldl (menuEntry user bridge) w
      let preferences := entries.foldl (Preferences.menuEntry user) ((store w).preferences text)
      ReadsFit bridge later ∧ (store later).preferences text = preferences ∧
      (((store w).preferences text).Valid → preferences.Valid ∧ ∀ (os : Platform W) (fuel : Nat),
        wp (acquireSession bridge os fuel)
          (fun acquired s => acquired = true → Announced s ∧ preferences.Serves s)
          (fun _ _ => True) { world := later }) := by
  refine ⟨dialogBox_steady hs w, fun entries => ?_⟩
  intro later preferences
  have follows : preferences = (store later).preferences text :=
    List.foldl_hom (fun w => (store w).preferences text) (menuEntry_preferences hs hmax faithful)
  have stillFits : (store later).Fits :=
    Run.foldl_invariant (I := fun w => (store w).Fits)
      (fun _ entry hw => menuEntry_fits hs hw entry) fits entries
  refine ⟨(readsFit_iff hs later).mpr stillFits, follows.symm, fun valid => ?_⟩
  have stays : preferences.Valid :=
    Run.foldl_invariant (fun p entry hp => hp.menuEntry entry) valid entries
  refine ⟨stays, fun os fuel => ?_⟩
  refine wp_mono (acquireSession_announced bridge os fuel { world := later })
    (fun acquired s h acquired => ?_) fun _ _ h => h
  obtain ⟨told, serves⟩ := h acquired
  rw [config_of_store hs] at serves
  refine ⟨told, ?_⟩
  rw [follows] at stays ⊢
  exact stays.serves serves

/-- A port that is out of range is refused, corrected and accepted; a second dialog is left. -/
theorem corrected_port_configures :
    let bridge := storeBridge .hex 0x10000
    let entries : List (Int32 × List DlgAction) :=
      [(menuSettings, [.radioRemote, .editReqPort (bytes "70000"), .ok,
        .editReqPort (bytes "7000"), .ok]), (menuSettings, [.radioLocal, .close])]
    let later := entries.foldl (menuEntry .ansi bridge) Store.empty
    let preferences := entries.foldl (Preferences.menuEntry .ansi) (Store.empty.preferences .hex)
    preferences = ⟨true, bytes "0.0.0.0", 7000, 27067⟩ ∧ ReadsFit bridge later ∧
    later.preferences .hex = preferences ∧ preferences.Valid ∧
    ∀ (os : Platform Store) (fuel : Nat), wp (acquireSession bridge os fuel)
      (fun acquired s => acquired = true → Announced s ∧ preferences.Serves s)
      (fun _ _ => True) { world := later } := by
  intro bridge entries later preferences
  have configured := (dialogs_configure_sessions .ansi (storeBridge_stores .hex 0x10000)
    (by decide) SettingText.hex_toUint Store.empty Store.fits_empty).2 entries
  have valid : (Store.empty.preferences .hex).Valid :=
    ⟨by decide, ⟨by decide, by decide⟩, ⟨by decide, by decide⟩, by decide⟩
  exact ⟨by decide, configured.1, configured.2.1, configured.2.2 valid⟩

end Stored

end XAuto
