import XAuto.SettingBuffers

namespace XAuto

theorem cstr_cstr (s : Bytes) : cstr (cstr s) = cstr s := by
  unfold cstr
  rw [List.takeWhile_takeWhile]
  simp

theorem length_cstr_le (s : Bytes) : (cstr s).length ≤ s.length :=
  (List.takeWhile_prefix _).length_le

open Effect ServerM

section Texts

variable {user : User32}

/-- A port in the dialog reads as itself, or as none at all. -/
theorem port_of_read {port : UInt64} {read : UInt16} (hread : read ≠ 0)
    (h : user.getDlgItemInt (portText port) = read.toUInt32) : port.toUInt16 = read := by
  obtain ⟨m, hm, large⟩ := Decimal.take_text (k := 14) (by decide) port.toNat
  have shown : portText port = bytes (toString m) := by
    rw [portText, bytes_toString, bytes_toString, hm]
  rw [shown, user.int_number] at h
  have wide : read.toUInt32.toNat = read.toNat := UInt16.toNat_toUInt32 read
  have nonzero : read.toUInt32 ≠ 0 := by
    intro h0
    rw [h0] at wide
    exact hread (UInt16.toNat_inj.mp wide.symm)
  split at h
  next hlt =>
    obtain rfl : m = port.toNat := by
      rcases large with rfl | large
      · rfl
      · omega
    have same : port.toNat = read.toNat := by
      have hnat := congrArg UInt32.toNat h
      rwa [wide, UInt32.toNat_ofNat', Nat.mod_eq_of_lt hlt] at hnat
    have small : read.toNat < 2 ^ 16 := read.toNat_lt
    apply UInt16.toNat_inj.mp
    rw [UInt64.toNat_toUInt16, same, Nat.mod_eq_of_lt small]
  next => exact absurd h.symm nonzero

end Texts

section Stored

variable {W : Type} {bridge : Bridge W} {store : W → Store} {text : SettingText} {maxSize : Nat}

theorem settingSet_store (hs : bridge.Stores store text maxSize) (key : String) {value : Bytes}
    (hlen : value.length < maxSize) (w : W) : store (settingSet bridge key value w) =
      (store w).set (bytes "XAutomate") (bytes key) value := by
  unfold settingSet
  rw [hs.set_store, if_pos hlen]

theorem settingSetUint_store (hs : bridge.Stores store text maxSize) (key : String) (value : UInt64)
    (w : W) : store (settingSetUint bridge key value w) =
      (store w).set (bytes "XAutomate") (bytes key) (text.ofUint value) := hs.setUint_store ..

namespace Store

variable (st : Store)

theorem get_set (key key' : String) (value : Bytes) :
    (st.set (bytes "XAutomate") (bytes key) value).get key' =
      if bytes key' = bytes key then some value else st.get key' := by
  unfold get
  split
  next h => rw [h, set_same]
  next h => exact set_of_ne st fun hk => h (Prod.mk.inj hk).2

/-- The settings of the remote mode. -/
def setRemote (text : SettingText) (address : Bytes) (reqPort pubPort : UInt64) : Store :=
  (((st.set (bytes "XAutomate") (bytes "Mode") (bytes "remote")).set (bytes "XAutomate")
    (bytes "BindAddress") address).set (bytes "XAutomate") (bytes "ReqRepPort")
    (text.ofUint reqPort)).set (bytes "XAutomate") (bytes "PubSubPort") (text.ofUint pubPort)

/-- The settings of the remote mode are read back one by one. -/
theorem get_setRemote (text : SettingText) (address : Bytes) (reqPort pubPort : UInt64) :
    let st' := st.setRemote text address reqPort pubPort
    (st'.get "Mode" = some (bytes "remote") ∧ st'.get "BindAddress" = some address) ∧
      st'.get "ReqRepPort" = some (text.ofUint reqPort) ∧
      st'.get "PubSubPort" = some (text.ofUint pubPort) := by
  simp only [setRemote, get_set]
  exact ⟨⟨rfl, rfl⟩, rfl, rfl⟩

theorem effective_setRemote (faithful : ∀ n, text.toUint (text.ofUint n) = some n)
    {address : Bytes} (haddr : cstr address = address) (hne : address ≠ [])
    {reqPort pubPort : UInt64} (hreq : reqPort ≠ 0) (hpub : pubPort ≠ 0) :
    (st.setRemote text address reqPort pubPort).effective text =
      .remote address reqPort.toUInt16 pubPort.toUInt16 := by
  obtain ⟨⟨mode, bindAddr⟩, req, pub⟩ := st.get_setRemote text address reqPort pubPort
  have remote : cstr (bytes "remote") = bytes "remote" := by decide
  have hpos : address.length > 0 := List.length_pos_iff.mpr hne
  simp only [effective, string, port, mode, bindAddr, req, pub, Option.map_some, remote, if_true,
    haddr, addressOrAny, hpos, Option.bind_some, faithful, Option.getD_some, portOr, hreq, hpub,
    if_false]

end Store

end Stored

section Entered

variable (user : User32)

/-- The text of the address control reads back as it was set. -/
def SettingsDlg.ReadsBack (dlg : SettingsDlg) : Prop :=
  user.getDlgItemText dlg.bindAddr 256 = dlg.bindAddr

/-- The configuration that is entered in the dialog; the ports of a remote one are two distinct
numbers from 1 to 65535. -/
def SettingsDlg.Enters (dlg : SettingsDlg) : Effective → Prop
  | .localhost => dlg.remote = false
  | .remote address reqPort pubPort =>
    dlg.remote = true ∧ dlg.bindAddr = address ∧
      user.getDlgItemInt dlg.reqPort = reqPort.toUInt32 ∧
      user.getDlgItemInt dlg.pubPort = pubPort.toUInt32 ∧ reqPort ≠ 0 ∧ pubPort ≠ 0 ∧
      reqPort ≠ pubPort

end Entered

section Dialog

variable {W : Type} {user : User32} {bridge : Bridge W} {store : W → Store} {text : SettingText}
  {maxSize : Nat}

/-- The configuration that the server uses: it is what the settings come to, and a session that is
acquired with them, on whatever platform, has its sockets there and says so in its file. -/
structure Uses (bridge : Bridge W) (w : W) (config : Effective) : Prop where
  settled : ServerM.config bridge { world := w } = config
  acquired : ∀ (os : Platform W) (fuel : Nat), wp (acquireSession bridge os fuel)
    (fun acquired s => acquired = true → Announced s ∧ ServesAt s config) (fun _ _ => True)
    { world := w }

theorem uses_config (bridge : Bridge W) (w : W) :
    Uses bridge w (ServerM.config bridge { world := w }) :=
  ⟨rfl, fun os fuel => acquireSession_announced bridge os fuel { world := w }⟩

def Refused (user : User32) (bridge : Bridge W) (store : W → Store) (dlg : SettingsDlg) (w : W) :
    Prop :=
  ∃ warning, (onOk user bridge dlg w).1 = .warning warning ∧
    store (onOk user bridge dlg w).2 = store w

/-- OK is accepted, and a session acquired from then on uses what was entered. -/
structure Accepted (user : User32) (bridge : Bridge W) (store : W → Store) (dlg : SettingsDlg)
    (w : W) : Prop where
  ended : (onOk user bridge dlg w).1 = .ended
  entered : ∃ config, dlg.Enters user config ∧ Uses bridge (onOk user bridge dlg w).2 config
  untouched : dlg.remote = false → ∀ k, k ≠ (bytes "XAutomate", bytes "Mode") →
    store (onOk user bridge dlg w).2 k = store w k

theorem config_of_store (hs : bridge.Stores store text maxSize) (w : W) :
    ServerM.config bridge { world := w } = (store w).effective text := by
  unfold ServerM.config
  rw [hs.effective_eq, hs.getPid]

theorem uses_of_store (hs : bridge.Stores store text maxSize) {w : W} {config : Effective}
    (h : (store w).effective text = config) : Uses bridge w config := by
  have used := uses_config bridge w
  rwa [config_of_store hs, h] at used

/-- An accepted port is stored and read back without loss. -/
theorem accepted_port {port : UInt32} (nonzero : port ≠ 0) (h : ¬port > 65535) :
    ∃ read : UInt16, read ≠ 0 ∧ port = read.toUInt32 ∧ port.toUInt64 ≠ 0 ∧
      port.toUInt64.toUInt16 = read := by
  have bound : port.toNat ≤ (65535 : UInt32).toNat :=
    UInt32.le_iff_toNat_le.mp (UInt32.not_lt.mp h)
  have limit : (65535 : UInt32).toNat = 65535 := rfl
  have back : port.toUInt64.toUInt16.toUInt32 = port := by
    apply UInt32.toNat_inj.mp
    rw [UInt16.toNat_toUInt32, UInt64.toNat_toUInt16, UInt32.toNat_toUInt64,
      Nat.mod_eq_of_lt (by omega)]
  have kept : port.toUInt64.toUInt16 ≠ 0 := by
    intro h
    rw [h] at back
    exact nonzero back.symm
  exact ⟨_, kept, back.symm, fun h => kept (by rw [h]; rfl), rfl⟩

theorem onOk_local (hs : bridge.Stores store text maxSize) (hmax : 256 ≤ maxSize)
    {dlg : SettingsDlg} (hremote : dlg.remote = false) (w : W) :
    Accepted user bridge store dlg w := by
  have run : onOk user bridge dlg w = (.ended, settingSet bridge "Mode" (bytes "local") w) := by
    unfold onOk
    rw [if_neg (by simp [hremote])]
  have short : (bytes "local").length = 5 := by decide
  have stored : store (onOk user bridge dlg w).2 =
      (store w).set (bytes "XAutomate") (bytes "Mode") (bytes "local") := by
    rw [run]
    exact settingSet_store hs "Mode" (by omega) w
  refine ⟨by rw [run], ?_, fun _ k hk => ?_⟩
  · have effective : (store (onOk user bridge dlg w).2).effective text = .localhost := by
      rw [stored, Store.effective, Store.string, Store.get_set, if_pos rfl]
      rfl
    exact ⟨.localhost, hremote, uses_of_store hs effective⟩
  · rw [stored, Store.set_of_ne _ hk]

/-- OK in remote mode warns, or stores an address and two distinct ports. -/
theorem onOk_remote_cases (user : User32) (bridge : Bridge W) {dlg : SettingsDlg}
    (hremote : dlg.remote = true) (w : W) :
    (∃ warning, onOk user bridge dlg w = (.warning warning, w)) ∨
      ((user.getDlgItemInt dlg.reqPort ≠ 0 ∧ ¬user.getDlgItemInt dlg.reqPort > 65535) ∧
        (user.getDlgItemInt dlg.pubPort ≠ 0 ∧ ¬user.getDlgItemInt dlg.pubPort > 65535) ∧
        user.getDlgItemInt dlg.reqPort ≠ user.getDlgItemInt dlg.pubPort ∧
        user.getDlgItemText dlg.bindAddr 256 ≠ [] ∧
        onOk user bridge dlg w = (.ended,
          settingSetUint bridge "PubSubPort" (user.getDlgItemInt dlg.pubPort).toUInt64
            (settingSetUint bridge "ReqRepPort" (user.getDlgItemInt dlg.reqPort).toUInt64
              (settingSet bridge "BindAddress" (user.getDlgItemText dlg.bindAddr 256)
                (settingSet bridge "Mode" (bytes "remote") w))))) := by
  unfold onOk
  simp only [hremote, if_true]
  split
  · exact Or.inl ⟨_, rfl⟩
  next ports =>
    split
    · exact Or.inl ⟨_, rfl⟩
    next distinct =>
      split
      · exact Or.inl ⟨_, rfl⟩
      next nonempty =>
        simp only [not_or] at ports
        obtain ⟨reqNonzero, pubNonzero, reqBound, pubBound⟩ := ports
        exact Or.inr ⟨⟨reqNonzero, reqBound⟩, ⟨pubNonzero, pubBound⟩, distinct,
          fun h => nonempty (List.length_eq_zero_iff.mpr h), rfl⟩

theorem onOk_remote (hs : bridge.Stores store text maxSize) (hmax : 256 ≤ maxSize)
    (faithful : ∀ n, text.toUint (text.ofUint n) = some n) {dlg : SettingsDlg}
    (hremote : dlg.remote = true) (back : dlg.ReadsBack user) (w : W) :
    Refused user bridge store dlg w ∨ Accepted user bridge store dlg w := by
  obtain ⟨warning, run⟩ | ⟨req, pub, distinct, nonempty, run⟩ :=
    onOk_remote_cases user bridge hremote w
  · exact Or.inl ⟨warning, by rw [run], by rw [run]⟩
  obtain ⟨reqPort, reqPos, reqRead, reqStored, reqBack⟩ := accepted_port req.1 req.2
  obtain ⟨pubPort, pubPos, pubRead, pubStored, pubBack⟩ := accepted_port pub.1 pub.2
  have modeFits : (bytes "remote").length = 6 := by decide
  have addressFits : (user.getDlgItemText dlg.bindAddr 256).length ≤ 255 := user.text_length _ 256
  have stored : store (onOk user bridge dlg w).2 = (store w).setRemote text dlg.bindAddr
      (user.getDlgItemInt dlg.reqPort).toUInt64 (user.getDlgItemInt dlg.pubPort).toUInt64 := by
    rw [run, settingSetUint_store hs, settingSetUint_store hs, settingSet_store hs _ (by omega),
      settingSet_store hs _ (by omega), back]
    rfl
  have terminated : cstr dlg.bindAddr = dlg.bindAddr := by
    rw [← back]
    exact user.text_terminated _ _
  rw [back] at nonempty
  have effective : (store (onOk user bridge dlg w).2).effective text =
      .remote dlg.bindAddr reqPort pubPort := by
    rw [stored, Store.effective_setRemote _ faithful terminated nonempty reqStored pubStored,
      reqBack, pubBack]
  refine Or.inr ⟨by rw [run], ⟨_, ?_, uses_of_store hs effective⟩,
    fun h => absurd h (by simp [hremote])⟩
  refine ⟨hremote, rfl, reqRead, pubRead, reqPos, pubPos, ?_⟩
  rintro rfl
  exact distinct (reqRead.trans pubRead.symm)

/-- The dialog that opens on a store. -/
def Store.dialog (st : Store) (text : SettingText) : SettingsDlg where
  remote := decide (st.string "Mode" = some (bytes "remote"))
  bindAddr := addressOrAny (st.string "BindAddress")
  reqPort := portText (st.port text "ReqRepPort" 27066)
  pubPort := portText (st.port text "PubSubPort" 27067)
  remoteControls := decide (st.string "Mode" = some (bytes "remote"))

theorem onInitDialog_eq (hs : bridge.Stores store text maxSize) (w : W) :
    (onInitDialog bridge w).1.1 = (store w).dialog text ∧
      store (onInitDialog bridge w).2 = store w := by
  have noEdit : store (onInitDialog bridge w).2 = store w := by
    simp only [onInitDialog, settingGet, settingGetUint, hs.get_store, hs.getUint_store]
  refine ⟨?_, noEdit⟩
  simp only [onInitDialog, settingGet, settingGetUint, SettingRead.text, hs.get, hs.get_store,
    hs.getUint, hs.getUint_store]
  unfold Store.dialog
  congr 1
  -- the dialog tests for an empty address, the server for one that is not
  unfold Store.string Store.get addressOrAny
  cases store w (bytes "XAutomate", bytes "BindAddress") with
  | none => rfl
  | some v =>
    dsimp only [Option.map_some]
    cases cstr v <;> rfl

theorem dialog_readsBack {st : Store} (fits : st.Fits) (text : SettingText) (user : User32) :
    (st.dialog text).ReadsBack user := by
  have any : user.getDlgItemText (bytes "0.0.0.0") 256 = bytes "0.0.0.0" :=
    user.text_back _ 256 (by decide) (by decide)
  unfold SettingsDlg.ReadsBack Store.dialog addressOrAny Store.string
  cases hv : st.get "BindAddress" with
  | none => exact any
  | some v =>
    have short := fits.bindAddress v hv
    have readBack : user.getDlgItemText (cstr v) 256 = cstr v := by
      have := length_cstr_le v
      exact user.text_back _ 256 (cstr_cstr v) (by omega)
    dsimp only [Option.map_some]
    split
    · exact readBack
    · exact any

/-- The dialog enters, when it opens, the configuration of the store or none. -/
theorem effective_of_dialog {st : Store} {text : SettingText} {config : Effective}
    (h : (st.dialog text).Enters user config) : config = st.effective text := by
  unfold Store.effective
  cases config with
  | localhost =>
    have mode : ¬st.string "Mode" = some (bytes "remote") := of_decide_eq_false h
    rw [if_neg mode]
  | remote address reqPort pubPort =>
    obtain ⟨hremote, rfl, hreq, hpub, reqNonzero, pubNonzero, -⟩ := h
    have mode : st.string "Mode" = some (bytes "remote") := of_decide_eq_true hremote
    have req := port_of_read reqNonzero hreq
    have pub := port_of_read pubNonzero hpub
    rw [if_pos mode, req, pub]
    rfl

/-- The dialog and the server agree on the configuration. What is entered is refused, and the
store stays as it is, or it is what the next session uses; and to open the dialog and press OK is
refused, or the next session uses what it would have used. -/
theorem dialog_agrees_with_server (user : User32) (hs : bridge.Stores store text maxSize)
    (hmax : 256 ≤ maxSize) (faithful : ∀ n, text.toUint (text.ofUint n) = some n) :
    (∀ (dlg : SettingsDlg) (w : W), dlg.ReadsBack user →
      Refused user bridge store dlg w ∨ Accepted user bridge store dlg w) ∧
    ∀ w, (store w).Fits →
      let opened := onInitDialog bridge w
      Refused user bridge store opened.1.1 opened.2 ∨ ∃ config, Uses bridge w config ∧
        Uses bridge (onOk user bridge opened.1.1 opened.2).2 config := by
  have entering (dlg : SettingsDlg) (w : W) (back : dlg.ReadsBack user) :
      Refused user bridge store dlg w ∨ Accepted user bridge store dlg w := by
    cases hremote : dlg.remote with
    | false => exact Or.inr (onOk_local hs hmax hremote w)
    | true => exact onOk_remote hs hmax faithful hremote back w
  refine ⟨entering, fun w fits => ?_⟩
  have opened := (onInitDialog_eq hs w).1
  have back : (onInitDialog bridge w).1.1.ReadsBack user := by
    rw [opened]
    exact dialog_readsBack fits text user
  refine (entering _ (onInitDialog bridge w).2 back).imp_right fun accepted => ?_
  obtain ⟨config, entered, used⟩ := accepted.entered
  rw [opened] at entered
  exact ⟨config, uses_of_store hs (effective_of_dialog entered).symm, used⟩

def remoteDialog : SettingsDlg :=
  ⟨true, bytes "192.168.0.2", bytes "5000", bytes "5001", true⟩

theorem remote_dialog_agrees :
    let bridge := storeBridge .hex 0x10000
    (Refused .ansi bridge id remoteDialog .empty ∨ Accepted .ansi bridge id remoteDialog .empty) ∧
      (let opened := onInitDialog bridge .empty
      Refused .ansi bridge id opened.1.1 opened.2 ∨ ∃ config, Uses bridge .empty config ∧
        Uses bridge (onOk .ansi bridge opened.1.1 opened.2).2 config) := by
  intro bridge
  have agrees := dialog_agrees_with_server .ansi (storeBridge_stores .hex 0x10000) (by decide)
    SettingText.hex_toUint
  have back : User32.ansi.getDlgItemText remoteDialog.bindAddr 256 = remoteDialog.bindAddr := by
    decide
  exact ⟨agrees.1 remoteDialog .empty back, agrees.2 .empty Store.fits_empty⟩

end Dialog

end XAuto
