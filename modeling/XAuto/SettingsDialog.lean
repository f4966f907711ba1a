import XAuto.Settings

namespace XAuto

variable {W : Type}

structure SettingsDlg where
  remote : Bool
  bindAddr : Bytes
  reqPort : Bytes
  pubPort : Bytes
  remoteControls : Bool
  deriving DecidableEq, Repr

/-- What pressing OK comes to: a warning, or the end of the dialog. -/
inductive DlgResult
  | warning (text : Bytes)
  | ended
  deriving DecidableEq, Repr

/-- What user32 makes of the text of a control: a buffer is never overrun, a text that fits one is
copied, and a number is read as itself if it is one of 32 bits. -/
structure User32 where
  /-- `GetDlgItemTextA(hDlg, item, buf, size)`. -/
  getDlgItemText : Bytes → Nat → Bytes
  /-- `GetDlgItemInt(hDlg, item, nullptr, FALSE)`. -/
  getDlgItemInt : Bytes → UInt32
  text_length : ∀ text size, (getDlgItemText text size).length ≤ size - 1
  text_terminated : ∀ text size, cstr (getDlgItemText text size) = getDlgItemText text size
  text_back : ∀ text size, cstr text = text → text.length < size →
    getDlgItemText text size = text
  int_number : ∀ n, getDlgItemInt (bytes (toString n)) = if n < 2 ^ 32 then UInt32.ofNat n else 0

/-- Blanks before a number are skipped, and it ends where its digits end. -/
def User32.ansi : User32 where
  getDlgItemText text size := (cstr text).take (size - 1)
  getDlgItemInt text :=
    let digits := ((cstr text).dropWhile (· = 32)).takeWhile fun d => 48 ≤ d ∧ d ≤ 57
    let value := Decimal.value digits
    if value < 2 ^ 32 then UInt32.ofNat value else 0
  text_length _ size := List.length_take_le (size - 1) _
  text_terminated text size := by
    refine List.takeWhile_eq_self_iff.mpr fun d hd => ?_
    have mem : d ∈ text.takeWhile (· ≠ 0) := List.mem_of_mem_take hd
    have nonzero := List.mem_takeWhile_imp mem
    simpa using nonzero
  text_back text size whole short := by
    rw [whole]
    exact List.take_of_length_le (by omega)
  int_number n := by
    have digit {d : UInt8} (hd : d ∈ Decimal.text n) : 48 ≤ d ∧ d ≤ 57 :=
      Decimal.digit_of_mem_text hd
    have first : (Decimal.text n).dropWhile (· = 32) = Decimal.text n := by
      refine List.dropWhile_eq_self_iff.mpr fun positive blank => ?_
      have digit := (digit (List.getElem_mem positive)).1
      rw [of_decide_eq_true blank] at digit
      exact absurd digit (by decide)
    have all : ((Decimal.text n).takeWhile fun d => 48 ≤ d ∧ d ≤ 57) = Decimal.text n :=
      List.takeWhile_eq_self_iff.mpr fun d hd => decide_eq_true (digit hd)
    rw [bytes_toString, cstr_text, first, all]
    dsimp only
    rw [Decimal.value_text]

/-- `snprintf(port_buf, sizeof(port_buf), "%llu", port)` for a buffer of 16 bytes. -/
def portText (port : UInt64) : Bytes := (bytes (toString port.toNat)).take 15

/-- `WM_INITDIALOG`: the dialog that opens, with the reads into its buffers. -/
def onInitDialog (bridge : Bridge W) (w : W) : (SettingsDlg × List SettingRead) × W :=
  let mode := settingGet bridge "Mode" 64 w
  let remote := decide (mode.1.text = some (bytes "remote"))
  let bindAddr := settingGet bridge "BindAddress" 256 mode.2
  let address :=
    match bindAddr.1.text with
    | some addr => if addr.length = 0 then bytes "0.0.0.0" else addr
    | none => bytes "0.0.0.0"
  let reqPort := settingGetUint bridge "ReqRepPort" bindAddr.2
  let pubPort := settingGetUint bridge "PubSubPort" reqPort.2
  let dlg : SettingsDlg :=
    { remote, bindAddr := address, remoteControls := remote
      reqPort := portText (if reqPort.1 = 0 then 27066 else reqPort.1)
      pubPort := portText (if pubPort.1 = 0 then 27067 else pubPort.1) }
  ((dlg, [mode.1, bindAddr.1]), pubPort.2)

/-- `IDOK`: the settings are stored, unless one of the remote ones is refused. -/
def onOk (user : User32) (bridge : Bridge W) (dlg : SettingsDlg) (w : W) : DlgResult × W :=
  if dlg.remote then
    let bindAddr := user.getDlgItemText dlg.bindAddr 256
    let reqPort := user.getDlgItemInt dlg.reqPort
    let pubPort := user.getDlgItemInt dlg.pubPort
    if reqPort = 0 ∨ pubPort = 0 ∨ reqPort > 65535 ∨ pubPort > 65535 then
      (.warning (bytes "Ports must be between 1 and 65535."), w)
    else if reqPort = pubPort then
      (.warning (bytes "REQ/REP and PUB/SUB ports must be different."), w)
    else if bindAddr.length = 0 then
      (.warning (bytes "Bind address cannot be empty."), w)
    else
      let w := settingSet bridge "Mode" (bytes "remote") w
      let w := settingSet bridge "BindAddress" bindAddr w
      let w := settingSetUint bridge "ReqRepPort" reqPort.toUInt64 w
      (.ended, settingSetUint bridge "PubSubPort" pubPort.toUInt64 w)
  else (.ended, settingSet bridge "Mode" (bytes "local") w)

end XAuto
