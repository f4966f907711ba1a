import XAuto.Bridge
import XAuto.Decimal
import Mathlib.Data.List.TakeWhile
import Mathlib.Data.Nat.Digits.Lemmas

namespace XAuto

theorem bytes_toString (n : Nat) : bytes (toString n) = Decimal.text n := Decimal.toUTF8_toString n

theorem cstr_text (n : Nat) : cstr (Decimal.text n) = Decimal.text n := by
  refine List.takeWhile_eq_self_iff.mpr fun d hd => ?_
  have digit := (Decimal.digit_of_mem_text hd).1
  have nonzero : d ≠ 0 := by
    rintro rfl
    exact absurd digit (by decide)
  simpa using nonzero

/-- The settings by section and key, each as the text the bridge keeps. -/
abbrev Store := Bytes × Bytes → Option Bytes

def Store.empty : Store := fun _ => none

def Store.set (st : Store) (section_ key value : Bytes) : Store :=
  Function.update st (section_, key) (some value)

@[simp] theorem Store.set_same (st : Store) (section_ key value : Bytes) :
    st.set section_ key value (section_, key) = some value := Function.update_self ..

theorem Store.set_of_ne (st : Store) {section_ key value : Bytes} {k : Bytes × Bytes}
    (h : k ≠ (section_, key)) : st.set section_ key value k = st k := Function.update_of_ne h ..

structure SettingText where
  ofUint : UInt64 → Bytes
  toUint : Bytes → Option UInt64

/-- The settings calls of a bridge as a map from names to texts of fewer than `maxSize` bytes;
a longer text is not stored. -/
structure Bridge.Stores {W : Type} (bridge : Bridge W) (store : W → Store) (text : SettingText)
    (maxSize : Nat) : Prop where
  getPid : ∀ w, store (bridge.getCurrentProcessId w).2 = store w
  get : ∀ section_ key w, (bridge.bridgeSettingGet section_ key w).1 = store w (section_, key)
  get_store : ∀ section_ key w, store (bridge.bridgeSettingGet section_ key w).2 = store w
  getUint : ∀ section_ key w, (bridge.bridgeSettingGetUint section_ key w).1 =
    (store w (section_, key)).bind text.toUint
  getUint_store : ∀ section_ key w, store (bridge.bridgeSettingGetUint section_ key w).2 = store w
  set_store : ∀ section_ key value w, store (bridge.bridgeSettingSet section_ key value w).2 =
    if value.length < maxSize then (store w).set section_ key value else store w
  setUint_store : ∀ section_ key value w,
    store (bridge.bridgeSettingSetUint section_ key value w).2 =
      (store w).set section_ key (text.ofUint value)

def SettingText.hex : SettingText where
  ofUint n :=
    if n = 0 then [48]
    else (Nat.digits 16 n.toNat).reverse.map fun d =>
      UInt8.ofNat (if d < 10 then 48 + d else 55 + d)
  toUint s := some (UInt64.ofNat
    (s.foldl (fun n d => 16 * n + (if d ≤ 57 then d.toNat - 48 else d.toNat - 55)) 0))

theorem SettingText.hex_length (n : UInt64) : (SettingText.hex.ofUint n).length ≤ 20 := by
  have hlen : (Nat.digits 16 n.toNat).length ≤ 16 :=
    (Nat.digits_length_le_iff (by decide) _).mpr n.toNat_lt
  unfold SettingText.hex
  dsimp only
  split
  · decide
  · simp only [List.length_map, List.length_reverse]
    omega

/-- A number is stored without loss. -/
theorem SettingText.hex_toUint (n : UInt64) :
    SettingText.hex.toUint (SettingText.hex.ofUint n) = some n := by
  let digit (d : Nat) : UInt8 := UInt8.ofNat (if d < 10 then 48 + d else 55 + d)
  let value (b : UInt8) : Nat := if b ≤ 57 then b.toNat - 48 else b.toNat - 55
  have value_digit : ∀ d < 16, value (digit d) = d := by decide
  have read : ((Nat.digits 16 n.toNat).reverse.map digit).foldl (fun m b => 16 * m + value b) 0 =
      n.toNat := by
    rw [List.foldl_map, List.foldl_reverse]
    refine Eq.trans (List.foldr_ext _ (fun d m => d + 16 * m) _ fun d hd m => ?_) ?_
    · have hlt : d < 16 := Nat.digits_lt_base (by decide) hd
      rw [value_digit d hlt, add_comm]
    · exact (Nat.ofDigits_eq_foldr 16 _).symm.trans (Nat.ofDigits_digits 16 n.toNat)
  unfold SettingText.hex
  dsimp only
  split
  next h => rw [h]; rfl
  next =>
    refine congrArg some ?_
    exact (congrArg UInt64.ofNat read).trans (UInt64.ofNat_toNat)

def storeBridge (text : SettingText) (maxSize : Nat) : Bridge Store :=
  { Bridge.idle with
    bridgeSettingGet := fun section_ key st => (st (section_, key), st)
    bridgeSettingGetUint := fun section_ key st => ((st (section_, key)).bind text.toUint, st)
    bridgeSettingSet := fun section_ key value st =>
      if value.length < maxSize then (true, st.set section_ key value) else (false, st)
    bridgeSettingSetUint := fun section_ key value st =>
      (true, st.set section_ key (text.ofUint value)) }

theorem storeBridge_stores (text : SettingText) (maxSize : Nat) :
    (storeBridge text maxSize).Stores id text maxSize := by
  refine ⟨fun _ => rfl, fun _ _ _ => rfl, fun _ _ _ => rfl, fun _ _ _ => rfl, fun _ _ _ => rfl, ?_,
    fun _ _ _ _ => rfl⟩
  intro section_ key value st
  simp only [storeBridge]
  split <;> rfl

/-- A value copied out of the store into a buffer of the given capacity. -/
structure SettingRead where
  key : Bytes
  capacity : Nat
  value : Option Bytes
  deriving DecidableEq, Repr

namespace SettingRead

def Fits (r : SettingRead) : Prop := ∀ v ∈ r.value, v.length + 1 ≤ r.capacity

/-- What the buffer holds as a string, unless the call failed. -/
def text (r : SettingRead) : Option Bytes := r.value.map cstr

end SettingRead

section Calls

variable {W : Type} (bridge : Bridge W)

/-- `BridgeSettingGet("XAutomate", key, buf)` for a buffer of zeros. -/
def settingGet (key : String) (capacity : Nat) (w : W) : SettingRead × W :=
  let res := bridge.bridgeSettingGet (bytes "XAutomate") (bytes key) w
  (⟨bytes key, capacity, res.1⟩, res.2)

/-- `BridgeSettingGetUint("XAutomate", key, &value)` for a value of zero. -/
def settingGetUint (key : String) (w : W) : UInt64 × W :=
  let res := bridge.bridgeSettingGetUint (bytes "XAutomate") (bytes key) w
  (res.1.getD 0, res.2)

def settingSet (key : String) (value : Bytes) (w : W) : W :=
  (bridge.bridgeSettingSet (bytes "XAutomate") (bytes key) value w).2

def settingSetUint (key : String) (value : UInt64) (w : W) : W :=
  (bridge.bridgeSettingSetUint (bytes "XAutomate") (bytes key) value w).2

end Calls

end XAuto
