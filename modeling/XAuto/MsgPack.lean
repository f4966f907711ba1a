import Mathlib.Algebra.Order.Ring.Nat
import Mathlib.Data.List.Basic

namespace XAuto

/-- The contents of a `std::string` or a byte vector. -/
abbrev Bytes := List UInt8

/-- A string literal of the source. -/
def bytes (s : String) : Bytes := s.toUTF8.data.toList

/-- What a callee sees of `s.c_str()`: the bytes before the first terminator. -/
def cstr (s : Bytes) : Bytes := s.takeWhile (· ≠ 0)

/-- `msgpack::object`. -/
inductive Obj
  | nil
  | boolean (b : Bool)
  | positiveInteger (n : UInt64)
  | negativeInteger (n : Int64)
  | float32 (bits : UInt32)
  | float64 (bits : UInt64)
  | str (s : Bytes)
  | bin (data : Bytes)
  | array (elems : List Obj)
  | map (pairs : List (Obj × Obj))
  | ext (tag : Int8) (data : Bytes)

/-- `msgpack::type::object_type`. -/
inductive ObjType
  | nil | boolean | positiveInteger | negativeInteger | float32 | float64
  | str | bin | array | map | ext
  deriving DecidableEq, Repr

namespace Obj

def type : Obj → ObjType
  | .nil => .nil
  | .boolean _ => .boolean
  | .positiveInteger _ => .positiveInteger
  | .negativeInteger _ => .negativeInteger
  | .float32 _ => .float32
  | .float64 _ => .float64
  | .str _ => .str
  | .bin _ => .bin
  | .array _ => .array
  | .map _ => .map
  | .ext _ _ => .ext

/-- `root.via.array`: the elements of an array object. -/
def elems : Obj → List Obj
  | .array elems => elems
  | _ => []

def ofNat (n : Nat) : Obj := .positiveInteger (UInt64.ofNat n)

def ofU8 (n : UInt8) : Obj := .positiveInteger n.toUInt64

def ofU16 (n : UInt16) : Obj := .positiveInteger n.toUInt64

def ofU32 (n : UInt32) : Obj := .positiveInteger n.toUInt64

/-- `pack` of a signed `int`. -/
def ofI32 (n : Int32) : Obj :=
  if n ≥ 0 then .positiveInteger n.toInt.toNat.toUInt64 else .negativeInteger n.toInt64

theorem type_eq_str {o : Obj} : o.type = .str ↔ ∃ s, o = .str s := by
  cases o <;> simp [type]

theorem type_eq_positiveInteger {o : Obj} :
    o.type = .positiveInteger ↔ ∃ n, o = .positiveInteger n := by
  cases o <;> simp [type]

theorem type_eq_bin {o : Obj} : o.type = .bin ↔ ∃ data, o = .bin data := by
  cases o <;> simp [type]

/-- `XAutoErrorResponse`, packed as the array of its two members. -/
def errorResponse (success errorString : String) : Obj :=
  .array [.str (bytes success), .str (bytes errorString)]

/-- The shape by which a client tells an error from a result. -/
def IsError (o : Obj) : Prop :=
  ∃ success errorString, o = .array [.str success, .str errorString] ∧ bytes "XERROR_" <+: success

section Reading

def asStr : Obj → Option Bytes
  | .str s => some s
  | _ => none

def asSize : Obj → Option UInt64
  | .positiveInteger n => some n
  | _ => none

def asBin : Obj → Option Bytes
  | .bin data => some data
  | _ => none

def asBool : Obj → Option Bool
  | .boolean b => some b
  | _ => none

/-- An integer of a signed type of 32 bits. -/
def asInt : Obj → Option Int32
  | .positiveInteger n => some (Int32.ofNat n.toNat)
  | .negativeInteger n => some n.toInt32
  | _ => none

/-- The two texts of an error response. -/
def asError : Obj → Option (Bytes × Bytes)
  | .array [.str success, .str errorString] => some (success, errorString)
  | _ => none

def strAt (root : Obj) (i : Nat) : Option Bytes := (root.elems[i]?).bind asStr

def sizeAt (root : Obj) (i : Nat) : Option UInt64 := (root.elems[i]?).bind asSize

def binAt (root : Obj) (i : Nat) : Option Bytes := (root.elems[i]?).bind asBin

def boolAt (root : Obj) (i : Nat) : Option Bool := (root.elems[i]?).bind asBool

def readAt {α : Type} (read : Obj → Option α) (root : Obj) (i : Nat) : Option α :=
  (root.elems[i]?).bind read

/-- The elements of a nested array, each read alike. -/
def listAt {α : Type} (read : Obj → Option α) (root : Obj) (i : Nat) : Option (List α) :=
  (root.elems[i]?).bind fun o => o.elems.mapM read

theorem asStr_eq_some {o : Obj} {s : Bytes} : o.asStr = some s ↔ o = .str s := by
  cases o <;> simp [asStr]

theorem asSize_eq_some {o : Obj} {n : UInt64} : o.asSize = some n ↔ o = .positiveInteger n := by
  cases o <;> simp [asSize]

theorem asBin_eq_some {o : Obj} {data : Bytes} : o.asBin = some data ↔ o = .bin data := by
  cases o <;> simp [asBin]

theorem isSome_asStr {o : Obj} : o.asStr.isSome ↔ o.type = .str := by cases o <;> simp [asStr, type]

theorem isSome_asSize {o : Obj} : o.asSize.isSome ↔ o.type = .positiveInteger := by
  cases o <;> simp [asSize, type]

theorem isSome_asBin {o : Obj} : o.asBin.isSome ↔ o.type = .bin := by cases o <;> simp [asBin, type]

variable {root : Obj} {i : Nat}

theorem strAt_eq_some {s : Bytes} : root.strAt i = some s ↔ root.elems[i]? = some (.str s) := by
  simp [strAt, Option.bind_eq_some_iff, asStr_eq_some]

theorem sizeAt_eq_some {n : UInt64} :
    root.sizeAt i = some n ↔ root.elems[i]? = some (.positiveInteger n) := by
  simp [sizeAt, Option.bind_eq_some_iff, asSize_eq_some]

theorem binAt_eq_some {data : Bytes} :
    root.binAt i = some data ↔ root.elems[i]? = some (.bin data) := by
  simp [binAt, Option.bind_eq_some_iff, asBin_eq_some]

theorem exists_strAt : (∃ s, root.strAt i = some s) ↔ (root.elems[i]?).map type = some .str := by
  unfold strAt
  cases root.elems[i]? <;> simp [← isSome_asStr, Option.isSome_iff_exists]

theorem exists_sizeAt :
    (∃ n, root.sizeAt i = some n) ↔ (root.elems[i]?).map type = some .positiveInteger := by
  unfold sizeAt
  cases root.elems[i]? <;> simp [← isSome_asSize, Option.isSome_iff_exists]

theorem exists_binAt :
    (∃ data, root.binAt i = some data) ↔ (root.elems[i]?).map type = some .bin := by
  unfold binAt
  cases root.elems[i]? <;> simp [← isSome_asBin, Option.isSome_iff_exists]

theorem asInt_ofI32 (n : Int32) : (ofI32 n).asInt = some n := by
  unfold ofI32
  split
  next positive =>
    have nonneg : 0 ≤ n.toInt := by
      have := Int32.le_iff_toInt_le.mp positive
      simpa using this
    have small : n.toInt.toNat < 2 ^ 64 := by
      have := n.toInt_lt
      omega
    refine congrArg some (Int32.toInt.inj ?_)
    have value : (n.toInt.toNat.toUInt64).toNat = n.toInt.toNat :=
      UInt64.toNat_ofNat_of_lt' small
    rw [value, Int32.toInt_ofNat']
    have lower := n.le_toInt
    have upper := n.toInt_lt
    have size : Int32.size = 2 ^ 32 := rfl
    rw [Int.toNat_of_nonneg nonneg]
    exact Int.bmod_eq_of_le (by omega) (by omega)
  next =>
    exact congrArg some (Int32.toInt32_toInt64 n)

/-- A list is read as it was packed, one by one. -/
theorem mapM_map {α β γ : Type} {f : β → Option γ} {g : α → β} {h : α → γ} {l : List α}
    (read : ∀ a ∈ l, f (g a) = some (h a)) : (l.map g).mapM f = some (l.map h) := by
  induction l with
  | nil => rfl
  | cons a l ih =>
    obtain ⟨first, rest⟩ := List.forall_mem_cons.mp read
    simp [List.mapM_cons, first, ih rest]

theorem mapM_asSize (l : List UInt64) : (l.map positiveInteger).mapM asSize = some l := by
  have each := mapM_map (f := asSize) (g := positiveInteger) (h := id) (l := l) fun _ _ => rfl
  rwa [List.map_id] at each

theorem mapM_asStr (l : List Bytes) : (l.map str).mapM asStr = some l := by
  have each := mapM_map (f := asStr) (g := str) (h := id) (l := l) fun _ _ => rfl
  rwa [List.map_id] at each

end Reading

end Obj

end XAuto
