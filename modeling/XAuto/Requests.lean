import XAuto.Dispatch
import XAuto.Effect

namespace XAuto

/-- A value the process can represent and hold. -/
def Obj.Fits (m : Machine) : Obj → Prop
  | .positiveInteger n => n.toNat < 2 ^ m.bitness.bits
  | .str s => s.length ≤ m.maxLength
  | .bin data => data.length ≤ m.maxLength
  | _ => True

instance (m : Machine) : DecidablePred (Obj.Fits m) := fun o => by
  cases o <;> unfold Obj.Fits <;> infer_instance

/-- The request has an element of each listed type at the listed index. -/
def HasArgs (root : Obj) (tys : List (Nat × ObjType)) : Prop :=
  ∀ p ∈ tys, (root.elems[p.1]?).map Obj.type = some p.2

def ArgsFit (m : Machine) (root : Obj) (tys : List (Nat × ObjType)) : Prop :=
  ∀ p ∈ tys, ∀ o ∈ root.elems[p.1]?, o.type = p.2 → o.Fits m

instance (root : Obj) (tys : List (Nat × ObjType)) : Decidable (HasArgs root tys) :=
  inferInstanceAs (Decidable (∀ p ∈ tys, _))

instance (m : Machine) (root : Obj) (tys : List (Nat × ObjType)) :
    Decidable (ArgsFit m root tys) :=
  inferInstanceAs (Decidable (∀ p ∈ tys, _))

theorem hasArgs_cons {root : Obj} {p : Nat × ObjType} {tys : List (Nat × ObjType)} :
    HasArgs root (p :: tys) ↔ (root.elems[p.1]?).map Obj.type = some p.2 ∧ HasArgs root tys := by
  unfold HasArgs
  exact List.forall_mem_cons

section Elements

variable {root : Obj} {tys : List (Nat × ObjType)} {i : Nat}

theorem HasArgs.str (h : HasArgs root tys) (hi : (i, .str) ∈ tys) :
    ∃ s, root.elems[i]? = some (.str s) := by
  obtain ⟨o, ho, ht⟩ := Option.map_eq_some_iff.mp (h _ hi)
  obtain ⟨s, rfl⟩ := Obj.type_eq_str.mp ht
  exact ⟨s, ho⟩

theorem HasArgs.positiveInteger (h : HasArgs root tys) (hi : (i, .positiveInteger) ∈ tys) :
    ∃ n, root.elems[i]? = some (.positiveInteger n) := by
  obtain ⟨o, ho, ht⟩ := Option.map_eq_some_iff.mp (h _ hi)
  obtain ⟨n, rfl⟩ := Obj.type_eq_positiveInteger.mp ht
  exact ⟨n, ho⟩

theorem HasArgs.bin (h : HasArgs root tys) (hi : (i, .bin) ∈ tys) :
    ∃ data, root.elems[i]? = some (.bin data) := by
  obtain ⟨o, ho, ht⟩ := Option.map_eq_some_iff.mp (h _ hi)
  obtain ⟨data, rfl⟩ := Obj.type_eq_bin.mp ht
  exact ⟨data, ho⟩

theorem HasArgs.lt_length (h : HasArgs root tys) {p : Nat × ObjType} (hp : p ∈ tys) :
    p.1 < root.elems.length := by
  obtain ⟨o, ho, -⟩ := Option.map_eq_some_iff.mp (h p hp)
  exact (List.getElem?_eq_some_iff.mp ho).1

end Elements

namespace Command

/-- The arguments each handler checks for. -/
def args : Command → List (Nat × ObjType)
  | .dbgEval => [(1, .str)]
  | .dbgCmdExecDirect => [(1, .str)]
  | .dbgReadMemory => [(1, .positiveInteger), (2, .positiveInteger)]
  | .dbgWriteMemory => [(1, .positiveInteger), (2, .bin)]
  | .dbgReadSettingSz => [(1, .str), (2, .str)]
  | .dbgWriteSettingSz => [(1, .str), (2, .str), (3, .str)]
  | .dbgReadSettingUint => [(1, .str), (2, .str)]
  | .dbgWriteSettingUint => [(1, .str), (2, .str), (3, .positiveInteger)]
  | .dbgIsValidReadPtr => [(1, .positiveInteger)]
  | .disassemble => [(1, .positiveInteger)]
  | .assemble => [(1, .positiveInteger), (2, .str)]
  | .getBreakpoints => [(1, .positiveInteger)]
  | .getLabel => [(1, .positiveInteger), (2, .positiveInteger)]
  | .getComment => [(1, .positiveInteger)]
  | .getSymbol => [(1, .positiveInteger)]
  | _ => []

/-- The arguments `get_log` uses where they are there with the right type. -/
def optionalArgs : List (Nat × ObjType) :=
  [(1, .positiveInteger), (2, .positiveInteger), (3, .str)]

def reportsBadArgs : Command → Bool
  | .dbgEval | .dbgCmdExecDirect | .dbgReadMemory | .dbgWriteMemory => true
  | .dbgReadSettingSz | .dbgWriteSettingSz | .dbgReadSettingUint | .dbgWriteSettingUint => true
  | _ => false

def Refuses (root : Obj) (c : Command) : Prop :=
  c.reportsBadArgs = true ∧ ¬HasArgs root c.args

/-- The process can represent and hold every argument the handler converts, and the buffer of a
memory read. -/
def Fits (m : Machine) (root : Obj) : Command → Prop
  | .dbgReadMemory => HasArgs root dbgReadMemory.args →
      ArgsFit m root dbgReadMemory.args ∧
        ∀ o ∈ root.elems[2]?, ∀ n, o = .positiveInteger n → n.toNat ≤ m.maxLength
  | .getLog => ArgsFit m root optionalArgs
  | c => HasArgs root c.args → ArgsFit m root c.args

theorem fits_of_not_hasArgs {m : Machine} {root : Obj} {c : Command}
    (h : ¬HasArgs root c.args) : c.Fits m root := by
  cases c with
  | getLog => exact absurd (by simp [HasArgs, args]) h
  | _ => exact fun h' => absurd h' h

theorem Fits.argsFit {m : Machine} {root : Obj} {c : Command} (h : c.Fits m root)
    (hargs : HasArgs root c.args) : ArgsFit m root c.args := by
  cases c with
  | dbgReadMemory => exact (h hargs).1
  | getLog => simp [ArgsFit, args]
  | _ => exact h hargs

/-- The fourth element is there whenever the setting writers look at it. -/
def InBounds (root : Obj) : Command → Prop
  | .dbgWriteSettingSz | .dbgWriteSettingUint =>
      ¬(root.elems.length = 3 ∧ HasArgs root [(1, .str), (2, .str)])
  | _ => True

/-- The handler goes on with a list that the bridge left unwritten. -/
def Unwritten {W : Type} (env : Env W) (root : Obj) (w : W) : Command → Prop
  | .dbgMemmap => (env.bridge.dbgMemMap w).1 = none
  | .getBreakpoints => ∃ bpType, root.elems[1]? = some (.positiveInteger bpType) ∧
      (env.bridge.dbgGetBpList bpType.toUInt32 w).1 = none
  | _ => False

end Command

namespace Event

/-- An inspected element is an element of the request. -/
def InRange (root : Obj) : Event → Prop
  | .element i => i < root.elems.length
  | _ => True

/-- What a mutating bridge call is given are elements of the request, of the checked types. -/
def Passed (root : Obj) : Event → Prop
  | .dbgCmdExecDirect cmd => ∃ s, root.elems[1]? = some (.str s) ∧ cmd = cstr s
  | .dbgMemWrite addr data _ =>
    root.elems[1]? = some (.positiveInteger addr) ∧ root.elems[2]? = some (.bin data)
  | .dbgAssembleAt addr instr =>
    root.elems[1]? = some (.positiveInteger addr) ∧
      ∃ s, root.elems[2]? = some (.str s) ∧ instr = cstr s
  | .bridgeSettingSet section_ key value =>
    (∃ s, root.elems[1]? = some (.str s) ∧ section_ = cstr s) ∧
      (∃ s, root.elems[2]? = some (.str s) ∧ key = cstr s) ∧
      ∃ s, root.elems[3]? = some (.str s) ∧ value = cstr s
  | .bridgeSettingSetUint section_ key value =>
    (∃ s, root.elems[1]? = some (.str s) ∧ section_ = cstr s) ∧
      (∃ s, root.elems[2]? = some (.str s) ∧ key = cstr s) ∧
      root.elems[3]? = some (.positiveInteger value)
  | _ => True

def memFailure : Event → Bool
  | .dbgMemRead _ _ success => !success
  | .dbgMemWrite _ _ success => !success
  | _ => false

end Event

/-- Nothing that a check on a missing element finds passes the check. -/
def Env.MissingFails {W : Type} (env : Env W) : Prop :=
  ∀ i, ∃ o, env.past i = some o ∧ ∀ c : Command, ∀ p ∈ c.args, o.type ≠ p.2

end XAuto
