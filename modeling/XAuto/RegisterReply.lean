import XAuto.Registers

namespace XAuto

/-- A block of bytes of a known size; what is missing reads as zero. -/
def padded (n : Nat) (data : Bytes) : Vector UInt8 n := Vector.ofFn fun i => data.getD i 0

theorem padded_toList {n : Nat} (v : Vector UInt8 n) : padded n v.toList = v := by
  ext i hi
  simp [padded, List.getD_eq_getElem?_getD]

section Context

def X87Fpu.ofObj (o : Obj) : Option X87Fpu := do
  pure {
    controlWord := (← o.sizeAt 0).toUInt16
    statusWord := (← o.sizeAt 1).toUInt16
    tagWord := (← o.sizeAt 2).toUInt16
    errorOffset := (← o.sizeAt 3).toUInt32
    errorSelector := (← o.sizeAt 4).toUInt32
    dataOffset := (← o.sizeAt 5).toUInt32
    dataSelector := (← o.sizeAt 6).toUInt32
    cr0NpxState := (← o.sizeAt 7).toUInt32 }

theorem X87Fpu.ofObj_packX87fpu (fpu : X87Fpu) :
    X87Fpu.ofObj (RegDumpTup.packX87fpu fpu) = some fpu := by
  simp [X87Fpu.ofObj, RegDumpTup.packX87fpu, Obj.sizeAt, Obj.elems, Obj.asSize, Obj.ofU16,
    Obj.ofU32]

/-- The registers in the context of a reply, with the two codes that are not part of it. -/
def RegDump.ofCtx (bitness : Bitness) (ctx : Obj) (lastError lastStatus : UInt32) :
    Option RegDump := do
  let gp := match bitness with
    | .x64 => 16
    | .x86 => 8
  let wide (i : Nat) : Option UInt64 := match bitness with
    | .x64 => ctx.sizeAt i
    | .x86 => some 0
  let fpu ← ctx.elems[gp + 15]?
  pure {
    cax := ← ctx.sizeAt 0
    cbx := ← ctx.sizeAt 1
    ccx := ← ctx.sizeAt 2
    cdx := ← ctx.sizeAt 3
    cbp := ← ctx.sizeAt 4
    csp := ← ctx.sizeAt 5
    csi := ← ctx.sizeAt 6
    cdi := ← ctx.sizeAt 7
    r8 := ← wide 8
    r9 := ← wide 9
    r10 := ← wide 10
    r11 := ← wide 11
    r12 := ← wide 12
    r13 := ← wide 13
    r14 := ← wide 14
    r15 := ← wide 15
    cip := ← ctx.sizeAt gp
    eflags := ← ctx.sizeAt (gp + 1)
    cs := (← ctx.sizeAt (gp + 2)).toUInt16
    ds := (← ctx.sizeAt (gp + 3)).toUInt16
    es := (← ctx.sizeAt (gp + 4)).toUInt16
    fs := (← ctx.sizeAt (gp + 5)).toUInt16
    gs := (← ctx.sizeAt (gp + 6)).toUInt16
    ss := (← ctx.sizeAt (gp + 7)).toUInt16
    dr0 := ← ctx.sizeAt (gp + 8)
    dr1 := ← ctx.sizeAt (gp + 9)
    dr2 := ← ctx.sizeAt (gp + 10)
    dr3 := ← ctx.sizeAt (gp + 11)
    dr6 := ← ctx.sizeAt (gp + 12)
    dr7 := ← ctx.sizeAt (gp + 13)
    registerArea := padded 80 (← ctx.binAt (gp + 14))
    x87fpu := ← X87Fpu.ofObj fpu
    mxCsr := (← ctx.sizeAt (gp + 16)).toUInt32
    zmmRegisters := padded (64 * 32) (← ctx.binAt (gp + 17))
    lastError, lastStatus }

/-- A 32-bit build has only the first registers of each kind. -/
def RegDump.seen (bitness : Bitness) (rd : RegDump) : RegDump :=
  match bitness with
  | .x64 => rd
  | .x86 =>
    { rd with
      r8 := 0, r9 := 0, r10 := 0, r11 := 0, r12 := 0, r13 := 0, r14 := 0, r15 := 0
      zmmRegisters := padded (64 * 32) (rd.zmmRegisters.toList.take (64 * 8)) }

@[simp] theorem RegDump.registerArea_seen (bitness : Bitness) (rd : RegDump) :
    (rd.seen bitness).registerArea = rd.registerArea := by
  cases bitness <;> rfl

@[simp] theorem RegDump.x87fpu_seen (bitness : Bitness) (rd : RegDump) :
    (rd.seen bitness).x87fpu = rd.x87fpu := by
  cases bitness <;> rfl

theorem RegDump.ofCtx_packCtx (bitness : Bitness) (rd : RegDump) :
    RegDump.ofCtx bitness (RegDumpTup.packCtx bitness rd) rd.lastError rd.lastStatus =
      some (rd.seen bitness) := by
  have all : rd.zmmRegisters.toList.take (64 * 32) = rd.zmmRegisters.toList :=
    List.take_of_length_le (by simp)
  cases bitness with
  | x64 =>
    simp [RegDump.ofCtx, RegDumpTup.packCtx, RegDump.seen, Obj.sizeAt, Obj.binAt, Obj.elems,
      Obj.asSize, Obj.asBin, Obj.ofU16, Obj.ofU32, X87Fpu.ofObj_packX87fpu, padded_toList, all]
  | x86 =>
    simp [RegDump.ofCtx, RegDumpTup.packCtx, RegDump.seen, Obj.sizeAt, Obj.binAt, Obj.elems,
      Obj.asSize, Obj.asBin, Obj.ofU16, Obj.ofU32, X87Fpu.ofObj_packX87fpu, padded_toList]

end Context

section Fields

def Flags.ofObj (o : Obj) : Option Flags := do
  pure {
    c := ← o.boolAt 0
    p := ← o.boolAt 1
    a := ← o.boolAt 2
    z := ← o.boolAt 3
    s := ← o.boolAt 4
    t := ← o.boolAt 5
    i := ← o.boolAt 6
    d := ← o.boolAt 7
    o := ← o.boolAt 8 }

theorem Flags.ofObj_packFlags (flags : Flags) :
    Flags.ofObj (RegDumpTup.packFlags flags) = some flags := by
  simp [Flags.ofObj, RegDumpTup.packFlags, Obj.boolAt, Obj.elems, Obj.asBool]

def X87FpuRegister.ofObj (o : Obj) : Option X87FpuRegister := do
  pure {
    data := ← o.binAt 0
    stValue := (← o.sizeAt 1).toNat
    tag := (← o.sizeAt 2).toNat }

theorem X87FpuRegister.ofObj_packFpuReg {reg : X87FpuRegister} (stValue : reg.stValue < 2 ^ 64)
    (tag : reg.tag < 2 ^ 64) : X87FpuRegister.ofObj (RegDumpTup.packFpuReg reg) = some reg := by
  have st : (UInt64.ofNat reg.stValue).toNat = reg.stValue := UInt64.toNat_ofNat_of_lt' stValue
  have tag : (UInt64.ofNat reg.tag).toNat = reg.tag := UInt64.toNat_ofNat_of_lt' tag
  simp only [X87FpuRegister.ofObj, RegDumpTup.packFpuReg, Obj.binAt, Obj.sizeAt, Obj.elems,
    Obj.asBin, Obj.asSize, Obj.ofNat, List.getElem?_cons_zero, List.getElem?_cons_succ,
    Option.bind_some, Option.bind_eq_bind, st, tag]
  rfl

def MxCsrFields.ofObj (o : Obj) : Option MxCsrFields := do
  pure {
    fz := ← o.boolAt 0
    pm := ← o.boolAt 1
    um := ← o.boolAt 2
    om := ← o.boolAt 3
    zm := ← o.boolAt 4
    im := ← o.boolAt 5
    dm := ← o.boolAt 6
    daz := ← o.boolAt 7
    pe := ← o.boolAt 8
    ue := ← o.boolAt 9
    oe := ← o.boolAt 10
    ze := ← o.boolAt 11
    de := ← o.boolAt 12
    ie := ← o.boolAt 13
    rc := (← o.sizeAt 14).toUInt16 }

theorem MxCsrFields.ofObj_packMxCsrFields (f : MxCsrFields) :
    MxCsrFields.ofObj (RegDumpTup.packMxCsrFields f) = some f := by
  simp [MxCsrFields.ofObj, RegDumpTup.packMxCsrFields, Obj.boolAt, Obj.sizeAt, Obj.elems,
    Obj.asBool, Obj.asSize, Obj.ofU16]

def X87StatusWordFields.ofObj (o : Obj) : Option X87StatusWordFields := do
  pure {
    b := ← o.boolAt 0
    c3 := ← o.boolAt 1
    c2 := ← o.boolAt 2
    c1 := ← o.boolAt 3
    c0 := ← o.boolAt 4
    es := ← o.boolAt 5
    sf := ← o.boolAt 6
    p := ← o.boolAt 7
    u := ← o.boolAt 8
    o := ← o.boolAt 9
    z := ← o.boolAt 10
    d := ← o.boolAt 11
    i := ← o.boolAt 12
    top := (← o.sizeAt 13).toUInt16 }

theorem X87StatusWordFields.ofObj_packX87StatusWordFields (f : X87StatusWordFields) :
    X87StatusWordFields.ofObj (RegDumpTup.packX87StatusWordFields f) = some f := by
  simp [X87StatusWordFields.ofObj, RegDumpTup.packX87StatusWordFields, Obj.boolAt, Obj.sizeAt,
    Obj.elems, Obj.asBool, Obj.asSize, Obj.ofU16]

def X87ControlWordFields.ofObj (o : Obj) : Option X87ControlWordFields := do
  pure {
    ic := ← o.boolAt 0
    iem := ← o.boolAt 1
    pm := ← o.boolAt 2
    um := ← o.boolAt 3
    om := ← o.boolAt 4
    zm := ← o.boolAt 5
    dm := ← o.boolAt 6
    im := ← o.boolAt 7
    rc := (← o.sizeAt 8).toUInt16
    pc := (← o.sizeAt 9).toUInt16 }

theorem X87ControlWordFields.ofObj_packX87ControlWordFields (f : X87ControlWordFields) :
    X87ControlWordFields.ofObj (RegDumpTup.packX87ControlWordFields f) = some f := by
  simp [X87ControlWordFields.ofObj, RegDumpTup.packX87ControlWordFields, Obj.boolAt, Obj.sizeAt,
    Obj.elems, Obj.asBool, Obj.asSize, Obj.ofU16]

def NamedCode.ofObj (o : Obj) : Option NamedCode := do
  pure { code := (← o.sizeAt 0).toUInt32, name := padded 128 (← o.binAt 1) }

theorem NamedCode.ofObj_packNamedCode (c : NamedCode) :
    NamedCode.ofObj (RegDumpTup.packNamedCode c) = some c := by
  simp [NamedCode.ofObj, RegDumpTup.packNamedCode, Obj.sizeAt, Obj.binAt, Obj.elems, Obj.asSize,
    Obj.asBin, Obj.ofU32, padded_toList]

end Fields

namespace RegDumpTup

def bitnessOf (bits : UInt64) : Option Bitness :=
  if bits = 64 then some .x64 else if bits = 32 then some .x86 else none

/-- The registers and all that is decoded of them, from the whole reply. -/
def ofObj (o : Obj) : Option RegDumpTup := do
  let bitness ← bitnessOf (← o.sizeAt 0)
  let lastError ← o.readAt NamedCode.ofObj 8
  let lastStatus ← o.readAt NamedCode.ofObj 9
  pure {
    bitness, lastError, lastStatus
    ctx := ← o.readAt (RegDump.ofCtx bitness · lastError.code lastStatus.code) 1
    flags := ← o.readAt Flags.ofObj 2
    fpuRegs := ← o.listAt X87FpuRegister.ofObj 3
    mmx := ← o.listAt Obj.asSize 4
    mxCsrFields := ← o.readAt MxCsrFields.ofObj 5
    x87StatusWordFields := ← o.readAt X87StatusWordFields.ofObj 6
    x87ControlWordFields := ← o.readAt X87ControlWordFields.ofObj 7 }

def seen (t : RegDumpTup) : RegDumpTup := { t with ctx := t.ctx.seen t.bitness }

theorem ofObj_regDumpTup (bitness : Bitness) (rd : RegDump)
    (lastErrorName lastStatusName : Vector UInt8 128) :
    ofObj (regDumpTup bitness rd lastErrorName lastStatusName).toObj =
      some (regDumpTup bitness rd lastErrorName lastStatusName).seen := by
  have width : bitnessOf (UInt64.ofNat bitness.bits) = some bitness := by
    cases bitness <;> rfl
  have fpuRegs : ((x87FPURegisters rd).map packFpuReg).mapM X87FpuRegister.ofObj =
      some (x87FPURegisters rd) := by
    have each := Obj.mapM_map (f := X87FpuRegister.ofObj) (g := packFpuReg) (h := id)
      (l := x87FPURegisters rd) fun reg hreg => by
        obtain ⟨i, -, rfl⟩ := List.mem_map.mp hreg
        have st : (x87Register rd (x87r0PositionOf rd) i).stValue < 8 := Nat.mod_lt _ (by decide)
        have tag : (x87Register rd (x87r0PositionOf rd) i).tag ≤ 3 := Nat.and_le_right
        exact X87FpuRegister.ofObj_packFpuReg (by omega) (by omega)
    rwa [List.map_id] at each
  simp only [ofObj, toObj, regDumpTup, Obj.sizeAt, Obj.readAt, Obj.listAt, Obj.elems, Obj.ofNat,
    Obj.asSize, List.getElem?_cons_zero, List.getElem?_cons_succ, Option.bind_some,
    Option.bind_eq_bind, Option.pure_def, width, fpuRegs, Obj.mapM_asSize,
    NamedCode.ofObj_packNamedCode, RegDump.ofCtx_packCtx, Flags.ofObj_packFlags,
    MxCsrFields.ofObj_packMxCsrFields, X87StatusWordFields.ofObj_packX87StatusWordFields,
    X87ControlWordFields.ofObj_packX87ControlWordFields, seen]

end RegDumpTup

end XAuto
