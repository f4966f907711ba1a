import XAuto.MsgPack

namespace XAuto

/-- The build of the plugin, and with it the width of `size_t` and of a pointer. -/
inductive Bitness
  | x86 | x64
  deriving DecidableEq, Repr

def Bitness.bits : Bitness → Nat
  | .x86 => 32
  | .x64 => 64

structure X87Fpu where
  controlWord : UInt16
  statusWord : UInt16
  tagWord : UInt16
  errorOffset : UInt32
  errorSelector : UInt32
  dataOffset : UInt32
  dataSelector : UInt32
  cr0NpxState : UInt32
  deriving Inhabited

/-- `REGDUMP_AVX512` as far as `dbg_read_regs` reads it. The 32-bit build has no `r8` to `r15`
and only the first eight of the vector registers. -/
structure RegDump where
  cax : UInt64
  cbx : UInt64
  ccx : UInt64
  cdx : UInt64
  cbp : UInt64
  csp : UInt64
  csi : UInt64
  cdi : UInt64
  r8 : UInt64
  r9 : UInt64
  r10 : UInt64
  r11 : UInt64
  r12 : UInt64
  r13 : UInt64
  r14 : UInt64
  r15 : UInt64
  cip : UInt64
  eflags : UInt64
  cs : UInt16
  ds : UInt16
  es : UInt16
  fs : UInt16
  gs : UInt16
  ss : UInt16
  dr0 : UInt64
  dr1 : UInt64
  dr2 : UInt64
  dr3 : UInt64
  dr6 : UInt64
  dr7 : UInt64
  registerArea : Vector UInt8 80
  x87fpu : X87Fpu
  mxCsr : UInt32
  zmmRegisters : Vector UInt8 (64 * 32)
  lastError : UInt32
  lastStatus : UInt32
  deriving Inhabited

structure Flags where
  c : Bool := false
  p : Bool := false
  a : Bool := false
  z : Bool := false
  s : Bool := false
  t : Bool := false
  i : Bool := false
  d : Bool := false
  o : Bool := false
  deriving DecidableEq, Repr

structure MxCsrFields where
  fz : Bool
  pm : Bool
  um : Bool
  om : Bool
  zm : Bool
  im : Bool
  dm : Bool
  daz : Bool
  pe : Bool
  ue : Bool
  oe : Bool
  ze : Bool
  de : Bool
  ie : Bool
  rc : UInt16
  deriving DecidableEq, Repr

def getMxCsrFields (mxCsr : UInt32) : MxCsrFields where
  ie := (mxCsr &&& 0x1) != 0
  de := (mxCsr &&& 0x2) != 0
  ze := (mxCsr &&& 0x4) != 0
  oe := (mxCsr &&& 0x8) != 0
  ue := (mxCsr &&& 0x10) != 0
  pe := (mxCsr &&& 0x20) != 0
  daz := (mxCsr &&& 0x40) != 0
  im := (mxCsr &&& 0x80) != 0
  dm := (mxCsr &&& 0x100) != 0
  zm := (mxCsr &&& 0x200) != 0
  om := (mxCsr &&& 0x400) != 0
  um := (mxCsr &&& 0x800) != 0
  pm := (mxCsr &&& 0x1000) != 0
  fz := (mxCsr &&& 0x8000) != 0
  rc := ((mxCsr &&& 0x6000) >>> 13).toUInt16

structure X87ControlWordFields where
  ic : Bool
  iem : Bool
  pm : Bool
  um : Bool
  om : Bool
  zm : Bool
  dm : Bool
  im : Bool
  rc : UInt16
  pc : UInt16
  deriving DecidableEq, Repr

def getx87ControlWordFields (controlWord : UInt16) : X87ControlWordFields where
  im := (controlWord &&& 0x1) != 0
  dm := (controlWord &&& 0x2) != 0
  zm := (controlWord &&& 0x4) != 0
  om := (controlWord &&& 0x8) != 0
  um := (controlWord &&& 0x10) != 0
  pm := (controlWord &&& 0x20) != 0
  iem := (controlWord &&& 0x80) != 0
  ic := (controlWord &&& 0x1000) != 0
  rc := (controlWord &&& 0xC00) >>> 10
  pc := (controlWord &&& 0x300) >>> 8

structure X87StatusWordFields where
  b : Bool
  c3 : Bool
  c2 : Bool
  c1 : Bool
  c0 : Bool
  es : Bool
  sf : Bool
  p : Bool
  u : Bool
  o : Bool
  z : Bool
  d : Bool
  i : Bool
  top : UInt16
  deriving DecidableEq, Repr

def getx87StatusWordFields (statusWord : UInt16) : X87StatusWordFields where
  i := (statusWord &&& 0x1) != 0
  d := (statusWord &&& 0x2) != 0
  z := (statusWord &&& 0x4) != 0
  o := (statusWord &&& 0x8) != 0
  u := (statusWord &&& 0x10) != 0
  p := (statusWord &&& 0x20) != 0
  sf := (statusWord &&& 0x40) != 0
  es := (statusWord &&& 0x80) != 0
  c0 := (statusWord &&& 0x100) != 0
  c1 := (statusWord &&& 0x200) != 0
  c2 := (statusWord &&& 0x400) != 0
  c3 := (statusWord &&& 0x4000) != 0
  b := (statusWord &&& 0x8000) != 0
  top := (statusWord &&& 0x3800) >>> 11

structure X87FpuRegister where
  data : Bytes
  stValue : Nat
  tag : Nat
  deriving DecidableEq, Repr

def getx87r0PositionInRegisterArea (stInTopStack : Nat) : Nat := (8 - stInTopStack) % 8

def calculatex87registerPositionInRegisterArea (x87r0Position index : Nat) : Nat :=
  (x87r0Position + index) % 8

def getSTValueFromIndex (x87r0Position index : Nat) : Nat := (x87r0Position + index) % 8

/-- The ten bytes that `memcpy` takes from `GetRegisterAreaOf87register`. -/
def getRegisterAreaOf87register (registerArea : Bytes) (x87r0Position index : Nat) : Bytes :=
  (registerArea.drop
    (10 * calculatex87registerPositionInRegisterArea x87r0Position index)).take 10

/-- `*((uint64_t*)data)` on a little-endian machine. -/
def readUInt64 (data : Bytes) : UInt64 :=
  ((data.take 8).reverse.foldl (fun (acc : Nat) (b : UInt8) => acc * 256 + b.toNat) 0).toUInt64

/-- One round of the x87 loop of `dbg_read_regs`. -/
def x87Register (rd : RegDump) (x87r0Position i : Nat) : X87FpuRegister where
  data := getRegisterAreaOf87register rd.registerArea.toList x87r0Position i
  stValue := getSTValueFromIndex x87r0Position i
  tag := (rd.x87fpu.tagWord.toNat >>> (i * 2)) &&& 0x3

def x87r0PositionOf (rd : RegDump) : Nat :=
  getx87r0PositionInRegisterArea (getx87StatusWordFields rd.x87fpu.statusWord).top.toNat

def x87FPURegisters (rd : RegDump) : List X87FpuRegister :=
  (List.range 8).map (x87Register rd (x87r0PositionOf rd))

def mmx (rd : RegDump) : List UInt64 := (x87FPURegisters rd).map fun r => readUInt64 r.data

/-- A code with the 128 bytes of its name. -/
structure NamedCode where
  code : UInt32
  name : Vector UInt8 128

/-- The tuple `dbg_read_regs` replies with; the context is `rd` itself. -/
structure RegDumpTup where
  bitness : Bitness
  ctx : RegDump
  flags : Flags
  fpuRegs : List X87FpuRegister
  mmx : List UInt64
  mxCsrFields : MxCsrFields
  x87StatusWordFields : X87StatusWordFields
  x87ControlWordFields : X87ControlWordFields
  lastError : NamedCode
  lastStatus : NamedCode

/-- `flags` is only ever cleared. -/
def regDumpTup (bitness : Bitness) (rd : RegDump)
    (lastErrorName lastStatusName : Vector UInt8 128) : RegDumpTup where
  bitness := bitness
  ctx := rd
  flags := {}
  fpuRegs := x87FPURegisters rd
  mmx := mmx rd
  mxCsrFields := getMxCsrFields rd.mxCsr
  x87StatusWordFields := getx87StatusWordFields rd.x87fpu.statusWord
  x87ControlWordFields := getx87ControlWordFields rd.x87fpu.controlWord
  lastError := ⟨rd.lastError, lastErrorName⟩
  lastStatus := ⟨rd.lastStatus, lastStatusName⟩

namespace RegDumpTup

def packX87fpu (fpu : X87Fpu) : Obj :=
  .array [.ofU16 fpu.controlWord, .ofU16 fpu.statusWord, .ofU16 fpu.tagWord,
    .ofU32 fpu.errorOffset, .ofU32 fpu.errorSelector, .ofU32 fpu.dataOffset,
    .ofU32 fpu.dataSelector, .ofU32 fpu.cr0NpxState]

/-- `CtxTup64` or `CtxTup32`. -/
def packCtx (bitness : Bitness) (rd : RegDump) : Obj :=
  let gp := [rd.cax, rd.cbx, rd.ccx, rd.cdx, rd.cbp, rd.csp, rd.csi, rd.cdi]
  let gp64 := [rd.r8, rd.r9, rd.r10, rd.r11, rd.r12, rd.r13, rd.r14, rd.r15]
  let gpRegs := match bitness with
    | .x64 => gp ++ gp64
    | .x86 => gp
  let zmmSize := match bitness with
    | .x64 => 64 * 32
    | .x86 => 64 * 8
  .array (gpRegs.map .positiveInteger ++
    [.positiveInteger rd.cip, .positiveInteger rd.eflags] ++
    [rd.cs, rd.ds, rd.es, rd.fs, rd.gs, rd.ss].map .ofU16 ++
    [rd.dr0, rd.dr1, rd.dr2, rd.dr3, rd.dr6, rd.dr7].map .positiveInteger ++
    [.bin rd.registerArea.toList, packX87fpu rd.x87fpu, .ofU32 rd.mxCsr,
      .bin (rd.zmmRegisters.toList.take zmmSize)])

def packFlags (flags : Flags) : Obj :=
  .array ([flags.c, flags.p, flags.a, flags.z, flags.s, flags.t, flags.i, flags.d, flags.o].map
    .boolean)

def packFpuReg (reg : X87FpuRegister) : Obj :=
  .array [.bin reg.data, .ofNat reg.stValue, .ofNat reg.tag]

def packMxCsrFields (f : MxCsrFields) : Obj :=
  .array ([f.fz, f.pm, f.um, f.om, f.zm, f.im, f.dm, f.daz, f.pe, f.ue, f.oe, f.ze, f.de,
    f.ie].map .boolean ++ [.ofU16 f.rc])

def packX87StatusWordFields (f : X87StatusWordFields) : Obj :=
  .array ([f.b, f.c3, f.c2, f.c1, f.c0, f.es, f.sf, f.p, f.u, f.o, f.z, f.d, f.i].map .boolean ++
    [.ofU16 f.top])

def packX87ControlWordFields (f : X87ControlWordFields) : Obj :=
  .array ([f.ic, f.iem, f.pm, f.um, f.om, f.zm, f.dm, f.im].map .boolean ++
    [.ofU16 f.rc, .ofU16 f.pc])

def packNamedCode (c : NamedCode) : Obj := .array [.ofU32 c.code, .bin c.name.toList]

def toObj (t : RegDumpTup) : Obj :=
  .array [.ofNat t.bitness.bits, packCtx t.bitness t.ctx, packFlags t.flags,
    .array (t.fpuRegs.map packFpuReg), .array (t.mmx.map .positiveInteger),
    packMxCsrFields t.mxCsrFields, packX87StatusWordFields t.x87StatusWordFields,
    packX87ControlWordFields t.x87ControlWordFields, packNamedCode t.lastError,
    packNamedCode t.lastStatus]

end RegDumpTup

end XAuto
