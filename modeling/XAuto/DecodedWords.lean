import XAuto.BitFields
import XAuto.HandlerRules

namespace XAuto

open Handler Effect

/-- The element at the end of a path of indices into nested arrays. -/
def Obj.path : List Nat → Obj → Option Obj
  | [], o => some o
  | i :: rest, o => (o.elems[i]?).bind (Obj.path rest)

theorem Obj.ofU16_eq_ofNat (n : UInt16) : Obj.ofU16 n = Obj.ofNat n.toNat := by
  have hn : n.toUInt64 = UInt64.ofNat n.toNat := by simp
  rw [Obj.ofU16, Obj.ofNat, hn]

/-- The tuple that decodes a word: the given bits, then the fields given by position and width. -/
def decodedTup (bits : List Nat) (fields : List (Nat × Nat)) (word : Nat) : Obj :=
  .array (bits.map (fun k => .boolean (word.testBit k)) ++
    fields.map fun field => .ofNat (word / 2 ^ field.1 % 2 ^ field.2))

/-- The reply decodes at index `i` the word it carries at the end of the path. -/
def Decodes (reply : Obj) (path : List Nat) (i : Nat) (bits : List Nat)
    (fields : List (Nat × Nat)) : Prop :=
  ∃ word, reply.path path = some (.positiveInteger word) ∧
    reply.path [i] = some (decodedTup bits fields word.toNat)

namespace RegDumpTup

/-- Where `eflags` is in the context tuple. -/
def eflagsIndex : Bitness → Nat
  | .x86 => 9
  | .x64 => 17

def x87fpuIndex (bitness : Bitness) : Nat := eflagsIndex bitness + 14

def mxCsrIndex (bitness : Bitness) : Nat := eflagsIndex bitness + 15

/-- The bits of `eflags` that `c`, `p`, `a`, `z`, `s`, `t`, `i`, `d` and `o` stand for. -/
def flagBits : List Nat := [0, 2, 4, 6, 7, 8, 9, 10, 11]

def mxCsrBits : List Nat := [15, 12, 11, 10, 9, 7, 8, 6, 5, 4, 3, 2, 1, 0]

def x87StatusWordBits : List Nat := [15, 14, 10, 9, 8, 7, 6, 5, 4, 3, 2, 1, 0]

def x87ControlWordBits : List Nat := [12, 7, 5, 4, 3, 2, 1, 0]

/-- The decoded tuples of a reply agree with the raw words next to them. -/
structure Agrees (bitness : Bitness) (reply : Obj) : Prop where
  flags : Decodes reply [1, eflagsIndex bitness] 2 flagBits []
  mxCsr : Decodes reply [1, mxCsrIndex bitness] 5 mxCsrBits [(13, 2)]
  statusWord : Decodes reply [1, x87fpuIndex bitness, 1] 6 x87StatusWordBits [(11, 3)]
  controlWord : Decodes reply [1, x87fpuIndex bitness, 0] 7 x87ControlWordBits [(10, 2), (8, 2)]

theorem packMxCsrFields_eq (mxCsr : UInt32) :
    packMxCsrFields (getMxCsrFields mxCsr) = decodedTup mxCsrBits [(13, 2)] mxCsr.toNat := by
  have hrc : Obj.ofU16 (getMxCsrFields mxCsr).rc = Obj.ofNat (mxCsr.toNat / 2 ^ 13 % 2 ^ 2) := by
    have field := BitFields.and_shiftRight mxCsr.toNat 13 2
    have small : mxCsr.toNat / 2 ^ 13 % 2 ^ 2 < 2 ^ 16 := by omega
    rw [Obj.ofU16_eq_ofNat, ← field]
    rw [← field] at small
    exact congrArg Obj.ofNat (Nat.mod_eq_of_lt small)
  have hbits : mxCsrBits.map (fun k => Obj.boolean (mxCsr.toNat.testBit k)) =
      mxCsrBits.map fun k => Obj.boolean ((mxCsr &&& UInt32.ofNat (2 ^ k)) != 0) := by
    refine List.map_congr_left fun k hk => ?_
    have hlt : ∀ k ∈ mxCsrBits, k < 32 := by decide
    rw [BitFields.uint32_testBit mxCsr (hlt k hk)]
  rw [decodedTup, hbits, List.map_singleton, ← hrc]
  rfl

theorem map_testBit_uint16 (word : UInt16) {bits : List Nat} (hlt : ∀ k ∈ bits, k < 16) :
    bits.map (fun k => Obj.boolean (word.toNat.testBit k)) =
      bits.map fun k => Obj.boolean ((word &&& UInt16.ofNat (2 ^ k)) != 0) := by
  refine List.map_congr_left fun k hk => ?_
  rw [BitFields.uint16_testBit word (hlt k hk)]

theorem packX87StatusWordFields_eq (statusWord : UInt16) :
    packX87StatusWordFields (getx87StatusWordFields statusWord) =
      decodedTup x87StatusWordBits [(11, 3)] statusWord.toNat := by
  have htop : Obj.ofU16 (getx87StatusWordFields statusWord).top =
      Obj.ofNat (statusWord.toNat / 2 ^ 11 % 2 ^ 3) := by
    rw [Obj.ofU16_eq_ofNat, ← BitFields.and_shiftRight statusWord.toNat 11 3]
    rfl
  have hlt : ∀ k ∈ x87StatusWordBits, k < 16 := by decide
  rw [decodedTup, map_testBit_uint16 _ hlt, List.map_singleton, ← htop]
  rfl

theorem packX87ControlWordFields_eq (controlWord : UInt16) :
    packX87ControlWordFields (getx87ControlWordFields controlWord) =
      decodedTup x87ControlWordBits [(10, 2), (8, 2)] controlWord.toNat := by
  have hrc : Obj.ofU16 (getx87ControlWordFields controlWord).rc =
      Obj.ofNat (controlWord.toNat / 2 ^ 10 % 2 ^ 2) := by
    rw [Obj.ofU16_eq_ofNat, ← BitFields.and_shiftRight controlWord.toNat 10 2]
    rfl
  have hpc : Obj.ofU16 (getx87ControlWordFields controlWord).pc =
      Obj.ofNat (controlWord.toNat / 2 ^ 8 % 2 ^ 2) := by
    rw [Obj.ofU16_eq_ofNat, ← BitFields.and_shiftRight controlWord.toNat 8 2]
    rfl
  have hlt : ∀ k ∈ x87ControlWordBits, k < 16 := by decide
  rw [decodedTup, map_testBit_uint16 _ hlt, List.map_cons, List.map_singleton, ← hrc, ← hpc]
  rfl

section Reply

variable (bitness : Bitness) (rd : RegDump) (lastErrorName lastStatusName : Vector UInt8 128)

theorem path_eflags :
    (regDumpTup bitness rd lastErrorName lastStatusName).toObj.path [1, eflagsIndex bitness] =
      some (.positiveInteger rd.eflags) := by
  cases bitness <;> rfl

theorem decodes_mxCsr :
    Decodes (regDumpTup bitness rd lastErrorName lastStatusName).toObj [1, mxCsrIndex bitness] 5
      mxCsrBits [(13, 2)] := by
  refine ⟨rd.mxCsr.toUInt64, ?_, ?_⟩
  · cases bitness <;> rfl
  · have decoded := packMxCsrFields_eq rd.mxCsr
    rw [UInt32.toNat_toUInt64, ← decoded]
    rfl

theorem decodes_statusWord :
    Decodes (regDumpTup bitness rd lastErrorName lastStatusName).toObj
      [1, x87fpuIndex bitness, 1] 6 x87StatusWordBits [(11, 3)] := by
  refine ⟨rd.x87fpu.statusWord.toUInt64, ?_, ?_⟩
  · cases bitness <;> rfl
  · have decoded := packX87StatusWordFields_eq rd.x87fpu.statusWord
    rw [UInt16.toNat_toUInt64, ← decoded]
    rfl

theorem decodes_controlWord :
    Decodes (regDumpTup bitness rd lastErrorName lastStatusName).toObj
      [1, x87fpuIndex bitness, 0] 7 x87ControlWordBits [(10, 2), (8, 2)] := by
  refine ⟨rd.x87fpu.controlWord.toUInt64, ?_, ?_⟩
  · cases bitness <;> rfl
  · have decoded := packX87ControlWordFields_eq rd.x87fpu.controlWord
    rw [UInt16.toNat_toUInt64, ← decoded]
    rfl

/-- Only the flags are at stake: they are never computed, so they decode `eflags` when the nine
bits are clear, while the other words are always decoded. -/
theorem agrees_iff :
    Agrees bitness (regDumpTup bitness rd lastErrorName lastStatusName).toObj ↔
      ∀ k ∈ flagBits, rd.eflags.toNat.testBit k = false := by
  constructor
  · intro h
    obtain ⟨eflags, hword, htup⟩ := h.flags
    have same : rd.eflags = eflags := by
      rw [path_eflags] at hword
      simpa using hword
    subst eflags
    have cleared : flagBits.map (fun _ => Obj.boolean false) =
        flagBits.map fun k => Obj.boolean (rd.eflags.toNat.testBit k) := by
      have tups : packFlags {} = decodedTup flagBits [] rd.eflags.toNat := Option.some.inj htup
      rw [decodedTup, List.map_nil, List.append_nil] at tups
      exact Obj.array.inj tups
    intro k hk
    have bit := List.map_inj_left.mp cleared k hk
    simpa using bit.symm
  · intro h
    have cleared : flagBits.map (fun k => Obj.boolean (rd.eflags.toNat.testBit k)) =
        flagBits.map fun _ => Obj.boolean false := by
      refine List.map_congr_left fun k hk => ?_
      rw [h k hk]
    have flags : Decodes (regDumpTup bitness rd lastErrorName lastStatusName).toObj
        [1, eflagsIndex bitness] 2 flagBits [] := by
      refine ⟨rd.eflags, path_eflags .., ?_⟩
      rw [decodedTup, cleared]
      rfl
    exact ⟨flags, decodes_mxCsr .., decodes_statusWord .., decodes_controlWord ..⟩

end Reply

end RegDumpTup

section Handler

variable {W : Type}

/-- The reply of `dbg_read_regs` is the tuple of the dump it found. -/
theorem wp_dbgReadRegs (env : Env W) (s : HandlerState W) :
    wp (dbgReadRegs env) (fun _ t => ∃ lastErrorName lastStatusName, t.response = s.response ++
      [(regDumpTup env.machine.bitness
        ((env.bridge.dbgGetRegDumpEx s.world).1.getD env.junk.rd) lastErrorName
        lastStatusName).toObj]) (fun _ _ => False) s := by
  simp only [dbgReadRegs, codeName, wp_bind, wp_call, wp_pure, wp_pack]
  exact ⟨_, _, rfl⟩

/-- The decoded tuples of the reply agree with the raw words it carries exactly when the nine
flags of the dump are clear. -/
theorem dbgReadRegs_agrees_iff (env : Env W) (s : HandlerState W) {rd : RegDump}
    (read : (env.bridge.dbgGetRegDumpEx s.world).1 = some rd) :
    wp (dbgReadRegs env) (fun _ t => ∃ reply, t.response = s.response ++ [reply] ∧
      (RegDumpTup.Agrees env.machine.bitness reply ↔
        ∀ k ∈ RegDumpTup.flagBits, rd.eflags.toNat.testBit k = false)) (fun _ _ => False) s := by
  refine wp_mono (wp_dbgReadRegs env s) (fun _ t ht => ?_) (fun _ _ h => h)
  obtain ⟨lastErrorName, lastStatusName, happ⟩ := ht
  rw [read, Option.getD_some] at happ
  exact ⟨_, happ, RegDumpTup.agrees_iff ..⟩

/-- A debugger whose register dump has the given flags. -/
def Env.withFlags (eflags : UInt64) : Env Unit :=
  let idle : Env Unit := .idle (.native .x64) fun _ => none
  { idle with
    bridge := { idle.bridge with dbgGetRegDumpEx := fun w =>
      (some { (default : RegDump) with eflags := eflags }, w) } }

theorem dbgReadRegs_agrees_clear :
    wp (dbgReadRegs (Env.withFlags 0)) (fun _ t => ∃ reply, t.response = [] ++ [reply] ∧
      (RegDumpTup.Agrees .x64 reply ↔
        ∀ k ∈ RegDumpTup.flagBits, (0 : UInt64).toNat.testBit k = false)) (fun _ _ => False)
      ⟨(), [], []⟩ := by
  have read : ((Env.withFlags 0).bridge.dbgGetRegDumpEx ()).1 =
      some { (default : RegDump) with eflags := 0 } := rfl
  have agrees := dbgReadRegs_agrees_iff (Env.withFlags 0) ⟨(), [], []⟩ read
  exact agrees

/-- With `PF`, `ZF` and `IF` set the reply says that no flag is. -/
theorem dbgReadRegs_flags_disagree :
    ¬∀ (env : Env Unit) (s : HandlerState Unit) (rd : RegDump),
      (env.bridge.dbgGetRegDumpEx s.world).1 = some rd →
        wp (dbgReadRegs env) (fun _ t => ∃ reply, t.response = s.response ++ [reply] ∧
          RegDumpTup.Agrees env.machine.bitness reply) (fun _ _ => False) s := by
  intro h
  have hwp := h (Env.withFlags 0x246) ⟨(), [], []⟩ _ rfl
  obtain ⟨reply, happ, agrees⟩ := hwp.ok rfl
  have same : reply = (regDumpTup .x64 { (default : RegDump) with eflags := 0x246 }
      (Vector.replicate 128 0) (Vector.replicate 128 0)).toObj := (List.singleton_inj.mp happ).symm
  have clear := (RegDumpTup.agrees_iff ..).mp (same ▸ agrees)
  exact absurd (clear 2 (by decide)) (by decide)

end Handler

end XAuto
