import XAuto.DecodedWords
import XAuto.RegisterReply
import XAuto.Rotation

namespace XAuto

open Effect

/-- The widths of the fields of the status word, the lowest first. -/
def statusWordLayout : List Nat := List.replicate 11 1 ++ [3, 1, 1]

/-- The word that the fourteen fields stand for. -/
def X87StatusWordFields.word (f : X87StatusWordFields) : UInt16 :=
  .ofNat (BitFields.join statusWordLayout
    ([f.i, f.d, f.z, f.o, f.u, f.p, f.sf, f.es, f.c0, f.c1, f.c2].map Bool.toNat ++
      [f.top.toNat, f.c3.toNat, f.b.toNat]))

/-- `TOP`, the three bits of the status word from bit 11 on. -/
def X87Fpu.top (fpu : X87Fpu) : Nat := fpu.statusWord.toNat / 2 ^ 11 % 2 ^ 3

/-- The decoded registers of a dump are its raw ones, rearranged. -/
structure Lossless (t : RegDumpTup) : Prop where
  stValues : (t.fpuRegs.map (·.stValue)).Perm (List.range 8)
  top : ∃ reg, t.fpuRegs[t.ctx.x87fpu.top]? = some reg ∧ reg.stValue = 0
  data : ∀ reg ∈ t.fpuRegs, 10 * reg.stValue + 10 ≤ 80 ∧
    reg.data = (t.ctx.registerArea.toList.drop (10 * reg.stValue)).take 10
  registerArea : ((t.fpuRegs.mergeSort (fun a b => a.stValue ≤ b.stValue)).map (·.data)).flatten =
    t.ctx.registerArea.toList
  mmx : t.mmx.map UInt64.toNat =
    t.fpuRegs.map fun reg => Nat.ofDigits 256 ((reg.data.take 8).map UInt8.toNat)
  tagWord : t.ctx.x87fpu.tagWord.toNat = Nat.ofDigits 4 (t.fpuRegs.map (·.tag))
  statusWord : t.x87StatusWordFields.word = t.ctx.x87fpu.statusWord

theorem top_eq (statusWord : UInt16) :
    (getx87StatusWordFields statusWord).top.toNat = statusWord.toNat / 2 ^ 11 % 2 ^ 3 := by
  rw [← BitFields.and_shiftRight statusWord.toNat 11 3]
  rfl

theorem x87r0PositionOf_add_top (rd : RegDump) : (x87r0PositionOf rd + rd.x87fpu.top) % 8 = 0 := by
  have small : rd.x87fpu.top < 8 := Nat.mod_lt _ (by decide)
  have position : x87r0PositionOf rd = (8 - rd.x87fpu.top) % 8 := by
    rw [x87r0PositionOf, getx87r0PositionInRegisterArea, top_eq]
    rfl
  omega

/-- The bytes of the stack register `st`. -/
def areaOf (rd : RegDump) (st : Nat) : Bytes := (rd.registerArea.toList.drop (10 * st)).take 10

theorem x87Register_data (rd : RegDump) (position i : Nat) :
    (x87Register rd position i).data = areaOf rd (x87Register rd position i).stValue := rfl

theorem stValues_eq (rd : RegDump) :
    (x87FPURegisters rd).map (·.stValue) = (List.range 8).rotate (x87r0PositionOf rd) := by
  have rotated := Rotation.map_range_mod id 8 (x87r0PositionOf rd)
  rw [List.map_id] at rotated
  rw [← rotated, x87FPURegisters, List.map_map]
  rfl

/-- From entry `TOP` on the entries are those of `ST(0)` to `ST(7)`. -/
theorem stValues_rotate_top (rd : RegDump) :
    ((x87FPURegisters rd).rotate rd.x87fpu.top).map (·.stValue) = List.range 8 := by
  have back := x87r0PositionOf_add_top rd
  rw [List.map_rotate, stValues_eq, List.rotate_rotate, ← List.rotate_mod, List.length_range, back,
    List.rotate_zero]

theorem mem_x87FPURegisters {rd : RegDump} {reg : X87FpuRegister}
    (h : reg ∈ x87FPURegisters rd) : reg.stValue < 8 ∧ reg.data = areaOf rd reg.stValue := by
  obtain ⟨i, -, rfl⟩ := List.mem_map.mp h
  exact ⟨Nat.mod_lt _ (by decide), x87Register_data ..⟩

theorem top_register (rd : RegDump) :
    ∃ reg, (x87FPURegisters rd)[rd.x87fpu.top]? = some reg ∧ reg.stValue = 0 := by
  have small : rd.x87fpu.top < 8 := Nat.mod_lt _ (by decide)
  refine ⟨x87Register rd (x87r0PositionOf rd) rd.x87fpu.top, ?_, x87r0PositionOf_add_top rd⟩
  simp [x87FPURegisters, small]

/-- In the order of the stack the entries are the register area, piece by piece. -/
theorem registerArea_eq (rd : RegDump) :
    (((x87FPURegisters rd).mergeSort (fun a b => a.stValue ≤ b.stValue)).map (·.data)).flatten =
      rd.registerArea.toList := by
  have stack := stValues_rotate_top rd
  have increasing : (((x87FPURegisters rd).rotate rd.x87fpu.top).map (·.stValue)).Pairwise
      (· < ·) := by
    rw [stack]
    exact List.pairwise_lt_range
  have sorted := Rotation.mergeSort_eq_of_key (List.rotate_perm _ _) increasing
  have pieces : ((x87FPURegisters rd).rotate rd.x87fpu.top).map (·.data) =
      (List.range 8).map (areaOf rd) := by
    rw [← stack, List.map_map]
    refine List.map_congr_left fun reg hreg => ?_
    exact (mem_x87FPURegisters (List.mem_rotate.mp hreg)).2
  have hlen : rd.registerArea.toList.length ≤ 10 * 8 := by simp
  have blocks := Rotation.flatten_blocks 10 8 rd.registerArea.toList
  rw [List.take_of_length_le hlen] at blocks
  rw [sorted, pieces]
  exact blocks

theorem readUInt64_toNat (data : Bytes) :
    (readUInt64 data).toNat = Nat.ofDigits 256 ((data.take 8).map UInt8.toNat) := by
  have value : (data.take 8).reverse.foldl (fun (acc : Nat) (b : UInt8) => acc * 256 + b.toNat) 0 =
      Nat.ofDigits 256 ((data.take 8).map UInt8.toNat) := by
    rw [List.foldl_reverse]
    generalize data.take 8 = xs
    induction xs with
    | nil => rfl
    | cons x xs ih =>
      rw [List.foldr_cons, ih, List.map_cons, Nat.ofDigits_cons]
      omega
  have digits : ∀ d ∈ (data.take 8).map UInt8.toNat, d < 256 := by
    intro d hd
    obtain ⟨x, -, rfl⟩ := List.mem_map.mp hd
    exact x.toNat_lt
  have hlen : ((data.take 8).map UInt8.toNat).length ≤ 8 := by simp
  have fits : Nat.ofDigits 256 ((data.take 8).map UInt8.toNat) < 2 ^ 64 :=
    calc Nat.ofDigits 256 ((data.take 8).map UInt8.toNat)
        < 256 ^ ((data.take 8).map UInt8.toNat).length :=
          Nat.ofDigits_lt_base_pow_length (by decide) digits
      _ ≤ 256 ^ 8 := Nat.pow_le_pow_right (by decide) hlen
      _ = 2 ^ 64 := by decide
  rw [readUInt64, value]
  exact Nat.mod_eq_of_lt fits

theorem tagWord_eq (rd : RegDump) :
    rd.x87fpu.tagWord.toNat = Nat.ofDigits 4 ((x87FPURegisters rd).map (·.tag)) := by
  have tags : (x87FPURegisters rd).map (·.tag) =
      (List.range 8).map fun i => rd.x87fpu.tagWord.toNat / 4 ^ i % 4 := by
    rw [x87FPURegisters, List.map_map]
    refine List.map_congr_left fun i _ => ?_
    have base : 2 ^ (i * 2) = 4 ^ i := by rw [Nat.mul_comm, Nat.pow_mul]
    show (rd.x87fpu.tagWord.toNat >>> (i * 2)) &&& (2 ^ 2 - 1) = _
    rw [Nat.and_two_pow_sub_one_eq_mod, Nat.shiftRight_eq_div_pow, base]
  have digits := BitFields.ofDigits_digits 4 rd.x87fpu.tagWord.toNat 8
  have small : rd.x87fpu.tagWord.toNat < 4 ^ 8 := rd.x87fpu.tagWord.toNat_lt
  rw [tags, digits, Nat.mod_eq_of_lt small]

theorem word_getx87StatusWordFields (statusWord : UInt16) :
    (getx87StatusWordFields statusWord).word = statusWord := by
  have bit {k : Nat} (hk : k < 16) : (statusWord.toNat.testBit k).toNat =
      ((statusWord &&& UInt16.ofNat (2 ^ k)) != 0).toNat := by
    rw [BitFields.uint16_testBit statusWord hk]
  have low : (List.range 11).map (fun k => (statusWord.toNat.testBit k).toNat) =
      (List.range 11).map fun k => ((statusWord &&& UInt16.ofNat (2 ^ k)) != 0).toNat := by
    refine List.map_congr_left fun k hk => ?_
    have hlt := List.mem_range.mp hk
    exact bit (by omega)
  have high : BitFields.split [3, 1, 1] (statusWord.toNat / 2 ^ 11) =
      [statusWord.toNat / 2 ^ 11 % 2 ^ 3, (statusWord.toNat.testBit 14).toNat,
        (statusWord.toNat.testBit 15).toNat] := by
    simp only [BitFields.split, Nat.toNat_testBit, Nat.div_div_eq_div_mul]
    rfl
  have fields := BitFields.split_bits 11 [3, 1, 1] statusWord.toNat
  rw [low, high, bit (by omega), bit (by omega), ← top_eq] at fields
  have whole : BitFields.join statusWordLayout
      (BitFields.split statusWordLayout statusWord.toNat) = statusWord.toNat :=
    BitFields.join_split statusWord.toNat_lt
  have same : (getx87StatusWordFields statusWord).word =
      .ofNat (BitFields.join statusWordLayout
        (BitFields.split statusWordLayout statusWord.toNat)) := by
    rw [statusWordLayout, fields]
    rfl
  rw [same, whole, UInt16.ofNat_toNat]

theorem lossless_regDumpTup (bitness : Bitness) (rd : RegDump)
    (lastErrorName lastStatusName : Vector UInt8 128) :
    Lossless (regDumpTup bitness rd lastErrorName lastStatusName) := by
  have stValues : ((x87FPURegisters rd).map (·.stValue)).Perm (List.range 8) := by
    rw [stValues_eq]
    exact List.rotate_perm _ _
  have data : ∀ reg ∈ x87FPURegisters rd, 10 * reg.stValue + 10 ≤ 80 ∧
      reg.data = areaOf rd reg.stValue := by
    intro reg hreg
    obtain ⟨small, hdata⟩ := mem_x87FPURegisters hreg
    exact ⟨by omega, hdata⟩
  have mmx : (mmx rd).map UInt64.toNat = (x87FPURegisters rd).map fun reg =>
      Nat.ofDigits 256 ((reg.data.take 8).map UInt8.toNat) := by
    rw [XAuto.mmx, List.map_map]
    exact List.map_congr_left fun reg _ => readUInt64_toNat reg.data
  exact ⟨stValues, top_register rd, data, registerArea_eq rd, mmx, tagWord_eq rd,
    word_getx87StatusWordFields _⟩

theorem Lossless.seen {t : RegDumpTup} (h : Lossless t) : Lossless t.seen := by
  have area : t.seen.ctx.registerArea = t.ctx.registerArea := t.ctx.registerArea_seen t.bitness
  have fpu : t.seen.ctx.x87fpu = t.ctx.x87fpu := t.ctx.x87fpu_seen t.bitness
  constructor
  · exact h.stValues
  · rw [fpu]
    exact h.top
  · rw [area]
    exact h.data
  · rw [area]
    exact h.registerArea
  · exact h.mmx
  · rw [fpu]
    exact h.tagWord
  · rw [fpu]
    exact h.statusWord

/-- Whatever the dump, the registers of the tuple are the raw ones, rearranged; and so are those of
the tuple that a client decodes from the reply, next to the words and the area of the dump. -/
theorem regDumpTup_lossless {W : Type} (env : Env W) (s : HandlerState W) :
    (∀ (bitness : Bitness) (rd : RegDump) (lastErrorName lastStatusName : Vector UInt8 128),
      Lossless (regDumpTup bitness rd lastErrorName lastStatusName)) ∧
    wp (dbgReadRegs env) (fun _ t => ∃ reply tup, t.response = s.response ++ [reply] ∧
      RegDumpTup.ofObj reply = some tup ∧ Lossless tup ∧
      let rd := (env.bridge.dbgGetRegDumpEx s.world).1.getD env.junk.rd
      tup.ctx.registerArea = rd.registerArea ∧ tup.ctx.x87fpu = rd.x87fpu)
    (fun _ _ => False) s := by
  refine ⟨lossless_regDumpTup, ?_⟩
  refine wp_mono (wp_dbgReadRegs env s) (fun _ t ht => ?_) fun _ _ h => h
  obtain ⟨lastErrorName, lastStatusName, packed⟩ := ht
  exact ⟨_, _, packed, RegDumpTup.ofObj_regDumpTup .., (lossless_regDumpTup ..).seen,
    RegDump.registerArea_seen .., RegDump.x87fpu_seen ..⟩

end XAuto
