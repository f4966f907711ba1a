import XAuto.Replies
import XAuto.SettingsDialog

namespace XAuto

open Handler Effect

variable {W : Type} {env : Env W} {root : Obj} {store : W → Store} {text : SettingText}

/-- The texts that `dbg_write_setting_sz` comes to store: three strings that fit, the last of them
behind the end of a request without a value. -/
structure WritesSz (env : Env W) (root : Obj) (section_ key value : Bytes) : Prop where
  size : 3 ≤ root.elems.length
  section_arg : env.arg root 1 = some (.str section_)
  key_arg : env.arg root 2 = some (.str key)
  value_arg : env.arg root 3 = some (.str value)
  section_fits : section_.length ≤ env.machine.maxLength
  key_fits : key.length ≤ env.machine.maxLength
  value_fits : value.length ≤ env.machine.maxLength

def Kept (store : W → Store) (st : Store) (s : HandlerState W) : Prop := store s.world = st

theorem kept_stable {st : Store} (s : HandlerState W) (i : Nat) (h : Kept store st s) :
    Kept store st (s.note (.element i)) := h

theorem wp_wrongType_arg (tys : List (Nat × ObjType)) (s : HandlerState W) :
    wp (wrongType env root tys)
      (fun b _ => b = false → ∀ p ∈ tys, (env.arg root p.1).map Obj.type = some p.2)
      (fun _ _ => True) s := by
  induction tys generalizing s with
  | nil => simp [wrongType]
  | cons p rest ih =>
    obtain ⟨i, ty⟩ := p
    rw [wrongType, wp_bind]
    cases harg : env.arg root i with
    | none => rw [wp_element_fault harg]; trivial
    | some o =>
      rw [wp_element_arg harg, wp_ite]
      split
      · simp
      next ht =>
        refine wp_mono (ih _) (fun b _ h hb => ?_) fun _ _ h => h
        refine List.forall_mem_cons.mpr ⟨?_, h hb⟩
        simpa [harg] using not_not.mp ht

theorem wp_dbgWriteSettingSz {section_ key value : Bytes}
    (hset : ∀ w, store (env.bridge.bridgeSettingSet (cstr section_) (cstr key) (cstr value) w).2 =
      if (cstr value).length < env.maxSettingSize
      then (store w).set (cstr section_) (cstr key) (cstr value) else store w)
    (h : WritesSz env root section_ key value) (s : HandlerState W) :
    wp (dbgWriteSettingSz env root)
      (fun _ s' => store s'.world = if (cstr value).length < env.maxSettingSize
        then (store s.world).set (cstr section_) (cstr key) (cstr value) else store s.world)
      (fun _ _ => False) s := by
  unfold dbgWriteSettingSz badArgs
  simp only [wrongType, not_lt.mpr h.size, if_false, wp_bind, wp_element_arg h.section_arg,
    wp_element_arg h.key_arg, wp_element_arg h.value_arg, Obj.type, ne_eq, not_true, wp_pure,
    Bool.false_eq_true, wp_bytesArg (Or.inl h.section_arg), wp_bytesArg (Or.inl h.key_arg),
    wp_bytesArg (Or.inl h.value_arg), h.section_fits, h.key_fits, h.value_fits, if_true, wp_note,
    wp_call, wp_pack, HandlerState.pack_world, HandlerState.moveTo_world, HandlerState.note_world]
  exact hset s.world

theorem wp_dbgWriteSettingSz_none (hn : ¬∃ section_ key value, WritesSz env root section_ key value)
    (s : HandlerState W) :
    wp (dbgWriteSettingSz env root) (fun _ => Kept store (store s.world))
      (fun _ => Kept store (store s.world)) s := by
  unfold dbgWriteSettingSz badArgs
  by_cases hsize : root.elems.length < 3
  · simp only [hsize, if_true, wp_bind, wp_pure, wp_pack]
    exact rfl
  rw [if_neg hsize, wp_bind]
  refine wp_mono (wp_and (wp_wrongType_arg _ s)
    (keeps_wrongType kept_stable _ s (rfl : Kept store (store s.world) s))) ?_ fun _ _ h => h.2
  rintro b s1 ⟨hb, h1⟩
  cases b with
  | true => exact h1
  | false =>
    have htys := hb rfl
    have harg (i : Nat) (hi : (i, .str) ∈ Command.dbgWriteSettingSz.args) :
        ∃ x, env.arg root i = some (.str x) := by
      obtain ⟨o, ho, ht⟩ := Option.map_eq_some_iff.mp (htys (i, .str) hi)
      obtain ⟨x, rfl⟩ := Obj.type_eq_str.mp ht
      exact ⟨x, ho⟩
    obtain ⟨section_, a1⟩ := harg 1 (by decide)
    obtain ⟨key, a2⟩ := harg 2 (by decide)
    obtain ⟨value, a3⟩ := harg 3 (by decide)
    simp only [Bool.false_eq_true, if_false, wp_bind, wp_bytesArg (Or.inl a1),
      wp_bytesArg (Or.inl a2), wp_bytesArg (Or.inl a3)]
    split
    next f1 =>
      split
      next f2 =>
        split
        next f3 => exact absurd ⟨section_, key, value, ⟨by omega, a1, a2, a3, f1, f2, f3⟩⟩ hn
        next => exact h1
      next => exact h1
    next => exact h1

def SetsUint (text : SettingText) (st st' : Store) : Prop :=
  st' = st ∨ ∃ section_ key n, st' = st.set section_ key (text.ofUint n)

theorem wp_dbgWriteSettingUint (hset : ∀ section_ key n w,
      store (env.bridge.bridgeSettingSetUint section_ key n w).2 =
        (store w).set section_ key (text.ofUint n)) (s : HandlerState W) :
    wp (dbgWriteSettingUint env root) (fun _ s' => SetsUint text (store s.world) (store s'.world))
      (fun _ s' => SetsUint text (store s.world) (store s'.world)) s := by
  have unset (e : Exn) (t : HandlerState W) (h : Kept store (store s.world) t) :
      SetsUint text (store s.world) (store t.world) := Or.inl h
  unfold dbgWriteSettingUint
  refine (keeps_badArgs kept_stable _ _).wp_bind rfl unset fun b s1 h1 => ?_
  rw [wp_ite]
  split
  · exact Or.inl h1
  refine (keeps_bytesArg kept_stable _).wp_bind h1 unset fun section_ s2 h2 => ?_
  refine (keeps_bytesArg kept_stable _).wp_bind h2 unset fun key s3 h3 => ?_
  refine (keeps_sizeArg kept_stable _).wp_bind h3 unset fun n s4 h4 => ?_
  simp only [wp_bind, wp_note, wp_call, wp_pack, HandlerState.pack_world,
    HandlerState.moveTo_world, HandlerState.note_world]
  exact Or.inr ⟨cstr section_, cstr key, n, (hset _ _ _ _).trans (by rw [h4])⟩

def request (c : Command) (args : List Obj) : Obj := .array (.str c.name :: args)

theorem command_request (c : Command) (args : List Obj) : (request c args).command = some c :=
  Command.ofName_eq_some.mpr rfl

end XAuto
