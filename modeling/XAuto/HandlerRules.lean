import XAuto.Requests

namespace XAuto

open Handler Effect

variable {W : Type}

section Rules

variable {α : Type} {Q : α → HandlerState W → Prop} {E : Exn → HandlerState W → Prop}
  {s : HandlerState W}

@[simp] theorem wp_note {Q : Unit → HandlerState W → Prop} (e : Event) :
    wp (note e) Q E s ↔ Q () (s.note e) := Iff.rfl

@[simp] theorem wp_pack {Q : Unit → HandlerState W → Prop} (o : Obj) :
    wp (pack o) Q E s ↔ Q () (s.pack o) := Iff.rfl

@[simp] theorem wp_call (f : W → α × W) :
    wp (call f) Q E s ↔ Q (f s.world).1 (s.moveTo (f s.world).2) := Iff.rfl

@[simp] theorem wp_world {Q : W → HandlerState W → Prop} :
    wp world Q E s ↔ Q s.world s := Iff.rfl

variable {env : Env W} {root : Obj}

@[simp] theorem wp_allocate {Q : Unit → HandlerState W → Prop} (n : Nat) :
    wp (allocate env n) Q E s ↔
      if n ≤ env.machine.maxLength then Q () s else E .lengthError s := by
  simp [allocate]

@[simp] theorem wp_dbgMemRead (addr : UInt64) (size : Nat)
    {Q : Option (Vector UInt8 size) → HandlerState W → Prop} :
    wp (dbgMemRead env addr size) Q E s ↔
      Q (env.bridge.dbgMemRead addr size s.world).1
        ((s.moveTo (env.bridge.dbgMemRead addr size s.world).2).note
          (.dbgMemRead addr size (env.bridge.dbgMemRead addr size s.world).1.isSome)) := by
  simp [dbgMemRead]

@[simp] theorem wp_dbgMemWrite {Q : Bool → HandlerState W → Prop} (addr : UInt64) (data : Bytes) :
    wp (dbgMemWrite env addr data) Q E s ↔
      Q (env.bridge.dbgMemWrite addr data s.world).1
        ((s.moveTo (env.bridge.dbgMemWrite addr data s.world).2).note
          (.dbgMemWrite addr data (env.bridge.dbgMemWrite addr data s.world).1)) := by
  simp [dbgMemWrite]

@[simp] theorem wp_bridgeAlloc {Q : CString → HandlerState W → Prop} (size : Nat) :
    wp (bridgeAlloc env size) Q E s ↔
      Q (env.bridge.bridgeAlloc size s.world).1
        ((s.moveTo (env.bridge.bridgeAlloc size s.world).2).note
          (.bridgeAlloc (env.bridge.bridgeAlloc size s.world).1.ptr)) := by
  simp [bridgeAlloc]

@[simp] theorem wp_bridgeFree {Q : Unit → HandlerState W → Prop} (block : Nat) :
    wp (bridgeFree env block) Q E s ↔
      Q () ((s.note (.bridgeFree block)).moveTo (env.bridge.bridgeFree block s.world).2) := by
  simp [bridgeFree]

theorem wp_freeStray {Q : Unit → HandlerState W → Prop} (ptr : Nat) :
    wp (freeStray env ptr) Q E s ↔
      if env.stray.freeable ptr then
        Q () ((s.note (.bridgeFree ptr)).moveTo (env.bridge.bridgeFree ptr s.world).2)
      else E .accessViolation s := by
  simp [freeStray]

/-- Nothing can be read where the first page should be. -/
theorem wp_strayPages_unreadable {page n i : Nat} {Q : List MemPage → HandlerState W → Prop}
    {E : Exn → HandlerState W → Prop} {s : HandlerState W}
    (unreadable : env.stray.pageAt page i = none) :
    wp (strayPages env page (n + 1) i) Q E s ↔ E .accessViolation s := by
  unfold strayPages
  rw [unreadable]
  exact Iff.rfl

/-- Going through stray pages only looks, and may fault. -/
theorem wp_strayPages (page n i : Nat) {Q : List MemPage → HandlerState W → Prop}
    (hq : ∀ pages, Q pages s) (he : E .accessViolation s) :
    wp (strayPages env page n i) Q E s := by
  induction n generalizing i Q with
  | zero => exact hq []
  | succ n ih =>
    unfold strayPages
    split
    · rw [wp_bind]
      exact ih (i + 1) fun pages => hq (_ :: pages)
    · exact he

/-- What a read at an index of the argument array finds. -/
def Env.arg (env : Env W) (root : Obj) (i : Nat) : Option Obj := (root.elems[i]?).or (env.past i)

theorem Env.arg_of_elem {i : Nat} {o : Obj} (h : root.elems[i]? = some o) :
    env.arg root i = some o := by simp [Env.arg, h]

theorem Env.arg_of_missing {i : Nat} (h : root.elems.length ≤ i) : env.arg root i = env.past i := by
  simp [Env.arg, List.getElem?_eq_none h]

theorem wp_element_arg {Q : Obj → HandlerState W → Prop} {i : Nat} {o : Obj}
    (h : env.arg root i = some o) :
    wp (element env root i) Q E s ↔ Q o (s.note (.element i)) := by
  cases he : root.elems[i]? with
  | some p =>
    obtain rfl : p = o := by simpa [Env.arg, he] using h
    simp [element, he]
  | none => simp [element, he, show env.past i = some o by simpa [Env.arg, he] using h]

theorem wp_element_fault {Q : Obj → HandlerState W → Prop} {i : Nat} (h : env.arg root i = none) :
    wp (element env root i) Q E s ↔ E .accessViolation (s.note (.element i)) := by
  obtain ⟨he, hp⟩ := Option.or_eq_none_iff.mp h
  simp [element, he, hp]

theorem wp_element {Q : Obj → HandlerState W → Prop} {i : Nat} {o : Obj}
    (h : root.elems[i]? = some o) : wp (element env root i) Q E s ↔ Q o (s.note (.element i)) :=
  wp_element_arg (Env.arg_of_elem h)

theorem element_run {β : Type} {f : Obj → Handler W β} {i : Nat} {o : Obj}
    (h : root.elems[i]? = some o) :
    (element env root i >>= f) s = f o (s.note (.element i)) := by
  refine eq_of_wp fun Q E run => ?_
  rw [wp_bind, wp_element h]
  exact run

theorem wp_bytesArg {Q : Bytes → HandlerState W → Prop} {i : Nat} {x : Bytes}
    (h : env.arg root i = some (.str x) ∨ env.arg root i = some (.bin x)) :
    wp (bytesArg env root i) Q E s ↔
      if x.length ≤ env.machine.maxLength then Q x (s.note (.element i))
      else E .lengthError (s.note (.element i)) := by
  rcases h with h | h <;> simp [bytesArg, wp_element_arg h, convertBytes]

theorem wp_sizeArg {Q : UInt64 → HandlerState W → Prop} {i : Nat} {n : UInt64}
    (h : env.arg root i = some (.positiveInteger n)) :
    wp (sizeArg env root i) Q E s ↔
      if n.toNat < 2 ^ env.machine.bitness.bits then Q n (s.note (.element i))
      else E .msgpackError (s.note (.element i)) := by
  simp [sizeArg, wp_element_arg h, convertSize]

end Rules

section Frames

variable {env : Env W} {root : Obj} {P : HandlerState W → Prop}

theorem keeps_note {e : Event} (hP : ∀ s, P s → P (s.note e)) : Keeps P (note e) := hP

/-- What survives every look at an element survives the reading of arguments. -/
theorem keeps_element (hP : ∀ s i, P s → P (s.note (.element i))) (i : Nat) :
    Keeps P (element env root i) := by
  refine (keeps_note fun s => hP s i).bind fun _ => ?_
  split
  · exact .pure _
  · split
    · exact .pure _
    · exact .throw _

theorem keeps_allocate (n : Nat) : Keeps P (allocate env n) := .ite (.pure _) (.throw _)

theorem keeps_convertBytes (o : Obj) : Keeps P (convertBytes env o) := by
  unfold convertBytes
  split
  · exact (keeps_allocate _).bind fun _ => .pure _
  · exact (keeps_allocate _).bind fun _ => .pure _
  · exact .throw _

theorem keeps_convertSize (o : Obj) : Keeps P (convertSize env o) := by
  unfold convertSize
  split
  · exact .ite (.pure _) (.throw _)
  · exact .throw _

theorem keeps_bytesArg (hP : ∀ s i, P s → P (s.note (.element i))) (i : Nat) :
    Keeps P (bytesArg env root i) := (keeps_element hP i).bind keeps_convertBytes

theorem keeps_sizeArg (hP : ∀ s i, P s → P (s.note (.element i))) (i : Nat) :
    Keeps P (sizeArg env root i) := (keeps_element hP i).bind keeps_convertSize

theorem keeps_wrongType (hP : ∀ s i, P s → P (s.note (.element i)))
    (tys : List (Nat × ObjType)) : Keeps P (wrongType env root tys) := by
  induction tys with
  | nil => exact .pure _
  | cons p rest ih => exact (keeps_element hP p.1).bind fun o => .ite (.pure _) ih

theorem keeps_badArgs (hP : ∀ s i, P s → P (s.note (.element i))) (size : Nat)
    (tys : List (Nat × ObjType)) : Keeps P (badArgs env root size tys) :=
  .ite (.pure _) (keeps_wrongType hP tys)

end Frames

/-- Nothing out of the ordinary in what was done so far: every inspected element is there, every
mutating call was given elements of the request, and no memory access failed. -/
def Clean (root : Obj) (c : Command) (trace : List Event) : Prop :=
  ∀ e ∈ trace, e.Passed root ∧ e.memFailure = false ∧ (c.InBounds root → e.InRange root)

section Clean

variable {root : Obj} {c : Command}

@[simp] theorem clean_nil : Clean root c [] := by simp [Clean]

@[simp] theorem clean_append {t u : List Event} :
    Clean root c (t ++ u) ↔ Clean root c t ∧ Clean root c u := by
  unfold Clean
  exact List.forall_mem_append

@[simp] theorem clean_cons {e : Event} {t : List Event} :
    Clean root c (e :: t) ↔ (e.Passed root ∧ e.memFailure = false ∧
      (c.InBounds root → e.InRange root)) ∧ Clean root c t := by
  unfold Clean
  exact List.forall_mem_cons

theorem clean_singleton {e : Event} :
    Clean root c [e] ↔
      e.Passed root ∧ e.memFailure = false ∧ (c.InBounds root → e.InRange root) := by
  simp [Clean]

theorem Clean.event {t : List Event} {e : Event} (h : Clean root c t) (hp : e.Passed root)
    (hm : e.memFailure = false) (hr : e.InRange root) : Clean root c (t ++ [e]) :=
  clean_append.mpr ⟨h, clean_singleton.mpr ⟨hp, hm, fun _ => hr⟩⟩

theorem Clean.element {t : List Event} {i : Nat} {o : Obj} (h : Clean root c t)
    (ho : root.elems[i]? = some o) : Clean root c (t ++ [.element i]) :=
  h.event trivial rfl (List.getElem?_eq_some_iff.mp ho).1

theorem Clean.bridgeAlloc {t : List Event} (h : Clean root c t) (block : Nat) :
    Clean root c (t ++ [.bridgeAlloc block]) := h.event trivial rfl trivial

theorem Clean.bridgeFree {t : List Event} (h : Clean root c t) (block : Nat) :
    Clean root c (t ++ [.bridgeFree block]) := h.event trivial rfl trivial

end Clean

/-- Where a handler for `c` ends when it returns: it has packed one reply, which is an error
exactly when it refused the arguments or the debugger reported a failed memory access. -/
structure Done (env : Env W) (root : Obj) (c : Command) (s s' : HandlerState W) : Prop where
  passed : ∀ e ∈ s'.trace, e.Passed root
  inRange : c.InBounds root → ∀ e ∈ s'.trace, e.InRange root
  fits : c.Fits env.machine root
  reply : ∃ r, s'.response = s.response ++ [r] ∧
    (r.IsError ↔ c.Refuses root ∨ ∃ e ∈ s'.trace, e.memFailure = true)

/-- Where a handler that was entered in the world `w` throws: it was given a value that the process
cannot hold, or a list that the bridge left unwritten. -/
structure Threw (env : Env W) (root : Obj) (c : Command) (w : W) (e : Exn) (s' : HandlerState W) :
    Prop where
  passed : ∀ e ∈ s'.trace, e.Passed root
  inRange : c.InBounds root → ∀ e ∈ s'.trace, e.InRange root
  misfit : c.Fits env.machine root → c.Unwritten env root w
  uncaught : e ≠ .zmqError

/-- What every handler does, provided it reads within the request or a missing element fails
its check. -/
def Answers (env : Env W) (root : Obj) (c : Command) (h : Handler W Unit) : Prop :=
  (c.InBounds root ∨ env.MissingFails) → ∀ s, Clean root c s.trace →
    wp h (fun _ s' => Done env root c s s') (fun e s' => Threw env root c s.world e s') s

section Outcomes

variable {env : Env W} {root : Obj} {c : Command} {s s' : HandlerState W} {w : W}

theorem done_of_clean (hc : Clean root c s'.trace) (hf : c.Fits env.machine root) {r : Obj}
    (hr : s'.response = s.response ++ [r]) (herr : r.IsError ↔ c.Refuses root) :
    Done env root c s s' := by
  refine ⟨fun e he => (hc e he).1, fun hb e he => (hc e he).2.2 hb, hf, r, hr, ?_⟩
  have quiet : ¬∃ e ∈ s'.trace, e.memFailure = true := by
    rintro ⟨e, he, hm⟩
    simp [(hc e he).2.1] at hm
  simpa [quiet] using herr

theorem done_of_args (hargs : HasArgs root c.args) (hc : Clean root c s'.trace)
    (hf : c.Fits env.machine root) {r : Obj} (hr : s'.response = s.response ++ [r])
    (hn : ¬r.IsError) : Done env root c s s' :=
  done_of_clean hc hf hr (iff_of_false hn fun h => h.2 hargs)

/-- The reply to a memory access that failed, the only event out of the ordinary. -/
theorem done_of_failure {t : List Event} {e : Event}
    (hc : Clean root c t) (hf : c.Fits env.machine root) (ht : s'.trace = t ++ [e])
    (hp : e.Passed root) (hm : e.memFailure = true) (hi : e.InRange root) {r : Obj}
    (hr : s'.response = s.response ++ [r]) (herr : r.IsError) : Done env root c s s' := by
  refine ⟨?_, fun hb => ?_, hf, r, hr, iff_of_true herr (Or.inr ⟨e, by simp [ht], hm⟩)⟩
  · rw [ht]
    exact List.forall_mem_append.mpr ⟨fun e he => (hc e he).1, by simpa using hp⟩
  · rw [ht]
    exact List.forall_mem_append.mpr ⟨fun e he => (hc e he).2.2 hb, by simpa using hi⟩

theorem threw_of_clean {e : Exn} (hc : Clean root c s'.trace)
    (hf : c.Fits env.machine root → c.Unwritten env root w) (he : e ≠ .zmqError) :
    Threw env root c w e s' :=
  ⟨fun e he => (hc e he).1, fun hb e he => (hc e he).2.2 hb, hf, he⟩

end Outcomes

/-- The reads of an argument check, each one made only when the earlier ones passed, are reads of
the request. -/
def SafeReads (root : Obj) : List (Nat × ObjType) → Prop
  | [] => True
  | (i, ty) :: rest =>
    i < root.elems.length ∧ ((root.elems[i]?).map Obj.type = some ty → SafeReads root rest)

theorem safeReads_of_lt {root : Obj} {tys : List (Nat × ObjType)}
    (h : ∀ p ∈ tys, p.1 < root.elems.length) : SafeReads root tys := by
  induction tys with
  | nil => trivial
  | cons p rest ih => exact ⟨h p (by simp), fun _ => ih fun q hq => h q (by simp [hq])⟩

section Check

variable {env : Env W} {root : Obj} {c : Command} {w : W}

theorem wp_wrongType {tys : List (Nat × ObjType)} {s : HandlerState W}
    (hread : SafeReads root tys ∨ env.MissingFails) (hsafe : c.InBounds root → SafeReads root tys)
    (harg : ∀ p ∈ tys, ∃ d : Command, p ∈ d.args) (hc : Clean root c s.trace) :
    wp (wrongType env root tys)
      (fun b s' => Clean root c s'.trace ∧ s'.response = s.response ∧
        (b = false ↔ HasArgs root tys))
      (fun _ _ => False) s := by
  induction tys generalizing s with
  | nil => simpa [wrongType, HasArgs] using hc
  | cons p rest ih =>
    obtain ⟨i, ty⟩ := p
    simp only [wrongType, wp_bind]
    by_cases hi : i < root.elems.length
    · have ho : root.elems[i]? = some root.elems[i] := List.getElem?_eq_getElem hi
      rw [wp_element ho]
      have hc' : Clean root c (s.note (.element i)).trace := by
        simpa [hc, Event.Passed, Event.memFailure, Event.InRange] using fun _ => hi
      have hmap : (root.elems[i]?).map Obj.type = some root.elems[i].type := by rw [ho]; rfl
      simp only [hasArgs_cons, hmap, Option.some.injEq]
      by_cases ht : root.elems[i].type = ty
      · have htail : ∀ h : SafeReads root ((i, ty) :: rest), SafeReads root rest :=
          fun h => h.2 (by rw [hmap, ht])
        have := ih (hread.imp_left htail) (fun h => htail (hsafe h))
          (fun p hp => harg p (by simp [hp])) hc'
        simpa [ht] using this
      · simp only [ht, ne_eq, not_false_eq_true, if_true, wp_pure, false_and, iff_false]
        exact ⟨hc', rfl, by simp⟩
    · -- the element is missing, which only a check out of bounds can meet
      have hout : ¬SafeReads root ((i, ty) :: rest) := fun h => hi h.1
      obtain ⟨o, hp, hno⟩ := hread.resolve_left hout i
      obtain ⟨d, hd⟩ := harg (i, ty) (by simp)
      rw [wp_element_arg ((Env.arg_of_missing (by omega)).trans hp)]
      have hne : o.type ≠ ty := hno d (i, ty) hd
      have hb : ¬c.InBounds root := fun h => hout (hsafe h)
      simp [hasArgs_cons, List.getElem?_eq_none (by omega : root.elems.length ≤ i), hne, hc, hb,
        Event.Passed, Event.memFailure]

theorem wp_badArgs {size : Nat} {s : HandlerState W}
    (hread : c.InBounds root ∨ env.MissingFails)
    (hsafe : c.InBounds root → size ≤ root.elems.length → SafeReads root c.args)
    (hsize : HasArgs root c.args → size ≤ root.elems.length) (hc : Clean root c s.trace) :
    wp (badArgs env root size c.args)
      (fun b s' => Clean root c s'.trace ∧ s'.response = s.response ∧
        (b = false ↔ HasArgs root c.args))
      (fun _ _ => False) s := by
  unfold badArgs
  by_cases hl : root.elems.length < size
  · have hno : ¬HasArgs root c.args := fun h => by have := hsize h; omega
    simp [hl, hc, hno]
  · rw [if_neg hl]
    exact wp_wrongType (hread.imp_left fun h => hsafe h (by omega)) (fun h => hsafe h (by omega))
      (fun p hp => ⟨c, hp⟩) hc

/-- A check whose size covers every index it looks at reads within the request. -/
theorem wp_badArgs_covering (env : Env W) (size : Nat) {s : HandlerState W}
    (hlt : ∀ p ∈ c.args, p.1 < size) (hlast : ∃ p ∈ c.args, p.1 + 1 = size)
    (hc : Clean root c s.trace) :
    wp (badArgs env root size c.args)
      (fun b s' => Clean root c s'.trace ∧ s'.response = s.response ∧
        (b = false ↔ HasArgs root c.args))
      (fun _ _ => False) s := by
  obtain ⟨p, hp, hsize⟩ := hlast
  unfold badArgs
  by_cases hl : root.elems.length < size
  · have hno : ¬HasArgs root c.args := fun h => by
      have := h.lt_length hp
      omega
    simp [hl, hc, hno]
  · have hsafe : SafeReads root c.args := safeReads_of_lt fun q hq => by
      have := hlt q hq
      omega
    rw [if_neg hl]
    exact wp_wrongType (Or.inl hsafe) (fun _ => hsafe) (fun p hp => ⟨c, hp⟩) hc

theorem threw_of_misfit {i : Nat} {ty : ObjType} {o : Obj} {e : Exn} {s : HandlerState W}
    (hargs : HasArgs root c.args) (hi : (i, ty) ∈ c.args) (ho : root.elems[i]? = some o)
    (hc : Clean root c s.trace) (hf : ¬o.Fits env.machine) (he : e ≠ .zmqError) :
    Threw env root c w e s := by
  refine threw_of_clean hc (fun h => absurd ?_ hf) he
  have ht : o.type = ty := by simpa [ho] using hargs _ hi
  exact h.argsFit hargs _ hi o ho ht

theorem wp_sizeArg_checked {Q : UInt64 → HandlerState W → Prop} {i : Nat} {s : HandlerState W}
    (hargs : HasArgs root c.args) (hi : (i, .positiveInteger) ∈ c.args) (hc : Clean root c s.trace)
    (hq : ∀ n, root.elems[i]? = some (.positiveInteger n) →
      (Obj.positiveInteger n).Fits env.machine → Clean root c (s.note (.element i)).trace →
      Q n (s.note (.element i))) :
    wp (sizeArg env root i) Q (fun e s' => Threw env root c w e s') s := by
  obtain ⟨n, hn⟩ := hargs.positiveInteger hi
  have hc' : Clean root c (s.note (.element i)).trace := hc.element hn
  rw [wp_sizeArg (Env.arg_of_elem hn)]
  by_cases hf : n.toNat < 2 ^ env.machine.bitness.bits
  · rw [if_pos hf]
    exact hq n hn hf hc'
  · rw [if_neg hf]
    exact threw_of_misfit hargs hi hn hc' hf (by decide)

theorem wp_bytesArg_found {Q : Bytes → HandlerState W → Prop} {i : Nat} {s : HandlerState W}
    {ty : ObjType} {o : Obj} {x : Bytes} (hargs : HasArgs root c.args) (hi : (i, ty) ∈ c.args)
    (ho : root.elems[i]? = some o) (hx : o = .str x ∨ o = .bin x) (hc : Clean root c s.trace)
    (hq : o.Fits env.machine → Clean root c (s.note (.element i)).trace →
      Q x (s.note (.element i))) :
    wp (bytesArg env root i) Q (fun e s' => Threw env root c w e s') s := by
  have hc' : Clean root c (s.note (.element i)).trace := hc.element ho
  have harg : env.arg root i = some (.str x) ∨ env.arg root i = some (.bin x) := by
    rcases hx with rfl | rfl
    · exact Or.inl (Env.arg_of_elem ho)
    · exact Or.inr (Env.arg_of_elem ho)
  have hfits : o.Fits env.machine ↔ x.length ≤ env.machine.maxLength := by
    rcases hx with rfl | rfl <;> rfl
  rw [wp_bytesArg harg]
  by_cases hf : x.length ≤ env.machine.maxLength
  · rw [if_pos hf]
    exact hq (hfits.mpr hf) hc'
  · rw [if_neg hf]
    exact threw_of_misfit hargs hi ho hc' (fun h => hf (hfits.mp h)) (by decide)

theorem wp_strArg_checked {Q : Bytes → HandlerState W → Prop} {i : Nat} {s : HandlerState W}
    (hargs : HasArgs root c.args) (hi : (i, .str) ∈ c.args) (hc : Clean root c s.trace)
    (hq : ∀ x, root.elems[i]? = some (.str x) →
      (Obj.str x).Fits env.machine → Clean root c (s.note (.element i)).trace →
      Q x (s.note (.element i))) :
    wp (bytesArg env root i) Q (fun e s' => Threw env root c w e s') s := by
  obtain ⟨x, hx⟩ := hargs.str hi
  exact wp_bytesArg_found hargs hi hx (Or.inl rfl) hc (hq x hx)

theorem wp_binArg_checked {Q : Bytes → HandlerState W → Prop} {i : Nat} {s : HandlerState W}
    (hargs : HasArgs root c.args) (hi : (i, .bin) ∈ c.args) (hc : Clean root c s.trace)
    (hq : ∀ x, root.elems[i]? = some (.bin x) →
      (Obj.bin x).Fits env.machine → Clean root c (s.note (.element i)).trace →
      Q x (s.note (.element i))) :
    wp (bytesArg env root i) Q (fun e s' => Threw env root c w e s') s := by
  obtain ⟨x, hx⟩ := hargs.bin hi
  exact wp_bytesArg_found hargs hi hx (Or.inr rfl) hc (hq x hx)

/-- A handler that checks its arguments, answers a failed check with `bad` and goes on with
`body` otherwise. -/
theorem answers_of_check {size : Nat} {bad : Obj} {body : Handler W Unit}
    (hsafe : c.InBounds root → size ≤ root.elems.length → SafeReads root c.args)
    (hsize : HasArgs root c.args → size ≤ root.elems.length)
    (hbad : bad.IsError ↔ c.reportsBadArgs = true)
    (hbody : HasArgs root c.args → ∀ s, Clean root c s.trace →
      wp body (fun _ s' => Done env root c s s') (fun e s' => Threw env root c s.world e s') s) :
    Answers env root c (badArgs env root size c.args >>= fun b =>
      if b = true then pack bad else body) := by
  intro hread s hc
  have keeps : Keeps (fun t => t.world = s.world) (badArgs env root size c.args) :=
    keeps_badArgs (fun _ _ h => h) size c.args
  have check := wp_and (wp_badArgs hread hsafe hsize hc) (keeps s rfl)
  rw [wp_bind]
  refine wp_mono check ?_ (fun _ _ h => h.1.elim)
  rintro b s' ⟨⟨hc', hr, hb⟩, hw⟩
  cases b with
  | true =>
    have hno : ¬HasArgs root c.args := by simpa using hb
    simp only [if_true, wp_pack]
    refine done_of_clean (r := bad) hc' (Command.fits_of_not_hasArgs hno) (by simp [hr]) ?_
    simpa [Command.Refuses, hno] using hbad
  | false =>
    have h := hbody (hb.mp rfl) s' hc'
    simp only [Bool.false_eq_true, if_false]
    refine wp_mono h (fun _ t hd => ?_) fun _ _ ht => hw ▸ ht
    exact ⟨hd.passed, hd.inRange, hd.fits, by simpa [hr] using hd.reply⟩

/-- The usual case, where the size the check asks for covers every index it looks at. -/
theorem answers_of_covering_check {size : Nat} {bad : Obj} {body : Handler W Unit}
    (hlt : ∀ p ∈ c.args, p.1 < size) (hlast : ∃ p ∈ c.args, p.1 + 1 = size)
    (hbad : bad.IsError ↔ c.reportsBadArgs = true)
    (hbody : HasArgs root c.args → ∀ s, Clean root c s.trace →
      wp body (fun _ s' => Done env root c s s') (fun e s' => Threw env root c s.world e s') s) :
    Answers env root c (badArgs env root size c.args >>= fun b =>
      if b = true then pack bad else body) := by
  refine answers_of_check (fun _ hl => ?_) (fun h => ?_) hbad hbody
  · exact safeReads_of_lt fun p hp => (hlt p hp).trans_le hl
  · obtain ⟨⟨i, ty⟩, hp, rfl⟩ := hlast
    exact h.lt_length hp

end Check

end XAuto
