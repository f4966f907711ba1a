import XAuto.Ledger
import XAuto.Replies
import XAuto.Run

namespace XAuto

open Handler Effect

variable {W : Type} {env : Env W} {root : Obj}

/-- The calls of `BridgeAlloc` and `BridgeFree`. -/
def Event.entry : Event → Option (Ledger.Entry Nat)
  | .bridgeAlloc block => some (.take block)
  | .bridgeFree block => some (.give block)
  | _ => none

namespace HandlerState

variable (s : HandlerState W)

def blocks : List (Ledger.Entry Nat) := s.trace.filterMap Event.entry

@[simp] theorem blocks_pack (o : Obj) : (s.pack o).blocks = s.blocks := rfl

@[simp] theorem blocks_moveTo (w : W) : (s.moveTo w).blocks = s.blocks := rfl

@[simp] theorem blocks_note (e : Event) : (s.note e).blocks = s.blocks ++ e.entry.toList := by
  unfold blocks
  rw [note_trace, List.filterMap_append]
  cases h : e.entry <;> simp [h]

end HandlerState

/-- The commands whose handlers call `BridgeAlloc`. -/
def Command.takesBlock : Command → Bool
  | .dbgReadSettingSz | .getSymbol => true
  | _ => false

section Frames

variable {l : List (Ledger.Entry Nat)}

/-- No block was taken so far. -/
def Takeless (s : HandlerState W) : Prop := Ledger.taken s.blocks = 0

theorem takeless_note {e : Event} (he : ∀ block, e ≠ .bridgeAlloc block) (s : HandlerState W)
    (h : Takeless s) : Takeless (s.note e) := by
  have none_taken : Ledger.taken e.entry.toList = 0 := by
    cases e with
    | bridgeAlloc block => exact absurd rfl (he block)
    | _ => rfl
  unfold Takeless
  rw [HandlerState.blocks_note, Ledger.taken_append, h, none_taken, add_zero]

theorem takeless_element (s : HandlerState W) (i : Nat) (h : Takeless s) :
    Takeless (s.note (.element i)) := takeless_note (by simp) s h

theorem keeps_takeless_pack (o : Obj) : Keeps (Takeless (W := W)) (pack o) := fun _ h => h

theorem keeps_takeless_call {α : Type} (f : W → α × W) : Keeps Takeless (call f) := fun _ h => h

theorem keeps_takeless_note {e : Event} (he : ∀ block, e ≠ .bridgeAlloc block) :
    Keeps (Takeless (W := W)) (note e) := keeps_note (takeless_note he)

theorem keeps_takeless_free (block : Nat) : Keeps Takeless (bridgeFree env block) :=
  (keeps_takeless_note (by simp)).bind fun _ => keeps_takeless_call _

theorem keeps_takeless_freeStray (ptr : Nat) : Keeps Takeless (freeStray env ptr) :=
  .ite (keeps_takeless_free _) (.throw _)

theorem keeps_takeless_strayPages (page n i : Nat) :
    Keeps Takeless (strayPages env page n i) := by
  induction n generalizing i with
  | zero => exact .pure _
  | succ n ih =>
    unfold strayPages
    split
    · exact (ih _).bind fun _ => .pure _
    · exact .throw _

theorem keeps_takeless_optionalArg {α : Type} {i : Nat} {ty : ObjType} {convert : Obj → Handler W α}
    {default : α} (hconvert : ∀ o, Keeps Takeless (convert o)) :
    Keeps Takeless (optionalArg env root i ty convert default) := by
  refine .ite ((keeps_element takeless_element i).bind fun o => .ite ?_ (.pure _)) (.pure _)
  exact (keeps_element takeless_element i).bind hconvert

/-- Only the two commands take blocks. -/
theorem keeps_takeless_handler {c : Command} (hc : c.takesBlock = false) :
    Keeps Takeless (handler env root c) := by
  have size (i : Nat) : Keeps Takeless (sizeArg env root i) := keeps_sizeArg takeless_element i
  have bytes (i : Nat) : Keeps Takeless (bytesArg env root i) := keeps_bytesArg takeless_element i
  have query {α : Type} (f : W → α × W) (o : α → Obj) :
      Keeps Takeless (call f >>= fun a => pack (o a)) :=
    (keeps_takeless_call f).bind fun _ => keeps_takeless_pack _
  have checked {n : Nat} {tys : List (Nat × ObjType)} {bad : Obj} {body : Handler W Unit}
      (hbody : Keeps Takeless body) :
      Keeps Takeless (badArgs env root n tys >>= fun b => if b = true then pack bad else body) :=
    (keeps_badArgs takeless_element _ _).bind fun _ => .ite (keeps_takeless_pack _) hbody
  cases c with
  | dbgReadSettingSz | getSymbol => simp [Command.takesBlock] at hc
  | debuggerPid | debuggerVersion | dbgIsRunning | dbgIsDebugging | dbgIsElevated
    | guiRefreshViews => exact query _ _
  | compatVersion | dbgGetBitness | quit => exact keeps_takeless_pack _
  | dbgMemmap =>
    refine (keeps_takeless_call _).bind fun mm => ?_
    cases mm with
    | some mm => exact (keeps_takeless_pack _).bind fun _ => keeps_takeless_free _
    | none =>
      refine (keeps_takeless_strayPages _ _ _).bind fun _ => ?_
      exact (keeps_takeless_pack _).bind fun _ => keeps_takeless_freeStray _
  | dbgReadRegisters => exact fun _ h => h
  | dbgEval => exact checked ((bytes 1).bind fun _ => query _ _)
  | dbgCmdExecDirect =>
    exact checked ((bytes 1).bind fun _ => (keeps_takeless_note (by simp)).bind fun _ => query _ _)
  | dbgReadMemory =>
    refine checked ((size 1).bind fun _ => (size 2).bind fun _ => ?_)
    refine (keeps_allocate _).bind fun _ => Keeps.bind ?_ fun membuf => ?_
    · exact (keeps_takeless_call _).bind fun _ =>
        (keeps_takeless_note (by simp)).bind fun _ => .pure _
    · cases membuf <;> exact keeps_takeless_pack _
  | dbgWriteMemory =>
    refine checked ((size 1).bind fun _ => (bytes 2).bind fun _ => Keeps.bind ?_ fun written => ?_)
    · exact (keeps_takeless_call _).bind fun _ =>
        (keeps_takeless_note (by simp)).bind fun _ => .pure _
    · exact .ite (keeps_takeless_pack _) (keeps_takeless_pack _)
  | dbgReadSettingUint => exact checked ((bytes 1).bind fun _ => (bytes 2).bind fun _ => query _ _)
  | dbgWriteSettingSz =>
    refine checked ((bytes 1).bind fun _ => (bytes 2).bind fun _ => (bytes 3).bind fun _ => ?_)
    exact (keeps_takeless_note (by simp)).bind fun _ => query _ _
  | dbgWriteSettingUint =>
    refine checked ((bytes 1).bind fun _ => (bytes 2).bind fun _ => (size 3).bind fun _ => ?_)
    exact (keeps_takeless_note (by simp)).bind fun _ => query _ _
  | dbgIsValidReadPtr | getComment => exact checked ((size 1).bind fun _ => query _ _)
  | disassemble =>
    exact checked ((size 1).bind fun _ => (keeps_takeless_call _).bind fun _ => query _ _)
  | assemble =>
    refine checked ((size 1).bind fun _ => (bytes 2).bind fun _ => ?_)
    exact (keeps_takeless_note (by simp)).bind fun _ => query _ _
  | getBreakpoints =>
    refine checked ((size 1).bind fun _ => (keeps_takeless_call _).bind fun bpList => ?_)
    cases bpList with
    | some bpList => exact (keeps_takeless_free _).bind fun _ => keeps_takeless_pack _
    | none => exact (keeps_takeless_freeStray _).bind fun _ => keeps_takeless_pack _
  | getLabel => exact checked ((size 1).bind fun _ => (size 2).bind fun _ => query _ _)
  | getLog =>
    refine (keeps_takeless_optionalArg keeps_convertSize).bind fun _ => ?_
    refine (keeps_takeless_optionalArg keeps_convertSize).bind fun _ => ?_
    refine (keeps_takeless_optionalArg keeps_convertBytes).bind fun _ => ?_
    exact Keeps.bind (fun _ h => h) fun _ => keeps_takeless_pack _

end Frames

section Lookups

/-- An address that the process can represent. -/
def Obj.address (m : Machine) : Obj → Option UInt64
  | .positiveInteger n => if n.toNat < 2 ^ m.bitness.bits then some n else none
  | _ => none

def Obj.symbolAddress (m : Machine) (root : Obj) : Option UInt64 :=
  (root.elems[1]?).bind (Obj.address m)

theorem Obj.address_eq_some {m : Machine} {o : Obj} {addr : UInt64} :
    o.address m = some addr ↔ o = .positiveInteger addr ∧ o.Fits m := by
  cases o with
  | positiveInteger n =>
    simp only [address, Option.ite_none_right_eq_some, Option.some.injEq, positiveInteger.injEq,
      Fits, and_comm]
  | _ => simp [address]

/-- The names that go over to the handler, null for one that is not there. -/
def SymbolInfo.handedOver (symbol : SymbolInfo) : List Nat :=
  let block (name : Option CString) : Nat := (name.map CString.ptr).getD 0
  (if symbol.freeDecorated then [block symbol.decoratedSymbol] else []) ++
    if symbol.freeUndecorated then [block symbol.undecoratedSymbol] else []

/-- What a lookup hands over, none of it when it fails. -/
def lookupNames (env : Env W) (w : W) (addr : UInt64) : List Nat :=
  let lookup := (env.bridge.dbgGetSymbolInfoAt addr
    (env.bridge.bridgeAlloc env.sizeofSymbolInfo w).2).1
  if lookup.1 then lookup.2.handedOver else []

/-- The block that `get_symbol_at` takes. -/
def infoBlock (env : Env W) (w : W) : Nat := (env.bridge.bridgeAlloc env.sizeofSymbolInfo w).1.ptr

variable {s : HandlerState W}

theorem keeps_blocks_element {l : List (Ledger.Entry Nat)} (s : HandlerState W) (i : Nat)
    (h : s.blocks = l) : (s.note (.element i)).blocks = l := by
  simpa [Event.entry] using h

/-- The end of `get_symbol_at`. -/
def freeLookup (env : Env W) (res : Bool) (symbol : SymbolInfo) (info : Nat) : Handler W Unit := do
  if res then
    if symbol.freeDecorated then freeSymbol env symbol.decoratedSymbol
    if symbol.freeUndecorated then freeSymbol env symbol.undecoratedSymbol
  bridgeFree env info

theorem wp_freeLookup (res : Bool) (symbol : SymbolInfo) (info : Nat) :
    wp (freeLookup env res symbol info)
      (fun _ t => t.blocks = s.blocks ++
        ((if res then symbol.handedOver else []).map .give ++ [.give info]))
      (fun _ _ => False) s := by
  unfold freeLookup SymbolInfo.handedOver
  cases res with
  | false => simp [Event.entry]
  | true =>
    cases symbol.freeDecorated <;> cases symbol.freeUndecorated <;> simp [freeSymbol, Event.entry]

theorem wp_getSymbolAt {addr : UInt64} (haddr : root.symbolAddress env.machine = some addr) :
    wp (getSymbolAt env root)
      (fun _ t => t.blocks = s.blocks ++ (.take (infoBlock env s.world) ::
        ((lookupNames env s.world addr).map .give ++ [.give (infoBlock env s.world)])))
      (fun _ _ => False) s := by
  obtain ⟨o, helem, ho⟩ := Option.bind_eq_some_iff.mp haddr
  obtain ⟨rfl, hfits⟩ := Obj.address_eq_some.mp ho
  have hfits : addr.toNat < 2 ^ env.machine.bitness.bits := hfits
  have hlen : ¬root.elems.length < 2 := by
    have := (List.getElem?_eq_some_iff.mp helem).1
    omega
  unfold getSymbolAt
  simp only [wp_bind, wp_bridgeAlloc, badArgs, wrongType, hlen, if_false, wp_element helem,
    Obj.type, ne_eq, not_true, wp_pure, Bool.false_eq_true, wp_sizeArg (Env.arg_of_elem helem),
    hfits, if_true, wp_call, wp_pack]
  refine wp_mono (wp_freeLookup _ _ _) (fun _ t ht => ?_) fun _ _ h => h
  rw [ht]
  simp only [HandlerState.blocks_pack, HandlerState.blocks_moveTo, HandlerState.blocks_note,
    Event.entry, Option.toList_some, Option.toList_none, List.append_nil, List.append_assoc]
  rfl

theorem wp_getSymbolAt_refused (haddr : root.symbolAddress env.machine = none)
    (hc : Clean root .getSymbol s.trace) :
    wp (getSymbolAt env root)
      (fun _ t => t.blocks = s.blocks ++ [.take (infoBlock env s.world)])
      (fun _ t => t.blocks = s.blocks ++ [.take (infoBlock env s.world)]) s := by
  unfold getSymbolAt
  rw [wp_bind, wp_bridgeAlloc, wp_bind]
  have taken := HandlerState.blocks_note
    (s.moveTo (env.bridge.bridgeAlloc env.sizeofSymbolInfo s.world).2)
    (.bridgeAlloc (infoBlock env s.world))
  have check := wp_and (wp_badArgs_covering env 2 (by decide) (by decide)
    (hc.bridgeAlloc (infoBlock env s.world))) (keeps_badArgs keeps_blocks_element 2 _ _ taken)
  refine wp_mono check (fun bad t ht => ?_) fun _ _ h => h.1.elim
  obtain ⟨⟨-, -, hbad⟩, blocks⟩ := ht
  cases bad with
  | true =>
    rw [if_pos rfl]
    exact blocks
  | false =>
    obtain ⟨n, hn⟩ := (hbad.mp rfl).positiveInteger (i := 1) (by decide)
    have misfit : ¬n.toNat < 2 ^ env.machine.bitness.bits := by
      simpa [Obj.symbolAddress, hn, Obj.address] using haddr
    rw [if_neg Bool.false_ne_true, wp_bind, wp_sizeArg (Env.arg_of_elem hn), if_neg misfit]
    exact keeps_blocks_element t 1 blocks

theorem dbgReadSettingSz_settles (hs : s.blocks = []) :
    wp (dbgReadSettingSz env root) (fun _ t => Ledger.Settles 0 t.blocks)
      (fun _ t => Ledger.Settles 0 t.blocks) s := by
  have untouched (t : HandlerState W) (h : t.blocks = []) : Ledger.Settles 0 t.blocks := by
    rw [h]
    exact .done
  have thrown (_ : Exn) := untouched
  unfold dbgReadSettingSz
  refine (keeps_badArgs keeps_blocks_element _ _).wp_bind hs thrown fun bad t ht => ?_
  rw [wp_ite]
  split
  · exact untouched t ht
  refine (keeps_bytesArg keeps_blocks_element 1).wp_bind ht thrown fun section_ t ht => ?_
  refine (keeps_bytesArg keeps_blocks_element 2).wp_bind ht thrown fun settingName t ht => ?_
  have loan := Ledger.Settles.loan (env.bridge.bridgeAlloc env.maxSettingSize t.world).1.ptr []
  simpa [Event.entry, ht] using loan

end Lookups

section Requests

variable {w : W}

/-- The calls made while a request is served, before its reply is sent. -/
def requestBlocks (env : Env W) (root : Obj) (w : W) : List (Ledger.Entry Nat) :=
  (final (replyTo env root) { world := w }).blocks

/-- What the other commands free belongs to the debugger, but what they take would count. -/
def requestLedger (env : Env W) (root : Obj) (w : W) : List (Ledger.Entry Nat) :=
  if root.command.any Command.takesBlock then requestBlocks env root w
  else Ledger.takes (requestBlocks env root w)

/-- The symbol names that go over to the request. -/
def handedOver (env : Env W) (root : Obj) (w : W) : List Nat :=
  if root.command = some .getSymbol then
    ((root.symbolAddress env.machine).map (lookupNames env w)).getD []
  else []

theorem requestBlocks_of_handler {P : List (Ledger.Entry Nat) → Prop} {c : Command}
    (hcmd : root.command = some c)
    (h : wp (handler env root c) (fun _ t => P t.blocks) (fun _ t => P t.blocks) (begun w)) :
    P (requestBlocks env root w) :=
  final_replyTo (P := fun t => P t.blocks) hcmd (fun _ _ h => h) h

/-- A request that names neither of the two commands takes no block. -/
theorem taken_requestBlocks (env : Env W) (w : W)
    (h : root.command.any Command.takesBlock = false) :
    Ledger.taken (requestBlocks env root w) = 0 := by
  cases hcmd : root.command with
  | some c =>
    rw [hcmd] at h
    exact requestBlocks_of_handler (P := fun l => Ledger.taken l = 0) hcmd
      (keeps_takeless_handler h (begun w) rfl)
  | none =>
    have dispatch : Keeps Takeless (dispatchNone env root) := by
      refine .ite ((keeps_convertBytes root).bind fun str => ?_) (.ite ?_ (.pure _))
      · exact .ite ((keeps_takeless_pack _).bind fun _ => .pure _) (.pure _)
      · refine (keeps_element takeless_element 0).bind fun o => .ite ?_ (.pure _)
        exact (keeps_bytesArg takeless_element 0).bind fun _ => .pure _
    have run : wp (replyTo env root) (fun _ => Takeless) (fun _ => Takeless) { world := w } := by
      rw [wp_replyTo]
      refine wp_of_eq (dispatchCmd_of_no_command hcmd _) ?_
      refine wp_mono (dispatch { world := w } rfl) (fun _ s hs => ?_) fun _ _ h => h
      unfold HandlerState.finish
      split
      · exact hs
      · exact hs
    exact wp_final.mp run

/-- A request for a symbol returns its block if it gets to the lookup, and only then. -/
theorem symbol_settles_iff (w : W) (hsymbol : root.command = some .getSymbol) :
    Ledger.Settles (handedOver env root w : Multiset Nat) (requestLedger env root w) ↔
      root.symbolAddress env.machine ≠ none := by
  have ledger : requestLedger env root w = requestBlocks env root w := by
    simp [requestLedger, hsymbol, Command.takesBlock]
  cases haddr : root.symbolAddress env.machine with
  | none =>
    have left : requestBlocks env root w = [.take (infoBlock env w)] :=
      requestBlocks_of_handler (P := fun l => l = [.take (infoBlock env w)]) hsymbol
        (wp_getSymbolAt_refused haddr (clean_begun hsymbol w))
    refine iff_of_false (fun settles => ?_) fun h => h rfl
    have conserved := settles.given_eq
    simp [ledger, left, handedOver, haddr, Ledger.given, Ledger.taken] at conserved
  | some addr =>
    have returned : requestBlocks env root w = .take (infoBlock env w) ::
        ((lookupNames env w addr).map .give ++ [.give (infoBlock env w)]) := by
      refine requestBlocks_of_handler (P := fun l => l = _) hsymbol ?_
      exact wp_mono (wp_getSymbolAt haddr) (fun _ t ht => ht) fun _ _ h => h.elim
    have handed : handedOver env root w = lookupNames env w addr := by
      simp [handedOver, hsymbol, haddr]
    refine iff_of_true ?_ (Option.some_ne_none addr)
    rw [ledger, returned, handed]
    exact .loan _ _

theorem takesBlock_eq_true {c : Command} (h : c.takesBlock = true) :
    c = .dbgReadSettingSz ∨ c = .getSymbol := by
  cases c with
  | dbgReadSettingSz => exact Or.inl rfl
  | getSymbol => exact Or.inr rfl
  | _ => exact absurd h Bool.false_ne_true

theorem other_settles (env : Env W) (w : W) (hsymbol : root.command ≠ some .getSymbol) :
    Ledger.Settles (handedOver env root w : Multiset Nat) (requestLedger env root w) := by
  have handed : handedOver env root w = [] := if_neg hsymbol
  rw [handed]
  by_cases htakes : root.command.any Command.takesBlock = true
  · obtain ⟨c, hcmd, hc⟩ := (Option.any_eq_true _ _).mp htakes
    rw [requestLedger, if_pos htakes]
    rcases takesBlock_eq_true hc with rfl | rfl
    · exact requestBlocks_of_handler (P := Ledger.Settles 0) hcmd (dbgReadSettingSz_settles rfl)
    · exact absurd hcmd hsymbol
  · have untaken := taken_requestBlocks env w (Bool.eq_false_iff.mpr htakes)
    rw [requestLedger, if_neg htakes, Ledger.takes_eq_nil untaken]
    exact .done

/-- A request returns what it takes, unless it asks for the symbol at no address. -/
theorem request_settles_iff (env : Env W) (root : Obj) (w : W) :
    Ledger.Settles (handedOver env root w : Multiset Nat) (requestLedger env root w) ↔
      (root.command = some .getSymbol → root.symbolAddress env.machine ≠ none) := by
  by_cases hsymbol : root.command = some .getSymbol
  · rw [symbol_settles_iff w hsymbol]
    exact ⟨fun h _ => h, fun h => h hsymbol⟩
  · exact iff_of_true (other_settles env w hsymbol) fun h => absurd h hsymbol

end Requests

section Runs

variable {unpack : Bytes → Option Obj}

/-- The request that a turn of the loop comes to serve. -/
def Turn.served (unpack : Bytes → Option Obj) (s : ThreadState W) : Turn → Option Obj
  | .request data _ => if s.status = .looping then unpack data else none
  | _ => none

/-- The requests that are served in a run, each with the world it is served in. -/
def servedRequests (env : Env W) (unpack : Bytes → Option Obj) (w : W) (turns : List Turn) :
    List (W × Obj) :=
  (Run.visits (serveTurn env unpack) { world := w } turns).filterMap fun v =>
    (v.2.served unpack v.1).map fun root => (v.1.world, root)

/-- Each request settles its ledger by itself, and over all of them no block is left. -/
structure ReturnsBlocks (env : Env W) (requests : List (W × Obj)) : Prop where
  settles : ∀ r ∈ requests,
    Ledger.Settles (handedOver env r.2 r.1 : Multiset Nat) (requestLedger env r.2 r.1)
  outstanding : Ledger.outstanding
    (requests.map fun r => (handedOver env r.2 r.1 : Multiset Nat)).sum
    (requests.flatMap fun r => requestLedger env r.2 r.1) = 0

theorem servedRequests_append (env : Env W) (w : W) (before after : List Turn) :
    servedRequests env unpack w before <+: servedRequests env unpack w (before ++ after) := by
  unfold servedRequests
  rw [Run.visits_append, List.filterMap_append]
  exact List.prefix_append _ _

/-- After any number of turns every block is back, exactly when no request asks for the symbol at
no address. -/
theorem blocks_returned_iff (env : Env W) (unpack : Bytes → Option Obj) (w : W)
    (turns : List Turn) :
    (∀ before, before <+: turns → ReturnsBlocks env (servedRequests env unpack w before)) ↔
      ∀ r ∈ servedRequests env unpack w turns,
        r.2.command = some .getSymbol → r.2.symbolAddress env.machine ≠ none := by
  constructor
  · intro h r hr
    exact (request_settles_iff env r.2 r.1).mp ((h turns List.prefix_rfl).settles r hr)
  · intro h before hbefore
    obtain ⟨after, rfl⟩ := hbefore
    have settles : ∀ r ∈ servedRequests env unpack w before,
        Ledger.Settles (handedOver env r.2 r.1 : Multiset Nat) (requestLedger env r.2 r.1) := by
      intro r hr
      have served := (servedRequests_append env w before after).subset hr
      exact (request_settles_iff env r.2 r.1).mpr (h r served)
    exact ⟨settles, (Ledger.Settles.flatMap settles).outstanding_eq_zero⟩

def symbolWithoutAddress : Obj := .array [.str Command.getSymbol.name]

theorem symbol_without_address_keeps_block :
    ¬∀ (env : Env Unit) (unpack : Bytes → Option Obj) (turns before : List Turn),
      before <+: turns → ReturnsBlocks env (servedRequests env unpack () before) := by
  intro h
  let env : Env Unit := .idle (.native .x64) fun _ => none
  have returns := h env (fun _ => some symbolWithoutAddress) [.request [] true] _ List.prefix_rfl
  have settles := returns.settles ((), symbolWithoutAddress) (List.mem_singleton.mpr rfl)
  exact (request_settles_iff env symbolWithoutAddress ()).mp settles (by decide) (by decide)

end Runs

end XAuto
