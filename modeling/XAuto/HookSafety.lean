import XAuto.HookThreads

namespace XAuto

namespace Frame

variable {f : Frame} {m : Mutex}

/-- A hook that is not guarded has nothing to do with a mutex or with a line of its own. -/
theorem unguarded (hf : f.isHook = true) (hg : f.guarded = false) :
    f.wants = none ∧ f.holds = none ∧ f.unsent = none ∧ f.usesSocket = false := by
  cases f with
  | hook line pc => cases pc <;> first | exact ⟨rfl, rfl, rfl, rfl⟩ | cases hg
  | _ => cases hf

theorem unsent_of_not_hook (hf : f.isHook = false) : f.unsent = none := by
  cases f with
  | hook line pc => cases hf
  | _ => rfl

theorem guarded_of_not_hook (hf : f.isHook = false) : f.guarded = false := by
  cases f with
  | hook line pc => cases hf
  | _ => rfl

/-- A line can only be on its way in the guarded part of the hook. -/
theorem guarded_of_unsent (h : f.unsent.isSome = true) : f.guarded = true := by
  cases f with
  | hook line pc => cases pc <;> first | rfl | cases h
  | _ => cases h

theorem holds_of_usesSocket (hf : f.usesSocket = true) : f.holds = some .pub := by
  cases f with
  | hook line pc => cases pc <;> first | rfl | cases hf
  | callback n pc => cases pc <;> first | rfl | cases hf
  | _ => cases hf

/-- What taking a mutex changes of a call. -/
structure Locks (f : Frame) (m : Mutex) : Prop where
  held : f.holds = none
  holds : f.locked.holds = some m
  isHook : f.locked.isHook = f.isHook
  guarded : f.locked.guarded = f.guarded
  unsent : f.locked.unsent = f.unsent
  usesSocket : f.locked.usesSocket = false

theorem locks_of_wants (hf : f.wants = some m) : f.Locks m := by
  cases f with
  | hook line pc =>
    cases pc <;> cases hf
    all_goals exact ⟨rfl, rfl, rfl, rfl, rfl, rfl⟩
  | callback n pc =>
    cases pc <;> cases hf
    all_goals exact ⟨rfl, rfl, rfl, rfl, rfl, rfl⟩
  | stop pc =>
    cases pc <;> cases hf
    exact ⟨rfl, rfl, rfl, rfl, rfl, rfl⟩
  | query pc =>
    cases pc <;> cases hf
    exact ⟨rfl, rfl, rfl, rfl, rfl, rfl⟩

end Frame

/-- The mutexes that a stack of calls holds. -/
def heldBy (stack : List Frame) : List Mutex := stack.filterMap Frame.holds

def unsentOf (stack : List Frame) : List Bytes := stack.filterMap Frame.unsent

/-- Calls are only nested where a hook was called from what logs. -/
def Nested : List Frame → Prop
  | f :: g :: rest => f.isHook = true ∧ g.logs = true ∧ Nested (g :: rest)
  | _ => True

theorem Nested.tail {f : Frame} {rest : List Frame} (h : Nested (f :: rest)) : Nested rest := by
  cases rest with
  | nil => trivial
  | cons g rest => exact h.2.2

theorem Nested.replace {f g : Frame} {rest : List Frame} (h : Nested (f :: rest))
    (hg : g.isHook = f.isHook) : Nested (g :: rest) := by
  cases rest with
  | nil => trivial
  | cons k rest => exact ⟨hg.trans h.1, h.2⟩

theorem Nested.logs_below {f : Frame} {rest : List Frame} (h : Nested (f :: rest)) :
    ∀ g ∈ rest, g.logs = true := by
  induction rest generalizing f with
  | nil => simp
  | cons k rest ih => exact List.forall_mem_cons.mpr ⟨h.2.1, ih h.2.2⟩

/-- `in_hook` is set exactly while one of the calls is in the part that it guards. -/
structure Thread.Ok (th : Thread) : Prop where
  nested : Nested th.stack
  guarded : th.stack.countP Frame.guarded = if th.inHook then 1 else 0

namespace Thread

variable {f : Frame} {rest : List Frame} {inHook : Bool}

/-- A call that holds or wants a mutex is the only one on its thread to do with one. -/
structure Alone (rest : List Frame) : Prop where
  held : heldBy rest = []
  unsent : unsentOf rest = []
  usesSocket : ∀ g ∈ rest, g.usesSocket = false

theorem alone_of_unguarded (logs : ∀ g ∈ rest, g.logs = true)
    (unguarded : ∀ g ∈ rest, g.guarded = false) : Alone rest := by
  have clear : ∀ g ∈ rest, g.holds = none ∧ g.unsent = none ∧ g.usesSocket = false := by
    intro g hg
    cases hook : g.isHook with
    | true => exact (Frame.unguarded hook (unguarded g hg)).2
    | false =>
      have free : g.holds = none := by simpa [Frame.logs, hook] using logs g hg
      refine ⟨free, Frame.unsent_of_not_hook hook, ?_⟩
      by_contra uses
      rw [Frame.holds_of_usesSocket (by simpa using uses)] at free
      cases free
  refine ⟨?_, ?_, fun g hg => (clear g hg).2.2⟩
  · exact List.filterMap_eq_nil_iff.mpr fun g hg => (clear g hg).1
  · exact List.filterMap_eq_nil_iff.mpr fun g hg => (clear g hg).2.1

theorem Ok.alone (h : Ok ⟨f :: rest, inHook⟩) (hf : f.isHook = true → f.guarded = true) :
    Alone rest := by
  cases hook : f.isHook with
  | false =>
    cases rest with
    | nil => exact ⟨rfl, rfl, by simp⟩
    | cons g rest =>
      have above : f.isHook = true := h.nested.1
      rw [hook] at above
      cases above
  | true =>
    have counted := h.guarded
    dsimp only at counted
    rw [List.countP_cons_of_pos (hf hook)] at counted
    have none : rest.countP Frame.guarded = 0 := by
      split at counted <;> omega
    refine alone_of_unguarded h.nested.logs_below fun g hg => ?_
    simpa using List.countP_eq_zero.mp none g hg

/-- The calls that want or hold a mutex are guarded hooks or no hooks at all. -/
theorem guarded_of_wants {m : Mutex} (hf : f.wants = some m) (hook : f.isHook = true) :
    f.guarded = true := by
  by_contra open_
  have free := (Frame.unguarded hook (by simpa using open_)).1
  rw [free] at hf
  cases hf

theorem guarded_of_holds {m : Mutex} (hf : f.holds = some m) (hook : f.isHook = true) :
    f.guarded = true := by
  by_contra open_
  have free := (Frame.unguarded hook (by simpa using open_)).2.1
  rw [free] at hf
  cases hf

theorem Ok.replace {g : Frame} (h : Ok ⟨f :: rest, inHook⟩) (hook : g.isHook = f.isHook)
    (guarded : g.guarded = f.guarded) : Ok ⟨g :: rest, inHook⟩ := by
  refine ⟨h.nested.replace hook, ?_⟩
  have counted := h.guarded
  dsimp only at counted ⊢
  rwa [List.countP_cons, guarded, ← List.countP_cons]

theorem Ok.pop (h : Ok ⟨f :: rest, inHook⟩) (unguarded : f.guarded = false) :
    Ok ⟨rest, inHook⟩ := by
  refine ⟨h.nested.tail, ?_⟩
  have counted := h.guarded
  dsimp only at counted ⊢
  rwa [List.countP_cons_of_neg (by simp [unguarded])] at counted

/-- A hook is called from a call that logs, or from outside of the plugin. -/
theorem Ok.push {stack : List Frame} {line : Bytes} (h : Ok ⟨stack, inHook⟩)
    (logs : ∀ g ∈ stack.head?, g.logs = true) : Ok ⟨.hook line .original :: stack, inHook⟩ := by
  refine ⟨?_, ?_⟩
  · cases stack with
    | nil => trivial
    | cons g rest => exact ⟨rfl, logs g rfl, h.nested⟩
  · exact (List.countP_cons_of_neg (by simp [Frame.guarded])).trans h.guarded

end Thread

namespace Process

variable {τ : Type} [DecidableEq τ] {p p' : Process τ} {t : τ}

/-- What the mutexes and `in_hook` see to, whatever the threads do. -/
structure Sound (p : Process τ) : Prop where
  threads : ∀ t, (p.threads t).Ok
  owners : ∀ m t, p.owner m = some t ↔ m ∈ heldBy (p.threads t).stack
  sockets : ∀ t, ∀ f ∈ (p.threads t).stack, f.usesSocket = true → p.opened = true
  kept : p.session.Kept
  ledger : ∀ t, p.appendedBy t =
    p.publishedBy t ++ p.droppedBy t ++ unsentOf (p.threads t).stack
  dropless : p.opened = true → p.dropped = []
  terminated : p.terminated = true →
    p.opened = false ∧ ∃ t n, Frame.callback n .send ∈ (p.threads t).stack

/-- A step that takes or gives back no mutex and does nothing with a line. -/
theorem Sound.quiet (h : p.Sound) (live : p.terminated = false) {stack : List Frame}
    (before : (p.threads t).stack = stack) {th : Thread} (active attached : Bool) (ok : th.Ok)
    (held : heldBy th.stack = heldBy stack) (unsent : unsentOf th.stack = unsentOf stack)
    (sockets : ∀ f ∈ th.stack, f.usesSocket = true → p.opened = true) :
    { p.setThread t th with logHookActive := active, attached := attached }.Sound := by
  subst before
  have update {P : τ → Thread → Prop} (at_t : P t th) (others : ∀ u, P u (p.threads u)) (u : τ) :
      P u (Function.update p.threads t th u) :=
    (Function.forall_update_iff p.threads P).mpr ⟨at_t, fun u _ => others u⟩ u
  exact {
    threads := update (P := fun _ th => th.Ok) ok h.threads
    owners m := update (P := fun u th => p.owner m = some u ↔ m ∈ heldBy th.stack)
      (held ▸ h.owners m t) (h.owners m)
    sockets := update (P := fun _ th => ∀ f ∈ th.stack, f.usesSocket = true → p.opened = true)
      sockets h.sockets
    kept := h.kept
    ledger := update (P := fun u th => p.appendedBy u =
      p.publishedBy u ++ p.droppedBy u ++ unsentOf th.stack) (unsent ▸ h.ledger t) h.ledger
    dropless := h.dropless
    terminated ended := absurd (live.symm.trans ended) (by simp) }

theorem ok_of_stack {stack : List Frame} (h : p.Sound) (hs : (p.threads t).stack = stack) :
    Thread.Ok ⟨stack, (p.threads t).inHook⟩ := hs ▸ h.threads t

theorem Sound.locks (h : p.Sound) (live : p.terminated = false) {m : Mutex} {f : Frame}
    {rest : List Frame} (stack : (p.threads t).stack = f :: rest) (wants : f.wants = some m)
    (free : p.owner m = none) :
    ((p.setOwner m (some t)).setStack t (f.locked :: rest)).Sound := by
  have ok := ok_of_stack h stack
  have alone := ok.alone (Thread.guarded_of_wants wants)
  have locks := Frame.locks_of_wants wants
  have before : heldBy (p.threads t).stack = [] := by
    rw [stack, heldBy, List.filterMap_cons_none locks.held]
    exact alone.held
  have after : heldBy (f.locked :: rest) = [m] := by
    rw [heldBy, List.filterMap_cons_some locks.holds]
    exact congrArg (m :: ·) alone.held
  have unsent : unsentOf (f.locked :: rest) = unsentOf (p.threads t).stack := by
    rw [stack, unsentOf, unsentOf, List.filterMap_cons, List.filterMap_cons, locks.unsent]
  refine ⟨?_, fun k => ?_, ?_, h.kept, ?_, h.dropless,
    fun ended => absurd (live.symm.trans ended) (by simp)⟩
  · exact (Function.forall_update_iff p.threads fun _ th => th.Ok).mpr
      ⟨ok.replace locks.isHook locks.guarded, fun u _ => h.threads u⟩
  · refine (Function.forall_update_iff p.threads fun u th =>
      Function.update p.owner m (some t) k = some u ↔ k ∈ heldBy th.stack).mpr ⟨?_, fun u hu => ?_⟩
    · rw [after, List.mem_singleton]
      by_cases hk : k = m
      · simp [hk]
      · have none := h.owners k t
        rw [before] at none
        simpa [Function.update_of_ne hk, hk] using none
    · by_cases hk : k = m
      · have none := h.owners m u
        rw [free] at none
        subst hk
        simpa [Ne.symm hu] using none
      · rw [Function.update_of_ne hk]
        exact h.owners k u
  · refine (Function.forall_update_iff p.threads fun _ th =>
      ∀ f ∈ th.stack, f.usesSocket = true → p.opened = true).mpr ⟨?_, fun u _ => h.sockets u⟩
    intro g hg uses
    rcases List.mem_cons.mp hg with rfl | hg
    · rw [locks.usesSocket] at uses
      cases uses
    · rw [alone.usesSocket g hg] at uses
      cases uses
  · exact (Function.forall_update_iff p.threads fun u th => p.appendedBy u =
      p.publishedBy u ++ p.droppedBy u ++ unsentOf th.stack).mpr
      ⟨unsent ▸ h.ledger t, fun u _ => h.ledger u⟩

theorem Sound.releases (h : p.Sound) (live : p.terminated = false) {m : Mutex} {f : Frame}
    {rest : List Frame} {th : Thread} (stack : (p.threads t).stack = f :: rest)
    (holds : f.holds = some m)
    (threads : p'.threads = Function.update p.threads t th) (ok : th.Ok)
    (held : heldBy th.stack = []) (unused : ∀ f ∈ th.stack, f.usesSocket = false)
    (owner : p'.owner = Function.update p.owner m none)
    (closing : p'.opened = p.opened ∨ m = .pub ∧ p'.opened = false) (kept : p'.session.Kept)
    (mine : p'.appendedBy t = p'.publishedBy t ++ p'.droppedBy t ++ unsentOf th.stack)
    (others : ∀ u ≠ t, p'.appendedBy u = p.appendedBy u ∧ p'.publishedBy u = p.publishedBy u ∧
      p'.droppedBy u = p.droppedBy u)
    (dropless : p'.opened = true → p'.dropped = []) (terminated : p'.terminated = p.terminated) :
    p'.Sound := by
  have alone := (ok_of_stack h stack).alone (Thread.guarded_of_holds holds)
  have before : heldBy (p.threads t).stack = [m] := by
    rw [stack, heldBy, List.filterMap_cons_some holds]
    exact congrArg (m :: ·) alone.held
  have owned : p.owner m = some t := (h.owners m t).mpr (by simp [before])
  refine ⟨?_, fun k => ?_, ?_, kept, ?_, dropless, fun ended => ?_⟩
  · rw [threads]
    exact (Function.forall_update_iff p.threads fun _ th => th.Ok).mpr ⟨ok, fun u _ => h.threads u⟩
  · rw [threads, owner]
    refine (Function.forall_update_iff p.threads fun u th =>
      Function.update p.owner m none k = some u ↔ k ∈ heldBy th.stack).mpr ⟨?_, fun u hu => ?_⟩
    · rw [held]
      by_cases hk : k = m
      · simp [hk]
      · have only := h.owners k t
        rw [before, List.mem_singleton] at only
        simpa [Function.update_of_ne hk, hk] using only
    · by_cases hk : k = m
      · have other := h.owners m u
        rw [owned] at other
        subst hk
        simpa [Ne.symm hu] using other
      · rw [Function.update_of_ne hk]
        exact h.owners k u
  · rw [threads]
    refine (Function.forall_update_iff p.threads fun _ th =>
      ∀ f ∈ th.stack, f.usesSocket = true → p'.opened = true).mpr ⟨?_, fun u hu g hg uses => ?_⟩
    · intro g hg uses
      rw [unused g hg] at uses
      cases uses
    · rcases closing with same | ⟨rfl, -⟩
      · exact same ▸ h.sockets u g hg uses
      · -- another thread would have to hold the mutex as well
        have held : Mutex.pub ∈ heldBy (p.threads u).stack :=
          List.mem_filterMap.mpr ⟨g, hg, Frame.holds_of_usesSocket uses⟩
        have other := (h.owners .pub u).mpr held
        rw [owned] at other
        exact absurd (Option.some.inj other).symm hu
  · rw [threads]
    refine (Function.forall_update_iff p.threads fun u th => p'.appendedBy u =
      p'.publishedBy u ++ p'.droppedBy u ++ unsentOf th.stack).mpr ⟨mine, fun u hu => ?_⟩
    obtain ⟨appended, published, dropped⟩ := others u hu
    rw [appended, published, dropped]
    exact h.ledger u
  · exact absurd (live.symm.trans (terminated ▸ ended)) (by simp)

section Ledger

variable (p) (t u : τ)

@[simp] theorem appendedBy_append (line : Bytes) :
    (p.append t line).appendedBy u = p.appendedBy u ++ if t = u then [line] else [] := by
  unfold appendedBy append
  rw [List.filterMap_append]
  split <;> simp [*]

@[simp] theorem publishedBy_publish (n : Notice) :
    (p.publish t n).publishedBy u = p.publishedBy u ++ if t = u then n.line.toList else [] := by
  unfold publishedBy publish
  rw [List.filterMap_append]
  split
  · cases hn : n.line <;> simp [*]
  · simp [*]

@[simp] theorem droppedBy_drop (line : Bytes) :
    (p.drop t line).droppedBy u = p.droppedBy u ++ if t = u then [line] else [] := by
  unfold droppedBy drop
  rw [List.filterMap_append]
  split <;> simp [*]

end Ledger

theorem Sound.below (h : p.Sound) {f : Frame} {rest : List Frame}
    (stack : (p.threads t).stack = f :: rest) :
    ∀ g ∈ rest, g.usesSocket = true → p.opened = true :=
  fun g hg => h.sockets t g (stack ▸ List.mem_cons_of_mem f hg)

/-- The hook owes the line that it has appended. -/
theorem Sound.hook_append (h : p.Sound) (live : p.terminated = false) {line : Bytes}
    {rest : List Frame} (stack : (p.threads t).stack = .hook line .append :: rest) :
    (p.advance t (.hook line .append) rest).Sound := by
  have ok := ok_of_stack h stack
  have ledger := h.ledger t
  rw [stack] at ledger
  have alone := ok.alone fun _ => rfl
  refine h.releases live (m := .log) stack rfl rfl (ok.replace (g := .hook line .wantPub) rfl rfl)
    alone.held ?_ rfl (Or.inl rfl) (h.kept.append (some line)) ?_ (fun u hu => ?_) h.dropless rfl
  · simpa [Frame.usesSocket] using alone.usesSocket
  · change (p.append t line).appendedBy t =
      p.publishedBy t ++ p.droppedBy t ++ line :: unsentOf rest
    have before : p.appendedBy t = p.publishedBy t ++ p.droppedBy t ++ unsentOf rest := ledger
    simp [before, alone.unsent]
  · exact ⟨(appendedBy_append p t u line).trans (by simp [Ne.symm hu]), rfl, rfl⟩

/-- The hook gives a line up only when the socket is closed. -/
theorem Sound.hook_send (h : p.Sound) (live : p.terminated = false) {line : Bytes}
    {rest : List Frame} (stack : (p.threads t).stack = .hook line .send :: rest) :
    (p.advance t (.hook line .send) rest).Sound := by
  have ok := ok_of_stack h stack
  have ledger := h.ledger t
  rw [stack] at ledger
  have alone := ok.alone fun _ => rfl
  unfold advance
  dsimp only
  split
  next opened =>
    exact h.quiet live stack p.logHookActive p.attached (ok.replace rfl rfl) rfl rfl
      fun _ _ _ => opened
  next closed =>
    refine h.releases live (m := .pub) stack rfl rfl (ok.replace (g := .hook line .leave) rfl rfl)
      alone.held ?_ rfl (Or.inl rfl) h.kept ?_ (fun u hu => ?_) (fun opened => ?_) rfl
    · simpa [Frame.usesSocket] using alone.usesSocket
    · change p.appendedBy t = p.publishedBy t ++ (p.drop t line).droppedBy t ++ unsentOf rest
      have before : p.appendedBy t =
        p.publishedBy t ++ p.droppedBy t ++ line :: unsentOf rest := ledger
      simp [before, alone.unsent]
    · exact ⟨rfl, rfl, (droppedBy_drop p t u line).trans (by simp [Ne.symm hu])⟩
    · exact absurd opened closed

/-- The hook has sent the line that it owes. -/
theorem Sound.hook_sending (h : p.Sound) (live : p.terminated = false) {line : Bytes}
    {rest : List Frame} (stack : (p.threads t).stack = .hook line .sending :: rest) :
    (p.advance t (.hook line .sending) rest).Sound := by
  have ok := ok_of_stack h stack
  have ledger := h.ledger t
  rw [stack] at ledger
  have alone := ok.alone fun _ => rfl
  have opened : p.opened = true := h.sockets t (.hook line .sending) (by simp [stack]) rfl
  refine h.releases live (m := .pub) stack rfl rfl (ok.replace (g := .hook line .leave) rfl rfl)
    alone.held ?_ rfl (Or.inl rfl) h.kept ?_ (fun u hu => ?_) h.dropless rfl
  · simpa [Frame.usesSocket] using alone.usesSocket
  · change p.appendedBy t =
      (p.publish t (.logMessage line)).publishedBy t ++ p.droppedBy t ++ unsentOf rest
    have before : p.appendedBy t =
      p.publishedBy t ++ p.droppedBy t ++ line :: unsentOf rest := ledger
    have none : p.droppedBy t = [] := by simp [droppedBy, h.dropless opened]
    simp [before, none, alone.unsent, Notice.line]
  · exact ⟨rfl, (publishedBy_publish p t u _).trans (by simp [Ne.symm hu]), rfl⟩

theorem Sound.hook_advance (h : p.Sound) (live : p.terminated = false) {line : Bytes}
    {pc : HookPc} {rest : List Frame} (stack : (p.threads t).stack = .hook line pc :: rest)
    (wants : (Frame.hook line pc).wants = none) : (p.advance t (.hook line pc) rest).Sound := by
  have ok := ok_of_stack h stack
  have below := h.below stack
  cases pc with
  | wantLog | wantPub => cases wants
  | original =>
    refine h.quiet live stack p.logHookActive p.attached (ok.replace rfl rfl) rfl rfl ?_
    simpa [Frame.usesSocket] using below
  | capture =>
    unfold advance
    dsimp only
    split
    · refine h.quiet live stack p.logHookActive p.attached (ok.replace rfl rfl) rfl rfl ?_
      simpa [Frame.usesSocket] using below
    · exact h.quiet live stack p.logHookActive p.attached (ok.pop rfl) rfl rfl below
  | guard =>
    unfold advance
    dsimp only
    split
    · exact h.quiet live stack p.logHookActive p.attached (ok.pop rfl) rfl rfl below
    next free =>
      have enters : Thread.Ok ⟨.hook line .wantLog :: rest, true⟩ := by
        refine ⟨ok.nested.replace rfl, ?_⟩
        have none := ok.guarded
        dsimp only at none
        rw [if_neg free, List.countP_cons_of_neg (by simp [Frame.guarded])] at none
        rw [List.countP_cons_of_pos rfl, none]
        rfl
      refine h.quiet live stack p.logHookActive p.attached enters rfl rfl ?_
      simpa [Frame.usesSocket] using below
  | append => exact h.hook_append live stack
  | send => exact h.hook_send live stack
  | sending => exact h.hook_sending live stack
  | leave =>
    have leaves : Thread.Ok ⟨rest, false⟩ := by
      refine ⟨ok.nested.tail, ?_⟩
      have one := ok.guarded
      change rest.countP Frame.guarded = 0
      dsimp only at one
      rw [List.countP_cons_of_pos rfl] at one
      split at one <;> omega
    exact h.quiet live stack p.logHookActive p.attached leaves rfl rfl below

theorem Sound.callback_advance (h : p.Sound) (live : p.terminated = false) {n : EventNotice}
    {pc : CallbackPc} {rest : List Frame} (stack : (p.threads t).stack = .callback n pc :: rest)
    (wants : (Frame.callback n pc).wants = none) : (p.advance t (.callback n pc) rest).Sound := by
  have ok := ok_of_stack h stack
  have alone := ok.alone nofun
  have ledger := h.ledger t
  rw [stack] at ledger
  cases pc with
  | wantLog | wantPub => cases wants
  | clear =>
    have next := ok.replace (g := .callback n .wantPub) rfl rfl
    refine h.releases live (m := .log) stack rfl rfl next alone.held ?_ rfl (Or.inl rfl)
      (Session.kept_empty p.session) ledger
      (fun u hu => ⟨rfl, rfl, rfl⟩) h.dropless rfl
    simpa [Frame.usesSocket] using alone.usesSocket
  | send =>
    unfold advance
    dsimp only
    split
    next opened =>
      exact h.quiet live stack p.logHookActive p.attached (ok.replace rfl rfl) rfl rfl
        fun _ _ _ => opened
    next closed =>
      exact ⟨h.threads, h.owners, h.sockets, h.kept, h.ledger, h.dropless,
        fun _ => ⟨by simpa using closed, t, n, by simp [stack]⟩⟩
  | sending =>
    refine h.releases live (m := .pub) stack rfl rfl (ok.pop rfl) alone.held alone.usesSocket rfl
      (Or.inl rfl) h.kept ?_ (fun u hu => ?_) h.dropless rfl
    · change p.appendedBy t = (p.publish t n.1).publishedBy t ++ p.droppedBy t ++ unsentOf rest
      have before : p.appendedBy t = p.publishedBy t ++ p.droppedBy t ++ unsentOf rest := ledger
      simp [before, n.2]
    · exact ⟨rfl, (publishedBy_publish p t u _).trans (by simp [n.2]), rfl⟩

theorem Sound.stop_advance (h : p.Sound) (live : p.terminated = false) {pc : StopPc}
    {rest : List Frame} (stack : (p.threads t).stack = .stop pc :: rest)
    (wants : (Frame.stop pc).wants = none) :
    (p.advance t (.stop pc) rest).Sound := by
  have ok := ok_of_stack h stack
  have below := h.below stack
  have ledger := h.ledger t
  rw [stack] at ledger
  cases pc with
  | wantPub => cases wants
  | deactivate =>
    refine h.quiet live stack false p.attached (ok.replace rfl rfl) rfl rfl ?_
    simpa [Frame.usesSocket] using below
  | detach =>
    refine h.quiet live stack p.logHookActive false (ok.replace rfl rfl) rfl rfl ?_
    simpa [Frame.usesSocket] using below
  | close =>
    have alone := ok.alone nofun
    exact h.releases live (m := .pub) stack rfl rfl (ok.pop rfl) alone.held alone.usesSocket rfl
      (Or.inr ⟨rfl, rfl⟩) h.kept ledger (fun u hu => ⟨rfl, rfl, rfl⟩) nofun rfl

theorem Sound.query_advance (h : p.Sound) (live : p.terminated = false) {pc : QueryPc}
    {rest : List Frame} (stack : (p.threads t).stack = .query pc :: rest)
    (wants : (Frame.query pc).wants = none) :
    (p.advance t (.query pc) rest).Sound := by
  have ok := ok_of_stack h stack
  have alone := ok.alone nofun
  have ledger := h.ledger t
  rw [stack] at ledger
  cases pc with
  | wantLog => cases wants
  | read =>
    exact h.releases live (m := .log) stack rfl rfl (ok.pop rfl) alone.held alone.usesSocket rfl
      (Or.inl rfl) h.kept ledger (fun u hu => ⟨rfl, rfl, rfl⟩) h.dropless rfl

theorem Sound.advance (h : p.Sound) (live : p.terminated = false) {f : Frame} {rest : List Frame}
    (stack : (p.threads t).stack = f :: rest) (wants : f.wants = none) :
    (p.advance t f rest).Sound := by
  cases f with
  | hook line pc => exact h.hook_advance live stack wants
  | callback n pc => exact h.callback_advance live stack wants
  | stop pc => exact h.stop_advance live stack wants
  | query pc => exact h.query_advance live stack wants

/-- A call from outside of the plugin. -/
theorem Sound.enters (h : p.Sound) (live : p.terminated = false) {f : Frame}
    (empty : (p.threads t).stack.isEmpty = true) (hook : f.isHook = false) (free : f.holds = none) :
    (p.setStack t [f]).Sound := by
  have stack : (p.threads t).stack = [] := List.isEmpty_iff.mp empty
  have unguarded := Frame.guarded_of_not_hook hook
  have unused : f.usesSocket = false := by
    by_contra uses
    rw [Frame.holds_of_usesSocket (by simpa using uses)] at free
    cases free
  have ok : Thread.Ok ⟨[f], (p.threads t).inHook⟩ := by
    have guarded := (h.threads t).guarded
    rw [stack] at guarded
    exact ⟨trivial, (List.countP_cons_of_neg (by simp [unguarded])).trans guarded⟩
  refine h.quiet live stack p.logHookActive p.attached ok ?_ ?_ ?_
  · simp [heldBy, free]
  · simp [unsentOf, Frame.unsent_of_not_hook hook]
  · simp [unused]

theorem Sound.logs (h : p.Sound) (live : p.terminated = false) {line : Bytes} {stack : List Frame}
    (hs : (p.threads t).stack = stack) (logs : ∀ g ∈ stack.head?, g.logs = true) :
    (p.setStack t (.hook line .original :: stack)).Sound := by
  refine h.quiet live hs p.logHookActive p.attached ((ok_of_stack h hs).push logs) rfl rfl ?_
  simpa [Frame.usesSocket, ← hs] using h.sockets t

/-- A thread that goes on takes the mutex it wants or takes a step of its innermost call. -/
theorem step_continues (hs : p.step (.continues t) = some p') :
    ∃ f rest, (p.threads t).stack = f :: rest ∧
      ((∃ m, f.wants = some m ∧ p.owner m = none ∧
        p' = (p.setOwner m (some t)).setStack t (f.locked :: rest)) ∨
      f.wants = none ∧ p' = p.advance t f rest) := by
  unfold Process.step at hs
  split at hs
  · cases hs
  dsimp only at hs
  split at hs
  · cases hs
  next f rest stack =>
    refine ⟨f, rest, stack, ?_⟩
    split at hs
    next m wants =>
      split at hs <;> cases hs
      next free => exact Or.inl ⟨m, wants, free, rfl⟩
    next wants =>
      cases hs
      exact Or.inr ⟨wants, rfl⟩

theorem Sound.step (h : p.Sound) {move : Move τ} (whole : p.step move = some p') : p'.Sound := by
  have hs := whole
  unfold Process.step at hs
  split at hs
  · cases hs
  next running =>
  have live : p.terminated = false := by simpa using running
  cases move with
  | logs t line =>
    dsimp only at hs
    split at hs
    next stack =>
      split at hs <;> cases hs
      exact h.logs live stack (by simp)
    next f rest stack =>
      split at hs <;> cases hs
      next logged => exact h.logs live stack (by simpa using (Bool.and_eq_true_iff.mp logged).2)
  | event t n =>
    dsimp only at hs
    split at hs <;> cases hs
    next empty =>
    refine h.enters live empty rfl ?_
    unfold entry
    split <;> rfl
  | stop t =>
    dsimp only at hs
    split at hs <;> cases hs
    next empty => exact h.enters live empty rfl rfl
  | query t =>
    dsimp only at hs
    split at hs <;> cases hs
    next empty => exact h.enters live empty rfl rfl
  | continues t =>
    obtain ⟨f, rest, stack, ⟨m, wants, free, rfl⟩ | ⟨wants, rfl⟩⟩ := step_continues whole
    · exact h.locks live stack wants free
    · exact h.advance live stack wants

/-- The plugin as it is loaded: whether the hook could be installed and the socket bound. -/
def loaded (hooked opened : Bool) : Process τ :=
  { logHookActive := hooked, attached := hooked, opened }

theorem sound_loaded (hooked opened : Bool) : (loaded hooked opened : Process τ).Sound where
  threads _ := ⟨trivial, rfl⟩
  owners _ _ := by simp [loaded, heldBy]
  sockets _ _ hf := by simp [loaded] at hf
  kept := Session.kept_empty {}
  ledger _ := rfl
  dropless _ := rfl
  terminated := nofun

theorem sound_run {hooked opened : Bool} {moves : List (Move τ)}
    (run : Schedule.run step (loaded hooked opened) moves = some p) : p.Sound :=
  Schedule.run_invariant (fun _ _ _ h hs => h.step hs) (sound_loaded hooked opened) run

/-- What holds at any moment of the threads that call into the plugin. -/
structure Safe (p : Process τ) : Prop where
  /-- No two threads hold one mutex. -/
  exclusive : ∀ m t u, m ∈ heldBy (p.threads t).stack → m ∈ heldBy (p.threads u).stack → t = u
  /-- A thread that waits for a mutex holds none. -/
  waits : ∀ t f rest m, (p.threads t).stack = f :: rest → f.wants = some m →
    heldBy (p.threads t).stack = []
  /-- The socket is not closed while a send is going on. -/
  sockets : ∀ t, ∀ f ∈ (p.threads t).stack, f.usesSocket = true → p.opened = true
  /-- The hook is entered again on a thread exactly when it is not in the guarded part of it. -/
  inHook : ∀ t, (p.threads t).inHook = true ↔ ∃ f ∈ (p.threads t).stack, f.guarded = true
  /-- Each line of a thread is sent once, in the order in which the thread logged them, and none
  is given up before the socket is closed. -/
  ledger : ∀ t, ∃ unsent, unsent.length ≤ 1 ∧
    p.appendedBy t = p.publishedBy t ++ p.droppedBy t ++ unsent ∧
    ((p.threads t).stack = [] → unsent = [])
  dropless : p.opened = true → ∀ t, p.droppedBy t = []
  /-- The buffer is as if the threads had taken turns. -/
  kept : p.session.Kept
  /-- Only a callback that comes after the socket was closed brings the process down. -/
  terminated : p.terminated = true →
    p.opened = false ∧ ∃ t n, Frame.callback n .send ∈ (p.threads t).stack

theorem Sound.heldBy_of_wants (h : p.Sound) {f : Frame} {rest : List Frame} {m : Mutex}
    (stack : (p.threads t).stack = f :: rest) (wants : f.wants = some m) :
    heldBy (p.threads t).stack = [] := by
  have alone := (ok_of_stack h stack).alone (Thread.guarded_of_wants wants)
  rw [stack, heldBy, List.filterMap_cons_none (Frame.locks_of_wants wants).held]
  exact alone.held

theorem Sound.length_unsent (h : p.Sound) (t : τ) :
    (unsentOf (p.threads t).stack).length ≤ 1 := by
  have guarded := (h.threads t).guarded
  have fewer : (unsentOf (p.threads t).stack).length ≤
      (p.threads t).stack.countP Frame.guarded := by
    rw [unsentOf, List.length_filterMap_eq_countP]
    exact List.countP_mono_left fun f _ => Frame.guarded_of_unsent
  split at guarded <;> omega

theorem Sound.safe (h : p.Sound) : p.Safe where
  exclusive m t u ht hu := by
    have mine := (h.owners m t).mpr ht
    rw [(h.owners m u).mpr hu] at mine
    exact (Option.some.inj mine).symm
  waits t f rest m stack wants := h.heldBy_of_wants stack wants
  sockets := h.sockets
  inHook t := by
    have counted := (h.threads t).guarded
    rw [← List.countP_pos_iff, counted]
    cases (p.threads t).inHook <;> simp
  ledger t := ⟨_, h.length_unsent t, h.ledger t, fun idle => by simp [idle, unsentOf]⟩
  dropless opened t := by simp [droppedBy, h.dropless opened]
  kept := h.kept
  terminated := h.terminated

end Process

/-- The hook, the callbacks, the stop and the queries are safe on any number of threads and in
every interleaving of their steps, with hooks called from inside of each of them. -/
theorem threads_safe {τ : Type} [DecidableEq τ] (hooked opened : Bool) (moves : List (Move τ))
    (p : Process τ)
    (run : Schedule.run Process.step (Process.loaded hooked opened) moves = some p) : p.Safe :=
  (Process.sound_run run).safe

/-- A line is logged on one thread while another one stops the plugin. -/
def stopDuringLog : List (Move Bool) :=
  [.logs true [65], .continues true, .continues true, .continues true, .stop false,
    .continues true, .continues true, .continues false, .continues false, .continues false,
    .continues false, .continues true, .continues true]

theorem stop_during_log_safe :
    ∃ p, Schedule.run Process.step (Process.loaded true true) stopDuringLog = some p ∧ p.Safe :=
  ⟨_, rfl, threads_safe true true stopDuringLog _ rfl⟩

end XAuto
