import XAuto.RemotePorts

namespace XAuto

open Effect

variable {W : Type}

/-- A platform on which an endpoint that the REQ/REP socket has bound is refused to the other one
for as long as the sockets are being bound. Port 0 is the exception: it is a new port each time. -/
structure Platform.Exclusive (os : Platform W) (held : W → Bytes → Prop) : Prop where
  refuses : ∀ e w, held w e → (os.bind .pub e w).1 = false
  holds : ∀ address port w, port ≠ 0 →
    (os.bind .rep (ServerM.endpoint address port) w).1 = true →
      held (os.bind .rep (ServerM.endpoint address port) w).2 (ServerM.endpoint address port)
  created : ∀ e w, held w e → held (os.createSocket .pub w).2 e
  drawn : ∀ e w, held w e → held (os.distrib w).2 e
  tried : ∀ e e' w, held w e → held (os.bind .pub e' w).2 e

/-- `std::endl`. -/
def newline : UInt8 := 10

/-- A platform on which no endpoint is bound whose host name holds the end of a line. -/
def Platform.BindsLines (os : Platform W) : Prop :=
  ∀ a e w, (os.bind a e w).1 = true → newline ∉ e

namespace ServerM

variable {bridge : Bridge W} {os : Platform W}

theorem Guards.of_exclusive {held : W → Bytes → Prop} (ho : os.Exclusive held) (address : Bytes) :
    Guards os address fun port w => port ≠ 0 → held w (endpoint address port) where
  bound port w hok nonzero := ho.holds address port w nonzero hok
  created _ w h nonzero := ho.created _ w (h nonzero)
  drawn _ w h nonzero := ho.drawn _ w (h nonzero)
  tried _ e w h nonzero := ho.tried _ e w (h nonzero)

/-- No attempt has failed in remote mode. In local mode the port of a failed attempt is in the
session file only as the REQ/REP port, tried for the other socket as well, or because it was drawn
again. -/
def FailuresUntold (s : ServerState W) (q : Acquisition) : Effective → Prop
  | .remote .. => ∀ b ∈ s.binds, b.bound = true
  | .localhost => ∀ before b after, s.binds = before ++ b :: after → b.bound = false →
      ∀ lines ∈ s.sessionFile, bytes (toString b.port.toNat) ∈ lines →
        b.socket = .pub ∧ b.port = q.reqPort ∨
          ∃ b' ∈ after, b'.bound = true ∧ b'.port = b.port

/-- The session file and the sockets of a session agree, which was to be bound where `config`
says. -/
structure Truthful (config : Effective) (s : ServerState W) (q : Acquisition) : Prop where
  address : q.address = config.address
  file : s.sessionFile = some
    [bytes (toString q.reqPort.toNat), bytes (toString q.pubPort.toNat), q.address]
  lines : ∀ lines ∈ s.sessionFile, ∀ line ∈ lines, newline ∉ line
  distinct : q.reqPort ≠ q.pubPort
  rep : s.repSocket = .bound q.address q.reqPort
  pub : s.pubSocket = .bound q.address q.pubPort
  succeeded : s.binds.filter (·.bound) =
    [⟨.rep, q.address, q.reqPort, true⟩, ⟨.pub, q.address, q.pubPort, true⟩]
  failed : FailuresUntold s q config

/-- The session file was opened under the process id that a release removes it by. -/
structure Releasable (os : Platform W) (s : ServerState W) : Prop where
  opened : ∃ w, (os.openSessionFile s.sessionPid w).1 = true ∧
    s.world = (os.openSessionFile s.sessionPid w).2
  released : ∀ w, wp (releaseSession os) (fun _ t => t.Down ∧
      t.world = (os.removeSessionFile s.sessionPid w).2 ∧
      ((os.removeSessionFile s.sessionPid w).1 = true → t.sessionFile = none))
    (fun _ _ => False) (s.moveTo w)

theorem wp_releaseSession (s : ServerState W) :
    wp (releaseSession os) (fun _ t => t.Down ∧
        t.world = (os.removeSessionFile s.sessionPid s.world).2 ∧
        ((os.removeSessionFile s.sessionPid s.world).1 = true → t.sessionFile = none))
      (fun _ _ => False) s := by
  unfold releaseSession close
  simp only [wp_bind, wp_modify, wp_get, wp_call, wp_ite, wp_pure]
  split
  · refine ⟨fun a => ?_, rfl, fun _ => rfl⟩
    cases a <;> rfl
  · next kept =>
    refine ⟨fun a => ?_, rfl, fun removed => absurd removed kept⟩
    cases a <;> rfl

theorem filter_misses {misses : List BindAttempt} {a : Socket} {address : Bytes}
    (missed : ∀ b ∈ misses, b.socket = a ∧ b.address = address ∧ b.bound = false) :
    misses.filter (·.bound) = [] := by
  rw [List.filter_eq_nil_iff]
  intro b hb
  rw [(missed b hb).2.2]
  exact Bool.false_ne_true

theorem Established.succeeded {I : UInt16 → W → Prop} {s s' : ServerState W} {q : Acquisition}
    (h : Established os I s s' q) : q.attempts.filter (·.bound) =
      [⟨.rep, q.address, q.reqPort, true⟩, ⟨.pub, q.address, q.pubPort, true⟩] := by
  simp only [Acquisition.attempts, List.filter_append, filter_misses h.repMissed,
    filter_misses h.pubMissed]
  rfl

/-- The second socket cannot have been bound to the port of the first. -/
theorem Established.distinct {held : W → Bytes → Prop} (ho : os.Exclusive held)
    {address : Bytes} {s s' : ServerState W} {q : Acquisition} (haddress : address = q.address)
    (h : Established os (fun port w => port ≠ 0 → held w (endpoint address port)) s s' q)
    (nonzero : q.reqPort ≠ 0) : q.reqPort ≠ q.pubPort := by
  intro same
  obtain ⟨w, hheld, hok⟩ := h.second
  have refused := ho.refuses _ w (hheld nonzero)
  rw [haddress, same, hok] at refused
  exact Bool.false_ne_true refused.symm

/-- The bound port is a port and the bound address the configured one. -/
theorem follows_effective {st : Store} {text : SettingText} {q : Acquisition}
    (follows : q.Follows (st.effective text))
    (usable : st.string "Mode" = some (bytes "remote") →
      Usable (st.port text "ReqRepPort" 27066).toNat) :
    q.reqPort ≠ 0 ∧ q.address = (st.effective text).address := by
  unfold Store.effective at follows ⊢
  by_cases remote : st.string "Mode" = some (bytes "remote")
  · rw [if_pos remote] at follows ⊢
    have hq : q = _ := follows
    have reqPort := usable remote
    refine ⟨fun zero => ?_, by rw [hq]; rfl⟩
    rw [hq] at zero
    have nat := congrArg UInt16.toNat zero
    rw [toUInt16_toNat reqPort.2] at nat
    have positive := reqPort.1
    have zeroNat : (0 : UInt16).toNat = 0 := rfl
    omega
  · rw [if_neg remote] at follows ⊢
    exact ⟨follows.2, follows.1⟩

/-- An element that is not the last one stands before it. -/
theorem mem_after_of_ne {α : Type} {xs before after : List α} {x last : α}
    (split : xs ++ [last] = before ++ x :: after) (ne : x ≠ last) : last ∈ after := by
  rcases List.eq_nil_or_concat after with rfl | ⟨middle, y, rfl⟩
  · exact absurd (List.append_inj' split rfl).2 (by simpa using ne.symm)
  · have parts : xs ++ [last] = (before ++ x :: middle) ++ [y] := by simpa using split
    obtain rfl : last = y := List.singleton_inj.mp (List.append_inj' parts rfl).2
    simp

section Failures

variable {q : Acquisition} {before after : List BindAttempt} {b : BindAttempt}

/-- A failed attempt is followed by the successful one of the PUB/SUB socket. -/
theorem Acquisition.pub_follows (split : q.attempts = before ++ b :: after)
    (failed : b.bound = false) : ⟨.pub, q.address, q.pubPort, true⟩ ∈ after := by
  refine mem_after_of_ne ((List.append_assoc ..).trans split) ?_
  rintro rfl
  exact Bool.false_ne_true failed.symm

/-- A failed attempt is one of the PUB/SUB socket or followed by the successful one of the other. -/
theorem Acquisition.rep_follows
    (pubMissed : ∀ b ∈ q.pubMisses, b.socket = .pub ∧ b.address = q.address ∧ b.bound = false)
    (split : q.attempts = before ++ b :: after) (failed : b.bound = false) :
    b.socket = .pub ∨ ⟨.rep, q.address, q.reqPort, true⟩ ∈ after := by
  have of_pub (h : b ∈ q.pubMisses ++ [⟨.pub, q.address, q.pubPort, true⟩]) : b.socket = .pub := by
    rcases List.mem_append.mp h with miss | hit
    · exact (pubMissed b miss).1
    · rw [List.mem_singleton.mp hit]
  rcases List.append_eq_append_iff.mp split with ⟨skipped, -, rest⟩ | ⟨skipped, reps, rest⟩
  · exact Or.inl (of_pub (by simp [rest]))
  · cases skipped with
    | nil =>
      rw [List.nil_append] at rest
      exact Or.inl (of_pub (rest ▸ List.mem_cons_self))
    | cons first skipped =>
      obtain ⟨rfl, rfl⟩ := List.cons.inj rest
      refine Or.inr (List.mem_append_left _ (mem_after_of_ne reps ?_))
      rintro rfl
      exact Bool.false_ne_true failed.symm

theorem not_mem_toString {c : UInt8} (hc : ¬(48 ≤ c ∧ c ≤ 57)) (n : Nat) :
    c ∉ bytes (toString n) := by
  rw [bytes_toString]
  exact fun h => hc (Decimal.digit_of_mem_text h)

theorem port_eq_of_toString_eq {port port' : UInt16}
    (same : bytes (toString port.toNat) = bytes (toString port'.toNat)) : port = port' := by
  rw [bytes_toString, bytes_toString] at same
  have values := congrArg Decimal.value same
  rw [Decimal.value_text, Decimal.value_text] at values
  exact UInt16.toNat_inj.mp values

/-- Where the sockets are bound decides which failed attempts there can have been. -/
theorem Established.failuresUntold {I : UInt16 → W → Prop} {s t s' : ServerState W}
    {config : Effective} (h : Established os I s t q) (follows : q.Follows config)
    (binds : s'.binds = q.attempts) (file : s'.sessionFile = some
      [bytes (toString q.reqPort.toNat), bytes (toString q.pubPort.toNat), q.address]) :
    FailuresUntold s' q config := by
  cases config with
  | remote address reqPort pubPort =>
    obtain rfl : q = _ := follows
    intro b hb
    rw [binds] at hb
    have two : b = ⟨.rep, address, reqPort, true⟩ ∨ b = ⟨.pub, address, pubPort, true⟩ := by
      simpa [Acquisition.attempts] using hb
    rcases two with rfl | rfl <;> rfl
  | localhost =>
    intro before b after split failed lines hlines told
    rw [binds] at split
    obtain rfl : _ = lines := Option.some.inj (file.symm.trans hlines)
    have pub := Acquisition.pub_follows split failed
    rcases List.mem_cons.mp told with req | rest
    · have req := port_eq_of_toString_eq req
      rcases Acquisition.rep_follows h.pubMissed split failed with second | rep
      · exact Or.inl ⟨second, req⟩
      · exact Or.inr ⟨_, rep, rfl, req.symm⟩
    · rcases List.mem_cons.mp rest with pubPort | address
      · exact Or.inr ⟨_, pub, rfl, (port_eq_of_toString_eq pubPort).symm⟩
      · -- `localhost` is not the text of a port
        have letter : (108 : UInt8) ∈ bytes (toString b.port.toNat) := by
          rw [List.mem_singleton.mp address, follows.1]
          decide
        exact absurd letter (not_mem_toString (by decide) _)

end Failures

/-- Neither the ports nor an address that has been bound hold the end of a line. -/
theorem Established.single_lines {I : UInt16 → W → Prop} {s s' : ServerState W} {q : Acquisition}
    (ha : os.BindsLines) (h : Established os I s s' q) :
    ∀ line ∈ [bytes (toString q.reqPort.toNat), bytes (toString q.pubPort.toNat), q.address],
      newline ∉ line := by
  obtain ⟨w, -, bound⟩ := h.second
  have whole := ha _ _ _ bound
  intro line hline
  rcases List.mem_cons.mp hline with rfl | hline
  · exact not_mem_toString (by decide) _
  rcases List.mem_cons.mp hline with rfl | hline
  · exact not_mem_toString (by decide) _
  · rw [List.mem_singleton.mp hline]
    intro inside
    exact whole (by simp [endpoint, inside])

/-- Writing the session file records the ports and the address of the sockets. -/
theorem wp_writeSessionFile_truthful {held : W → Bytes → Prop} (ho : os.Exclusive held)
    (ha : os.BindsLines) {s t s' : ServerState W} {q : Acquisition} {address : Bytes}
    (fresh : s.binds = []) (bindings : Bindings bridge os
      (fun port w => port ≠ 0 → held w (endpoint address port)) s t s' q)
    (haddress : address = q.address) (nonzero : q.reqPort ≠ 0)
    (configured : q.address = (config bridge s).address) :
    wp (writeSessionFile os)
      (fun acquired s'' => acquired = true →
        (∃ q, Truthful (config bridge s) s'' q) ∧ Releasable os s'')
      (fun _ _ => True) s' := by
  have established := bindings.established
  rw [wp_writeSessionFile]
  split
  · next opened =>
    intro _
    have binds : s'.binds = q.attempts := by
      rw [established.binds, bindings.ready.binds, fresh, List.nil_append]
    have lines : sessionLines s' =
        [bytes (toString q.reqPort.toNat), bytes (toString q.pubPort.toNat), q.address] := by
      rw [sessionLines, established.repPort, established.pubPort, established.address,
        bindings.address]
    have file : some (sessionLines s') = some _ := congrArg some lines
    have single : ∀ lines ∈ some (sessionLines s'), ∀ line ∈ lines, newline ∉ line := by
      rintro _ ⟨rfl⟩
      rw [lines]
      exact established.single_lines ha
    have succeeded := established.succeeded
    rw [← binds] at succeeded
    have failed (t : ServerState W) (hbinds : t.binds = s'.binds)
        (hfile : t.sessionFile = some (sessionLines s')) :
        FailuresUntold t q (config bridge s) :=
      established.failuresUntold bindings.follows (hbinds.trans binds) (hfile.trans file)
    refine ⟨⟨q, configured, file, single, established.distinct ho haddress nonzero,
      established.rep, established.pub, succeeded, failed _ rfl rfl⟩, ⟨s'.world, opened, rfl⟩,
      fun w => ?_⟩
    exact wp_releaseSession _
  · exact fun h => (Bool.false_ne_true h).elim

section Acquired

variable {store : W → Store} {text : SettingText} {maxSize : Nat} {held : W → Bytes → Prop}

/-- A session that is acquired has told the truth in its file, and can be released: in local mode
whatever is drawn and whatever fails, in remote mode for ports that are usable. -/
theorem session_file_truthful (hs : bridge.Stores store text maxSize) (ho : os.Exclusive held)
    (ha : os.BindsLines) {w : W} (usable : (store w).string "Mode" = some (bytes "remote") →
      Usable ((store w).port text "ReqRepPort" 27066).toNat ∧
        Usable ((store w).port text "PubSubPort" 27067).toNat) (fuel : Nat) :
    wp (acquireSession bridge os fuel) (fun acquired s' => acquired = true →
        (∃ q, Truthful ((store w).effective text) s' q) ∧ Releasable os s')
      (fun _ _ => True) { world := w } := by
  have hconfig : config bridge ({ world := w } : ServerState W) = (store w).effective text :=
    config_eq hs _
  refine wp_acquireSession_cases (Guards.of_exclusive ho _) fuel
    (fun s' _ h => (Bool.false_ne_true h).elim) fun t q s' bindings => ?_
  have follows := bindings.follows
  rw [hconfig] at follows
  obtain ⟨nonzero, haddress⟩ := follows_effective follows fun remote => (usable remote).1
  have written := wp_writeSessionFile_truthful ho ha rfl bindings (hconfig ▸ haddress.symm)
    nonzero (hconfig ▸ haddress)
  rwa [hconfig] at written

end Acquired

/-- A world of stored settings, ports still to be drawn and endpoints that are bound. -/
structure Desk where
  store : Store
  draws : List (Fin 0x4000)
  held : List Bytes

def deskBridge (text : SettingText) (maxSize : Nat) : Bridge Desk :=
  { Bridge.idle with
    bridgeSettingGet := fun section_ key w => (w.store (section_, key), w)
    bridgeSettingGetUint := fun section_ key w => ((w.store (section_, key)).bind text.toUint, w)
    bridgeSettingSet := fun section_ key value w =>
      if value.length < maxSize then (true, { w with store := w.store.set section_ key value })
      else (false, w)
    bridgeSettingSetUint := fun section_ key value w =>
      (true, { w with store := w.store.set section_ key (text.ofUint value) }) }

theorem deskBridge_stores (text : SettingText) (maxSize : Nat) :
    (deskBridge text maxSize).Stores Desk.store text maxSize := by
  refine ⟨fun _ => rfl, fun _ _ _ => rfl, fun _ _ _ => rfl, fun _ _ _ => rfl, fun _ _ _ => rfl, ?_,
    fun _ _ _ _ => rfl⟩
  intro section_ key value w
  simp only [deskBridge]
  split <;> rfl

/-- A platform on which a bind fails exactly for an endpoint that is bound already or not a line. -/
def deskPlatform : Platform Desk where
  createSocket _ w := (true, w)
  bind _ e w :=
    if e ∈ w.held ∨ newline ∈ e then (false, w) else (true, { w with held := e :: w.held })
  distrib w := (w.draws.headD 0, { w with draws := w.draws.tail })
  openSessionFile _ w := (true, w)
  removeSessionFile _ w := (true, w)

theorem deskPlatform_exclusive : deskPlatform.Exclusive fun w e => e ∈ w.held where
  refuses e w h := by simp [deskPlatform, h]
  holds address port w _ hok := by
    by_cases h : endpoint address port ∈ w.held ∨ newline ∈ endpoint address port
    · simp [deskPlatform, h] at hok
    · simp [deskPlatform, h]
  created _ _ h := h
  drawn _ _ h := h
  tried e e' w h := by
    by_cases h' : e' ∈ w.held ∨ newline ∈ e'
    · simp [deskPlatform, h', h]
    · simp [deskPlatform, h', h]

theorem deskPlatform_bindsLines : deskPlatform.BindsLines := by
  intro a e w bound inside
  simp [deskPlatform, inside] at bound

/-- The PUB/SUB socket first draws the port that the REQ/REP socket has. -/
def twiceDrawn : Desk := ⟨Store.empty, [0, 0, 1], []⟩

theorem twice_drawn_truthful :
    wp (acquireSession (deskBridge .hex 0x10000) deskPlatform 2)
      (fun acquired s' => acquired = true →
        (∃ q, Truthful (twiceDrawn.store.effective .hex) s' q) ∧ Releasable deskPlatform s')
      (fun _ _ => True) { world := twiceDrawn } :=
  session_file_truthful (deskBridge_stores .hex 0x10000) deskPlatform_exclusive
    deskPlatform_bindsLines (fun remote => by cases remote) 2

/-- Then the port of that failed attempt is in the session file, as the REQ/REP port. -/
theorem failed_port_in_session_file :
    ¬∀ (os : Platform Desk), os.Exclusive (fun w e => e ∈ w.held) → os.BindsLines → ∀ (w : Desk),
      w.store.string "Mode" ≠ some (bytes "remote") → ∀ (fuel : Nat),
        wp (acquireSession (deskBridge .hex 0x10000) os fuel)
          (fun acquired s' => acquired = true → ∀ b ∈ s'.binds, b.bound = false →
            ∀ lines ∈ s'.sessionFile, bytes (toString b.port.toNat) ∉ lines)
          (fun _ _ => True) { world := w } := by
  intro h
  have run := h deskPlatform deskPlatform_exclusive deskPlatform_bindsLines twiceDrawn (by decide) 2
  have absent := run.ok rfl rfl ⟨.pub, bytes "localhost", 0xc000, false⟩ (by decide) rfl _ rfl
  exact absent List.mem_cons_self

end ServerM

end XAuto
