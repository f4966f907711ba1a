import XAuto.SessionFailure

namespace XAuto

open Effect

variable {W : Type}

def Usable (port : Nat) : Prop := 1 ≤ port ∧ port ≤ 65535

instance neZero_draws : NeZero 0x4000 := ⟨by decide⟩

/-- A platform on which everything succeeds. -/
def Platform.willing : Platform W where
  createSocket _ w := (true, w)
  bind _ _ w := (true, w)
  distrib w := (0, w)
  openSessionFile _ w := (true, w)
  removeSessionFile _ w := (true, w)

namespace ServerM

/-- A session is acquired on the configured ports, as numbers, or not at all. -/
structure HonoursPorts (reqPort pubPort : Nat) (acquired : Bool) (s' : ServerState W) : Prop where
  honoured : acquired = true → Usable reqPort ∧ Usable pubPort ∧
    s'.binds.map (fun b => (b.socket, b.port.toNat)) = [(.rep, reqPort), (.pub, pubPort)] ∧
    ∃ address, s'.sessionFile =
      some [bytes (toString reqPort), bytes (toString pubPort), address]
  refused : ¬(Usable reqPort ∧ Usable pubPort) → acquired = false ∧
    ∀ b ∈ s'.binds, b.bound = true →
      b.port.toNat = if b.socket = .rep then reqPort else pubPort

section Remote

variable {bridge : Bridge W} {store : W → Store} {text : SettingText} {maxSize : Nat}

theorem config_eq (hs : bridge.Stores store text maxSize) (s : ServerState W) :
    config bridge s = (store s.world).effective text := by
  rw [config, hs.effective_eq, hs.getPid]

theorem config_remote (hs : bridge.Stores store text maxSize) {w : W}
    (remote : (store w).string "Mode" = some (bytes "remote")) :
    config bridge ({ world := w } : ServerState W) =
      .remote (addressOrAny ((store w).string "BindAddress"))
        ((store w).port text "ReqRepPort" 27066).toUInt16
        ((store w).port text "PubSubPort" 27067).toUInt16 := by
  rw [config_eq hs]
  exact if_pos remote

/-- A stored number is never taken for a port as zero. -/
theorem portOr_pos {default : UInt64} (h : default ≠ 0) (port : UInt64) :
    1 ≤ (portOr default port).toNat := by
  have nonzero : portOr default port ≠ 0 := by
    unfold portOr
    split
    · exact h
    · assumption
  by_contra hlt
  have zero : (portOr default port).toNat = 0 := by omega
  exact nonzero (UInt64.toNat_inj.mp zero)

theorem toUInt16_toNat {port : UInt64} (h : port.toNat ≤ 65535) :
    port.toUInt16.toNat = port.toNat := by
  rw [UInt64.toNat_toUInt16]
  omega

/-- When everything succeeds, the narrowed ports are bound. -/
theorem willing_binds {s : ServerState W} {address : Bytes} {reqPort pubPort : UInt16}
    (hconfig : config bridge s = .remote address reqPort pubPort) (fuel : Nat) :
    wp (acquireSession bridge .willing fuel) (fun acquired s' => acquired = true ∧
        s'.binds = s.binds ++ [⟨.rep, address, reqPort, true⟩, ⟨.pub, address, pubPort, true⟩])
      (fun _ _ => False) s := by
  obtain ⟨t, ready, -, heq⟩ := acquireSockets_eq bridge s
  rw [acquireSession_eq, wp_bind]
  refine wp_of_eq (heq .willing fuel) ?_
  rw [hconfig]
  show true = true ∧ t.binds ++ [⟨.rep, address, reqPort, true⟩] ++
    [⟨.pub, address, pubPort, true⟩] = _
  rw [ready.binds, List.append_assoc]
  exact ⟨rfl, rfl⟩

theorem usable_of_honoursPorts {w : W} {address : Bytes} {reqPort pubPort : UInt16} {req pub : Nat}
    (hconfig : config bridge ({ world := w } : ServerState W) = .remote address reqPort pubPort)
    {fuel : Nat} (honours : wp (acquireSession bridge .willing fuel) (HonoursPorts req pub)
      (fun _ _ => True) { world := w }) : Usable req ∧ Usable pub := by
  have usable : wp (acquireSession bridge .willing fuel) (fun _ _ => Usable req ∧ Usable pub)
      (fun _ _ => False) { world := w } := by
    refine wp_mono (wp_and honours (willing_binds hconfig fuel)) (fun acquired s' h => ?_)
      fun _ _ h => h.2
    obtain ⟨honoursPorts, acquired, -⟩ := h
    obtain ⟨req, pub, -⟩ := honoursPorts.honoured acquired
    exact ⟨req, pub⟩
  obtain ⟨acquired, s', h⟩ := usable.returns
  exact usable.ok h

theorem honoursPorts_of_usable {w : W} {address : Bytes} {reqPort pubPort : UInt64}
    (hconfig : config bridge ({ world := w } : ServerState W) =
      .remote address reqPort.toUInt16 pubPort.toUInt16)
    (req : Usable reqPort.toNat) (pub : Usable pubPort.toNat) (os : Platform W) (fuel : Nat) :
    wp (acquireSession bridge os fuel) (HonoursPorts reqPort.toNat pubPort.toNat)
      (fun _ _ => True) { world := w } := by
  have failed (s' : ServerState W) : HonoursPorts reqPort.toNat pubPort.toNat false s' :=
    ⟨fun h => (Bool.false_ne_true h).elim, fun h => absurd ⟨req, pub⟩ h⟩
  refine wp_acquireSession_cases (Guards.trivial os _) fuel (fun s' _ => failed s')
    fun t q s' bindings => ?_
  have follows := bindings.follows
  rw [hconfig] at follows
  have hq : q = ⟨address, [], reqPort.toUInt16, [], pubPort.toUInt16⟩ := follows
  have binds := bindings.established.binds
  have repPort := bindings.established.repPort
  have pubPort' := bindings.established.pubPort
  rw [hq] at binds repPort pubPort'
  rw [bindings.ready.binds] at binds
  rw [wp_writeSessionFile]
  split
  · refine ⟨fun _ => ⟨req, pub, ?_, s'.bindAddress, ?_⟩, fun h => absurd ⟨req, pub⟩ h⟩
    · show s'.binds.map _ = _
      rw [binds]
      simp [Acquisition.attempts, toUInt16_toNat req.2, toUInt16_toNat pub.2]
    · show some (sessionLines s') = _
      rw [sessionLines, repPort, pubPort', toUInt16_toNat req.2, toUInt16_toNat pub.2]
  · exact failed _

/-- In remote mode the configured ports are honoured, whatever the binds and the session file come
to, exactly when neither is above 65535. -/
theorem remote_ports_iff (hs : bridge.Stores store text maxSize) {w : W}
    (remote : (store w).string "Mode" = some (bytes "remote")) :
    (∀ (os : Platform W) (fuel : Nat), wp (acquireSession bridge os fuel)
      (HonoursPorts ((store w).port text "ReqRepPort" 27066).toNat
        ((store w).port text "PubSubPort" 27067).toNat)
      (fun _ _ => True) { world := w }) ↔
    ((store w).port text "ReqRepPort" 27066).toNat ≤ 65535 ∧
      ((store w).port text "PubSubPort" 27067).toNat ≤ 65535 := by
  have hconfig := config_remote hs remote
  constructor
  · intro honours
    obtain ⟨req, pub⟩ := usable_of_honoursPorts hconfig (honours .willing 0)
    exact ⟨req.2, pub.2⟩
  · rintro ⟨hreq, hpub⟩ os fuel
    have req : 1 ≤ ((store w).port text "ReqRepPort" 27066).toNat := portOr_pos (by decide) _
    have pub : 1 ≤ ((store w).port text "PubSubPort" 27067).toNat := portOr_pos (by decide) _
    exact honoursPorts_of_usable hconfig ⟨req, hreq⟩ ⟨pub, hpub⟩ os fuel

end Remote

/-- Settings that ask for remote mode and nothing else, and the same with a port of 65616. -/
def remoteStore : Store := Store.empty.set (bytes "XAutomate") (bytes "Mode") (bytes "remote")

def wideStore : Store := remoteStore.set (bytes "XAutomate") (bytes "ReqRepPort") (bytes "10050")

theorem remote_ports_default :
    (∀ (os : Platform Store) (fuel : Nat),
      wp (acquireSession (storeBridge .hex 0x10000) os fuel)
        (HonoursPorts (remoteStore.port .hex "ReqRepPort" 27066).toNat
          (remoteStore.port .hex "PubSubPort" 27067).toNat)
        (fun _ _ => True) { world := remoteStore }) ↔
    (remoteStore.port .hex "ReqRepPort" 27066).toNat ≤ 65535 ∧
      (remoteStore.port .hex "PubSubPort" 27067).toNat ≤ 65535 :=
  remote_ports_iff (storeBridge_stores .hex 0x10000) (by decide)

/-- A REQ/REP port of 65616 is bound as port 80. -/
theorem wide_port_is_narrowed :
    ¬∀ (st : Store), st.string "Mode" = some (bytes "remote") →
      ∀ (os : Platform Store) (fuel : Nat),
        wp (acquireSession (storeBridge .hex 0x10000) os fuel)
          (HonoursPorts (st.port .hex "ReqRepPort" 27066).toNat
            (st.port .hex "PubSubPort" 27067).toNat)
          (fun _ _ => True) { world := st } := by
  intro h
  have honours := h wideStore (by decide) .willing 0
  have port : (wideStore.port .hex "ReqRepPort" 27066).toNat = 65616 := by decide
  have usable : Usable (wideStore.port .hex "ReqRepPort" 27066).toNat :=
    ((honours.ok rfl).honoured rfl).1
  rw [port] at usable
  exact absurd usable.2 (by decide)

end ServerM

end XAuto
