import XAuto.Plugin
import XAuto.SessionConfig
import XAuto.Run

namespace XAuto

open Effect PluginM

variable {W : Type} {bridge : Bridge W} {os : Platform W}

section Steps

def DebugEvent.Publishes (bridge : Bridge W) (s : PluginState W) : DebugEvent → Prop
  | .menuEntry _ => False
  | .outputDebugString addr length =>
    (bridge.dbgMemRead addr length.toNat s.server.world).1.isSome = true
  | _ => True

/-- It returns when the socket has a handle, and throws otherwise; the sockets are left alone. -/
def Sends (s : PluginState W) (m : PluginM W Unit) : Prop :=
  wp m (fun _ s' => s.server.pubSocket ≠ .null ∧ s'.server.pubSocket = s.server.pubSocket)
    (fun _ s' => s.server.pubSocket = .null ∧ s'.server.pubSocket = s.server.pubSocket) s

theorem publish_sends (event : String) (fields : List Obj) (s : PluginState W) :
    Sends s (publish event fields) := by
  unfold Sends publish pubSend
  simp only [wp_bind, wp_get, wp_ite, wp_throw]
  split
  next h => exact ⟨h, trivial⟩
  next h => exact ⟨h, rfl⟩

@[simp] theorem PluginM.wp_call {α : Type} {Q : α → PluginState W → Prop}
    {E : Exn → PluginState W → Prop} {s : PluginState W} (f : W → α × W) :
    wp (PluginM.call f) Q E s ↔ Q (f s.server.world).1
      { s with server := s.server.moveTo (f s.server.world).2 } := Iff.rfl

theorem callback_sends {e : DebugEvent} {s : PluginState W} (h : e.Publishes bridge s) :
    Sends s (callback bridge e) := by
  cases e with
  | menuEntry hEntry => exact h.elim
  | outputDebugString addr length =>
    obtain ⟨membuf, hread⟩ := Option.isSome_iff_exists.mp h
    simp only [Sends, callback, cbDebugstr, wp_bind, PluginM.wp_call, hread]
    exact publish_sends _ _ { s with server := s.server.moveTo _ }
  | initDebug fileName => exact publish_sends _ _ { s with log := s.log.clear }
  | _ => exact publish_sends _ _ s

theorem callback_quiet {e : DebugEvent} {s : PluginState W} (h : ¬e.Publishes bridge s) :
    wp (callback bridge e) (fun _ s' => s'.server.pubSocket = s.server.pubSocket)
      (fun _ _ => False) s := by
  cases e with
  | menuEntry hEntry => exact rfl
  | outputDebugString addr length =>
    have hread := Option.not_isSome_iff_eq_none.mp h
    simp only [callback, cbDebugstr, wp_bind, PluginM.wp_call, hread]
    exact rfl
  | _ => exact absurd trivial h

theorem captureLog_spec (msg : Option Bytes) (s : PluginState W) :
    wp (captureLog msg) (fun _ s' => s'.server.pubSocket = s.server.pubSocket)
      (fun _ _ => False) s := by
  cases msg with
  | none => exact rfl
  | some line =>
    simp only [captureLog, wp_bind, wp_get]
    split
    · simp only [wp_tryCatch, wp_bind, wp_modify]
      exact wp_mono (publish_sends _ _ _) (fun _ s' h => h.2) fun _ s' h => h.2
    · exact rfl

theorem releaseSession_closes (s : ServerState W) :
    (final (ServerM.releaseSession os) s).pubSocket = .null := by
  have hrun : wp (ServerM.releaseSession os) (fun _ s' => s'.pubSocket = .null)
      (fun _ s' => s'.pubSocket = .null) s := by
    unfold ServerM.releaseSession ServerM.close
    simp only [wp_bind, wp_modify, wp_get, ServerM.wp_call, wp_ite]
    split <;> rfl
  exact wp_final.mp hrun

end Steps

section Runs

def after (bridge : Bridge W) (os : Platform W) (s : PluginState W) (o : Occurrence) :
    PluginState W :=
  final (deliver bridge os o) s

theorem after_pubSocket (s : PluginState W) (o : Occurrence) :
    (after bridge os s o).server.pubSocket =
      match o with
      | .pluginStop => .null
      | _ => s.server.pubSocket := by
  cases o with
  | pluginStop => exact releaseSession_closes s.server
  | logLine msg =>
    exact wp_final.mp (wp_mono (captureLog_spec msg s) (fun _ _ h => h) fun _ _ h => h.elim)
  | event e =>
    by_cases hp : e.Publishes bridge s
    · exact wp_final.mp (wp_mono (callback_sends hp) (fun _ _ h => h.2) fun _ _ h => h.2)
    · exact wp_final.mp (wp_mono (callback_quiet hp) (fun _ _ h => h) fun _ _ h => h.elim)

/-- The socket has a handle until the plugin is stopped, if it had one to start with. -/
theorem foldl_pubSocket_eq_null (run : List Occurrence) (s : PluginState W) :
    (run.foldl (after bridge os) s).server.pubSocket = .null ↔
      s.server.pubSocket = .null ∨ .pluginStop ∈ run := by
  induction run generalizing s with
  | nil => simp
  | cons o rest ih =>
    rw [List.foldl_cons, ih, after_pubSocket]
    cases o <;> simp

theorem deliver_returns_iff (s : PluginState W) (o : Occurrence) :
    (∃ s', deliver bridge os o s = .ok () s') ↔
      ∀ e, o = .event e → e.Publishes bridge s → s.server.pubSocket ≠ .null := by
  cases o with
  | pluginStop => exact iff_of_true ⟨_, rfl⟩ (by simp)
  | logLine msg =>
    obtain ⟨_, s', h⟩ := (captureLog_spec msg s).returns
    exact iff_of_true ⟨s', h⟩ (by simp)
  | event e =>
    simp only [Occurrence.event.injEq, forall_eq']
    by_cases hp : e.Publishes bridge s
    · have hsend : Sends s (callback bridge e) := callback_sends hp
      constructor
      · rintro ⟨s', h⟩ _
        exact (hsend.ok h).1
      · intro hn
        have hret : wp (callback bridge e) (fun _ _ => True) (fun _ _ => False) s :=
          wp_mono hsend (fun _ _ _ => trivial) fun _ _ h => hn hp h.1
        obtain ⟨_, s', h⟩ := hret.returns
        exact ⟨s', h⟩
    · obtain ⟨_, s', h⟩ := (callback_quiet hp).returns
      exact iff_of_true ⟨s', h⟩ fun h => absurd h hp

end Runs

/-- In every run of a plugin that was loaded, all callbacks and the log hook return to x64dbg
exactly when each event that is published comes after an acquisition that left the sockets bound
and before the plugin is stopped. -/
theorem callbacks_return_iff (bridge : Bridge W) (os : Platform W) (fuel : Nat) (w : W)
    (hooked acquired : Bool) (server : ServerState W)
    (hload : ServerM.acquireSession bridge os fuel { world := w } = .ok acquired server)
    (run : List Occurrence) :
    (∀ v ∈ Run.visits (after bridge os) (pluginInit hooked server) run,
      ∃ s', deliver bridge os v.2 v.1 = .ok () s') ↔
    ∀ before e rest, run = before ++ .event e :: rest →
      e.Publishes bridge (before.foldl (after bridge os) (pluginInit hooked server)) →
      server.Up ∧ .pluginStop ∉ before := by
  have hup : server.Up ↔ server.pubSocket ≠ .null := by
    rcases (ServerM.acquireSession_sockets fuel _).ok hload with hup | ⟨-, hdown⟩
    · obtain ⟨address, port, hpub⟩ := hup .pub
      exact iff_of_true hup fun h => by cases hpub.symm.trans h
    · refine iff_of_false (fun hup => ?_) fun h => h (hdown .pub)
      obtain ⟨address, port, hpub⟩ := hup .pub
      cases hpub.symm.trans (hdown .pub)
  have hopen (before : List Occurrence) :
      (before.foldl (after bridge os) (pluginInit hooked server)).server.pubSocket ≠ .null ↔
        server.Up ∧ .pluginStop ∉ before := by
    rw [ne_eq, foldl_pubSocket_eq_null, hup]
    exact not_or
  simp only [deliver_returns_iff, Run.mem_visits]
  constructor
  · intro h before e rest hrun hp
    exact (hopen before).mp (h (_, .event e) ⟨before, rest, hrun, rfl⟩ e rfl hp)
  · rintro h ⟨s, o⟩ ⟨before, rest, hrun, rfl⟩ e rfl hp
    exact (hopen before).mpr (h before e rest hrun hp)

def stepAndStop : List Occurrence := [.event .stepped, .pluginStop, .logLine (some [])]

theorem step_and_stop_returns_iff :
    ∃ server, ServerM.acquireSession .idle (.always true) 1 { world := () } = .ok true server ∧
    ((∀ v ∈ Run.visits (after .idle (.always true)) (pluginInit true server) stepAndStop,
      ∃ s', deliver .idle (.always true) v.2 v.1 = .ok () s') ↔
    ∀ before e rest, stepAndStop = before ++ .event e :: rest →
      e.Publishes .idle (before.foldl (after .idle (.always true)) (pluginInit true server)) →
      server.Up ∧ .pluginStop ∉ before) :=
  ⟨_, rfl, callbacks_return_iff .idle (.always true) 1 () true true _ rfl _⟩

/-- A bridge whose settings ask for remote mode, and a platform on which every bind fails. -/
def remoteBridge : Bridge Unit :=
  { Bridge.idle with
    bridgeSettingGet := fun _ key w =>
      (if key = bytes "Mode" then some (bytes "remote") else none, w) }

def busyPlatform : Platform Unit := { Platform.always true with bind := fun _ _ w => (false, w) }

theorem callback_after_failed_bind_throws :
    ∃ server, ServerM.acquireSession remoteBridge busyPlatform 0 { world := () } =
        .ok false server ∧
      ¬∃ s', deliver remoteBridge busyPlatform (.event .stopDebug) (pluginInit true server) =
        .ok () s' :=
  ⟨_, rfl, fun h => by obtain ⟨s', h⟩ := h; cases h⟩

end XAuto
