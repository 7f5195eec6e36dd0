import Tether.Proofs.Device.Trust
import Tether.Proofs.Pairing.Loss

/-!
# Lost packets of pairing

A packet of pairing can be lost long after it was queued, and the report says only why.
In between the session that it belongs to may have ended and another one may have been
opened. Which sessions there were is a matter of the turns that the session of the device
took, and those are not all calls about pairing: a packet of another type may end a
session, and so may a plugin. `Scene.turns` lists them, in the order in which an
operation gets to them.

A device that is unpaired is not touched by a report. Otherwise the report ends the
session that is open. It is the one that the packet asked or agreed for unless another
was opened after the packet was queued; then it is that other one, whatever the packet
was.
-/

namespace Tether.Scene

open Pairing (Turn)
open Pairing.Session (Sends Lasts Reopens)

/-- What steps come to that are taken one after the other. -/
def gather {α β : Type} (step : Scene → α → Scene) (f : Scene → α → List β) :
    Scene → List α → List β
  | _, [] => []
  | s, a :: rest => f s a ++ gather step f (step s a) rest

/-- The turns of the session when a plugin asks for something. -/
def requestTurns (s : Scene) : Plugin.Request → List Turn
  | .unpair => [⟨s.around, .unpair⟩]
  | .reply _ | .replyInPlace _ _ | .setPlugin _ _ => []

/-- The turns of the session when a plugin is given a packet. -/
def giveTurns (site : Site) (p : Packet) (paired : Bool) (s : Scene) (i : Plugin.Instance) :
    List Turn :=
  let (requests, env) := s.env.call fun shop => shop.handle i paired p
  gather (obey site i p) requestTurns { s with env } requests

/-- The turns of the session when plugins are given a packet. -/
def dispatchTurns (site : Site) (s : Scene) (p : Packet) (paired : Bool) : List Turn :=
  gather (give site p paired) (giveTurns site p paired) s
    (s.device.roster.recipients p.type paired)

/-- The turns of the session in an operation. -/
def opTurns (site : Site) (s : Scene) : Op → List Turn
  | .pairing i => [⟨s.around, i⟩]
  | .receive p =>
      if p.isType Packet.pairType then [⟨s.around, .received p⟩]
      else if s.device.isPaired then (s.reloadOnce site).dispatchTurns site p true
      else ⟨s.around, .unpair⟩ :: (s.pair site .unpair).dispatchTurns site p false
  | _ => []

/-- The turns of the session in a run. -/
def turns (site : Site) (s : Scene) (ops : List Op) : List Turn :=
  gather (apply site) (opTurns site) s ops

variable {site : Site} {s : Scene}

/-- Steps that each take the session through their turns take it through all of them. -/
theorem gather_session {α : Type} {step : Scene → α → Scene} {f : Scene → α → List Turn}
    (h : ∀ s a, (step s a).device.session = s.device.session.run (f s a)) (items : List α)
    (s : Scene) :
    (items.foldl step s).device.session = s.device.session.run (gather step f s items) := by
  induction items generalizing s with
  | nil => rfl
  | cons a rest ih => rw [List.foldl_cons, ih, h, gather, Pairing.Session.run_append]

theorem setPlugin_session (site : Site) (s : Scene) (key : String) (enabled : Bool) :
    (s.setPlugin site key enabled).2.device.session = s.device.session := by
  rw [setPlugin]
  split <;> rfl

theorem reloadOnce_session (site : Site) (s : Scene) :
    (s.reloadOnce site).device.session = s.device.session := by
  rw [reloadOnce]
  split <;> rfl

theorem obey_session (site : Site) (i : Plugin.Instance) (p : Packet) (s : Scene)
    (r : Plugin.Request) :
    (obey site i p s r).device.session = s.device.session.run (s.requestTurns r) := by
  cases r with
  | reply type => exact (quiet_send s _ none _).session
  | replyInPlace type replace => exact (quiet_send s _ _ _).session
  | unpair => exact s.pair_session site .unpair
  | setPlugin key enabled => exact s.setPlugin_session site key enabled

theorem dispatch_session (site : Site) (s : Scene) (p : Packet) (paired : Bool) :
    (s.dispatch site p paired).device.session =
      s.device.session.run (s.dispatchTurns site p paired) :=
  gather_session (fun s i => gather_session (obey_session site i p) _
    { s with env := (s.env.call fun shop => shop.handle i paired p).2 }) _ s

theorem attach_session (site : Site) (s : Scene) (i : PeerIdentity) (link : String) :
    (s.attach site i link).2.device.session = s.device.session := by
  have hlearn : (s.learn i).device.session = s.device.session := by rw [learn_device]
  rw [attach]
  split
  · rfl
  · rw [← hlearn]
    generalize s.learn i = t
    dsimp only
    split
    · rfl
    · next links _ =>
        have hopen := (quiet_openOutbox { t with device.links := links }).session
        split <;> exact hopen

theorem detach_session (site : Site) (s : Scene) (link : String) :
    (s.detach site link).2.device.session = s.device.session := by
  rw [detach]
  split
  · rfl
  · dsimp only
    split
    · exact (quiet_closeOutbox _).session
    · rfl

/-- An operation takes the session through its turns. -/
theorem apply_session (site : Site) (s : Scene) (op : Op) :
    (s.apply site op).device.session = s.device.session.run (s.opTurns site op) := by
  cases op with
  | attach i link => exact s.attach_session site i link
  | detach link => exact s.detach_session site link
  | receive p =>
      rw [apply, receive, opTurns]
      split
      · exact s.pair_session site _
      · split
        · rw [dispatch_session, reloadOnce_session]
        · rw [dispatch_session, pair_session]
          rfl
  | pairing i => exact s.pair_session site i
  | setPlugin key enabled => exact s.setPlugin_session site key enabled
  | disconnect => exact s.quiet_disconnect.session
  | send p replace callback => exact (s.quiet_send p replace callback).session
  | takeBack replace => exact (s.quiet_takeBack replace).session
  | sendBlocking name p callback sameThread =>
      exact (quiet_sendBlocking site s name p callback sameThread).session
  | _ => rfl

theorem run_session (site : Site) (s : Scene) (ops : List Op) :
    (s.run site ops).device.session = s.device.session.run (s.turns site ops) :=
  gather_session (apply_session site) ops s

/-! ## What a report does -/

theorem pair_of_unpaired (site : Site) (h : s.device.session.state = .unpaired)
    (reason : String) : s.pair site (.sendFailed reason) = s := by
  rw [pair, Pairing.Session.actions, h]
  rfl

/-- Observers are told as one. -/
theorem tellObservers_notices (s : Scene) (event : PairingEvent) :
    (s.tellObservers event).env.notices =
      s.env.notices ++ notifyPairing s.device.observers event s.glimpse := by
  have hall : (notifyPairing s.device.observers event s.glimpse).filter Event.isNotice =
      notifyPairing s.device.observers event s.glimpse := by
    rw [List.filter_eq_self]
    intro notice hnotice
    obtain ⟨o, -, rfl⟩ := List.mem_map.mp hnotice
    rfl
  rw [tellObservers, record, Env.notices_record, hall]

/-- A report ends the session that is open, whichever it is. A device that was paired is
not trusted any more, and at last observers are told that a packet was lost. -/
theorem pair_of_open (site : Site) (h : s.device.session.state ≠ .unpaired)
    (reason : String) :
    let after := s.pair site (.sendFailed reason)
    after.device.session.state = .unpaired ∧
    (s.device.session.state = .paired → s.env.ledger.Reliable →
      after.env.store.isTrusted s.device.id = false) ∧
    ∃ before, after.env.notices = s.env.notices ++ before ++
      notifyPairing s.device.observers (.failed (.sendFailed reason)) after.glimpse := by
  intro after
  have hafter : after = (Pairing.Session.onSendFailed reason s.device.session.state).foldl
      (perform site) s := rfl
  cases hstate : s.device.session.state with
  | unpaired => exact absurd hstate h
  | requested | requestedByPeer =>
      rw [hstate] at hafter
      refine ⟨by rw [hafter]; rfl, nofun, [], ?_⟩
      rw [List.append_nil, hafter]
      exact tellObservers_notices _ _
  | paired =>
      -- Trust is erased and observers hear of it before they hear of the packet.
      rw [hstate] at hafter
      obtain ⟨left, hleft⟩ : ∃ left, left = s.perform site (.enter .unpaired) := ⟨_, rfl⟩
      have hunpaired : after = ((left.eraseTrust.reload site).tellObservers .unpaired
          |>.tellObservers (.failed (.sendFailed reason))) := by
        rw [hafter, hleft]
        rfl
      have henv : left.eraseTrust.env.notices = s.env.notices := by
        rw [hleft]
        rfl
      refine ⟨by rw [hafter]; rfl, fun _ hreliable => ?_, ?_⟩
      · have herased := eraseTrust_trusted (s := left) (by rw [hleft]; exact hreliable)
        rw [hunpaired]
        rw [hleft] at herased ⊢
        exact herased
      · rw [hunpaired, tellObservers_notices, tellObservers_notices, reload_notices, henv,
          hleft]
        exact ⟨(left.eraseTrust.device.listeners.map fun l =>
            .pluginsChanged l left.eraseTrust.device.id left.eraseTrust.glimpse) ++
          notifyPairing s.device.observers .unpaired (left.eraseTrust.reload site).glimpse,
          by rw [hleft]; simp only [List.append_assoc]; rfl⟩

/-- After any run, a report of a lost packet leaves a device that is unpaired as it is, and
otherwise ends its session. If it changes anything, then for each packet of pairing that was
sent in the run one of two things holds. The packet asked or agreed, and the session that
it was sent for is open ever since; or a session was opened after the packet was sent. -/
theorem loss_report (site : Site) (s : Scene) (ops : List Op) (reason : String) :
    let now := s.run site ops
    let after := now.pair site (.sendFailed reason)
    (now.device.session.state = .unpaired → after = now) ∧
    (now.device.session.state ≠ .unpaired →
      after.device.session.state = .unpaired ∧
      (now.device.session.state = .paired → now.env.ledger.Reliable →
        after.env.store.isTrusted now.device.id = false) ∧
      ∃ before, after.env.notices = now.env.notices ++ before ++
        notifyPairing now.device.observers (.failed (.sendFailed reason)) after.glimpse) ∧
    ∀ earlier t since pair, s.turns site ops = earlier ++ t :: since →
      (s.device.session.run earlier).Sends t pair → after ≠ now →
      pair = true ∧ ((s.device.session.run earlier).turn t).Lasts since ∨
        ((s.device.session.run earlier).turn t).Reopens since := by
  intro now after
  refine ⟨fun h => pair_of_unpaired site h reason, fun h => pair_of_open site h reason, ?_⟩
  intro earlier t since pair hturns hsends hchanged
  have hopen : now.device.session.state ≠ .unpaired :=
    fun h => hchanged (pair_of_unpaired site h reason)
  rw [s.run_session site ops, hturns, Pairing.Session.run_append] at hopen
  exact hsends.own_session hopen

/-- A request is taken back, then the other side asks, and then the request turns out to
be lost: the session of the other side's request ends. -/
theorem loss_ends_later_session :
    let peer : PeerIdentity := { id := "peer" }
    let s : Scene := { device := .ofIdentity 0 peer, env := {} }
    let ops : List Op :=
      [.addObserver { name := "window" }, .attach peer "lan", .pairing .request,
        .pairing .cancel, .receive (Pairing.packet 1 true)]
    let asked : Turn := { input := .request }
    let since : List Turn :=
      [{ input := .cancel }, { input := .received (Pairing.packet 1 true) }]
    let now := s.run {} ops
    let after := now.pair {} (.sendFailed "down")
    s.turns {} ops = asked :: since ∧ s.device.session.Sends asked true ∧
      ¬(s.device.session.turn asked).Lasts since ∧
      now.device.session.state = .requestedByPeer ∧
      after.device.session.state = .unpaired ∧
      after.env.notices = now.env.notices ++
        [.pairing { name := "window" } (.failed (.sendFailed "down")) after.glimpse] := by
  intro peer s ops asked since now after
  refine ⟨rfl, ?_, fun hlasts => hlasts.1 (by decide), by decide, by decide, by decide⟩
  rw [Sends]
  decide

end Tether.Scene
