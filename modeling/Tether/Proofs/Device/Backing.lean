import Tether.Proofs.Device.Remembered

/-!
# Paired devices are backed by trust

That trust and pairing agree is kept by every operation, but only where it was so before. Settings
may trust an id whose device came into being without looking at them. Of such a device less can be
said, and it is one half of the agreement: if it is paired, it is trusted (`Backed`). A session that
enters the paired state announces it, and then settings are written, whatever they said before.

The other half is lost for good only where it was missing from the start. A device that is trusted
and not paired is stray, and an operation makes none stray that was not (`Backed.stray_of_run`): where
both halves hold they hold afterwards. A stray device is set right by pairing and by unpairing, and
stays as it is otherwise.
-/

namespace Tether

namespace Pairing.Session

/-- Whether a device is trusted once actions are carried out. -/
def trustAfterAll (trusted : Bool) (acts : List Action) : Bool :=
  acts.foldl trustAfter trusted

theorem trusted_of_turn {s : Session} {trusted : Bool} (h : s.state = .paired → trusted = true)
    (t : Turn) (hpaired : (s.turn t).state = .paired) :
    trustAfterAll trusted (s.actions t.around t.input) = true := by
  obtain ⟨state, generation⟩ := s
  obtain ⟨around, input⟩ := t
  rw [turn, step] at hpaired
  cases input with
  | received p =>
      cases hp : ofPacket p with
      | error f => simp_all [actions, trustAfterAll]
      | ok pair =>
          cases pair <;> cases state <;>
            simp_all [actions, onBit, incoming, perform, trustAfterAll, trustAfter]
  | request =>
      cases state with
      | unpaired =>
          simp only [actions, onRequest] at hpaired ⊢
          split at hpaired
          · split at hpaired <;> simp [perform] at hpaired
          · cases hpaired
      | requested => simp [actions, onRequest] at hpaired
      | requestedByPeer => simp [actions, onRequest, agree, trustAfterAll, trustAfter]
      | paired => simp_all [actions, onRequest, trustAfterAll, trustAfter]
  | accept =>
      cases state <;> simp_all [actions, agree, trustAfterAll, trustAfter]
  | cancel => cases state <;> simp_all [actions, perform, trustAfterAll]
  | unpair =>
      have hunpaired := turn_unpair ⟨state, generation⟩ around
      rw [turn, step, hpaired] at hunpaired
      cases hunpaired
  | sendFailed reason => cases state <;> simp_all [actions, onSendFailed, perform]
  | expired g =>
      simp only [actions] at hpaired ⊢
      split at hpaired
      · cases state <;> simp_all [onTimeout, perform, trustAfterAll]
      · next hg =>
          rw [if_neg hg]
          exact h hpaired

end Pairing.Session

namespace Scene

open Pairing.Session (trustAfterAll)

/-- Writes do not fail, and the device is trusted if it is paired. -/
structure Backed (s : Scene) : Prop where
  reliable : s.env.ledger.Reliable
  trusted : s.device.session.state = .paired → s.env.store.isTrusted s.device.id = true

/-- The device is trusted and not paired. -/
def Stray (s : Scene) : Prop :=
  s.env.store.isTrusted s.device.id = true ∧ s.device.session.state ≠ .paired

variable {site : Site} {s t : Scene}

theorem Backed.sound (h : s.Backed) (hstray : ¬s.Stray) : s.Sound := by
  refine ⟨h.reliable, ?_, h.trusted⟩
  intro htrusted
  by_contra hunpaired
  exact hstray ⟨htrusted, hunpaired⟩

theorem Sound.not_stray (h : s.Sound) : ¬s.Stray := by
  intro hstray
  exact hstray.2 (h.honest.mp hstray.1)

/-! ## Operations -/

theorem performAll_trusted (site : Site) (acts : List Pairing.Action)
    (h : s.env.ledger.Reliable) :
    (acts.foldl (perform site) s).env.store.isTrusted s.device.id =
      trustAfterAll (s.env.store.isTrusted s.device.id) acts := by
  induction acts generalizing s with
  | nil => rfl
  | cons a rest ih =>
      have hid : (s.perform site a).device.id = s.device.id := (s.steady_perform site a).id
      have hrest := ih ((s.rewritten_perform site a).reliable h)
      rw [hid, perform_trusted site h a] at hrest
      exact hrest

theorem Backed.pair (h : s.Backed) (i : Pairing.Input) : (s.pair site i).Backed := by
  refine ⟨(s.rewritten_pair site i).reliable h.reliable, ?_⟩
  intro hpaired
  rw [pair_session] at hpaired
  rw [(s.steady_pair site i).id, Scene.pair, performAll_trusted site _ h.reliable]
  exact Pairing.Session.trusted_of_turn h.trusted ⟨s.around, i⟩ hpaired

/-- Unpairing ends trust, also in a device that was not paired. -/
theorem pair_unpair_trusted (h : s.env.ledger.Reliable) :
    (s.pair site .unpair).env.store.isTrusted s.device.id = false := by
  rw [Scene.pair, performAll_trusted site _ h, Pairing.Session.actions]
  split <;> simp [trustAfterAll, Pairing.Session.trustAfter]

/-- Where the session and trust are the same, nothing changes. -/
theorem Backed.of_eq (h : s.Backed) (hreliable : t.env.ledger.Reliable)
    (hsession : t.device.session = s.device.session)
    (htrusted : t.env.store.isTrusted t.device.id = s.env.store.isTrusted s.device.id) :
    t.Backed := by
  refine ⟨hreliable, ?_⟩
  rw [hsession, htrusted]
  exact h.trusted

theorem Backed.puts (h : s.Backed) {changes : List Store.Change}
    (hc : ∀ c ∈ changes, ∃ scope key value, c = .put scope key value) :
    (changes.foldl tryWrite s).Backed := by
  have hfair := fair_writes changes h.reliable
  refine h.of_eq hfair.reliable (by rw [writes_device]) ?_
  rw [hfair.id, writes_store changes h.reliable, Store.isTrusted_puts _ hc]

theorem Backed.learn (h : s.Backed) (i : PeerIdentity) : (s.learn i).Backed := by
  obtain ⟨changes, hfollow, hall⟩ := s.follow_eq i
  have hputs : ∀ c ∈ changes, ∃ scope key value, c = .put scope key value := by
    intro c hc
    obtain ⟨key, value, rfl, -⟩ := hall c hc
    exact ⟨_, _, _, rfl⟩
  have hfollowed := h.puts hputs
  rw [← hfollow] at hfollowed
  exact hfollowed.of_eq hfollowed.reliable rfl rfl

theorem Backed.aside {allowed : String → Prop} (h : s.Backed) (ht : Aside site allowed s t) :
    t.Backed := by
  cases ht with
  | quiet hquiet =>
      refine h.of_eq ?_ hquiet.session ?_
      · rw [hquiet.env.ledger]
        exact h.reliable
      · rw [hquiet.store, hquiet.id]
  | reload => exact h.of_eq h.reliable rfl rfl
  | @switch key _ enabled =>
      have hputs : ∀ c ∈ [Store.Change.putBool s.device.id key enabled],
          ∃ scope key value, c = .put scope key value :=
        fun c hc => ⟨_, _, _, List.mem_singleton.mp hc⟩
      exact h.puts hputs
  | unpair => exact h.pair _

theorem Backed.asides {allowed : String → Prop} (h : s.Backed) (ht : Asides site allowed s t) :
    t.Backed := by
  induction ht with
  | refl => exact h
  | tail _ haside ih => exact ih.aside haside

theorem Backed.lead (site : Site) (h : s.Backed) (op : Op) : (s.lead site op).Backed := by
  rcases s.lead_cases site op with ⟨i, hlead⟩ | ⟨i, hlead, -⟩ | ⟨env, rfl⟩ | hlead
  · rw [hlead]
    exact h.learn i
  · rw [hlead]
    exact h.pair i
  · exact h.of_eq h.reliable rfl rfl
  · rw [hlead]
    exact h

theorem Backed.apply (h : s.Backed) (op : Op) : (s.apply site op).Backed :=
  (h.lead site op).asides (s.asides_of_apply op)

theorem Backed.run (h : s.Backed) (ops : List Op) : (s.run site ops).Backed := by
  induction ops generalizing s with
  | nil => exact h
  | cons op rest ih => exact ih (h.apply op)

/-- A device is stray after operations only if it was before. -/
theorem Backed.stray_of_run (h : s.Backed) {ops : List Op} (hstray : (s.run site ops).Stray) :
    s.Stray := by
  by_contra hnot
  exact ((h.sound hnot).run ops).2.not_stray hstray

end Scene

end Tether
