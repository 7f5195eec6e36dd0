import Mathlib.Data.List.Induction
import Tether.Proofs.Pairing.Run

/-!
# Two sides agree

Two sessions, each the other side of the other, with a channel in each direction that
loses nothing and keeps the order. Requests may cross, a side may give up without a
word, and what it gave up may still be accepted: while packets are on their way the
two states can be any. The theorem is about the moments at which nothing is on its
way: then nobody is paired with a side that knows nothing of it.

A session that receives a packet sends none. So what becomes of a side once all that
is on its way to it has arrived depends on that side alone, and `Party.drained` is
that state. The invariant is the theorem itself, said of the drained states: a
delivery leaves them as they are, and with empty channels they are the states. What
remains is what a side does of its own accord, and there are only four kinds of that
(`own_cases`): nothing, to give up silently, to say no, to say yes.
-/

namespace Tether.Pairing

/-- What a side does of its own accord or because its time is up. -/
inductive Own where
  | request
  | accept
  | cancel
  | unpair
  | expired (generation : Nat)
deriving DecidableEq, Repr

def Own.input : Own → Input
  | request => .request
  | accept => .accept
  | cancel => .cancel
  | unpair => .unpair
  | expired generation => .expired generation

/-- The packets that a reachable session sends about an input. -/
def Session.packets (s : Session) (i : Input) (id : Int) : List Packet :=
  (s.actions {} i).filterMap fun
    | .send pair => some (packet id pair)
    | _ => none

/-- A side, with the packets on their way to it. -/
structure Party where
  session : Session := {}
  inbox : List Packet := []
deriving DecidableEq, Repr

/-- Two sides of one connection. -/
structure Duo where
  left : Party := {}
  right : Party := {}
deriving DecidableEq, Repr

/-- What happens next at a side: it does something, or the first packet arrives. -/
inductive Move where
  | own (o : Own)
  | deliver
deriving DecidableEq, Repr

/-- Something that happens at one of the sides, with an id for the packet it sends. -/
structure Duo.Event where
  atLeft : Bool
  move : Move
  id : Int := 0
deriving DecidableEq, Repr

namespace Duo

/-- The same two sides, seen from the other one. -/
def swap (d : Duo) : Duo :=
  ⟨d.right, d.left⟩

/-- An input to the left side. What it sends is then on its way to the right one. -/
def feed (d : Duo) (i : Input) (id : Int) : Duo where
  left := { d.left with session := d.left.session.step {} i }
  right := { d.right with inbox := d.right.inbox ++ d.left.session.packets i id }

/-- Something happens at the left side. -/
def moveLeft (d : Duo) (id : Int) : Move → Duo
  | .own o => d.feed o.input id
  | .deliver =>
      match d.left.inbox with
      | [] => d
      | p :: rest => { d with left.inbox := rest }.feed (.received p) id

/-- Something happens at one of the sides. -/
def step (d : Duo) (e : Event) : Duo :=
  if e.atLeft then d.moveLeft e.id e.move else (d.swap.moveLeft e.id e.move).swap

def run (d : Duo) (events : List Event) : Duo :=
  events.foldl step d

/-- Neither side has anything to do with the other yet. -/
structure Fresh (d : Duo) : Prop where
  left : d.left.session.state = .unpaired
  right : d.right.session.state = .unpaired
  toLeft : d.left.inbox = []
  toRight : d.right.inbox = []

end Duo

/-- What a side in one state can count on: if it is paired the other side is, or was
asked; and if it asked, the other side was asked. -/
structure CountsOn (mine theirs : PairingState) : Prop where
  paired : mine = .paired → theirs = .paired ∨ theirs = .requestedByPeer
  requested : mine = .requested → theirs = .requestedByPeer

def Agree (a b : PairingState) : Prop :=
  CountsOn a b ∧ CountsOn b a

theorem Agree.symm {a b : PairingState} (h : Agree a b) : Agree b a :=
  And.symm h

/-- A side that was asked can be faced with anything. -/
theorem agree_asked (a : PairingState) : Agree a .requestedByPeer :=
  ⟨⟨fun _ => .inr rfl, fun _ => rfl⟩, ⟨nofun, nofun⟩⟩

theorem agree_paired : Agree .paired .paired :=
  ⟨⟨fun _ => .inl rfl, nofun⟩, ⟨fun _ => .inl rfl, nofun⟩⟩

theorem agree_unpaired_iff {b : PairingState} :
    Agree .unpaired b ↔ b = .unpaired ∨ b = .requestedByPeer := by
  constructor
  · intro h
    cases b with
    | unpaired => exact .inl rfl
    | requested => cases h.2.requested rfl
    | requestedByPeer => exact .inr rfl
    | paired => rcases h.2.paired rfl with h | h <;> cases h
  · rintro (rfl | rfl)
    · exact ⟨⟨nofun, nofun⟩, ⟨nofun, nofun⟩⟩
    · exact agree_asked _

/-! ## What arrives -/

/-- The state of a session after a bit. -/
def afterBit : PairingState → Bool → PairingState
  | .requested, true => .paired
  | _, true => .requestedByPeer
  | _, false => .unpaired

/-- The bit that a packet carries, if it carries one. -/
def bit? (p : Packet) : Option Bool :=
  (ofPacket p).toOption

/-- The state of a session after packets. -/
def drain (state : PairingState) (inbox : List Packet) : PairingState :=
  (inbox.filterMap bit?).foldl afterBit state

/-- The state of a side once everything that is on its way to it has arrived. -/
def Party.drained (p : Party) : PairingState :=
  drain p.session.state p.inbox

@[simp] theorem bit?_packet (id : Int) (pair : Bool) :
    bit? (packet id pair) = some pair := by
  rw [bit?, ofPacket_packet]; rfl

/-- A received packet moves the state by its bit, or not at all. -/
theorem step_received_state (s : Session) (around : Surroundings) (p : Packet) :
    (s.step around (.received p)).state = (bit? p).elim s.state (afterBit s.state) := by
  obtain ⟨state, generation⟩ := s
  cases hp : ofPacket p with
  | error f => simp [Session.step, Session.actions, bit?, hp, Except.toOption]
  | ok pair =>
      cases pair <;> cases state <;>
        simp [Session.step, Session.actions, Session.onBit, Session.incoming,
          Session.perform, bit?, hp, Except.toOption, afterBit]

theorem packets_received (s : Session) (p : Packet) (id : Int) :
    s.packets (.received p) id = [] := by
  simp only [Session.packets, Session.actions]
  split
  · next pair _ =>
      cases pair <;> cases s.state <;> rfl
  · rfl

theorem drain_cons_received (s : Session) (p : Packet) (rest : List Packet) :
    drain (s.step {} (.received p)).state rest = drain s.state (p :: rest) := by
  rw [step_received_state]
  cases hb : bit? p <;> simp [drain, hb]

@[simp] theorem drain_nil (state : PairingState) : drain state [] = state := rfl

@[simp] theorem drain_concat (state : PairingState) (inbox : List Packet) (p : Packet) :
    drain state (inbox ++ [p]) = (bit? p).elim (drain state inbox)
      (afterBit (drain state inbox)) := by
  cases hb : bit? p <;> simp [drain, hb]

@[simp] theorem afterBit_false (state : PairingState) :
    afterBit state false = .unpaired := by
  cases state <;> rfl

theorem afterBit_true (state : PairingState) :
    afterBit state true = .paired ∨ afterBit state true = .requestedByPeer := by
  cases state <;> simp [afterBit]

/-- What is on its way says nothing, or its last word is no, or its last word is
yes; which of these it is does not depend on who receives it. -/
theorem drain_cases (inbox : List Packet) :
    (∀ state, drain state inbox = state) ∨
    (∀ state, drain state inbox = .unpaired) ∨
    (∀ state, drain state inbox = .paired ∨ drain state inbox = .requestedByPeer) := by
  induction inbox using List.reverseRecOn with
  | nil => exact .inl drain_nil
  | append_singleton inbox p ih =>
      cases hb : bit? p with
      | none => simpa [hb] using ih
      | some pair =>
          cases pair with
          | false => exact .inr (.inl fun state => by simp [hb])
          | true =>
              refine .inr (.inr fun state => ?_)
              rw [drain_concat, hb]
              exact afterBit_true _

/-- A side that has not asked is not paired by anything it hears. -/
theorem drain_unpaired (inbox : List Packet) :
    drain .unpaired inbox = .unpaired ∨ drain .unpaired inbox = .requestedByPeer := by
  induction inbox using List.reverseRecOn with
  | nil => exact .inl rfl
  | append_singleton inbox p ih =>
      rw [drain_concat]
      cases hb : bit? p with
      | none => exact ih
      | some pair =>
          cases pair with
          | false => exact .inl (afterBit_false _)
          | true =>
              right
              rcases ih with h | h <;> rw [h] <;> rfl

/-! ## What a side does of its own accord -/

/-- The four things that a side can do: nothing, give up without a word, say no, or
say yes, which is to ask or to agree. -/
theorem own_cases (s : Session) (o : Own) (id : Int) :
    ((s.step {} o.input).state = s.state ∧ s.packets o.input id = []) ∨
    (s.state = .requested ∧ (s.step {} o.input).state = .unpaired ∧
      s.packets o.input id = []) ∨
    ((s.step {} o.input).state = .unpaired ∧
      s.packets o.input id = [packet id false]) ∨
    (s.packets o.input id = [packet id true] ∧
      (s.state = .unpaired ∧ (s.step {} o.input).state = .requested ∨
        s.state = .requestedByPeer ∧ (s.step {} o.input).state = .paired)) := by
  obtain ⟨state, generation⟩ := s
  cases o with
  | request | accept | cancel | unpair =>
      cases state <;>
        simp [Own.input, Session.step, Session.packets, Session.actions,
          Session.onRequest, Session.agree, Session.perform]
  | expired g =>
      by_cases hg : generation = g
      · cases state <;>
          simp [Own.input, Session.step, Session.packets, Session.actions,
            Session.onTimeout, Session.perform, hg]
      · cases state <;>
          simp [Own.input, Session.step, Session.packets, Session.actions, hg]

theorem agree_of_yes {a b : PairingState} (ha : a = .paired ∨ a = .requestedByPeer)
    (hb : b = .paired ∨ b = .requestedByPeer) : Agree a b := by
  rcases hb with rfl | rfl
  · rcases ha with rfl | rfl
    · exact agree_paired
    · exact (agree_asked _).symm
  · exact agree_asked a

/-- Saying yes to a side that an unpaired one agrees with leaves it asked. -/
theorem agree_after_yes_of_unpaired {b : PairingState} (h : Agree .unpaired b)
    (a : PairingState) : Agree a (afterBit b true) := by
  rcases agree_unpaired_iff.mp h with rfl | rfl
  · exact agree_asked a
  · exact agree_asked a

/-- To give up a request silently keeps the agreement: either nothing was on its way
and the other side was asked, or the answer that was on its way decides. -/
theorem agree_give_up {inbox : List Packet} {b : PairingState}
    (h : Agree (drain .requested inbox) b) : Agree (drain .unpaired inbox) b := by
  rcases drain_cases inbox with hnone | hno | hyes
  · rw [hnone] at h ⊢
    rw [h.1.requested rfl]
    exact agree_asked _
  · rw [hno] at h ⊢
    exact h
  · rcases drain_unpaired inbox with hu | hu
    · rcases hyes .unpaired with hy | hy <;> rw [hu] at hy <;> cases hy
    · rw [hu]
      exact (agree_asked b).symm

/-- To say no keeps the agreement, whatever is on its way. -/
theorem agree_no (inbox : List Packet) (b : PairingState) :
    Agree (drain .unpaired inbox) (afterBit b false) := by
  rw [afterBit_false]
  rcases drain_unpaired inbox with h | h <;> rw [h]
  · exact agree_unpaired_iff.mpr (.inl rfl)
  · exact (agree_asked _).symm

theorem agree_ask {inbox : List Packet} {b : PairingState}
    (h : Agree (drain .unpaired inbox) b) :
    Agree (drain .requested inbox) (afterBit b true) := by
  rcases drain_cases inbox with hnone | hno | hyes
  · rw [hnone] at h
    exact agree_after_yes_of_unpaired h _
  · rw [hno] at h
    exact agree_after_yes_of_unpaired h _
  · exact agree_of_yes (hyes _) (afterBit_true b)

theorem agree_accept {inbox : List Packet} {b : PairingState}
    (h : Agree (drain .requestedByPeer inbox) b) :
    Agree (drain .paired inbox) (afterBit b true) := by
  rcases drain_cases inbox with hnone | hno | hyes
  · rw [hnone]
    exact agree_of_yes (.inl rfl) (afterBit_true b)
  · rw [hno] at h
    exact agree_after_yes_of_unpaired h _
  · exact agree_of_yes (hyes _) (afterBit_true b)

/-! ## Runs -/

namespace Duo

/-- The sides will agree once everything has arrived. -/
def Settled (d : Duo) : Prop :=
  Agree d.left.drained d.right.drained

theorem settled_swap {d : Duo} : d.swap.Settled ↔ d.Settled :=
  ⟨Agree.symm, Agree.symm⟩

theorem settled_feed_own {d : Duo} (h : d.Settled) (o : Own) (id : Int) :
    (d.feed o.input id).Settled := by
  simp only [Settled, feed, Party.drained] at h ⊢
  rcases own_cases d.left.session o id with ⟨hs, hp⟩ | ⟨hr, hs, hp⟩ | ⟨hs, hp⟩ |
    ⟨hp, ⟨hu, hs⟩ | ⟨hr, hs⟩⟩
  · rw [hs, hp, List.append_nil]
    exact h
  · rw [hs, hp, List.append_nil]
    rw [hr] at h
    exact agree_give_up h
  · rw [hs, hp, drain_concat, bit?_packet]
    exact agree_no _ _
  · rw [hs, hp, drain_concat, bit?_packet]
    rw [hu] at h
    exact agree_ask h
  · rw [hs, hp, drain_concat, bit?_packet]
    rw [hr] at h
    exact agree_accept h

theorem settled_moveLeft {d : Duo} (h : d.Settled) (id : Int) (m : Move) :
    (d.moveLeft id m).Settled := by
  cases m with
  | own o => exact settled_feed_own h o id
  | deliver =>
      simp only [moveLeft]
      split
      · exact h
      · next p rest hin =>
          simp only [Settled, feed, Party.drained, packets_received,
            List.append_nil, drain_cons_received, ← hin]
          exact h

theorem settled_step {d : Duo} (h : d.Settled) (e : Event) : (d.step e).Settled := by
  rw [step]
  split
  · exact settled_moveLeft h e.id e.move
  · exact settled_swap.mpr (settled_moveLeft (settled_swap.mpr h) e.id e.move)

theorem settled_run {d : Duo} (h : d.Settled) (events : List Event) :
    (d.run events).Settled := by
  induction events generalizing d with
  | nil => exact h
  | cons e rest ih => exact ih (settled_step h e)

theorem Fresh.settled {d : Duo} (h : d.Fresh) : d.Settled := by
  simp only [Settled, Party.drained, h.left, h.right, h.toLeft, h.toRight, drain_nil]
  exact agree_unpaired_iff.mpr (.inl rfl)

/-- Two sides that start unpaired agree whenever nothing is on its way, after
whatever both sides did and in whatever order packets arrived: a side that is paired
faces one that is paired or was asked, and a side that asked faces one that was
asked. -/
theorem agree_of_quiet {d : Duo} (h : d.Fresh) (events : List Event)
    (hl : (d.run events).left.inbox = []) (hr : (d.run events).right.inbox = []) :
    Agree (d.run events).left.session.state (d.run events).right.session.state := by
  have hs := settled_run h.settled events
  simpa only [Settled, Party.drained, hl, hr, drain_nil] using hs

/-- The left side asks and gives up, its request is accepted nevertheless, and it
takes the late answer for a request and accepts in turn. -/
theorem agree_of_quiet_late_accept :
    let events : List Event :=
      [⟨true, .own .request, 1⟩, ⟨true, .own (.expired 1), 0⟩, ⟨false, .deliver, 0⟩,
        ⟨false, .own .accept, 2⟩, ⟨true, .deliver, 0⟩, ⟨true, .own .accept, 3⟩,
        ⟨false, .deliver, 0⟩]
    (run {} events).left.session.state = .paired ∧
      (run {} events).right.session.state = .requestedByPeer ∧
      Agree (run {} events).left.session.state (run {} events).right.session.state :=
  ⟨by decide, by decide,
    agree_of_quiet ⟨rfl, rfl, rfl, rfl⟩ _ (by decide) (by decide)⟩

end Duo

end Tether.Pairing
