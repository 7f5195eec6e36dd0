import Tether.Proofs.Pairing.Run

/-!
# Whom the report of a lost packet concerns

A session that hears of a lost packet of pairing is not told which packet that was. It
takes the report for one about itself: if it is unpaired it does nothing, and otherwise
it ends.

That is right as long as no session was opened after the packet was sent. A packet that
declines or ends leaves the session unpaired, and one that asks or agrees does not
(`Sends.state_iff`), so a session that is there still, with nothing opened since, is
the one the packet asked or agreed for. A session that was opened since is ended all
the same.
-/

namespace Tether.Pairing.Session

/-- A packet of pairing is sent in a turn. -/
def Sends (s : Session) (t : Turn) (pair : Bool) : Prop :=
  .send pair ∈ s.actions t.around t.input

/-- A session is open, and stays open throughout some turns. -/
def Lasts (s : Session) : List Turn → Prop
  | [] => s.state ≠ .unpaired
  | t :: rest => .unpaired ∉ s.moments (s.actions t.around t.input) ∧ (s.turn t).Lasts rest

/-- A session is opened in one of some turns. -/
def Reopens (s : Session) : List Turn → Prop
  | [] => False
  | t :: rest => s.Leaves t ∨ (s.turn t).Reopens rest

theorem Lasts.now {s : Session} {turns : List Turn} (h : s.Lasts turns) :
    s.state ≠ .unpaired := by
  cases turns with
  | nil => exact h
  | cons t rest =>
      intro hs
      refine h.1 ?_
      cases s.actions t.around t.input <;> simp [moments, hs]

/-- What is open now was open all the time, or was opened since. -/
theorem lasts_or_reopens {s : Session} {turns : List Turn}
    (h : (s.run turns).state ≠ .unpaired) : s.Lasts turns ∨ s.Reopens turns := by
  induction turns generalizing s with
  | nil => exact .inl h
  | cons t rest ih =>
      rcases ih h with hlasts | hreopens
      · -- Open after the turn, it was opened in it if it was unpaired at any moment of it.
        by_cases hmoment : .unpaired ∈ s.moments (s.actions t.around t.input)
        · exact .inr (.inl ⟨hmoment, hlasts.now⟩)
        · exact .inl ⟨hmoment, hlasts⟩
      · exact .inr (.inr hreopens)

/-- Asking and agreeing leave a session open, declining and ending do not. -/
theorem Sends.state_iff {s : Session} {t : Turn} {pair : Bool} (h : s.Sends t pair) :
    (s.turn t).state = .unpaired ↔ pair = false := by
  obtain ⟨state, generation⟩ := s
  obtain ⟨around, input⟩ := t
  rw [Sends] at h
  rw [turn, step]
  cases input with
  | received p =>
      cases hp : ofPacket p with
      | error f => simp [actions, hp] at h
      | ok bit => cases bit <;> cases state <;> simp [actions, hp, onBit, incoming] at h
  | request =>
      cases state with
      | paired | requested => simp [actions, onRequest] at h
      | requestedByPeer =>
          simp [actions, onRequest, agree] at h
          simp [actions, onRequest, agree, perform, h]
      | unpaired =>
          simp only [actions, onRequest] at h ⊢
          split at h
          · next hpresent =>
              split at h
              · next hreachable =>
                  simp at h
                  simp [hpresent, hreachable, perform, h]
              · simp at h
          · simp at h
  | accept =>
      cases state with
      | requestedByPeer =>
          simp [actions, agree] at h
          simp [actions, agree, perform, h]
      | unpaired | requested | paired => simp [actions] at h
  | cancel =>
      cases state with
      | requested | requestedByPeer =>
          simp [actions] at h
          simp [actions, perform, h]
      | unpaired | paired => simp [actions] at h
  | unpair =>
      have hfalse : pair = false := by
        simp only [actions] at h
        split at h
        · simpa using h
        · simp at h
      exact iff_of_true (turn_unpair _ _) hfalse
  | sendFailed reason => cases state <;> simp [actions, onSendFailed] at h
  | expired g =>
      simp only [actions] at h ⊢
      split at h
      · next hg =>
          cases state with
          | requestedByPeer =>
              simp [onTimeout] at h
              simp [onTimeout, hg, perform, h]
          | unpaired | requested | paired => simp [onTimeout] at h
      · simp at h

/-- Unless a session was opened since, a packet that was sent and a session that is open
belong together: the packet asks or agrees, and the session is open ever since. -/
theorem Sends.own_session {s : Session} {t : Turn} {pair : Bool} (h : s.Sends t pair)
    {since : List Turn} (hnow : ((s.turn t).run since).state ≠ .unpaired) :
    pair = true ∧ (s.turn t).Lasts since ∨ (s.turn t).Reopens since := by
  rcases lasts_or_reopens hnow with hlasts | hreopens
  · refine .inl ⟨?_, hlasts⟩
    rw [← Bool.not_eq_false, ← h.state_iff]
    exact hlasts.now
  · exact .inr hreopens

end Tether.Pairing.Session
