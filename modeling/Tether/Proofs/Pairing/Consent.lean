import Mathlib.Data.List.Induction
import Tether.Proofs.Pairing.Run

/-!
# Nobody is paired alone

Asking and agreeing are the same packet, so a session cannot tell from a packet that
the other side agreed to anything: it relies on the state it is in. That the state
is reliable is a fact about histories. Whoever is paired got there by turns of which
one is a call of this side and one a packet of the other side, and both belong to the
present session: they come no earlier than the turn that last left the unpaired
state.

The invariant says for each state what the turns of the present session must contain
(`Backed`). The history it speaks of is not in the state, so the induction is on the
run, from its end.
-/

namespace Tether.Pairing.Session

/-- The turns of a run are those before the present session, the turn that opened it,
and those since. The opening turn is the last one to leave the unpaired state. -/
structure Opened (s : Session) (turns earlier : List Turn) (opening : Turn)
    (since : List Turn) : Prop where
  split : turns = earlier ++ opening :: since
  leaves : (s.run earlier).Leaves opening
  last : ∀ before t after, since = before ++ t :: after →
    ¬ (s.run (earlier ++ opening :: before)).Leaves t

/-- What the turns of a session contain if it is in a state. -/
def Backed (turns : List Turn) : PairingState → Prop
  | .unpaired => True
  | .requested => ∃ t ∈ turns, t.IsConsent
  | .requestedByPeer => ∃ t ∈ turns, t.BringsConsent
  | .paired => (∃ t ∈ turns, t.IsConsent) ∧ ∃ t ∈ turns, t.BringsConsent

theorem backed_append {turns : List Turn} {state : PairingState}
    (h : Backed turns state) (more : List Turn) : Backed (turns ++ more) state := by
  have weaken : ∀ P : Turn → Prop, (∃ t ∈ turns, P t) → ∃ t ∈ turns ++ more, P t :=
    fun P ⟨t, ht, hP⟩ => ⟨t, List.mem_append_left more ht, hP⟩
  cases state with
  | unpaired => trivial
  | requested => exact weaken _ h
  | requestedByPeer => exact weaken _ h
  | paired => exact ⟨weaken _ h.1, weaken _ h.2⟩

/-- A turn that leaves the unpaired state opens a session, and backs it alone. -/
theorem opened_of_leaves {s : Session} {turns : List Turn} {t : Turn}
    (h : (s.run turns).Leaves t) : s.Opened (turns ++ [t]) turns t [] :=
  ⟨rfl, h, fun before _ _ hnil => by cases before <;> cases hnil⟩

theorem opened_concat {s : Session} {turns earlier since : List Turn}
    {opening t : Turn} (h : s.Opened turns earlier opening since)
    (ht : ¬ (s.run turns).Leaves t) :
    s.Opened (turns ++ [t]) earlier opening (since ++ [t]) := by
  refine ⟨by rw [h.split]; simp, h.leaves, ?_⟩
  intro before u after hsplit
  rcases List.eq_nil_or_concat after with rfl | ⟨init, last, hafter⟩
  · obtain ⟨rfl, hu⟩ := List.append_inj' hsplit rfl
    cases hu
    rw [← h.split]
    exact ht
  · rw [hafter, List.concat_eq_append, ← List.cons_append, ← List.append_assoc]
      at hsplit
    obtain ⟨hinit, -⟩ := List.append_inj' hsplit rfl
    exact h.last before u init hinit

/-- Outside the unpaired state there is a session, and its turns back the state. -/
theorem opened_of_run {s : Session} (hs : s.state = .unpaired) (turns : List Turn) :
    (s.run turns).state = .unpaired ∨
      ∃ earlier opening since, s.Opened turns earlier opening since ∧
        Backed (opening :: since) (s.run turns).state := by
  induction turns using List.reverseRecOn with
  | nil => exact .inl hs
  | append_singleton turns t ih =>
      rw [run_concat]
      rcases turn_cases (s.run turns) t with hun | ⟨hl, hopen⟩ | ⟨hl, hne, hmove⟩
      · exact .inl hun
      · refine .inr ⟨turns, t, [], opened_of_leaves hl, ?_⟩
        rcases hopen with ⟨hstate, hc⟩ | ⟨hstate, hb⟩
        · rw [hstate]; exact ⟨t, by simp, hc⟩
        · rw [hstate]; exact ⟨t, by simp, hb⟩
      · obtain ⟨earlier, opening, since, hop, hback⟩ := ih.resolve_left hne
        refine .inr ⟨earlier, opening, since ++ [t], opened_concat hop hl, ?_⟩
        rw [← List.cons_append]
        have ht : t ∈ opening :: since ++ [t] := by simp
        have hkeep := backed_append hback [t]
        rcases hmove with hsame | ⟨hstate, ⟨hreq, hb⟩ | ⟨hreq, hc⟩⟩
        · rw [hsame]; exact hkeep
        · rw [hreq] at hkeep
          rw [hstate]
          exact ⟨hkeep, t, ht, hb⟩
        · rw [hreq] at hkeep
          rw [hstate]
          exact ⟨⟨t, ht, hc⟩, hkeep⟩

/-- Pairing is mutual. In any run of a session that starts unpaired, whatever the
surroundings, whenever a turn ends in the paired state there is a turn that last left
the unpaired state, and from it up to the present turn this side asked or agreed at
least once, and at least one well-formed packet of the other side did. -/
theorem consent_of_paired {s : Session} (hs : s.state = .unpaired)
    {turns : List Turn} (h : (s.run turns).state = .paired) :
    ∃ earlier opening since, s.Opened turns earlier opening since ∧
      (∃ t ∈ opening :: since, t.IsConsent) ∧
      ∃ t ∈ opening :: since, t.BringsConsent := by
  rcases opened_of_run hs turns with hun | ⟨earlier, opening, since, hop, hback⟩
  · rw [h] at hun; cases hun
  · rw [h] at hback
    exact ⟨earlier, opening, since, hop, hback⟩

/-- The other side asks, this side agrees, the other side forgets and asks again, and
this side agrees again: the second agreement is not backed by the first session. -/
theorem consent_of_paired_anew :
    let turns : List Turn :=
      [{ input := .received (packet 1 true) }, { input := .accept },
        { input := .received (packet 2 true) },
        { around := { reachable := false }, input := .request }]
    (run {} turns).state = .paired ∧
      ∃ earlier opening since, Opened {} turns earlier opening since ∧
        (∃ t ∈ opening :: since, t.IsConsent) ∧
        ∃ t ∈ opening :: since, t.BringsConsent :=
  ⟨by decide, consent_of_paired rfl (by decide)⟩

end Tether.Pairing.Session
