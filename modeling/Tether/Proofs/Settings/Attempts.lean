import Tether.Proofs.Settings.Reads

/-!
# Attempts to write settings

A refused write changes nothing but the count of attempts. So after some attempts any of
the changes may have been made and any may be missing. Two things can still be said of
the store: if nothing was refused, all changes were made, and what no change breaks is
not broken by missing ones either.
-/

namespace Tether.Ledger

/-- The ledger after some attempts to write. -/
def tryAll (l : Ledger) (changes : List Store.Change) : Ledger :=
  changes.foldl tryWrite l

/-- A later state of a ledger. -/
structure Before (l l' : Ledger) : Prop where
  refusal : l'.refusal = l.refusal
  writes : l.writes ≤ l'.writes

/-- Between two states of a ledger a write was refused. -/
def Refuses (l l' : Ledger) : Prop :=
  ∃ n, l.writes ≤ n ∧ n < l'.writes ∧ l.refusal n ≠ none

theorem Before.refl (l : Ledger) : l.Before l :=
  ⟨rfl, Nat.le_refl _⟩

theorem Before.trans {l l' l'' : Ledger} (h : l.Before l') (h' : l'.Before l'') :
    l.Before l'' :=
  ⟨h'.refusal.trans h.refusal, Nat.le_trans h.writes h'.writes⟩

theorem Refuses.earlier {l l' l'' : Ledger} (h : l.Before l') (hr : l'.Refuses l'') :
    l.Refuses l'' := by
  obtain ⟨n, hlow, hhigh, hn⟩ := hr
  exact ⟨n, Nat.le_trans h.writes hlow, hhigh, by rwa [← h.refusal]⟩

theorem Refuses.later {l l' l'' : Ledger} (hr : l.Refuses l') (h : l'.Before l'') :
    l.Refuses l'' := by
  obtain ⟨n, hlow, hhigh, hn⟩ := hr
  exact ⟨n, hlow, Nat.lt_of_lt_of_le hhigh h.writes, hn⟩

/-- An attempt is counted, and it is refused or makes its change. -/
theorem tryWrite_cases (l : Ledger) (c : Store.Change) :
    l.Before (l.tryWrite c) ∧
      ((l.tryWrite c).store = l.store.apply c ∨
        l.Refuses (l.tryWrite c) ∧ (l.tryWrite c).store = l.store) := by
  rw [tryWrite, write]
  split
  · next fault hfault =>
      refine ⟨⟨rfl, Nat.le_succ _⟩, .inr ⟨⟨l.writes, Nat.le_refl _, Nat.lt_succ_self _, ?_⟩, rfl⟩⟩
      rw [hfault]
      exact Option.some_ne_none fault
  · exact ⟨⟨rfl, Nat.le_succ _⟩, .inl rfl⟩

theorem before_tryAll (l : Ledger) (changes : List Store.Change) :
    l.Before (l.tryAll changes) := by
  induction changes generalizing l with
  | nil => exact .refl l
  | cons c rest ih => exact (l.tryWrite_cases c).1.trans (ih _)

/-- If no write is refused, all changes are made. -/
theorem tryAll_store {l : Ledger} {changes : List Store.Change}
    (h : ¬l.Refuses (l.tryAll changes)) :
    (l.tryAll changes).store = changes.foldl Store.apply l.store := by
  induction changes generalizing l with
  | nil => rfl
  | cons c rest ih =>
      obtain ⟨hbefore, hwrite⟩ := l.tryWrite_cases c
      have hrest : ((l.tryWrite c).tryAll rest).store = _ :=
        ih fun hr => h (hr.earlier hbefore)
      rcases hwrite with hstore | ⟨hr, -⟩
      · rw [hstore] at hrest
        exact hrest
      · exact absurd (hr.later (before_tryAll _ rest)) h

/-- What no change of some changes breaks is not broken by attempts at them. -/
theorem tryAll_of_apply {P : Store → Prop} {changes : List Store.Change}
    (h : ∀ c ∈ changes, ∀ s : Store, P s → P (s.apply c)) {l : Ledger} (hl : P l.store) :
    P (l.tryAll changes).store := by
  induction changes generalizing l with
  | nil => exact hl
  | cons c rest ih =>
      refine ih (fun c hc => h c (List.mem_cons_of_mem _ hc)) ?_
      rcases (l.tryWrite_cases c).2 with hstore | ⟨-, hstore⟩
      · rw [hstore]
        exact h c List.mem_cons_self _ hl
      · rw [hstore]
        exact hl

end Tether.Ledger
