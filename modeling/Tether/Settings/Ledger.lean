import Tether.Fault
import Tether.Settings.Store

/-!
# Settings that may refuse to be written

What uses settings has to live with writes that fail. A ledger is a store that counts
the attempts to write to it, with a rule that says which attempts fail and how. A write
that fails leaves the store as it was.
-/

namespace Tether

/-- A store with the attempts to write to it. -/
structure Ledger where
  store : Store := {}
  /-- How many attempts to write there have been. -/
  writes : Nat := 0
  /-- The fault of the attempt with a number, if that attempt fails. -/
  refusal : Nat → Option Fault := fun _ => none

namespace Ledger

/-- Write a change. -/
def write (l : Ledger) (c : Store.Change) : Except Fault Unit × Ledger :=
  match l.refusal l.writes with
  | some fault => (.error fault, { l with writes := l.writes + 1 })
  | none => (.ok (), { l with store := l.store.apply c, writes := l.writes + 1 })

/-- Write a change and make do without it if that fails. -/
def tryWrite (l : Ledger) (c : Store.Change) : Ledger :=
  (l.write c).2

end Ledger

end Tether
