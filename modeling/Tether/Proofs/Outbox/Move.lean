import Mathlib.Data.List.Induction
import Mathlib.Data.List.Nodup
import Tether.Outbox

/-!
# What is done to an outbox

An outbox knows four moves. What each of them can do is said once, with the items
before and after written out: `add_cases`, `take_cases`, `pop_cases`, `close_cases`.

An item that gives way or is taken back is the first one with its number. It is also
the only one. The outbox itself has no such rule; it keeps numbers distinct because a
packet whose number is there already does not get a place of its own.
-/

namespace Tether.Outbox

/-- Something that is done to an outbox. -/
inductive Move where
  | add (p : Packet) (replace : Option Nat) (callback : Callback)
  | take (replace : Nat)
  /-- The worker takes the next packet to be sent. -/
  | pop
  | close
deriving DecidableEq, Repr

/-- The outbox after a move. -/
def move (o : Outbox) : Move → Outbox
  | .add p replace callback => (o.add p replace callback).2.1
  | .take replace => (o.take replace).2
  | .pop => (o.pop?.map Prod.snd).getD o
  | .close => o.close.1

/-- What a move gives out to be sent. -/
def handed (o : Outbox) : Move → List Item
  | .pop => (o.pop?.map Prod.fst).toList
  | _ => []

def run (o : Outbox) (moves : List Move) : Outbox :=
  moves.foldl move o

/-- What moves give out to be sent, in the order of time. -/
def handedOut (o : Outbox) : List Move → List Item
  | [] => []
  | m :: rest => o.handed m ++ (o.move m).handedOut rest

theorem run_concat (o : Outbox) (moves : List Move) (m : Move) :
    o.run (moves ++ [m]) = (o.run moves).move m := by
  rw [run, List.foldl_append]
  rfl

theorem handedOut_concat (o : Outbox) (moves : List Move) (m : Move) :
    o.handedOut (moves ++ [m]) = o.handedOut moves ++ (o.run moves).handed m := by
  induction moves generalizing o with
  | nil => simp [handedOut, run]
  | cons first rest ih =>
      rw [List.cons_append, handedOut, ih, handedOut, List.append_assoc]
      rfl

/-! ## What moves can do -/

theorem slot_eq_some {replace : Option Nat} {n : Nat} :
    slot replace = some n ↔ replace = some n ∧ 0 < n := by
  cases replace <;> simp [slot]

theorem supersede_eq_none {item : Item} {items : List Item}
    (h : supersede item items = none) : ∀ i ∈ items, i.replace ≠ item.replace := by
  induction items with
  | nil => exact nofun
  | cons first rest ih =>
      rw [supersede] at h
      split at h
      · cases h
      · next hne =>
          have hrest := ih (Option.map_eq_none_iff.mp h)
          intro i hi
          rcases List.mem_cons.mp hi with rfl | hmem
          · exact hne
          · exact hrest i hmem

theorem supersede_eq_some {item : Item} {items items' : List Item}
    (h : supersede item items = some items') :
    ∃ pre i post, items = pre ++ i :: post ∧ items' = pre ++ item :: post ∧
      i.replace = item.replace := by
  induction items generalizing items' with
  | nil => cases h
  | cons first rest ih =>
      rw [supersede] at h
      split at h
      · next heq =>
          cases h
          exact ⟨[], first, rest, rfl, rfl, heq⟩
      · obtain ⟨rest', hrest, rfl⟩ := Option.map_eq_some_iff.mp h
        obtain ⟨pre, i, post, rfl, rfl, hi⟩ := ih hrest
        exact ⟨first :: pre, i, post, rfl, rfl, hi⟩

/-- A packet is refused by a closed outbox, takes the place of one with its number, or
is put behind all others because none has its number. -/
theorem add_cases (o : Outbox) (p : Packet) (replace : Option Nat) (c : Callback) :
    (o.closed = true ∧
      o.add p replace c = (.refused, o, c.tell (.failure .notConnected))) ∨
    (o.closed = false ∧ ∃ n pre i post, slot replace = some n ∧
      o.items = pre ++ i :: post ∧ i.replace = some n ∧
      o.add p replace c =
        (.superseded, { o with items := pre ++ ⟨p, some n, c⟩ :: post }, [])) ∨
    (o.closed = false ∧ (∀ n, slot replace = some n → ∀ i ∈ o.items, i.replace ≠ some n) ∧
      o.add p replace c =
        (.queued, { o with items := o.items ++ [⟨p, slot replace, c⟩] }, [])) := by
  cases hclosed : o.closed with
  | true => exact .inl ⟨rfl, by simp [add, hclosed]⟩
  | false =>
      right
      cases hslot : slot replace with
      | none => exact .inr ⟨rfl, nofun, by simp [add, hclosed, hslot]⟩
      | some n =>
          cases hsup : supersede ⟨p, some n, c⟩ o.items with
          | some items =>
              obtain ⟨pre, i, post, hitems, rfl, hi⟩ := supersede_eq_some hsup
              exact .inl ⟨rfl, n, pre, i, post, rfl, hitems, hi, by
                simp [add, hclosed, hslot, hsup]⟩
          | none =>
              refine .inr ⟨rfl, ?_, by simp [add, hclosed, hslot, hsup]⟩
              intro m hm
              cases hm
              exact supersede_eq_none hsup

/-- Under a number there is nothing to take back, or there is an item and it goes. -/
theorem take_cases (o : Outbox) (n : Nat) :
    (o.take n = (none, o) ∧ (n = 0 ∨ ∀ i ∈ o.items, i.replace ≠ some n)) ∨
    (0 < n ∧ ∃ pre i post, o.items = pre ++ i :: post ∧ i.replace = some n ∧
      o.take n = (some i.packet, { o with items := pre ++ post })) := by
  rw [take]
  split
  · next hzero => exact .inl ⟨rfl, .inl hzero⟩
  · next hpos =>
      split
      · next hnone =>
          refine .inl ⟨rfl, .inr fun i hi => ?_⟩
          simpa using List.find?_eq_none.mp hnone i hi
      · next i hsome =>
          obtain ⟨hi, pre, post, hitems, hpre⟩ := List.find?_eq_some_iff_append.mp hsome
          have hin : i.replace = some n := by simpa using hi
          refine .inr ⟨Nat.pos_of_ne_zero hpos, pre, i, post, hitems, hin, ?_⟩
          rw [hitems, List.eraseP_append_right _ (by simpa using hpre)]
          simp [hin]

/-- The next packet is the first one, and a closed outbox has none. -/
theorem pop_cases (o : Outbox) :
    (o.pop? = none ∧ (o.closed = true ∨ o.items = [])) ∨
    (o.closed = false ∧ ∃ i rest, o.items = i :: rest ∧
      o.pop? = some (i, { o with items := rest })) := by
  rw [pop?]
  cases hclosed : o.closed with
  | true => exact .inl ⟨rfl, .inl rfl⟩
  | false =>
      cases hitems : o.items with
      | nil => exact .inl ⟨rfl, .inr rfl⟩
      | cons i rest => exact .inr ⟨rfl, i, rest, rfl, rfl⟩

theorem close_cases (o : Outbox) :
    (o.closed = true ∧ o.close = (o, [])) ∨
    (o.closed = false ∧ o.close = ({ o with closed := true, items := [] },
      o.items.flatMap fun i => i.callback.tell (.failure .notConnected))) := by
  rw [close]
  cases hclosed : o.closed with
  | true => exact .inl ⟨rfl, rfl⟩
  | false => exact .inr ⟨rfl, rfl⟩

/-- An outbox is closed by being closed, and stays so. -/
theorem closed_move (o : Outbox) (m : Move) :
    (o.move m).closed = true ↔ o.closed = true ∨ m = .close := by
  cases m with
  | add p replace c =>
      rw [move]
      rcases o.add_cases p replace c with ⟨-, hadd⟩ | ⟨-, _, _, _, _, -, -, -, hadd⟩ |
        ⟨-, -, hadd⟩ <;> simp [hadd]
  | take n =>
      rw [move]
      rcases o.take_cases n with ⟨htake, -⟩ | ⟨-, _, _, _, -, -, htake⟩ <;> simp [htake]
  | pop =>
      rw [move]
      rcases o.pop_cases with ⟨hpop, -⟩ | ⟨-, _, _, -, hpop⟩ <;> simp [hpop]
  | close =>
      rw [move]
      rcases o.close_cases with ⟨hc, hclose⟩ | ⟨-, hclose⟩
      · simp [hclose, hc]
      · simp [hclose]

/-! ## Numbers -/

/-- No two items have the same number. -/
def Distinct (items : List Item) : Prop :=
  (items.filterMap Item.replace).Nodup

theorem Distinct.sublist {items items' : List Item} (h : Distinct items)
    (hs : items'.Sublist items) : Distinct items' :=
  List.Nodup.sublist (hs.filterMap _) h

/-- An item in the place of one with its number changes no number. -/
theorem Distinct.replaced {pre post : List Item} {i item : Item}
    (h : Distinct (pre ++ i :: post)) (heq : item.replace = i.replace) :
    Distinct (pre ++ item :: post) := by
  simpa only [Distinct, List.filterMap_append, List.filterMap_cons, heq] using h

theorem Distinct.concat {items : List Item} (h : Distinct items) {item : Item}
    (hnew : ∀ n, item.replace = some n → ∀ i ∈ items, i.replace ≠ some n) :
    Distinct (items ++ [item]) := by
  rw [Distinct, List.filterMap_append]
  refine List.Nodup.append h ?_ ?_
  · cases hr : item.replace <;> simp [hr]
  · intro n hn hmem
    obtain ⟨i, hi, hin⟩ := List.mem_filterMap.mp hn
    obtain ⟨j, hj, hjn⟩ := List.mem_filterMap.mp hmem
    rw [List.mem_singleton.mp hj] at hjn
    exact hnew n hjn i hi hin

/-- An item is the only one with its number. -/
theorem Distinct.only {pre post : List Item} {i : Item} {n : Nat}
    (h : Distinct (pre ++ i :: post)) (hi : i.replace = some n) :
    ∀ j ∈ pre ++ post, j.replace ≠ some n := by
  rw [Distinct, List.filterMap_append, List.filterMap_cons_some hi] at h
  have hnot := (List.nodup_middle.mp h).notMem
  rw [← List.filterMap_append] at hnot
  intro j hj hjn
  exact hnot (List.mem_filterMap.mpr ⟨j, hj, hjn⟩)

/-- Every move keeps numbers distinct. -/
theorem Distinct.move {o : Outbox} (h : Distinct o.items) (m : Move) :
    Distinct (o.move m).items := by
  cases m with
  | add p replace c =>
      rw [Outbox.move]
      rcases o.add_cases p replace c with ⟨-, hadd⟩ | ⟨-, n, pre, i, post, -, hitems, hi, hadd⟩ |
        ⟨-, hnew, hadd⟩
      · rw [hadd]
        exact h
      · rw [hadd]
        rw [hitems] at h
        exact h.replaced hi.symm
      · rw [hadd]
        exact h.concat hnew
  | take n =>
      rw [Outbox.move]
      rcases o.take_cases n with ⟨htake, -⟩ | ⟨-, pre, i, post, hitems, -, htake⟩
      · rw [htake]
        exact h
      · rw [htake]
        rw [hitems] at h
        exact h.sublist (List.Sublist.append_left (List.sublist_cons_self i post) pre)
  | pop =>
      rw [Outbox.move]
      rcases o.pop_cases with ⟨hpop, -⟩ | ⟨-, i, rest, hitems, hpop⟩
      · rw [hpop]
        exact h
      · rw [hpop]
        rw [hitems] at h
        exact h.sublist (List.sublist_cons_self i rest)
  | close =>
      rw [Outbox.move]
      rcases o.close_cases with ⟨-, hclose⟩ | ⟨-, hclose⟩
      · rw [hclose]
        exact h
      · rw [hclose]
        exact List.nodup_nil

end Tether.Outbox
