import Tether.Proofs.Outbox.Move

/-!
# An outbox is a row of slots

An outbox only holds what is unsent. Whoever wants to say in which order packets leave
it has to speak of those that left as well, and of the place of a packet that took over
from another. So the outbox is compared with a row of slots that forgets nothing: a
slot is made by the first packet that goes into it, stays where it was made, and
remembers every packet that was put into it and what became of it.

`Slots.move` says what each move does to the row. It never looks for the first slot
with a number, as the outbox does, but speaks of all of them; that there is at most one
is a theorem and not a rule. The order in which packets are given out is no rule
either. It comes from one fact about the row: whoever stands before a slot that was
given out does not wait any more (`Row.order`).
-/

namespace Tether.Outbox

/-- What became of a slot. -/
inductive Fate where
  | waiting
  /-- The packet was given out to be sent. -/
  | handed
  /-- The packet was taken back. -/
  | taken
  /-- The outbox was closed before the packet was given out. -/
  | failed
deriving DecidableEq, Repr

/-- A slot, with all that was ever put into it. -/
structure Slot where
  latest : Item
  /-- What gave way, the latest first. -/
  earlier : List Item := []
  fate : Fate := .waiting
deriving DecidableEq, Repr

namespace Slot

def waits (s : Slot) : Bool :=
  s.fate = .waiting

def waitsUnder (n : Nat) (s : Slot) : Bool :=
  s.waits && s.latest.replace = some n

/-- The slot when an item is put into it, in place of the one it held. -/
def reuse (item : Item) (s : Slot) : Slot :=
  { s with latest := item, earlier := s.latest :: s.earlier }

def become (fate : Fate) (s : Slot) : Slot :=
  { s with fate }

/-- All that was put into a slot has its number, which is positive, and a slot without
a number was used once. -/
structure Coherent (s : Slot) : Prop where
  positive : s.latest.replace ≠ some 0
  shared : ∀ i ∈ s.earlier, i.replace = s.latest.replace
  single : s.latest.replace = none → s.earlier = []

@[simp] theorem waitsUnder_iff {n : Nat} {s : Slot} :
    s.waitsUnder n = true ↔ s.waits = true ∧ s.latest.replace = some n := by
  simp [waitsUnder]

theorem Coherent.new {item : Item} (h : item.replace ≠ some 0) :
    Coherent { latest := item } :=
  ⟨h, nofun, fun _ => rfl⟩

theorem Coherent.become {s : Slot} (h : s.Coherent) (fate : Fate) :
    (s.become fate).Coherent :=
  ⟨h.positive, h.shared, h.single⟩

theorem Coherent.reuse {s : Slot} (h : s.Coherent) {n : Nat} {item : Item}
    (hs : s.latest.replace = some n) (hi : item.replace = some n) :
    (s.reuse item).Coherent := by
  have hsame : s.latest.replace = item.replace := hs.trans hi.symm
  refine ⟨fun hzero => h.positive (hsame.trans hzero), ?_, fun hnone => ?_⟩
  · intro i hmem
    rcases List.mem_cons.mp hmem with rfl | hmem
    · exact hsame
    · exact (h.shared i hmem).trans hsame
  · cases hi.symm.trans hnone

end Slot

/-- All slots there have been, in the order in which they were made. -/
structure Slots where
  all : List Slot := []
  closed : Bool := false
deriving DecidableEq, Repr

namespace Slots

/-- Do something to each slot that waits under a number. -/
def onNumber (n : Nat) (f : Slot → Slot) (all : List Slot) : List Slot :=
  all.map fun s => if s.waitsUnder n then f s else s

/-- The first slot that waits is given out. -/
def handFirst : List Slot → List Slot
  | [] => []
  | s :: rest => if s.waits then s.become .handed :: rest else s :: handFirst rest

/-- Put an item into a new slot, which stands last. -/
def make (r : Slots) (item : Item) : Slots :=
  { r with all := r.all ++ [{ latest := item }] }

/-- Put an item with a number into the slot that waits under it, or else into a new
one. -/
def fill (r : Slots) (n : Nat) (item : Item) : Slots :=
  if r.all.any (Slot.waitsUnder n) then
    { r with all := onNumber n (Slot.reuse item) r.all }
  else r.make item

/-- Put a packet into a slot. Without a number, or with zero, it gets a new one. -/
def add (r : Slots) (p : Packet) (callback : Callback) : Option Nat → Slots
  | none | some 0 => r.make ⟨p, none, callback⟩
  | some (n + 1) => r.fill (n + 1) ⟨p, some (n + 1), callback⟩

/-- The row of slots after a move. -/
def move (r : Slots) : Move → Slots
  | .add p replace callback => if r.closed then r else r.add p callback replace
  | .take n => { r with all := onNumber n (Slot.become .taken) r.all }
  | .pop => { r with all := handFirst r.all }
  | .close =>
      { all := r.all.map fun s => if s.waits then s.become .failed else s, closed := true }

def run (moves : List Move) : Slots :=
  moves.foldl move {}

theorem run_concat (moves : List Move) (m : Move) :
    run (moves ++ [m]) = (run moves).move m := by
  rw [run, List.foldl_append]
  rfl

/-- What waits in a row, in order. -/
def waiting (all : List Slot) : List Item :=
  (all.filter Slot.waits).map Slot.latest

/-- What a row has given out, in the order of the slots. -/
def given (all : List Slot) : List Item :=
  (all.filter fun s => s.fate = .handed).map Slot.latest

/-- Whoever stands before a slot that was given out does not wait. -/
def Ordered (all : List Slot) : Prop :=
  all.Pairwise fun s t => t.fate = .handed → s.waits = false

/-! ## What a row tells of its slots -/

theorem mem_waiting {all : List Slot} {i : Item} :
    i ∈ waiting all ↔ ∃ s ∈ all, s.waits = true ∧ s.latest = i := by
  simp [waiting, and_assoc]

@[simp] theorem waiting_append (all more : List Slot) :
    waiting (all ++ more) = waiting all ++ waiting more := by
  simp [waiting]

@[simp] theorem given_append (all more : List Slot) :
    given (all ++ more) = given all ++ given more := by
  simp [given]

theorem any_waitsUnder {all : List Slot} {n : Nat} :
    all.any (Slot.waitsUnder n) = true ↔ ∃ i ∈ waiting all, i.replace = some n := by
  simp [waiting, and_assoc]

theorem waiting_onReuse (n : Nat) (item : Item) (all : List Slot) :
    waiting (onNumber n (Slot.reuse item) all) =
      (waiting all).map fun i => if i.replace = some n then item else i := by
  induction all with
  | nil => rfl
  | cons s rest ih =>
      simp only [waiting, onNumber] at ih ⊢
      by_cases hw : s.waits = true <;> by_cases hn : s.latest.replace = some n <;>
        simp_all [Slot.reuse, Slot.waits]

theorem waiting_onTaken (n : Nat) (all : List Slot) :
    waiting (onNumber n (Slot.become .taken) all) =
      (waiting all).filter fun i => i.replace ≠ some n := by
  induction all with
  | nil => rfl
  | cons s rest ih =>
      simp only [waiting, onNumber] at ih ⊢
      by_cases hw : s.waits = true <;> by_cases hn : s.latest.replace = some n <;>
        simp_all [Slot.become, Slot.waits]

theorem waiting_ended (all : List Slot) :
    waiting (all.map fun s => if s.waits then s.become .failed else s) = [] := by
  rw [waiting, List.map_eq_nil_iff, List.filter_eq_nil_iff]
  intro s hs
  obtain ⟨t, -, rfl⟩ := List.mem_map.mp hs
  split
  · simp [Slot.waits, Slot.become]
  · assumption

/-- A change that leaves alone every slot that does not wait, and gives out none. -/
def Spares (f : Slot → Slot) : Prop :=
  ∀ s, f s = s ∨ s.waits = true ∧ (f s).fate ≠ .handed

theorem given_map {f : Slot → Slot} (hf : Spares f) (all : List Slot) :
    given (all.map f) = given all := by
  induction all with
  | nil => rfl
  | cons s rest ih =>
      simp only [given] at ih ⊢
      rcases hf s with hs | ⟨hw, hs⟩
      · simp only [List.map_cons, hs, List.filter_cons]
        split <;> simp [ih]
      · have hne : s.fate ≠ .handed := by
          intro h
          simp [Slot.waits, h] at hw
        simp [hs, hne, ih]

theorem Ordered.map {f : Slot → Slot} (hf : Spares f) {all : List Slot}
    (h : Ordered all) : Ordered (all.map f) := by
  refine List.Pairwise.map f (fun s t hst ht => ?_) h
  rcases hf t with hsame | ⟨-, hne⟩
  · rw [hsame] at ht
    have hs := hst ht
    rcases hf s with hsame | ⟨hw, -⟩
    · rw [hsame]
      exact hs
    · rw [hs] at hw
      cases hw
  · exact absurd ht hne

theorem Ordered.concat {all : List Slot} (h : Ordered all) (item : Item) :
    Ordered (all ++ [{ latest := item }]) := by
  refine List.pairwise_append.mpr ⟨h, List.pairwise_singleton _ _, ?_⟩
  intro s _ t ht hhanded
  rw [List.mem_singleton.mp ht] at hhanded
  cases hhanded

theorem spares_reuse (n : Nat) (item : Item) :
    Spares fun s => if s.waitsUnder n then s.reuse item else s := by
  intro s
  by_cases h : s.waitsUnder n = true
  · have hw : s.fate = .waiting := by simpa [Slot.waits] using (Slot.waitsUnder_iff.mp h).1
    right
    simp [h, Slot.reuse, Slot.waits, hw]
  · exact .inl (if_neg h)

theorem spares_become {fate : Fate} (hf : fate ≠ .handed) {p : Slot → Bool}
    (hp : ∀ s, p s = true → s.waits = true) :
    Spares fun s => if p s then s.become fate else s := by
  intro s
  by_cases h : p s = true
  · right
    simp [h, hp s h, Slot.become, hf]
  · exact .inl (if_neg h)

@[simp] theorem waiting_handFirst (all : List Slot) :
    waiting (handFirst all) = (waiting all).tail := by
  induction all with
  | nil => rfl
  | cons s rest ih =>
      rw [handFirst]
      by_cases hw : s.waits = true
      · have hdone : (s.become .handed).waits = false := rfl
        simp [waiting, hw, hdone]
      · simpa [waiting, hw] using ih

/-- Behind a slot that waits nothing has been given out. -/
theorem given_of_waits {s : Slot} {rest : List Slot} (h : Ordered (s :: rest))
    (hw : s.waits = true) : given (s :: rest) = [] := by
  rw [given, List.map_eq_nil_iff, List.filter_eq_nil_iff]
  intro t ht hhanded
  rcases List.mem_cons.mp ht with rfl | hmem
  · simp [Slot.waits, of_decide_eq_true hhanded] at hw
  · rw [(List.pairwise_cons.mp h).1 t hmem (of_decide_eq_true hhanded)] at hw
    cases hw

/-- What is given out next stands behind everything given out before. -/
theorem given_handFirst {all : List Slot} (h : Ordered all) :
    given (handFirst all) = given all ++ (waiting all).head?.toList := by
  induction all with
  | nil => rfl
  | cons s rest ih =>
      rw [handFirst]
      by_cases hw : s.waits = true
      · -- Nothing behind `s` was given out, so `s` itself comes last.
        have hnone := given_of_waits h hw
        have hrest : given rest = [] := by
          rw [given, List.filter_cons] at hnone
          split at hnone
          · cases hnone
          · exact hnone
        have hlast : given (s.become .handed :: rest) = s.latest :: given rest := rfl
        rw [if_pos hw, hlast, hrest, hnone]
        simp [waiting, hw]
      · have hwait : waiting (s :: rest) = waiting rest := by simp [waiting, hw]
        have hrest := ih (List.pairwise_cons.mp h).2
        rw [if_neg hw, hwait]
        simp only [given, List.filter_cons] at hrest ⊢
        split
        · rw [List.map_cons, hrest]
          rfl
        · exact hrest

theorem Ordered.handFirst {all : List Slot} (h : Ordered all) :
    Ordered (handFirst all) := by
  induction all with
  | nil => exact h
  | cons s rest ih =>
      obtain ⟨hs, hrest⟩ := List.pairwise_cons.mp h
      rw [Slots.handFirst]
      by_cases hw : s.waits = true
      · rw [if_pos hw]
        exact List.pairwise_cons.mpr ⟨fun _ _ _ => rfl, hrest⟩
      · rw [if_neg hw]
        exact List.pairwise_cons.mpr ⟨fun _ _ _ => by simpa using hw, ih hrest⟩

theorem mem_handFirst {all : List Slot} {t : Slot} (h : t ∈ handFirst all) :
    t ∈ all ∨ ∃ s ∈ all, t = s.become .handed := by
  induction all with
  | nil => cases h
  | cons s rest ih =>
      rw [handFirst] at h
      split at h
      · rcases List.mem_cons.mp h with rfl | hmem
        · exact .inr ⟨s, List.mem_cons_self, rfl⟩
        · exact .inl (List.mem_cons_of_mem s hmem)
      · rcases List.mem_cons.mp h with rfl | hmem
        · exact .inl List.mem_cons_self
        · rcases ih hmem with hin | ⟨u, hu, rfl⟩
          · exact .inl (List.mem_cons_of_mem s hin)
          · exact .inr ⟨u, List.mem_cons_of_mem s hu, rfl⟩

end Slots

/-! ## The outbox and its row -/

/-- An outbox, its row of slots, and what was given out so far. -/
structure Row (o : Outbox) (r : Slots) (out : List Item) : Prop where
  closed : o.closed = r.closed
  empty : o.closed = true → o.items = []
  items : o.items = Slots.waiting r.all
  given : out = Slots.given r.all
  distinct : Distinct o.items
  order : Slots.Ordered r.all
  coherent : ∀ s ∈ r.all, s.Coherent

namespace Row

variable {o : Outbox} {r : Slots} {out : List Item}

theorem make (h : Row o r out) {item : Item} (hopen : o.closed = false)
    (hzero : item.replace ≠ some 0)
    (hnew : ∀ n, item.replace = some n → ∀ i ∈ o.items, i.replace ≠ some n) :
    Row { o with items := o.items ++ [item] } (r.make item) out := by
  refine ⟨h.closed, fun hc => ?_, ?_, ?_, h.distinct.concat hnew, h.order.concat item, ?_⟩
  · cases hopen.symm.trans hc
  · show o.items ++ [item] = Slots.waiting (r.all ++ [{ latest := item }])
    rw [Slots.waiting_append, h.items]
    rfl
  · show out = Slots.given (r.all ++ [{ latest := item }])
    rw [Slots.given_append, h.given]
    exact (List.append_nil _).symm
  · intro s hs
    rcases List.mem_append.mp hs with hmem | hmem
    · exact h.coherent s hmem
    · rw [List.mem_singleton.mp hmem]
      exact .new hzero

/-- An item goes into the slot that waits under its number. -/
theorem reuse (h : Row o r out) (hopen : o.closed = false) {pre post : List Item}
    {i item : Item} {n : Nat} (hitems : o.items = pre ++ i :: post)
    (hi : i.replace = some n) (hn : item.replace = some n) :
    Row { o with items := pre ++ item :: post }
      { r with all := Slots.onNumber n (Slot.reuse item) r.all } out := by
  have hdistinct := h.distinct
  rw [hitems] at hdistinct
  have honly := hdistinct.only hi
  have hspares := Slots.spares_reuse n item
  refine ⟨h.closed, fun hc => ?_, ?_, ?_, hdistinct.replaced (hn.trans hi.symm), ?_, ?_⟩
  · cases hopen.symm.trans hc
  · -- The row exchanges all that waits under the number, the outbox only the first.
    have hkeep : ∀ items : List Item, (∀ j ∈ items, j.replace ≠ some n) →
        (items.map fun j => if j.replace = some n then item else j) = items := by
      intro items hne
      refine (List.map_congr_left fun j hj => if_neg (hne j hj)).trans (List.map_id _)
    rw [Slots.waiting_onReuse, ← h.items, hitems, List.map_append, List.map_cons,
      if_pos hi, hkeep pre fun j hj => honly j (List.mem_append_left _ hj),
      hkeep post fun j hj => honly j (List.mem_append_right _ hj)]
  · exact h.given.trans (Slots.given_map hspares r.all).symm
  · exact h.order.map hspares
  · intro s hs
    obtain ⟨t, ht, rfl⟩ := List.mem_map.mp hs
    split
    · next hunder =>
        exact (h.coherent t ht).reuse (Slot.waitsUnder_iff.mp hunder).2 hn
    · exact h.coherent t ht

theorem add (h : Row o r out) (p : Packet) (replace : Option Nat) (c : Callback) :
    Row (o.move (.add p replace c)) (r.move (.add p replace c)) out := by
  rw [Outbox.move, Slots.move, ← h.closed]
  rcases o.add_cases p replace c with ⟨hclosed, hadd⟩ |
    ⟨hopen, n, pre, i, post, hslot, hitems, hi, hadd⟩ | ⟨hopen, hnew, hadd⟩
  · rw [hadd, if_pos hclosed]
    exact h
  · obtain ⟨rfl, hpos⟩ := slot_eq_some.mp hslot
    obtain ⟨k, rfl⟩ := Nat.exists_eq_add_one_of_ne_zero (Nat.ne_of_gt hpos)
    have hmem : i ∈ Slots.waiting r.all := by
      rw [← h.items, hitems]
      exact List.mem_append_right pre List.mem_cons_self
    have hany : r.all.any (Slot.waitsUnder (k + 1)) = true :=
      Slots.any_waitsUnder.mpr ⟨i, hmem, hi⟩
    rw [hadd, if_neg (by simp [hopen]), Slots.add, Slots.fill, if_pos hany]
    exact h.reuse hopen hitems hi rfl
  · rw [hadd, if_neg (by simp [hopen])]
    cases replace with
    | none => exact h.make hopen (by simp [slot]) (by simp [slot])
    | some n =>
        cases n with
        | zero => exact h.make hopen (by simp [slot]) (by simp [slot])
        | succ k =>
            have hslot : slot (some (k + 1)) = some (k + 1) :=
              slot_eq_some.mpr ⟨rfl, Nat.succ_pos k⟩
            have hany : ¬ r.all.any (Slot.waitsUnder (k + 1)) = true := by
              intro hany
              obtain ⟨i, hi, hin⟩ := Slots.any_waitsUnder.mp hany
              rw [← h.items] at hi
              exact hnew _ hslot i hi hin
            rw [Slots.add, Slots.fill, if_neg hany, hslot]
            refine h.make hopen (by simp) fun n hn => ?_
            cases hn
            exact hnew _ hslot

theorem take (h : Row o r out) (n : Nat) :
    Row (o.move (.take n)) (r.move (.take n)) out := by
  have hspares : Slots.Spares fun s => if s.waitsUnder n then s.become .taken else s :=
    Slots.spares_become (by decide) fun s hs => (Slot.waitsUnder_iff.mp hs).1
  have hitems : (o.move (.take n)).items = o.items.filter fun i => i.replace ≠ some n := by
    have hkeep : ∀ items : List Item, (∀ j ∈ items, j.replace ≠ some n) →
        items.filter (fun i => i.replace ≠ some n) = items :=
      fun items hne => List.filter_eq_self.mpr fun j hj => decide_eq_true (hne j hj)
    rw [Outbox.move]
    rcases o.take_cases n with ⟨htake, hnone⟩ | ⟨-, pre, i, post, hitems, hi, htake⟩
    · rw [htake, hkeep]
      rcases hnone with rfl | hne
      · -- Zero is no number, and no slot has it.
        intro j hj
        rw [h.items] at hj
        obtain ⟨s, hs, -, rfl⟩ := Slots.mem_waiting.mp hj
        exact (h.coherent s hs).positive
      · exact hne
    · have honly := (hitems ▸ h.distinct).only hi
      rw [htake, hitems, List.filter_append, List.filter_cons_of_neg (by simp [hi]),
        hkeep pre fun j hj => honly j (List.mem_append_left _ hj),
        hkeep post fun j hj => honly j (List.mem_append_right _ hj)]
  have hclosed : (o.move (.take n)).closed = o.closed := by
    rw [Outbox.move]
    rcases o.take_cases n with ⟨htake, -⟩ | ⟨-, _, _, _, -, -, htake⟩ <;> rw [htake]
  refine ⟨hclosed.trans h.closed, fun hc => ?_, ?_, ?_, h.distinct.move _, ?_, ?_⟩
  · rw [hitems, h.empty (hclosed.symm.trans hc)]
    rfl
  · rw [hitems, h.items]
    exact (Slots.waiting_onTaken n r.all).symm
  · exact h.given.trans (Slots.given_map hspares r.all).symm
  · exact h.order.map hspares
  · intro s hs
    obtain ⟨t, ht, rfl⟩ := List.mem_map.mp hs
    split
    · exact (h.coherent t ht).become _
    · exact h.coherent t ht

theorem pop (h : Row o r out) :
    Row (o.move .pop) (r.move .pop) (out ++ o.handed .pop) := by
  have hmove : (o.move .pop).closed = o.closed ∧ (o.move .pop).items = o.items.tail ∧
      o.handed .pop = o.items.head?.toList := by
    rw [Outbox.move, handed]
    rcases o.pop_cases with ⟨hpop, hnone⟩ | ⟨-, i, rest, hitems, hpop⟩
    · have hempty : o.items = [] := hnone.elim h.empty id
      rw [hpop, hempty]
      exact ⟨rfl, hempty, rfl⟩
    · rw [hpop, hitems]
      exact ⟨rfl, rfl, rfl⟩
  obtain ⟨hclosed, hitems, hhanded⟩ := hmove
  refine ⟨hclosed.trans h.closed, fun hc => ?_, ?_, ?_, h.distinct.move .pop,
    h.order.handFirst, fun t ht => ?_⟩
  · rw [hitems, h.empty (hclosed.symm.trans hc)]
    rfl
  · rw [hitems, h.items]
    exact (Slots.waiting_handFirst r.all).symm
  · rw [hhanded, h.items, h.given]
    exact (Slots.given_handFirst h.order).symm
  · rcases Slots.mem_handFirst ht with hmem | ⟨s, hs, rfl⟩
    · exact h.coherent t hmem
    · exact (h.coherent s hs).become .handed

theorem close (h : Row o r out) : Row (o.move .close) (r.move .close) out := by
  have hspares : Slots.Spares fun s => if s.waits then s.become .failed else s :=
    Slots.spares_become (by decide) fun _ hs => hs
  have hmove : (o.move .close).closed = true ∧ (o.move .close).items = [] := by
    rw [Outbox.move]
    rcases o.close_cases with ⟨hc, hclose⟩ | ⟨-, hclose⟩
    · rw [hclose]
      exact ⟨hc, h.empty hc⟩
    · rw [hclose]
      exact ⟨rfl, rfl⟩
  refine ⟨hmove.1, fun _ => hmove.2, ?_, ?_, h.distinct.move .close, h.order.map hspares, ?_⟩
  · rw [hmove.2]
    exact (Slots.waiting_ended r.all).symm
  · exact h.given.trans (Slots.given_map hspares r.all).symm
  · intro s hs
    obtain ⟨t, ht, rfl⟩ := List.mem_map.mp hs
    split
    · exact (h.coherent t ht).become .failed
    · exact h.coherent t ht

theorem step (h : Row o r out) (m : Move) :
    Row (o.move m) (r.move m) (out ++ o.handed m) := by
  cases m with
  | pop => exact h.pop
  | add p replace c => exact (List.append_nil out).symm ▸ h.add p replace c
  | take n => exact (List.append_nil out).symm ▸ h.take n
  | close => exact (List.append_nil out).symm ▸ h.close

end Row

/-- Whatever is done to an outbox that was just opened, done to an empty row it has the
same outcome. -/
theorem row_run (device : String) (moves : List Move) :
    Row (run { device } moves) (Slots.run moves) (handedOut { device } moves) := by
  induction moves using List.reverseRecOn with
  | nil => exact ⟨rfl, fun _ => rfl, rfl, rfl, List.nodup_nil, .nil, nofun⟩
  | append_singleton moves m ih =>
      rw [run_concat, Slots.run_concat, handedOut_concat]
      exact ih.step m

/-! ## Closed outboxes -/

theorem closed_run (o : Outbox) (moves : List Move) :
    (o.run moves).closed = true ↔ o.closed = true ∨ .close ∈ moves := by
  induction moves using List.reverseRecOn with
  | nil => simp [run]
  | append_singleton moves m ih =>
      rw [run_concat, closed_move, ih, List.mem_append, List.mem_singleton, or_assoc,
        eq_comm (a := m)]

theorem handedOut_of_closed {o : Outbox} (h : o.closed = true) (moves : List Move) :
    o.handedOut moves = [] := by
  induction moves generalizing o with
  | nil => rfl
  | cons m rest ih =>
      have hnone : o.handed m = [] := by
        cases m with
        | pop => simp [handed, pop?, h]
        | _ => rfl
      rw [handedOut, hnone, ih ((o.closed_move m).mpr (.inl h)), List.append_nil]

/-- Whatever is done to an outbox, it is the row of its slots: what is unsent are the
slots that wait, in the order in which they were made and each with the packet that was
put into it last, and what was given out was given out in the order of the slots, each
once. Numbers of unsent packets are positive and distinct, and a slot without a number
is used once. An outbox that was closed gives out nothing any more and refuses every
packet. -/
theorem run_refines_slots (device : String) (moves : List Move) :
    let o := run { device } moves
    let slots := (Slots.run moves).all
    o.items = Slots.waiting slots ∧
    Distinct o.items ∧
    handedOut { device } moves = Slots.given slots ∧
    (∀ s ∈ slots, s.Coherent) ∧
    (o.closed = true ↔ .close ∈ moves) ∧
    (.close ∈ moves → ∀ later, o.handedOut later = [] ∧
      ∀ p replace c, (o.run later).add p replace c =
        (.refused, o.run later, c.tell (.failure .notConnected))) := by
  intro o slots
  have hrow := row_run device moves
  have hclosed : o.closed = true ↔ .close ∈ moves := by
    simpa using closed_run { device } moves
  refine ⟨hrow.items, hrow.distinct, hrow.given, hrow.coherent, hclosed, ?_⟩
  intro hmem later
  have hc := hclosed.mpr hmem
  refine ⟨handedOut_of_closed hc later, fun p replace c => ?_⟩
  rw [add, if_pos ((o.closed_run later).mpr (.inl hc))]

/-- A number is free again once its packet was given out, and its place is kept until
then. -/
example :
    let p : Nat → Packet := fun n => { id := n, type := "ping" }
    let c : Callback := .log "ping"
    let moves : List Move :=
      [.add (p 1) (some 7) c, .pop, .add (p 2) (some 7) c, .add (p 3) (some 0) c,
        .add (p 4) (some 7) c, .add (p 5) (some 0) c, .pop, .pop, .pop, .pop]
    (handedOut { device := "peer" } moves).map (fun i => i.packet.id) = [1, 4, 3, 5] := by
  decide

end Tether.Outbox
