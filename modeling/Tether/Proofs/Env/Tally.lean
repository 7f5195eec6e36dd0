import Tether.Env.Work
import Tether.Proofs.Outbox.Move

/-!
# What is owed to whoever sends a packet

Whoever sends a packet is owed one last word about it. As long as the packet is unsent
or a delivery of it waits at a link, the word is outstanding; after that it was said.
`Env.tally` counts both for one name.

Here is where a word can be. An outbox holds it until the packet leaves, gives way, or
fails with the outbox. A delivery holds it until it ends, and if it stops, where it
stopped (`Course.Pays`). A link that crashes ends a worker without a word, so
deliveries pay only over links that do not (`Links.Calm`).
-/

namespace Tether

/-- The callback is that of someone with a name. -/
def Callback.isOf (name : String) : Callback → Bool
  | named n _ => n = name
  | _ => false

/-- Someone with a name is told the last word about a packet. -/
def Event.settles (name : String) : Event → Bool
  | .told n report => n = name && report.isFinal
  | _ => false

variable {name : String}

theorem Callback.countP_tell (c : Callback) (r : Report) :
    (c.tell r).countP (Event.settles name) = if c.isOf name && r.isFinal then 1 else 0 := by
  cases c with
  | named n quiet =>
      cases r <;> cases quiet <;>
        simp [Callback.tell, Event.settles, Callback.isOf, Report.isFinal, List.countP_cons]
  | log type => cases r <;> rfl
  | pairing device => cases r <;> rfl

/-! ## Links that do not crash -/

namespace Links

/-- No link crashes. -/
def Calm (ls : Links) : Prop :=
  ∀ e ∈ ls, e.2.conduct ≠ .crash

theorem Calm.link {ls : Links} (h : ls.Calm) (id : String) :
    (ls.link id).conduct ≠ .crash := by
  induction ls with
  | nil => exact nofun
  | cons e rest ih =>
      obtain ⟨hfirst, hrest⟩ := List.forall_mem_cons.mp h
      rw [Links.link, Dict.find?]
      split
      · exact hfirst
      · exact ih hrest

theorem Calm.change {ls : Links} (h : ls.Calm) (id : String) {f : Link → Link}
    (hf : ∀ l, (f l).conduct = l.conduct) : (ls.change id f).Calm := by
  intro e he
  obtain ⟨e, hmem, rfl⟩ := List.mem_map.mp he
  split
  · show (f e.2).conduct ≠ .crash
    rw [hf]
    exact h e hmem
  · exact h e hmem

theorem Calm.pass {ls ls' : Links} (h : ls.Calm) {id : String}
    (hp : ls.pass? id = some ls') : ls'.Calm := by
  simp only [pass?] at hp
  split at hp
  · cases hp
    exact h
  · split at hp
    · cases hp
    · cases hp
      exact h.change id fun _ => rfl

end Links

/-! ## Deliveries -/

namespace Delivery

/-- What a delivery that stopped still owes to a name. -/
def Halt.owed (name : String) : Halt → Nat
  | .waiting w => if w.delivery.callback.isOf name then 1 else 0
  | .ended _ | .crashed => 0

/-- The course of a packet did not crash, and the last word about the packet was said
or is owed. -/
structure Course.Pays (name : String) (d : Delivery) (c : Course) : Prop where
  whole : c.halt ≠ .crashed
  calm : c.links.Calm
  word : c.events.countP (Event.settles name) + c.halt.owed name =
    if d.callback.isOf name then 1 else 0

theorem Course.Pays.after {d : Delivery} {c : Course} (h : c.Pays name d)
    {earlier : List Event} (he : earlier.countP (Event.settles name) = 0) :
    (c.after earlier).Pays name d := by
  refine ⟨h.whole, h.calm, ?_⟩
  rw [← h.word]
  simp [Course.after, List.countP_append, he]

theorem countP_reported (d : Delivery) (l : Link) :
    (d.reported l).countP (Event.settles name) = 0 := by
  rw [List.countP_eq_zero]
  intro event hevent
  obtain ⟨percent, -, htold⟩ := List.mem_flatMap.mp hevent
  have hnone : (d.callback.tell (.progress (min percent 100))).countP
      (Event.settles name) = 0 := by
    simp [Callback.countP_tell, Report.isFinal]
  exact List.countP_eq_zero.mp hnone event htold

theorem pays_hand (d : Delivery) (id : String) {ls : Links} (h : ls.Calm)
    {next : String → Course} (hnext : ∀ reason, (next reason).Pays name d) :
    (d.hand id ls next).Pays name d := by
  simp only [hand]
  split
  · refine ⟨nofun, h, ?_⟩
    simp [List.countP_append, countP_reported, Callback.countP_tell, Report.isFinal,
      Halt.owed, Event.settles]
  · exact (hnext _).after (d.countP_reported _)
  · exact (hnext _).after (d.countP_reported _)
  · next hcrash => exact absurd hcrash (h.link id)

theorem pays_tryLinks (d : Delivery) (rest : LinkSet) {ls : Links} (h : ls.Calm)
    (failures : List String) : (d.tryLinks rest ls failures).Pays name d := by
  induction rest generalizing ls failures with
  | nil =>
      refine ⟨nofun, h, ?_⟩
      simp [tryLinks, Callback.countP_tell, Report.isFinal, Halt.owed]
  | cons id rest ih =>
      rw [tryLinks]
      refine Course.Pays.after ?_ rfl
      split
      · exact ⟨nofun, h, by simp [Halt.owed]⟩
      · next ls' hpass =>
          have hcalm := h.pass hpass
          exact d.pays_hand id hcalm fun reason => ih hcalm _

theorem pays_run (d : Delivery) {ls : Links} (h : ls.Calm) : (d.run ls).Pays name d :=
  d.pays_tryLinks d.links h []

theorem pays_resume (w : Waiting) {ls : Links} (h : ls.Calm) :
    (w.resume ls).Pays name w.delivery :=
  w.delivery.pays_hand w.link h fun _ => w.delivery.pays_tryLinks w.rest h _

end Delivery

/-! ## Unsent packets -/

namespace Outbox

/-- For how many of some items someone with a name waits. -/
def awaited (name : String) (items : List Item) : Nat :=
  items.countP fun i => i.callback.isOf name

/-- The unsent items whose place a packet with a replacement number would take. -/
def under (o : Outbox) (replace : Option Nat) : List Item :=
  o.items.filter fun i => i.replace.isSome && i.replace = slot replace

@[simp] theorem awaited_nil : awaited name [] = 0 := rfl

theorem awaited_append (items items' : List Item) :
    awaited name (items ++ items') = awaited name items + awaited name items' :=
  List.countP_append

theorem awaited_cons (i : Item) (items : List Item) :
    awaited name (i :: items) = awaited name items + if i.callback.isOf name then 1 else 0 :=
  List.countP_cons

theorem under_eq_nil {o : Outbox} {replace : Option Nat}
    (h : ∀ n, slot replace = some n → ∀ i ∈ o.items, i.replace ≠ some n) :
    o.under replace = [] := by
  rw [under, List.filter_eq_nil_iff]
  intro i hi hmem
  obtain ⟨hsome, heq⟩ := Bool.and_eq_true_iff.mp hmem
  obtain ⟨n, hn⟩ := Option.isSome_iff_exists.mp hsome
  exact h n ((of_decide_eq_true heq).symm.trans hn) i hi hn

theorem under_eq_singleton {o : Outbox} (h : Distinct o.items) {pre post : List Item}
    {i : Item} (hitems : o.items = pre ++ i :: post) {replace : Option Nat} {n : Nat}
    (hslot : slot replace = some n) (hi : i.replace = some n) : o.under replace = [i] := by
  rw [hitems] at h
  have hothers := h.only hi
  have hnone : (pre ++ post).filter
      (fun i => i.replace.isSome && i.replace = slot replace) = [] := by
    rw [List.filter_eq_nil_iff, hslot]
    intro j hj hmem
    exact hothers j hj (of_decide_eq_true (Bool.and_eq_true_iff.mp hmem).2)
  rw [List.filter_append] at hnone
  obtain ⟨hpre, hpost⟩ := List.append_eq_nil_iff.mp hnone
  rw [under, hitems, List.filter_append, List.filter_cons_of_pos (by simp [hi, hslot]),
    hpre, hpost, List.nil_append]

/-- An open outbox tells nobody anything when a packet is added, and holds the packet in
place of what gave way to it. -/
theorem awaited_add (name : String) {o : Outbox} (hopen : o.closed = false) (h : Distinct o.items)
    (p : Packet) (replace : Option Nat) (c : Callback) :
    (o.add p replace c).2.2 = [] ∧
      awaited name (o.add p replace c).2.1.items + awaited name (o.under replace) =
        awaited name o.items + if c.isOf name then 1 else 0 := by
  rcases o.add_cases p replace c with ⟨hclosed, -⟩ |
    ⟨-, n, pre, i, post, hslot, hitems, hi, hadd⟩ | ⟨-, hnew, hadd⟩
  · rw [hopen] at hclosed
    cases hclosed
  · rw [under_eq_singleton h hitems hslot hi, hadd, hitems]
    refine ⟨rfl, ?_⟩
    simp only [awaited_append, awaited_cons, awaited_nil]
    omega
  · rw [under_eq_nil hnew, hadd, awaited_append]
    exact ⟨rfl, by simp [awaited]⟩

theorem awaited_take (name : String) {o : Outbox} (h : Distinct o.items) (n : Nat) :
    awaited name (o.take n).2.items + awaited name (o.under (some n)) =
      awaited name o.items := by
  rcases o.take_cases n with ⟨htake, hnone⟩ | ⟨hpos, pre, i, post, hitems, hi, htake⟩
  · rw [htake, under_eq_nil]
    · rfl
    · intro m hm i hmem
      obtain ⟨heq, hpos⟩ := slot_eq_some.mp hm
      cases heq
      exact hnone.resolve_left (Nat.ne_of_gt hpos) i hmem
  · rw [under_eq_singleton h hitems (slot_eq_some.mpr ⟨rfl, hpos⟩) hi, htake, hitems]
    simp only [awaited_append, awaited_cons, awaited_nil]
    omega

/-- Whoever waits for what is unsent is told when the outbox closes. -/
theorem awaited_close (name : String) {o : Outbox} (hopen : o.closed = false) :
    o.close.1.items = [] ∧
      o.close.2.countP (Event.settles name) = awaited name o.items := by
  rcases o.close_cases with ⟨hclosed, -⟩ | ⟨-, hclose⟩
  · rw [hopen] at hclosed
    cases hclosed
  · rw [hclose]
    refine ⟨rfl, ?_⟩
    generalize o.items = items
    induction items with
    | nil => rfl
    | cons i rest ih =>
        rw [List.flatMap_cons, List.countP_append, ih, Callback.countP_tell, awaited_cons,
          Nat.add_comm]
        simp [Report.isFinal]

end Outbox

/-! ## What is outstanding -/

/-- The delivery that a job lets go on. -/
def Job.delivery? : Job → Option Delivery.Waiting
  | .resume _ w => some w
  | _ => none

namespace Env

/-- The deliveries that have not come to their end: those that wait for a permit, and
those that got one and wait for their turn. -/
def inFlight (e : Env) : List Delivery.Waiting :=
  e.parked.map Prod.snd ++ e.ready.filterMap Job.delivery?

/-- How many deliveries in flight someone with a name waits for. -/
def pending (name : String) (e : Env) : Nat :=
  e.inFlight.countP fun w => w.delivery.callback.isOf name

/-- How many last words someone with a name was told. -/
def told (name : String) (e : Env) : Nat :=
  e.trace.countP (Event.settles name)

/-- How many unsent packets someone with a name waits for. -/
def unsent (name : String) (e : Env) : Nat :=
  Outbox.awaited name (e.outboxes.flatMap Outbox.items)

/-- How many last words are outstanding. -/
def owed (name : String) (e : Env) : Nat :=
  e.unsent name + e.pending name

/-- How many last words there are in all, said or outstanding. -/
def tally (name : String) (e : Env) : Nat :=
  e.told name + e.owed name

variable (name) (e : Env)

theorem record_nil : e.record [] = e := by
  simp [record]

theorem told_record (events : List Event) :
    (e.record events).told name = e.told name + events.countP (Event.settles name) :=
  List.countP_append

theorem inFlight_record (events : List Event) : (e.record events).inFlight = e.inFlight := by
  have hnone : (events.filterMap job?).filterMap Job.delivery? = [] := by
    rw [List.filterMap_filterMap, List.filterMap_eq_nil_iff]
    intro event _
    cases event <;> rfl
  rw [inFlight, record, List.filterMap_append, hnone, List.append_nil]
  rfl

theorem pending_record (events : List Event) :
    (e.record events).pending name = e.pending name := by
  rw [pending, inFlight_record]
  rfl

theorem owed_record (events : List Event) : (e.record events).owed name = e.owed name := by
  rw [owed, pending_record]
  rfl

theorem tally_record (events : List Event) :
    (e.record events).tally name = e.tally name + events.countP (Event.settles name) := by
  rw [tally, told_record, owed_record, tally, Nat.add_right_comm]

theorem inFlight_spawn (job : Job) :
    (e.spawn job).inFlight = e.inFlight ++ job.delivery?.toList := by
  have hjob : [job].filterMap Job.delivery? = job.delivery?.toList := by
    cases h : job.delivery? <;> simp [h]
  rw [inFlight, spawn, List.filterMap_append, hjob, ← List.append_assoc]
  rfl

theorem pending_spawn (job : Job) :
    (e.spawn job).pending name = e.pending name +
      job.delivery?.toList.countP fun w => w.delivery.callback.isOf name := by
  rw [pending, inFlight_spawn, List.countP_append]
  rfl

theorem tally_spawn {job : Job} (h : job.delivery? = none) :
    (e.spawn job).tally name = e.tally name := by
  rw [tally, owed, pending_spawn, h]
  rfl

/-- A delivery that comes to wait at a link brings its word along. -/
theorem tally_park (runner : Runner) (w : Delivery.Waiting) :
    { e with parked := e.parked ++ [(runner, w)] }.tally name =
      e.tally name + if w.delivery.callback.isOf name then 1 else 0 := by
  simp only [tally, owed, told, unsent, pending, inFlight, List.map_append, List.countP_append,
    List.map_singleton, List.countP_singleton]
  omega

/-- A delivery that got its permit takes its word along when it goes on. -/
theorem tally_eraseReady {k : Nat} {runner : Runner} {w : Delivery.Waiting}
    (h : e.ready[k]? = some (.resume runner w)) :
    { e with ready := e.ready.eraseIdx k }.tally name +
        (if w.delivery.callback.isOf name then 1 else 0) = e.tally name := by
  obtain ⟨hk, hjob⟩ := List.getElem?_eq_some_iff.mp h
  have hready : e.ready = e.ready.take k ++ .resume runner w :: e.ready.drop (k + 1) := by
    rw [← hjob, List.getElem_cons_drop, List.take_append_drop]
  have hpending : ({ e with ready := e.ready.eraseIdx k } : Env).pending name +
      (if w.delivery.callback.isOf name then 1 else 0) = e.pending name := by
    simp only [pending, inFlight, List.eraseIdx_eq_take_drop_succ]
    conv => rhs; rw [hready]
    simp [Job.delivery?, List.filterMap_append, List.countP_append, List.countP_cons]
    omega
  simp only [tally, owed, told, unsent] at hpending ⊢
  omega

theorem unpark_eq_some {id : String} {parked rest : List (Runner × Delivery.Waiting)}
    {p : Runner × Delivery.Waiting} (h : unpark? id parked = some (p, rest)) :
    ∃ before behind, parked = before ++ p :: behind ∧ rest = before ++ behind := by
  induction parked generalizing rest with
  | nil => cases h
  | cons q others ih =>
      rw [unpark?] at h
      split at h
      · cases h
        exact ⟨[], others, rfl, rfl⟩
      · obtain ⟨⟨p', rest'⟩, hrest, heq⟩ := Option.map_eq_some_iff.mp h
        cases heq
        obtain ⟨before, behind, rfl, rfl⟩ := ih hrest
        exact ⟨q :: before, behind, rfl, rfl⟩

/-- A delivery that gets a permit waits for its turn instead. -/
theorem tally_unpark {id : String} {runner : Runner} {w : Delivery.Waiting}
    {parked : List (Runner × Delivery.Waiting)}
    (h : unpark? id e.parked = some ((runner, w), parked)) :
    ({ e with parked }.spawn (.resume runner w)).tally name = e.tally name := by
  obtain ⟨before, behind, hold, rfl⟩ := unpark_eq_some h
  have hpending : (({ e with parked := before ++ behind } : Env).spawn
      (.resume runner w)).pending name = e.pending name := by
    rw [pending_spawn, pending, pending, inFlight, inFlight, hold]
    simp [Job.delivery?, List.countP_append, List.countP_cons]
    omega
  simp only [tally, owed, hpending]
  rfl

theorem outbox_of_le {o : Nat} (h : e.outboxes.length ≤ o) :
    e.outbox o = ⟨"", [], true, .stopped⟩ := by
  rw [outbox, List.getElem?_eq_none h]
  rfl

theorem outbox_of_lt {o : Nat} (h : o < e.outboxes.length) :
    e.outbox o = e.outboxes[o] := by
  rw [outbox, List.getElem?_eq_getElem h]
  rfl

theorem setOutbox_of_le {o : Nat} (h : e.outboxes.length ≤ o) (box : Outbox) :
    e.setOutbox o box = e := by
  rw [setOutbox, List.set_eq_of_length_le h]

theorem unsent_eq_zero :
    e.unsent name = 0 ↔ ∀ o, Outbox.awaited name (e.outbox o).items = 0 := by
  rw [unsent, Outbox.awaited, List.countP_eq_zero]
  constructor
  · intro h o
    by_cases ho : o < e.outboxes.length
    · rw [e.outbox_of_lt ho, Outbox.awaited, List.countP_eq_zero]
      exact fun i hi => h i (List.mem_flatMap.mpr ⟨_, List.getElem_mem ho, hi⟩)
    · rw [e.outbox_of_le (Nat.le_of_not_lt ho)]
      rfl
  · intro h i hi
    obtain ⟨box, hbox, hitem⟩ := List.mem_flatMap.mp hi
    obtain ⟨o, ho, rfl⟩ := List.getElem_of_mem hbox
    rw [← e.outbox_of_lt ho] at hitem
    exact List.countP_eq_zero.mp (h o) i hitem

theorem lt_of_open {e : Env} {o : Nat} (h : (e.outbox o).closed = false) :
    o < e.outboxes.length := by
  by_contra hle
  rw [e.outbox_of_le (Nat.le_of_not_lt hle)] at h
  cases h

/-- Only the outbox that is exchanged makes a difference. One that never was cannot be
exchanged, and nothing is waited for in it. -/
theorem tally_setOutbox {o : Nat} (box : Outbox)
    (h : o < e.outboxes.length ∨ Outbox.awaited name box.items = 0) :
    (e.setOutbox o box).tally name + Outbox.awaited name (e.outbox o).items =
      e.tally name + Outbox.awaited name box.items := by
  by_cases ho : o < e.outboxes.length
  · have hsum : (e.setOutbox o box).unsent name + Outbox.awaited name (e.outbox o).items =
        e.unsent name + Outbox.awaited name box.items := by
      -- Both sums are cut where the outbox is exchanged.
      have hboxes : e.outboxes =
          e.outboxes.take o ++ e.outboxes[o] :: e.outboxes.drop (o + 1) := by
        rw [List.getElem_cons_drop, List.take_append_drop]
      have hold : e.unsent name =
          Outbox.awaited name ((e.outboxes.take o).flatMap Outbox.items) +
            (Outbox.awaited name e.outboxes[o].items +
              Outbox.awaited name ((e.outboxes.drop (o + 1)).flatMap Outbox.items)) := by
        rw [unsent]
        conv => lhs; rw [hboxes]
        rw [List.flatMap_append, List.flatMap_cons, Outbox.awaited_append,
          Outbox.awaited_append]
      rw [hold, unsent, setOutbox, e.outbox_of_lt ho, List.set_eq_take_append_cons_drop,
        if_pos ho, List.flatMap_append, List.flatMap_cons, Outbox.awaited_append,
        Outbox.awaited_append]
      omega
    simp only [tally, owed, told, pending, inFlight, setOutbox] at hsum ⊢
    omega
  · have hle := Nat.le_of_not_lt ho
    rw [e.setOutbox_of_le hle, e.outbox_of_le hle, h.resolve_left ho]
    rfl

theorem outbox_setOutbox {o : Nat} (h : o < e.outboxes.length) (box : Outbox) :
    (e.setOutbox o box).outbox o = box := by
  rw [outbox, setOutbox, List.getElem?_set_self h]
  rfl

theorem outbox_setOutbox_of_ne {o other : Nat} (h : o ≠ other) (box : Outbox) :
    (e.setOutbox o box).outbox other = e.outbox other := by
  rw [outbox, setOutbox, List.getElem?_set_ne h]
  rfl

/-- An outbox that is opened is a new one. -/
theorem outbox_openOutbox (device : String) (o : Nat) :
    (e.openOutbox device).2.outbox o =
      if o = (e.openOutbox device).1 then { device } else e.outbox o := by
  rw [outbox, outbox, openOutbox, spawn]
  dsimp only
  rcases Nat.lt_trichotomy o e.outboxes.length with hlt | rfl | hgt
  · rw [List.getElem?_append_left hlt, if_neg (Nat.ne_of_lt hlt)]
  · rw [List.getElem?_append_right (Nat.le_refl _), Nat.sub_self, if_pos rfl]
    rfl
  · have hle : e.outboxes.length + 1 ≤ o := hgt
    rw [List.getElem?_eq_none (by rwa [List.length_append]),
      List.getElem?_eq_none (Nat.le_of_lt hgt), if_neg (Nat.ne_of_gt hgt)]

end Env

end Tether
