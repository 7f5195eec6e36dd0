import Tether.Proofs.Env.Carried
import Tether.Proofs.Env.Tally

/-!
# What waits in an outbox

Packets leave an outbox in two ways: somebody closes it or takes a packet back, or the worker takes
out the next one. What the worker takes out is on its way at once. So whatever jobs are done, a
packet that waited waits still, or its delivery was begun, over the links of the device
(`Env.Hands`). Which of the two it is depends on whether the worker got that far.

Links can hold the worker up, by a gate or by a crash. If none does, one turn is enough for all that
waits (`items_work`).
-/

namespace Tether

/-- The delivery of an item over links. -/
def Outbox.Item.over (i : Outbox.Item) (links : LinkSet) : Delivery :=
  ⟨i.packet, i.callback, false, links⟩

/-- No link of a list holds anybody up. -/
def Links.Ready (ls : Links) (ids : LinkSet) : Prop :=
  ∀ id ∈ ids, (ls.link id).gated = false ∧ (ls.link id).conduct ≠ .crash

namespace Delivery

/-- The first thing that happens to a packet is that it is handed to the first link. -/
theorem head?_run (d : Delivery) (ls : Links) {id : String} {rest : LinkSet}
    (h : d.links = id :: rest) : (d.run ls).events.head? = some (.attempt id d.sameThread) := by
  rw [run, h]
  rfl

/-- A delivery that is not held up comes to its end. -/
theorem ended_tryLinks (d : Delivery) {ids : LinkSet} {ls : Links} (h : ls.Ready ids)
    (failures : List String) :
    (∃ delivered, (d.tryLinks ids ls failures).halt = .ended delivered) ∧
      (d.tryLinks ids ls failures).links = ls := by
  induction ids generalizing failures with
  | nil => exact ⟨⟨false, rfl⟩, rfl⟩
  | cons id rest ih =>
      obtain ⟨⟨hungated, hsane⟩, hrest⟩ := List.forall_mem_cons.mp h
      have hpass : ls.pass? id = some ls := by simp [Links.pass?, hungated]
      simp only [tryLinks, hpass, hand]
      cases hconduct : (ls.link id).conduct with
      | deliver => exact ⟨⟨true, rfl⟩, rfl⟩
      | refuse | fail _ => exact ih hrest _
      | crash => exact absurd hconduct hsane

end Delivery

namespace Env

variable {e f g : Env} {o : Nat} {links : LinkSet}

/-! ## Deliveries that are begun -/

/-- A delivery was begun between two states, with the links as they were then. -/
def Begins (d : Delivery) (e f : Env) : Prop :=
  ∃ ls before, e.trace ++ before ++ (d.run ls).events <+: f.trace

theorem Begins.mono {d : Delivery} {e' f' : Env} (h : Begins d e f) (he : e'.trace <+: e.trace)
    (hf : f.trace <+: f'.trace) : Begins d e' f' := by
  obtain ⟨ls, before, hbegun⟩ := h
  obtain ⟨earlier, hearlier⟩ := he
  refine ⟨ls, earlier ++ before, ?_⟩
  rw [← List.append_assoc, hearlier]
  exact hbegun.trans hf

/-- What waited in an outbox waits still, or its delivery over links was begun. -/
structure Hands (o : Nat) (links : LinkSet) (e f : Env) : Prop where
  trace : e.trace <+: f.trace
  items : ∀ item ∈ (e.outbox o).items, item ∈ (f.outbox o).items ∨ Begins (item.over links) e f

theorem Hands.refl (e : Env) : Hands o links e e :=
  ⟨List.prefix_rfl, fun _ hitem => .inl hitem⟩

theorem Hands.trans (h : Hands o links e f) (h' : Hands o links f g) : Hands o links e g := by
  refine ⟨h.trace.trans h'.trace, fun item hitem => ?_⟩
  rcases h.items item hitem with hwaits | hbegun
  · exact (h'.items item hwaits).imp_right fun hbegun => hbegun.mono h.trace List.prefix_rfl
  · exact .inr (hbegun.mono List.prefix_rfl h'.trace)

/-- The outbox is left alone. -/
theorem Hands.of_outbox (htrace : e.trace <+: f.trace) (hsame : f.outbox o = e.outbox o) :
    Hands o links e f := by
  refine ⟨htrace, fun item hitem => .inl ?_⟩
  rw [hsame]
  exact hitem

/-! ## Workers -/

theorem follow_eq (e : Env) (runner : Runner) (run : Links → Delivery.Course) :
    (e.follow runner run).1 = (run e.links).halt ∧
      (e.follow runner run).2.outboxes = e.outboxes ∧
      (e.follow runner run).2.links = (run e.links).links ∧
      (e.follow runner run).2.trace = e.trace ++ (run e.links).events := by
  simp only [follow]
  split <;> exact ⟨rfl, rfl, rfl, rfl⟩

theorem items_setWorker (e : Env) (o other : Nat) (worker : Outbox.Worker) :
    ((e.setWorker o worker).outbox other).items = (e.outbox other).items := by
  rw [setWorker]
  by_cases heq : o = other
  · subst heq
    by_cases hlt : o < e.outboxes.length
    · rw [e.outbox_setOutbox hlt]
    · rw [e.setOutbox_of_le (Nat.le_of_not_lt hlt)]
  · rw [e.outbox_setOutbox_of_ne heq]

theorem items_settleWorker (e : Env) (o other : Nat) (halt : Delivery.Halt) :
    ((e.settleWorker o halt).2.outbox other).items = (e.outbox other).items := by
  cases halt with
  | crashed => exact e.items_setWorker o other .stopped
  | ended _ | waiting _ => rfl

/-- What becomes of a delivery that a worker carries out leaves what waits alone. -/
theorem hands_followed (e : Env) (o other : Nat) {run : Links → Delivery.Course}
    (hrun : ∀ ls : Links, ls.Passed (run ls).links) :
    Hands o links e
      ((e.follow (.worker other) run).2.settleWorker other (e.follow (.worker other) run).1).2 := by
  have hfollow := e.errands_follow (.worker other) hrun
  refine ⟨Carries.trace (hfollow.carries.trans (carries_settleWorker _ other _)),
    fun item hitem => .inl ?_⟩
  rw [items_settleWorker, outbox, hfollow.outboxes]
  exact hitem

/-- The worker takes out the first item, and that is on its way. -/
theorem hands_workOnce (e : Env) {other : Nat} {links' : LinkSet} (h : other = o → links' = links) :
    Hands o links e (e.workOnce other links').2 := by
  refine ⟨(e.carries_workOnce other links').trace, fun waiting hwaiting => ?_⟩
  rw [workOnce]
  rcases (e.outbox other).pop_cases with ⟨hpop, -⟩ | ⟨hopen, item, rest, hitems, hpop⟩
  · simp only [hpop]
    rw [items_setWorker]
    exact .inl hwaiting
  · simp only [hpop]
    generalize htaken : e.setOutbox other { e.outbox other with items := rest } = taken
    have hsaid : taken.trace = e.trace := by rw [← htaken]; rfl
    have hearlier : e.trace <+: taken.trace := hsaid ▸ List.prefix_rfl
    have hsent : _ ++ _ = _ := (taken.follow_eq (.worker other) (item.over links').run).2.2.2.symm
    have hstarted : Hands o links taken _ :=
      hands_followed taken o other (Delivery.passed_run (item.over links'))
    have hrest (h : waiting ∈ (taken.outbox o).items) := (hstarted.items waiting h).imp_right
      fun hbegun => hbegun.mono hearlier List.prefix_rfl
    by_cases heq : other = o
    · subst heq
      rw [hitems] at hwaiting
      rcases List.mem_cons.mp hwaiting with rfl | hwaiting
      · refine .inr ⟨taken.links, [], ?_⟩
        rw [List.append_nil, ← hsaid, ← h rfl, hsent]
        exact (carries_settleWorker _ other _).trace
      · refine hrest ?_
        rw [← htaken, e.outbox_setOutbox (lt_of_open hopen)]
        exact hwaiting
    · refine hrest ?_
      rw [← htaken, e.outbox_setOutbox_of_ne heq]
      exact hwaiting

theorem hands_workAtMost {other : Nat} {links' : LinkSet} (h : other = o → links' = links) (n : Nat)
    (e : Env) : Hands o links e (workAtMost other links' n e) := by
  induction n generalizing e with
  | zero => exact .refl e
  | succ n ih =>
      have honce := e.hands_workOnce h
      rw [workAtMost]
      split
      · next heq =>
          rw [heq] at honce
          exact honce.trans (ih _)
      · next heq =>
          rw [heq] at honce
          exact honce

theorem hands_work (e : Env) {other : Nat} {links' : LinkSet} (h : other = o → links' = links) :
    Hands o links e (e.work other links') :=
  hands_workAtMost h _ e

theorem hands_resumeWork (e : Env) {other : Nat} {links' : LinkSet} (h : other = o → links' = links)
    (w : Delivery.Waiting) : Hands o links e (e.resumeWork other links' w) := by
  have hresumed : Hands o links e _ := hands_followed e o other (Delivery.passed_resume w)
  simp only [resumeWork]
  split
  · next heq =>
      rw [heq] at hresumed
      exact hresumed.trans (hands_work _ h)
  · next heq =>
      rw [heq] at hresumed
      exact hresumed

/-- The worker is not held up by a packet: it is sent or not, and the worker looks for the next. -/
theorem workOnce_ready (e : Env) (hready : e.links.Ready links) (hopen : (e.outbox o).closed = false)
    {item : Outbox.Item} {rest : List Outbox.Item} (hitems : (e.outbox o).items = item :: rest) :
    ∃ f, e.workOnce o links = (true, f) ∧ f.links = e.links ∧
      f.outbox o = { e.outbox o with items := rest } := by
  have hpop : (e.outbox o).pop? = some (item, { e.outbox o with items := rest }) := by
    simp [Outbox.pop?, hopen, hitems]
  rw [workOnce, hpop]
  dsimp only
  generalize htaken : e.setOutbox o { e.outbox o with items := rest } = taken
  have hlinks : taken.links = e.links := by rw [← htaken]; rfl
  obtain ⟨hhalt, houtboxes, hpassed, -⟩ :=
    taken.follow_eq (.worker o) (Delivery.run ⟨item.packet, item.callback, false, links⟩)
  obtain ⟨⟨delivered, hended⟩, hsame⟩ :=
    Delivery.ended_tryLinks ⟨item.packet, item.callback, false, links⟩ (hlinks ▸ hready) []
  refine ⟨_, ?_, hpassed.trans (hsame.trans hlinks), ?_⟩
  · rw [hhalt, Delivery.run, hended]
    rfl
  · rw [outbox, houtboxes, ← outbox, ← htaken, e.outbox_setOutbox (lt_of_open hopen)]

theorem items_workAtMost (hready : e.links.Ready links) (hopen : (e.outbox o).closed = false)
    {n : Nat} (hn : (e.outbox o).items.length < n) :
    ((workAtMost o links n e).outbox o).items = [] := by
  induction n generalizing e with
  | zero => exact absurd hn (Nat.not_lt_zero _)
  | succ n ih =>
      rw [workAtMost]
      cases hitems : (e.outbox o).items with
      | nil =>
          have hpop : (e.outbox o).pop? = none := by simp [Outbox.pop?, hopen, hitems]
          rw [workOnce, hpop]
          exact (e.items_setWorker o o _).trans hitems
      | cons item rest =>
          obtain ⟨f, honce, hlinks, hbox⟩ := e.workOnce_ready hready hopen hitems
          rw [hitems] at hn
          rw [honce]
          refine ih (hlinks ▸ hready) (hbox ▸ hopen) ?_
          rw [hbox]
          exact Nat.lt_of_succ_lt_succ hn

/-- In one turn a worker that no link holds up takes out all that waits. -/
theorem items_work (hready : e.links.Ready links) (hopen : (e.outbox o).closed = false) :
    ((e.work o links).outbox o).items = [] :=
  items_workAtMost hready hopen (Nat.lt_succ_self _)

end Env

end Tether
