import Tether.Proofs.Dict.Order
import Tether.Proofs.Env.Carried
import Tether.Proofs.Env.Slip
import Tether.Proofs.Env.Tally

/-!
# Receivers of links, and outboxes that are open

Two things around a device belong to its links: at which links it is registered as a receiver
(`Links.registered`), and whether its outbox is open. Traffic keeps both (`Carries.keeps`), and so
does most of what is done to an environment otherwise (`Env.Keeps`). A device is registered by
`addReceiver` and by nothing else, and an outbox is closed by `closeOutbox` and by nothing else.

What is under way goes over the links that it started with. A delivery in flight holds them, and so
does a blocking send; nothing but traffic lets a delivery go on, or changes a send (`Env.Spares`).
What a device has done to its environment leaves the jobs of such sends to themselves, too
(`Env.Passes`).
-/

namespace Tether

namespace Links

/-- How often a device is registered at a link, if there is the link. -/
def registered (ls : Links) (id : String) (ref : Nat) : Option Nat :=
  (Dict.find? ls id).map fun l => l.receivers.count ref

/-- A link that is changed counts receivers in another way, and no other link does. -/
theorem registered_change (ls : Links) (link id : String) (ref : Nat) {f : Link → Link}
    {g : Nat → Nat} (hf : ∀ l, (f l).receivers.count ref = g (l.receivers.count ref)) :
    (ls.change link f).registered id ref =
      (ls.registered id ref).map fun n => if id = link then g n else n := by
  rw [registered, change, Dict.find?_adjust, registered, Option.map_map, Option.map_map]
  congr 1
  funext l
  dsimp only [Function.comp]
  split
  · exact hf l
  · rfl

theorem registered_addReceiver (ls : Links) (link id : String) (device ref : Nat) :
    (ls.addReceiver link device).registered id ref =
      (ls.registered id ref).map fun n =>
        if id = link then (if device = ref then n + 1 else n) else n := by
  refine ls.registered_change link id ref fun l => ?_
  rw [List.count_append, List.count_singleton]
  by_cases href : device = ref <;> simp [href]

theorem count_filter_ne (refs : List Nat) (device ref : Nat) :
    (refs.filter (· ≠ device)).count ref = if device = ref then 0 else refs.count ref := by
  split
  · next href =>
      rw [List.count_eq_zero, href]
      simp
  · next href => exact List.count_filter (by simpa using Ne.symm href)

theorem registered_removeReceiver (ls : Links) (link id : String) (device ref : Nat) :
    (ls.removeReceiver link device).registered id ref =
      (ls.registered id ref).map fun n =>
        if id = link then (if device = ref then 0 else n) else n :=
  ls.registered_change link id ref fun l => count_filter_ne l.receivers device ref

theorem registered_removeEverywhere (ls : Links) (id : String) (device ref : Nat) :
    (ls.removeEverywhere device).registered id ref =
      (ls.registered id ref).map fun n => if device = ref then 0 else n := by
  have hfind := Dict.find?_map
    (fun l : Link => { l with receivers := l.receivers.filter (· ≠ device) }) ls id
  rw [registered, removeEverywhere, hfind, registered, Option.map_map, Option.map_map]
  congr 1
  funext l
  exact count_filter_ne l.receivers device ref

/-- Whoever is somebody else is registered as before. -/
theorem registered_addReceiver_other (ls : Links) (link id : String) {device ref : Nat}
    (h : device ≠ ref) : (ls.addReceiver link device).registered id ref = ls.registered id ref := by
  simp [registered_addReceiver, h]

theorem registered_removeReceiver_other (ls : Links) (link id : String) {device ref : Nat}
    (h : device ≠ ref) :
    (ls.removeReceiver link device).registered id ref = ls.registered id ref := by
  simp [registered_removeReceiver, h]

/-- Nobody is registered by what leaves the receivers of a link alone. -/
theorem registered_same (ls : Links) (id : String) {f : Link → Link}
    (hf : ∀ l, (f l).receivers = l.receivers) : (ls.change id f).registered = ls.registered := by
  funext other ref
  have hcount : ∀ l, (f l).receivers.count ref = l.receivers.count ref := fun l => by rw [hf]
  rw [ls.registered_change id other ref (g := fun n => n) hcount]
  simp

theorem registered_pass {ls ls' : Links} {id : String} (h : ls.pass? id = some ls') :
    ls'.registered = ls.registered := by
  simp only [pass?] at h
  split at h
  · cases h
    rfl
  · split at h
    · cases h
    · cases h
      exact ls.registered_same id fun _ => rfl

end Links

namespace Env

/-- Each device is registered as it was, and no outbox was closed. -/
structure Keeps (e f : Env) : Prop where
  registered : f.links.registered = e.links.registered
  opened : ∀ o, (e.outbox o).closed = false → (f.outbox o).closed = false

/-- What is under way is as it was, though more may have been begun. -/
structure Spares (e f : Env) : Prop where
  inFlight : f.inFlight = e.inFlight
  calls : e.calls <+: f.calls

variable {e f g : Env}

theorem Keeps.refl (e : Env) : e.Keeps e :=
  ⟨rfl, fun _ h => h⟩

theorem Keeps.trans (h : e.Keeps f) (h' : f.Keeps g) : e.Keeps g :=
  ⟨h'.registered.trans h.registered, fun o ho => h'.opened o (h.opened o ho)⟩

theorem Spares.refl (e : Env) : e.Spares e :=
  ⟨rfl, List.prefix_rfl⟩

theorem Spares.trans (h : e.Spares f) (h' : f.Spares g) : e.Spares g :=
  ⟨h'.inFlight.trans h.inFlight, h.calls.trans h'.calls⟩

/-- An outbox may be exchanged for one that is not closed if the other was not. -/
theorem keeps_setOutbox (e : Env) {o : Nat} {box : Outbox}
    (h : (e.outbox o).closed = false → box.closed = false) : e.Keeps (e.setOutbox o box) := by
  refine ⟨rfl, fun other hopen => ?_⟩
  by_cases heq : o = other
  · subst heq
    rw [e.outbox_setOutbox (lt_of_open hopen)]
    exact h hopen
  · rw [e.outbox_setOutbox_of_ne heq]
    exact hopen

/-- Moves do not close an outbox unless they are meant to. -/
theorem keeps_move (e : Env) (o : Nat) {m : Outbox.Move} (hm : m ≠ .close) :
    e.Keeps (e.setOutbox o ((e.outbox o).move m)) := by
  refine e.keeps_setOutbox fun hopen => ?_
  rw [← Bool.not_eq_true, Outbox.closed_move]
  simp [hopen, hm]

theorem Carry.keeps (h : e.Carry f) : e.Keeps f := by
  cases h with
  | pass hpass => exact ⟨Links.registered_pass hpass, fun _ h => h⟩
  | @pop o item box hpop =>
      have hmove := e.keeps_move o (m := .pop) nofun
      rwa [Outbox.move, hpop] at hmove
  | worker o worker => exact e.keeps_setOutbox fun hopen => hopen
  | park | call | record | spawn => exact ⟨rfl, fun _ h => h⟩

theorem Carries.keeps (h : e.Carries f) : e.Keeps f := by
  induction h with
  | refl => exact .refl e
  | tail _ hstep ih => exact ih.trans hstep.keeps

theorem keeps_next {job : Job} (h : e.next? = some (job, f)) : e.Keeps f := by
  rw [next?] at h
  split at h
  · cases h
  · cases h
    exact ⟨rfl, fun _ ho => ho⟩

theorem keeps_permit (e : Env) (id : String) : e.Keeps (e.permit id) := by
  rw [permit]
  split
  · exact ⟨rfl, fun _ h => h⟩
  · have hsame : (e.links.change id fun l => { l with permits := l.permits + 1 }).registered =
        e.links.registered := e.links.registered_same id fun _ => rfl
    exact ⟨hsame, fun _ h => h⟩

theorem closeOutbox_other (e : Env) {o other : Nat} (h : o ≠ other) :
    (e.closeOutbox o).outbox other = e.outbox other :=
  e.outbox_setOutbox_of_ne h _

/-! ## What is done to an environment by devices -/

/-- Receivers and outboxes are kept, what is under way is spared, and blocking sends are left
alone. -/
structure Passes (e f : Env) : Prop extends Keeps e f, Spares e f, Leaves none e f

theorem Passes.refl (e : Env) : e.Passes e :=
  ⟨.refl e, .refl e, .refl none e⟩

theorem Passes.trans (h : e.Passes f) (h' : f.Passes g) : e.Passes g :=
  ⟨h.toKeeps.trans h'.toKeeps, h.toSpares.trans h'.toSpares, h.toLeaves.trans h'.toLeaves⟩

variable (e)

theorem spares_record (events : List Event) : e.Spares (e.record events) :=
  ⟨e.inFlight_record events, List.prefix_rfl⟩

theorem spares_spawn {job : Job} (h : job.delivery? = none) : e.Spares (e.spawn job) := by
  refine ⟨?_, List.prefix_rfl⟩
  rw [inFlight_spawn, h, Option.toList_none, List.append_nil]

theorem passes_record (events : List Event) : e.Passes (e.record events) :=
  ⟨⟨rfl, fun _ h => h⟩, e.spares_record events, e.leaves_record events⟩

/-- A job that lets no delivery go on and is done for no send. -/
theorem passes_spawn {job : Job} (h : job.delivery? = none) (hcall : job.call? = none) :
    e.Passes (e.spawn job) :=
  ⟨⟨rfl, fun _ h => h⟩, e.spares_spawn h, e.leaves_spawn hcall⟩

theorem keeps_setAlarm (wait : Nat) (job : Job) : e.Keeps (e.setAlarm wait job) := by
  rw [setAlarm]
  split <;> exact ⟨rfl, fun _ h => h⟩

theorem spares_setAlarm (wait : Nat) {job : Job} (h : job.delivery? = none) :
    e.Spares (e.setAlarm wait job) := by
  rw [setAlarm]
  split
  · exact e.spares_spawn h
  · exact ⟨rfl, List.prefix_rfl⟩

theorem passes_setAlarm (wait : Nat) {job : Job} (h : job.delivery? = none)
    (hcall : job.call? = none) : e.Passes (e.setAlarm wait job) :=
  ⟨e.keeps_setAlarm wait job, e.spares_setAlarm wait h, e.leaves_setAlarm wait hcall⟩

/-- A send that is added has its own jobs only. -/
theorem passes_ask (call : Call) : e.Passes (e.ask call) := by
  have hadded : e.Spares { e with calls := e.calls ++ [call] } := ⟨rfl, List.prefix_append _ _⟩
  have hnew : e.calls.length < (e.ask call).calls.length := by simp [ask, spawn]
  exact ⟨⟨rfl, fun _ h => h⟩, hadded.trans (spares_spawn _ rfl), (e.leaves_ask call).of_new hnew⟩

theorem passes_ask_setAlarm (call : Call) (wait : Nat) :
    e.Passes ((e.ask call).setAlarm wait (.wake e.calls.length)) := by
  have hask := e.passes_ask call
  have halarm : (e.ask call).Leaves (some e.calls.length)
      ((e.ask call).setAlarm wait (.wake e.calls.length)) := leaves_setAlarm _ wait rfl
  have hnew : e.calls.length < (e.ask call).calls.length := by simp [ask, spawn]
  exact ⟨hask.toKeeps.trans (keeps_setAlarm _ wait _),
    hask.toSpares.trans (spares_setAlarm _ wait rfl),
    ((e.leaves_ask call).trans halarm).of_new (Nat.lt_of_lt_of_le hnew halarm.grows)⟩

theorem passes_newId : e.Passes e.newId.2 :=
  ⟨⟨rfl, fun _ h => h⟩, ⟨rfl, List.prefix_rfl⟩, .of_slips rfl rfl rfl fun _ _ => rfl,
    List.prefix_rfl⟩

theorem passes_ledger (ledger : Ledger) : e.Passes { e with ledger } :=
  ⟨⟨rfl, fun _ h => h⟩, ⟨rfl, List.prefix_rfl⟩, .of_slips rfl rfl rfl fun _ _ => rfl,
    List.prefix_rfl⟩

theorem passes_tryWrite (c : Store.Change) : e.Passes (e.tryWrite c) :=
  e.passes_ledger _

theorem passes_call {α : Type} (f : Plugin.Shop → α × Plugin.Shop) : e.Passes (e.call f).2 :=
  ⟨⟨rfl, fun _ h => h⟩, ⟨e.inFlight_record _, List.prefix_rfl⟩,
    .of_slips rfl rfl rfl fun c _ => e.slip_record _ c, List.prefix_append _ _⟩

theorem passes_note (i : Plugin.Instance) (n : Plugin.Note) : e.Passes (e.note i n) :=
  e.passes_record _

/-- An outbox may be exchanged for one that is not closed if the other was not. -/
theorem passes_setOutbox {o : Nat} {box : Outbox}
    (h : (e.outbox o).closed = false → box.closed = false) : e.Passes (e.setOutbox o box) :=
  ⟨e.keeps_setOutbox h, ⟨rfl, List.prefix_rfl⟩, e.leaves_setOutbox o box⟩

/-- Moves do not close an outbox unless they are meant to. -/
theorem passes_move (o : Nat) {m : Outbox.Move} (hm : m ≠ .close) :
    e.Passes (e.setOutbox o ((e.outbox o).move m)) :=
  ⟨e.keeps_move o hm, ⟨rfl, List.prefix_rfl⟩, e.leaves_setOutbox o _⟩

theorem passes_submit (o : Nat) (p : Packet) (replace : Option Nat) (c : Callback) :
    e.Passes (e.submit o p replace c) := by
  have hadd : e.Passes (e.setOutbox o ((e.outbox o).add p replace c).2.1) :=
    e.passes_move o (m := .add p replace c) nofun
  have hqueue := hadd.trans (passes_record _ ((e.outbox o).add p replace c).2.2)
  rw [submit]
  dsimp only
  generalize (e.outbox o).add p replace c = added at hqueue ⊢
  split
  · have hwoken : ((e.setOutbox o added.2.1).record added.2.2).Passes
        (((e.setOutbox o added.2.1).record added.2.2).setOutbox o
          { added.2.1 with worker := .awake }) := by
      refine passes_setOutbox _ fun hopen => ?_
      have hlt : o < (e.outboxes.set o added.2.1).length := lt_of_open hopen
      rw [List.length_set] at hlt
      exact (congrArg Outbox.closed (e.outbox_setOutbox hlt added.2.1)).symm.trans hopen
    exact (hqueue.trans hwoken).trans (passes_spawn _ rfl rfl)
  · exact hqueue

theorem passes_openOutbox (device : String) : e.Passes (e.openOutbox device).2 := by
  have hspawn : Passes { e with outboxes := e.outboxes ++ [{ device }] } (e.openOutbox device).2 :=
    passes_spawn _ rfl rfl
  have hleaves : e.Leaves none { e with outboxes := e.outboxes ++ [{ device }] } :=
    ⟨.of_slips rfl rfl rfl fun _ _ => rfl, List.prefix_rfl⟩
  refine ⟨⟨rfl, fun o hopen => ?_⟩, ⟨hspawn.inFlight, hspawn.calls⟩, hleaves.trans hspawn.toLeaves⟩
  rw [outbox_openOutbox]
  split
  · rfl
  · exact hopen

theorem passes_takeFrom (o replace : Nat) : e.Passes (e.takeFrom o replace).2 :=
  e.passes_move o (m := .take replace) nofun

theorem passes_closeLink (id : String) : e.Passes (e.closeLink id) := by
  have hsame : (e.links.change id fun l => { l with closings := l.closings + 1 }).registered =
      e.links.registered := e.links.registered_same id fun _ => rfl
  have hleaves := e.leaves_change id (f := fun l => { l with closings := l.closings + 1 })
    fun _ => rfl
  exact ⟨⟨hsame, fun _ h => h⟩, ⟨e.inFlight_record _, List.prefix_rfl⟩,
    hleaves.trans (leaves_record _ _)⟩

end Env

end Tether
