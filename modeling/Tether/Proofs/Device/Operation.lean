import Mathlib.Logic.Relation
import Tether.Proofs.Device.Steady

/-!
# Operations and runs of a device

A run is a list of operations. They come in any order and with any arguments: timers
of any generation run out, packets of pairing that were never sent are reported as
lost, and observers come and go. Between two operations anything may happen around the
device (`Op.elsewhere`): links and plugins change how they behave, workers hand out
packets, time passes. Only the settings stay, and nobody is told anything, for both
are the doing of the device.

Operations are many and long, but little of what they do concerns pairing. An
operation is one leading step, in which the device learns or its session takes a turn
(`Scene.lead`), and after that nothing but asides: quiet steps, reloads, settings of
plugins, and the loss of trust. `apply_asides` says so once for all operations, and
what is to be proved of every run is proved of leading steps and asides.

Plugins may switch plugins too, under keys of their own choice. The keys that can be
written are a parameter, so that a statement may exclude some of them.
-/

namespace Tether

/-- Something that happens to a device. -/
inductive Op where
  | attach (i : PeerIdentity) (link : String)
  | detach (link : String)
  | disconnect
  | receive (p : Packet)
  /-- A call about pairing, a timer that ran out, or a report of a lost packet. -/
  | pairing (i : Pairing.Input)
  | setPlugin (key : String) (enabled : Bool)
  | reload
  | shutdownPlugins
  | send (p : Packet) (replace : Option Nat) (callback : Callback)
  | takeBack (replace : Nat)
  | sendBlocking (name : String) (p : Packet) (callback : Callback) (sameThread : Bool)
  | addObserver (o : Observer)
  | removeObserver (name : String)
  | addListener (o : Observer)
  | removeListener (name : String)
  /-- Whatever goes on around the device makes its environment this one. -/
  | elsewhere (env : Env)

namespace Scene

/-- Another environment, with the same settings and with no notice given meanwhile. -/
def elsewhere (s : Scene) (env : Env) : Scene where
  device := s.device
  env := { env with
    ledger := s.env.ledger
    trace := s.env.trace ++ env.trace.filter fun event => !event.isNotice }

/-- The scene after an operation. -/
def apply (site : Site) (s : Scene) : Op → Scene
  | .attach i link => (s.attach site i link).2
  | .detach link => (s.detach site link).2
  | .disconnect => s.disconnect
  | .receive p => s.receive site p
  | .pairing i => s.pair site i
  | .setPlugin key enabled => (s.setPlugin site key enabled).2
  | .reload => s.reload site
  | .shutdownPlugins => s.shutdownPlugins
  | .send p replace callback => s.send p replace callback
  | .takeBack replace => (s.takeBack replace).2
  | .sendBlocking name p callback sameThread =>
      s.sendBlocking site name p callback sameThread
  | .addObserver o => s.addObserver o
  | .removeObserver name => s.removeObserver name
  | .addListener o => s.addListener o
  | .removeListener name => s.removeListener name
  | .elsewhere env => s.elsewhere env

/-- The scene after operations. -/
def run (site : Site) (s : Scene) (ops : List Op) : Scene :=
  ops.foldl (apply site) s

@[simp] theorem run_nil (site : Site) (s : Scene) : s.run site [] = s := rfl

@[simp] theorem run_cons (site : Site) (s : Scene) (op : Op) (ops : List Op) :
    s.run site (op :: ops) = (s.apply site op).run site ops := rfl

@[simp] theorem run_append (site : Site) (s : Scene) (earlier later : List Op) :
    s.run site (earlier ++ later) = (s.run site earlier).run site later :=
  List.foldl_append

/-- A device as it comes into being: seen for the first time and not trusted, or
restored from settings that trust it. -/
inductive Created (site : Site) : Scene → Prop where
  | seen {env : Env} (ref : Nat) (i : PeerIdentity)
      (h : env.store.isTrusted i.id = false) :
      Created site ⟨.ofIdentity ref i, env⟩
  | restored {env : Env} (ref : Nat) (id : String)
      (h : env.store.isTrusted id = true) :
      Created site ⟨.ofTrusted site ref env.store id, env⟩

/-! ## Leading steps and asides -/

/-- What an operation does about pairing before all else. -/
def lead (site : Site) (s : Scene) : Op → Scene
  | .attach i _ => if i.id = s.device.id then s.learn i else s
  | .receive p => if p.isType Packet.pairType then s.pair site (.received p) else s
  | .pairing i => s.pair site i
  | .elsewhere env => s.elsewhere env
  | _ => s

/-- Something an operation does on the side. Plugins are switched under keys that are
allowed. -/
inductive Aside (site : Site) (allowed : String → Prop) : Scene → Scene → Prop where
  | quiet {s t : Scene} (h : s.Quiet t) : Aside site allowed s t
  | reload (s : Scene) : Aside site allowed s (s.reload site)
  | switch (s : Scene) {key : String} (h : allowed key) (enabled : Bool) :
      Aside site allowed s (s.tryWrite (.putBool s.device.id key enabled))
  | unpair (s : Scene) : Aside site allowed s (s.pair site .unpair)

/-- Any number of asides, one after the other. -/
abbrev Asides (site : Site) (allowed : String → Prop) : Scene → Scene → Prop :=
  Relation.ReflTransGen (Aside site allowed)

variable {site : Site} {allowed : String → Prop} {s t : Scene}

theorem Aside.steady (h : Aside site allowed s t) : s.Steady t := by
  cases h with
  | quiet h => exact h.steady
  | reload => exact s.steady_reload site
  | switch => exact s.steady_tryWrite _
  | unpair => exact s.steady_pair site _

theorem steady_of_asides (h : Asides site allowed s t) : s.Steady t := by
  induction h with
  | refl => exact .refl s
  | tail _ h ih => exact ih.trans h.steady

end Scene

/-- What plugins ask to switch are plugins with allowed keys. -/
def Env.Asks (allowed : String → Prop) (e : Env) : Prop :=
  ∀ maker key enabled,
    .setPlugin key enabled ∈ (e.conducts maker).requests → allowed key

/-- An operation switches only plugins with allowed keys, and leaves only such plugins
to be asked for. -/
def Op.Within (allowed : String → Prop) : Op → Prop
  | .setPlugin key _ => allowed key
  | .elsewhere env => env.Asks allowed
  | _ => True

namespace Scene

variable {site : Site} {allowed : String → Prop} {s t : Scene}

theorem Steady.asks (h : s.Steady t) (ha : s.env.Asks allowed) : t.env.Asks allowed := by
  intro maker
  rw [h.conducts]
  exact ha maker

theorem asides_quiet (h : s.Quiet t) : Asides site allowed s t :=
  .single (.quiet h)

theorem asides_setPlugin (s : Scene) {key : String} (h : allowed key) (enabled : Bool) :
    Asides site allowed s (s.setPlugin site key enabled).2 := by
  have hwrite : Aside site allowed s _ := .switch s h enabled
  simp only [tryWrite, Env.tryWrite, Ledger.tryWrite] at hwrite
  rw [setPlugin]
  split
  · next fault ledger heq =>
      rw [heq] at hwrite
      exact .single hwrite
  · next ledger heq =>
      rw [heq] at hwrite
      exact (Relation.ReflTransGen.single hwrite).tail (.reload _)

theorem asides_reloadOnce (s : Scene) : Asides site allowed s (s.reloadOnce site) := by
  rw [reloadOnce]
  split
  · have hcleared : s.Quiet { s with device.reloadOnPacket := false } :=
      ⟨rfl, rfl, rfl, .refl _⟩
    exact (asides_quiet hcleared).tail (.reload _)
  · exact .refl

theorem asides_obey (i : Plugin.Instance) (p : Packet) (s : Scene) {r : Plugin.Request}
    (h : ∀ key enabled, r = .setPlugin key enabled → allowed key) :
    Asides site allowed s (obey site i p s r) := by
  cases r with
  | reply type =>
      exact asides_quiet ((quiet_send _ _ _ _).trans (quiet_env _ (Env.alike_note _ _ _)))
  | replyInPlace type replace => exact asides_quiet (quiet_send _ _ _ _)
  | unpair => exact .single (.unpair s)
  | setPlugin key enabled =>
      exact (asides_setPlugin s (h key enabled rfl) enabled).trans
        (asides_quiet (quiet_env _ (Env.alike_note _ _ _)))

theorem asides_obeyAll (i : Plugin.Instance) (p : Packet) (requests : List Plugin.Request)
    (h : ∀ key enabled, .setPlugin key enabled ∈ requests → allowed key) (s : Scene) :
    Asides site allowed s (requests.foldl (obey site i p) s) := by
  induction requests generalizing s with
  | nil => exact .refl
  | cons r rest ih =>
      have hr : ∀ key enabled, r = .setPlugin key enabled → allowed key :=
        fun key enabled hr => h key enabled (by simp [hr])
      have hrest : ∀ key enabled, .setPlugin key enabled ∈ rest → allowed key :=
        fun key enabled hmem => h key enabled (List.mem_cons_of_mem r hmem)
      exact (asides_obey i p s hr).trans (ih hrest _)

theorem asides_give (p : Packet) (paired : Bool) (s : Scene) (i : Plugin.Instance)
    (ha : s.env.Asks allowed) : Asides site allowed s (give site p paired s i) := by
  have hcall : s.env.Alike (s.env.call fun shop => shop.handle i paired p).2 :=
    s.env.alike_call fun shop => shop.conducts_handle i paired p
  exact (asides_quiet (quiet_env s hcall)).trans
    (asides_obeyAll i p _ (ha i.maker) _)

theorem asides_dispatch (p : Packet) (paired : Bool) (s : Scene)
    (ha : s.env.Asks allowed) : Asides site allowed s (s.dispatch site p paired) := by
  rw [dispatch]
  generalize s.device.roster.recipients p.type paired = recipients
  induction recipients generalizing s with
  | nil => exact .refl
  | cons i rest ih =>
      have hgive : Asides site allowed s _ := asides_give p paired s i ha
      exact hgive.trans (ih _ ((steady_of_asides hgive).asks ha))

theorem asides_attach (s : Scene) (i : PeerIdentity) (link : String) :
    Asides site allowed (s.lead site (.attach i link)) (s.attach site i link).2 := by
  rw [lead, attach]
  by_cases hid : i.id = s.device.id
  · rw [if_pos hid, if_neg (fun hne => hne hid)]
    generalize s.learn i = s
    cases hadd : s.device.links.add? link with
    | none => simp only [hadd]; exact .refl
    | some links =>
        simp only [hadd]
        refine (Relation.ReflTransGen.single (.quiet ?_)).tail (.reload _)
        have hlinks : s.Quiet { s with device.links := links } :=
          ⟨rfl, rfl, rfl, .refl _⟩
        have hopen := hlinks.trans (quiet_openOutbox { s with device.links := links })
        split
        · exact hopen.trans ⟨rfl, rfl, rfl, ⟨rfl, rfl, rfl⟩⟩
        · exact hopen.trans ⟨rfl, rfl, rfl, ⟨rfl, rfl, rfl⟩⟩
  · rw [if_neg hid, if_pos hid]

theorem asides_detach (s : Scene) (link : String) :
    Asides site allowed s (s.detach site link).2 := by
  rw [detach]
  split
  · exact .refl
  · next links _ =>
      refine (Relation.ReflTransGen.single (.quiet ?_)).tail (.reload _)
      have hlinks : s.Quiet { s with
          device.links := links
          env.links := s.env.links.removeReceiver link s.device.ref } :=
        ⟨rfl, rfl, rfl, ⟨rfl, rfl, rfl⟩⟩
      dsimp only
      split
      · exact (hlinks.trans (quiet_closeOutbox _)).trans ⟨rfl, rfl, rfl, .refl _⟩
      · exact hlinks

/-- Packets about pairing do not reach the plugins, so it does not matter then what these ask
for. -/
theorem asides_receive (s : Scene) (p : Packet)
    (ha : p.isType Packet.pairType = false → s.env.Asks allowed) :
    Asides site allowed (s.lead site (.receive p)) (s.receive site p) := by
  rw [lead, receive]
  by_cases htype : p.isType Packet.pairType = true
  · rw [if_pos htype, if_pos htype]
  · have ha := ha (Bool.not_eq_true _ ▸ htype)
    rw [if_neg htype, if_neg htype]
    split
    · have hreload : Asides site allowed s _ := asides_reloadOnce s
      exact hreload.trans
        (asides_dispatch p true _ ((steady_of_asides hreload).asks ha))
    · exact (Relation.ReflTransGen.single (.unpair s)).trans
        (asides_dispatch p false _ ((s.steady_pair site _).asks ha))

/-- After its leading step an operation is nothing but asides. What plugins ask for matters only
where a packet reaches them. -/
theorem asides_apply (s : Scene) (op : Op)
    (hswitch : ∀ key enabled, op = .setPlugin key enabled → allowed key)
    (hreach : ∀ p, op = .receive p → p.isType Packet.pairType = false → s.env.Asks allowed) :
    Asides site allowed (s.lead site op) (s.apply site op) := by
  cases op with
  | attach i link => exact asides_attach s i link
  | detach link => exact asides_detach s link
  | receive p => exact asides_receive s p (hreach p rfl)
  | pairing _ | elsewhere _ => exact .refl
  | setPlugin key enabled => exact asides_setPlugin s (hswitch key enabled rfl) enabled
  | reload => exact .single (.reload s)
  | disconnect => exact asides_quiet s.quiet_disconnect
  | shutdownPlugins => exact asides_quiet s.quiet_shutdownPlugins
  | send p replace callback => exact asides_quiet (s.quiet_send p replace callback)
  | takeBack replace => exact asides_quiet (s.quiet_takeBack replace)
  | sendBlocking name p callback sameThread =>
      exact asides_quiet (quiet_sendBlocking site s name p callback sameThread)
  | addObserver _ | removeObserver _ | addListener _ | removeListener _ =>
      exact asides_quiet ⟨rfl, rfl, rfl, .refl _⟩

theorem apply_asides (s : Scene) (op : Op) (hop : op.Within allowed)
    (ha : s.env.Asks allowed) : Asides site allowed (s.lead site op) (s.apply site op) := by
  refine s.asides_apply op ?_ fun _ _ _ => ha
  rintro key enabled rfl
  exact hop

theorem asides_of_apply (s : Scene) (op : Op) :
    Asides site (fun _ => True) (s.lead site op) (s.apply site op) := by
  refine s.apply_asides op ?_ fun _ _ _ _ => trivial
  cases op with
  | setPlugin _ _ => trivial
  | elsewhere _ => exact fun _ _ _ _ => trivial
  | _ => trivial

/-- The device learns what an identity tells; or its session takes a turn, and then
there are no asides; or something goes on elsewhere; or nothing leads. -/
theorem lead_cases (site : Site) (s : Scene) (op : Op) :
    (∃ i, s.lead site op = s.learn i) ∨
    (∃ i, s.lead site op = s.pair site i ∧ s.apply site op = s.pair site i) ∨
    (∃ env, op = .elsewhere env) ∨
    s.lead site op = s := by
  cases op with
  | attach i link =>
      rw [lead]
      split
      · exact .inl ⟨i, rfl⟩
      · exact .inr (.inr (.inr rfl))
  | receive p =>
      rw [lead, apply, receive]
      split
      · exact .inr (.inl ⟨.received p, rfl, rfl⟩)
      · exact .inr (.inr (.inr rfl))
  | pairing i => exact .inr (.inl ⟨i, rfl, rfl⟩)
  | elsewhere env => exact .inr (.inr (.inl ⟨env, rfl⟩))
  | _ => exact .inr (.inr (.inr rfl))

theorem lead_asks {op : Op} (hop : op.Within allowed) (ha : s.env.Asks allowed) :
    (s.lead site op).env.Asks allowed := by
  rcases s.lead_cases site op with ⟨i, hlead⟩ | ⟨i, hlead, -⟩ | ⟨env, rfl⟩ | hlead
  · rw [hlead]
    intro maker
    rw [learn_conducts]
    exact ha maker
  · rw [hlead]
    exact (s.steady_pair site i).asks ha
  · exact hop
  · rw [hlead]
    exact ha

theorem apply_asks {op : Op} (hop : op.Within allowed) (ha : s.env.Asks allowed) :
    (s.apply site op).env.Asks allowed :=
  (steady_of_asides (s.apply_asides op hop ha)).asks (lead_asks hop ha)

theorem run_asks {ops : List Op} (hops : ∀ op ∈ ops, op.Within allowed)
    (ha : s.env.Asks allowed) : (s.run site ops).env.Asks allowed := by
  induction ops generalizing s with
  | nil => exact ha
  | cons op rest ih =>
      exact ih (fun op h => hops op (List.mem_cons_of_mem _ h))
        (apply_asks (hops op List.mem_cons_self) ha)

/-! ## What a run makes of what is known -/

/-- What is known of a device after an operation. -/
def learned (id : String) (d : Details) : Op → Details
  | .attach i _ => if i.id = id then d.merge i else d
  | _ => d

theorem lead_id (site : Site) (s : Scene) (op : Op) :
    (s.lead site op).device.id = s.device.id := by
  rcases s.lead_cases site op with ⟨i, hlead⟩ | ⟨i, hlead, -⟩ | ⟨env, rfl⟩ | hlead
  · rw [hlead, learn_device]
  · rw [hlead, (s.steady_pair site i).id]
  · rfl
  · rw [hlead]

theorem lead_details (site : Site) (s : Scene) (op : Op) :
    (s.lead site op).device.details = learned s.device.id s.device.details op := by
  cases op with
  | attach i link => rw [lead, learned]; split <;> simp only [learn_device]
  | receive p =>
      rw [lead]
      split
      · exact (s.steady_pair site _).details
      · rfl
  | pairing i => exact (s.steady_pair site i).details
  | _ => rfl

@[simp] theorem apply_id (site : Site) (s : Scene) (op : Op) :
    (s.apply site op).device.id = s.device.id := by
  rw [(steady_of_asides (s.asides_of_apply op)).id, lead_id]

theorem apply_details (site : Site) (s : Scene) (op : Op) :
    (s.apply site op).device.details = learned s.device.id s.device.details op := by
  rw [(steady_of_asides (s.asides_of_apply op)).details, lead_details]

@[simp] theorem run_id (site : Site) (s : Scene) (ops : List Op) :
    (s.run site ops).device.id = s.device.id := by
  induction ops generalizing s with
  | nil => rfl
  | cons op rest ih => rw [run_cons, ih, apply_id]

/-- What is known of a device depends on the identities that came with its links, and
on nothing else that happened. -/
theorem run_details (site : Site) (s : Scene) (ops : List Op) :
    (s.run site ops).device.details =
      ops.foldl (learned s.device.id) s.device.details := by
  induction ops generalizing s with
  | nil => rfl
  | cons op rest ih => rw [run_cons, ih, apply_id, apply_details, List.foldl_cons]

end Scene

end Tether
