import Tether.Proofs.Device.Routing
import Tether.Proofs.Packet.Types

/-!
# The two spellings of a type

A type of the protocol may begin with `kdeconnect.` or with `cconnect.`, and a packet is asked
for its type without regard to this. So a packet of pairing is one in either spelling
(`Packet.isType_either`). Plugins are found in a table, though, under the types as they were
declared, and what a device receives is looked up in the set that it announced.

What follows from the two is in `receive_either`. Until a packet is offered to plugins the
spelling has no effect. From there on it makes a difference in one case only, when a plugin at
work declares its type in one spelling alone; otherwise the same plugins are called, and all that
comes of it is the same but for the packet in their hands.

That everything else is the same is a statement about two runs. What makes it short is that
nothing a device does depends on what happened before (`after`): the trace is added to and never
read. So both runs go through the same scenes with another past.
-/

namespace Tether

/-! ## What happened before -/

namespace Env

/-- The same after a longer past. -/
def after (past : List Event) (e : Env) : Env :=
  { e with trace := past ++ e.trace }

variable (past : List Event) (e : Env)

@[simp] theorem record_after (events : List Event) :
    (e.after past).record events = (e.record events).after past := by
  simp [after, record]

@[simp] theorem setAlarm_after (wait : Nat) (job : Job) :
    (e.after past).setAlarm wait job = (e.setAlarm wait job).after past := by
  rw [setAlarm, setAlarm]
  split <;> rfl

@[simp] theorem call_after {α : Type} (f : Plugin.Shop → α × Plugin.Shop) :
    (e.after past).call f = ((e.call f).1, (e.call f).2.after past) := by
  simp [after, call, record]

@[simp] theorem submit_after (o : Nat) (p : Packet) (replace : Option Nat) (c : Callback) :
    (e.after past).submit o p replace c = (e.submit o p replace c).after past := by
  rw [submit, submit]
  dsimp only
  rw [show (e.after past).outbox o = e.outbox o from rfl]
  split
  · simp [after, record, setOutbox, spawn]
  · simp [after, record, setOutbox]

end Env

namespace Scene

/-- The same after a longer past. -/
def after (past : List Event) (s : Scene) : Scene :=
  { s with env := s.env.after past }

variable (past : List Event) (site : Site) (s : Scene)

@[simp] theorem record_after (events : List Event) :
    (s.after past).record events = (s.record events).after past := by
  simp [after, record]

@[simp] theorem send_after (p : Packet) (replace : Option Nat) (c : Callback) :
    (s.after past).send p replace c = (s.send p replace c).after past := by
  rw [send, send]
  rw [show (s.after past).device = s.device from rfl]
  split
  · simp [after]
  · simp

@[simp] theorem tellListeners_after :
    (s.after past).tellListeners = s.tellListeners.after past :=
  record_after past s _

@[simp] theorem settlePlugins_after :
    (s.after past).settlePlugins site = (s.settlePlugins site).after past := by
  rw [settlePlugins, settlePlugins, show (s.after past).owner = s.owner from rfl,
    show (s.after past).candidates site = s.candidates site from rfl]
  simp only [after, Env.call_after]

@[simp] theorem reload_after : (s.after past).reload site = (s.reload site).after past := by
  rw [reload_eq, reload_eq, settlePlugins_after, tellListeners_after]

@[simp] theorem tellObservers_after (event : PairingEvent) :
    (s.after past).tellObservers event = (s.tellObservers event).after past :=
  record_after past s _

@[simp] theorem onPairing_after (event : PairingEvent) :
    (s.after past).onPairing site event = (s.onPairing site event).after past := by
  cases event with
  | successful =>
      have htrust : (s.after past).storeTrust = s.storeTrust.after past := rfl
      rw [onPairing, onPairing, htrust, reload_after, tellObservers_after]
  | unpaired =>
      have htrust : (s.after past).eraseTrust = s.eraseTrust.after past := rfl
      rw [onPairing, onPairing, htrust, reload_after, tellObservers_after]
  | incomingRequest => exact tellObservers_after past s _
  | failed => exact tellObservers_after past s _

@[simp] theorem perform_after (a : Pairing.Action) :
    (s.after past).perform site a = (s.perform site a).after past := by
  cases a with
  | enter state => rfl
  | cancelTimer => rfl
  | startTimer => simp [perform, after]
  | send pair =>
      have hsend := send_after past { s with env := s.env.newId.2 }
      exact hsend (Pairing.packet s.env.newId.1 pair) none (.pairing s.device.ref)
  | emit event => exact onPairing_after past site s event

@[simp] theorem pair_after (i : Pairing.Input) :
    (s.after past).pair site i = (s.pair site i).after past := by
  rw [pair, pair, show (s.after past).device.session = s.device.session from rfl,
    show (s.after past).around = s.around from rfl]
  generalize s.device.session.actions s.around i = acts
  induction acts generalizing s with
  | nil => rfl
  | cons a rest ih => rw [List.foldl_cons, List.foldl_cons, perform_after, ih]

@[simp] theorem setPlugin_after (key : String) (enabled : Bool) :
    (s.after past).setPlugin site key enabled =
      ((s.setPlugin site key enabled).1, (s.setPlugin site key enabled).2.after past) := by
  rw [setPlugin, setPlugin, show (s.after past).env.ledger = s.env.ledger from rfl,
    show (s.after past).device.id = s.device.id from rfl]
  split
  · rfl
  · next ledger _ => exact congrArg _ (reload_after past site { s with env.ledger := ledger })

@[simp] theorem obey_after (i : Plugin.Instance) (p : Packet) (r : Plugin.Request) :
    (s.after past).obey site i p r = (s.obey site i p r).after past := by
  cases r with
  | reply type =>
      rw [obey, obey, sendPlain, sendPlain, send_after]
      simp [after, Env.note]
  | replyInPlace type replace => exact send_after past s _ _ _
  | unpair => exact pair_after past site s _
  | setPlugin key enabled =>
      rw [obey, obey, setPlugin_after]
      simp [after, Env.note]

theorem obeyAll_after (i : Plugin.Instance) (p : Packet) (requests : List Plugin.Request) :
    requests.foldl (obey site i p) (s.after past) =
      (requests.foldl (obey site i p) s).after past := by
  induction requests generalizing s with
  | nil => rfl
  | cons r rest ih => rw [List.foldl_cons, List.foldl_cons, obey_after, ih]

/-- The same before anything happened. -/
def fresh (s : Scene) : Scene :=
  { s with env.trace := [] }

/-- What a plugin asks for hands out nothing. -/
theorem obeyAll_handed (i : Plugin.Instance) (p : Packet) (requests : List Plugin.Request) :
    (requests.foldl (obey site i p) s).env.handed = s.env.handed := by
  induction requests generalizing s with
  | nil => rfl
  | cons r rest ih =>
      rw [List.foldl_cons, ih]
      exact (upkept_handed site s.env.handed).obey i p r rfl

/-- A plugin is called, and what it asks for does not depend on the past. -/
theorem give_eq (p : Packet) (paired : Bool) (i : Plugin.Instance) :
    s.give site p paired i =
      ((s.env.conducts i.maker).requests.foldl (obey site i p) s.fresh).after
        (s.env.trace ++ [.plugin i (.packet paired p (s.env.conducts i.maker).onPacket)]) := by
  have hcall : (s.env.call fun shop => shop.handle i paired p).2 = s.fresh.env.after
      (s.env.trace ++ [.plugin i (.packet paired p (s.env.conducts i.maker).onPacket)]) := by
    simp [Env.call, Plugin.Shop.handle, Plugin.Shop.note, Env.record, Env.job?, Env.after, fresh]
    rfl
  rw [← obeyAll_after]
  show List.foldl _ { s with env := (s.env.call fun shop => shop.handle i paired p).2 } _ = _
  rw [hcall]
  rfl

end Scene

/-! ## Two packets -/

/-- The event with another packet in the hands of the plugin. -/
def Event.handing (q : Packet) : Event → Event
  | .plugin i (.packet paired _ outcome) => .plugin i (.packet paired q outcome)
  | event => event

theorem map_handing {events : List Event} (h : events.filterMap Event.handed? = []) (q : Packet) :
    events.map (Event.handing q) = events := by
  rw [List.filterMap_eq_nil_iff] at h
  have hsame : ∀ event ∈ events, event.handing q = event := by
    intro event hevent
    have hnone := h event hevent
    cases event with
    | plugin i n =>
        cases n with
        | packet paired p outcome => cases hnone
        | _ => rfl
    | _ => rfl
  rw [List.map_congr_left hsame, List.map_id']

namespace Scene

variable {site : Site} {s t : Scene} {past : List Event} {p q : Packet} {paired : Bool}

/-- Since a common past the same happened to two scenes, but that plugins were handed another packet
in the second one. -/
def Twins (past : List Event) (q : Packet) (s t : Scene) : Prop :=
  ∃ new, s.env.trace = past ++ new ∧
    t = { s with env.trace := past ++ new.map (Event.handing q) }

theorem Twins.refl (q : Packet) (s : Scene) : Twins s.env.trace q s s :=
  ⟨[], (List.append_nil _).symm, by rw [List.map_nil, List.append_nil]⟩

/-- A plugin reads nothing off a packet but its id and its body. -/
theorem obey_eq (hid : q.id = p.id) (hbody : q.body = p.body) (i : Plugin.Instance) :
    obey site i q = obey site i p := by
  funext s r
  cases r with
  | reply type => rw [obey, obey, hid, hbody]
  | replyInPlace type replace => rw [obey, obey, hid, hbody]
  | unpair => rfl
  | setPlugin key enabled => rfl

theorem Twins.give (h : Twins past q s t) (hid : q.id = p.id) (hbody : q.body = p.body)
    (i : Plugin.Instance) :
    Twins past q (s.give site p paired i) (t.give site q paired i) := by
  obtain ⟨new, htrace, rfl⟩ := h
  generalize hc : s.env.conducts i.maker = c
  generalize hlast : c.requests.foldl (obey site i p) s.fresh = last
  have hhanded : last.env.trace.filterMap Event.handed? = [] := by
    rw [← hlast]
    exact obeyAll_handed site s.fresh i p _
  have hs : s.give site p paired i =
      last.after (past ++ new ++ [.plugin i (.packet paired p c.onPacket)]) := by
    rw [give_eq, hc, hlast, htrace]
  have ht : Scene.give site q paired { s with env.trace := past ++ new.map (Event.handing q) } i =
      last.after
        (past ++ new.map (Event.handing q) ++ [.plugin i (.packet paired q c.onPacket)]) := by
    rw [give_eq, obey_eq hid hbody, ← hlast, ← hc]
    rfl
  rw [hs, ht]
  refine ⟨new ++ [.plugin i (.packet paired p c.onPacket)] ++ last.env.trace, ?_, ?_⟩
  · simp [after, Env.after]
  · rw [List.map_append, List.map_append, map_handing hhanded]
    simp [after, Env.after, Event.handing]

/-- The same recipients, and all goes the same way. -/
theorem twins_dispatch (hid : q.id = p.id) (hbody : q.body = p.body)
    (hsame : s.device.roster.recipients q.type paired = s.device.roster.recipients p.type paired) :
    Twins s.env.trace q (s.dispatch site p paired) (s.dispatch site q paired) := by
  rw [dispatch, dispatch, hsame]
  generalize s.device.roster.recipients p.type paired = recipients
  have hfold : ∀ recipients : List Plugin.Instance, ∀ u v, Twins s.env.trace q u v →
      Twins s.env.trace q (recipients.foldl (Scene.give site p paired) u)
        (recipients.foldl (Scene.give site q paired) v) := by
    intro recipients
    induction recipients with
    | nil => exact fun _ _ h => h
    | cons i rest ih => exact fun u v h => ih _ _ (h.give hid hbody i)
  exact hfold recipients s s (Twins.refl q s)

/-! ## What a device receives -/

/-- The device as it offers plugins a packet that is not about pairing. -/
def offering (site : Site) (s : Scene) : Scene :=
  if s.device.isPaired then s.reloadOnce site else s.pair site .unpair

theorem receive_other (h : p.isType Packet.pairType = false) :
    s.receive site p = (s.offering site).dispatch site p s.device.isPaired := by
  rw [receive, offering, if_neg (Bool.eq_false_iff.mp h)]
  cases s.device.isPaired <;> rfl

theorem InOrder.offering (hf : site.registry.Formed) (h : s.InOrder site) :
    (s.offering site).InOrder site := by
  rw [Scene.offering]
  split
  · exact (upkept_inOrder hf).reloadOnce h
  · exact (upkept_inOrder hf).pair _ h

/-- Types that hold one spelling of a type and not the other. -/
def Splits (types : Roll) (rest : String) : Prop :=
  ¬("kdeconnect." ++ rest ∈ types ↔ "cconnect." ++ rest ∈ types)

instance (types : Roll) (rest : String) : Decidable (Splits types rest) :=
  inferInstanceAs (Decidable (¬_))

/-- No plugin at work that may be called tells the spellings apart, so the recipients are the
same. -/
theorem InOrder.recipients_either (h : s.InOrder site) {rest : String}
    (hboth : ∀ key ∈ s.device.roster.loaded.names, ∀ info,
      Dict.find? site.registry key = some info →
      paired = true ∨ info.listensToUnpaired = true → ¬Splits info.incoming rest) :
    s.device.roster.recipients ("cconnect." ++ rest) paired =
      s.device.roster.recipients ("kdeconnect." ++ rest) paired := by
  rw [h.roster.recipients, h.roster.recipients]
  congr 1
  refine List.filter_congr fun e he => ?_
  rw [Bool.eq_iff_iff, Plugin.Registry.admits_iff, Plugin.Registry.admits_iff]
  refine exists_congr fun info => and_congr_right fun hinfo => and_congr_left fun hcalled => ?_
  exact (not_not.mp (hboth e.1 (List.mem_map_of_mem he) info hinfo hcalled)).symm

/-- A packet of pairing has the same effect in both spellings. So has any other packet until it is
offered to plugins, and the same plugins are called, and all that comes of it is the same, unless a
plugin at work that may be called declares its type in one spelling only. Both spellings are
accepted alike, unless the device announced one only. -/
theorem receive_either (hr : site.registry.Built) (hs : Begun site s) (ops : List Op)
    {rest : String} (hp : p.type = "kdeconnect." ++ rest)
    (hq : q = { p with type := "cconnect." ++ rest }) :
    let t := s.run site ops
    let u := t.offering site
    (rest = "pair" → t.receive site q = t.receive site p) ∧
    (rest ≠ "pair" →
      t.receive site p = u.dispatch site p t.device.isPaired ∧
      t.receive site q = u.dispatch site q t.device.isPaired ∧
      (Twins u.env.trace q (t.receive site p) (t.receive site q) ∨
        ∃ key ∈ u.device.roster.loaded.names, ∃ info,
          Dict.find? site.registry key = some info ∧
          (t.device.isPaired = true ∨ info.listensToUnpaired = true) ∧
          Splits info.incoming rest)) ∧
    (t.device.details.accepts q.type = t.device.details.accepts p.type ∨
      ∃ types, t.device.details.incoming = some types ∧ Splits types rest) := by
  intro t u
  have hqtype : q.type = "cconnect." ++ rest := by rw [hq]
  have heither := Packet.isType_either hp hqtype
  have hpair := Packet.isType_pair hp
  refine ⟨?_, ?_, ?_⟩
  · intro hrest
    have hbit : Pairing.ofPacket q = Pairing.ofPacket p := by
      rw [Pairing.ofPacket, Pairing.ofPacket, heither, hpair.mpr hrest, hq]
      rfl
    rw [receive, receive, heither, hpair.mpr hrest, if_pos rfl, if_pos rfl, pair, pair,
      Pairing.Session.actions, Pairing.Session.actions, hbit]
  · intro hrest
    have hother : p.isType Packet.pairType = false := by
      rw [Bool.eq_false_iff, Ne, hpair]
      exact hrest
    have hother' : q.isType Packet.pairType = false := (heither _).trans hother
    rw [receive_other hother, receive_other hother']
    refine ⟨rfl, rfl, ?_⟩
    by_cases hsplit : ∃ key ∈ u.device.roster.loaded.names, ∃ info,
        Dict.find? site.registry key = some info ∧
        (t.device.isPaired = true ∨ info.listensToUnpaired = true) ∧ Splits info.incoming rest
    · exact .inr hsplit
    · left
      have horder : u.InOrder site :=
        ((hs.inOrder hr.formed).run hr.formed ops).offering hr.formed
      refine twins_dispatch (by rw [hq]) (by rw [hq]) ?_
      rw [hp, hqtype]
      refine horder.recipients_either fun key hkey info hinfo hcalled hsplits => ?_
      exact hsplit ⟨key, hkey, info, hinfo, hcalled, hsplits⟩
  · rw [hp, hqtype, Details.accepts, Details.accepts]
    cases hincoming : t.device.details.incoming with
    | none => exact .inl rfl
    | some types =>
        by_cases hsplits : Splits types rest
        · exact .inr ⟨types, rfl, hsplits⟩
        · left
          rw [Bool.eq_iff_iff, List.contains_iff_mem, List.contains_iff_mem]
          exact (not_not.mp hsplits).symm

/-- A paired device and a plugin that declares both spellings. -/
theorem receive_either_declared :
    let ring : Plugin.Info :=
      { key := "ring", name := "Ring", incoming := ["cconnect.ping", "kdeconnect.ping"] }
    let site : Site := { registry := [("ring", ring)] }
    let env : Env := { links := [("lan", { name := "LAN" })] }
    let s : Scene := { device := .ofIdentity 0 { id := "peer" }, env }
    let ops : List Op := [.attach { id := "peer" } "lan", .pairing .request,
      .receive (Packet.make 1 "cconnect.pair" (.obj [("pair", .bool true)]))]
    let p : Packet := Packet.make 7 "kdeconnect.ping" .null
    let q : Packet := Packet.make 7 "cconnect.ping" .null
    let t := s.run site ops
    Twins (t.offering site).env.trace q (t.receive site p) (t.receive site q) ∧
      (t.receive site q).env.handed = [(⟨"ring", "ring", 1⟩, true, q)] := by
  intro ring site env s ops p q
  have hbuilt : site.registry.Built :=
    .register (i := ring) .empty (List.pairwise_pair.mpr (by decide)) List.Pairwise.nil rfl
  have hbegun : Begun site s := .seen 0 { id := "peer" }
  have hp : p.type = "kdeconnect." ++ "ping" := by decide
  have hq : q = { p with type := "cconnect." ++ "ping" } := by decide +kernel
  have hloaded : ((s.run site ops).offering site).device.roster.loaded.names = ["ring"] := by
    decide +kernel
  have hhanded :
      ((s.run site ops).receive site q).env.handed = [(⟨"ring", "ring", 1⟩, true, q)] := by
    decide +kernel
  have hboth : ¬Splits ring.incoming "ping" := by decide
  obtain ⟨-, hother, -⟩ := receive_either hbuilt hbegun ops hp hq
  obtain ⟨-, -, htwins | ⟨key, hkey, info, hinfo, -, hsplits⟩⟩ := hother (by decide)
  · exact ⟨htwins, hhanded⟩
  · rw [hloaded, List.mem_singleton] at hkey
    subst hkey
    cases hinfo
    exact absurd hsplits hboth

/-- The device announced one spelling, and a plugin declares one: the other is not accepted, and
the plugin is not called. -/
theorem receive_either_missed :
    let ring : Plugin.Info := { key := "ring", name := "Ring", incoming := ["kdeconnect.ping"] }
    let site : Site := { registry := [("ring", ring)] }
    let env : Env := { links := [("lan", { name := "LAN" })] }
    let s : Scene := { device := .ofIdentity 0 { id := "peer" }, env }
    let i : PeerIdentity :=
      { id := "peer", incoming := some ["kdeconnect.ping"], outgoing := some ["kdeconnect.ping"] }
    let ops : List Op := [.attach i "lan", .pairing .request,
      .receive (Packet.make 1 "kdeconnect.pair" (.obj [("pair", .bool true)]))]
    let p : Packet := Packet.make 7 "kdeconnect.ping" .null
    let q : Packet := Packet.make 7 "cconnect.ping" .null
    let t := s.run site ops
    (t.receive site p).env.handed = [(⟨"ring", "ring", 1⟩, true, p)] ∧
      (t.receive site q).env.handed = [] ∧
      t.device.details.accepts p.type = true ∧ t.device.details.accepts q.type = false := by
  decide +kernel

end Scene

end Tether
