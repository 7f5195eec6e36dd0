import Tether.Proofs.Device.Trust
import Tether.Proofs.Env.Wiring

/-!
# Links, receivers and outbox in step

That a device has a link is noted in three places: in the device, at the link, and by the outbox
that is there. Attaching and detaching change them one after the other, and they agree when the
operation is over (`Device.Fastened`). All else that can happen to a device leaves the three as they
are (`Scene.Keeps`).

Devices share their surroundings, so it has to be said what an operation on one of them does to the
others: nothing. It registers nobody else, closes no outbox but that of the device, gives the device
none that was in use, and does not meddle with blocking sends (`Scene.Minds`).
-/

namespace Tether

/-- The device has each link once, is registered once at each of its links and at no other, and has
an outbox, which is open, if it has a link and not otherwise. -/
structure Device.Fastened (d : Device) (e : Env) : Prop where
  nodup : d.links.Nodup
  registered : ∀ id n, e.links.registered id d.ref = some n → n = if id ∈ d.links then 1 else 0
  outbox : d.outbox.isSome = true ↔ d.links ≠ []
  opened : ∀ o, d.outbox = some o → (e.outbox o).closed = false

/-- The operation is one of the device: the environment is not replaced. -/
def Op.Own : Op → Prop
  | elsewhere _ => False
  | _ => True

namespace Scene

variable {site : Site} {s t u : Scene}

/-- Links and outbox of the device are as they were, devices are registered as they were, and what
is under way is spared. -/
structure Keeps (s t : Scene) : Prop where
  ref : t.device.ref = s.device.ref
  links : t.device.links = s.device.links
  outbox : t.device.outbox = s.device.outbox
  env : s.env.Passes t.env

theorem Keeps.refl (s : Scene) : s.Keeps s :=
  ⟨rfl, rfl, rfl, .refl s.env⟩

theorem Keeps.trans (h : s.Keeps t) (h' : t.Keeps u) : s.Keeps u :=
  ⟨h'.ref.trans h.ref, h'.links.trans h.links, h'.outbox.trans h.outbox, h.env.trans h'.env⟩

theorem keeps_env (s : Scene) {env : Env} (h : s.env.Passes env) : s.Keeps { s with env } :=
  ⟨rfl, rfl, rfl, h⟩

theorem keeps_foldl {α : Type} {f : Scene → α → Scene} (h : ∀ (s : Scene) (a : α), s.Keeps (f s a))
    (items : List α) (s : Scene) : s.Keeps (items.foldl f s) := by
  induction items generalizing s with
  | nil => exact .refl s
  | cons a rest ih => exact (h s a).trans (ih _)

/-! ## Operations that keep links -/

theorem keeps_send (s : Scene) (p : Packet) (replace : Option Nat) (c : Callback) :
    s.Keeps (s.send p replace c) := by
  rw [send]
  split
  · exact s.keeps_env (s.env.passes_submit _ p replace c)
  · exact s.keeps_env (s.env.passes_record _)

theorem keeps_takeBack (s : Scene) (replace : Nat) : s.Keeps (s.takeBack replace).2 := by
  rw [takeBack]
  split
  · exact s.keeps_env (s.env.passes_takeFrom _ replace)
  · exact .refl s

theorem keeps_sendBlocking (site : Site) (s : Scene) (name : String) (p : Packet) (c : Callback)
    (sameThread : Bool) : s.Keeps (s.sendBlocking site name p c sameThread) := by
  simp only [sendBlocking]
  split
  · exact s.keeps_env (s.env.passes_ask_setAlarm _ _)
  · exact s.keeps_env (s.env.passes_ask _)

theorem keeps_writes (changes : List Store.Change) (s : Scene) :
    s.Keeps (changes.foldl tryWrite s) :=
  keeps_foldl (fun s c => s.keeps_env (s.env.passes_tryWrite c)) changes s

theorem keeps_learn (s : Scene) (i : PeerIdentity) : s.Keeps (s.learn i) := by
  obtain ⟨changes, hfollow, -⟩ := s.follow_eq i
  have hwrites := keeps_writes changes s
  rw [← hfollow] at hwrites
  exact ⟨hwrites.ref, hwrites.links, hwrites.outbox, hwrites.env⟩

theorem keeps_reload (site : Site) (s : Scene) : s.Keeps (s.reload site) := by
  have hcall := s.env.passes_call fun shop =>
    s.device.roster.reload shop s.owner (s.candidates site)
  exact ⟨rfl, rfl, rfl, hcall.trans (Env.passes_record _ _)⟩

theorem keeps_shutdownPlugins (s : Scene) : s.Keeps s.shutdownPlugins :=
  ⟨rfl, rfl, rfl, s.env.passes_call fun shop => ((), s.device.roster.clear shop)⟩

theorem keeps_setPlugin (site : Site) (s : Scene) (key : String) (enabled : Bool) :
    s.Keeps (s.setPlugin site key enabled).2 := by
  have hwrite : ∀ ledger, s.Keeps { s with env.ledger := ledger } :=
    fun ledger => s.keeps_env (s.env.passes_ledger ledger)
  rw [setPlugin]
  split
  · exact hwrite _
  · exact (hwrite _).trans (keeps_reload site _)

theorem keeps_disconnect (s : Scene) : s.Keeps s.disconnect := by
  refine s.keeps_env ?_
  generalize s.device.links = links
  generalize s.env = env
  induction links generalizing env with
  | nil => exact .refl env
  | cons id rest ih => exact (env.passes_closeLink id).trans (ih _)

theorem keeps_onPairing (site : Site) (s : Scene) (event : PairingEvent) :
    s.Keeps (s.onPairing site event) := by
  have htell : ∀ u : Scene, u.Keeps (u.tellObservers event) :=
    fun u => u.keeps_env (u.env.passes_record _)
  cases event with
  | successful =>
      have hstore : s.Keeps s.storeTrust := keeps_writes (trusting s.device) s
      exact (hstore.trans (keeps_reload site _)).trans (htell _)
  | unpaired =>
      have herase : s.Keeps s.eraseTrust := keeps_writes (forgetting s.device) s
      exact (herase.trans (keeps_reload site _)).trans (htell _)
  | incomingRequest | failed _ => exact htell s

theorem keeps_perform (site : Site) (s : Scene) (a : Pairing.Action) :
    s.Keeps (s.perform site a) := by
  have hsession : s.Keeps { s with device.session := s.device.session.perform a } :=
    ⟨rfl, rfl, rfl, .refl s.env⟩
  cases a with
  | enter _ | cancelTimer => exact hsession
  | startTimer => exact hsession.trans (keeps_env _ (Env.passes_setAlarm _ _ rfl rfl))
  | send pair =>
      exact (hsession.trans (keeps_env _ s.env.passes_newId)).trans (keeps_send _ _ _ _)
  | emit event => exact hsession.trans (keeps_onPairing site _ event)

theorem keeps_pair (site : Site) (s : Scene) (i : Pairing.Input) : s.Keeps (s.pair site i) :=
  keeps_foldl (keeps_perform site) _ s

theorem keeps_reloadOnce (site : Site) (s : Scene) : s.Keeps (s.reloadOnce site) := by
  rw [reloadOnce]
  split
  · have hcleared : s.Keeps { s with device.reloadOnPacket := false } :=
      ⟨rfl, rfl, rfl, .refl s.env⟩
    exact hcleared.trans (keeps_reload site _)
  · exact .refl s

theorem keeps_obey (site : Site) (i : Plugin.Instance) (p : Packet) (s : Scene)
    (r : Plugin.Request) : s.Keeps (obey site i p s r) := by
  cases r with
  | reply type => exact (keeps_send s _ _ _).trans (keeps_env _ (Env.passes_note _ i _))
  | replyInPlace type replace => exact keeps_send s _ _ _
  | unpair => exact keeps_pair site s _
  | setPlugin key enabled =>
      exact (keeps_setPlugin site s key enabled).trans (keeps_env _ (Env.passes_note _ i _))

theorem keeps_dispatch (site : Site) (s : Scene) (p : Packet) (paired : Bool) :
    s.Keeps (s.dispatch site p paired) := by
  refine keeps_foldl ?_ _ s
  intro s i
  have hcall : s.Keeps { s with env := (s.env.call fun shop => shop.handle i paired p).2 } :=
    s.keeps_env (s.env.passes_call _)
  exact hcall.trans (keeps_foldl (keeps_obey site i p) _ _)

theorem keeps_receive (site : Site) (s : Scene) (p : Packet) : s.Keeps (s.receive site p) := by
  rw [receive]
  split
  · exact keeps_pair site s _
  · split
    · exact (keeps_reloadOnce site s).trans (keeps_dispatch site _ p true)
    · exact (keeps_pair site s .unpair).trans (keeps_dispatch site _ p false)

/-! ## Attaching and detaching -/

/-- A link that is new to the device is noted in all three places. -/
def fasten (s : Scene) (link : String) : Scene :=
  let s := { s with device.links := s.device.links ++ [link] }.openOutbox
  { s with env.links := s.env.links.addReceiver link s.device.ref }

/-- A link of the device is struck in all three places. -/
def unfasten (s : Scene) (link : String) : Scene :=
  let s := { s with
    device.links := s.device.links.filter (· ≠ link)
    env.links := s.env.links.removeReceiver link s.device.ref }
  if s.device.links.isEmpty then s.closeOutbox else s

/-- An identity on a link that is attached already is learned, and that is all. -/
theorem attach_repeated {i : PeerIdentity} {link : String} (hid : i.id = s.device.id)
    (h : link ∈ s.device.links) : s.attach site i link = (.ok (), s.learn i) := by
  have hadd : (s.learn i).device.links.add? link = none := by
    rw [learn_device, LinkSet.add?, if_pos]
    simpa using h
  rw [attach, if_neg (fun hne => hne hid)]
  simp only [hadd]

/-- Another identity is refused. A link that is there already only tells of the device, and a new
one is fastened; the rest concerns plugins. -/
theorem attach_cases (site : Site) (s : Scene) (i : PeerIdentity) (link : String) :
    i.id ≠ s.device.id ∧ (s.attach site i link).2 = s ∨
    i.id = s.device.id ∧ link ∈ s.device.links ∧ (s.attach site i link).2 = s.learn i ∨
    i.id = s.device.id ∧ link ∉ s.device.links ∧
      ((s.learn i).fasten link).Keeps (s.attach site i link).2 := by
  by_cases hid : i.id = s.device.id
  · by_cases hlink : link ∈ s.device.links
    · exact .inr (.inl ⟨hid, hlink, by rw [attach_repeated hid hlink]⟩)
    · refine .inr (.inr ⟨hid, hlink, ?_⟩)
      rw [attach, if_neg (not_not.mpr hid)]
      rw [← (keeps_learn s i).links] at hlink
      generalize s.learn i = t at hlink ⊢
      have hadd : t.device.links.add? link = some (t.device.links ++ [link]) := by
        simp [LinkSet.add?, hlink]
      simp only [hadd]
      have hnoted : (t.fasten link).Keeps
          { t.fasten link with
            device.supported := fitting site (t.fasten link).device.details } :=
        ⟨rfl, rfl, rfl, .refl _⟩
      refine hnoted.trans (Keeps.trans ?_ (keeps_reload site _))
      split <;> exact ⟨rfl, rfl, rfl, .refl _⟩
  · exact .inl ⟨hid, by rw [attach, if_pos hid]⟩

/-- A link that is not there is not detached. One that is there is struck; the rest concerns
plugins. -/
theorem detach_cases (site : Site) (s : Scene) (link : String) :
    link ∉ s.device.links ∧ s.detach site link = (false, s) ∨
    link ∈ s.device.links ∧ (s.unfasten link).Keeps (s.detach site link).2 := by
  rw [detach, LinkSet.remove?]
  by_cases hlink : link ∈ s.device.links
  · refine .inr ⟨hlink, ?_⟩
    rw [if_pos (List.contains_iff_mem.mpr hlink), unfasten]
    dsimp only
    refine Keeps.trans ?_ (keeps_reload site _)
    split <;> exact ⟨rfl, rfl, rfl, .refl _⟩
  · refine .inl ⟨hlink, ?_⟩
    rw [if_neg (by simpa using hlink)]

/-- The outbox of the device is one that it had, or one that was not there and is open. -/
theorem openOutbox_spec (s : Scene) :
    ∃ o, s.openOutbox.device = { s.device with outbox := some o } ∧
      s.openOutbox.env.links = s.env.links ∧ s.env.Passes s.openOutbox.env ∧
      (s.device.outbox = some o ∨
        (s.env.outbox o).closed = true ∧ (s.openOutbox.env.outbox o).closed = false) := by
  rw [openOutbox]
  cases hbox : s.device.outbox with
  | some o =>
      have hsame : s.device = { s.device with outbox := some o } := by rw [← hbox]
      exact ⟨o, hsame, rfl, .refl s.env, .inl rfl⟩
  | none =>
      refine ⟨(s.env.openOutbox s.device.id).1, rfl, rfl, s.env.passes_openOutbox _, .inr ⟨?_, ?_⟩⟩
      · rw [Env.outbox_of_le]
        exact Nat.le_refl _
      · show ((s.env.openOutbox s.device.id).2.outbox _).closed = false
        rw [Env.outbox_openOutbox, if_pos rfl]

/-- No outbox is closed but that of the device, which has none any more. -/
theorem closeOutbox_spec (s : Scene) :
    s.closeOutbox.device = { s.device with outbox := none } ∧
      s.closeOutbox.env.links = s.env.links ∧ s.env.Spares s.closeOutbox.env ∧
      s.env.Leaves none s.closeOutbox.env ∧
      ∀ o, s.device.outbox ≠ some o → s.closeOutbox.env.outbox o = s.env.outbox o := by
  rw [closeOutbox]
  cases hbox : s.device.outbox with
  | none =>
      have hsame : s.device = { s.device with outbox := none } := by rw [← hbox]
      exact ⟨hsame, rfl, .refl s.env, .refl none s.env, fun _ _ => rfl⟩
  | some o =>
      have hclosed : s.env.Spares (s.env.setOutbox o (s.env.outbox o).close.1) :=
        ⟨rfl, List.prefix_rfl⟩
      refine ⟨rfl, rfl, hclosed.trans (Env.spares_record _ _), s.env.leaves_closeOutbox o,
        fun other hother => ?_⟩
      exact s.env.closeOutbox_other fun heq => hother (congrArg some heq)

/-! ## One device among others -/

/-- What happens to the device concerns no other one: the others are registered as they were, their
outboxes stay open, and an outbox that the device gets is none of theirs. Blocking sends are left
alone, and the device itself stays fastened. -/
structure Minds (s t : Scene) : Prop where
  ref : t.device.ref = s.device.ref
  others : ∀ ref, s.device.ref ≠ ref → ∀ id,
    t.env.links.registered id ref = s.env.links.registered id ref
  opened : ∀ o, s.device.outbox ≠ some o → (s.env.outbox o).closed = false →
    (t.env.outbox o).closed = false
  fresh : ∀ o, t.device.outbox = some o →
    s.device.outbox = some o ∨ (s.env.outbox o).closed = true
  fastened : s.device.Fastened s.env → t.device.Fastened t.env
  spares : s.env.Spares t.env
  leaves : s.env.Leaves none t.env

theorem Keeps.minds (h : s.Keeps t) : s.Minds t := by
  refine ⟨h.ref, fun _ _ _ => by rw [h.env.registered], fun o _ ho => h.env.opened o ho,
    fun o ho => .inl (h.outbox ▸ ho), fun hs => ⟨?_, ?_, ?_, ?_⟩, h.env.toSpares, h.env.toLeaves⟩
  · rw [h.links]
    exact hs.nodup
  · rw [h.env.registered, h.ref, h.links]
    exact hs.registered
  · rw [h.outbox, h.links]
    exact hs.outbox
  · intro o ho
    rw [h.outbox] at ho
    exact h.env.opened o (hs.opened o ho)

theorem Minds.trans (h : s.Minds t) (h' : t.Minds u) : s.Minds u := by
  -- an outbox that is open and not the device's own stays so, and the device cannot get it
  have hkept : ∀ o, s.device.outbox ≠ some o → (s.env.outbox o).closed = false →
      t.device.outbox ≠ some o ∧ (t.env.outbox o).closed = false := by
    intro o hother hopen
    refine ⟨fun ho => ?_, h.opened o hother hopen⟩
    rcases h.fresh o ho with hown | hclosed
    · exact hother hown
    · exact Bool.noConfusion (hopen.symm.trans hclosed)
  refine ⟨h'.ref.trans h.ref, fun ref href id => ?_, fun o hother hopen => ?_, fun o ho => ?_,
    fun hs => h'.fastened (h.fastened hs), h.spares.trans h'.spares, h.leaves.trans h'.leaves⟩
  · rw [h'.others ref (h.ref ▸ href), h.others ref href]
  · obtain ⟨hother', hopen'⟩ := hkept o hother hopen
    exact h'.opened o hother' hopen'
  · by_contra hnot
    obtain ⟨hother, hopen⟩ := not_or.mp hnot
    obtain ⟨hother', hopen'⟩ := hkept o hother (Bool.eq_false_iff.mpr hopen)
    rcases h'.fresh o ho with hown | hclosed
    · exact hother' hown
    · exact Bool.noConfusion (hopen'.symm.trans hclosed)

theorem minds_fasten {link : String} (h : link ∉ s.device.links) : s.Minds (s.fasten link) := by
  obtain ⟨o, hdevice, hlinks, hpass, hbox⟩ :=
    openOutbox_spec { s with device.links := s.device.links ++ [link] }
  have hdevice' : (s.fasten link).device =
      { s.device with links := s.device.links ++ [link], outbox := some o } := hdevice
  have hlinks' : (s.fasten link).env.links = s.env.links.addReceiver link s.device.ref := by
    rw [fasten]
    dsimp only
    rw [hlinks, hdevice]
  have hopened : ∀ o, (s.env.outbox o).closed = false →
      ((s.fasten link).env.outbox o).closed = false := hpass.opened
  have hleaves : s.env.Leaves none (s.fasten link).env :=
    hpass.toLeaves.trans (Env.leaves_change _ link fun _ => rfl)
  refine ⟨?_, fun ref href id => ?_, fun o _ ho => hopened o ho, fun o' ho' => ?_, fun hs => ?_,
    ⟨hpass.inFlight, hpass.calls⟩, hleaves⟩
  · rw [hdevice']
  · rw [hlinks', Links.registered_addReceiver_other _ _ _ href]
  · rw [hdevice'] at ho'
    cases ho'
    exact hbox.imp_right And.left
  · rw [hdevice']
    refine ⟨?_, fun id n hn => ?_, by simp, fun o' ho' => ?_⟩
    · show (s.device.links ++ [link]).Nodup
      rw [← List.concat_eq_append]
      exact List.Nodup.concat h hs.nodup
    · rw [hlinks', Links.registered_addReceiver, Option.map_eq_some_iff] at hn
      obtain ⟨m, hm, rfl⟩ := hn
      rw [hs.registered id m hm]
      by_cases hid : id = link
      · subst hid
        simp [h]
      · simp [hid]
    · cases ho'
      rcases hbox with hown | ⟨-, hopen⟩
      · exact hopened o (hs.opened o hown)
      · exact hopen

theorem minds_unfasten {link : String} (h : link ∈ s.device.links) :
    s.Minds (s.unfasten link) := by
  have hstruck : ∀ ref, s.device.ref ≠ ref → ∀ id,
      (s.env.links.removeReceiver link s.device.ref).registered id ref =
        s.env.links.registered id ref :=
    fun ref href id => s.env.links.registered_removeReceiver_other link id href
  have hregistered : s.device.Fastened s.env → ∀ id n,
      (s.env.links.removeReceiver link s.device.ref).registered id s.device.ref = some n →
        n = if id ∈ s.device.links.filter (· ≠ link) then 1 else 0 := by
    intro hs id n hn
    rw [Links.registered_removeReceiver, Option.map_eq_some_iff] at hn
    obtain ⟨m, hm, rfl⟩ := hn
    rw [hs.registered id m hm]
    by_cases hid : id = link <;> simp [hid]
  have hleaves : s.env.Leaves none
      { s.env with links := s.env.links.removeReceiver link s.device.ref } :=
    s.env.leaves_change link fun _ => rfl
  rw [unfasten]
  dsimp only
  split
  · next hlast =>
      obtain ⟨hdevice, hlinks, hspares, hclosed, hboxes⟩ := closeOutbox_spec { s with
        device.links := s.device.links.filter (· ≠ link)
        env.links := s.env.links.removeReceiver link s.device.ref }
      refine ⟨?_, ?_, ?_, ?_, fun hs => ?_, ⟨hspares.inFlight, hspares.calls⟩,
        hleaves.trans hclosed⟩
      · rw [hdevice]
      · rw [hlinks]
        exact hstruck
      · intro o ho hopen
        rw [hboxes o ho]
        exact hopen
      · rw [hdevice]
        exact nofun
      · rw [hdevice]
        refine ⟨hs.nodup.filter _, ?_, ?_, nofun⟩
        · rw [hlinks]
          exact hregistered hs
        · rw [List.isEmpty_iff.mp hlast]
          exact ⟨nofun, fun hnot => absurd rfl hnot⟩
  · next hmore =>
      refine ⟨rfl, hstruck, fun _ _ ho => ho, fun _ ho => .inl ho, fun hs => ?_,
        ⟨rfl, List.prefix_rfl⟩, hleaves⟩
      refine ⟨hs.nodup.filter _, hregistered hs, ?_, hs.opened⟩
      show s.device.outbox.isSome = true ↔ s.device.links.filter (· ≠ link) ≠ []
      rw [List.isEmpty_iff] at hmore
      exact ⟨fun _ => hmore, fun _ => hs.outbox.mpr (List.ne_nil_of_mem h)⟩

/-! ## Runs -/

/-- The links of a device with an id after an operation. -/
def linked (id : String) (links : LinkSet) : Op → LinkSet
  | .attach i link => if i.id = id ∧ link ∉ links then links ++ [link] else links
  | .detach link => links.filter (· ≠ link)
  | _ => links

/-- Links are attached, or detached, or kept. -/
theorem keeps_apply (site : Site) (s : Scene) {op : Op} (hop : op.Own) :
    (∃ i link, op = .attach i link) ∨ (∃ link, op = .detach link) ∨
      s.Keeps (s.apply site op) ∧ linked s.device.id s.device.links op = s.device.links := by
  cases op with
  | attach i link => exact .inl ⟨i, link, rfl⟩
  | detach link => exact .inr (.inl ⟨link, rfl⟩)
  | disconnect => exact .inr (.inr ⟨s.keeps_disconnect, rfl⟩)
  | receive p => exact .inr (.inr ⟨keeps_receive site s p, rfl⟩)
  | pairing i => exact .inr (.inr ⟨keeps_pair site s i, rfl⟩)
  | setPlugin key enabled => exact .inr (.inr ⟨keeps_setPlugin site s key enabled, rfl⟩)
  | reload => exact .inr (.inr ⟨keeps_reload site s, rfl⟩)
  | shutdownPlugins => exact .inr (.inr ⟨s.keeps_shutdownPlugins, rfl⟩)
  | send p replace callback => exact .inr (.inr ⟨s.keeps_send p replace callback, rfl⟩)
  | takeBack replace => exact .inr (.inr ⟨s.keeps_takeBack replace, rfl⟩)
  | sendBlocking name p callback sameThread =>
      exact .inr (.inr ⟨keeps_sendBlocking site s name p callback sameThread, rfl⟩)
  | addObserver _ | removeObserver _ | addListener _ | removeListener _ =>
      exact .inr (.inr ⟨⟨rfl, rfl, rfl, .refl s.env⟩, rfl⟩)
  | elsewhere env => exact hop.elim

/-- Whatever happens to a device concerns no other one. -/
theorem minds_apply (site : Site) (s : Scene) {op : Op} (hop : op.Own) :
    s.Minds (s.apply site op) := by
  rcases keeps_apply site s hop with ⟨i, link, rfl⟩ | ⟨link, rfl⟩ | ⟨hkeeps, -⟩
  · rw [apply]
    rcases attach_cases site s i link with ⟨-, h⟩ | ⟨-, -, h⟩ | ⟨-, hlink, h⟩
    · rw [h]
      exact (Keeps.refl s).minds
    · rw [h]
      exact (keeps_learn s i).minds
    · have hlearn := keeps_learn s i
      rw [← hlearn.links] at hlink
      exact (hlearn.minds.trans (minds_fasten hlink)).trans h.minds
  · rw [apply]
    rcases detach_cases site s link with ⟨-, h⟩ | ⟨hlink, h⟩
    · rw [h]
      exact (Keeps.refl s).minds
    · exact (minds_unfasten hlink).trans h.minds
  · exact hkeeps.minds

theorem apply_links (site : Site) (s : Scene) {op : Op} (hop : op.Own) :
    (s.apply site op).device.links = linked s.device.id s.device.links op := by
  rcases keeps_apply site s hop with ⟨i, link, rfl⟩ | ⟨link, rfl⟩ | ⟨hkeeps, hlinked⟩
  · rw [apply, linked]
    rcases attach_cases site s i link with ⟨hid, h⟩ | ⟨-, hlink, h⟩ | ⟨hid, hlink, h⟩
    · rw [h, if_neg fun hown => hid hown.1]
    · rw [h, (keeps_learn s i).links, if_neg fun hnew => hnew.2 hlink]
    · obtain ⟨o, hdevice, -⟩ := openOutbox_spec
        { s.learn i with device.links := (s.learn i).device.links ++ [link] }
      rw [h.links, if_pos ⟨hid, hlink⟩, fasten]
      dsimp only
      rw [hdevice]
      dsimp only
      rw [(keeps_learn s i).links]
  · rw [apply, linked]
    rcases detach_cases site s link with ⟨hlink, h⟩ | ⟨-, h⟩
    · rw [h, List.filter_eq_self.mpr]
      intro other hother
      simpa using fun heq : other = link => hlink (heq ▸ hother)
    · rw [h.links, unfasten]
      dsimp only
      split
      · rw [(closeOutbox_spec _).1]
      · rfl
  · rw [hkeeps.links, hlinked]

theorem minds_run (site : Site) (s : Scene) {ops : List Op} (hops : ∀ op ∈ ops, op.Own) :
    s.Minds (s.run site ops) := by
  induction ops generalizing s with
  | nil => exact (Keeps.refl s).minds
  | cons op rest ih =>
      obtain ⟨hop, hrest⟩ := List.forall_mem_cons.mp hops
      exact (minds_apply site s hop).trans (ih _ hrest)

theorem run_links (site : Site) (s : Scene) {ops : List Op} (hops : ∀ op ∈ ops, op.Own) :
    (s.run site ops).device.links = ops.foldl (linked s.device.id) s.device.links := by
  induction ops generalizing s with
  | nil => rfl
  | cons op rest ih =>
      obtain ⟨hop, hrest⟩ := List.forall_mem_cons.mp hops
      rw [run_cons, ih _ hrest, apply_id, apply_links site s hop, List.foldl_cons]

end Scene

end Tether
