import Tether.Proofs.Device.Remembered
import Tether.Proofs.Packet.Fields

/-!
# What a device is known by

With every link comes a packet in which the device says who it is. It need not say
everything, and what it does not say, or says in a way that cannot be read, stays as it was.
So each thing that is known of a device is what the latest of its packets told that told it
at all (`Latest`), and each goes its own way: one packet may bring a name, another a class.

Name and class are kept in settings too once the device is paired. They are compared with
what was known before that is overwritten, and so settings never fall behind.
-/

namespace Tether

/-- A packet in which a device says who it is. -/
structure Packet.Introduces (p : Packet) (id : String) : Prop where
  type : p.isType Packet.identityType = true
  named : id ≠ ""
  id : Dict.find? p.body "deviceId" = some (.str id)

namespace Json

/-- A text is read as itself. -/
def MeansText (j : Json) (s : String) : Prop :=
  j = .str s

/-- A word is read as a class, and one that is no word for a class as a desktop. -/
def MeansKind (j : Json) (k : DeviceKind) : Prop :=
  ∃ s, j = .str s ∧ k = if s = "phone" then .phone else if s = "tablet" then .tablet
    else if s = "tv" then .tv else .desktop

/-- An integer of thirty-two bits without a sign is read as itself. -/
def MeansVersion (j : Json) (n : Int) : Prop :=
  j = .num (.int n) ∧ 0 ≤ n ∧ n < 2 ^ 32

/-- A list of nothing but texts is read as the set of them. -/
def MeansTypes (j : Json) (types : Option Roll) : Prop :=
  ∃ names : List String, j = .arr (names.map .str) ∧ types = some (Roll.ofList names)

end Json

/-- Something that happens to a device. Links come with packets, which may say anything. -/
inductive Encounter where
  | greeting (p : Packet) (certificate : List UInt8) (link : String)
  | other (op : Op) (h : ∀ i link, op ≠ .attach i link)

/-- An operation leaves it to the device to write its name and its class. Plugins are not switched
under those keys, and of packets only those about pairing are received, which do not reach the
plugins. -/
def Op.Beside : Op → Prop
  | .setPlugin key _ => key ≠ Store.nameKey ∧ key ≠ Store.kindKey
  | .receive p => p.isType Packet.pairType = true
  | _ => True

namespace Encounter

/-- The operation that an encounter leads to. A link is not attached if the packet is no
introduction. -/
def op? : Encounter → Option Op
  | greeting p certificate link =>
      match PeerIdentity.ofPacket p certificate with
      | .ok i => some (.attach i link)
      | .error _ => none
  | other op _ => some op

/-- Nobody but the device itself writes its name and its class. -/
def Beside : Encounter → Prop
  | greeting _ _ _ => True
  | other op _ => op.Beside

/-- A device introduces itself with a field that has a value, and the value is read as
something. -/
def Tells {α : Type} (id key : String) (Means : Json → α → Prop) (e : Encounter) (x : α) : Prop :=
  ∃ p certificate link j, e = .greeting p certificate link ∧ p.Introduces id ∧
    Dict.find? p.body key = some j ∧ Means j x

end Encounter

/-- A value is the one that the last of those tells who tell one, or the first one if nobody
does. -/
def Latest {ε α : Type} (Tells : ε → α → Prop) (es : List ε) (first last : α) : Prop :=
  (∃ earlier e later, es = earlier ++ e :: later ∧ Tells e last ∧
      ∀ e' ∈ later, ∀ x, ¬Tells e' x) ∨
    (∀ e ∈ es, ∀ x, ¬Tells e x) ∧ last = first

section Latest

variable {ε α δ : Type} {Tells : ε → α → Prop} {es : List ε} {e : ε} {first last : α}

/-- Whoever comes first counts only if nobody else tells anything. -/
theorem Latest.cons (h : Latest Tells es first last)
    (hfirst : Tells e first ∨ (∀ x, ¬Tells e x) ∧ first = start) :
    Latest Tells (e :: es) start last := by
  rcases h with ⟨earlier, e', later, rfl, htells, hlater⟩ | ⟨hnone, rfl⟩
  · exact .inl ⟨e :: earlier, e', later, rfl, htells, hlater⟩
  · rcases hfirst with htells | ⟨hsilent, rfl⟩
    · exact .inl ⟨[], e, es, rfl, htells, hnone⟩
    · exact .inr ⟨List.forall_mem_cons.mpr ⟨hsilent, hnone⟩, rfl⟩

/-- What is taken over from whoever tells it, and kept otherwise, is the latest that was
told. -/
theorem latest_foldl {step : δ → ε → δ} (view : δ → α)
    (htake : ∀ d e x, Tells e x → view (step d e) = x)
    (hkeep : ∀ d e, (∀ x, ¬Tells e x) → view (step d e) = view d) (es : List ε) (d : δ) :
    Latest Tells es (view d) (view (es.foldl step d)) := by
  induction es generalizing d with
  | nil => exact .inr ⟨List.forall_mem_nil _, rfl⟩
  | cons e rest ih =>
      refine (ih (step d e)).cons ?_
      by_cases htells : ∃ x, Tells e x
      · obtain ⟨x, hx⟩ := htells
        exact .inl (htake d e x hx ▸ hx)
      · have hsilent := not_exists.mp htells
        exact .inr ⟨hsilent, hkeep d e hsilent⟩

end Latest

/-! ## What a packet tells -/

namespace PeerIdentity

variable {p : Packet} {certificate : List UInt8} {i : PeerIdentity} {id key : String}

/-- The identity that a packet gives an id, if it is one. -/
def told (p : Packet) (certificate : List UInt8) (id : String) : PeerIdentity where
  id
  name := p.field? Packet.Strict.string.read "deviceName"
  kind := (p.field? Packet.Strict.string.read "deviceType").map DeviceKind.ofWord
  version := p.field? Packet.Strict.nat32.read "protocolVersion"
  certificate
  incoming := p.getStringSet? "incomingCapabilities"
  outgoing := p.getStringSet? "outgoingCapabilities"

/-- Whoever introduces itself is understood. -/
theorem ofPacket_of_introduces (h : p.Introduces id) (certificate : List UInt8) :
    ofPacket p certificate = .ok (told p certificate id) := by
  have hid : (p.field? Packet.Strict.string.read "deviceId").filter (· ≠ "") = some id := by
    simp [Packet.field?, h.id, Packet.Strict.string, Json.str?, Option.filter, h.named]
  rw [ofPacket, if_pos h.type, hid]
  rfl

theorem str?_iff {j : Json} {s : String} : j.str? = some s ↔ j.MeansText s :=
  Json.str?_iff

/-- Nobody else is. -/
theorem introduces_of_ofPacket (h : ofPacket p certificate = .ok i) :
    p.Introduces i.id ∧ i = told p certificate i.id := by
  rw [ofPacket] at h
  split at h
  · next htype =>
      split at h
      · cases h
      · next id hid =>
          obtain ⟨hfield, hnamed⟩ := Option.filter_eq_some_iff.mp hid
          obtain ⟨j, hj, hread⟩ := Option.bind_eq_some_iff.mp hfield
          cases h
          refine ⟨⟨htype, of_decide_eq_true hnamed, ?_⟩, rfl⟩
          rw [hj, str?_iff.mp hread]
  · cases h

/-- What is read of a field is what its value means. -/
theorem field?_iff {α : Type} {read : Json → Option α} {Means : Json → α → Prop}
    (h : ∀ j x, read j = some x ↔ Means j x) (p : Packet) (key : String) (x : α) :
    p.field? read key = some x ↔ ∃ j, Dict.find? p.body key = some j ∧ Means j x := by
  simp only [Packet.field?, Option.bind_eq_some_iff, h]

theorem kind_iff (p : Packet) (certificate : List UInt8) (id : String) (k : DeviceKind) :
    (told p certificate id).kind = some k ↔
      ∃ j, Dict.find? p.body "deviceType" = some j ∧ j.MeansKind k := by
  have hread : ∀ (j : Json) (k : DeviceKind),
      j.str?.map DeviceKind.ofWord = some k ↔ j.MeansKind k := by
    intro j k
    rw [Option.map_eq_some_iff]
    constructor
    · rintro ⟨s, hs, rfl⟩
      exact ⟨s, str?_iff.mp hs, rfl⟩
    · rintro ⟨s, rfl, rfl⟩
      exact ⟨s, rfl, rfl⟩
  rw [← field?_iff hread]
  simp only [told, Packet.field?, Packet.Strict.string, Option.map_bind]
  rfl

theorem version_iff (p : Packet) (certificate : List UInt8) (id : String) (n : Int) :
    (told p certificate id).version = some n ↔
      ∃ j, Dict.find? p.body "protocolVersion" = some j ∧ j.MeansVersion n := by
  have hread : ∀ (j : Json) (n : Int),
      Packet.Strict.nat32.read j = some n ↔ j.MeansVersion n := fun j n =>
    Json.intWithin?_iff.trans (and_congr_right fun _ => by omega)
  exact field?_iff hread p _ n

theorem types_iff (p : Packet) (key : String) (types : Option Roll) :
    (p.getStringSet? key).map some = some types ↔
      ∃ j, Dict.find? p.body key = some j ∧ j.MeansTypes types := by
  simp only [Packet.getStringSet?, Packet.getStringList?]
  cases Dict.find? p.body key with
  | none => simp
  | some j =>
      cases j with
      | arr items => simp [Json.MeansTypes, Packet.texts?_iff, @eq_comm _ types]
      | _ => simp [Json.MeansTypes]

end PeerIdentity

namespace Encounter

/-- What is known of a device with an id after an encounter. -/
def learned (id : String) (d : Details) (e : Encounter) : Details :=
  match e.op? with
  | some op => Scene.learned id d op
  | none => d

/-- A field that is taken over from identities that have it, and read off their packets, is the
latest that was told. -/
theorem latest_field {α : Type} {view : Details → α} (tell : PeerIdentity → Option α)
    {key : String} {Means : Json → α → Prop}
    (hmerge : ∀ d i, view (d.merge i) = (tell i).getD (view d))
    (hread : ∀ p certificate id x, tell (PeerIdentity.told p certificate id) = some x ↔
      ∃ j, Dict.find? p.body key = some j ∧ Means j x)
    (id : String) (es : List Encounter) (d : Details) :
    Latest (Tells id key Means) es (view d) (view (es.foldl (learned id) d)) := by
  refine latest_foldl view (fun d e x htells => ?_) (fun d e hsilent => ?_) es d
  · obtain ⟨p, certificate, link, j, rfl, hintroduces, hj, hmeans⟩ := htells
    have hlearned : learned id d (.greeting p certificate link) =
        d.merge (PeerIdentity.told p certificate id) := by
      simp only [learned, op?, PeerIdentity.ofPacket_of_introduces hintroduces certificate]
      exact if_pos rfl
    rw [hlearned, hmerge, (hread p certificate id x).mpr ⟨j, hj, hmeans⟩, Option.getD_some]
  · cases e with
    | greeting p certificate link =>
        cases hp : PeerIdentity.ofPacket p certificate with
        | error fault => simp only [learned, op?, hp]
        | ok i =>
            obtain ⟨hintroduces, hi⟩ := PeerIdentity.introduces_of_ofPacket hp
            simp only [learned, op?, hp, Scene.learned]
            split
            · next hid =>
                subst hid
                have hnone : tell i = none := by
                  rw [Option.eq_none_iff_forall_ne_some]
                  intro x hx
                  rw [hi] at hx
                  obtain ⟨j, hj, hmeans⟩ := (hread p certificate _ x).mp hx
                  exact hsilent x ⟨p, certificate, link, j, rfl, hintroduces, hj, hmeans⟩
                rw [hmerge, hnone, Option.getD_none]
            · rfl
    | other op h =>
        cases op with
        | attach i link => exact absurd rfl (h i link)
        | _ => rfl

end Encounter

/-! ## What settings remember -/

namespace Scene

variable {site : Site} {s : Scene}

theorem asides_beside (s : Scene) {op : Op} (h : op.Beside) :
    Asides site (fun key => key ≠ Store.nameKey ∧ key ≠ Store.kindKey) (s.lead site op)
      (s.apply site op) := by
  refine s.asides_apply op ?_ ?_
  · rintro key enabled rfl
    exact h
  · rintro p rfl hp
    rw [show p.isType Packet.pairType = true from h] at hp
    cases hp

/-- Settings hold the name and the class of a paired device as long as nobody else writes
them. -/
theorem Named.run_beside (h : s.Named) (hl : s.env.ledger.Reliable) {ops : List Op}
    (hops : ∀ op ∈ ops, op.Beside) : (s.run site ops).Named := by
  induction ops generalizing s with
  | nil => exact h
  | cons op rest ih =>
      obtain ⟨hop, hrest⟩ := List.forall_mem_cons.mp hops
      have hnamed : (s.apply site op).Named :=
        h.apply hl (s.asides_beside hop) (fun hkey => hkey.1 rfl) (fun hkey => hkey.2 rfl)
      exact ih hnamed ((s.rewritten_apply site op).reliable hl) hrest

/-- The scene after encounters. -/
def meet (site : Site) (s : Scene) (es : List Encounter) : Scene :=
  s.run site (es.filterMap Encounter.op?)

theorem meet_id (site : Site) (s : Scene) (es : List Encounter) :
    (s.meet site es).device.id = s.device.id :=
  s.run_id site _

theorem meet_details (site : Site) (s : Scene) (es : List Encounter) :
    (s.meet site es).device.details =
      es.foldl (Encounter.learned s.device.id) s.device.details := by
  rw [meet, run_details, List.foldl_filterMap]
  congr 1
  funext d e
  rw [Encounter.learned]
  cases e.op? <;> rfl

theorem meet_append (site : Site) (s : Scene) (earlier later : List Encounter) :
    s.meet site (earlier ++ later) = (s.meet site earlier).meet site later := by
  rw [meet, List.filterMap_append, run_append]
  rfl

theorem Named.meet (h : s.Named) (hl : s.env.ledger.Reliable) {es : List Encounter}
    (hes : ∀ e ∈ es, e.Beside) : (s.meet site es).Named := by
  refine h.run_beside hl fun op hop => ?_
  obtain ⟨e, he, hop⟩ := List.mem_filterMap.mp hop
  have hbeside := hes e he
  cases e with
  | greeting p certificate link =>
      rw [Encounter.op?] at hop
      split at hop
      · cases hop
        trivial
      · cases hop
  | other op h =>
      cases hop
      exact hbeside

/-- Whatever packets its links bring and whatever else happens, the name of a device, its class,
its version and what it receives and sends are each the latest that a packet of its own told, or
what they were at first. An identity of another device is refused and leaves no trace. Where writes
do not fail and nobody else writes them, settings hold the name and the class of a paired device as
they are, if it was paired since the beginning. -/
theorem known_as_introduced (site : Site) (s : Scene) (es : List Encounter) :
    let id := s.device.id
    let first := s.device.details
    let last := (s.meet site es).device.details
    Latest (Encounter.Tells id "deviceName" Json.MeansText) es first.name last.name ∧
      Latest (Encounter.Tells id "deviceType" Json.MeansKind) es first.kind last.kind ∧
      Latest (Encounter.Tells id "protocolVersion" Json.MeansVersion) es first.version
        last.version ∧
      Latest (Encounter.Tells id "incomingCapabilities" Json.MeansTypes) es first.incoming
        last.incoming ∧
      Latest (Encounter.Tells id "outgoingCapabilities" Json.MeansTypes) es first.outgoing
        last.outgoing ∧
      (∀ p certificate i link, PeerIdentity.ofPacket p certificate = .ok i → i.id ≠ id →
        (s.meet site es).attach site i link =
          (.error (.invalidPacket ("Identity of " ++ i.id ++ " offered to device " ++ id)),
            s.meet site es)) ∧
      (s.env.ledger.Reliable → (∀ e ∈ es, e.Beside) →
        ∀ earlier later, es = earlier ++ later →
        (s.meet site earlier).device.session.state ≠ .paired →
        (s.meet site es).device.session.state = .paired →
        (s.meet site es).env.store.find? id Store.nameKey = some (.str last.name) ∧
          (s.meet site es).env.store.find? id Store.kindKey = some (.str last.kind.word)) := by
  intro id first last
  have hlast : last = es.foldl (Encounter.learned id) first := s.meet_details site es
  refine ⟨?_, ?_, ?_, ?_, ?_, ?_, ?_⟩
  · rw [hlast]
    exact Encounter.latest_field PeerIdentity.name (fun _ _ => rfl)
      (fun p _ _ => PeerIdentity.field?_iff (fun _ _ => PeerIdentity.str?_iff) p _) id es first
  · rw [hlast]
    exact Encounter.latest_field PeerIdentity.kind (fun _ _ => rfl)
      PeerIdentity.kind_iff id es first
  · rw [hlast]
    exact Encounter.latest_field PeerIdentity.version (fun _ _ => rfl)
      PeerIdentity.version_iff id es first
  · rw [hlast]
    exact Encounter.latest_field (fun i => i.incoming.map some)
      (fun d i => by cases i with | mk _ _ _ _ _ incoming _ => cases incoming <;> rfl)
      (fun p _ _ => PeerIdentity.types_iff p _) id es first
  · rw [hlast]
    exact Encounter.latest_field (fun i => i.outgoing.map some)
      (fun d i => by cases i with | mk _ _ _ _ _ _ outgoing => cases outgoing <;> rfl)
      (fun p _ _ => PeerIdentity.types_iff p _) id es first
  · intro p certificate i link _ hne
    have hother : i.id ≠ (s.meet site es).device.id := by rwa [meet_id]
    rw [attach, if_pos hother, meet_id]
  · rintro hl hes earlier later rfl hopen hpaired
    have hnamed : (s.meet site earlier).Named := fun h => absurd h hopen
    have hl' : (s.meet site earlier).env.ledger.Reliable :=
      (s.rewritten_run site _).reliable hl
    have hlater : ∀ e ∈ later, e.Beside := fun e he => hes e (List.mem_append_right _ he)
    have hkept : (s.meet site (earlier ++ later)).Named := by
      rw [meet_append]
      exact hnamed.meet hl' hlater
    have hstored := hkept hpaired
    rw [meet_id] at hstored
    exact hstored

/-- A device that was met first without a word but its version introduces itself and is asked to
pair. It agrees, and then it tells a new name, a class that there is no word for, and a version out
of range. Another device tells a name in between. -/
theorem known_as_introduced_renamed :
    let s : Scene := { device := .ofIdentity 0 { id := "peer", version := some 7 }, env := {} }
    let introduction (fields : Dict Json) : Packet :=
      ⟨0, "kdeconnect.identity", fields, none, none, []⟩
    let asked : List Encounter :=
      [.greeting (introduction [("deviceId", .str "peer"), ("deviceName", .str "Ring"),
          ("deviceType", .str "phone"),
          ("incomingCapabilities", .arr [.str "note", .str "call", .str "note"])]) [1] "lan",
        .other (.pairing .request) nofun]
    let renamed : List Encounter :=
      [.other (.receive (Pairing.packet 1 true)) nofun,
        .greeting (introduction [("deviceId", .str "other"), ("deviceName", .str "Bell")]) [2]
          "lan",
        .other (.detach "lan") nofun,
        .greeting (introduction [("deviceId", .str "peer"), ("deviceName", .str "Gong"),
          ("deviceType", .str "clock"), ("incomingCapabilities", .arr [.str "note", .null]),
          ("protocolVersion", .num (.int (-1)))]) [] "lan"]
    (s.meet {} (asked ++ renamed)).device.details =
        ⟨"Gong", .desktop, 7, [1], some ["call", "note"], none⟩ ∧
      (s.meet {} (asked ++ renamed)).env.store.find? s.device.id Store.nameKey =
        some (.str "Gong") ∧
      (s.meet {} (asked ++ renamed)).env.store.find? s.device.id Store.kindKey =
        some (.str "desktop") := by
  intro s introduction asked renamed
  have hdetails : (s.meet {} (asked ++ renamed)).device.details =
      ⟨"Gong", .desktop, 7, [1], some ["call", "note"], none⟩ := by
    decide +kernel
  have hreliable : s.env.ledger.Reliable := fun _ => rfl
  have hbeside : ∀ e ∈ asked ++ renamed, e.Beside := by
    simp [asked, renamed, introduction, Encounter.Beside, Op.Beside]
    decide
  have hopen : (s.meet {} asked).device.session.state ≠ .paired := by decide +kernel
  have hpaired : (s.meet {} (asked ++ renamed)).device.session.state = .paired := by
    decide +kernel
  obtain ⟨-, -, -, -, -, -, hstored⟩ := known_as_introduced {} s (asked ++ renamed)
  obtain ⟨hname, hkind⟩ := hstored hreliable hbeside asked renamed rfl hopen hpaired
  rw [hdetails] at hname hkind
  exact ⟨hdetails, hname, hkind⟩

end Scene

end Tether
