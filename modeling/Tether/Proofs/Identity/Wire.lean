import Tether.Identity.Local
import Tether.Identity.Peer
import Tether.Proofs.Json.Layout
import Tether.Proofs.Packet.Fields
import Tether.Proofs.Packet.RoundTrip

/-!
# An identity told and heard

What this side says about itself goes two ways. On a link it is a packet, which the peer reads
field by field and without trust: a field may be missing, and a class it has no word for is a
desktop. In a file it is a record, and nothing of it may be missing.

Both ways lead back. The words for the classes are the same on both, though they are read by
different readers, and the lists come back as they were in the record, and as the sets of their
names at the peer.
-/

namespace Tether

theorem Packet.fields_make (id : Int) (type : String) (d : Dict Json) :
    (make id type (.obj d)).fields =
      [("id", .num (.int id)), ("type", .str type), ("body", .obj d)] :=
  rfl

namespace LocalIdentity

variable (me : LocalIdentity)

/-! ## The packet -/

/-- What the packet tells, in the order in which it is put together. -/
def telling : List (String × Json) :=
  [("deviceId", .str me.id), ("deviceName", .str me.name),
    ("protocolVersion", .num (.int protocolVersion)), ("deviceType", .str me.kind.word),
    ("incomingCapabilities", names me.incoming), ("outgoingCapabilities", names me.outgoing)]

theorem toPacket_eq (id : Int) :
    me.toPacket id =
      Packet.make id Packet.identityType (.obj (Dict.ofEntries me.telling)) :=
  rfl

theorem body_toPacket (id : Int) : (me.toPacket id).body = Dict.ofEntries me.telling := by
  rw [toPacket_eq, Packet.make, Json.obj?, Option.getD_some]

theorem proper_names (ss : List String) : (names ss).Proper := by
  refine .arr ?_
  simp only [List.forall_mem_map]
  exact fun s _ => .str s

theorem depth_names (ss : List String) : (names ss).depth ≤ 1 := by
  refine Json.depth_arr_le.mpr ?_
  simp only [List.forall_mem_map]
  exact fun s _ => Nat.zero_le _

theorem floatless_names (ss : List String) : (names ss).floatless = true := by
  refine Json.floatless_arr.mpr ?_
  simp only [List.forall_mem_map]
  exact fun s _ => rfl

/-- What is told are strings, lists of strings and a number. -/
theorem telling_plain {e : String × Json} (he : e ∈ me.telling) :
    e.2.Proper ∧ e.2.depth ≤ 1 ∧ e.2.floatless = true := by
  simp only [telling, List.mem_cons, List.not_mem_nil, or_false] at he
  rcases he with rfl | rfl | rfl | rfl | rfl | rfl
  · exact ⟨.str me.id, Nat.zero_le _, rfl⟩
  · exact ⟨.str me.name, Nat.zero_le _, rfl⟩
  · exact ⟨.int (by decide), Nat.zero_le _, rfl⟩
  · exact ⟨.str me.kind.word, Nat.zero_le _, rfl⟩
  · exact ⟨proper_names _, depth_names _, floatless_names _⟩
  · exact ⟨proper_names _, depth_names _, floatless_names _⟩

theorem sendable_toPacket {id : Int} (h : Packet.inWord id = true) :
    (me.toPacket id).Sendable := by
  have hbody : ∀ e ∈ Dict.ofEntries me.telling,
      e.2.Proper ∧ e.2.depth ≤ 1 ∧ e.2.floatless = true := fun e he =>
    me.telling_plain (Dict.mem_of_mem_ofEntries he)
  have hproper : (Json.obj (Dict.ofEntries me.telling)).Proper :=
    .obj (Dict.ascending_ofEntries _) fun e he => (hbody e he).1
  rw [toPacket_eq]
  refine ⟨.make _ h hproper, ?_, ?_⟩
  · rw [Packet.fields_make, Json.floatless_obj]
    simp only [List.forall_mem_cons]
    exact ⟨rfl, rfl, Json.floatless_obj.mpr fun e he => (hbody e he).2.2, nofun⟩
  · rw [Packet.fields_make, Json.depth_obj_le]
    simp only [List.forall_mem_cons]
    refine ⟨Nat.zero_le _, Nat.zero_le _, ?_, nofun⟩
    exact Json.depth_obj_le.mpr fun e he => (hbody e he).2.1.trans (by decide)

/-- What the packet tells is what is found in its body. -/
theorem find?_body (id : Int) :
    Dict.find? (me.toPacket id).body "deviceId" = some (.str me.id) ∧
      Dict.find? (me.toPacket id).body "deviceName" = some (.str me.name) ∧
      Dict.find? (me.toPacket id).body "protocolVersion" = some (.num (.int 8)) ∧
      Dict.find? (me.toPacket id).body "deviceType" = some (.str me.kind.word) ∧
      Dict.find? (me.toPacket id).body "incomingCapabilities" = some (names me.incoming) ∧
      Dict.find? (me.toPacket id).body "outgoingCapabilities" = some (names me.outgoing) := by
  rw [body_toPacket]
  simp [telling, Dict.ofEntries, Dict.find?_put_of_ne, protocolVersion]

theorem isType_toPacket (id : Int) : (me.toPacket id).isType Packet.identityType = true := by
  simp [toPacket, Packet.make, Packet.isType, Packet.sameType]

/-- A peer that receives the packet knows all there is to tell. -/
theorem ofPacket_toPacket (h : me.id ≠ "") (id : Int) (certificate : List UInt8) :
    PeerIdentity.ofPacket (me.toPacket id) certificate =
      .ok
        { id := me.id
          name := some me.name
          kind := some me.kind
          version := some 8
          certificate
          incoming := some (Roll.ofList me.incoming)
          outgoing := some (Roll.ofList me.outgoing) } := by
  obtain ⟨hid, hname, hversion, hkind, hincoming, houtgoing⟩ := me.find?_body id
  have hgiven : (some me.id).filter (fun id => !decide (id = "")) = some me.id := by
    simp [Option.filter, h]
  have height : (Json.num (.int 8)).intWithin? 0 4294967295 = some 8 := by decide
  rw [PeerIdentity.ofPacket, if_pos (me.isType_toPacket id)]
  simp [Packet.field?, Packet.getStringSet?, Packet.getStringList?, hid, hname, hversion, hkind,
    hincoming, houtgoing, names, Packet.texts?_strs, Packet.Strict.string, Packet.Strict.nat32,
    Json.str?, DeviceKind.ofWord_word, hgiven, height]

/-! ## The record -/

/-- What is kept, in the order in which it is written. -/
def keeping : Dict Json :=
  [("deviceId", .str me.id), ("deviceName", .str me.name), ("deviceType", .str me.kind.word),
    ("incomingCapabilities", names me.incoming), ("outgoingCapabilities", names me.outgoing)]

theorem ofEntries_keeping : Dict.ofEntries me.keeping = me.keeping := by
  have horder : ["deviceId", "deviceName", "deviceType", "incomingCapabilities",
      "outgoingCapabilities"].Pairwise (· < ·) := by decide
  exact Dict.ofEntries_eq_self horder

theorem toJson_eq : me.toJson = .obj me.keeping :=
  congrArg Json.obj me.ofEntries_keeping

theorem settled_keeping : me.keeping.map Json.settledField = me.keeping := by
  refine Json.map_settledField ?_
  simp only [keeping, List.forall_mem_cons]
  exact ⟨rfl, rfl, rfl, Json.settled_strs _, Json.settled_strs _, nofun⟩

theorem ofFields?_keeping : ofFields? me.keeping = some me := by
  have hkind : DeviceKind.ofJson? (.str me.kind.word) = some me.kind :=
    DeviceKind.ofWord?_word me.kind
  simp [ofFields?, keeping, Dict.find?, Json.str?, hkind, names, Json.strings?_strs]

/-- A string is no object, and then a strict reader is like any other. -/
theorem reads_strict (s : String) :
    Json.Reads Json.strictValue? (.str s) (Json.compact (.str s)) := by
  intro blank rest hb hrest
  have hnone : Json.members? (Json.value? (Json.maxDepth - 2))
      (blank ++ (Json.compact (.str s) ++ rest)) = none := by
    rw [Json.members?, Json.skipBlank_append hb, Json.compact, Json.quote, List.cons_append,
      List.cons_append, Json.skipBlank_token rfl]
    rfl
  rw [Json.strictValue?, hnone]
  exact Json.reads_str _ s blank rest hb hrest

/-- Every value that is kept is read back by the reader of its field, whichever way it is
spelled. -/
theorem reads_keeping {spelled : Json → List Char}
    (hstr : ∀ s, spelled (.str s) = Json.compact (.str s))
    (hnames : ∀ ss, Json.Reads Json.fieldValue? (names ss) (spelled (names ss))) :
    ∀ e ∈ me.keeping, ∃ read, recordFields.lookup e.1 = some read ∧
      Json.Reads read e.2.settled (spelled e.2) := by
  have htext : ∀ s, Json.Reads Json.fieldValue? (.str s) (spelled (.str s)) := fun s =>
    hstr s ▸ Json.reads_str _ s
  have hkind : Json.Reads Json.strictValue? (.str me.kind.word) (spelled (.str me.kind.word)) :=
    hstr me.kind.word ▸ reads_strict me.kind.word
  have hsettled : ∀ ss, (names ss).settled = names ss := Json.settled_strs
  simp only [keeping, List.forall_mem_cons, hsettled]
  exact ⟨⟨_, rfl, htext me.id⟩, ⟨_, rfl, htext me.name⟩, ⟨_, rfl, hkind⟩,
    ⟨_, rfl, hnames me.incoming⟩, ⟨_, rfl, hnames me.outgoing⟩, nofun⟩

theorem plain_names (ss : List String) : (names ss).Plain :=
  (proper_names ss).plain (floatless_names ss)

theorem keys_keeping : (me.keeping.map Prod.fst).Nodup := by
  simp [keeping]

theorem parse?_text : parse? me.toJson.text = some me := by
  have hnames : ∀ ss, Json.Reads Json.fieldValue? (names ss) (Json.compact (names ss)) := by
    intro ss
    have hread := Json.reads_compact (d := Json.maxDepth - 1) (plain_names ss)
      ((depth_names ss).trans (by decide))
    rwa [(proper_names ss).normal_eq] at hread
  rw [parse?, toJson_eq, Json.parseRecord?_compact me.keys_keeping
    (me.reads_keeping (fun _ => rfl) hnames), settled_keeping, ofEntries_keeping]
  exact me.ofFields?_keeping

theorem parse?_prettyText : parse? me.toJson.prettyText = some me := by
  have hnames : ∀ ss, Json.Reads Json.fieldValue? (names ss) (Json.pretty 1 (names ss)) := by
    intro ss
    have hread : Json.Reads Json.fieldValue? (names ss).settled (Json.pretty 1 (names ss)) :=
      Json.reads_pretty (plain_names ss).legible ((depth_names ss).trans (by decide))
    rwa [show (names ss).settled = names ss from Json.settled_strs ss] at hread
  have hstr : ∀ s, Json.pretty 1 (.str s) = Json.compact (.str s) := fun s => by
    rw [Json.pretty, Json.compact]
  rw [parse?, toJson_eq, Json.parseRecord?_pretty me.keys_keeping (me.reads_keeping hstr hnames),
    settled_keeping, ofEntries_keeping]
  exact me.ofFields?_keeping

/-! ## Both ways -/

/-- What a peer reads from the line of the packet, as text or as bytes, is all that this side
is, with the lists as sets. What is read from the text of the record, laid out or not, is this
side's identity with its lists as they are. -/
theorem survives (h : me.id ≠ "") {id : Int} (hid : Packet.inWord id = true)
    (certificate : List UInt8) :
    (∃ p, Packet.parse (me.toPacket id).serialize = .ok p ∧
      Packet.ofBytes (Text.Utf8.encode (me.toPacket id).serialize) = .ok p ∧
      PeerIdentity.ofPacket p certificate =
        .ok
          { id := me.id
            name := some me.name
            kind := some me.kind
            version := some 8
            certificate
            incoming := some (Roll.ofList me.incoming)
            outgoing := some (Roll.ofList me.outgoing) }) ∧
      parse? me.toJson.text = some me ∧ parse? me.toJson.prettyText = some me := by
  obtain ⟨line, hline, -, hparse⟩ := Packet.parse_sent (me.sendable_toPacket hid) .same
  obtain ⟨htext, hbytes⟩ := hparse _ List.mem_cons_self
  rw [hline]
  exact ⟨⟨me.toPacket id, htext, hbytes, me.ofPacket_toPacket h id certificate⟩,
    me.parse?_text, me.parse?_prettyText⟩

/-- A television without a name, with quotes and a line end in its id, that names a type twice.
The peer has it once, and the record twice. -/
theorem survives_named_twice :
    let me : LocalIdentity :=
      { id := "the \"one\"\n", name := "", kind := .tv, incoming := ["ring", "note", "ring"] }
    (∃ p, Packet.parse (me.toPacket 7).serialize = .ok p ∧
      PeerIdentity.ofPacket p [7] =
        .ok
          { id := "the \"one\"\n", name := some "", kind := some .tv, version := some 8,
            certificate := [7], incoming := some ["note", "ring"], outgoing := some [] }) ∧
      parse? me.toJson.text = some me := by
  intro me
  have hid : me.id ≠ "" := by decide
  have hword : Packet.inWord 7 = true := by decide
  obtain ⟨⟨p, hp, -, hpeer⟩, htext, -⟩ := survives me hid hword [7]
  have hroll : Roll.ofList me.incoming = ["note", "ring"] := by decide
  rw [hroll] at hpeer
  exact ⟨⟨p, hp, hpeer⟩, htext⟩

end LocalIdentity

end Tether
