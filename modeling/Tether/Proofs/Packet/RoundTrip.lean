import Tether.Proofs.Packet.Entering
import Tether.Proofs.Text.Utf8

/-!
# Packets on the wire and back

The line that a packet is written as is the compact text of its fields, and reading that
text comes to entering the fields one after the other. They are all different, each holds
what it asks for, and the fields without a meaning bear none of the names that have one. So
what they make up is the packet again (`enterAll_fields`).

The entries of the transfer info have no order in memory. They may be written in any
(`Shuffled`), and are read back in the one that a dictionary has.

A line has one line end, and it is the last character. Since that character's byte stands
for nothing else, any number of lines can follow one another, and whoever cuts the bytes
behind every line end has the lines again (`cutLines_append`).
-/

namespace Tether.Packet

open Json (Plain compact)

/-- The packet, or the packet with the entries of its transfer info in another order. -/
inductive Shuffled (p : Packet) : Packet → Prop where
  | same : Shuffled p p
  | info {d info : Dict Json} (h : p.payloadTransferInfo = some d) (hperm : info.Perm d) :
      Shuffled p { p with payloadTransferInfo := some info }

/-- Bytes cut behind every byte that ends a line. What is left at the end is a piece of its
own. -/
def cutLines : List UInt8 → List (List UInt8)
  | [] => []
  | b :: rest =>
      if b = 10 then [b] :: cutLines rest
      else
        match cutLines rest with
        | [] => [[b]]
        | piece :: pieces => (b :: piece) :: pieces

/-- A packet that can be sent and read. -/
structure Sendable (p : Packet) : Prop where
  built : Built p
  floatless : (Json.obj p.fields).floatless = true
  depth : (Json.obj p.fields).depth ≤ 127

/-! ## The fields -/

/-- The draft that has everything a packet has. -/
def draft (p : Packet) : Draft :=
  ⟨some p.id, some p.type, some p.body, p.payloadSize.map some, p.payloadTransferInfo.map some,
    p.extra⟩

theorem finish_draft (p : Packet) : p.draft.finish = .ok p := by
  obtain ⟨id, type, body, size, info, extra⟩ := p
  cases size <;> cases info <;> rfl

theorem enterAll_append (d : Draft) (es fs : List (String × Json)) :
    d.enterAll (es ++ fs) = (d.enterAll es).bind fun d => d.enterAll fs :=
  List.foldlM_append

/-- Fields without a meaning are gathered. -/
theorem enterAll_extra (d : Draft) {es : List (String × Json)} (h : ∀ e ∈ es, e.1 ∉ known) :
    d.enterAll es =
      .ok { d with extra := es.foldl (fun extra e => Dict.put e.1 e.2 extra) d.extra } := by
  induction es generalizing d with
  | nil => rfl
  | cons e es ih =>
      obtain ⟨he, hes⟩ := List.forall_mem_cons.mp h
      simp only [known, List.mem_cons, List.not_mem_nil, or_false, not_or] at he
      have henter : d.enter e = .ok { d with extra := Dict.put e.1 e.2 d.extra } := by
        simp [Draft.enter, he]
      rw [Draft.enterAll, List.foldlM_cons, henter]
      exact ih { d with extra := Dict.put e.1 e.2 d.extra } hes

/-- The fields that have a meaning make up all but the rest. -/
theorem enterAll_known {p : Packet} (h : p.Formed) (hextra : p.extra = []) :
    Draft.enterAll {} p.fields = .ok p.draft := by
  obtain ⟨id, type, body, size, info, extra⟩ := p
  obtain rfl : extra = [] := hextra
  have hid : idOf (.num (.int id)) = .ok id := if_pos h.id
  have hsize : ∀ n, size = some n → asSize (.num (.int n)) = .ok n := fun n hn =>
    if_pos (h.size n hn)
  cases size with
  | none =>
      cases info <;>
        simp [Draft.enterAll, Draft.enter, fields, draft, hid, asType, asMap, asOptional, bind,
          Except.bind, Except.map, pure, Except.pure]
  | some n =>
      cases info <;>
        simp [Draft.enterAll, Draft.enter, fields, draft, hid, hsize n rfl, asType, asMap,
          asOptional, bind, Except.bind, Except.map, pure, Except.pure]

/-- The fields of a packet make it up. -/
theorem enterAll_fields {p : Packet} (h : p.Formed) :
    Draft.enterAll {} p.fields = .ok p.draft := by
  have hformed : Formed { p with extra := [] } := { h with extra := proper_nil, unknown := nofun }
  have hfields : p.fields = fields { p with extra := [] } ++ p.extra := by
    simp [fields]
  have hextra : Dict.ofEntries p.extra = p.extra := by
    cases h.extra with
    | obj horder _ => exact Dict.ofEntries_eq_self horder
  rw [hfields, enterAll_append, enterAll_known hformed rfl]
  simp only [Except.bind, enterAll_extra _ h.unknown]
  show Except.ok { p.draft with extra := Dict.ofEntries p.extra } = Except.ok p.draft
  rw [hextra]
  rfl

/-- The members of an object may be written in any order. -/
theorem normal_of_perm {d info : Dict Json} (h : (Json.obj d).Proper) (hperm : info.Perm d) :
    (Json.obj info).normal = .obj d := by
  cases h with
  | obj horder hvalues =>
      have hnormal : ∀ e ∈ info, e.2.normal = e.2 := fun e he =>
        (hvalues e (hperm.mem_iff.mp he)).normal_eq
      rw [Json.normal_obj, Json.map_normalField hnormal,
        horder.ofEntries_perm hperm]

/-- The values of the fields are proper. -/
theorem Formed.proper {p : Packet} (h : p.Formed) : ∀ e ∈ p.fields, e.2.Proper := by
  have hint : ∀ n, inWord n = true → (Json.num (.int n)).Proper := fun n hn => by
    simp only [inWord, Bool.and_eq_true, decide_eq_true_eq] at hn
    exact .int ⟨hn.1, by omega⟩
  intro e he
  simp only [Packet.fields, List.mem_append, List.mem_cons, List.not_mem_nil, or_false,
    Option.mem_toList, Option.map_eq_some_iff] at he
  rcases he with (((rfl | rfl | rfl) | ⟨n, hn, rfl⟩) | ⟨d, hd, rfl⟩) | hextra
  · exact hint p.id h.id
  · exact .str p.type
  · exact h.body
  · exact hint n (h.size n hn)
  · exact h.info d hd
  · cases h.extra with
    | obj _ hvalues => exact hvalues e hextra

/-- The fields before the transfer info. -/
def leading (p : Packet) : List (String × Json) :=
  [("id", .num (.int p.id)), ("type", .str p.type), ("body", .obj p.body)]
    ++ (p.payloadSize.map fun n => ("payloadSize", Json.num (.int n))).toList

theorem fields_eq {p : Packet} {d : Dict Json} (h : p.payloadTransferInfo = some d) :
    p.fields = p.leading ++ ("payloadTransferInfo", .obj d) :: p.extra := by
  simp [fields, leading, h]

/-- In order, the fields are those of the packet, whatever order its transfer info has. -/
theorem Shuffled.normal_fields {p q : Packet} (h : p.Formed) (hq : p.Shuffled q) :
    q.fields.map Json.normalField = p.fields := by
  have hown : ∀ e ∈ p.fields, e.2.normal = e.2 := fun e he => (h.proper e he).normal_eq
  cases hq with
  | same => exact Json.map_normalField hown
  | @info d info hd hperm =>
      rw [fields_eq hd] at hown ⊢
      obtain ⟨hleading, hrest⟩ := List.forall_mem_append.mp hown
      obtain ⟨-, hextra⟩ := List.forall_mem_cons.mp hrest
      have hfields : fields { p with payloadTransferInfo := some info } =
          p.leading ++ ("payloadTransferInfo", .obj info) :: p.extra := fields_eq rfl
      rw [hfields, List.map_append, List.map_cons, Json.map_normalField hleading,
        Json.map_normalField hextra, Json.normalField, normal_of_perm (h.info d hd) hperm]

/-- What is written for a field is what the packet has there, in some order. -/
theorem Shuffled.mem_fields {p q : Packet} (hq : p.Shuffled q) {e : String × Json}
    (he : e ∈ q.fields) :
    e ∈ p.fields ∨ ∃ d info, info.Perm d ∧ e.2 = .obj info ∧ (e.1, Json.obj d) ∈ p.fields := by
  cases hq with
  | same => exact .inl he
  | @info d info hd hperm =>
      have hfields : fields { p with payloadTransferInfo := some info } =
          p.leading ++ ("payloadTransferInfo", .obj info) :: p.extra := fields_eq rfl
      rw [hfields, List.mem_append, List.mem_cons] at he
      rw [fields_eq hd]
      rcases he with hleading | rfl | hextra
      · exact .inl (List.mem_append_left _ hleading)
      · exact .inr ⟨d, info, hperm, rfl, List.mem_append_right _ List.mem_cons_self⟩
      · exact .inl (List.mem_append_right _ (List.mem_cons_of_mem _ hextra))

/-- Every value that is written is plain and nests no deeper than a field may. -/
theorem Shuffled.writable {p q : Packet} (hp : Sendable p) (hq : p.Shuffled q) :
    ∀ e ∈ q.fields, e.2.Plain ∧ e.2.depth ≤ fieldDepth := by
  have hown : ∀ e ∈ p.fields, e.2.Plain ∧ e.2.depth ≤ fieldDepth := fun e he =>
    ⟨(hp.built.formed.proper e he).plain (Json.floatless_obj.mp hp.floatless e he),
      Json.depth_obj_le.mp hp.depth e he⟩
  intro e he
  rcases hq.mem_fields he with hmem | ⟨d, info, hperm, hvalue, hmem⟩
  · exact hown e hmem
  · obtain ⟨hplain, hdepth⟩ := hown _ hmem
    rw [hvalue]
    cases hplain with
    | obj hvalues =>
        refine ⟨.obj fun e he => hvalues e (hperm.mem_iff.mp he), ?_⟩
        exact Json.depth_obj_le.mpr fun e he =>
          Json.depth_obj_le.mp hdepth e (hperm.mem_iff.mp he)

/-! ## Lines -/

theorem wireChars_eq (p : Packet) : p.wireChars = compact (.obj p.fields) ++ ['\n'] := by
  simp [wireChars, compact]

/-- The text of a sent packet is read as the packet. -/
theorem decode_sent {p q : Packet} (hp : Sendable p) (hq : p.Shuffled q) :
    decode (compact (.obj q.fields)) = .ok p := by
  have hwritable := hq.writable hp
  have hdecode := decode_compact (fun e he => (hwritable e he).1) (fun e he => (hwritable e he).2)
    Json.blank_nil
  rw [List.append_nil, hq.normal_fields hp.built.formed, enterAll_fields hp.built.formed] at hdecode
  rw [hdecode]
  exact finish_draft p

theorem newline_not_mem_sent {p q : Packet} (hp : Sendable p) (hq : p.Shuffled q) :
    '\n' ∉ compact (.obj q.fields) := by
  intro hmem
  have hplain : (Json.obj q.fields).Plain := .obj fun e he => (hq.writable hp e he).1
  exact absurd (Json.space_le_of_mem_compact hplain hmem) (by decide)

theorem stripEnd_newline (body : List Char) : stripEnd (body ++ ['}'] ++ ['\n']) = body ++ ['}'] := by
  simp [stripEnd]

theorem stripEnd_return_newline (cs : List Char) : stripEnd (cs ++ ['\r', '\n']) = cs := by
  simp [stripEnd]

theorem stripEnd_bare (body : List Char) : stripEnd (body ++ ['}']) = body ++ ['}'] := by
  simp [stripEnd]

/-- A text is read as a packet whether it comes as text or as bytes. -/
theorem ofBytes_encode (s : String) : ofBytes (Text.Utf8.encode s) = parse s := by
  rw [ofBytes, ofBytesFlaw, Text.Utf8.decode_encode]
  rfl

/-- The line of a sent packet is read as the packet, whatever its end. -/
theorem parse_sent {p q : Packet} (hp : Sendable p) (hq : p.Shuffled q) :
    ∃ line : String, q.serialize = line ++ "\n" ∧ '\n' ∉ line.toList ∧
      ∀ text ∈ [line ++ "\n", line ++ "\r\n", line],
        parse text = .ok p ∧ ofBytes (Text.Utf8.encode text) = .ok p := by
  obtain ⟨body, hbody⟩ : ∃ body, compact (.obj q.fields) = body ++ ['}'] :=
    ⟨'{' :: Json.compactFields q.fields, by simp [compact]⟩
  have hnewline := newline_not_mem_sent hp hq
  have hread : ∀ text, stripEnd text = compact (.obj q.fields) →
      parse (String.ofList text) = .ok p := by
    intro text hstrip
    rw [parse, parseFlaw, String.toList_ofList, hstrip, decode_sent hp hq]
    rfl
  refine ⟨String.ofList (compact (.obj q.fields)), ?_, by rwa [String.toList_ofList], ?_⟩
  · rw [serialize, wireChars_eq, String.ofList_append]
  · intro text htext
    rw [ofBytes_encode, and_self]
    simp only [List.mem_cons, List.not_mem_nil, or_false] at htext
    rw [hbody] at htext hread
    rcases htext with rfl | rfl | rfl
    · exact String.ofList_append ▸ hread _ (stripEnd_newline body)
    · exact String.ofList_append ▸ hread _ (stripEnd_return_newline _)
    · exact hread _ (stripEnd_bare body)

/-! ## Framing -/

theorem cutLines_append {line : List UInt8} (h : 10 ∉ line) (rest : List UInt8) :
    cutLines (line ++ 10 :: rest) = (line ++ [10]) :: cutLines rest := by
  induction line with
  | nil => rfl
  | cons b line ih =>
      have hb : b ≠ 10 := fun heq => h (heq ▸ List.mem_cons_self)
      have hline : 10 ∉ line := fun hmem => h (List.mem_cons_of_mem b hmem)
      rw [List.cons_append, cutLines, if_neg hb, ih hline, List.cons_append]

/-- The byte of a line end is in no text that has none. -/
theorem byte_not_mem_encode {s : String} (h : '\n' ∉ s.toList) : 10 ∉ Text.Utf8.encode s := by
  rw [Text.Utf8.encode_eq, List.mem_flatMap]
  rintro ⟨c, hc, hmem⟩
  have hcode : c.toNat = 10 := Text.Utf8.toNat_of_mem_encodeChar hmem (by decide)
  have hnewline : c = '\n' := by
    rw [← Char.ofNat_toNat c, hcode]
  exact h (hnewline ▸ hc)

theorem encode_line (line : String) :
    Text.Utf8.encode (line ++ "\n") = Text.Utf8.encode line ++ [10] := by
  simp [Text.Utf8.encode_eq, Text.Utf8.encodeChar_eq]

/-- Lines that follow one another are cut apart and read as the packets that were sent. -/
theorem cutLines_sent {sent : List (Packet × Packet)}
    (h : ∀ e ∈ sent, Sendable e.1 ∧ e.1.Shuffled e.2) :
    (cutLines (sent.flatMap fun e => Text.Utf8.encode e.2.serialize)).map ofBytes =
      sent.map fun e => .ok e.1 := by
  induction sent with
  | nil => rfl
  | cons e sent ih =>
      obtain ⟨he, hsent⟩ := List.forall_mem_cons.mp h
      obtain ⟨line, hline, hnewline, hread⟩ := parse_sent he.1 he.2
      have hfirst : ofBytes (Text.Utf8.encode line ++ [10]) = .ok e.1 := by
        rw [← encode_line]
        exact (hread _ List.mem_cons_self).2
      rw [List.flatMap_cons, hline, encode_line, List.append_assoc, List.singleton_append,
        cutLines_append (byte_not_mem_encode hnewline), List.map_cons, hfirst, ih hsent,
        List.map_cons]

/-- A packet that was sent is read as that packet, with any end of line or none. Lines have
no other end than their last character, and so they can follow one another: cut behind every
byte that ends one, they are read as the packets that were sent, in their order. -/
theorem round_trip {sent : List (Packet × Packet)}
    (h : ∀ e ∈ sent, Sendable e.1 ∧ e.1.Shuffled e.2) :
    (∀ e ∈ sent, ∃ line : String, e.2.serialize = line ++ "\n" ∧ '\n' ∉ line.toList ∧
      ∀ text ∈ [line ++ "\n", line ++ "\r\n", line],
        parse text = .ok e.1 ∧ ofBytes (Text.Utf8.encode text) = .ok e.1) ∧
      (cutLines (sent.flatMap fun e => Text.Utf8.encode e.2.serialize)).map ofBytes =
        sent.map fun e => .ok e.1 := by
  refine ⟨fun e he => ?_, cutLines_sent h⟩
  obtain ⟨hp, hq⟩ := h e he
  exact parse_sent hp hq

/-- A file on offer, with the host and the port to fetch it from, once in this order and once in
the other. -/
theorem round_trip_offer :
    let offer : Packet :=
      ((make 7 "kdeconnect.share.request" (.obj [("filename", .str "a\n\"b\"")])).withPayloadSize
        3).withTransferInfo [("host", .null), ("port", .num (.int 1739))]
    let swapped : Packet :=
      { offer with payloadTransferInfo := some [("port", .num (.int 1739)), ("host", .null)] }
    (∀ e ∈ [(offer, offer), (offer, swapped)], Sendable e.1 ∧ e.1.Shuffled e.2) ∧
    (cutLines ([(offer, offer), (offer, swapped)].flatMap
      fun e => Text.Utf8.encode e.2.serialize)).map ofBytes = [.ok offer, .ok offer] := by
  intro offer swapped
  have hbody : (Json.obj [("filename", .str "a\n\"b\"")]).Proper :=
    .obj (List.pairwise_singleton _ _) (List.forall_mem_singleton.mpr (.str _))
  have hinfo : (Json.obj [("host", .null), ("port", .num (.int 1739))]).Proper := by
    refine .obj (List.pairwise_pair.mpr (by decide)) (List.forall_mem_cons.mpr ⟨.null, ?_⟩)
    exact List.forall_mem_singleton.mpr (.int (by decide))
  have hoffer : Sendable offer := by
    refine ⟨.withTransferInfo (.withPayloadSize (.make _ (by decide) hbody) (by decide)) hinfo,
      ?_, ?_⟩
    · decide
    · decide
  have hsent : ∀ e ∈ [(offer, offer), (offer, swapped)],
      Sendable e.1 ∧ e.1.Shuffled e.2 := by
    refine List.forall_mem_cons.mpr ⟨⟨hoffer, .same⟩, List.forall_mem_singleton.mpr ⟨hoffer, ?_⟩⟩
    exact .info rfl (List.Perm.swap _ _ _)
  exact ⟨hsent, (round_trip hsent).2⟩

end Tether.Packet
