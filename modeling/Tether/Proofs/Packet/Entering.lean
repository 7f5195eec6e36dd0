import Tether.Packet.Wire
import Tether.Proofs.Packet.Built

/-!
# Reading a packet member by member

The decoder never has a packet as a value: it reads the text of each member with the reader
of that field and goes on. On a text in compact form this comes to the same as having all
the members first and entering them into a draft one after the other, in the order of the
text (`decode_compact`). `Draft.enter` is that step, on values. Every flaw is the same too,
whichever of the members has it.

What the fields ask of their values is said by `asType`, `asMap`, `asSize` and `asOptional`,
and the decoder's takers do what these say (`takes_type` and the others).
-/

namespace Tether.Packet

open Json (Plain Stops normal compact compactField compactFields)

/-! ## Members as values -/

/-- The flaw of a value where a field expects another. -/
def clash (expected : String) : Json → Flaw
  | .null => .wrongType .null expected
  | .bool b => .wrongType (.bool b) expected
  | .num (.int n) => .wrongType (.integer n) expected
  | .num (.float bits) => .wrongType (.float bits) expected
  | .str s => .wrongType (.string s) expected
  | .arr _ => .wrongType .sequence expected
  | .obj _ => .wrongType .map expected

/-- A value as a type. -/
def asType : Json → Except Flaw String
  | .str s => .ok s
  | j => .error (clash "a string" j)

/-- A value as a body. -/
def asMap : Json → Except Flaw (Dict Json)
  | .obj fields => .ok fields
  | j => .error (clash "a map" j)

/-- A value as the size of a payload. -/
def asSize : Json → Except Flaw Int
  | .num (.int n) => if inWord n then .ok n else .error (.tooLarge n)
  | j => .error (clash "i64" j)

/-- A value that may be null. -/
def asOptional {α : Type} (read : Json → Except Flaw α) : Json → Except Flaw (Option α)
  | .null => .ok none
  | j => (read j).map some

/-- The draft with another member in it. -/
def Draft.enter (draft : Draft) : String × Json → Except Flaw Draft
  | (key, v) =>
      if key = "id" then
        if draft.id.isSome then .error (.duplicate key)
        else (idOf v).map fun n => { draft with id := some n }
      else if key = "type" then
        if draft.type.isSome then .error (.duplicate key)
        else (asType v).map fun s => { draft with type := some s }
      else if key = "body" then
        if draft.body.isSome then .error (.duplicate key)
        else (asMap v).map fun d => { draft with body := some d }
      else if key = "payloadSize" then
        if draft.payloadSize.isSome then .error (.duplicate key)
        else (asOptional asSize v).map fun n => { draft with payloadSize := some n }
      else if key = "payloadTransferInfo" then
        if draft.payloadTransferInfo.isSome then .error (.duplicate key)
        else (asOptional asMap v).map fun d => { draft with payloadTransferInfo := some d }
      else .ok { draft with extra := Dict.put key v draft.extra }

/-! ## The values of fields -/

/-- A taker finds in a text what a function of its value says. -/
def Takes {α : Type} (taker : Taker α) (read : Json → Except Flaw α) : Prop :=
  ∀ (v : Json) (rest : List Char), v.Plain → v.depth ≤ fieldDepth → Stops rest →
    taker (compact v ++ rest) = (read v.normal).map fun x => (x, rest)

theorem grammar_reads {α : Type} {reader : Json.Reader α} {x : α} {cs rest : List Char}
    (h : Json.Reads reader x cs) (hrest : Stops rest) :
    grammar reader (cs ++ rest) = .ok (x, rest) := by
  have hread := h [] rest Json.blank_nil hrest
  rw [List.nil_append] at hread
  rw [grammar, hread]

theorem takes_id : Takes takeId idOf := by
  intro v rest hv hdepth hrest
  rw [takeId, grammar_reads (Json.reads_compact hv hdepth) hrest]
  simp only [bind, Except.bind]
  cases idOf v.normal <;> rfl

/-- A value that nests nothing is read wherever a value may stand. -/
theorem value?_scalar {v : Json} (hv : v.Plain) (hdepth : v.depth = 0) {rest : List Char}
    (hrest : Stops rest) : Json.value? 0 (compact v ++ rest) = some (v.normal, rest) :=
  Json.reads_compact hv (Nat.le_of_eq hdepth) [] rest Json.blank_nil hrest

/-- A scalar does not begin like a container. -/
theorem compact_scalar {v : Json} (hv : v.Plain) (hdepth : v.depth = 0) :
    ∃ c cs, compact v = c :: cs ∧ c ≠ '[' ∧ c ≠ '{' := by
  obtain ⟨c, cs, hcs, -, -, -, -, -, hsquare, hcurly⟩ := Json.compact_cons hv
  refine ⟨c, cs, hcs, fun hc => ?_, fun hc => ?_⟩
  · obtain ⟨items, rfl⟩ := hsquare.mp hc
    exact absurd hdepth (Json.depth_arr_pos items).ne'
  · obtain ⟨fields, rfl⟩ := hcurly.mp hc
    exact absurd hdepth (Json.depth_obj_pos fields).ne'

/-- A value of the wrong kind is described from its text: a container by its bracket, and a
scalar by what is read. -/
theorem mismatch_compact {v : Json} (hv : v.Plain) (expected : String) {rest : List Char}
    (hrest : Stops rest) : mismatch expected (compact v ++ rest) = clash expected v.normal := by
  by_cases hdepth : v.depth = 0
  · obtain ⟨c, cs, hcs, hsquare, hcurly⟩ := compact_scalar hv hdepth
    have hread := value?_scalar hv hdepth hrest
    rw [hcs, List.cons_append] at hread ⊢
    rw [mismatch.eq_def]
    split
    · next heq => exact absurd (List.cons.inj heq).1 hsquare
    · next heq => exact absurd (List.cons.inj heq).1 hcurly
    · rw [hread]
      cases hv with
      | null | bool b | int h | str s => rfl
      | arr h => exact absurd hdepth (Json.depth_arr_pos _).ne'
      | obj h => exact absurd hdepth (Json.depth_obj_pos _).ne'
  · cases hv with
    | null | bool b | int h | str s => exact absurd rfl hdepth
    | arr h =>
        rw [compact, List.cons_append, Json.normal_arr]
        rfl
    | obj h =>
        rw [compact, List.cons_append, Json.normal_obj]
        rfl

/-- A string is a type, and nothing else is. -/
theorem takes_type : Takes takeType asType := by
  intro v rest hv hdepth hrest
  obtain ⟨c, cs, hcs, hblank, -, -, -, hquote, -⟩ := Json.compact_cons hv
  by_cases hstr : ∃ s, v = .str s
  · obtain ⟨s, rfl⟩ := hstr
    have hchars : compact (.str s) ++ rest =
        '\"' :: (s.toList.flatMap Json.escape ++ '\"' :: rest) := by
      simp [compact, Json.quote]
    simp only [hchars, takeType, Json.skipBlank_token (show Json.isBlank '\"' = false from rfl),
      grammar, Json.string?_escaped]
    rfl
  · have hclash : asType v.normal = .error (clash "a string" v.normal) := by
      cases hv with
      | str s => exact absurd ⟨s, rfl⟩ hstr
      | null | bool b | int h => rfl
      | arr h => rw [Json.normal_arr]; rfl
      | obj h => rw [Json.normal_obj]; rfl
    have hmismatch := mismatch_compact hv "a string" hrest
    rw [hcs, List.cons_append] at hmismatch ⊢
    rw [takeType, Json.skipBlank_token hblank, hclash]
    split
    · next heq => exact absurd (hquote.mp (List.cons.inj heq).1) hstr
    · rw [hmismatch]
      rfl

/-- An object is a body, and nothing else is. -/
theorem takes_map : Takes takeMap asMap := by
  intro v rest hv hdepth hrest
  obtain ⟨c, cs, hcs, hblank, -, -, -, -, -, hcurly⟩ := Json.compact_cons hv
  by_cases hobj : ∃ fields, v = .obj fields
  · have hc := hcurly.mpr hobj
    have hread := grammar_reads (Json.reads_compact hv hdepth) hrest
    obtain ⟨fields, rfl⟩ := hobj
    subst hc
    rw [hcs, List.cons_append] at hread ⊢
    rw [takeMap, Json.skipBlank_token rfl]
    simp only [hread, bind, Except.bind]
    rw [Json.normal_obj]
    rfl
  · have hclash : asMap v.normal = .error (clash "a map" v.normal) := by
      cases hv with
      | obj h => exact absurd ⟨_, rfl⟩ hobj
      | null | bool b | int h | str s => rfl
      | arr h => rw [Json.normal_arr]; rfl
    have hmismatch := mismatch_compact hv "a map" hrest
    rw [hcs, List.cons_append] at hmismatch ⊢
    rw [takeMap, Json.skipBlank_token hblank, hclash]
    split
    · next heq => exact absurd (hcurly.mp (List.cons.inj heq).1) hobj
    · rw [hmismatch]
      rfl

/-- An integer of sixty-four bits is a size, and nothing else is. -/
theorem takes_size : Takes takeSize asSize := by
  intro v rest hv _ hrest
  have hskip : Json.skipBlank (compact v ++ rest) = compact v ++ rest :=
    Json.skipBlank_opens (Json.opens_compact hv) rest
  have hmismatch := mismatch_compact hv "i64" hrest
  -- Containers are refused without a look inside, and a scalar is read.
  by_cases hdepth : v.depth = 0
  · obtain ⟨c, cs, hcs, hsquare, hcurly⟩ := compact_scalar hv hdepth
    have hread := value?_scalar hv hdepth hrest
    rw [hcs, List.cons_append] at hskip hread hmismatch ⊢
    simp only [takeSize, hskip, hread]
    split
    · next heq => exact absurd (List.cons.inj heq).1 hsquare
    · next heq => exact absurd (List.cons.inj heq).1 hcurly
    · rw [hmismatch]
      cases hv with
      | null | bool b | str s => rfl
      | @int n h =>
          show (if inWord n then _ else _) = Except.map _ (if inWord n then _ else _)
          split <;> rfl
      | arr h => exact absurd hdepth (Json.depth_arr_pos _).ne'
      | obj h => exact absurd hdepth (Json.depth_obj_pos _).ne'
  · rw [takeSize, hskip, hmismatch]
    cases hv with
    | null | bool b | int h | str s => exact absurd rfl hdepth
    | arr h =>
        rw [compact, List.cons_append, Json.normal_arr]
        rfl
    | obj h =>
        rw [compact, List.cons_append, Json.normal_obj]
        rfl

/-- Null is no value, and anything else is read as without it. -/
theorem Takes.optional {α : Type} {taker : Taker α} {read : Json → Except Flaw α}
    (h : Takes taker read) : Takes (takeOptional taker) (asOptional read) := by
  intro v rest hv hdepth hrest
  have hskip : Json.skipBlank (compact v ++ rest) = compact v ++ rest :=
    Json.skipBlank_opens (Json.opens_compact hv) rest
  obtain ⟨c, cs, hcs, -, -, -, hnull, -⟩ := Json.compact_cons hv
  rw [takeOptional, hskip]
  by_cases hv0 : v = .null
  · have hc := hnull.mpr hv0
    have hread := grammar_reads (Json.reads_null 0) hrest
    subst hv0 hc
    rw [hcs, List.cons_append] at hread ⊢
    simp only [hread, bind, Except.bind]
    rfl
  · have hread := h v rest hv hdepth hrest
    have hother : asOptional read v.normal = (read v.normal).map some := by
      cases hv with
      | null => exact absurd rfl hv0
      | bool b | int h | str s => rfl
      | arr h => rw [Json.normal_arr]; rfl
      | obj h => rw [Json.normal_obj]; rfl
    rw [hother]
    split
    · next heq =>
        rw [hcs] at heq
        exact absurd (hnull.mp (List.cons.inj heq).1) hv0
    · rw [hread]
      cases read v.normal <;> rfl

/-- Any value does for a field without a meaning. -/
theorem takes_any : Takes (grammar (Json.value? fieldDepth)) .ok := by
  intro v rest hv hdepth hrest
  rw [grammar_reads (Json.reads_compact hv hdepth) hrest]
  rfl

/-! ## Members -/

/-- The value of a member is taken behind its colon. -/
theorem Takes.into {α : Type} {taker : Taker α} {read : Json → Except Flaw α}
    (h : Takes taker read) (put : α → Draft) {v : Json} {rest : List Char} (hv : v.Plain)
    (hdepth : v.depth ≤ fieldDepth) (hrest : Stops rest) :
    takeInto taker put (':' :: (compact v ++ rest)) =
      ((read v.normal).map put).map fun draft => (draft, rest) := by
  have hcolon : takeColon (':' :: (compact v ++ rest)) = .ok (compact v ++ rest) := by
    rw [takeColon, Json.skipBlank_token rfl]
    rfl
  simp only [takeInto, hcolon, bind, Except.bind, h v rest hv hdepth hrest]
  cases read v.normal <;> rfl

theorem takeField_compact (draft : Draft) (key : String) {v : Json} {rest : List Char}
    (hv : v.Plain) (hdepth : v.depth ≤ fieldDepth) (hrest : Stops rest) :
    takeField draft key (':' :: (compact v ++ rest)) =
      (draft.enter (key, v.normal)).map fun draft => (draft, rest) := by
  rw [takeField_eq, Draft.enter]
  split_ifs
  · rfl
  · exact takes_id.into _ hv hdepth hrest
  · rfl
  · exact takes_type.into _ hv hdepth hrest
  · rfl
  · exact takes_map.into _ hv hdepth hrest
  · rfl
  · exact takes_size.optional.into _ hv hdepth hrest
  · rfl
  · exact takes_map.optional.into _ hv hdepth hrest
  · exact takes_any.into _ hv hdepth hrest

theorem takeMember_compact (draft : Draft) {e : String × Json} {rest : List Char}
    (hv : e.2.Plain) (hdepth : e.2.depth ≤ fieldDepth) (hrest : Stops rest) :
    takeMember draft (compactField e ++ rest) =
      (draft.enter (Json.normalField e)).map fun draft => (draft, rest) := by
  have hchars : compactField e ++ rest =
      '\"' :: (e.1.toList.flatMap Json.escape ++ '\"' :: (':' :: (compact e.2 ++ rest))) := by
    simp [Json.compactField_eq, Json.quote]
  rw [hchars, takeMember, Json.skipBlank_token rfl]
  simp only [grammar, Json.string?_escaped, bind, Except.bind]
  rw [takeField_compact draft e.1 hv hdepth hrest, Json.normalField]

/-- The draft with all members in it, entered in their order. -/
def Draft.enterAll (draft : Draft) (es : List (String × Json)) : Except Flaw Draft :=
  es.foldlM Draft.enter draft

theorem takeMembers_compact (draft : Draft) {es : List (String × Json)} (rest : List Char)
    (hne : es ≠ []) (hv : ∀ e ∈ es, e.2.Plain) (hdepth : ∀ e ∈ es, e.2.depth ≤ fieldDepth)
    {fuel : Nat} (hfuel : es.length ≤ fuel) :
    takeMembers fuel draft (compactFields es ++ '}' :: rest) =
      (draft.enterAll (es.map Json.normalField)).map fun draft => (draft, rest) := by
  induction es generalizing draft fuel with
  | nil => exact absurd rfl hne
  | cons e es ih =>
      obtain ⟨fuel, rfl⟩ : ∃ n, fuel = n + 1 := Nat.exists_eq_succ_of_ne_zero (by
        simp at hfuel
        omega)
      obtain ⟨he, hes⟩ := List.forall_mem_cons.mp hv
      obtain ⟨hde, hdes⟩ := List.forall_mem_cons.mp hdepth
      cases es with
      | nil =>
          have hmember := takeMember_compact draft he hde (Json.Closes.stops (.inr rfl) rest)
          have hclosed : Json.skipBlank ('}' :: rest) = '}' :: rest := Json.skipBlank_token rfl rest
          simp only [takeMembers, compactFields, hmember]
          cases hdraft : draft.enter (Json.normalField e) with
          | error flaw => simp [Draft.enterAll, hdraft, bind, Except.bind, Except.map]
          | ok next =>
              simp [Draft.enterAll, hdraft, bind, Except.bind, Except.map, hclosed, pure,
                Except.pure]
      | cons f es =>
          have hmember := takeMember_compact draft he hde
            (Json.stops_comma (compactFields (f :: es) ++ '}' :: rest))
          have hcomma : Json.skipBlank (',' :: (compactFields (f :: es) ++ '}' :: rest)) =
              ',' :: (compactFields (f :: es) ++ '}' :: rest) := Json.skipBlank_token rfl _
          have hlater := fun next =>
            ih next (List.cons_ne_nil f es) hes hdes (Nat.le_of_succ_le_succ hfuel)
          rw [compactFields, List.append_assoc, List.cons_append, takeMembers, hmember]
          cases hdraft : draft.enter (Json.normalField e) with
          | error flaw => simp [Draft.enterAll, hdraft, bind, Except.bind, Except.map]
          | ok next =>
              rw [List.map_cons, Draft.enterAll, List.foldlM_cons, hdraft]
              simp only [bind, Except.bind, Except.map, hcomma]
              exact hlater next

/-- A packet in compact form is read as if its members were entered one after the other. -/
theorem decode_compact {es : List (String × Json)} {blank : List Char}
    (hv : ∀ e ∈ es, e.2.Plain) (hdepth : ∀ e ∈ es, e.2.depth ≤ fieldDepth)
    (hblank : Json.Blank blank) :
    decode (compact (.obj es) ++ blank) =
      (Draft.enterAll {} (es.map Json.normalField)).bind Draft.finish := by
  have hend : Json.skipBlank blank = [] := by
    have hskip := Json.skipBlank_append hblank []
    rwa [List.append_nil] at hskip
  have hchars : compact (.obj es) ++ blank = '{' :: (compactFields es ++ '}' :: blank) := by
    simp [compact]
  rw [hchars, decode, Json.skipBlank_token rfl]
  cases es with
  | nil => rfl
  | cons e es =>
      have hfuel : (e :: es).length ≤ (compactFields (e :: es) ++ '}' :: blank).length := by
        have hle := (Json.joined_compactFields (e :: es)).length_le
        simp at hle ⊢
        omega
      have htaken := takeMembers_compact {} blank (List.cons_ne_nil e es) hv hdepth hfuel
      -- The text goes on with a quote, and so there is a member to take.
      obtain ⟨cs, hcs⟩ : ∃ cs, compactFields (e :: es) ++ '}' :: blank = '\"' :: cs := by
        refine ⟨(compactFields (e :: es) ++ '}' :: blank).tail, ?_⟩
        cases es <;> simp [compactFields, Json.compactField_eq, Json.quote]
      have hskip : Json.skipBlank ('\"' :: cs) = '\"' :: cs := Json.skipBlank_token rfl cs
      rw [hcs, List.length_cons] at htaken
      rw [hcs]
      cases hdraft : Draft.enterAll {} ((e :: es).map Json.normalField) with
      | error flaw =>
          rw [hdraft] at htaken
          simp [hskip, htaken, bind, Except.bind, Except.map]
      | ok draft =>
          rw [hdraft] at htaken
          cases hfinish : draft.finish <;>
            simp [hskip, htaken, hfinish, hend, bind, Except.bind, Except.map]

end Tether.Packet
