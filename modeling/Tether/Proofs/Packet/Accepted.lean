import Tether.Proofs.Packet.RoundTrip

/-!
# Which texts are packets

The decoder decides member by member, and each member it meets changes what it makes of the
next one: a field that came before must not come again. Where no key comes twice none of
this shows. What a field of the draft becomes depends on the one member of that name, if
there is one (`Filled`), and so all members together can be said at once, by looking each
name up (`enterAll_ok_iff`). Look-up does not mind the order of members, and that is why the
decoder does not either.

What a packet asks of an object is said by `Describes`, without the decoder: an integer or
the digits of one as the id, a string as the type, and so on. A text is read as a packet
exactly if it is such an object (`accepted_iff`), and every other text is refused as an
invalid packet.
-/

namespace Tether.Packet

open Json (Plain compact)

/-! ## What a packet asks of an object -/

/-- Decimal digits, after a sign or none, spell an integer. -/
def Spells (s : String) (n : Int) : Prop :=
  ∃ sign ds, s.toList = sign ++ ds ∧ sign ∈ [[], ['+'], ['-']] ∧ ds ≠ [] ∧
    (∀ c ∈ ds, c.isDigit = true) ∧
    n = if sign = ['-'] then -(Nat.ofDigitChars 10 ds 0 : Int) else Nat.ofDigitChars 10 ds 0

/-- A value is an id: an integer of sixty-four bits, or a string that spells one. -/
inductive IsId : Json → Int → Prop where
  | number {n : Int} (h : inWord n = true) : IsId (.num (.int n)) n
  | string {s : String} {n : Int} (hs : Spells s n) (h : inWord n = true) : IsId (.str s) n

/-- A value is an integer of sixty-four bits. -/
def IsSize (v : Json) (n : Int) : Prop :=
  v = .num (.int n) ∧ inWord n = true

/-- A value is an object, and these are its members in the order of their keys. -/
def IsMap (v : Json) (d : Dict Json) : Prop :=
  ∃ fields, v = .obj fields ∧ Dict.ofEntries (fields.map Json.normalField) = d

/-- A member that may be missing or null, and what it comes to. -/
inductive Maybe {α : Type} (is : Json → α → Prop) : Option Json → Option α → Prop where
  | absent : Maybe is none none
  | null : Maybe is (some .null) none
  | value {v : Json} {x : α} (h : is v x) : Maybe is (some v) (some x)

/-- The members of an object are what a packet has in its fields. -/
structure Describes (fields : List (String × Json)) (p : Packet) : Prop where
  id : ∃ v, Dict.find? fields "id" = some v ∧ IsId v p.id
  type : Dict.find? fields "type" = some (.str p.type)
  body : Dict.find? fields "body" = none ∧ p.body = [] ∨
    ∃ v, Dict.find? fields "body" = some v ∧ IsMap v p.body
  size : Maybe IsSize (Dict.find? fields "payloadSize") p.payloadSize
  info : Maybe IsMap (Dict.find? fields "payloadTransferInfo") p.payloadTransferInfo
  extra : p.extra = Dict.ofEntries ((fields.filter fun e => e.1 ∉ known).map Json.normalField)

/-- The members of an object are fit for the fields of a packet. -/
structure Fit (fields : List (String × Json)) : Prop where
  id : ∃ v n, Dict.find? fields "id" = some v ∧ IsId v n
  type : ∃ s, Dict.find? fields "type" = some (.str s)
  body : ∀ v, Dict.find? fields "body" = some v → ∃ es, v = .obj es
  size : ∀ v, Dict.find? fields "payloadSize" = some v → v = .null ∨ ∃ n, IsSize v n
  info : ∀ v, Dict.find? fields "payloadTransferInfo" = some v → v = .null ∨ ∃ es, v = .obj es

theorem exists_maybe {α : Type} {is : Json → α → Prop} {found : Option Json}
    (h : ∀ v, found = some v → v = .null ∨ ∃ x, is v x) : ∃ x, Maybe is found x := by
  cases found with
  | none => exact ⟨none, .absent⟩
  | some v =>
      rcases h v rfl with rfl | ⟨x, hx⟩
      · exact ⟨none, .null⟩
      · exact ⟨some x, .value hx⟩

theorem Maybe.fit {α : Type} {is : Json → α → Prop} {found : Option Json} {x : Option α}
    (h : Maybe is found x) : ∀ v, found = some v → v = .null ∨ ∃ x, is v x := by
  cases h with
  | absent => exact nofun
  | null => exact fun v hv => .inl (Option.some.inj hv).symm
  | @value v x h => exact fun w hw => .inr ⟨x, Option.some.inj hw ▸ h⟩

theorem isMap_obj (es : List (String × Json)) :
    IsMap (.obj es) (Dict.ofEntries (es.map Json.normalField)) :=
  ⟨es, rfl, rfl⟩

/-- Members that are fit for the fields of a packet are those of one. -/
theorem fit_iff {fields : List (String × Json)} : Fit fields ↔ ∃ p, Describes fields p := by
  constructor
  · rintro ⟨⟨v, n, hv, hn⟩, ⟨s, hs⟩, hbody, hsize, hinfo⟩
    obtain ⟨body, hb⟩ : ∃ body, Dict.find? fields "body" = none ∧ body = [] ∨
        ∃ v, Dict.find? fields "body" = some v ∧ IsMap v body := by
      cases hfound : Dict.find? fields "body" with
      | none => exact ⟨[], .inl ⟨rfl, rfl⟩⟩
      | some v =>
          obtain ⟨es, rfl⟩ := hbody v hfound
          exact ⟨_, .inr ⟨_, rfl, isMap_obj es⟩⟩
    obtain ⟨size, hsize⟩ := exists_maybe hsize
    have hmap : ∀ v, Dict.find? fields "payloadTransferInfo" = some v →
        v = .null ∨ ∃ d, IsMap v d := fun v hv =>
      (hinfo v hv).imp_right fun ⟨es, hes⟩ => ⟨_, hes ▸ isMap_obj es⟩
    obtain ⟨info, hinfo⟩ := exists_maybe hmap
    exact ⟨⟨n, s, body, size, info, _⟩, ⟨v, hv, hn⟩, hs, hb, hsize, hinfo, rfl⟩
  · rintro ⟨p, ⟨v, hv, hn⟩, hs, hbody, hsize, hinfo, -⟩
    refine ⟨⟨v, _, hv, hn⟩, ⟨_, hs⟩, fun v hv => ?_, hsize.fit, fun v hv => ?_⟩
    · rcases hbody with ⟨hnone, -⟩ | ⟨w, hw, es, rfl, -⟩
      · rw [hnone] at hv
        cases hv
      · exact ⟨es, Option.some.inj (hv.symm.trans hw)⟩
    · exact (hinfo.fit v hv).imp_right fun ⟨_, es, hes, _⟩ => ⟨es, hes⟩

/-- The order of members does not matter where no key comes twice. -/
theorem Describes.perm {fields other : List (String × Json)} {p : Packet}
    (h : Describes fields p) (hkeys : (fields.map Prod.fst).Nodup) (hperm : other.Perm fields) :
    Describes other p := by
  have hkeys' : (other.map Prod.fst).Nodup := (hperm.map Prod.fst).nodup_iff.mpr hkeys
  have hfind := Dict.find?_perm hkeys' hperm
  refine ⟨hfind "id" ▸ h.id, hfind "type" ▸ h.type, hfind "body" ▸ h.body,
    hfind "payloadSize" ▸ h.size, hfind "payloadTransferInfo" ▸ h.info, ?_⟩
  rw [h.extra]
  refine (Dict.ofEntries_perm ?_ ((hperm.filter _).map Json.normalField)).symm
  rw [List.map_map]
  exact (List.Sublist.map Prod.fst List.filter_sublist).nodup hkeys'

/-! ## Drafts filled from members -/

/-- A field of a draft stays as it was without a member of its name. With one it was empty,
and has what is read from the value of the member. -/
def Filled {α : Type} (read : Json → Except Flaw α) (prior : Option α) :
    Option Json → Option α → Prop
  | none, later => later = prior
  | some v, later => prior = none ∧ ∃ x, read v = .ok x ∧ later = some x

/-- Members make one draft of another. -/
@[mk_iff]
structure Draft.Fills (draft : Draft) (es : List (String × Json)) (next : Draft) : Prop where
  id : Filled idOf draft.id (Dict.find? es "id") next.id
  type : Filled asType draft.type (Dict.find? es "type") next.type
  body : Filled asMap draft.body (Dict.find? es "body") next.body
  size : Filled (asOptional asSize) draft.payloadSize (Dict.find? es "payloadSize")
    next.payloadSize
  info : Filled (asOptional asMap) draft.payloadTransferInfo
    (Dict.find? es "payloadTransferInfo") next.payloadTransferInfo
  extra : next.extra = (es.filter fun e => e.1 ∉ known).foldl
    (fun extra e => Dict.put e.1 e.2 extra) draft.extra

theorem map_ok_iff {α β : Type} {x : Except Flaw α} {f : α → β} {y : β} :
    x.map f = .ok y ↔ ∃ a, x = .ok a ∧ f a = y := by
  cases x <;> simp [Except.map]

theorem bind_ok_iff {α β : Type} {x : Except Flaw α} {f : α → Except Flaw β} {y : β} :
    x.bind f = .ok y ↔ ∃ a, x = .ok a ∧ f a = .ok y := by
  cases x <;> simp [Except.bind]

/-- A field is filled once. -/
theorem once_ok_iff {α : Type} {prior : Option α} {flaw : Flaw} {x : Except Flaw α}
    {put : α → Draft} {next : Draft} :
    (if prior.isSome then .error flaw else x.map put) = .ok next ↔
      prior = none ∧ ∃ a, x = .ok a ∧ put a = next := by
  cases prior <;> simp [map_ok_iff]

/-- A member goes to the field of its name, or to those without a meaning. -/
theorem enter_ok_iff {draft next : Draft} {e : String × Json} :
    draft.enter e = .ok next ↔ draft.Fills [e] next := by
  obtain ⟨key, v⟩ := e
  obtain ⟨id, type, body, size, info, extra⟩ := draft
  obtain ⟨id', type', body', size', info', extra'⟩ := next
  rw [Draft.fills_iff]
  by_cases hknown : key ∈ known
  · simp only [known, List.mem_cons, List.not_mem_nil, or_false] at hknown
    rcases hknown with rfl | rfl | rfl | rfl | rfl
    all_goals
      simp only [Draft.enter, once_ok_iff, Dict.find?, Filled, known, String.reduceEq, if_true,
        if_false, Draft.mk.injEq]
      simp
      grind
  · have hunknown := hknown
    simp only [known, List.mem_cons, List.not_mem_nil, or_false, not_or] at hunknown
    simp [Draft.enter, Dict.find?, Filled, hunknown, hknown, eq_comm]

/-- A member and others of other names fill a field one after the other. -/
theorem filled_cons {α : Type} {read : Json → Except Flaw α} {prior later : Option α}
    {e : String × Json} {es : List (String × Json)} (h : e.1 ∉ es.map Prod.fst) (key : String) :
    Filled read prior (Dict.find? (e :: es) key) later ↔
      ∃ mid, Filled read prior (Dict.find? [e] key) mid ∧
        Filled read mid (Dict.find? es key) later := by
  by_cases hkey : e.1 = key
  · have hnone : Dict.find? es key = none := Dict.find?_eq_none_iff.mpr (hkey ▸ h)
    simp [Dict.find?, hkey, hnone, Filled]
  · simp [Dict.find?, hkey, Filled]

theorem fills_cons {draft next : Draft} {e : String × Json} {es : List (String × Json)}
    (h : e.1 ∉ es.map Prod.fst) :
    draft.Fills (e :: es) next ↔ ∃ mid : Draft, draft.Fills [e] mid ∧ mid.Fills es next := by
  have hextra : ∀ extra : Dict Json, ((e :: es).filter fun e => e.1 ∉ known).foldl
      (fun extra e => Dict.put e.1 e.2 extra) extra =
        (es.filter fun e => e.1 ∉ known).foldl (fun extra e => Dict.put e.1 e.2 extra)
          (([e].filter fun e => e.1 ∉ known).foldl (fun extra e => Dict.put e.1 e.2 extra)
            extra) := by
    intro extra
    rw [← List.foldl_append, ← List.filter_append, List.singleton_append]
  constructor
  · intro hfills
    obtain ⟨id, hid, hid'⟩ := (filled_cons h "id").mp hfills.id
    obtain ⟨type, htype, htype'⟩ := (filled_cons h "type").mp hfills.type
    obtain ⟨body, hbody, hbody'⟩ := (filled_cons h "body").mp hfills.body
    obtain ⟨size, hsize, hsize'⟩ := (filled_cons h "payloadSize").mp hfills.size
    obtain ⟨info, hinfo, hinfo'⟩ := (filled_cons h "payloadTransferInfo").mp hfills.info
    exact ⟨⟨id, type, body, size, info, _⟩, ⟨hid, htype, hbody, hsize, hinfo, rfl⟩,
      ⟨hid', htype', hbody', hsize', hinfo', hfills.extra.trans (hextra _)⟩⟩
  · rintro ⟨mid, hfirst, hrest⟩
    refine ⟨(filled_cons h _).mpr ⟨_, hfirst.id, hrest.id⟩,
      (filled_cons h _).mpr ⟨_, hfirst.type, hrest.type⟩,
      (filled_cons h _).mpr ⟨_, hfirst.body, hrest.body⟩,
      (filled_cons h _).mpr ⟨_, hfirst.size, hrest.size⟩,
      (filled_cons h _).mpr ⟨_, hfirst.info, hrest.info⟩, ?_⟩
    rw [hrest.extra, hfirst.extra, hextra]

/-- Where no key comes twice, each name can be looked up for itself. -/
theorem enterAll_ok_iff {draft next : Draft} {es : List (String × Json)}
    (h : (es.map Prod.fst).Nodup) : draft.enterAll es = .ok next ↔ draft.Fills es next := by
  induction es generalizing draft with
  | nil =>
      obtain ⟨id, type, body, size, info, extra⟩ := draft
      obtain ⟨id', type', body', size', info', extra'⟩ := next
      simp [Draft.enterAll, Draft.fills_iff, Filled, pure, Except.pure, eq_comm]
  | cons e es ih =>
      obtain ⟨he, hes⟩ := List.nodup_cons.mp h
      have hcons : draft.enterAll (e :: es) = (draft.enter e).bind fun mid => mid.enterAll es :=
        rfl
      rw [hcons, bind_ok_iff, fills_cons he]
      simp only [enter_ok_iff, ih hes]

theorem finish_ok_iff {draft : Draft} {p : Packet} :
    draft.finish = .ok p ↔ draft.id = some p.id ∧ draft.type = some p.type ∧
      p.body = draft.body.getD [] ∧ p.payloadSize = draft.payloadSize.join ∧
      p.payloadTransferInfo = draft.payloadTransferInfo.join ∧ p.extra = draft.extra := by
  obtain ⟨id, type, body, size, info, extra⟩ := draft
  obtain ⟨id', type', body', size', info', extra'⟩ := p
  cases id <;> cases type <;> simp [Draft.finish, eq_comm]

/-! ## Values of fields -/

theorem natOf_digits (ds : List Char) :
    Json.Literal.natOf (ds.map Json.digitValue) = Nat.ofDigitChars 10 ds 0 := by
  rw [Json.Literal.natOf, List.foldl_map]
  simp only [Nat.ofDigitChars, Json.digitValue, Nat.mul_comm 10]
  rfl

/-- Whether a minus comes first, and what follows a sign. -/
def signed : List Char → Bool × List Char
  | '-' :: ds => (true, ds)
  | '+' :: ds => (false, ds)
  | ds => (false, ds)

theorem idOfString?_eq (s : String) :
    idOfString? s =
      if (signed s.toList).2 ≠ [] ∧ (signed s.toList).2.all Char.isDigit then
        let n : Int := Json.Literal.natOf ((signed s.toList).2.map Json.digitValue)
        let n := if (signed s.toList).1 then -n else n
        if inWord n then some n else none
      else none :=
  rfl

/-- Digits after a sign are what follows it, since no digit is a sign. -/
theorem signed_digits {sign ds : List Char} (hsign : sign ∈ [[], ['+'], ['-']]) (hne : ds ≠ [])
    (hdigits : ∀ c ∈ ds, c.isDigit = true) :
    signed (sign ++ ds) = (decide (sign = ['-']), ds) := by
  simp only [List.mem_cons, List.not_mem_nil, or_false] at hsign
  rcases hsign with rfl | rfl | rfl
  · rw [List.nil_append, signed]
    · rfl
    · rintro rest rfl
      exact absurd (hdigits _ List.mem_cons_self) (by decide)
    · rintro rest rfl
      exact absurd (hdigits _ List.mem_cons_self) (by decide)
  · rfl
  · rfl

theorem signed_spelled (cs : List Char) :
    ∃ sign, cs = sign ++ (signed cs).2 ∧ sign ∈ [[], ['+'], ['-']] ∧
      (signed cs).1 = decide (sign = ['-']) := by
  rw [signed.eq_def]
  split
  · exact ⟨['-'], rfl, by simp, rfl⟩
  · exact ⟨['+'], rfl, by simp, rfl⟩
  · exact ⟨[], rfl, by simp, rfl⟩

theorem idOfString?_iff {s : String} {n : Int} :
    idOfString? s = some n ↔ Spells s n ∧ inWord n = true := by
  rw [idOfString?_eq]
  simp only [natOf_digits, Option.ite_none_right_eq_some, Option.some.injEq, List.all_eq_true]
  constructor
  · rintro ⟨⟨hne, hdigits⟩, hword, rfl⟩
    obtain ⟨sign, hchars, hsign, hneg⟩ := signed_spelled s.toList
    refine ⟨⟨sign, _, hchars, hsign, hne, hdigits, ?_⟩, hword⟩
    simp only [hneg, decide_eq_true_eq]
  · rintro ⟨⟨sign, ds, hchars, hsign, hne, hdigits, rfl⟩, hword⟩
    rw [hchars, signed_digits hsign hne hdigits]
    simp only [decide_eq_true_eq]
    exact ⟨⟨hne, hdigits⟩, hword, trivial⟩

theorem idOf_ok_iff {v : Json} {n : Int} : idOf v.normal = .ok n ↔ IsId v n := by
  constructor
  · intro h
    cases v with
    | num m =>
        cases m with
        | int m =>
            have hword : (if inWord m then Except.ok m else .error Flaw.idNumber) = .ok n := h
            split at hword
            · next hm =>
                cases hword
                exact .number hm
            · cases hword
        | float bits => cases h
    | str s =>
        have hid : idOf (.str s) = .ok n := h
        rw [idOf] at hid
        split at hid
        · next heq =>
            cases hid
            obtain ⟨hs, hn⟩ := idOfString?_iff.mp heq
            exact .string hs hn
        · cases hid
    | arr items =>
        rw [Json.normal_arr] at h
        cases h
    | obj fields =>
        rw [Json.normal_obj] at h
        cases h
    | null | bool b => cases h
  · intro h
    cases h with
    | number h => exact if_pos h
    | @string s n hs h =>
        show idOf (.str s) = .ok n
        rw [idOf, idOfString?_iff.mpr ⟨hs, h⟩]

theorem asType_ok_iff {v : Json} {s : String} : asType v.normal = .ok s ↔ v = .str s := by
  cases v with
  | str t => simp [Json.normal, Json.fold, asType]
  | arr items => simp [Json.normal_arr, asType]
  | obj fields => simp [Json.normal_obj, asType]
  | null | bool _ | num _ => simp [Json.normal, Json.fold, asType]

theorem asMap_ok_iff {v : Json} {d : Dict Json} : asMap v.normal = .ok d ↔ IsMap v d := by
  cases v with
  | obj fields => simp [Json.normal_obj, asMap, IsMap]
  | arr items => simp [Json.normal_arr, asMap, IsMap]
  | null | bool _ | num _ | str _ => simp [Json.normal, Json.fold, asMap, IsMap]

theorem asSize_ok_iff {v : Json} {n : Int} : asSize v.normal = .ok n ↔ IsSize v n := by
  cases v with
  | num m =>
      cases m with
      | int m =>
          simp only [Json.normal, Json.fold, asSize, IsSize]
          grind
      | float bits => simp [Json.normal, Json.fold, asSize, IsSize]
  | arr items => simp [Json.normal_arr, asSize, IsSize]
  | obj fields => simp [Json.normal_obj, asSize, IsSize]
  | null | bool _ | str _ => simp [Json.normal, Json.fold, asSize, IsSize]

theorem not_isSize_null (n : Int) : ¬IsSize .null n := by
  rintro ⟨h, -⟩
  cases h

theorem not_isMap_null (d : Dict Json) : ¬IsMap .null d := by
  rintro ⟨fields, h, -⟩
  cases h

/-! ## Fields of a text -/

section Fields

variable {α : Type} {read : Json → Except Flaw α} {is : Json → α → Prop}
  (h : ∀ v x, read v.normal = .ok x ↔ is v x) {found : Option Json}
include h

theorem filled_some_iff {x : α} :
    Filled read none (found.map Json.normal) (some x) ↔ ∃ v, found = some v ∧ is v x := by
  cases found with
  | none => simp [Filled]
  | some v => simp [Filled, h]

/-- Null is told from all other values, whatever order their members have. -/
theorem asOptional_normal {v : Json} (hv : v ≠ .null) {y : Option α} :
    asOptional read v.normal = .ok y ↔ ∃ x, is v x ∧ some x = y := by
  have hother : asOptional read v.normal = (read v.normal).map some := by
    cases v with
    | null => exact absurd rfl hv
    | bool b | num n | str s => rfl
    | arr items => rw [Json.normal_arr]; rfl
    | obj fields => rw [Json.normal_obj]; rfl
  simp only [hother, map_ok_iff, h]

theorem filled_optional_iff (hnull : ∀ x, ¬is .null x) {x : Option α} :
    (∃ later, Filled (asOptional read) none (found.map Json.normal) later ∧ x = later.join) ↔
      Maybe is found x := by
  constructor
  · rintro ⟨later, hfilled, rfl⟩
    cases found with
    | none => exact hfilled ▸ .absent
    | some v =>
        obtain ⟨-, y, hy, rfl⟩ := hfilled
        by_cases hv : v = .null
        · subst hv
          cases hy
          exact .null
        · obtain ⟨x, hx, rfl⟩ := (asOptional_normal h hv).mp hy
          exact .value hx
  · rintro (_ | _ | @⟨v, x, hx⟩)
    · exact ⟨none, rfl, rfl⟩
    · exact ⟨some none, ⟨rfl, none, rfl, rfl⟩, rfl⟩
    · have hv : v ≠ .null := fun heq => hnull x (heq ▸ hx)
      exact ⟨some (some x), ⟨rfl, some x, (asOptional_normal h hv).mpr ⟨x, hx, rfl⟩, rfl⟩, rfl⟩

end Fields

theorem filled_body_iff {found : Option Json} {d : Dict Json} :
    (∃ later, Filled asMap none (found.map Json.normal) later ∧ d = later.getD []) ↔
      found = none ∧ d = [] ∨ ∃ v, found = some v ∧ IsMap v d := by
  cases found with
  | none => simp [Filled]
  | some v =>
      have hmap : asMap v.normal = .ok d ↔ IsMap v d := asMap_ok_iff
      simp [Filled, ← hmap, eq_comm]

theorem find?_normalField (fields : List (String × Json)) (key : String) :
    Dict.find? (fields.map Json.normalField) key = (Dict.find? fields key).map Json.normal :=
  Dict.find?_map Json.normal fields key

theorem names_normalField (fields : List (String × Json)) :
    (fields.map Json.normalField).map Prod.fst = fields.map Prod.fst := by
  rw [List.map_map]
  rfl

/-- The fields of a text make up a packet if the packet is what they describe. -/
theorem enterAll_finish_iff {fields : List (String × Json)}
    (h : (fields.map Prod.fst).Nodup) {p : Packet} :
    (Draft.enterAll {} (fields.map Json.normalField)).bind Draft.finish = .ok p ↔
      Describes fields p := by
  rw [bind_ok_iff]
  simp only [enterAll_ok_iff ((names_normalField fields).symm ▸ h), finish_ok_iff]
  have hextra : ((fields.map Json.normalField).filter fun e => e.1 ∉ known) =
      (fields.filter fun e => e.1 ∉ known).map Json.normalField :=
    List.filter_map
  constructor
  · rintro ⟨draft, hfills, hid, htype, hbody, hsize, hinfo, hrest⟩
    obtain ⟨hid', htype', hbody', hsize', hinfo', hextra'⟩ := hfills
    rw [find?_normalField] at hid' htype' hbody' hsize' hinfo'
    obtain ⟨v, hv, rfl⟩ := (filled_some_iff fun _ _ => asType_ok_iff).mp (htype ▸ htype')
    exact ⟨(filled_some_iff fun _ _ => idOf_ok_iff).mp (hid ▸ hid'), hv,
      filled_body_iff.mp ⟨_, hbody', hbody⟩,
      (filled_optional_iff (fun _ _ => asSize_ok_iff) not_isSize_null).mp ⟨_, hsize', hsize⟩,
      (filled_optional_iff (fun _ _ => asMap_ok_iff) not_isMap_null).mp ⟨_, hinfo', hinfo⟩,
      hrest.trans (hextra'.trans (hextra ▸ rfl))⟩
  · intro hp
    obtain ⟨body, hbody, hbody'⟩ := filled_body_iff.mpr hp.body
    obtain ⟨size, hsize, hsize'⟩ :=
      (filled_optional_iff (fun _ _ => asSize_ok_iff) not_isSize_null).mpr hp.size
    obtain ⟨info, hinfo, hinfo'⟩ :=
      (filled_optional_iff (fun _ _ => asMap_ok_iff) not_isMap_null).mpr hp.info
    rw [← find?_normalField] at hbody hsize hinfo
    refine ⟨⟨some p.id, some p.type, body, size, info, p.extra⟩, ⟨?_, ?_, hbody, hsize, hinfo, ?_⟩,
      rfl, rfl, hbody', hsize', hinfo', rfl⟩
    · rw [find?_normalField]
      exact (filled_some_iff fun _ _ => idOf_ok_iff).mpr hp.id
    · rw [find?_normalField]
      exact (filled_some_iff fun _ _ => asType_ok_iff).mpr ⟨_, hp.type, rfl⟩
    · rw [hextra]
      exact hp.extra

/-! ## Texts -/

theorem stripEnd_eq_self {cs : List Char} (h : '\n' ∉ cs) : stripEnd cs = cs := by
  rw [stripEnd]
  split
  · next rest heq =>
      exact absurd (List.mem_reverse.mp (heq ▸ List.mem_cons_self)) h
  · next rest heq =>
      exact absurd (List.mem_reverse.mp (heq ▸ List.mem_cons_self)) h
  · rfl

/-- A compact text has no line end to strip. -/
theorem ofBytes_text {v : Json} (h : v.Plain) :
    ofBytes (Text.Utf8.encode v.text) = (decode (compact v)).mapError Flaw.fault := by
  have hnewline : '\n' ∉ compact v := fun hmem =>
    absurd (Json.space_le_of_mem_compact h hmem) (by decide)
  rw [ofBytes_encode, parse, parseFlaw, Json.text, String.toList_ofList,
    stripEnd_eq_self hnewline]

theorem mapError_ok_iff {x : Except Flaw Packet} {p : Packet} :
    x.mapError Flaw.fault = .ok p ↔ x = .ok p := by
  cases x <;> simp [Except.mapError]

/-- What is no object is no packet. -/
theorem decode_other {v : Json} (h : v.Plain) (hobj : ¬∃ fields, v = .obj fields) (p : Packet) :
    decode (compact v) ≠ .ok p := by
  obtain ⟨c, cs, hcs, hblank, -, -, -, -, -, hcurly⟩ := Json.compact_cons h
  rw [hcs, decode, Json.skipBlank_token hblank]
  split
  · next heq => exact absurd (hcurly.mp (List.cons.inj heq).1) hobj
  · rintro ⟨⟩

/-- The text of an object is read as the packet that its members describe. -/
theorem ofBytes_obj_iff {fields : List (String × Json)} (hplain : (Json.obj fields).Plain)
    (hdepth : (Json.obj fields).depth ≤ 127) (hkeys : (fields.map Prod.fst).Nodup)
    {p : Packet} :
    ofBytes (Text.Utf8.encode (Json.obj fields).text) = .ok p ↔ Describes fields p := by
  have hvalues : ∀ e ∈ fields, e.2.Plain := by
    cases hplain with
    | obj hvalues => exact hvalues
  have hdecode := decode_compact hvalues (fun e he => Json.depth_obj_le.mp hdepth e he)
    Json.blank_nil
  rw [List.append_nil] at hdecode
  rw [ofBytes_text hplain, mapError_ok_iff, hdecode, enterAll_finish_iff hkeys]

/-- A compact text without floats is a packet exactly if it is an object with members fit
for one, and the packet has what the members say, whatever their order. Every other such
text is an invalid packet. -/
theorem accepted_iff {v : Json} (hplain : v.Plain) (hdepth : v.depth ≤ 127)
    (hkeys : ∀ fields, v = .obj fields → (fields.map Prod.fst).Nodup) :
    ((∃ p, ofBytes (Text.Utf8.encode v.text) = .ok p) ↔ ∃ fields, v = .obj fields ∧ Fit fields) ∧
      (∀ p, ofBytes (Text.Utf8.encode v.text) = .ok p ↔
        ∃ fields, v = .obj fields ∧ Describes fields p) ∧
      (∀ fields other, v = .obj fields → other.Perm fields → ∀ p,
        ofBytes (Text.Utf8.encode v.text) = .ok p →
          ofBytes (Text.Utf8.encode (Json.obj other).text) = .ok p) ∧
      ∀ fault, ofBytes (Text.Utf8.encode v.text) = .error fault →
        ∃ detail, fault = .invalidPacket detail := by
  have hread : ∀ p, ofBytes (Text.Utf8.encode v.text) = .ok p ↔
      ∃ fields, v = .obj fields ∧ Describes fields p := by
    intro p
    by_cases hobj : ∃ fields, v = .obj fields
    · obtain ⟨fields, rfl⟩ := hobj
      rw [ofBytes_obj_iff hplain hdepth (hkeys fields rfl)]
      simp
    · rw [ofBytes_text hplain, mapError_ok_iff]
      exact ⟨fun h => absurd h (decode_other hplain hobj p),
        fun ⟨fields, hv, _⟩ => absurd ⟨fields, hv⟩ hobj⟩
  refine ⟨?_, hread, ?_, ?_⟩
  · simp only [hread, fit_iff]
    grind
  · rintro fields other rfl hperm p hp
    have hdescribes := (ofBytes_obj_iff hplain hdepth (hkeys fields rfl)).mp hp
    refine (ofBytes_obj_iff ?_ ?_ ?_).mpr (hdescribes.perm (hkeys fields rfl) hperm)
    · cases hplain with
      | obj hvalues => exact .obj fun e he => hvalues e (hperm.mem_iff.mp he)
    · exact Json.depth_obj_le.mpr fun e he =>
        Json.depth_obj_le.mp hdepth e (hperm.mem_iff.mp he)
    · exact (hperm.map Prod.fst).nodup_iff.mpr (hkeys fields rfl)
  · intro fault hfault
    rw [ofBytes_text hplain] at hfault
    cases hdecode : decode (compact v) with
    | ok p =>
        rw [hdecode] at hfault
        cases hfault
    | error flaw =>
        rw [hdecode] at hfault
        cases hfault
        exact ⟨_, rfl⟩

/-- A packet with the digits of its id in a string and a field that has no meaning. -/
theorem accepted_ping :
    let ping : List (String × Json) :=
      [("payloadSize", .null), ("seen", .bool true), ("id", .str "-12"),
        ("type", .str "kdeconnect.ping")]
    (Json.obj ping).Plain ∧ (Json.obj ping).depth ≤ 127 ∧
      (∀ fields, Json.obj ping = .obj fields → (fields.map Prod.fst).Nodup) ∧
      ofBytes (Text.Utf8.encode (Json.obj ping).text) =
        .ok ⟨-12, "kdeconnect.ping", [], none, none, [("seen", .bool true)]⟩ := by
  intro ping
  have hplain : (Json.obj ping).Plain := by
    refine .obj ?_
    simp only [ping, List.forall_mem_cons]
    exact ⟨.null, .bool true, .str _, .str _, nofun⟩
  have hdepth : (Json.obj ping).depth ≤ 127 := by decide
  have hkeys : ∀ fields, Json.obj ping = .obj fields → (fields.map Prod.fst).Nodup := by
    rintro fields ⟨⟩
    decide
  refine ⟨hplain, hdepth, hkeys, ((accepted_iff hplain hdepth hkeys).2.1 _).mpr ⟨ping, rfl, ?_⟩⟩
  have hid : Spells "-12" (-12) :=
    ⟨['-'], ['1', '2'], by simp, by simp, by simp,
      List.forall_mem_cons.mpr ⟨rfl, List.forall_mem_singleton.mpr rfl⟩, by decide⟩
  exact ⟨⟨_, rfl, .string hid (by decide)⟩, rfl, .inl ⟨rfl, rfl⟩, .null, .absent, rfl⟩

end Tether.Packet
