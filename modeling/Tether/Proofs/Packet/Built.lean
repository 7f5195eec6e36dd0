import Mathlib.Tactic.SplitIfs
import Tether.Packet.Decoder
import Tether.Packet.Fields
import Tether.Proofs.Json.Values

/-!
# What packets there are

A packet comes from the program, which makes it and changes it field by field, or from
bytes that were read (`Built`). Either way its numbers fit their fields, its values are
proper ones, and no field that has a meaning is among the fields that have none (`Formed`).

For bytes this is an invariant of the draft: taking a member keeps it, whatever the text,
because each taker gives only what its field may hold.
-/

namespace Tether.Packet

/-- The fields that have a meaning. -/
def known : List String :=
  ["id", "type", "body", "payloadSize", "payloadTransferInfo"]

/-- A packet that comes from the program or from bytes. -/
inductive Built : Packet → Prop where
  | make {id : Int} (type : String) {body : Json} (hid : inWord id = true) (hbody : body.Proper) :
      Built (make id type body)
  | withPayloadSize {p : Packet} {size : Int} (h : Built p) (hsize : inWord size = true) :
      Built (p.withPayloadSize size)
  | withTransferInfo {p : Packet} {info : Dict Json} (h : Built p)
      (hinfo : (Json.obj info).Proper) : Built (p.withTransferInfo info)
  | set {p : Packet} (h : Built p) (key : String) {value : Json} (hvalue : value.Proper) :
      Built (p.set key value)
  | remove {p : Packet} (h : Built p) (key : String) : Built (p.remove key)
  | ofBytes {bytes : List UInt8} {p : Packet} (h : ofBytes bytes = .ok p) : Built p

/-- The values fit their fields. -/
structure Formed (p : Packet) : Prop where
  id : inWord p.id = true
  body : (Json.obj p.body).Proper
  size : ∀ n, p.payloadSize = some n → inWord n = true
  info : ∀ d, p.payloadTransferInfo = some d → (Json.obj d).Proper
  extra : (Json.obj p.extra).Proper
  unknown : ∀ e ∈ p.extra, e.1 ∉ known

/-- The values that a draft has fit their fields. -/
structure Draft.Formed (draft : Draft) : Prop where
  id : ∀ n, draft.id = some n → inWord n = true
  body : ∀ d, draft.body = some d → (Json.obj d).Proper
  size : ∀ n, draft.payloadSize = some (some n) → inWord n = true
  info : ∀ d, draft.payloadTransferInfo = some (some d) → (Json.obj d).Proper
  extra : (Json.obj draft.extra).Proper
  unknown : ∀ e ∈ draft.extra, e.1 ∉ known

/-! ## Values -/

theorem proper_put {d : Dict Json} (h : (Json.obj d).Proper) (key : String) {v : Json}
    (hv : v.Proper) : (Json.obj (Dict.put key v d)).Proper := by
  cases h with
  | obj horder hvalues =>
      refine .obj (horder.put key v) fun e he => ?_
      rcases Dict.eq_or_mem_of_mem_put he with rfl | hmem
      · exact hv
      · exact hvalues e hmem

theorem proper_drop {d : Dict Json} (h : (Json.obj d).Proper) (key : String) :
    (Json.obj (Dict.drop key d)).Proper := by
  cases h with
  | obj horder hvalues =>
      exact .obj (horder.drop key) fun e he => hvalues e (List.mem_filter.mp he).1

theorem proper_nil : (Json.obj []).Proper :=
  .obj List.Pairwise.nil nofun

/-! ## What the takers give -/

theorem bind_ok {α β : Type} {x : Except Flaw α} {f : α → Except Flaw β} {r : β}
    (h : x >>= f = .ok r) : ∃ a, x = .ok a ∧ f a = .ok r := by
  cases x with
  | error flaw => cases h
  | ok a => exact ⟨a, rfl, h⟩

theorem grammar_ok {α : Type} {reader : Json.Reader α} {cs rest : List Char} {x : α}
    (h : grammar reader cs = .ok (x, rest)) : reader cs = some (x, rest) := by
  rw [grammar] at h
  split at h
  · next heq =>
      cases h
      exact heq
  · cases h

theorem inWord_of_idOf {j : Json} {n : Int} (h : idOf j = .ok n) : inWord n = true := by
  unfold idOf at h
  split at h
  · split at h
    · next hword =>
        cases h
        exact hword
    · cases h
  · cases h
  · split at h
    · next hid =>
        cases h
        -- A string stands for an integer only if the integer fits.
        simp only [idOfString?, Option.ite_none_right_eq_some, Option.some.injEq] at hid
        obtain ⟨-, hword, rfl⟩ := hid
        exact hword
    · cases h
  · cases h

theorem inWord_of_takeId {cs rest : List Char} {n : Int} (h : takeId cs = .ok (n, rest)) :
    inWord n = true := by
  obtain ⟨⟨j, after⟩, -, h⟩ := bind_ok h
  obtain ⟨m, hm, heq⟩ := bind_ok h
  cases heq
  exact inWord_of_idOf hm

theorem proper_of_takeMap {cs rest : List Char} {d : Dict Json}
    (h : takeMap cs = .ok (d, rest)) : (Json.obj d).Proper := by
  rw [takeMap] at h
  split at h
  · obtain ⟨⟨j, after⟩, hj, heq⟩ := bind_ok h
    cases heq
    have hproper := Json.proper_of_value? (grammar_ok hj)
    cases j with
    | obj fields => exact hproper
    | null | bool _ | num _ | str _ | arr _ => exact proper_nil
  · cases h

theorem inWord_of_takeSize {cs rest : List Char} {n : Int} (h : takeSize cs = .ok (n, rest)) :
    inWord n = true := by
  simp only [takeSize] at h
  split at h
  · cases h
  · cases h
  · split at h
    · split at h
      · next hword =>
          cases h
          exact hword
      · cases h
    · cases h

theorem of_takeOptional {α : Type} {taker : Taker α} {cs rest : List Char} {x : α}
    (h : takeOptional taker cs = .ok (some x, rest)) : ∃ cs, taker cs = .ok (x, rest) := by
  rw [takeOptional] at h
  split at h
  · obtain ⟨_, -, heq⟩ := bind_ok h
    cases heq
  · obtain ⟨⟨y, after⟩, hy, heq⟩ := bind_ok h
    cases heq
    exact ⟨_, hy⟩

/-! ## Drafts -/

theorem Draft.formed_empty : Draft.Formed {} :=
  ⟨nofun, nofun, nofun, nofun, proper_nil, nofun⟩

/-- What a taker finds behind the colon of a member, put into a draft. -/
def takeInto {α : Type} (taker : Taker α) (put : α → Draft) (cs : List Char) :
    Except Flaw (Draft × List Char) := do
  let (x, rest) ← taker (← takeColon cs)
  .ok (put x, rest)

/-- The fields differ in their takers and in where they are kept. -/
theorem takeField_eq (draft : Draft) (key : String) (cs : List Char) :
    takeField draft key cs =
      if key = "id" then
        if draft.id.isSome then .error (.duplicate key)
        else takeInto takeId (fun n => { draft with id := some n }) cs
      else if key = "type" then
        if draft.type.isSome then .error (.duplicate key)
        else takeInto takeType (fun s => { draft with type := some s }) cs
      else if key = "body" then
        if draft.body.isSome then .error (.duplicate key)
        else takeInto takeMap (fun d => { draft with body := some d }) cs
      else if key = "payloadSize" then
        if draft.payloadSize.isSome then .error (.duplicate key)
        else takeInto (takeOptional takeSize) (fun n => { draft with payloadSize := some n }) cs
      else if key = "payloadTransferInfo" then
        if draft.payloadTransferInfo.isSome then .error (.duplicate key)
        else takeInto (takeOptional takeMap)
          (fun d => { draft with payloadTransferInfo := some d }) cs
      else takeInto (grammar (Json.value? fieldDepth))
        (fun v => { draft with extra := Dict.put key v draft.extra }) cs :=
  rfl

theorem of_takeInto {α : Type} {taker : Taker α} {put : α → Draft} {cs rest : List Char}
    {next : Draft} (h : takeInto taker put cs = .ok (next, rest)) :
    ∃ cs x rest, taker cs = .ok (x, rest) ∧ next = put x := by
  obtain ⟨after, -, h⟩ := bind_ok h
  obtain ⟨⟨x, after'⟩, hx, heq⟩ := bind_ok h
  cases heq
  exact ⟨after, x, _, hx, rfl⟩

/-- A member that is taken fits its field. -/
theorem Draft.Formed.takeField {draft next : Draft} {key : String} {cs rest : List Char}
    (h : draft.Formed) (hnext : takeField draft key cs = .ok (next, rest)) : next.Formed := by
  rw [takeField_eq] at hnext
  split_ifs at hnext with hid _ htype _ hbody _ hsize _ hinfo
  · obtain ⟨_, n, _, hn, rfl⟩ := of_takeInto hnext
    exact { h with id := fun m hm => Option.some.inj hm ▸ inWord_of_takeId hn }
  · obtain ⟨_, s, _, -, rfl⟩ := of_takeInto hnext
    exact { h with }
  · obtain ⟨_, d, _, hd, rfl⟩ := of_takeInto hnext
    exact { h with body := fun d' hd' => Option.some.inj hd' ▸ proper_of_takeMap hd }
  · obtain ⟨_, n, _, hn, rfl⟩ := of_takeInto hnext
    refine { h with size := fun m hm => ?_ }
    cases hm
    obtain ⟨_, hn⟩ := of_takeOptional hn
    exact inWord_of_takeSize hn
  · obtain ⟨_, d, _, hd, rfl⟩ := of_takeInto hnext
    refine { h with info := fun d' hd' => ?_ }
    cases hd'
    obtain ⟨_, hd⟩ := of_takeOptional hd
    exact proper_of_takeMap hd
  · obtain ⟨_, v, _, hv, rfl⟩ := of_takeInto hnext
    have hproper := Json.proper_of_value? (grammar_ok hv)
    refine { h with
      extra := proper_put h.extra key hproper
      unknown := fun e he => ?_ }
    rcases Dict.eq_or_mem_of_mem_put he with rfl | hmem
    · simp [known, hid, htype, hbody, hsize, hinfo]
    · exact h.unknown e hmem

/-- A member that is taken fits its field, as do those before it. -/
theorem Draft.Formed.takeMembers {draft next : Draft} {fuel : Nat} {cs rest : List Char}
    (h : draft.Formed) (hnext : takeMembers fuel draft cs = .ok (next, rest)) : next.Formed := by
  induction fuel generalizing draft cs with
  | zero => cases hnext
  | succ fuel ih =>
      obtain ⟨⟨draft', after⟩, hmember, hnext⟩ := bind_ok hnext
      have hformed : draft'.Formed := by
        rw [takeMember] at hmember
        split at hmember
        · obtain ⟨⟨key, after'⟩, -, hfield⟩ := bind_ok hmember
          exact h.takeField hfield
        · cases hmember
      simp only at hnext
      split at hnext
      · exact ih hformed hnext
      · cases hnext
        exact hformed
      · cases hnext

theorem Draft.Formed.finish {draft : Draft} {p : Packet} (h : draft.Formed)
    (hp : draft.finish = .ok p) : p.Formed := by
  rw [Draft.finish] at hp
  split at hp
  · cases hp
  · cases hp
  · next id type hid htype =>
      cases hp
      exact {
        id := h.id id hid
        body := by
          cases hbody : draft.body with
          | none => exact proper_nil
          | some d => exact h.body d hbody
        size := fun n hn => h.size n (Option.join_eq_some_iff.mp hn)
        info := fun d hd => h.info d (Option.join_eq_some_iff.mp hd)
        extra := h.extra
        unknown := h.unknown }

theorem formed_of_decode {cs : List Char} {p : Packet} (h : decode cs = .ok p) : p.Formed := by
  have hfinished : ∀ (draft : Draft) (rest : List Char), draft.Formed →
      (do let packet ← draft.finish
          if Json.skipBlank rest = [] then Except.ok packet else .error Flaw.malformed) =
        Except.ok p → p.Formed := by
    intro draft rest hdraft heq
    obtain ⟨q, hq, heq⟩ := bind_ok heq
    split at heq
    · cases heq
      exact hdraft.finish hq
    · cases heq
  rw [decode] at h
  split at h
  · simp only at h
    split at h
    · next rest _ => exact hfinished {} rest Draft.formed_empty h
    · obtain ⟨⟨draft, rest⟩, hdraft, h⟩ := bind_ok h
      exact hfinished draft rest (Draft.formed_empty.takeMembers hdraft) h
  · cases h

theorem formed_of_ofBytes {bytes : List UInt8} {p : Packet} (h : ofBytes bytes = .ok p) :
    p.Formed := by
  have hflaw : ofBytesFlaw bytes = .ok p := by
    rw [ofBytes] at h
    cases hresult : ofBytesFlaw bytes with
    | error flaw =>
        rw [hresult] at h
        cases h
    | ok q =>
        rw [hresult] at h
        cases h
        rfl
  rw [ofBytesFlaw] at hflaw
  split at hflaw
  · exact formed_of_decode hflaw
  · obtain ⟨_, -, heq⟩ := bind_ok hflaw
    cases heq

/-- Every packet there is has values that fit their fields. -/
theorem Built.formed {p : Packet} (h : Built p) : p.Formed := by
  induction h with
  | @make id type body hid hbody =>
      have hfields : (Json.obj (body.obj?.getD [])).Proper := by
        cases body with
        | obj fields => exact hbody
        | null | bool _ | num _ | str _ | arr _ => exact proper_nil
      exact ⟨hid, hfields, nofun, nofun, proper_nil, nofun⟩
  | withPayloadSize _ hsize ih =>
      exact { ih with size := fun n hn => Option.some.inj hn ▸ hsize }
  | withTransferInfo _ hinfo ih =>
      exact { ih with info := fun d hd => Option.some.inj hd ▸ hinfo }
  | set _ key hvalue ih => exact { ih with body := proper_put ih.body key hvalue }
  | remove _ key ih => exact { ih with body := proper_drop ih.body key }
  | ofBytes h => exact formed_of_ofBytes h

end Tether.Packet
