import Tether.Packet.Basic

/-!
# Types in two spellings

A type of the protocol may begin with `kdeconnect.` or with `cconnect.`, and a packet is asked
for its type without regard to this. The question is put together from prefixes of the one type
and of the other, and not in the same way for both. It comes to the same as if both were written
in the first spelling beforehand (`canonical`), and so to an equality.

From this everything else follows, and it is `isType_canonical`. The types that a packet answers
to are a class of an equivalence. Two types that begin in either way are of one class if they go
on alike, and any other type is alone in its class.
-/

namespace Tether

namespace Packet

theorem after?_eq_some {lead type : String} {rest : List Char} :
    after? lead type = some rest ↔ type.toList = lead.toList ++ rest := by
  rw [after?]
  constructor
  · intro h
    split at h
    · next hlead =>
        obtain ⟨more, hmore⟩ := List.isPrefixOf_iff_prefix.mp hlead
        cases h
        rw [← hmore, ← String.length_toList, List.drop_left]
    · cases h
  · intro h
    rw [if_pos (List.isPrefixOf_iff_prefix.mpr ⟨rest, h.symm⟩), h, ← String.length_toList,
      List.drop_left]

theorem after?_eq_some_toList {lead type rest : String} :
    after? lead type = some rest.toList ↔ type = lead ++ rest := by
  rw [after?_eq_some, ← String.toList_append, String.toList_inj]

theorem after?_cconnect (rest : String) : after? "cconnect." ("kdeconnect." ++ rest) = none := by
  rw [Option.eq_none_iff_forall_ne_some]
  intro more h
  rw [after?_eq_some, String.toList_append] at h
  exact absurd (List.cons.inj h).1 (by decide)

theorem after?_kdeconnect (rest : String) : after? "kdeconnect." ("cconnect." ++ rest) = none := by
  rw [Option.eq_none_iff_forall_ne_some]
  intro more h
  rw [after?_eq_some, String.toList_append] at h
  exact absurd (List.cons.inj h).1 (by decide)

theorem sameType_kdeconnect (rest asked : String) :
    sameType ("kdeconnect." ++ rest) asked = true ↔
      asked = "kdeconnect." ++ rest ∨ asked = "cconnect." ++ rest := by
  have hown := after?_eq_some_toList.mpr (Eq.refl ("kdeconnect." ++ rest))
  have hother : after? "cconnect." asked = some rest.toList ↔ asked = "cconnect." ++ rest :=
    after?_eq_some_toList
  rw [sameType, hown, after?_cconnect, ← hother]
  by_cases hsame : "kdeconnect." ++ rest = asked
  · simp [hsame]
  · rw [if_neg hsame]
    cases hc : after? "cconnect." asked with
    | some more => simp [Ne.symm hsame, eq_comm]
    | none => cases hk : after? "kdeconnect." asked <;> simp [Ne.symm hsame]

theorem sameType_cconnect (rest asked : String) :
    sameType ("cconnect." ++ rest) asked = true ↔
      asked = "kdeconnect." ++ rest ∨ asked = "cconnect." ++ rest := by
  have hown := after?_eq_some_toList.mpr (Eq.refl ("cconnect." ++ rest))
  rw [sameType, hown, after?_kdeconnect]
  by_cases hsame : "cconnect." ++ rest = asked
  · simp [hsame]
  · rw [if_neg hsame]
    cases hc : after? "cconnect." asked with
    | some more =>
        have hnot : asked ≠ "kdeconnect." ++ rest := by
          rintro rfl
          rw [after?_cconnect] at hc
          cases hc
        simp [Ne.symm hsame, hnot]
    | none =>
        have hother : after? "kdeconnect." asked = some rest.toList ↔
            asked = "kdeconnect." ++ rest := after?_eq_some_toList
        rw [← hother]
        cases hk : after? "kdeconnect." asked <;> simp [Ne.symm hsame, eq_comm]

/-- Whoever asks a packet for its type cannot tell the spellings apart. -/
theorem isType_either {p q : Packet} {rest : String} (hp : p.type = "kdeconnect." ++ rest)
    (hq : q.type = "cconnect." ++ rest) (asked : String) : q.isType asked = p.isType asked := by
  rw [isType, isType, hp, hq, Bool.eq_iff_iff, sameType_kdeconnect, sameType_cconnect]

theorem isType_pair {p : Packet} {rest : String} (hp : p.type = "kdeconnect." ++ rest) :
    p.isType pairType = true ↔ rest = "pair" := by
  have hafter : after? "kdeconnect." pairType = some "pair".toList := by decide
  have hnot : after? "cconnect." pairType = none := by decide
  rw [isType, hp, sameType_kdeconnect, ← after?_eq_some_toList, ← after?_eq_some_toList, hafter,
    hnot, Option.some_inj, String.toList_inj]
  simp [eq_comm]

/-! ## The first spelling -/

/-- The type in the first spelling, if it is in the second. What follows the beginning is left
as it is, also where it looks like a beginning again. -/
def canonical (type : String) : String :=
  match after? "cconnect." type with
  | some rest => "kdeconnect." ++ String.ofList rest
  | none => type

/-- A type begins in one of the two ways, and goes on with the rest. -/
def Prefixed (type rest : String) : Prop :=
  type = "kdeconnect." ++ rest ∨ type = "cconnect." ++ rest

/-- A type that begins in neither way. -/
def Unprefixed (type : String) : Prop :=
  ∀ rest, ¬ Prefixed type rest

/-- A packet of one type is of another too. -/
def Covers (own asked : String) : Prop :=
  ∀ p : Packet, p.type = own → p.isType asked = true

variable {own asked type rest : String}

theorem unprefixed_iff :
    Unprefixed type ↔ after? "kdeconnect." type = none ∧ after? "cconnect." type = none := by
  have hnone : ∀ lead, after? lead type = none ↔ ∀ rest, type ≠ lead ++ rest := by
    intro lead
    rw [Option.eq_none_iff_forall_ne_some]
    constructor
    · intro h rest hrest
      exact h rest.toList (after?_eq_some_toList.mpr hrest)
    · intro h more hmore
      rw [← String.toList_ofList (l := more), after?_eq_some_toList] at hmore
      exact h _ hmore
  simp only [Unprefixed, Prefixed, not_or, hnone, forall_and]

instance (type : String) : Decidable (Unprefixed type) :=
  decidable_of_iff _ unprefixed_iff.symm

theorem canonical_prefixed (h : Prefixed type rest) : canonical type = "kdeconnect." ++ rest := by
  rcases h with rfl | rfl
  · rw [canonical, after?_cconnect]
  · rw [canonical, after?_eq_some_toList.mpr (Eq.refl ("cconnect." ++ rest))]
    simp only [String.ofList_toList]

theorem canonical_unprefixed (h : Unprefixed type) : canonical type = type := by
  rw [canonical, (unprefixed_iff.mp h).2]

theorem prefixed_or_not (type : String) : (∃ rest, Prefixed type rest) ∨ Unprefixed type := by
  by_cases h : ∃ rest, Prefixed type rest
  · exact .inl h
  · exact .inr fun rest hrest => h ⟨rest, hrest⟩

theorem canonical_eq_iff_prefixed : canonical type = "kdeconnect." ++ rest ↔ Prefixed type rest := by
  refine ⟨fun h => ?_, canonical_prefixed⟩
  rcases prefixed_or_not type with ⟨own, hown⟩ | hunprefixed
  · rw [canonical_prefixed hown, String.append_right_inj] at h
    exact h ▸ hown
  · rw [canonical_unprefixed hunprefixed] at h
    exact .inl h

theorem canonical_eq_iff_of_unprefixed (h : Unprefixed own) :
    canonical own = canonical asked ↔ own = asked := by
  rw [canonical_unprefixed h]
  rcases prefixed_or_not asked with ⟨rest, hrest⟩ | hunprefixed
  · rw [canonical_prefixed hrest]
    constructor
    · rintro rfl
      exact absurd (.inl rfl) (h rest)
    · rintro rfl
      exact absurd hrest (h rest)
  · rw [canonical_unprefixed hunprefixed]

/-! ## What a packet answers to -/

theorem sameType_prefixed (h : Prefixed own rest) :
    sameType own asked = true ↔ Prefixed asked rest := by
  rcases h with rfl | rfl
  · exact sameType_kdeconnect rest asked
  · exact sameType_cconnect rest asked

theorem sameType_unprefixed (h : Unprefixed own) : sameType own asked = true ↔ own = asked := by
  rw [sameType, (unprefixed_iff.mp h).1, (unprefixed_iff.mp h).2]
  by_cases hsame : own = asked
  · simp [hsame]
  · rw [if_neg hsame]
    cases hc : after? "cconnect." asked with
    | some more => simp [hsame]
    | none => cases hk : after? "kdeconnect." asked <;> simp [hsame]

/-- Types are the same if their first spellings are equal. -/
theorem sameType_iff : sameType own asked = true ↔ canonical own = canonical asked := by
  rcases prefixed_or_not own with ⟨rest, hrest⟩ | hunprefixed
  · rw [sameType_prefixed hrest, canonical_prefixed hrest, eq_comm, canonical_eq_iff_prefixed]
  · rw [sameType_unprefixed hunprefixed, canonical_eq_iff_of_unprefixed hunprefixed]

theorem covers_iff : Covers own asked ↔ canonical own = canonical asked := by
  rw [← sameType_iff]
  constructor
  · intro h
    exact h { id := 0, type := own } rfl
  · rintro h p rfl
    exact h

theorem equivalence_covers : Equivalence Covers where
  refl _ := covers_iff.mpr rfl
  symm h := covers_iff.mpr (covers_iff.mp h).symm
  trans h h' := covers_iff.mpr ((covers_iff.mp h).trans (covers_iff.mp h'))

/-- A packet is of the types whose first spelling is that of its own type. That makes the types
fall into classes: what goes on alike after one beginning or the other, and every other type on
its own. -/
theorem isType_canonical :
    (∀ (p : Packet) (asked : String),
      p.isType asked = true ↔ canonical p.type = canonical asked) ∧
    Equivalence Covers ∧
    (∀ own asked rest rest' : String, Prefixed own rest → Prefixed asked rest' →
      (Covers own asked ↔ rest = rest')) ∧
    ∀ own asked : String, Unprefixed own ∨ Unprefixed asked → (Covers own asked ↔ own = asked) := by
  refine ⟨fun p asked => sameType_iff, equivalence_covers, ?_, ?_⟩
  · intro own asked rest rest' hown hasked
    rw [covers_iff, canonical_prefixed hown, canonical_prefixed hasked, String.append_right_inj]
  · rintro own asked (hown | hasked)
    · rw [covers_iff, canonical_eq_iff_of_unprefixed hown]
    · rw [covers_iff, eq_comm, canonical_eq_iff_of_unprefixed hasked, eq_comm]

/-- A beginning that comes twice, and one that is cut short. -/
theorem isType_canonical_nested :
    canonical "cconnect.kdeconnect.pair" = "kdeconnect.kdeconnect.pair" ∧
      Covers "cconnect.kdeconnect.pair" "kdeconnect.kdeconnect.pair" ∧
      ¬ Covers "cconnect.kdeconnect.pair" pairType ∧
      ¬ Covers "kdeconnect" "cconnect" := by
  obtain ⟨-, -, hprefixed, hunprefixed⟩ := isType_canonical
  have hown : Prefixed "cconnect.kdeconnect.pair" "kdeconnect.pair" := .inr (by decide)
  have hshort : Unprefixed "kdeconnect" := by decide
  refine ⟨by decide, ?_, ?_, ?_⟩
  · exact (hprefixed _ _ _ _ hown (.inl (by decide))).mpr rfl
  · rw [hprefixed _ _ _ "pair" hown (.inl (by decide))]
    decide
  · rw [hunprefixed _ _ (.inl hshort)]
    decide

end Packet

end Tether
