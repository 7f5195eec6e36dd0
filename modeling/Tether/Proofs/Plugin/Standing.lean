import Tether.Proofs.Plugin.Reload

/-!
# What a roster holds under one key

A roster keeps three dictionaries with the same keys: the instances at work, those that lack
what they cannot work without, and, of those at work, the ones that lack something they can
work without. A reload edits them here and there, a branch at a time. Seen under one key the
edits are few. `Judged` lists what considering a candidate can come to, with the answers that
lead there, and each of its cases says what becomes of all three at once.

No step touches another key than its own, in none of the three, so a walk over distinct keys
judges each candidate by what the roster held before (`Reload.judged_foldl`), and a reload does
no more than that to candidates (`Roster.judged_reload`). What is left over is forgotten if an
instance is at work under its key or lacks what it cannot work without. The third dictionary is
not asked: a key that only it knows stays in it, and `unfit` and `demoted` leave such keys
behind.
-/

namespace Tether.Plugin

/-- What a roster holds under a key. -/
structure Standing where
  atWork : Option Instance := none
  /-- Lacks what it cannot work without. -/
  inert : Option Instance := none
  /-- Entered as lacking something that it can work without. -/
  lacking : Option Instance := none
deriving DecidableEq, Repr

def Roster.standing (r : Roster) (key : String) : Standing :=
  ⟨Dict.find? r.loaded key, Dict.find? r.withoutPermissions key,
    Dict.find? r.withoutOptional key⟩

/-- What an instance is entered as that has what it cannot work without. -/
def Conduct.lacking? (c : Conduct) (i : Instance) : Option Instance :=
  if c.hasOptional then none else some i

/-- What considering a candidate can make of what is held under its key. -/
inductive Judged (conducts : String → Conduct) (c : Candidate) (s : Standing) : Standing → Prop
  | unwanted (enable : c.enable = false) : Judged conducts c s {}
  | unfit {i : Instance} (enable : c.enable = true) (old : s.atWork = some i)
      (compatible : (conducts i.maker).compatible = false) :
      Judged conducts c s { s with atWork := none }
  | demoted {i : Instance} (enable : c.enable = true) (old : s.atWork = some i)
      (compatible : (conducts i.maker).compatible = true)
      (required : (conducts i.maker).hasRequired = false) :
      Judged conducts c s { s with atWork := none, inert := some i }
  | kept {i : Instance} (enable : c.enable = true) (old : s.atWork = some i)
      (compatible : (conducts i.maker).compatible = true)
      (required : (conducts i.maker).hasRequired = true) :
      Judged conducts c s { s with lacking := (conducts i.maker).lacking? i }
  | unmade (enable : c.enable = true) (old : s.atWork = none)
      (creates : (conducts c.maker).creates = false) : Judged conducts c s s
  | unsuited (enable : c.enable = true) (old : s.atWork = none)
      (creates : (conducts c.maker).creates = true)
      (compatible : (conducts c.maker).compatible = false) : Judged conducts c s s
  | inert {i : Instance} (enable : c.enable = true) (old : s.atWork = none)
      (maker : i.maker = c.maker) (compatible : (conducts c.maker).compatible = true)
      (required : (conducts c.maker).hasRequired = false) :
      Judged conducts c s { s with inert := some i }
  | begun {i : Instance} (enable : c.enable = true) (old : s.atWork = none)
      (maker : i.maker = c.maker) (compatible : (conducts c.maker).compatible = true)
      (required : (conducts c.maker).hasRequired = true) :
      Judged conducts c s ⟨some i, none, (conducts c.maker).lacking? i⟩
  | failed (enable : c.enable = true) (old : s.atWork = none)
      (compatible : (conducts c.maker).compatible = true)
      (required : (conducts c.maker).hasRequired = true) : Judged conducts c s {}

namespace Reload

variable {r r' : Reload} {c : Candidate} {cs : List Candidate} {key other : String}
  {i : Instance}

/-! ## One key -/

theorem standing_remove (r : Reload) (key : String) :
    (r.remove key).roster.standing key = { r.roster.standing key with atWork := none } := by
  rw [Roster.standing, find?_remove, remove]
  split <;> rfl

theorem standing_forget (r : Reload) (key : String) :
    (r.forget key).roster.standing key =
      { r.roster.standing key with inert := none, lacking := none } := by
  simp [forget, Roster.standing]

theorem standing_dismiss (r : Reload) (key : String) :
    (r.dismiss key).roster.standing key = {} := by
  rw [dismiss, standing_forget, standing_remove]

theorem standing_checkOptional (r : Reload) (key : String) (i : Instance) :
    (r.checkOptional key i).roster.standing key =
      { r.roster.standing key with lacking := (r.shop.conduct i).lacking? i } := by
  rw [checkOptional, Conduct.lacking?, Roster.standing, Roster.standing]
  cases (r.shop.conduct i).hasOptional <;> simp

/-- What is held under a key once it is known whether its plugin is at work. -/
def answered (key : String) (answer : Bool × Reload) : Standing :=
  let s := answer.2.roster.standing key
  if answer.1 then s else { s with atWork := none }

theorem judged_keep (henable : c.enable = true)
    (hi : Dict.find? r.roster.loaded c.key = some i) :
    Judged r.shop.conducts c (r.roster.standing c.key) (answered c.key (r.keep c.key i)) := by
  have hold : (r.roster.standing c.key).atWork = some i := hi
  have hconduct : r.shop.conduct i = r.shop.conducts i.maker := rfl
  rw [keep]
  dsimp only
  rw [hconduct]
  split
  · next hcompatible => exact .unfit henable hold (by simpa using hcompatible)
  · next hcompatible =>
      have hcompatible : (r.shop.conducts i.maker).compatible = true := by simpa using hcompatible
      split
      · next hrequired =>
          have hdemoted := Judged.demoted henable hold hcompatible (by simpa using hrequired)
          simpa [answered, Roster.standing, finish] using hdemoted
      · next hrequired =>
          have hkept := Judged.kept henable hold hcompatible (by simpa using hrequired)
          rw [answered, if_pos rfl, standing_checkOptional]
          exact hkept

/-- A start goes well or leaves nothing behind. -/
theorem answered_start (r : Reload) (key : String) (i : Instance) :
    answered key (r.start key i) = ⟨some i, none, (r.shop.conduct i).lacking? i⟩ ∨
      answered key (r.start key i) = {} := by
  rw [start]
  dsimp only [Shop.start, checkOptional, finish]
  split
  · left
    simp only [answered, Roster.standing, Conduct.lacking?]
    cases (r.shop.conduct i).hasOptional <;> simp
  · right
    simp [answered, Roster.standing]
  · right
    simp [answered, Roster.standing]

theorem judged_make (owner : Owner) (henable : c.enable = true)
    (hnone : Dict.find? r.roster.loaded c.info.key = none) :
    Judged r.shop.conducts c (r.roster.standing c.key) (answered c.key (r.make owner c)) := by
  have hold : (r.roster.standing c.key).atWork = none := hnone
  have hconducts := r.shop.conducts_create c.maker c.info.key owner
  have hidle : ∀ shop, answered c.key (false, { r with shop }) = r.roster.standing c.key := by
    intro shop
    simp [answered, Roster.standing, Candidate.key, hnone]
  rw [make]
  split
  · next shop hmade =>
      rw [hidle]
      exact .unmade henable hold (Shop.create_refused hmade)
  · next i shop hmade =>
      obtain ⟨hcreates, -, hmaker⟩ := Shop.create_made hmade
      rw [hmade] at hconducts
      have hconduct : shop.conduct i = r.shop.conducts c.maker := by
        rw [← hconducts, ← hmaker]
        rfl
      dsimp only
      rw [hconduct]
      split
      · next hcompatible =>
          rw [hidle]
          exact .unsuited henable hold hcreates (by simpa using hcompatible)
      · next hcompatible =>
          have hcompatible : (r.shop.conducts c.maker).compatible = true := by
            simpa using hcompatible
          split
          · next hrequired =>
              have hinert := Judged.inert henable hold hmaker hcompatible (by simpa using hrequired)
              simpa [answered, Roster.standing, Candidate.key, hnone] using hinert
          · next hrequired =>
              have hrequired : (r.shop.conducts c.maker).hasRequired = true := by
                simpa using hrequired
              rcases answered_start { r with shop } c.info.key i with hbegun | hfailed
              · rw [Candidate.key, hbegun, hconduct]
                exact .begun henable hold hmaker hcompatible hrequired
              · rw [Candidate.key, hfailed]
                exact .failed henable hold hcompatible hrequired

theorem judged_add (owner : Owner) (r : Reload) (henable : c.enable = true) :
    Judged r.shop.conducts c (r.roster.standing c.key) (answered c.key (r.add owner c)) := by
  rw [add]
  split
  · next i hi => exact judged_keep henable hi
  · next hnone => exact judged_make owner henable hnone

theorem judged_consider (owner : Owner) (r : Reload) (c : Candidate) :
    Judged r.shop.conducts c (r.roster.standing c.key)
      ((consider owner r c).roster.standing c.key) := by
  simp only [consider]
  by_cases henable : c.enable = true
  · have hadd := judged_add owner r henable
    rw [if_pos henable]
    split
    · next hactive =>
        rw [answered, if_pos hactive] at hadd
        split <;> exact hadd
    · next hinactive =>
        rw [answered, if_neg hinactive] at hadd
        rw [← Candidate.key, standing_remove]
        exact hadd
  · rw [if_neg henable, if_neg (by simp), if_neg henable, ← Candidate.key, standing_forget,
      standing_remove]
    exact .unwanted (by simpa using henable)

/-! ## The other keys -/

/-- Nothing changed but under a key. -/
def Beside (key : String) (r r' : Reload) : Prop :=
  ∀ other, other ≠ key → r'.roster.standing other = r.roster.standing other

theorem Beside.trans {r'' : Reload} (h : Beside key r r') (h' : Beside key r' r'') :
    Beside key r r'' :=
  fun other hne => (h' other hne).trans (h other hne)

theorem beside_checkOptional (r : Reload) (key : String) (i : Instance) :
    Beside key r (r.checkOptional key i) := by
  intro other hne
  rw [checkOptional, Roster.standing, Roster.standing]
  cases (r.shop.conduct i).hasOptional
  · simp [Dict.find?_put_of_ne hne.symm]
  · simp [Dict.find?_drop_of_ne hne.symm]

theorem beside_remove (r : Reload) (key : String) : Beside key r (r.remove key) := by
  intro other hne
  rw [remove]
  split
  · simp [finish, Roster.standing, Dict.find?_drop_of_ne hne.symm]
  · rfl

theorem beside_forget (r : Reload) (key : String) : Beside key r (r.forget key) := by
  intro other hne
  simp [forget, Roster.standing, Dict.find?_drop_of_ne hne.symm]

theorem beside_keep (r : Reload) (key : String) (i : Instance) :
    Beside key r (r.keep key i).2 := by
  rw [keep]
  dsimp only
  split
  · exact fun _ _ => rfl
  · split
    · intro other hne
      simp [finish, Roster.standing, Dict.find?_drop_of_ne hne.symm,
        Dict.find?_put_of_ne hne.symm]
    · exact beside_checkOptional r key i

theorem beside_start (r : Reload) (key : String) (i : Instance) :
    Beside key r (r.start key i).2 := by
  have hchecked : Beside key r
      ({ r with roster.withoutPermissions :=
        Dict.drop key r.roster.withoutPermissions }.checkOptional key i) := by
    refine Beside.trans ?_ (beside_checkOptional _ key i)
    intro other hne
    simp [Roster.standing, Dict.find?_drop_of_ne hne.symm]
  rw [start]
  refine hchecked.trans ?_
  generalize Reload.checkOptional _ key i = r
  dsimp only
  split <;> intro other hne <;>
    simp [finish, Roster.standing, Dict.find?_drop_of_ne hne.symm, Dict.find?_put_of_ne hne.symm]

theorem beside_add (owner : Owner) (r : Reload) (c : Candidate) :
    Beside c.key r (r.add owner c).2 := by
  rw [add]
  split
  · exact beside_keep r c.key _
  · rw [make]
    split
    · exact fun _ _ => rfl
    · next i shop hmade =>
        dsimp only
        split
        · exact fun _ _ => rfl
        · split
          · intro other hne
            rw [Candidate.key] at hne
            simp [Roster.standing, Dict.find?_put_of_ne hne.symm]
          · exact beside_start { r with shop } c.key i

theorem beside_consider (owner : Owner) (r : Reload) (c : Candidate) :
    Beside c.key r (consider owner r c) := by
  have hadd := beside_add owner r c
  simp only [consider]
  by_cases henable : c.enable = true
  · rw [if_pos henable]
    split
    · split <;> exact hadd
    · exact hadd.trans (beside_remove _ _)
  · rw [if_neg henable, if_neg (by simp), if_neg henable]
    exact (beside_remove r c.key).trans (beside_forget _ _)

/-! ## Walks -/

/-- Each candidate is judged by what was held when the walk began. -/
theorem judged_foldl (owner : Owner) (r : Reload) (hkeys : (cs.map Candidate.key).Nodup) :
    (∀ c ∈ cs, Judged r.shop.conducts c (r.roster.standing c.key)
      ((cs.foldl (consider owner) r).roster.standing c.key)) ∧
    ∀ key, key ∉ cs.map Candidate.key →
      (cs.foldl (consider owner) r).roster.standing key = r.roster.standing key := by
  induction cs generalizing r with
  | nil => exact ⟨nofun, fun _ _ => rfl⟩
  | cons c rest ih =>
      obtain ⟨hfresh, hrest⟩ := List.nodup_cons.mp hkeys
      obtain ⟨hjudged, hothers⟩ := ih (consider owner r c) hrest
      have hbeside := beside_consider owner r c
      rw [List.foldl_cons]
      refine ⟨?_, ?_⟩
      · intro d hd
        rcases List.mem_cons.mp hd with rfl | hmem
        · rw [hothers _ hfresh]
          exact judged_consider owner r d
        · have hne : d.key ≠ c.key := by
            intro heq
            exact hfresh (heq ▸ List.mem_map_of_mem hmem)
          have hd := hjudged d hmem
          rwa [consider_untouched Shop.conducts_untouched, hbeside _ hne] at hd
      · intro key hkey
        rw [List.map_cons, List.mem_cons, not_or] at hkey
        rw [hothers key hkey.2, hbeside key hkey.1]

theorem standing_foldl_dismiss (keys : List String) (r : Reload) (key : String) :
    (keys.foldl dismiss r).roster.standing key =
      if key ∈ keys then {} else r.roster.standing key := by
  induction keys generalizing r with
  | nil => rfl
  | cons k rest ih =>
      rw [List.foldl_cons, ih]
      by_cases hmem : key ∈ rest
      · simp [hmem]
      · by_cases hk : key = k
        · rw [hk, standing_dismiss]
          simp
        · have hbeside := (beside_remove r k).trans (beside_forget _ k)
          rw [if_neg hmem, if_neg (by simp [hk, hmem]), dismiss, hbeside key hk]

/-- A key is stale if an instance is at work under it or lacks what it cannot work without. Those
that only lack something else are not looked at. -/
theorem mem_stale {considered : List String} :
    key ∈ r.stale considered ↔ ((r.roster.standing key).atWork.isSome ∨
      (r.roster.standing key).inert.isSome) ∧ key ∉ considered := by
  rw [stale, List.mem_filter, List.mem_append, ← Dict.isSome_find?_iff, ← Dict.isSome_find?_iff]
  simp [Roster.standing]

end Reload

namespace Roster

variable {cs : List Candidate}

/-- What a reload does to the standing under each key. -/
theorem judged_reload (roster : Roster) (shop : Shop) (owner : Owner)
    (hkeys : (cs.map Candidate.key).Nodup) :
    (∀ c ∈ cs, Judged shop.conducts c (roster.standing c.key)
      ((roster.reload shop owner cs).1.standing c.key)) ∧
    ∀ key, key ∉ cs.map Candidate.key → (roster.reload shop owner cs).1.standing key =
      if (roster.standing key).atWork.isSome ∨ (roster.standing key).inert.isSome then {}
      else roster.standing key := by
  obtain ⟨hjudged, hothers⟩ := Reload.judged_foldl owner ⟨roster, shop, []⟩ hkeys
  have hfind : ∀ key, (roster.reload shop owner cs).1.standing key = _ :=
    fun key => Reload.standing_foldl_dismiss _ _ key
  refine ⟨?_, ?_⟩
  · intro c hc
    rw [hfind, if_neg (Reload.not_mem_stale (List.mem_map_of_mem hc) _)]
    exact hjudged c hc
  · intro key hkey
    have hother : key ∉ cs.map fun c => c.info.key := hkey
    rw [hfind]
    simp only [Reload.mem_stale, hothers key hkey, hother, not_false_eq_true, and_true]

end Roster

end Tether.Plugin
