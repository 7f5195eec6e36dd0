import Tether.Bench
import Tether.Proofs.Plugin.Reload

/-!
# From making an instance to its end

An instance is made, started and ended, and all three are calls, so the notes of a shop tell
the career of each instance. There are few careers (`careers`), and what a roster holds can be
read off them: at work under a key is the one instance of that key whose start went well and
that was not ended. This is the invariant `Staffed`, and it ties the notes, the instances at
work and the numbers of the makers together. The numbers are part of it because a new instance
has to be one that no note is about.

Whatever a reload does to an instance is a few calls in a row, and no call concerns more than
one instance and one key. So everything goes through a single lemma about one call
(`Staffed.call`): it is enough to say which career the call makes of its instance, and that
the key holds the instance just if that career is the one of an instance at work. In the middle
of a step this is true as well. A plugin whose start failed is noted as such before it is
ended, which is why that too is a career.

The notes of a call start from nothing, so the careers carry a past, what was noted before.
The table is no part of the walk: that it lists the instances at work follows afterwards, from
what a reload comes to (`Roster.Reloaded`).
-/

namespace Tether.Plugin

/-- A turn in the life of an instance. -/
inductive Phase where
  | made
  | started (outcome : Outcome)
  | ended
deriving DecidableEq, Repr

def Phase.isStart : Phase → Bool
  | started _ => true
  | _ => false

def Note.phase? : Note → Option Phase
  | created _ _ => some .made
  | onCreate outcome => some (.started outcome)
  | onDestroy _ => some .ended
  | _ => none

/-- What became of an instance according to notes, in order. -/
def career (i : Instance) (notes : List (Instance × Note)) : List Phase :=
  notes.filterMap fun n => if n.1 = i then n.2.phase? else none

/-- An instance is made before anything else, and once; it is started and ended at most once, and
ended only when it was started. -/
structure Tenure (c : List Phase) : Prop where
  made : c ≠ [] → c.head? = some .made ∧ c.count .made = 1
  started : c.countP Phase.isStart ≤ 1
  ended : c.count .ended ≤ 1
  order : .ended ∈ c → ∃ outcome, List.Sublist [.started outcome, .ended] c

/-- The start went well, and the end is yet to come. -/
def AtWork (c : List Phase) : Prop :=
  .started .ok ∈ c ∧ .ended ∉ c

instance (c : List Phase) : Decidable (AtWork c) :=
  inferInstanceAs (Decidable (_ ∧ _))

/-- The careers there are. -/
def careers : List (List Phase) :=
  [[], [.made], [.made, .started .ok], [.made, .started .ok, .ended],
    [.made, .started .fail], [.made, .started .fail, .ended], [.made, .started .crash]]

theorem tenure_of_mem {c : List Phase} (h : c ∈ careers) : Tenure c := by
  have hmade : ∀ c ∈ careers, c ≠ [] → c.head? = some .made ∧ c.count .made = 1 := by decide
  have hcounts : ∀ c ∈ careers, c.countP Phase.isStart ≤ 1 ∧ c.count .ended ≤ 1 := by decide
  have horder : ∀ c ∈ careers, .ended ∈ c → ∃ outcome ∈ [Outcome.ok, .fail, .crash],
      List.Sublist [.started outcome, .ended] c := by decide
  refine ⟨hmade c h, (hcounts c h).1, (hcounts c h).2, ?_⟩
  intro hended
  obtain ⟨outcome, -, hsublist⟩ := horder c h hended
  exact ⟨outcome, hsublist⟩

theorem atWork_iff_eq {c : List Phase} (h : c ∈ careers) :
    AtWork c ↔ c = [.made, .started .ok] := by
  have hall : ∀ c ∈ careers, AtWork c ↔ c = [.made, .started .ok] := by decide
  exact hall c h

theorem career_append (i : Instance) (notes more : List (Instance × Note)) :
    career i (notes ++ more) = career i notes ++ career i more :=
  List.filterMap_append

theorem career_singleton_self (i : Instance) (n : Note) :
    career i [(i, n)] = n.phase?.toList := by
  cases h : n.phase? <;> simp [career, h]

theorem career_singleton_of_ne {i j : Instance} (h : j ≠ i) (n : Note) :
    career j [(i, n)] = [] := by
  simp [career, Ne.symm h]

/-! ## The instances at work, and the notes -/

variable {past : Instance → List Phase} {loaded loaded' : Dict Instance} {shop shop' : Shop}
  {i : Instance} {n : Note} {key : String}

/-- The career of an instance, with what was noted of it before. -/
def Shop.record (past : Instance → List Phase) (shop : Shop) (i : Instance) : List Phase :=
  past i ++ career i shop.notes

/-- At work under each key is the instance whose career says so. Of an instance that its maker did
not come to yet nothing is noted. -/
structure Staffed (past : Instance → List Phase) (loaded : Dict Instance) (shop : Shop) :
    Prop where
  own : ∀ key i, Dict.find? loaded key = some i → i.key = key
  possible : ∀ i, shop.record past i ∈ careers
  atWork : ∀ i, Dict.find? loaded i.key = some i ↔
    shop.record past i = [.made, .started .ok]
  unmade : ∀ i, (shop.maker i.maker).made < i.number → shop.record past i = []

theorem Shop.record_call (hnotes : shop'.notes = shop.notes ++ [(i, n)]) :
    shop'.record past i = shop.record past i ++ n.phase?.toList := by
  rw [record, record, hnotes, career_append, career_singleton_self, List.append_assoc]

theorem Shop.record_call_of_ne (hnotes : shop'.notes = shop.notes ++ [(i, n)]) {j : Instance}
    (h : j ≠ i) : shop'.record past j = shop.record past j := by
  rw [record, record, hnotes, career_append, career_singleton_of_ne h, List.append_nil]

theorem Staffed.number_le (h : Staffed past loaded shop) (hi : shop.record past i ≠ []) :
    i.number ≤ (shop.maker i.maker).made := by
  by_contra hlt
  exact hi (h.unmade i (by omega))

/-- A call about an instance under a key that no other instance has. -/
theorem Staffed.call (h : Staffed past loaded shop)
    (hnotes : shop'.notes = shop.notes ++ [(i, n)])
    (hmade : ∀ id, (shop.maker id).made ≤ (shop'.maker id).made)
    (hnumber : i.number ≤ (shop'.maker i.maker).made)
    (hfree : ∀ j, Dict.find? loaded i.key = some j → j = i)
    (hothers : ∀ key, key ≠ i.key → Dict.find? loaded' key = Dict.find? loaded key)
    (hpossible : shop'.record past i ∈ careers)
    (hwork : Dict.find? loaded' i.key =
      if shop'.record past i = [.made, .started .ok] then some i else none) :
    Staffed past loaded' shop' := by
  have hsame : ∀ j, j ≠ i → shop'.record past j = shop.record past j :=
    fun j hj => Shop.record_call_of_ne hnotes hj
  refine ⟨?_, ?_, ?_, ?_⟩
  · intro key j hj
    by_cases hkey : key = i.key
    · rw [hkey, hwork] at hj
      split at hj
      · cases hj
        exact hkey.symm
      · cases hj
    · rw [hothers key hkey] at hj
      exact h.own key j hj
  · intro j
    by_cases hj : j = i
    · rw [hj]
      exact hpossible
    · rw [hsame j hj]
      exact h.possible j
  · intro j
    by_cases hj : j = i
    · rw [hj, hwork]
      split <;> simp_all
    · rw [hsame j hj, ← h.atWork j]
      by_cases hkey : j.key = i.key
      · -- The key is taken by nobody but the instance that the call is about.
        have hnot : Dict.find? loaded j.key ≠ some j := by
          intro hfind
          rw [hkey] at hfind
          exact hj (hfree j hfind)
        have hnot' : Dict.find? loaded' j.key ≠ some j := by
          rw [hkey, hwork]
          intro hfind
          split at hfind
          · exact hj (Option.some.inj hfind).symm
          · cases hfind
        simp only [hnot, hnot']
      · rw [hothers j.key hkey]
  · intro j hlt
    have hj : j ≠ i := by
      intro heq
      rw [heq] at hlt
      omega
    rw [hsame j hj]
    have := hmade j.maker
    exact h.unmade j (by omega)

/-- Only the careers count, not how they are divided between the past and the notes. -/
theorem Staffed.of_record (h : Staffed past loaded shop) {past' : Instance → List Phase}
    (hrecord : ∀ i, shop'.record past' i = shop.record past i)
    (hmade : ∀ id, (shop.maker id).made ≤ (shop'.maker id).made) :
    Staffed past' loaded shop' := by
  refine ⟨h.own, ?_, ?_, ?_⟩
  · intro i
    rw [hrecord]
    exact h.possible i
  · intro i
    rw [hrecord]
    exact h.atWork i
  · intro i hlt
    have := hmade i.maker
    rw [hrecord]
    exact h.unmade i (by omega)

/-- What is noted need not be about a career. -/
theorem Staffed.aside (h : Staffed past loaded shop) (hn : n.phase? = none) :
    Staffed past loaded (shop.note i n) := by
  refine h.of_record ?_ fun _ => Nat.le_refl _
  intro j
  by_cases hj : j = i
  · rw [hj, Shop.record_call rfl, hn]
    exact List.append_nil _
  · exact Shop.record_call_of_ne rfl hj

/-- Which dictionary holds the instances at work makes no difference. -/
theorem Staffed.of_find? (h : Staffed past loaded shop)
    (heq : ∀ key, Dict.find? loaded' key = Dict.find? loaded key) :
    Staffed past loaded' shop := by
  refine ⟨?_, h.possible, ?_, h.unmade⟩
  · intro key i hi
    rw [heq] at hi
    exact h.own key i hi
  · intro i
    rw [heq]
    exact h.atWork i

/-! ## Calls -/

theorem Staffed.create (h : Staffed past loaded shop) {id : String} {owner : Owner}
    (hfree : Dict.find? loaded key = none)
    (hcreate : shop.create id key owner = (some i, shop')) :
    Staffed past loaded shop' ∧ i.key = key ∧ shop'.record past i = [.made] := by
  rw [Shop.create] at hcreate
  split at hcreate
  · cases hcreate
    generalize hi : Instance.mk key id ((shop.maker id).made + 1) = i
    have hkey : i.key = key := by rw [← hi]
    have hmaker : i.maker = id := by rw [← hi]
    have hnumber : i.number = (shop.maker id).made + 1 := by rw [← hi]
    have hnew : shop.record past i = [] := h.unmade i (by rw [hmaker]; omega)
    have hrecord : ∀ shop' : Shop,
        shop'.notes = shop.notes ++ [(i, .created owner.id owner.paired)] →
        shop'.record past i = [.made] := by
      intro shop' hnotes
      rw [Shop.record_call hnotes, hnew]
      rfl
    refine ⟨h.call rfl ?_ ?_ ?_ (fun _ _ => rfl) ?_ ?_, hkey, hrecord _ rfl⟩
    · intro other
      by_cases hother : id = other
      · rw [← hother]
        simp [Shop.maker, Shop.note]
      · simp [Shop.maker, Shop.note, Dict.find?_put_of_ne hother]
    · rw [hmaker, hnumber]
      simp [Shop.maker, Shop.note]
    · intro j hj
      rw [hkey, hfree] at hj
      cases hj
    · rw [hrecord _ rfl]
      decide
    · rw [hrecord _ rfl, hkey, hfree]
      rfl
  · cases hcreate

theorem Staffed.refused (h : Staffed past loaded shop) {id : String} {owner : Owner}
    (hcreate : shop.create id key owner = (none, shop')) : Staffed past loaded shop' := by
  rw [Shop.create] at hcreate
  split at hcreate
  · cases hcreate
  · cases hcreate
    exact h.aside rfl

/-- The start of an instance that was made, with its key taken just if the start goes well. -/
theorem Staffed.start (h : Staffed past loaded shop) (loaded' : Dict Instance)
    (hfree : Dict.find? loaded i.key = none) (hmade : shop.record past i = [.made])
    (hothers : ∀ key, key ≠ i.key → Dict.find? loaded' key = Dict.find? loaded key)
    (hwork : Dict.find? loaded' i.key = if (shop.start i).1 = .ok then some i else none) :
    Staffed past loaded' (shop.start i).2 ∧
      (shop.start i).2.record past i = [.made, .started (shop.start i).1] := by
  have hrecord : (shop.start i).2.record past i = [.made, .started (shop.start i).1] := by
    rw [Shop.record_call (i := i) rfl, hmade]
    rfl
  have hnumber := h.number_le (i := i) (by rw [hmade]; simp)
  refine ⟨h.call rfl (fun _ => Nat.le_refl _) hnumber ?_ hothers ?_ ?_, hrecord⟩
  · intro j hj
    rw [hfree] at hj
    cases hj
  · rw [hrecord]
    cases (shop.start i).1 <;> decide
  · rw [hrecord, hwork]
    simp

/-- The end of an instance, at work or after a start that failed. Either way its key is free
afterwards. -/
theorem Staffed.finish (h : Staffed past loaded shop)
    (hrecord : shop.record past i = [.made, .started .ok] ∨
      shop.record past i = [.made, .started .fail])
    (hothers : ∀ key, key ≠ i.key → Dict.find? loaded' key = Dict.find? loaded key)
    (hfree : ∀ j, Dict.find? loaded i.key = some j → j = i)
    (hdone : Dict.find? loaded' i.key = none) : Staffed past loaded' (shop.finish i) := by
  have hended : (shop.finish i).record past i = shop.record past i ++ [.ended] :=
    Shop.record_call (n := .onDestroy (shop.conduct i).onDestroy) rfl
  have hnumber := h.number_le (i := i) (by rcases hrecord with hr | hr <;> simp [hr])
  refine h.call rfl (fun _ => Nat.le_refl _) hnumber hfree hothers ?_ ?_
  · rw [hended]
    rcases hrecord with hr | hr <;> rw [hr] <;> decide
  · rw [hended, hdone]
    rcases hrecord with hr | hr <;> rw [hr] <;> rfl

theorem Staffed.retire (h : Staffed past loaded shop)
    (hi : Dict.find? loaded key = some i) :
    Staffed past (Dict.drop key loaded) (shop.finish i) := by
  have hkey := h.own key i hi
  subst hkey
  refine h.finish (.inl ((h.atWork i).mp hi)) ?_ ?_ (Dict.find?_drop_self _ _)
  · intro key hne
    exact Dict.find?_drop_of_ne hne.symm _
  · intro j hj
    rw [hi] at hj
    exact (Option.some.inj hj).symm

/-! ## Reloads -/

namespace Reload

variable {r : Reload} {c : Candidate}

theorem staffed_keep (h : Staffed past r.roster.loaded r.shop)
    (hi : Dict.find? r.roster.loaded key = some i) :
    Staffed past (r.keep key i).2.roster.loaded (r.keep key i).2.shop := by
  rw [keep]
  dsimp only
  split
  · exact h
  · split
    · exact h.retire hi
    · exact h

theorem staffed_start (h : Staffed past r.roster.loaded r.shop)
    (hfree : Dict.find? r.roster.loaded i.key = none) (hmade : r.shop.record past i = [.made]) :
    Staffed past (r.start i.key i).2.roster.loaded (r.start i.key i).2.shop := by
  have hcases := fun loaded' => h.start loaded' hfree hmade
  rw [start]
  dsimp only [checkOptional]
  split
  · next hok =>
      refine (hcases _ ?_ ?_).1
      · intro key hne
        exact Dict.find?_put_of_ne hne.symm _ _
      · rw [hok, if_pos rfl]
        exact Dict.find?_put_self _ _ _
  · next hfail =>
      obtain ⟨hstaffed, hrecord⟩ := hcases r.roster.loaded (fun _ _ => rfl) (by simp [hfail, hfree])
      rw [hfail] at hrecord
      refine hstaffed.finish (.inr hrecord) (fun _ _ => rfl) ?_ hfree
      intro j hj
      rw [hfree] at hj
      cases hj
  · next hcrash =>
      exact (hcases r.roster.loaded (fun _ _ => rfl) (by simp [hcrash, hfree])).1

theorem staffed_make (h : Staffed past r.roster.loaded r.shop) (owner : Owner)
    (hfree : Dict.find? r.roster.loaded c.info.key = none) :
    Staffed past (r.make owner c).2.roster.loaded (r.make owner c).2.shop := by
  rw [make]
  split
  · next shop hcreate => exact h.refused hcreate
  · next i shop hcreate =>
      obtain ⟨hstaffed, hkey, hmade⟩ := h.create hfree hcreate
      dsimp only
      split
      · exact hstaffed
      · split
        · exact hstaffed
        · rw [← hkey] at hfree ⊢
          exact staffed_start (r := { r with shop }) hstaffed hfree hmade

theorem staffed_add (h : Staffed past r.roster.loaded r.shop) (owner : Owner) :
    Staffed past (r.add owner c).2.roster.loaded (r.add owner c).2.shop := by
  rw [add]
  split
  · next i hi => exact staffed_keep h hi
  · next hfree => exact staffed_make h owner hfree

theorem staffed_remove (h : Staffed past r.roster.loaded r.shop) (key : String) :
    Staffed past (r.remove key).roster.loaded (r.remove key).shop := by
  rw [remove]
  split
  · next i hi => exact h.retire hi
  · exact h

theorem staffed_consider (owner : Owner) (h : Staffed past r.roster.loaded r.shop)
    (c : Candidate) :
    Staffed past (consider owner r c).roster.loaded (consider owner r c).shop := by
  have hadd := staffed_add (c := c) h owner
  simp only [consider]
  split
  · split
    · split <;> exact hadd
    · exact staffed_remove hadd _
  · split
    · contradiction
    · exact staffed_remove h _

theorem staffed_dismiss (h : Staffed past r.roster.loaded r.shop) (key : String) :
    Staffed past (r.dismiss key).roster.loaded (r.dismiss key).shop :=
  staffed_remove h key

/-- A walk of steps that each leave things staffed. -/
theorem staffed_foldl {β : Type} {step : Reload → β → Reload}
    (hstep : ∀ {r : Reload}, Staffed past r.roster.loaded r.shop → ∀ b,
      Staffed past (step r b).roster.loaded (step r b).shop) (items : List β)
    (h : Staffed past r.roster.loaded r.shop) :
    Staffed past (items.foldl step r).roster.loaded (items.foldl step r).shop := by
  induction items generalizing r with
  | nil => exact h
  | cons b rest ih => exact ih (hstep h b)

theorem find?_foldl_remove (keys : List String) (r : Reload) (key : String) :
    Dict.find? (keys.foldl remove r).roster.loaded key =
      if key ∈ keys then none else Dict.find? r.roster.loaded key := by
  induction keys generalizing r with
  | nil => rfl
  | cons k rest ih =>
      rw [List.foldl_cons, ih]
      by_cases hk : key = k
      · simp [hk]
      · rw [(local_remove r k).others key hk]
        simp [hk]

end Reload

namespace Roster

theorem staffed_reload {roster : Roster} (h : Staffed past roster.loaded shop) (owner : Owner)
    (cs : List Candidate) :
    Staffed past (roster.reload shop owner cs).1.loaded (roster.reload shop owner cs).2 := by
  have hwalk := Reload.staffed_foldl (Reload.staffed_consider owner) cs (r := ⟨roster, shop, []⟩) h
  exact Reload.staffed_foldl Reload.staffed_dismiss _ hwalk

/-- Once every plugin was finished, none is at work. -/
theorem staffed_clear {roster : Roster} (h : Staffed past roster.loaded shop) :
    Staffed past [] (roster.clear shop) := by
  have hwalk := Reload.staffed_foldl Reload.staffed_remove roster.loaded.names
    (r := ⟨roster, shop, []⟩) h
  refine hwalk.of_find? ?_
  intro key
  rw [Reload.find?_foldl_remove]
  split
  · rfl
  · next hkey => exact (Dict.find?_eq_none_iff.mpr hkey).symm

end Roster

end Tether.Plugin
