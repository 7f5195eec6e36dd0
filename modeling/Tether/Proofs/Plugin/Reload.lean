import Tether.Proofs.Dict.Order
import Tether.Proofs.Plugin.Conduct

/-!
# What a reload comes to

A reload walks over candidates and changes the roster as it goes, and what it decides
about one of them seems to depend on what it did before. It does not: a step touches only
the instance under its own key, and no conduct. So whether a candidate ends up at work
depends on the roster the reload began with (`Candidate.goesToWork`), and a candidate
whose instance was at work already is asked less than a new one.

`Considered` says what a walk over candidates comes to. It holds of one step and of two
walks in a row, and so of every walk over distinct keys. The table is part of it: it has
one entry for each candidate at work, in the order of the candidates, because each step
adds at most one to the end of each of its lists.

What no candidate mentions is stale and goes, so after a reload the plugins at work are
candidates (`Roster.reloaded`).
-/

namespace Tether.Plugin

/-- The entries that a table has for a type. -/
def entries (table : Dict (List Entry)) (type : String) : List Entry :=
  (Dict.find? table type).getD []

namespace Candidate

/-- The key of a candidate. -/
def key (c : Candidate) : String := c.info.key

/-- What a candidate is asked when it is to be at work: less if it is already. -/
def passes (c : Candidate) (loaded : Dict Instance) (conducts : String → Conduct) : Bool :=
  match Dict.find? loaded c.key with
  | some i => (conducts i.maker).compatible && (conducts i.maker).hasRequired
  | none =>
      (conducts c.maker).creates && (conducts c.maker).compatible
        && (conducts c.maker).hasRequired && decide ((conducts c.maker).onCreate = .ok)

/-- Whether a candidate is at work after a reload. -/
def goesToWork (c : Candidate) (loaded : Dict Instance) (conducts : String → Conduct) :
    Bool :=
  c.enable && c.passes loaded conducts

/-- The instance of a candidate is the one that was at work, or it was made for it. -/
def Owns (c : Candidate) (loaded : Dict Instance) (i : Instance) : Prop :=
  Dict.find? loaded c.key = some i ∨ i.key = c.key ∧ i.maker = c.maker

/-- The entry of a candidate for a type, if it is at work and receives the type. -/
def listing? (c : Candidate) (loaded : Dict Instance) (type : String) : Option Entry :=
  if type ∈ c.info.incoming then
    (Dict.find? loaded c.key).map fun i => ⟨i, c.info.listensToUnpaired⟩
  else none

end Candidate

namespace Reload

variable {r r' r'' : Reload} {c : Candidate} {cs : List Candidate}

/-- Of the plugins at work, at most the one under a key changed. -/
structure Local (key : String) (r r' : Reload) : Prop where
  others : ∀ other, other ≠ key →
    Dict.find? r'.roster.loaded other = Dict.find? r.roster.loaded other
  ascending : r.roster.loaded.Ascending → r'.roster.loaded.Ascending

theorem Local.of_eq {key : String} (h : r'.roster.loaded = r.roster.loaded) :
    Local key r r' :=
  ⟨fun _ _ => by rw [h], fun ha => by rw [h]; exact ha⟩

theorem Local.of_drop {key : String}
    (h : r'.roster.loaded = Dict.drop key r.roster.loaded) : Local key r r' := by
  refine ⟨fun other hne => ?_, fun ha => ?_⟩
  · rw [h, Dict.find?_drop_of_ne hne.symm]
  · rw [h]
    exact ha.drop key

theorem Local.of_put {key : String} {i : Instance}
    (h : r'.roster.loaded = Dict.put key i r.roster.loaded) : Local key r r' := by
  refine ⟨fun other hne => ?_, fun ha => ?_⟩
  · rw [h, Dict.find?_put_of_ne hne.symm]
  · rw [h]
    exact ha.put key i

theorem Local.trans {key : String} (h : Local key r r') (h' : Local key r' r'') :
    Local key r r'' :=
  ⟨fun other hne => (h'.others other hne).trans (h.others other hne),
    fun ha => h'.ascending (h.ascending ha)⟩

/-! ## Steps -/

/-- What a step for a key comes to that should end with its plugin at work. -/
structure Tried (key : String) (passed : Bool) (fits : Instance → Prop)
    (r : Reload) (answer : Bool × Reload) : Prop where
  isLocal : Local key r answer.2
  table : answer.2.table = r.table
  passed_iff : answer.1 = passed
  loaded : answer.1 = true → ∃ i, Dict.find? answer.2.roster.loaded key = some i ∧ fits i

/-- A step that was refused may change the plugin under its key, and puts none to work. -/
theorem Tried.refused {key : String} {passed : Bool} {fits : Instance → Prop}
    (hlocal : Local key r r') (htable : r'.table = r.table) (hpassed : passed = false) :
    Tried key passed fits r (false, r') := by
  refine ⟨hlocal, htable, hpassed.symm, fun hactive => ?_⟩
  cases hactive

theorem tried_keep (r : Reload) {key : String} {i : Instance}
    (hi : Dict.find? r.roster.loaded key = some i) :
    Tried key ((r.shop.conduct i).compatible && (r.shop.conduct i).hasRequired) (· = i) r
      (r.keep key i) := by
  rw [keep]
  dsimp only
  split
  · next hcompatible => exact .refused (.of_eq rfl) rfl (by simp_all)
  · split
    · next hcompatible hrequired => exact .refused (.of_drop rfl) rfl (by simp_all)
    · next hcompatible hrequired => exact ⟨.of_eq rfl, rfl, by simp_all, fun _ => ⟨i, hi, rfl⟩⟩

theorem tried_start (r : Reload) (key : String) (i : Instance) :
    Tried key (decide ((r.shop.conduct i).onCreate = .ok)) (· = i) r (r.start key i) := by
  rw [start]
  dsimp only [checkOptional, Shop.start]
  split
  · next hok =>
      exact ⟨.of_put rfl, rfl, by simp_all, fun _ => ⟨i, Dict.find?_put_self _ _ _, rfl⟩⟩
  · next hfail => exact .refused (.of_eq rfl) rfl (by simp_all)
  · next hcrash => exact .refused (.of_eq rfl) rfl (by simp_all)

theorem tried_make (r : Reload) (owner : Owner) (c : Candidate) :
    Tried c.key
      ((r.shop.conducts c.maker).creates && (r.shop.conducts c.maker).compatible
        && (r.shop.conducts c.maker).hasRequired
        && decide ((r.shop.conducts c.maker).onCreate = .ok))
      (fun i => i.key = c.key ∧ i.maker = c.maker) r (r.make owner c) := by
  have hconducts := r.shop.conducts_create c.maker c.info.key owner
  rw [make]
  split
  · next shop hmade =>
      have hrefused := Shop.create_refused hmade
      exact .refused (.of_eq rfl) rfl (by simp [hrefused])
  · next i shop hmade =>
      rw [hmade] at hconducts
      obtain ⟨hcreates, hkey, hmaker⟩ := Shop.create_made hmade
      have hconduct : shop.conduct i = r.shop.conducts c.maker := by
        rw [← hconducts, ← hmaker]
        rfl
      dsimp only
      rw [hconduct]
      split
      · next hcompatible => exact .refused (.of_eq rfl) rfl (by simp_all)
      · split
        · next hcompatible hrequired => exact .refused (.of_eq rfl) rfl (by simp_all)
        · next hcompatible hrequired =>
            obtain ⟨hlocal, htable, hpassed, hloaded⟩ :=
              tried_start { r with shop } c.info.key i
            refine ⟨⟨hlocal.others, hlocal.ascending⟩, htable, ?_, ?_⟩
            · rw [hpassed, hconduct]
              simp_all
            · intro hactive
              obtain ⟨j, hj, rfl⟩ := hloaded hactive
              exact ⟨j, hj, hkey, hmaker⟩

theorem tried_add (r : Reload) (owner : Owner) (c : Candidate) :
    Tried c.key (c.passes r.roster.loaded r.shop.conducts) (c.Owns r.roster.loaded) r
      (r.add owner c) := by
  rw [add, Candidate.passes, Candidate.key]
  cases hfind : Dict.find? r.roster.loaded c.info.key with
  | some i =>
      obtain ⟨hlocal, htable, hpassed, hloaded⟩ := r.tried_keep hfind
      refine ⟨hlocal, htable, hpassed, fun hactive => ?_⟩
      obtain ⟨j, hj, rfl⟩ := hloaded hactive
      exact ⟨j, hj, .inl hfind⟩
  | none =>
      obtain ⟨hlocal, htable, hpassed, hloaded⟩ := r.tried_make owner c
      refine ⟨hlocal, htable, hpassed, fun hactive => ?_⟩
      obtain ⟨j, hj, howner⟩ := hloaded hactive
      exact ⟨j, hj, .inr howner⟩

theorem local_remove (r : Reload) (key : String) : Local key r (r.remove key) := by
  rw [remove]
  split
  · exact .of_drop rfl
  · exact .of_eq rfl

@[simp] theorem find?_remove (r : Reload) (key : String) :
    Dict.find? (r.remove key).roster.loaded key = none := by
  rw [remove]
  split
  · exact Dict.find?_drop_self _ _
  · next hnone => exact hnone

@[simp] theorem table_remove (r : Reload) (key : String) : (r.remove key).table = r.table := by
  rw [remove]
  split <;> rfl

theorem entries_put (table : Dict (List Entry)) (type other : String) (es : List Entry) :
    entries (Dict.put type es table) other = if type = other then es else entries table other := by
  split
  · next heq =>
      subst heq
      rw [entries, Dict.find?_put_self, Option.getD_some]
  · next hne => rw [entries, Dict.find?_put_of_ne hne, entries]

/-- Entering an instance adds it to the end of the list of each type that it receives. -/
theorem entries_enlist (i : Instance) {info : Info} (h : info.incoming.Nodup)
    (table : Dict (List Entry)) (type : String) :
    entries (enlist i info table) type =
      entries table type ++ if type ∈ info.incoming then [⟨i, info.listensToUnpaired⟩] else [] := by
  rw [enlist]
  generalize info.incoming = types at *
  induction types generalizing table with
  | nil => simp
  | cons t rest ih =>
      obtain ⟨ht, hrest⟩ := List.nodup_cons.mp h
      rw [List.foldl_cons, ih _ hrest, entries_put]
      by_cases heq : t = type
      · subst heq
        rw [if_pos rfl, if_neg ht, if_pos List.mem_cons_self, List.append_nil]
        rfl
      · simp [heq, Ne.symm heq]

/-! ## Walks over candidates -/

/-- What considering candidates comes to. -/
structure Considered (cs : List Candidate) (r r' : Reload) : Prop where
  conducts : r'.shop.conducts = r.shop.conducts
  others : ∀ key, key ∉ cs.map Candidate.key →
    Dict.find? r'.roster.loaded key = Dict.find? r.roster.loaded key
  ascending : r.roster.loaded.Ascending → r'.roster.loaded.Ascending
  atWork : ∀ c ∈ cs, (Dict.find? r'.roster.loaded c.key).isSome =
    c.goesToWork r.roster.loaded r.shop.conducts
  owned : ∀ c ∈ cs, ∀ i, Dict.find? r'.roster.loaded c.key = some i →
    c.Owns r.roster.loaded i
  table : ∀ type, entries r'.table type =
    entries r.table type ++ cs.filterMap (·.listing? r'.roster.loaded type)

/-- A candidate goes to work and is entered in the table, or in the end nothing is at work
under its key. -/
theorem consider_cases (owner : Owner) (r : Reload) (c : Candidate) :
    Local c.key r (consider owner r c) ∧
      ((c.goesToWork r.roster.loaded r.shop.conducts = true ∧
        ∃ i, Dict.find? (consider owner r c).roster.loaded c.key = some i ∧
          c.Owns r.roster.loaded i ∧ (consider owner r c).table = enlist i c.info r.table) ∨
      (c.goesToWork r.roster.loaded r.shop.conducts = false ∧
        Dict.find? (consider owner r c).roster.loaded c.key = none ∧
        (consider owner r c).table = r.table)) := by
  obtain ⟨haddLocal, haddTable, hpassed, hloaded⟩ := r.tried_add owner c
  rw [Candidate.goesToWork]
  simp only [consider]
  by_cases henable : c.enable = true
  · rw [if_pos henable, henable, Bool.true_and, ← hpassed]
    split
    · next hactive =>
        obtain ⟨i, hi, howns⟩ := hloaded hactive
        rw [Candidate.key] at hi
        simp only [hi]
        refine ⟨⟨haddLocal.others, haddLocal.ascending⟩,
          .inl ⟨hactive, i, hi, howns, ?_⟩⟩
        rw [haddTable]
    · next hinactive =>
        refine ⟨haddLocal.trans (local_remove _ _), .inr ⟨?_, ?_, ?_⟩⟩
        · simpa using hinactive
        · rw [if_pos rfl]
          exact find?_remove _ _
        · rw [if_pos rfl, table_remove, haddTable]
  · rw [if_neg henable, Bool.eq_false_iff.mpr henable, Bool.false_and]
    have hremove := local_remove r c.info.key
    refine ⟨⟨hremove.others, hremove.ascending⟩, .inr ⟨rfl, find?_remove r _, ?_⟩⟩
    exact table_remove r _

theorem considered_consider (owner : Owner) (r : Reload) {c : Candidate}
    (h : c.info.incoming.Nodup) : Considered [c] r (consider owner r c) := by
  have hconducts := consider_untouched Shop.conducts_untouched owner r c
  obtain ⟨hlocal, hcases⟩ := consider_cases owner r c
  refine ⟨hconducts, fun key hkey => hlocal.others key (by simpa using hkey),
    hlocal.ascending, ?_, ?_, ?_⟩
  · rw [List.forall_mem_singleton]
    rcases hcases with ⟨hgoes, i, hi, -, -⟩ | ⟨hstays, hnone, -⟩
    · rw [hgoes, hi, Option.isSome_some]
    · rw [hstays, hnone, Option.isSome_none]
  · rw [List.forall_mem_singleton]
    intro j hj
    rcases hcases with ⟨-, i, hi, howns, -⟩ | ⟨-, hnone, -⟩
    · rw [hi] at hj
      cases hj
      exact howns
    · rw [hnone] at hj
      cases hj
  · intro type
    rcases hcases with ⟨-, i, hi, -, htable⟩ | ⟨-, hnone, htable⟩
    · rw [htable, entries_enlist i h, List.filterMap_cons, Candidate.listing?, hi]
      by_cases htype : type ∈ c.info.incoming <;> simp [htype]
    · rw [htable, List.filterMap_cons, Candidate.listing?, hnone]
      simp

/-- Two walks in a row are one walk, if the second does not come back to a key. -/
theorem Considered.append {first rest : List Candidate} (h : Considered first r r')
    (h' : Considered rest r' r'')
    (hdisjoint : ∀ c ∈ first, c.key ∉ rest.map Candidate.key)
    (hdisjoint' : ∀ c ∈ rest, c.key ∉ first.map Candidate.key) :
    Considered (first ++ rest) r r'' := by
  have hkept : ∀ c ∈ first, Dict.find? r''.roster.loaded c.key =
      Dict.find? r'.roster.loaded c.key := fun c hc => h'.others _ (hdisjoint c hc)
  have hsame : ∀ c ∈ rest, Dict.find? r'.roster.loaded c.key =
      Dict.find? r.roster.loaded c.key := fun c hc => h.others _ (hdisjoint' c hc)
  refine ⟨h'.conducts.trans h.conducts, ?_, fun ha => h'.ascending (h.ascending ha), ?_, ?_, ?_⟩
  · intro key hkey
    rw [List.map_append, List.mem_append, not_or] at hkey
    rw [h'.others key hkey.2, h.others key hkey.1]
  · intro c hc
    rcases List.mem_append.mp hc with hmem | hmem
    · rw [hkept c hmem, h.atWork c hmem]
    · rw [h'.atWork c hmem, Candidate.goesToWork, Candidate.goesToWork, Candidate.passes,
        Candidate.passes, hsame c hmem, h.conducts]
  · intro c hc i hi
    rcases List.mem_append.mp hc with hmem | hmem
    · rw [hkept c hmem] at hi
      exact h.owned c hmem i hi
    · have howns := h'.owned c hmem i hi
      rwa [Candidate.Owns, hsame c hmem] at howns
  · intro type
    have hentry : first.filterMap (·.listing? r''.roster.loaded type) =
        first.filterMap (·.listing? r'.roster.loaded type) := by
      refine List.filterMap_congr fun c hc => ?_
      rw [Candidate.listing?, Candidate.listing?, hkept c hc]
    rw [h'.table, h.table, List.filterMap_append, hentry, List.append_assoc]

theorem considered_foldl (owner : Owner) (r : Reload) (hkeys : (cs.map Candidate.key).Nodup)
    (htypes : ∀ c ∈ cs, c.info.incoming.Nodup) :
    Considered cs r (cs.foldl (consider owner) r) := by
  induction cs generalizing r with
  | nil => exact ⟨rfl, fun _ _ => rfl, id, nofun, nofun, fun _ => (List.append_nil _).symm⟩
  | cons c rest ih =>
      obtain ⟨hfresh, hrest⟩ := List.nodup_cons.mp hkeys
      obtain ⟨htype, htypes⟩ := List.forall_mem_cons.mp htypes
      refine (considered_consider owner r htype).append (ih _ hrest htypes) ?_ ?_
      · rw [List.forall_mem_singleton]
        exact hfresh
      · intro other hother hmem
        rw [List.map_singleton, List.mem_singleton] at hmem
        exact hfresh (hmem ▸ List.mem_map_of_mem hother)

/-! ## Stale plugins -/

theorem find?_dismiss (r : Reload) (key other : String) :
    Dict.find? (r.dismiss key).roster.loaded other =
      if other = key then none else Dict.find? r.roster.loaded other := by
  show Dict.find? (r.remove key).roster.loaded other = _
  split
  · next heq => rw [heq, find?_remove]
  · next hne => exact (local_remove r key).others other hne

/-- What was brought up is not stale. -/
theorem not_mem_stale {key : String} (h : key ∈ cs.map Candidate.key) (r : Reload) :
    key ∉ r.stale (cs.map fun c => c.info.key) := by
  intro hstale
  have hkey : key ∈ cs.map fun c => c.info.key := h
  have hnot := (List.mem_filter.mp hstale).2
  rw [List.contains_iff_mem.mpr hkey] at hnot
  cases hnot

/-- The plugins that are dismissed are not at work any more, and nothing else changes. -/
theorem foldl_dismiss (keys : List String) (r : Reload) :
    (∀ key, Dict.find? (keys.foldl dismiss r).roster.loaded key =
      if key ∈ keys then none else Dict.find? r.roster.loaded key) ∧
    (r.roster.loaded.Ascending → (keys.foldl dismiss r).roster.loaded.Ascending) ∧
    (keys.foldl dismiss r).table = r.table := by
  induction keys generalizing r with
  | nil => exact ⟨fun _ => rfl, id, rfl⟩
  | cons k rest ih =>
      obtain ⟨hfind, hascending, htable⟩ := ih (r.dismiss k)
      refine ⟨fun key => ?_, fun ha => hascending ((local_remove r k).ascending ha), ?_⟩
      · rw [List.foldl_cons, hfind, find?_dismiss]
        by_cases hmem : key ∈ rest <;> simp [hmem]
      · rw [List.foldl_cons, htable]
        exact table_remove r k

end Reload

/-! ## Reloads -/

namespace Roster

variable {cs : List Candidate}

/-- What a reload with candidates makes of a roster. -/
structure Reloaded (cs : List Candidate) (conducts : String → Conduct) (old new : Roster) :
    Prop where
  /-- The plugins at work are candidates. -/
  others : ∀ key, key ∉ cs.map Candidate.key → Dict.find? new.loaded key = none
  ascending : old.loaded.Ascending → new.loaded.Ascending
  atWork : ∀ c ∈ cs, (Dict.find? new.loaded c.key).isSome = c.goesToWork old.loaded conducts
  owned : ∀ c ∈ cs, ∀ i, Dict.find? new.loaded c.key = some i → c.Owns old.loaded i
  handlers : ∀ type, new.handlers type = cs.filterMap (·.listing? new.loaded type)

theorem reloaded (roster : Roster) (shop : Shop) (owner : Owner)
    (hkeys : (cs.map Candidate.key).Nodup) (htypes : ∀ c ∈ cs, c.info.incoming.Nodup) :
    Reloaded cs shop.conducts roster (roster.reload shop owner cs).1 := by
  have hwalk := Reload.considered_foldl owner ⟨roster, shop, []⟩ hkeys htypes
  simp only [reload]
  generalize cs.foldl (Reload.consider owner) ⟨roster, shop, []⟩ = r at hwalk
  obtain ⟨hfind, hascending, htable⟩ :=
    Reload.foldl_dismiss (r.stale (cs.map fun c => c.info.key)) r
  generalize (r.stale (cs.map fun c => c.info.key)).foldl Reload.dismiss r = last at *
  -- No candidate is stale, and whatever else is at work is.
  have hkept : ∀ c ∈ cs, Dict.find? last.roster.loaded c.key =
      Dict.find? r.roster.loaded c.key := by
    intro c hc
    rw [hfind, if_neg (Reload.not_mem_stale (List.mem_map_of_mem hc) r)]
  refine ⟨?_, fun ha => hascending (hwalk.ascending ha), ?_, ?_, ?_⟩
  · intro key hkey
    have hother : key ∉ cs.map fun c => c.info.key := hkey
    rw [hfind]
    split
    · rfl
    · next hfresh =>
        rw [Dict.find?_eq_none_iff]
        intro hname
        refine hfresh (List.mem_filter.mpr ⟨List.mem_append_left _ hname, ?_⟩)
        simpa using hother
  · intro c hc
    rw [hkept c hc]
    exact hwalk.atWork c hc
  · intro c hc i hi
    rw [hkept c hc] at hi
    exact hwalk.owned c hc i hi
  · intro type
    show entries last.table type = _
    rw [htable, hwalk.table]
    refine List.filterMap_congr fun c hc => ?_
    rw [Candidate.listing?, Candidate.listing?, hkept c hc]

end Roster

end Tether.Plugin
