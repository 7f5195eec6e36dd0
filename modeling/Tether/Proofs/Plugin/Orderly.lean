import Tether.Proofs.Plugin.Registered
import Tether.Proofs.Plugin.Reload

/-!
# Rosters in order

The table of a roster is made anew by every reload, from the candidates, while the
instances at work stay from one reload to the next. That the two go together is what makes
a packet reach the plugins at work: for each type the table has exactly the instances at
work whose description lists the type, in the order of their keys.

A roster is orderly if this holds and if every instance stands under its own key. Reloads
keep a roster orderly, whatever the candidates are asked to do and however plugins answer,
as long as the candidates come in order and from the registry.

A plugin that comes up whenever it is made is one that stays at work when it is asked
again. So if plugins do not change their mind, what they were asked on which occasion makes
no difference (`goesToWork_of_started`).
-/

namespace Tether.Plugin

/-- Whether the plugins of this conduct can be brought to work. -/
def Conduct.comesUp (c : Conduct) : Bool :=
  c.creates && c.compatible && c.hasRequired && decide (c.onCreate = .ok)

theorem Conduct.comesUp_iff (c : Conduct) :
    c.comesUp = true ↔
      c.creates = true ∧ c.compatible = true ∧ c.hasRequired = true ∧ c.onCreate = .ok := by
  simp [comesUp, and_assoc]

/-- Whoever is at work already and comes up is not asked in vain. -/
theorem Candidate.goesToWork_of_started {c : Candidate} {loaded : Dict Instance}
    {conducts : String → Conduct}
    (h : ∀ i, Dict.find? loaded c.key = some i →
      i.maker = c.maker ∧ (conducts c.maker).comesUp = true) :
    c.goesToWork loaded conducts = (c.enable && (conducts c.maker).comesUp) := by
  rw [goesToWork, passes]
  cases hfind : Dict.find? loaded c.key with
  | some i =>
      obtain ⟨hmaker, hup⟩ := h i hfind
      obtain ⟨-, hcompatible, hrequired, -⟩ := (Conduct.comesUp_iff _).mp hup
      simp only [hmaker, hup, hcompatible, hrequired, Bool.and_self]
  | none => rfl

namespace Roster

variable {registry : Registry} {roster new : Roster} {cs : List Candidate}
  {conducts : String → Conduct}

/-- Instances stand under their keys, and the table has those at work. -/
structure Orderly (registry : Registry) (r : Roster) : Prop where
  ascending : r.loaded.Ascending
  own : ∀ key i, Dict.find? r.loaded key = some i → i.key = key ∧ i.maker = key
  handlers : ∀ type, r.handlers type =
    r.loaded.filterMap fun e => registry.listing? type e.1 e.2

theorem orderly_empty (registry : Registry) : Orderly registry {} :=
  ⟨List.Pairwise.nil, nofun, fun _ => rfl⟩

/-- The instances at work, as those of the candidates that have one. -/
theorem Reloaded.loaded_eq (h : Reloaded cs conducts roster new)
    (hloaded : roster.loaded.Ascending) (hcs : Roll.Ascending (cs.map Candidate.key)) :
    new.loaded =
      cs.filterMap fun c => (Dict.find? new.loaded c.key).map fun i => (c.key, i) := by
  have hnew := h.ascending hloaded
  have hsublist : ∀ cs : List Candidate, (Dict.names (cs.filterMap fun c =>
      (Dict.find? new.loaded c.key).map fun i => (c.key, i))).Sublist
        (cs.map Candidate.key) := by
    intro cs
    induction cs with
    | nil => exact List.Sublist.slnil
    | cons c rest ih =>
        rw [List.filterMap_cons]
        cases Dict.find? new.loaded c.key with
        | none => exact ih.cons _
        | some i => exact ih.cons_cons _
  refine hnew.eq_of_mem_iff (List.Pairwise.sublist (hsublist cs) hcs) ?_
  rintro ⟨key, i⟩
  rw [← hnew.find?_iff, List.mem_filterMap]
  constructor
  · intro hfind
    by_cases hkey : key ∈ cs.map Candidate.key
    · obtain ⟨c, hc, rfl⟩ := List.mem_map.mp hkey
      exact ⟨c, hc, by rw [hfind, Option.map_some]⟩
    · rw [h.others key hkey] at hfind
      cases hfind
  · rintro ⟨c, -, hc⟩
    obtain ⟨j, hj, heq⟩ := Option.map_eq_some_iff.mp hc
    cases heq
    exact hj

/-- A reload keeps a roster in order. -/
theorem Orderly.reload (h : roster.Orderly registry) (hr : Reloaded cs conducts roster new)
    (hcs : Roll.Ascending (cs.map Candidate.key))
    (hregistered : ∀ c ∈ cs, Dict.find? registry c.key = some c.info ∧ c.maker = c.key) :
    new.Orderly registry := by
  refine ⟨hr.ascending h.ascending, ?_, ?_⟩
  · intro key i hi
    by_cases hkey : key ∈ cs.map Candidate.key
    · obtain ⟨c, hc, rfl⟩ := List.mem_map.mp hkey
      rcases hr.owned c hc i hi with hold | ⟨hown, hmaker⟩
      · exact h.own c.key i hold
      · exact ⟨hown, hmaker.trans (hregistered c hc).2⟩
    · rw [hr.others key hkey] at hi
      cases hi
  · intro type
    rw [hr.handlers, hr.loaded_eq h.ascending hcs, List.filterMap_filterMap]
    refine List.filterMap_congr fun c hc => ?_
    rw [← hr.loaded_eq h.ascending hcs, Candidate.listing?]
    cases Dict.find? new.loaded c.key with
    | none => simp
    | some i =>
        rw [Option.map_some, Option.map_some, Option.bind_some, Registry.listing?,
          (hregistered c hc).1, Option.bind_some]

/-! ## Who is given a packet -/

theorem holder_listing (registry : Registry) (type key : String) (paired : Bool)
    (i : Instance) :
    (((registry.listing? type key i).filter fun e => paired || e.listensToUnpaired).map
        Entry.holder) = if registry.admits type paired key then some i else none := by
  cases hfind : Dict.find? registry key with
  | none => simp [Registry.listing?, Registry.admits, hfind]
  | some info =>
      by_cases htype : type ∈ info.incoming
      · cases paired <;> cases hlistens : info.listensToUnpaired <;>
          simp [Registry.listing?, Registry.admits, hfind, htype, hlistens]
      · simp [Registry.listing?, Registry.admits, hfind, htype]

/-- A packet goes to the instances at work whose plugins are to be given it. -/
theorem Orderly.recipients (h : roster.Orderly registry) (type : String) (paired : Bool) :
    roster.recipients type paired =
      (roster.loaded.filter fun e => registry.admits type paired e.1).map Prod.snd := by
  rw [Roster.recipients, h.handlers, List.filter_filterMap, List.map_filterMap,
    ← List.filterMap_eq_filter, List.map_filterMap]
  refine List.filterMap_congr fun e _ => ?_
  rw [holder_listing]
  show _ = Option.map Prod.snd (if registry.admits type paired e.1 = true then some e else none)
  split <;> rfl

theorem Orderly.keysFor (h : roster.Orderly registry) (type : String) :
    roster.keysFor type = roster.loaded.names.filter (registry.admits type true) := by
  have hall : roster.keysFor type = (roster.recipients type true).map Instance.key := by
    simp [Roster.keysFor, Roster.recipients]
  rw [hall, h.recipients, Dict.names, List.filter_map, List.map_map]
  refine List.map_congr_left fun e he => ?_
  have hfind := h.ascending.find?_iff.mpr (List.mem_filter.mp he).1
  exact (h.own e.1 e.2 hfind).1

end Roster

end Tether.Plugin
