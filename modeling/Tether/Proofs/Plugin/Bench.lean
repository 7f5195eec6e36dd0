import Tether.Proofs.Plugin.Tenure

/-!
# Plugins over many reloads

A roster is reloaded and cleared over and over, with other candidates each time, and between
two calls the makers may change how their plugins answer. What holds however this goes
(`Bench.tenures_run`): no instance is started or ended twice, and the plugins that can be had are
those at work by their careers. The table lists these, each once under every type it receives,
and nothing else. A reload that is asked for without a device is such a call (`turn_reload`).

Two things about the candidates matter. In one call no key comes twice, or the second candidate
would be asked about the instance of the first and be entered beside it. And a key stands for the
same description in all calls (`Candidate.Of`), so that one can say what is received by a plugin
that some earlier call started. Who makes a plugin may change. The types in a description are a
set, so its list of them has none twice.
-/

namespace Tether

open Plugin

namespace Plugin

/-- A candidate with the description that its key stands for. -/
def Candidate.Of (infos : String → Info) (c : Candidate) : Prop :=
  c.info = infos c.key ∧ c.info.incoming.Nodup

instance (infos : String → Info) (c : Candidate) : Decidable (c.Of infos) :=
  inferInstanceAs (Decidable (_ ∧ _))

namespace Roster

/-- The table lists the instances at work under the types they receive, and nothing else. -/
structure Listed (infos : String → Info) (r : Roster) : Prop where
  once : ∀ type, ((r.handlers type).map Entry.holder).Nodup
  mem : ∀ type entry, entry ∈ r.handlers type ↔
    r.plugin? entry.holder.key = some entry.holder ∧
      type ∈ (infos entry.holder.key).incoming ∧
      entry.listensToUnpaired = (infos entry.holder.key).listensToUnpaired

variable {infos : String → Info} {cs : List Candidate} {conducts : String → Conduct}
  {old new : Roster}

theorem listed_empty (infos : String → Info) : Listed infos {} :=
  ⟨fun _ => List.nodup_nil, fun _ _ => ⟨nofun, fun h => nomatch h.1⟩⟩

theorem mem_listing {c : Candidate} {loaded : Dict Instance} {type : String} {entry : Entry} :
    c.listing? loaded type = some entry ↔
      type ∈ c.info.incoming ∧ Dict.find? loaded c.key = some entry.holder ∧
        entry.listensToUnpaired = c.info.listensToUnpaired := by
  obtain ⟨holder, listens⟩ := entry
  rw [Candidate.listing?]
  split
  · next htype => simp [htype, eq_comm]
  · next htype => simp [htype]

theorem Reloaded.listed (h : Reloaded cs conducts old new)
    (hown : ∀ key i, Dict.find? new.loaded key = some i → i.key = key)
    (hkeys : (cs.map Candidate.key).Nodup) (hof : ∀ c ∈ cs, c.Of infos) :
    new.Listed infos := by
  refine ⟨?_, ?_⟩
  · intro type
    -- Candidates with different keys have different instances.
    rw [h.handlers, List.map_filterMap, List.Nodup, List.pairwise_filterMap]
    refine (List.pairwise_map.mp hkeys).imp ?_
    intro c c' hne i hi j hj
    obtain ⟨entry, hentry, rfl⟩ := Option.map_eq_some_iff.mp hi
    obtain ⟨entry', hentry', rfl⟩ := Option.map_eq_some_iff.mp hj
    have hkey := hown _ _ (mem_listing.mp hentry).2.1
    have hkey' := hown _ _ (mem_listing.mp hentry').2.1
    intro heq
    rw [heq, hkey'] at hkey
    exact hne hkey.symm
  · intro type entry
    rw [h.handlers, List.mem_filterMap]
    constructor
    · intro hlisted
      obtain ⟨c, hc, hlisting⟩ := hlisted
      obtain ⟨htype, hfind, hlistens⟩ := mem_listing.mp hlisting
      have hinfo := (hof c hc).1
      rw [hown _ _ hfind, ← hinfo]
      exact ⟨hfind, htype, hlistens⟩
    · intro hlisted
      obtain ⟨hfind, htype, hlistens⟩ := hlisted
      by_cases hkey : entry.holder.key ∈ cs.map Candidate.key
      · obtain ⟨c, hc, hkey⟩ := List.mem_map.mp hkey
        have hinfo := (hof c hc).1
        rw [← hkey, ← hinfo] at htype hlistens
        rw [← hkey] at hfind
        exact ⟨c, hc, mem_listing.mpr ⟨htype, hfind, hlistens⟩⟩
      · rw [Roster.plugin?, h.others _ hkey] at hfind
        cases hfind

end Roster

end Plugin

/-- The call of a plugin that an event is. -/
def Event.noted? : Event → Option (Instance × Note)
  | .plugin i n => some (i, n)
  | _ => none

/-- What was noted of plugins so far. -/
def Env.noted (e : Env) : List (Instance × Note) :=
  e.trace.filterMap Event.noted?

theorem Env.noted_call (e : Env) {α : Type} (f : Shop → α × Shop) :
    (e.call f).2.noted = e.noted ++ (f ⟨e.makers, []⟩).2.notes := by
  show (e.record _).trace.filterMap Event.noted? = _
  have hsome : (fun n : Instance × Note => Event.noted? (.plugin n.1 n.2)) = some := rfl
  simp [record, noted, List.filterMap_map, hsome]

namespace Bench

/-- What a roster may be called for, and what may happen between two calls. -/
inductive Turn where
  | reload (owner : Owner) (candidates : List Candidate)
  | clear
  /-- A maker lets its plugins answer in another way, and made instances for others. -/
  | meanwhile (maker : String) (conduct : Conduct) (others : Nat)

def turn (b : Bench) : Turn → Bench
  | .reload owner candidates =>
      let (roster, env) := b.env.call fun shop => b.roster.reload shop owner candidates
      ⟨roster, env⟩
  | .clear => b.clear
  | .meanwhile maker conduct others =>
      let made := ((Dict.find? b.env.makers maker).getD {}).made
      { b with env.makers := Dict.put maker ⟨conduct, made + others⟩ b.env.makers }

/-- A reload without a device is a turn of a roster whose owner is nobody. -/
theorem turn_reload (b : Bench) (candidates : List Candidate) :
    b.turn (.reload {} candidates) = (b.reload candidates).2 := rfl

def run (b : Bench) (turns : List Turn) : Bench :=
  turns.foldl turn b

/-- The candidates of a call have different keys, each with what it stands for. -/
def Turn.Fair (infos : String → Info) : Turn → Prop
  | .reload _ candidates =>
      (candidates.map Candidate.key).Nodup ∧ ∀ c ∈ candidates, c.Of infos
  | _ => True

instance (infos : String → Info) (t : Turn) : Decidable (t.Fair infos) :=
  match t with
  | .reload _ _ => inferInstanceAs (Decidable (_ ∧ _))
  | .clear => .isTrue trivial
  | .meanwhile _ _ _ => .isTrue trivial

/-- What was noted fits the instances at work. -/
def Manned (b : Bench) : Prop :=
  Staffed (fun _ => []) b.roster.loaded ⟨b.env.makers, b.env.noted⟩

/-- What was noted fits the instances at work, and these fit the table. -/
structure Settled (infos : String → Info) (b : Bench) : Prop where
  staffed : Staffed (fun _ => []) b.roster.loaded ⟨b.env.makers, b.env.noted⟩
  listed : b.roster.Listed infos

variable {infos : String → Info} {b : Bench}

theorem manned_start (makers : Dict Maker) : Manned { env := { makers } } := by
  refine ⟨nofun, ?_, ?_, fun _ _ => rfl⟩
  · intro i
    show [] ∈ careers
    decide
  · intro i
    show none = some i ↔ ([] : List Phase) = _
    simp

/-- Before a call nothing is noted of it, and what was is past. -/
theorem Manned.before (h : b.Manned) :
    Staffed (career · b.env.noted) b.roster.loaded ⟨b.env.makers, []⟩ := by
  refine h.of_record ?_ fun _ => Nat.le_refl _
  intro i
  simp [Shop.record, career]

theorem manned_call {α : Type} {f : Shop → α × Shop} {roster : Roster}
    (h : Staffed (career · b.env.noted) roster.loaded (f ⟨b.env.makers, []⟩).2) :
    Manned ⟨roster, (b.env.call f).2⟩ := by
  refine h.of_record ?_ fun _ => Nat.le_refl _
  intro i
  simp [Shop.record, Env.noted_call, career_append]

/-- Any candidates will do, also such with the same key. -/
theorem Manned.turn (h : b.Manned) (t : Turn) : (b.turn t).Manned := by
  cases t with
  | reload owner cs =>
      show Manned ⟨_, (b.env.call fun shop => b.roster.reload shop owner cs).2⟩
      exact manned_call (Roster.staffed_reload h.before owner cs)
  | clear =>
      show Manned ⟨{}, (b.env.call fun shop => ((), b.roster.clear shop)).2⟩
      exact manned_call (Roster.staffed_clear h.before)
  | meanwhile maker conduct others =>
      refine Staffed.of_record h (fun _ => rfl) ?_
      intro id
      by_cases hid : maker = id
      · rw [← hid]
        simp [Bench.turn, Shop.maker]
      · simp [Bench.turn, Shop.maker, Dict.find?_put_of_ne hid]

theorem Manned.run (h : b.Manned) (turns : List Turn) : (b.run turns).Manned := by
  induction turns generalizing b with
  | nil => exact h
  | cons t rest ih => exact ih (h.turn t)

/-- The instance under a key is the one that is at work by its career. -/
theorem Manned.plugin?_iff (h : b.Manned) (i : Instance) :
    b.roster.plugin? i.key = some i ↔ AtWork (career i b.env.noted) := by
  have hpossible : career i b.env.noted ∈ careers := h.possible i
  rw [atWork_iff_eq hpossible]
  exact h.atWork i

theorem settled_start (infos : String → Info) (makers : Dict Maker) :
    Settled infos { env := { makers } } :=
  ⟨manned_start makers, Roster.listed_empty infos⟩

theorem Settled.turn (h : b.Settled infos) {t : Turn} (ht : t.Fair infos) :
    (b.turn t).Settled infos := by
  have hmanned : (b.turn t).Manned := Manned.turn h.staffed t
  refine ⟨hmanned, ?_⟩
  cases t with
  | reload owner cs =>
      obtain ⟨hkeys, hof⟩ := ht
      have hreloaded := b.roster.reloaded ⟨b.env.makers, []⟩ owner hkeys fun c hc => (hof c hc).2
      exact hreloaded.listed hmanned.own hkeys hof
  | clear => exact Roster.listed_empty infos
  | meanwhile => exact h.listed

theorem Settled.run (h : b.Settled infos) {turns : List Turn}
    (hfair : ∀ t ∈ turns, t.Fair infos) : (b.run turns).Settled infos := by
  induction turns generalizing b with
  | nil => exact h
  | cons t rest ih =>
      obtain ⟨ht, hrest⟩ := List.forall_mem_cons.mp hfair
      exact ih (h.turn ht) hrest

/-- Every instance ever made is started at most once, and ended at most once and after it was
started. After each call the instances that were started well and not ended are those that can be
had under their keys. The table lists each of them once under every type it receives, and nothing
else. -/
theorem tenures_run (infos : String → Info) (makers : Dict Maker) {turns : List Turn}
    (hfair : ∀ t ∈ turns, t.Fair infos) :
    let b := run { env := { makers } } turns
    (∀ i, Tenure (career i b.env.noted)) ∧
      (∀ key i, b.roster.plugin? key = some i ↔ i.key = key ∧ AtWork (career i b.env.noted)) ∧
      (∀ type, ((b.roster.handlers type).map Entry.holder).Nodup) ∧
      ∀ type entry, entry ∈ b.roster.handlers type ↔
        AtWork (career entry.holder b.env.noted) ∧ type ∈ (infos entry.holder.key).incoming ∧
          entry.listensToUnpaired = (infos entry.holder.key).listensToUnpaired := by
  intro b
  obtain ⟨hstaffed, hlisted⟩ := (settled_start infos makers).run hfair
  have hatWork : ∀ i, b.roster.plugin? i.key = some i ↔ AtWork (career i b.env.noted) :=
    Manned.plugin?_iff hstaffed
  refine ⟨fun i => tenure_of_mem (hstaffed.possible i), ?_, hlisted.once, ?_⟩
  · intro key i
    constructor
    · intro hi
      have hkey := hstaffed.own key i hi
      rw [← hkey] at hi
      exact ⟨hkey, (hatWork i).mp hi⟩
    · intro hi
      rw [← hi.1]
      exact (hatWork i).mpr hi.2
  · intro type entry
    rw [hlisted.mem, hatWork]

/-- A plugin loses what it cannot work without and gets it back, another one crashes when it is
started anew. What is left at work is the second instance of the first. -/
theorem tenures_run_regained :
    let infos : String → Info := fun key => { key, name := key, incoming := ["note"] }
    let wanted : List Candidate := [⟨"pen", infos "pen", true⟩, ⟨"ink", infos "ink", true⟩]
    let turns : List Turn :=
      [.reload {} wanted, .meanwhile "pen" { hasRequired := false } 0, .reload {} wanted,
        .meanwhile "pen" {} 1, .clear, .meanwhile "ink" { onCreate := .crash } 0,
        .reload {} wanted]
    let b := run {} turns
    (∀ t ∈ turns, t.Fair infos) ∧
      career ⟨"pen", "pen", 1⟩ b.env.noted = [.made, .started .ok, .ended] ∧
      career ⟨"ink", "ink", 1⟩ b.env.noted = [.made, .started .ok, .ended] ∧
      career ⟨"ink", "ink", 2⟩ b.env.noted = [.made, .started .crash] ∧
      b.roster.plugin? "pen" = some ⟨"pen", "pen", 3⟩ ∧
      ∀ entry, entry ∈ b.roster.handlers "note" ↔
        AtWork (career entry.holder b.env.noted) ∧ entry.listensToUnpaired = false := by
  intro infos wanted turns b
  have hfair : ∀ t ∈ turns, t.Fair infos := by decide
  obtain ⟨-, hplugin, -, htable⟩ := tenures_run infos [] hfair
  refine ⟨hfair, by decide, by decide, by decide, ?_, ?_⟩
  · refine (hplugin "pen" _).mpr ⟨rfl, ?_⟩
    decide
  · intro entry
    rw [htable "note" entry]
    simp [infos, b]

end Bench

end Tether
