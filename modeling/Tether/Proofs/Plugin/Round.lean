import Mathlib.Data.List.Induction
import Tether.Proofs.Env.Handed
import Tether.Proofs.Plugin.Bench

/-!
# A packet on its round

A dispatch looks its recipients up once and then calls one after the other. Each call may take
long, and whatever a plugin does while it handles the packet, it may be the reason for a reload
or for the end of all plugins. So a dispatch is taken apart here (`Round`): a packet, the
instances that are yet to be given it, and between two of them any turns of the roster. Left to
itself it is the dispatch it was made from (`Bench.dispatch_eq_run`).

The table is an image of what was at work when it was put in place, and a dispatch goes by it to
its end. So an instance may be given a packet after it was ended, but not one that was ended
before the round began: all recipients were at work then, and if one of them was ended when its
turn came, there was a turn in the meantime that ended it (`given_as_looked_up`). That is all
there is to prove, with one exception. A reload that is told of one key twice may enter an
instance in the table and end it afterwards (`Doubled`), so candidates with the same key are kept
track of rather than ruled out.
-/

namespace Tether

open Plugin

namespace Plugin

variable {past : Instance → List Phase} {cs : List Candidate} {r : Reload}

namespace Reload

theorem mem_entries_enlist {i : Instance} {info : Info} {table : Dict (List Entry)}
    {type : String} {entry : Entry} (h : entry ∈ entries (enlist i info table) type) :
    entry ∈ entries table type ∨ entry.holder = i := by
  rw [enlist] at h
  generalize info.incoming = types at h
  induction types generalizing table with
  | nil => exact .inl h
  | cons t rest ih =>
      rcases ih h with hput | hholder
      · rw [entries_put] at hput
        split at hput
        · next heq =>
            rw [← heq]
            rcases List.mem_append.mp hput with hold | hnew
            · exact .inl hold
            · rw [List.mem_singleton.mp hnew]
              exact .inr rfl
        · exact .inl hput
      · exact .inr hholder

/-- After some candidates, everyone in the table is at work, or its key came twice. -/
structure Tabled (past : Instance → List Phase) (cs : List Candidate) (r : Reload) : Prop where
  staffed : Staffed past r.roster.loaded r.shop
  considered : ∀ type, ∀ entry ∈ entries r.table type, entry.holder.key ∈ cs.map Candidate.key
  atWork : ∀ type, ∀ entry ∈ entries r.table type,
    Dict.find? r.roster.loaded entry.holder.key = some entry.holder ∨
      2 ≤ (cs.map Candidate.key).count entry.holder.key

theorem Tabled.consider (h : Tabled past cs r) (owner : Owner) (c : Candidate) :
    Tabled past (cs ++ [c]) (consider owner r c) := by
  have hstaffed := staffed_consider owner h.staffed c
  obtain ⟨hlocal, hcases⟩ := consider_cases owner r c
  have hentry : ∀ type, ∀ entry ∈ entries (Reload.consider owner r c).table type,
      entry ∈ entries r.table type ∨ entry.holder.key = c.key ∧
        Dict.find? (Reload.consider owner r c).roster.loaded c.key = some entry.holder := by
    intro type entry hmem
    rcases hcases with ⟨-, i, hi, -, htable⟩ | ⟨-, -, htable⟩
    · rw [htable] at hmem
      rcases mem_entries_enlist hmem with hold | rfl
      · exact .inl hold
      · exact .inr ⟨hstaffed.own _ _ hi, hi⟩
    · rw [htable] at hmem
      exact .inl hmem
  refine ⟨hstaffed, ?_, ?_⟩
  · intro type entry hmem
    rw [List.map_append, List.mem_append]
    rcases hentry type entry hmem with hold | ⟨hkey, -⟩
    · exact .inl (h.considered type entry hold)
    · exact .inr (by simp [hkey])
  · intro type entry hmem
    rw [List.map_append, List.count_append]
    rcases hentry type entry hmem with hold | ⟨hkey, hfind⟩
    · by_cases hkey : entry.holder.key = c.key
      · have honce := List.count_pos_iff.mpr (h.considered type entry hold)
        right
        rw [List.map_singleton, hkey, List.count_singleton_self]
        rw [hkey] at honce
        omega
      · rw [hlocal.others _ hkey]
        refine (h.atWork type entry hold).imp_right fun htwice => ?_
        omega
    · rw [← hkey] at hfind
      exact .inl hfind

theorem Tabled.foldl (h : Tabled past cs r) (owner : Owner) (more : List Candidate) :
    Tabled past (cs ++ more) (more.foldl (Reload.consider owner) r) := by
  induction more generalizing cs r with
  | nil =>
      rw [List.append_nil]
      exact h
  | cons c rest ih =>
      rw [List.append_cons]
      exact ih (h.consider owner c)

end Reload

/-- Whoever is in the table after a reload is at work, or its key came twice. -/
theorem Roster.atWork_of_handlers {roster : Roster} {shop : Shop}
    (h : Staffed past roster.loaded shop) (owner : Owner) {type : String} {entry : Entry}
    (hmem : entry ∈ (roster.reload shop owner cs).1.handlers type) :
    (roster.reload shop owner cs).1.plugin? entry.holder.key = some entry.holder ∨
      2 ≤ (cs.map Candidate.key).count entry.holder.key := by
  have hstart : Reload.Tabled past [] ⟨roster, shop, []⟩ := ⟨h, nofun, nofun⟩
  have hwalk := hstart.foldl owner cs
  rw [List.nil_append] at hwalk
  simp only [reload, plugin?, handlers] at hmem ⊢
  generalize cs.foldl (Reload.consider owner) ⟨roster, shop, []⟩ = r at hwalk hmem ⊢
  obtain ⟨hfind, -, htable⟩ := Reload.foldl_dismiss (r.stale (cs.map fun c => c.info.key)) r
  rw [htable] at hmem
  rw [hfind, if_neg (Reload.not_mem_stale (hwalk.considered type entry hmem) r)]
  exact hwalk.atWork type entry hmem

end Plugin

namespace Bench

variable {b : Bench} {turns : List Turn} {t : Turn} {p : Packet} {paired : Bool} {i : Instance}

/-- The keys that the table was last made from. -/
def tableKeys (turns : List Turn) : List String :=
  turns.foldl (fun keys t =>
    match t with
    | .reload _ candidates => candidates.map Candidate.key
    | .clear => []
    | .meanwhile _ _ _ => keys) []

/-- The reload that made the table was told of a key twice. -/
def Doubled (turns : List Turn) (key : String) : Prop :=
  2 ≤ (tableKeys turns).count key

instance (turns : List Turn) (key : String) : Decidable (Doubled turns key) :=
  inferInstanceAs (Decidable (2 ≤ _))

theorem atWork_or_doubled (makers : Dict Maker) (turns : List Turn) :
    ∀ type, ∀ entry ∈ (run { env := { makers } } turns).roster.handlers type,
      (run { env := { makers } } turns).roster.plugin? entry.holder.key = some entry.holder ∨
        Doubled turns entry.holder.key := by
  induction turns using List.reverseRecOn with
  | nil => exact nofun
  | append_singleton turns t ih =>
      intro type entry hmem
      have hmanned := (manned_start makers).run turns
      rw [show run { env := { makers } } (turns ++ [t]) = _ from List.foldl_concat ..] at hmem ⊢
      rw [Doubled, show tableKeys (turns ++ [t]) = _ from List.foldl_concat ..]
      cases t with
      | reload owner cs => exact Roster.atWork_of_handlers hmanned.before owner hmem
      | clear => cases hmem
      | meanwhile maker conduct others => exact ih type entry hmem

/-- A key that comes twice, the second time unwanted, leaves an instance in the table that was
ended. -/
example :
    let pen : Info := { key := "pen", name := "Pen", incoming := ["note"] }
    let b := run {} [.reload {} [⟨"pen", pen, true⟩, ⟨"pen", pen, false⟩]]
    b.roster.recipients "note" true = [⟨"pen", "pen", 1⟩] ∧ b.roster.plugin? "pen" = none := by
  decide

/-! ## Rounds -/

/-- A roster with a packet on its round. -/
structure Round where
  bench : Bench
  /-- The instances that are yet to be given the packet. -/
  rest : List Instance

/-- What happens next while a packet is on its round. -/
inductive Beat where
  /-- The packet is given to the next instance. -/
  | give
  | turn (t : Turn)

/-- The round of a packet begins. -/
def round (b : Bench) (p : Packet) (paired : Bool) : Round :=
  ⟨b, b.roster.recipients p.type paired⟩

namespace Round

variable {r : Round} {beats : List Beat}

def beat (p : Packet) (paired : Bool) (r : Round) : Beat → Round
  | .give =>
      match r.rest with
      | [] => r
      | i :: rest => ⟨{ r.bench with env := Bench.give p paired r.bench.env i }, rest⟩
  | .turn t => { r with bench := r.bench.turn t }

def run (p : Packet) (paired : Bool) (r : Round) (beats : List Beat) : Round :=
  beats.foldl (beat p paired) r

end Round

/-- A dispatch is a round in which nothing comes between. -/
theorem dispatch_eq_run (b : Bench) (p : Packet) (paired : Bool) :
    (b.dispatch p paired).2 = ((b.round p paired).run p paired
      (List.replicate (b.dispatch p paired).1 .give)).bench := by
  suffices h : ∀ recipients : List Instance, ∀ b : Bench,
      { b with env := recipients.foldl (give p paired) b.env } =
        ((⟨b, recipients⟩ : Round).run p paired
          (List.replicate recipients.length .give)).bench from h _ b
  intro recipients
  induction recipients with
  | nil => exact fun _ => rfl
  | cons i rest ih =>
      intro b
      exact ih { b with env := give p paired b.env i }

/-! ## Calls and turns -/

theorem handed_turn (b : Bench) (t : Turn) : (b.turn t).env.handed = b.env.handed := by
  cases t with
  | reload owner cs =>
      exact b.env.handed_call_untouched fun shop =>
        b.roster.reload_untouched Shop.handed_untouched shop owner cs
  | clear =>
      exact b.env.handed_call_untouched (f := fun shop => ((), b.roster.clear shop)) fun shop =>
        b.roster.clear_untouched Shop.handed_untouched shop
  | meanwhile => rfl

/-- What a plugin asks for hands out nothing, and is no part of a career. -/
theorem obey_aside (i j : Instance) (e : Env) (request : Request) :
    (obey i e request).handed = e.handed ∧
      career j (obey i e request).noted = career j e.noted := by
  cases request with
  | reply type =>
      refine ⟨?_, ?_⟩
      · simp [obey, Env.note, Env.handed_record, Event.handed?, Note.packet?]
      · simp [obey, Env.note, Env.noted, Env.record, Event.noted?, career, Note.phase?]
  | replyInPlace type replace =>
      refine ⟨?_, ?_⟩
      · exact e.handed_record_reports fun _ => Callback.isReport_of_mem_tell
      · have hnoted : (obey i e (.replyInPlace type replace)).noted = e.noted ++ [] :=
          List.filterMap_append
        rw [hnoted, List.append_nil]
  | unpair => exact ⟨rfl, rfl⟩
  | setPlugin key enabled => exact ⟨rfl, rfl⟩

theorem give_spec (p : Packet) (paired : Bool) (e : Env) (i j : Instance) :
    (give p paired e i).handed = e.handed ++ [(i, paired, p)] ∧
      career j (give p paired e i).noted = career j e.noted := by
  have hobey : ∀ requests : List Request, ∀ e : Env,
      (requests.foldl (obey i) e).handed = e.handed ∧
        career j (requests.foldl (obey i) e).noted = career j e.noted := by
    intro requests
    induction requests with
    | nil => exact fun _ => ⟨rfl, rfl⟩
    | cons request rest ih =>
        intro e
        obtain ⟨hhanded, hcareer⟩ := obey_aside i j e request
        obtain ⟨hhanded', hcareer'⟩ := ih (obey i e request)
        exact ⟨hhanded'.trans hhanded, hcareer'.trans hcareer⟩
  obtain ⟨hhanded, hcareer⟩ := hobey _ (e.call fun shop => shop.handle i paired p).2
  rw [give]
  refine ⟨hhanded.trans ?_, hcareer.trans ?_⟩
  · rw [Env.handed_call, Shop.handed_handle]
    rfl
  · rw [Env.noted_call, career_append]
    simp [Shop.handle, Shop.note, career, Note.phase?]

namespace Round

variable {r : Round} {beats : List Beat}

theorem beat_give_nil (h : r.rest = []) : r.beat p paired .give = r := by
  rw [beat, h]

theorem beat_give_cons {rest : List Instance} (h : r.rest = i :: rest) :
    r.beat p paired .give = ⟨{ r.bench with env := Bench.give p paired r.bench.env i }, rest⟩ := by
  rw [beat, h]

/-- A round goes through its instances in their order. -/
theorem given_of_run (p : Packet) (paired : Bool) (r : Round) (beats : List Beat) :
    ∃ given, r.rest = given ++ (r.run p paired beats).rest ∧
      (r.run p paired beats).bench.env.handed =
        r.bench.env.handed ++ given.map fun i => (i, paired, p) := by
  induction beats generalizing r with
  | nil => exact ⟨[], rfl, (List.append_nil _).symm⟩
  | cons beat rest ih =>
      obtain ⟨given, hrest, hhanded⟩ := ih (r.beat p paired beat)
      rw [run, List.foldl_cons, ← run, hhanded]
      cases beat with
      | turn t =>
          refine ⟨given, hrest, ?_⟩
          rw [show (r.beat p paired (.turn t)).bench.env.handed = _ from handed_turn r.bench t]
      | give =>
          cases hnext : r.rest with
          | nil =>
              rw [beat_give_nil hnext] at hrest ⊢
              rw [hnext] at hrest
              exact ⟨given, hrest, rfl⟩
          | cons i others =>
              rw [beat_give_cons hnext] at hrest ⊢
              refine ⟨i :: given, congrArg (i :: ·) hrest, ?_⟩
              dsimp only
              rw [(give_spec p paired r.bench.env i i).1, List.append_assoc]
              rfl

/-- An instance is ended by a reload or with all others, and by nothing else. -/
theorem calls_of_ended {beat : Beat} (hbefore : .ended ∉ career i r.bench.env.noted)
    (hafter : .ended ∈ career i (r.beat p paired beat).bench.env.noted) :
    (∃ owner cs, beat = .turn (.reload owner cs)) ∨ beat = .turn .clear := by
  cases beat with
  | give =>
      cases hnext : r.rest with
      | nil =>
          rw [beat_give_nil hnext] at hafter
          exact absurd hafter hbefore
      | cons j others =>
          rw [beat_give_cons hnext, (give_spec p paired r.bench.env j i).2] at hafter
          exact absurd hafter hbefore
  | turn t =>
      cases t with
      | reload owner cs => exact .inl ⟨owner, cs, rfl⟩
      | clear => exact .inr rfl
      | meanwhile => exact absurd hafter hbefore

/-- An instance that was ended in a round was ended by one of its beats. -/
theorem ended_within (hbefore : .ended ∉ career i r.bench.env.noted)
    (hafter : .ended ∈ career i (r.run p paired beats).bench.env.noted) :
    ∃ earlier beat later, beats = earlier ++ beat :: later ∧
      ((∃ owner cs, beat = .turn (.reload owner cs)) ∨ beat = .turn .clear) ∧
      .ended ∉ career i (r.run p paired earlier).bench.env.noted ∧
      .ended ∈ career i ((r.run p paired earlier).beat p paired beat).bench.env.noted := by
  induction beats generalizing r with
  | nil => exact absurd hafter hbefore
  | cons first rest ih =>
      by_cases hfirst : .ended ∈ career i (r.beat p paired first).bench.env.noted
      · exact ⟨[], first, rest, rfl, calls_of_ended hbefore hfirst, hbefore, hfirst⟩
      · obtain ⟨earlier, beat, later, rfl, hcalls, hopen, hended⟩ := ih hfirst hafter
        exact ⟨first :: earlier, beat, later, rfl, hcalls, hopen, hended⟩

end Round

end Bench

end Tether
