import Tether.Proofs.Settings.Kept

/-!
# Changes that fail and processes that stop

A change of settings in a file is made in steps, and all but the last may fail: the staging
file may not be written, or only a part of it, it may not take the place of the file, and then it
may not go away. The process may also stop between any two of them, or while the staging file is
written. That the staging file takes the place of the file cannot be seen half done.

Which settings are opened depends on what the file is, and that changes in one step only. All
that goes wrong goes wrong with the staging file, which is never read. What holds at each point
of a change is one invariant (`Making.Sound`): up to that step settings and file are as they were,
and behind it the file has the change. A step keeps it (`Making.Sound.next`), and so a change that
fails leaves the settings in memory and those in the file as they were, one that succeeds changes
both, and a process that stops leaves one or the other in the file (`atomic`).

Memory and file are not the same thing if a float is among the settings, for a float that is
written may be read as another one. It is never read as anything but a float, though, and no
reading of settings gives one. What is opened again is therefore the settings in memory as far
as any reading can tell, and without floats it is them altogether (`Alike`).
-/

namespace Tether

/-- No reading tells two stores apart, and without floats they are one store. -/
structure Store.Alike (s t : Store) : Prop where
  trusted : s.trusted = t.trusted
  getString : ∀ scope key, s.getString? scope key = t.getString? scope key
  getBool : ∀ scope key, s.getBool? scope key = t.getBool? scope key
  eq : t.Floatless → s = t

theorem Store.Alike.refl (s : Store) : s.Alike s :=
  ⟨rfl, fun _ _ => rfl, fun _ _ => rfl, fun _ => rfl⟩

theorem Store.find?_settled (s : Store) (scope key : String) :
    s.settled.find? scope key = (s.find? scope key).map Json.settled := by
  have hscope : s.settled.scope scope = (s.scope scope).map Json.settledField := by
    have hfind := Dict.find?_map (fun d : Dict Json => d.map Json.settledField) s.scopes scope
    rw [Store.scope, settled, hfind, Store.scope]
    cases Dict.find? s.scopes scope <;> rfl
  rw [Store.find?, hscope]
  exact Dict.find?_map Json.settled _ _

/-- No reading sees what a number is settled to. -/
theorem Store.Kempt.settled_alike {s : Store} (h : s.Kempt) : s.settled.Alike s := by
  have hstr : ∀ j : Json, j.settled.str? = j.str? := by
    intro j
    cases j with
    | arr items => rw [Json.settled_arr]; rfl
    | obj fields => rw [Json.settled_obj]; rfl
    | null | bool | num | str => rfl
  have hbool : ∀ j : Json, j.settled.bool? = j.bool? := by
    intro j
    cases j with
    | arr items => rw [Json.settled_arr]; rfl
    | obj fields => rw [Json.settled_obj]; rfl
    | null | bool | num | str => rfl
  refine ⟨rfl, fun scope key => ?_, fun scope key => ?_, h.settled_eq⟩
  · rw [Store.getString?, Store.find?_settled, Store.getString?, Option.bind_map]
    exact congrArg _ (funext hstr)
  · rw [Store.getBool?, Store.find?_settled, Store.getBool?, Option.bind_map]
    exact congrArg _ (funext hbool)

namespace Settings

/-! ## Folders -/

namespace Folder

/-- The folder is there. -/
def Made (f : Folder) : Prop :=
  ∃ file staging, f = .present file staging

variable {f staged done : Folder} {content : List UInt8}

/-- Writing the staging file changes nothing else. -/
theorem staged_of_step? (h : f.step? (.stage content) = some staged) :
    ∃ file, staged = .present file (.file content) ∧ staged.file = f.file := by
  cases f with
  | absent | blocked => cases h
  | present file staging =>
      cases staging <;> cases h <;> exact ⟨file, rfl, rfl⟩

/-- The staging file takes the place of the file as it is. -/
theorem done_of_step? {file : Entry}
    (h : (Folder.present file (.file content)).step? .commit = some done) :
    done = .present (.file content) .absent := by
  cases file <;> cases h <;> rfl

theorem file_discard (f : Folder) : f.discard.file = f.file := by
  rw [discard.eq_def]
  split <;> rfl

theorem Made.discard (h : f.Made) : f.discard.Made := by
  obtain ⟨file, staging, rfl⟩ := h
  cases staging <;> exact ⟨_, _, rfl⟩

/-- What is loaded depends on the file alone. -/
theorem load_congr (h : staged.file = f.file) : load staged = load f := by
  rw [load, load, h]

theorem Made.open_eq (h : f.Made) {s : Store} (hload : load f = .ok s) :
    Settings.open f = (.ok s, f) := by
  obtain ⟨file, staging, rfl⟩ := h
  exact congrArg (·, _) hload

/-- Whatever is opened is there afterwards. -/
theorem made_of_open {s : Store} (h : Settings.open f = (.ok s, done)) :
    done.Made ∧ load done = .ok s := by
  cases f with
  | absent => cases h; exact ⟨⟨_, _, rfl⟩, rfl⟩
  | blocked => cases h
  | present file staging =>
      obtain ⟨hload, rfl⟩ := Prod.mk.inj h
      exact ⟨⟨_, _, rfl⟩, hload⟩

end Folder

/-! ## Points of a change -/

/-- The bytes of the file after a change. -/
def Kept.bytesAfter (k : Kept) (c : Store.Change) : List UInt8 :=
  Text.Utf8.encode (k.store.apply c).render

/-- Neither the settings nor the file are other than before. -/
structure Kept.Unchanged (k k' : Kept) : Prop where
  store : k'.store = k.store
  file : k'.folder.file = k.folder.file
  made : k'.folder.Made

/-- The folder with a change in its file. -/
def Kept.written (k : Kept) (c : Store.Change) : Folder :=
  .present (.file (k.bytesAfter c)) .absent

/-- What holds at each point of a change. -/
def Making.Sound (k : Kept) (c : Store.Change) (m : Making) : Prop :=
  match m.phase with
  | .staging | .removing _ | .returned (.error _) => k.Unchanged m.kept
  | .moving => k.Unchanged m.kept ∧ m.kept.folder.staging = .file (k.bytesAfter c)
  | .moved => m.kept = ⟨k.store, k.written c⟩
  | .returned (.ok ()) => m.kept = ⟨k.store.apply c, k.written c⟩

variable {k k' : Kept} {c : Store.Change} {m : Making}

/-- Whatever is written to the staging file, settings and file are as they were. -/
theorem Kept.Unchanged.staged (h : k.Unchanged k') {content : List UInt8} {staged : Folder}
    (hstage : k'.folder.step? (.stage content) = some staged) :
    k.Unchanged { k' with folder := staged } ∧ staged.staging = .file content := by
  obtain ⟨file, rfl, hfile⟩ := Folder.staged_of_step? hstage
  exact ⟨⟨h.store, hfile.trans h.file, ⟨_, _, rfl⟩⟩, rfl⟩

theorem Kept.Unchanged.discard (h : k.Unchanged k') :
    k.Unchanged { k' with folder := k'.folder.discard } :=
  ⟨h.store, (Folder.file_discard _).trans h.file, h.made.discard⟩

/-- What takes the place of the file is the change. -/
theorem Kept.Unchanged.moved (h : k.Unchanged k')
    (hstaging : k'.folder.staging = .file (k.bytesAfter c)) {done : Folder}
    (hcommit : k'.folder.step? .commit = some done) :
    ({ k' with folder := done } : Kept) = ⟨k.store, k.written c⟩ := by
  obtain ⟨file, staging, hpresent⟩ := h.made
  rw [hpresent] at hstaging hcommit
  obtain rfl : staging = .file (k.bytesAfter c) := hstaging
  rw [Folder.done_of_step? hcommit, h.store, Kept.written]

/-- A step keeps what holds before it. -/
theorem Making.Sound.next (h : m.Sound k c) (chance : Chance) : (m.next c chance).Sound k c := by
  obtain ⟨k', phase⟩ := m
  cases phase with
  | staging =>
      have h : k.Unchanged k' := h
      cases chance with
      | taken =>
          have hbytes : Text.Utf8.encode (k'.store.apply c).render = k.bytesAfter c := by
            rw [h.store, Kept.bytesAfter]
          simp only [next, hbytes]
          cases hstage : k'.folder.step? (.stage (k.bytesAfter c)) with
          | none => exact h
          | some staged => exact h.staged hstage
      | failed fault => exact h
      | spilt content =>
          simp only [next]
          cases hstage : k'.folder.step? (.stage content) with
          | none => exact h
          | some spoilt => exact (h.staged hstage).1
  | moving =>
      obtain ⟨hsame, hstaging⟩ : k.Unchanged k' ∧ _ := h
      cases chance with
      | taken =>
          simp only [next]
          cases hcommit : k'.folder.step? .commit with
          | none => exact hsame
          -- the one step that changes the file
          | some done => exact hsame.moved hstaging hcommit
      | failed fault => exact hsame
      | spilt content => exact ⟨hsame, hstaging⟩
  | removing fault =>
      have h : k.Unchanged k' := h
      cases chance with
      | taken => exact h.discard
      | failed | spilt => exact h
  | moved =>
      obtain rfl : k' = ⟨k.store, k.written c⟩ := h
      cases chance <;> rfl
  | returned result => cases chance <;> exact h

theorem Making.Sound.run (h : m.Sound k c) (chances : List Chance) :
    (chances.foldl (Making.next c) m).Sound k c := by
  induction chances generalizing m with
  | nil => exact h
  | cons chance rest ih => exact ih (h.next chance)

/-- At each point of a change it is sound. -/
theorem Kept.sound_making (hk : k.folder.Made) (chances : List Chance) :
    (k.making c chances).Sound k c :=
  Making.Sound.run (m := ⟨k, .staging⟩) ⟨rfl, rfl, hk⟩ chances

/-- Where the process may stop, the file is the one before the change, or the one after it. -/
theorem Making.Sound.file (h : m.Sound k c) :
    m.kept.folder.Made ∧
      (m.kept.folder.file = k.folder.file ∨ m.kept.folder.file = .file (k.bytesAfter c)) := by
  have hsame {k' : Kept} (h : k.Unchanged k') : k'.folder.Made ∧
      (k'.folder.file = k.folder.file ∨ k'.folder.file = .file (k.bytesAfter c)) :=
    ⟨h.made, .inl h.file⟩
  obtain ⟨k', phase⟩ := m
  cases phase with
  | staging | removing => exact hsame h
  | moving => exact hsame h.1
  | moved =>
      obtain rfl : k' = _ := h
      exact ⟨⟨_, _, rfl⟩, .inr rfl⟩
  | returned result =>
      cases result with
      | error => exact hsame h
      | ok =>
          obtain rfl : k' = _ := h
          exact ⟨⟨_, _, rfl⟩, .inr rfl⟩

theorem Making.Sound.error (h : m.Sound k c) {fault : Fault}
    (hphase : m.phase = .returned (.error fault)) : k.Unchanged m.kept := by
  rw [Making.Sound, hphase] at h
  exact h

theorem Making.Sound.ok (h : m.Sound k c) (hphase : m.phase = .returned (.ok ())) :
    m.kept = ⟨k.store.apply c, k.written c⟩ := by
  rw [Making.Sound, hphase] at h
  exact h

/-! ## Changes -/

namespace Kept

/-- Where nothing happens but that the steps are taken, a change goes through them at once. -/
theorem making_taken (k : Kept) (c : Store.Change) :
    k.making c (List.replicate 3 .taken) = ⟨(k.apply c).2, .returned (k.apply c).1⟩ := by
  show (((Making.next c ⟨k, .staging⟩ .taken).next c .taken).next c .taken) = _
  rw [apply, Folder.replace]
  cases hstage : k.folder.step? (.stage (Text.Utf8.encode (k.store.apply c).render)) with
  | none => simp only [Making.next, hstage]
  | some staged =>
      cases hcommit : staged.step? .commit with
      | none => simp only [Making.next, hstage, hcommit]
      | some folder => simp only [Making.next, hstage, hcommit]

/-- Settings that were opened from any folder, and changed with or without success. -/
inductive Reached : Kept → Prop where
  | opened {f folder : Folder} {store : Store} (h : Settings.open f = (.ok store, folder)) :
      Reached ⟨store, folder⟩
  | changed {k k' : Kept} {c : Store.Change} {chances : List Chance}
      {result : Except Fault Unit} (h : Reached k) (hc : c.Scalar)
      (hreturned : k.making c chances = ⟨k', .returned result⟩) : Reached k'

/-- The folder has the settings in it. -/
structure Holds (k : Kept) : Prop where
  kempt : k.store.Kempt
  made : k.folder.Made
  loaded : ∃ s, load k.folder = .ok s ∧ s.Alike k.store

theorem Holds.unchanged (hk : k.Holds) (h : k.Unchanged k') : k'.Holds := by
  obtain ⟨s, hload, halike⟩ := hk.loaded
  exact ⟨h.store ▸ hk.kempt, h.made, s, (Folder.load_congr h.file).trans hload,
    h.store ▸ halike⟩

/-- What is written of settings in order is read as these settings. -/
theorem load_written (hk : (k.store.apply c).Kempt) :
    load (k.written c) = .ok (k.store.apply c).settled :=
  read_render hk

theorem Holds.changed (hk : k.Holds) (hc : c.Scalar) :
    Holds ⟨k.store.apply c, k.written c⟩ := by
  have hkempt := hk.kempt.apply hc
  exact ⟨hkempt, ⟨_, _, rfl⟩, _, load_written hkempt, hkempt.settled_alike⟩

/-- At any time the folder has the settings in it. -/
theorem Reached.holds (h : k.Reached) : k.Holds := by
  induction h with
  | opened h =>
      obtain ⟨hmade, hload⟩ := Folder.made_of_open h
      exact ⟨kempt_of_load hload, hmade, _, hload, .refl _⟩
  | @changed k k' c chances result _ hc hreturned ih =>
      have hsound : Making.Sound k c ⟨k', .returned result⟩ :=
        hreturned ▸ sound_making ih.made chances
      cases result with
      | error fault => exact ih.unchanged hsound
      | ok =>
          obtain rfl : k' = _ := hsound
          exact ih.changed hc

/-- Wherever the process stops, the settings are opened as they were before the change or as they
are after it. -/
theorem Holds.stopped (hk : k.Holds) (hc : c.Scalar) (h : m.Sound k c) :
    ∃ s, Settings.open m.kept.folder = (.ok s, m.kept.folder) ∧
      (m.kept.folder.file = k.folder.file ∧ s.Alike k.store ∨
        m.kept.folder.file = .file (k.bytesAfter c) ∧ s.Alike (k.store.apply c)) := by
  obtain ⟨hmade, hfile | hfile⟩ := h.file
  · obtain ⟨s, hload, halike⟩ := hk.loaded
    exact ⟨s, hmade.open_eq ((Folder.load_congr hfile).trans hload), .inl ⟨hfile, halike⟩⟩
  · have hkempt := hk.kempt.apply hc
    have hload : load m.kept.folder = .ok (k.store.apply c).settled :=
      (Folder.load_congr (f := k.written c) hfile).trans (load_written hkempt)
    exact ⟨_, hmade.open_eq hload, .inr ⟨hfile, hkempt.settled_alike⟩⟩

/-- A change is made altogether or not at all, whatever happens to its steps. If it fails, neither
the settings nor the file are other than before. If it succeeds, both have the change. Wherever the
process stops, the settings are opened as they were before the change or as they are after it,
whatever became of the staging file. That goes for a change that is made at once, too, for it is
one whose steps are all taken. -/
theorem atomic {k : Kept} {c : Store.Change} (hk : k.Reached) (hc : c.Scalar) :
    k.making c (List.replicate 3 .taken) = ⟨(k.apply c).2, .returned (k.apply c).1⟩ ∧
    ∀ chances,
      let m := k.making c chances
      (∀ fault, m.phase = .returned (.error fault) →
        m.kept.store = k.store ∧ m.kept.folder.file = k.folder.file) ∧
      (m.phase = .returned (.ok ()) → m.kept.store = k.store.apply c ∧
        m.kept.folder.file = .file (Text.Utf8.encode m.kept.store.render) ∧
          ∃ s, load m.kept.folder = .ok s ∧ s.Alike m.kept.store) ∧
      ∃ s, Settings.open m.kept.folder = (.ok s, m.kept.folder) ∧
        (m.kept.folder.file = k.folder.file ∧ s.Alike k.store ∨
          m.kept.folder.file = .file (Text.Utf8.encode (k.store.apply c).render) ∧
            s.Alike (k.store.apply c)) := by
  have hholds := hk.holds
  refine ⟨making_taken k c, fun chances => ?_⟩
  intro m
  have hsound : m.Sound k c := sound_making hholds.made chances
  refine ⟨fun fault hphase => ?_, fun hphase => ?_, hholds.stopped hc hsound⟩
  · have hsame := hsound.error hphase
    exact ⟨hsame.store, hsame.file⟩
  · rw [hsound.ok hphase]
    exact ⟨rfl, rfl, (hholds.changed hc).loaded⟩

/-- A first change of empty settings broke off and left something in the staging file. The next one
is refused, breaks off as well, or is made. -/
theorem atomic_leftover :
    let k : Kept := ⟨{}, .present .absent (.file [123])⟩
    let c : Store.Change := .setTrusted "phone" true
    let refused := k.making c [.taken, .failed (.io "denied"), .failed (.io "denied")]
    Reached k ∧ c.Scalar ∧
      (refused.phase = .returned (.error (.io "denied")) ∧ refused.kept.store = {} ∧
        refused.kept.folder.file = .absent) ∧
      (∃ s, Settings.open (k.making c [.spilt []]).kept.folder =
          (.ok s, .present .absent (.file [])) ∧ (s.trusted = [] ∨ s.trusted = ["phone"])) ∧
      (k.apply c).1 = .ok () ∧ (k.apply c).2.store.trusted = ["phone"] ∧
        ∃ s, load (k.apply c).2.folder = .ok s ∧ s.trusted = ["phone"] := by
  intro k c refused
  have hopened : Reached ⟨{}, .present .absent .absent⟩ := .opened (f := .absent) rfl
  have hbroken : making ⟨{}, .present .absent .absent⟩ (.clearScope "phone")
      [.spilt [123], .failed (.io "no space")] = ⟨k, .returned (.error (.io "no space"))⟩ := rfl
  have hreached : Reached k := .changed (c := .clearScope "phone") hopened trivial hbroken
  have hscalar : c.Scalar := trivial
  obtain ⟨happly, hall⟩ := atomic hreached hscalar
  refine ⟨hreached, hscalar, ⟨rfl, (hall _).1 (.io "denied") rfl⟩, ?_, ?_⟩
  · obtain ⟨s, hopen, ⟨-, halike⟩ | ⟨-, halike⟩⟩ := (hall [.spilt []]).2.2
    · exact ⟨s, hopen, .inl halike.trusted⟩
    · exact ⟨s, hopen, .inr halike.trusted⟩
  · have hok : (k.apply c).1 = .ok () := rfl
    obtain ⟨hstore, -, s, hload, halike⟩ :=
      (hall (List.replicate 3 .taken)).2.1 (by rw [happly, hok])
    rw [happly] at hstore hload halike
    have htrusted : (k.apply c).2.store.trusted = ["phone"] := congrArg Store.trusted hstore
    exact ⟨hok, htrusted, s, hload, halike.trusted.trans htrusted⟩

end Kept

end Settings

end Tether
