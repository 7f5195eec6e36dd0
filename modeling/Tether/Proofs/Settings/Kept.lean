import Tether.Proofs.Settings.Document

/-!
# Settings that are kept in a file

Where the folder admits it, a change is written and takes effect, and the file has the text of
the settings in memory from then on. So at any time the folder can be opened again and has the
same settings in it (`Sound.reopen`). That is one invariant, and it says three things: the
settings are in order and have no floats, the folder admits a change, and what it has in it are
the settings (`Sound`). It holds of a folder without settings, and changes keep it.
-/

namespace Tether.Settings

/-- Nothing in the folder is in the way of a change. -/
def Folder.Ready : Folder → Prop
  | present file staging => file ≠ .directory ∧ staging ≠ .directory
  | _ => False

/-- No settings have been written into the folder, and nothing is in the way of it. -/
def Folder.Fresh : Folder → Prop
  | absent => True
  | blocked => False
  | present file staging => file = .absent ∧ staging ≠ .directory

namespace Kept

/-- The folder admits a change and has the settings in it. -/
structure Sound (k : Kept) : Prop where
  kempt : k.store.Kempt
  floatless : k.store.Floatless
  ready : k.folder.Ready
  loaded : load k.folder = .ok k.store

/-- Nothing fails where nothing is in the way. -/
theorem apply_ready {k : Kept} (h : k.folder.Ready) (c : Store.Change) :
    k.apply c = (.ok (), ⟨k.store.apply c,
      .present (.file (Text.Utf8.encode (k.store.apply c).render)) .absent⟩) := by
  obtain ⟨store, folder⟩ := k
  cases folder with
  | absent => exact h.elim
  | blocked => exact h.elim
  | present file staging =>
      obtain ⟨hfile, hstaging⟩ := h
      cases file <;> cases staging <;> first | rfl | contradiction

/-- A change is made in memory and in the folder. -/
theorem Sound.apply {k : Kept} (h : k.Sound) {c : Store.Change} (hc : c.Scalar) :
    ∃ k' : Kept, k.apply c = (.ok (), k') ∧ k'.store = k.store.apply c ∧ k'.Sound := by
  have hkempt := h.kempt.apply hc
  have hfloats := h.floatless.apply hc
  refine ⟨_, apply_ready h.ready c, rfl, hkempt, hfloats, ⟨nofun, nofun⟩, ?_⟩
  rw [load, Folder.file]
  simp only [read_render hkempt, hkempt.settled_eq hfloats]

/-- The settings are found again in the folder they are kept in. -/
theorem Sound.reopen {k : Kept} (h : k.Sound) :
    Settings.open k.folder = (.ok k.store, k.folder) := by
  obtain ⟨store, folder⟩ := k
  cases folder with
  | absent => exact h.ready.elim
  | blocked => exact h.ready.elim
  | present file staging => exact congrArg (·, _) h.loaded

/-- A folder without settings is opened as empty settings. -/
theorem sound_fresh {f : Folder} (h : f.Fresh) :
    ∃ f', Settings.open f = (.ok {}, f') ∧ Sound ⟨{}, f'⟩ := by
  cases f with
  | absent => exact ⟨_, rfl, Store.kempt_empty, nofun, ⟨nofun, nofun⟩, rfl⟩
  | blocked => exact h.elim
  | present file staging =>
      obtain ⟨rfl, hstaging⟩ := h
      exact ⟨_, rfl, Store.kempt_empty, nofun, ⟨nofun, hstaging⟩, rfl⟩

end Kept

end Tether.Settings
