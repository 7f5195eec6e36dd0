import Tether.Fault
import Tether.Settings.Document
import Tether.Text.Utf8

/-!
# Settings in a file

A store is kept as one file in a folder. A change is written to a staging file first,
which then takes the place of the file in one step, and only after that do the
settings in memory change. So whatever fails, and wherever the process stops, file
and memory each hold the settings before the change or those after it.

The folder is a value, and a change of it is made in steps. `Kept.apply` takes all of
them, and only what is in the folder can be in the way. `Kept.making` takes one at a
time, and any of them may fail or be the last before the process stops.
-/

namespace Tether.Settings

/-- What is found under a name in the folder. -/
inductive Entry where
  | absent
  | file (content : List UInt8)
  | directory
deriving DecidableEq, Repr

/-- The folder that holds the settings. -/
inductive Folder where
  | absent
  /-- A file stands where the folder should be. -/
  | blocked
  | present (file staging : Entry)
deriving DecidableEq, Repr

namespace Folder

/-- What is at the path of the settings. -/
def file : Folder → Entry
  | present file _ => file
  | _ => .absent

/-- What is at the path of the staging file. -/
def staging : Folder → Entry
  | present _ staging => staging
  | _ => .absent

/-- A step on the way to a changed file. -/
inductive Step where
  /-- Write the staging file. -/
  | stage (content : List UInt8)
  /-- Put the staging file in place of the file. -/
  | commit
deriving DecidableEq, Repr

/-- Take a step; `none` if the folder does not admit it. -/
def step? : Folder → Step → Option Folder
  | present _ .directory, .stage _ => none
  | present file _, .stage content => some (present file (.file content))
  | present .directory _, .commit => none
  | present _ (.file content), .commit => some (present (.file content) .absent)
  | _, _ => none

/-- The folder without a staging file. -/
def discard : Folder → Folder
  | present file (.file _) => present file .absent
  | f => f

/-- Put a text in place. If the staging file cannot take the place of the file, it is
removed again. -/
def replace (f : Folder) (text : String) : Except Fault Unit × Folder :=
  match f.step? (.stage (Text.Utf8.encode text)) with
  | none => (.error (.io "cannot write"), f)
  | some staged =>
      match staged.step? .commit with
      | some done => (.ok (), done)
      | none => (.error (.io "cannot rename"), staged.discard)

/-- Make the folder if it is not there. -/
def create : Folder → Except Fault Folder
  | absent => .ok (present .absent .absent)
  | blocked => .error (.io "not a directory")
  | f => .ok f

end Folder

/-- The settings in a file's content. -/
def read (content : List UInt8) : Except Fault Store :=
  match Text.Utf8.decode? content with
  | none => .error (.io "not text")
  | some text =>
      match Store.parse? text with
      | some s => .ok s
      | none => .error (.json "not a settings document")

/-- The settings in a folder that is there. -/
def load (f : Folder) : Except Fault Store :=
  match f.file with
  | .absent => .ok {}
  | .file content => read content
  | .directory => .error (.io "is a directory")

/-- Open the settings in a folder. The folder is made even if what it holds cannot be
read. -/
def «open» (f : Folder) : Except Fault Store × Folder :=
  match f.create with
  | .error e => (.error e, f)
  | .ok f => (load f, f)

/-- Settings together with the folder they are kept in. -/
structure Kept where
  store : Store
  folder : Folder
deriving DecidableEq, Repr

/-- Change settings that are kept in a folder. -/
def Kept.apply (k : Kept) (c : Store.Change) : Except Fault Unit × Kept :=
  let store := k.store.apply c
  match k.folder.replace store.render with
  | (.ok (), folder) => (.ok (), ⟨store, folder⟩)
  | (.error e, folder) => (.error e, ⟨k.store, folder⟩)

/-! ## Changes in the making -/

/-- How far a change has come. -/
inductive Phase where
  /-- The staging file is to be written. -/
  | staging
  /-- It is to take the place of the file. -/
  | moving
  /-- It could not, and is to be removed. -/
  | removing (fault : Fault)
  /-- It did, and the settings in memory are to change. -/
  | moved
  | returned (result : Except Fault Unit)

/-- What happens next to a change. -/
inductive Chance where
  /-- The next step is taken, if the folder admits it. -/
  | taken
  /-- The next step fails. -/
  | failed (fault : Fault)
  /-- While the staging file is written, this is what it has in it. -/
  | spilt (content : List UInt8)

/-- A change in the making. If the process stops, the folder is what remains of it. -/
structure Making where
  kept : Kept
  phase : Phase

/-- A change goes on. -/
def Making.next (c : Store.Change) (m : Making) (chance : Chance) : Making :=
  match m.phase, chance with
  | .staging, .taken =>
      match m.kept.folder.step? (.stage (Text.Utf8.encode (m.kept.store.apply c).render)) with
      | some staged => ⟨{ m.kept with folder := staged }, .moving⟩
      | none => { m with phase := .returned (.error (.io "cannot write")) }
  | .staging, .failed fault => { m with phase := .returned (.error fault) }
  | .staging, .spilt content =>
      match m.kept.folder.step? (.stage content) with
      | some spoilt => { m with kept.folder := spoilt }
      | none => m
  | .moving, .taken =>
      match m.kept.folder.step? .commit with
      | some done => ⟨{ m.kept with folder := done }, .moved⟩
      | none => { m with phase := .removing (.io "cannot rename") }
  | .moving, .failed fault => { m with phase := .removing fault }
  | .removing fault, .taken =>
      ⟨{ m.kept with folder := m.kept.folder.discard }, .returned (.error fault)⟩
  -- that the staging file remains is not told
  | .removing fault, .failed _ => { m with phase := .returned (.error fault) }
  | .moved, .taken =>
      ⟨{ m.kept with store := m.kept.store.apply c }, .returned (.ok ())⟩
  -- memory does not fail, and what has returned is over
  | _, _ => m

/-- A change of settings that are kept in a folder, as far as it comes by some chances. -/
def Kept.making (k : Kept) (c : Store.Change) (chances : List Chance) : Making :=
  chances.foldl (Making.next c) ⟨k, .staging⟩

end Tether.Settings
