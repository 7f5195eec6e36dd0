import Tether.Json.Basic

/-!
# Classes of devices

What a device is. On the wire a class travels as a word, which is read leniently:
a word that names no class is a desktop. In stored documents it is read strictly.
-/

namespace Tether

/-- The class of a device. -/
inductive DeviceKind where
  | phone
  | tablet
  | desktop
  | tv
deriving DecidableEq, Repr

namespace DeviceKind

instance : Inhabited DeviceKind := ⟨desktop⟩

/-- The word for a class. -/
def word : DeviceKind → String
  | phone => "phone"
  | tablet => "tablet"
  | desktop => "desktop"
  | tv => "tv"

/-- The class a word stands for. -/
def ofWord? (s : String) : Option DeviceKind :=
  if s = "phone" then some phone
  else if s = "tablet" then some tablet
  else if s = "desktop" then some desktop
  else if s = "tv" then some tv
  else none

/-- The class a word stands for, or a desktop. -/
def ofWord (s : String) : DeviceKind :=
  if s = "phone" then phone
  else if s = "tablet" then tablet
  else if s = "tv" then tv
  else desktop

/-- The class that a stored value is: its word, or an object that has the word as
its only key and null under it. -/
def ofJson? : Json → Option DeviceKind
  | .str s => ofWord? s
  | .obj [(s, .null)] => ofWord? s
  | _ => none

theorem ofWord?_word (k : DeviceKind) : ofWord? k.word = some k := by
  cases k <;> decide

theorem ofWord_word (k : DeviceKind) : ofWord k.word = k := by
  cases k <;> decide

end DeviceKind

end Tether
