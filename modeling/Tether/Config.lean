import Tether.Fault
import Tether.Json.Number
import Tether.Text.Utf8
import Tether.Toml.Parser

/-!
# Configuration

How long to wait, and where settings are kept. A file names what differs from the
defaults. Waiting times are words of sixty-four bits here, but the file's integers
have a sign: what is larger than they hold cannot be written. A waiting time of zero
can be written and is refused when it is read.
-/

namespace Tether

/-- The configuration. -/
structure Config where
  /-- Seconds until an unanswered request to pair fails. -/
  pairingTimeout : Nat := 10
  /-- Seconds that a blocking send waits for its payload to arrive. -/
  payloadTimeout : Nat := 10
  /-- Where settings are kept; `none` is the place usual for the platform. -/
  settingsPath : Option String := none
deriving DecidableEq, Repr

namespace Config

/-- The keys of the file. -/
def pairingKey : String := "pairing_timeout_secs"

@[inherit_doc pairingKey]
def payloadKey : String := "payload_confirmation_timeout_secs"

@[inherit_doc pairingKey]
def pathKey : String := "settings_path"

/-- The natural number under a key, or a default if the key is missing. -/
def nat? (t : Toml) (key : String) (default : Nat) : Option Nat :=
  match t.find? key with
  | none => some default
  | some (.integer n) => if 0 ≤ n then some n.toNat else none
  | some _ => none

/-- The text under a key, if the key is there. -/
def text? (t : Toml) (key : String) : Option (Option String) :=
  match t.find? key with
  | none => some none
  | some (.string s) => some (some s)
  | some _ => none

/-- The configuration in a document; other keys mean nothing. -/
def ofToml? (t : Toml) : Option Config := do
  let pairingTimeout ← nat? t pairingKey 10
  let payloadTimeout ← nat? t payloadKey 10
  let settingsPath ← text? t pathKey
  some { pairingTimeout, payloadTimeout, settingsPath }

/-- Refuses waiting times of zero. -/
def validate (c : Config) : Except Fault Config :=
  if c.pairingTimeout = 0 then
    .error (.configuration (pairingKey ++ " must be greater than zero"))
  else if c.payloadTimeout = 0 then
    .error (.configuration (payloadKey ++ " must be greater than zero"))
  else .ok c

/-- The configuration in a text. -/
def parse (s : String) : Except Fault Config :=
  match (Toml.parse? s).bind ofToml? with
  | some c => c.validate
  | none => .error (.toml "not a configuration")

/-- The greatest integer of a file. -/
def maxInteger : Nat := 9223372036854775807

/-- A key with its written value on a line. -/
def line (key : String) (value : List Char) : List Char :=
  key.toList ++ " = ".toList ++ value ++ ['\n']

/-- The text of a configuration whose settings are kept at a path, or a fault if a
waiting time is larger than an integer of the file. -/
def render (c : Config) (path : String) : Except Fault String :=
  if c.pairingTimeout ≤ maxInteger ∧ c.payloadTimeout ≤ maxInteger then
    .ok <| String.ofList <|
      line pairingKey (Json.Number.natChars c.pairingTimeout)
        ++ line payloadKey (Json.Number.natChars c.payloadTimeout)
        ++ line pathKey (Toml.Text.write path)
  else .error (.configuration "Failed to serialize: out of range")

/-- What is found at the path of a configuration file. -/
inductive Place where
  | absent
  | file (text : String)
  /-- A file by its bytes, which need not be text. -/
  | bytes (content : List UInt8)
  | directory
deriving DecidableEq, Repr

/-- The configuration at a place. Without a file the defaults hold. -/
def load : Place → Except Fault Config
  | .absent => .ok {}
  | .file text => parse text
  | .bytes content =>
      match Text.Utf8.decode? content with
      | some text => parse text
      | none => .error (.io "not text")
  | .directory => .error (.io "is a directory")

/-- The place with a text in it, in place of what was there. -/
def Place.overwrite (text : String) : Place → Except Fault Place
  | directory => .error (.io "is a directory")
  | _ => .ok (file text)

/-- What comes of saving at a place, in a directory that can or cannot be made, and what
the place holds then. The text is made before anything is written, so that a fault leaves
the place as it was. Settings without a path of their own are at the usual one. -/
def saveAt (c : Config) (usual : String) (writable : Bool) (place : Place) :
    Except Fault Unit × Place :=
  if writable then
    match (c.render (c.settingsPath.getD usual)).bind place.overwrite with
    | .ok written => (.ok (), written)
    | .error e => (.error e, place)
  else (.error (.io "not a directory"), place)

/-- What a place without a file holds after saving. -/
def save (c : Config) (usual : String) (writable : Bool) : Except Fault Place :=
  match c.saveAt usual writable .absent with
  | (.ok (), place) => .ok place
  | (.error e, _) => .error e

end Config

end Tether
