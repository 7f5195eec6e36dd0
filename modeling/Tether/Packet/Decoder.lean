import Tether.Fault
import Tether.Json.Parser
import Tether.Json.Printer
import Tether.Packet.Basic
import Tether.Text.Quoted
import Tether.Text.Utf8

/-!
# Reading packets

A packet is read in one pass over the text. Fields are checked as they come, and
the first problem met is the one reported, be it a field of the wrong type or text
that is no JSON at all. Whether a field that is required has come is known only at
the end of the object.
-/

namespace Tether.Packet

/-- What a value is found to be where another was expected. -/
inductive Found where
  | null
  | bool (value : Bool)
  | integer (value : Int)
  | float (bits : UInt64)
  | string (value : String)
  | sequence
  | map
deriving DecidableEq, Repr

/-- Why a text is no packet. -/
inductive Flaw where
  /-- The text is no JSON. -/
  | malformed
  /-- The id is a number that is no integer of sixty-four bits. -/
  | idNumber
  /-- The id is a string that does not spell such an integer. -/
  | idString
  /-- The id is neither a number nor a string. -/
  | idKind
  /-- A value has another type than its field. -/
  | wrongType (found : Found) (expected : String)
  /-- An integer is too large for its field. -/
  | tooLarge (value : Int)
  /-- A field comes twice. -/
  | duplicate (field : String)
  /-- A field does not come. -/
  | missing (field : String)
deriving DecidableEq, Repr

/-- How a value is described. -/
def Found.describe : Found → String
  | null => "null"
  | bool b => "boolean `" ++ (if b then "true" else "false") ++ "`"
  | integer n => "integer `" ++ String.ofList (Json.Number.intChars n) ++ "`"
  | float bits => "floating point `" ++ String.ofList (Json.Number.floatChars bits) ++ "`"
  | string s => "string " ++ Text.quoted s
  | sequence => "sequence"
  | map => "map"

/-- The text of a flaw. -/
def Flaw.reason : Flaw → String
  | malformed => "syntax"
  | idNumber => "Invalid number for id"
  | idString => "Invalid string for id"
  | idKind => "id must be a number or string"
  | wrongType found expected => "invalid type: " ++ found.describe ++ ", expected " ++ expected
  | tooLarge n =>
      "invalid value: " ++ (Found.integer n).describe ++ ", expected i64"
  | duplicate field => "duplicate field `" ++ field ++ "`"
  | missing field => "missing field `" ++ field ++ "`"

/-- The fault a flaw amounts to. -/
def Flaw.fault (flaw : Flaw) : Fault :=
  .invalidPacket ("Failed to deserialize packet: " ++ flaw.reason)

/-- Takes a value off the start of a text, or says what is wrong with it. -/
abbrev Taker (α : Type) := List Char → Except Flaw (α × List Char)

/-- A reader as a taker: text that it refuses is malformed. -/
def grammar {α : Type} (reader : Json.Reader α) : Taker α := fun cs =>
  match reader cs with
  | some r => .ok r
  | none => .error .malformed

/-- The flaw of a value whose field expects another. Scalars are read first, so
that a malformed one is reported as that; containers are not looked into. -/
def mismatch (expected : String) (cs : List Char) : Flaw :=
  match cs with
  | '[' :: _ => .wrongType .sequence expected
  | '{' :: _ => .wrongType .map expected
  | _ =>
      match Json.value? 0 cs with
      | some (.null, _) => .wrongType .null expected
      | some (.bool b, _) => .wrongType (.bool b) expected
      | some (.num (.int n), _) => .wrongType (.integer n) expected
      | some (.num (.float bits), _) => .wrongType (.float bits) expected
      | some (.str s, _) => .wrongType (.string s) expected
      | _ => .malformed

/-- How deeply the value of a field may nest: the packet itself is one level. -/
def fieldDepth : Nat := Json.maxDepth - 1

/-- The least and the greatest integer of sixty-four bits. -/
def inWord (n : Int) : Bool :=
  -9223372036854775808 ≤ n && n < 9223372036854775808

/-- The integer that a string spells: digits after a sign or none. -/
def idOfString? (s : String) : Option Int :=
  let (neg, ds) :=
    match s.toList with
    | '-' :: ds => (true, ds)
    | '+' :: ds => (false, ds)
    | ds => (false, ds)
  if ds ≠ [] ∧ ds.all Char.isDigit then
    let n : Int := Json.Literal.natOf (ds.map Json.digitValue)
    let n := if neg then -n else n
    if inWord n then some n else none
  else none

/-- The id a value stands for. -/
def idOf : Json → Except Flaw Int
  | .num (.int n) => if inWord n then .ok n else .error .idNumber
  | .num (.float _) => .error .idNumber
  | .str s =>
      match idOfString? s with
      | some n => .ok n
      | none => .error .idString
  | _ => .error .idKind

/-- The value of the field `id`. -/
def takeId : Taker Int := fun cs => do
  let (j, rest) ← grammar (Json.value? fieldDepth) cs
  let n ← idOf j
  .ok (n, rest)

/-- The value of the field `type`. -/
def takeType : Taker String := fun cs =>
  match Json.skipBlank cs with
  | '\"' :: rest => grammar Json.string? rest
  | cs => .error (mismatch "a string" cs)

/-- An object. -/
def takeMap : Taker (Dict Json) := fun cs =>
  match Json.skipBlank cs with
  | '{' :: rest => do
      let (j, rest) ← grammar (Json.value? fieldDepth) ('{' :: rest)
      .ok (j.obj?.getD [], rest)
  | cs => .error (mismatch "a map" cs)

/-- The null that a text starts with, or what a taker makes of it. -/
def takeOptional {α : Type} (taker : Taker α) : Taker (Option α) := fun cs =>
  match Json.skipBlank cs with
  | 'n' :: rest => do
      let (_, rest) ← grammar (Json.value? 0) ('n' :: rest)
      .ok (none, rest)
  | cs => do
      let (v, rest) ← taker cs
      .ok (some v, rest)

/-- An integer of sixty-four bits. -/
def takeSize : Taker Int := fun cs =>
  let cs := Json.skipBlank cs
  match cs with
  | '[' :: _ | '{' :: _ => .error (mismatch "i64" cs)
  | _ =>
      match Json.value? 0 cs with
      | some (.num (.int n), rest) => if inWord n then .ok (n, rest) else .error (.tooLarge n)
      | _ => .error (mismatch "i64" cs)

/-- The fields read so far. -/
structure Draft where
  id : Option Int := none
  type : Option String := none
  body : Option (Dict Json) := none
  payloadSize : Option (Option Int) := none
  payloadTransferInfo : Option (Option (Dict Json)) := none
  extra : Dict Json := []

/-- The colon after a key. -/
def takeColon (cs : List Char) : Except Flaw (List Char) :=
  match Json.skipBlank cs with
  | ':' :: rest => .ok rest
  | _ => .error .malformed

/-- The rest of a member after its key. A key that came before is refused before
its value is looked at. -/
def takeField (draft : Draft) (key : String) (cs : List Char) :
    Except Flaw (Draft × List Char) :=
  if key = "id" then
    if draft.id.isSome then .error (.duplicate key)
    else do
      let (v, rest) ← takeId (← takeColon cs)
      .ok ({ draft with id := some v }, rest)
  else if key = "type" then
    if draft.type.isSome then .error (.duplicate key)
    else do
      let (v, rest) ← takeType (← takeColon cs)
      .ok ({ draft with type := some v }, rest)
  else if key = "body" then
    if draft.body.isSome then .error (.duplicate key)
    else do
      let (v, rest) ← takeMap (← takeColon cs)
      .ok ({ draft with body := some v }, rest)
  else if key = "payloadSize" then
    if draft.payloadSize.isSome then .error (.duplicate key)
    else do
      let (v, rest) ← takeOptional takeSize (← takeColon cs)
      .ok ({ draft with payloadSize := some v }, rest)
  else if key = "payloadTransferInfo" then
    if draft.payloadTransferInfo.isSome then .error (.duplicate key)
    else do
      let (v, rest) ← takeOptional takeMap (← takeColon cs)
      .ok ({ draft with payloadTransferInfo := some v }, rest)
  else do
    let (v, rest) ← grammar (Json.value? fieldDepth) (← takeColon cs)
    .ok ({ draft with extra := Dict.put key v draft.extra }, rest)

/-- A member. -/
def takeMember (draft : Draft) (cs : List Char) : Except Flaw (Draft × List Char) :=
  match Json.skipBlank cs with
  | '\"' :: rest => do
      let (key, rest) ← grammar Json.string? rest
      takeField draft key rest
  | _ => .error .malformed

/-- One member or more, up to the closing bracket. -/
def takeMembers : Nat → Draft → List Char → Except Flaw (Draft × List Char)
  | 0, _, _ => .error .malformed
  | fuel + 1, draft, cs => do
      let (draft, rest) ← takeMember draft cs
      match Json.skipBlank rest with
      | ',' :: rest => takeMembers fuel draft rest
      | '}' :: rest => .ok (draft, rest)
      | _ => .error .malformed

/-- The packet that the fields make up. -/
def Draft.finish (draft : Draft) : Except Flaw Packet :=
  match draft.id, draft.type with
  | none, _ => .error (.missing "id")
  | some _, none => .error (.missing "type")
  | some id, some type =>
      .ok ⟨id, type, draft.body.getD [], draft.payloadSize.join, draft.payloadTransferInfo.join,
        draft.extra⟩

/-- The packet that a text consists of. -/
def decode (cs : List Char) : Except Flaw Packet :=
  match Json.skipBlank cs with
  | '{' :: rest => do
      let (draft, rest) ←
        match Json.skipBlank rest with
        | '}' :: rest => .ok ({}, rest)
        | cs => takeMembers cs.length {} cs
      let packet ← draft.finish
      if Json.skipBlank rest = [] then .ok packet else .error .malformed
  | cs => .error (mismatch "struct Packet" cs)

/-- A line without its end. -/
def stripEnd (cs : List Char) : List Char :=
  match cs.reverse with
  | '\n' :: '\r' :: rest => rest.reverse
  | '\n' :: rest => rest.reverse
  | _ => cs

/-- The packet that a line consists of, with its end or without. -/
def parseFlaw (s : String) : Except Flaw Packet :=
  decode (stripEnd s.toList)

/-- The packet that bytes consist of. Bytes that are no text end the text where it
stops making sense: what comes before is read first, and a flaw found there is the
one reported. -/
def ofBytesFlaw (bytes : List UInt8) : Except Flaw Packet :=
  match Text.Utf8.decode bytes with
  | (cs, true) => decode (stripEnd cs)
  | (cs, false) => do
      let _ ← decode cs
      .error .malformed

/-- The packet that a line consists of, with its end or without. -/
def parse (s : String) : Except Fault Packet :=
  (parseFlaw s).mapError Flaw.fault

/-- The packet that bytes consist of. -/
def ofBytes (bytes : List UInt8) : Except Fault Packet :=
  (ofBytesFlaw bytes).mapError Flaw.fault

end Tether.Packet
