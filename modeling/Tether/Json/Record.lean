import Tether.Json.Parser

/-!
# Reading records

A record is an object whose fields are known beforehand, or an array with the fields
in their order. Each field brings the reader of its value, and that reader sees the
text: what a value does not tell any more, such as a key that came twice, can still be
refused there. A field that nobody asked for is skimmed.
-/

namespace Tether.Json

/-- The name of a field, with the reader of its value. -/
abbrev Field := String × Reader Json

/-- The value of a field. It stands inside a record, one deeper than the text. -/
def fieldValue? : Reader Json :=
  value? (maxDepth - 1)

/-- The value of a field that is no object, or an object in which no key comes
twice. -/
def strictValue? : Reader Json := fun cs =>
  match members? (value? (maxDepth - 2)) cs with
  | some (ms, rest) =>
      if (ms.map Prod.fst).Nodup then some (obj (Dict.ofEntries ms), rest) else none
  | none => fieldValue? cs

/-- The value of a field that is an object of objects. What is under a key is an object
also where the key comes again and another value takes its place. -/
def layers? : Reader Json := fun cs =>
  (members? (members? (value? (maxDepth - 3))) cs).map fun (layers, rest) =>
    (obj (Dict.ofEntries (layers.map fun e => (e.1, obj (Dict.ofEntries e.2)))), rest)

/-- A member of a record: the value of a known field is read, that of any other is
skimmed. -/
def recordMember? (fields : List Field) : Reader (Option (String × Json)) := fun cs => do
  let (k, rest) ← key? cs
  match fields.lookup k with
  | some read =>
      let (v, rest) ← read rest
      some (some (k, v), rest)
  | none =>
      let (_, rest) ← skim? rest.length rest
      some (none, rest)

/-- The known fields of a record after its opening brace, in the order of the text. -/
def named? (fields : List Field) : Reader (List (String × Json)) := fun cs =>
  (contents? (recordMember? fields) '}' cs).map fun (ms, rest) => (ms.filterMap id, rest)

/-- The values of the first field and some that follow it, up to the closing bracket. -/
def inOrder? : List Field → Reader (List (String × Json))
  | [], _ => none
  | (k, read) :: fields, cs => do
      let (v, rest) ← read cs
      match skipBlank rest with
      | ',' :: rest =>
          let (vs, rest) ← inOrder? fields rest
          some ((k, v) :: vs, rest)
      | ']' :: rest => some ([(k, v)], rest)
      | _ => none

/-- The fields of a record after its opening bracket. The last ones may be missing. -/
def listed? (fields : List Field) : Reader (List (String × Json)) := fun cs =>
  match skipBlank cs with
  | ']' :: rest => some ([], rest)
  | cs => inOrder? fields cs

/-- The known fields of the record that a text consists of: an object, in which no known
field comes twice, or an array with the fields in their order. -/
def parseRecord? (fields : List Field) (s : String) : Option (Dict Json) := do
  let (found, rest) ←
    match skipBlank s.toList with
    | '{' :: rest => named? fields rest
    | '[' :: rest => listed? fields rest
    | _ => none
  if skipBlank rest = [] ∧ (found.map Prod.fst).Nodup then some (Dict.ofEntries found) else none

end Tether.Json
