import Tether.Json.Printer
import Tether.Json.Record
import Tether.Settings.Store

/-!
# Settings as a document

The text a store is kept as, and the store that a text is. Both fields may be missing
and are empty then; null is not a way of leaving them out.
-/

namespace Tether.Store

/-- The fields of the document. -/
def documentFields : List Json.Field :=
  [("trusted_devices", Json.fieldValue?), ("scopes", Json.layers?)]

/-- The document of a store. -/
def toJson (s : Store) : Json :=
  .obj
    [("trusted_devices", .arr (s.trusted.map Json.str)),
      ("scopes", .obj (s.scopes.map fun e => (e.1, .obj e.2)))]

/-- The text of a store. -/
def render (s : Store) : String :=
  s.toJson.prettyText

/-- The trusted ids in a document. -/
def trustedOf? (d : Dict Json) : Option Roll :=
  match Dict.find? d "trusted_devices" with
  | none => some []
  | some j => j.strings?.map Roll.ofList

/-- The scopes in a document, each of which is an object. -/
def scopesOf? (d : Dict Json) : Option (Dict (Dict Json)) :=
  match Dict.find? d "scopes" with
  | none => some []
  | some j => do
      let scopes ← j.obj?
      scopes.mapM fun e => e.2.obj?.map fun entries => (e.1, entries)

/-- The store that a text is. -/
def parse? (text : String) : Option Store := do
  let d ← Json.parseRecord? documentFields text
  let trusted ← trustedOf? d
  let scopes ← scopesOf? d
  some { trusted, scopes }

end Tether.Store
