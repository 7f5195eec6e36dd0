import Tether.Dict

/-!
# TOML documents

A document is a table, and a table grows while the document is read. Where a table
came from decides what may still be added to it: one that a header defined is not
defined again, one that only lies on the path of a header still can be, one that
dotted keys made takes only further dotted keys, and an inline table is closed.

`within` is the one way down a path. It makes the tables that are missing, and it
refuses to pass through a value.
-/

namespace Tether

/-- How a table came to be. -/
inductive Toml.Origin where
  /-- A header names it. -/
  | header
  /-- It lies on the path of a header. -/
  | path
  /-- It lies on the path of a dotted key. -/
  | dotted
  /-- It is written as a value. -/
  | inlined
deriving DecidableEq, Repr

/-- A value of a document. Floats and dates are kept as they are written. -/
inductive Toml where
  | string (value : String)
  | integer (value : Int)
  | float (literal : String)
  | boolean (value : Bool)
  | datetime (literal : String)
  | array (items : List Toml)
  | table (origin : Toml.Origin) (entries : List (String × Toml))
  /-- The tables that a header in double brackets adds up to. -/
  | tables (elements : List Toml)
deriving Repr

namespace Toml

/-- The table of an empty document. -/
def empty : Toml := table .header []

/-- The value of a key of a table. -/
def find? : Toml → String → Option Toml
  | table _ entries, key => Dict.find? entries key
  | _, _ => none

/-- Change the last element of a list. -/
def onLast? (f : Toml → Option Toml) : List Toml → Option (List Toml)
  | [] => none
  | [x] => (f x).map ([·])
  | x :: y :: rest => (onLast? f (y :: rest)).map (x :: ·)

/-- Whether a path may lead through a table of an origin. -/
def Origin.passes (dotted : Bool) : Origin → Bool
  | header => !dotted
  | path => true
  | Origin.dotted => true
  | inlined => false

/-- Change the table at a path. In an array of tables the path leads into the last
one. -/
def within (dotted : Bool) (change : Toml → Option Toml) : List String → Toml → Option Toml
  | [], t => change t
  | key :: rest, table origin entries =>
      match (Dict.find? entries key).getD (table (if dotted then .dotted else .path) []) with
      | tables elements =>
          (onLast? (within dotted change rest) elements).map fun elements =>
            table origin (Dict.put key (tables elements) entries)
      | table o es =>
          if o.passes dotted then
            (within dotted change rest (table o es)).map fun child =>
              table origin (Dict.put key child entries)
          else none
      | _ => none
  | _ :: _, _ => none

/-- Store a value under a key that has none. Dotted keys add to tables that dotted
keys made, and plain keys to the others. -/
def store (dotted : Bool) (key : String) (value : Toml) : Toml → Option Toml
  | table origin entries =>
      if (origin == .dotted) = dotted ∧ !Dict.has entries key then
        some (table origin (Dict.put key value entries))
      else none
  | _ => none

/-- Store a value under the key at the end of a dotted path. -/
def assign (path : List String) (key : String) (value : Toml) (t : Toml) : Option Toml :=
  within true (store (!path.isEmpty) key value) path t

/-- Define the table that a header names. -/
def define (key : String) : Toml → Option Toml
  | table origin entries =>
      match Dict.find? entries key with
      | none => some (table origin (Dict.put key (table .header []) entries))
      | some (table .path es) => some (table origin (Dict.put key (table .header es) entries))
      | some _ => none
  | _ => none

/-- Add the table that a header in double brackets names. -/
def extend (key : String) : Toml → Option Toml
  | table origin entries =>
      match Dict.find? entries key with
      | none => some (table origin (Dict.put key (tables [empty]) entries))
      | some (tables elements) =>
          some (table origin (Dict.put key (tables (elements ++ [empty])) entries))
      | some _ => none
  | _ => none

/-- The table of inline pairs, each a dotted path with its key and value. -/
def inline? (pairs : List ((List String × String) × Toml)) : Option Toml := do
  let t ← pairs.foldlM (fun t p => assign p.1.1 p.1.2 p.2 t) empty
  match t with
  | table _ entries => some (table .inlined entries)
  | _ => none

end Toml

end Tether
