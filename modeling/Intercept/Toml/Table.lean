import Intercept.Document.Basic

/-!
# Tables under construction

A configuration text fills one root table, statement by statement. A table is opened by a header, as
a step on the way to another table, or by a dotted key, and remembers which: a header may complete a
table that was only passed through, but no table is opened twice, and dotted keys only enter tables
that dotted keys have made.
-/

namespace Intercept.Toml

/-- How a table came to be. -/
inductive Origin where
  /-- On the way of a header to another table. -/
  | passed
  /-- On the way of a dotted key. -/
  | dotted
  /-- By a header of its own, or as the root. -/
  | opened
deriving DecidableEq

/-- What a key of a table stands for. -/
inductive Item where
  | value (d : Document)
  | table (origin : Origin) (entries : List (String × Item))
  /-- Tables that share a header, the latest one apart and the others from new to old. -/
  | tables (earlier : List (List (String × Item))) (latest : List (String × Item))

/-- The contents of a table. -/
abbrev Entries := List (String × Item)

namespace Entries

/-- Replace the item of a key, or add one for a new key. -/
def alter (k : String) (f : Option Item → Option Item) : Entries → Option Entries
  | [] => (f none).map fun i => [(k, i)]
  | (k', i) :: es =>
    if k' = k then (f (some i)).map fun i => (k', i) :: es
    else (alter k f es).map fun es => (k', i) :: es

/-- Change the table at the end of a path of keys. Tables that are missing on the way are made; of
tables that share a header the latest one is meant. Dotted keys do not enter a table that a header
has opened. -/
def descend (byDots : Bool) (f : Origin → Entries → Option Entries) :
    List String → Origin → Entries → Option Entries
  | [], origin, es => f origin es
  | k :: ks, _, es =>
    alter k (fun
      | none =>
        let origin := if byDots then .dotted else .passed
        (descend byDots f ks origin []).map (.table origin)
      | some (.value _) => none
      | some (.table origin sub) =>
        if byDots ∧ origin = .opened then none
        else (descend byDots f ks origin sub).map (.table origin)
      | some (.tables earlier latest) =>
        (descend byDots f ks .opened latest).map (.tables earlier)) es

/-- Open the table of a header. -/
def openTable (es : Entries) (path : List String) (name : String) : Option Entries :=
  descend false (fun _ => alter name fun
    | none => some (.table .opened [])
    | some (.table .passed sub) => some (.table .opened sub)
    | _ => none) path .opened es

/-- Add a table to those that share a header. -/
def addTable (es : Entries) (path : List String) (name : String) : Option Entries :=
  descend false (fun _ => alter name fun
    | none => some (.tables [] [])
    | some (.tables earlier latest) => some (.tables (latest :: earlier) [])
    | _ => none) path .opened es

/-- Give a value to a new key of a table. With dots before it, the key belongs to a table that
dotted keys have made. -/
def assign (es : Entries) (path : List String) (name : String) (d : Document) : Option Entries :=
  descend true (fun origin es =>
    if origin = .dotted ↔ path.isEmpty then none
    else es.alter name fun
      | none => some (.value d)
      | some _ => none) path .opened es

/-- Give a value to a key, counted from the table of the last header. -/
def assignIn (es : Entries) (table path : List String) (name : String) (d : Document) :
    Option Entries :=
  descend false (fun _ es => es.assign path name d) table .opened es

end Entries

mutual

/-- The finished item. -/
def Item.toDocument : Item → Document
  | .value d => d
  | .table _ es => .ofFields (fieldsOf es)
  | .tables earlier latest => .ofItems (rowsOf earlier [.ofFields (fieldsOf latest)])

/-- The finished entries of a table. -/
def fieldsOf : List (String × Item) → List (String × Document)
  | [] => []
  | (k, i) :: es => (k, i.toDocument) :: fieldsOf es

/-- Finished tables in front of later ones. -/
def rowsOf : List (List (String × Item)) → List Document → List Document
  | [], later => later
  | es :: earlier, later => rowsOf earlier (.ofFields (fieldsOf es) :: later)

end

end Intercept.Toml
