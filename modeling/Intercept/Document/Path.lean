import Intercept.Document.Basic
import Intercept.Text.Numeral
import Intercept.Text.Split

/-!
# Dot paths

A path names a place in a document by the field names and array positions that lead to it, joined by
dots. Resolving follows the segments one by one; the empty path is the document itself. Walking
lists the paths of all object fields that are reached through objects alone, each parent before its
children, fields in their order. Nothing inside an array is listed, and a document that is no object
has no fields to list.
-/

namespace Intercept

/-- The segments of a dot path. -/
def pathSegments (path : String) : List String :=
  (Text.splitAt '.' path.toList).map String.ofList

namespace Document

/-- The child that one segment leads to: a field of an object, or the item of an array at the
position that the segment spells. -/
def step? (d : Document) (segment : String) : Option Document :=
  match d with
  | object _ _ => d.field? segment
  | array _ _ => (Numeral.readWord? segment).bind fun i => d.item? i.toNat
  | _ => none

/-- Follow a list of segments. -/
def follow? (d : Document) : List String → Option Document
  | [] => some d
  | s :: ss => (d.step? s).bind fun c => c.follow? ss

/-- The value at a dot path. -/
def resolve? (d : Document) (path : String) : Option Document :=
  if path = "" then some d else d.follow? (pathSegments path)

/-- The path of field `k` of the object at `base`. -/
def extendPath (base k : String) : String := if base = "" then k else base ++ "." ++ k

/-- The paths of the fields below the object at `base`. -/
def walkFrom (base : String) : Document → List String
  | object ks child =>
    ks.names.attach.flatMap fun ⟨k, h⟩ =>
      extendPath base k :: walkFrom (extendPath base k) (child k h)
  | _ => []

/-- The paths of all fields that are reached through objects, parents before children. -/
def walk (d : Document) : List String := d.walkFrom ""

end Document

end Intercept
