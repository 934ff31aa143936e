import Intercept.Document.KeySet
import Intercept.Document.Number

/-!
# Documents

The values that packets carry and that the session state consists of: trees of objects, arrays,
strings, numbers, truth values and null. An object is a set of field names with one child for each
of them, and an array a length with one item for each position, so no document has a duplicate
field, fields have no order of their own, and two documents are equal when they have the same
children everywhere.
-/

namespace Intercept

/-- A tree-shaped value. -/
inductive Document where
  | null
  | bool (value : Bool)
  | number (value : Number)
  | string (value : String)
  | array (size : Nat) (item : Fin size → Document)
  | object (keys : KeySet) (child : (k : String) → k ∈ keys → Document)

namespace Document

instance : Inhabited Document := ⟨null⟩

/-- Whether the document is an object. -/
def isObject : Document → Bool
  | object _ _ => true
  | _ => false

/-- The array of the given items. -/
def ofItems (items : List Document) : Document :=
  let items := items.toArray
  array items.size fun i => items[i]

/-- The child that the last entry for `k` in a list of fields assigns. -/
def lastEntry? (fields : List (String × Document)) (k : String) : Option Document :=
  (fields.reverse.find? fun e => e.1 = k).map (·.2)

/-- The object of the given fields; of several fields with one name the last one counts. -/
def ofFields (fields : List (String × Document)) : Document :=
  let latest := fields.reverse
  object (KeySet.ofList (fields.map (·.1))) fun k _ =>
    ((latest.find? fun e => e.1 = k).map (·.2)).getD null

/-- The child of an object under a field name. -/
def field? (d : Document) (k : String) : Option Document :=
  match d with
  | object ks child => if h : k ∈ ks then some (child k h) else none
  | _ => none

/-- The item of an array at a position. -/
def item? (d : Document) (i : Nat) : Option Document :=
  match d with
  | array n item => if h : i < n then some (item ⟨i, h⟩) else none
  | _ => none

/-- The fields of an object in the order of their names. -/
def fields : Document → List (String × Document)
  | object ks child => ks.names.attach.map fun ⟨k, h⟩ => (k, child k h)
  | _ => []

@[simp] theorem field?_object (ks : KeySet) (child : (k : String) → k ∈ ks → Document)
    (k : String) :
    (object ks child).field? k = if h : k ∈ ks then some (child k h) else none := rfl

theorem field?_ofFields (fields : List (String × Document)) (k : String) :
    (ofFields fields).field? k = lastEntry? fields k := by
  simp only [ofFields, field?, KeySet.mem_ofList, lastEntry?]
  split
  · rename_i h
    obtain ⟨e, he, rfl⟩ := List.mem_map.1 h
    cases hf : fields.reverse.find? (fun x => decide (x.1 = e.1)) with
    | none => simpa using List.find?_eq_none.1 hf e (by simpa using he)
    | some x => simp
  · rename_i h
    have : fields.reverse.find? (fun x => decide (x.1 = k)) = none := by
      rw [List.find?_eq_none]
      intro x hx hk
      exact h (List.mem_map.2 ⟨x, by simpa using hx, by simpa using hk⟩)
    simp [this]

end Document

end Intercept
