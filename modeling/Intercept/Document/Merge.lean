import Intercept.Document.Basic

/-!
# Override merge

A delta is laid over a document: two objects are merged field by field, and everything else in the
delta, arrays included, replaces what it meets. Fields that an object does not name are kept when it
is laid over another one.
-/

namespace Intercept.Document

/-- The target with the delta laid over it. -/
def merge (target : Document) : Document → Document
  | object dk dc =>
    match target with
    | object tk tc =>
      object (tk.union dk) fun k h =>
        if hd : k ∈ dk then
          if ht : k ∈ tk then merge (tc k ht) (dc k hd) else dc k hd
        else tc k ((KeySet.mem_union.1 h).resolve_right hd)
    | _ => object dk dc
  | delta => delta

/-- The target with several deltas laid over it, one after the other. -/
def mergeAll (target : Document) (deltas : List Document) : Document := deltas.foldl merge target

@[simp] theorem mergeAll_nil (t : Document) : t.mergeAll [] = t := rfl

@[simp] theorem mergeAll_cons (t d : Document) (ds : List Document) :
    t.mergeAll (d :: ds) = (t.merge d).mergeAll ds := rfl

/-- A delta that is no object replaces the target. -/
theorem merge_of_not_isObject {t d : Document} (h : d.isObject = false) : t.merge d = d := by
  cases d <;> simp_all [merge, isObject]

/-- A target that is no object is replaced. -/
theorem merge_of_target_not_isObject {t d : Document} (h : t.isObject = false) :
    t.merge d = d := by
  cases d <;> cases t <;> simp_all [merge, isObject]

end Intercept.Document
