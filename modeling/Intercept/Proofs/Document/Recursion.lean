import Intercept.Document.Path
import Intercept.Proofs.Document.Depth

/-!
# Recursion with a bound

A document is merged, walked and copied level by level. Here each of the three may nest `n` calls of
itself and no more: a call that is nested deeper does whatever `overflow` says. If a document is less
deep than `n`, the result is that of the unbounded recursion, whatever `overflow` is, so that no such
call is made (`mergeWithin_eq_merge`, `walkWithin_eq_walkFrom`, `copyWithin_eq`).
-/

namespace Intercept

/-- A name of two sets that is not in the second one is in the first. -/
lemma KeySet.mem_left_of_mem_union {s t : KeySet} {k : String} (h : k ∈ s.union t) (ht : k ∉ t) :
    k ∈ s := (mem_union.1 h).resolve_right ht

namespace Document

/-- Lay a delta over a document with at most `n` nested calls. -/
def mergeWithin (overflow : Document → Document → Document) :
    Nat → Document → Document → Document
  | 0, target, delta => overflow target delta
  | n + 1, target, object dk dc =>
    match target with
    | object tk tc =>
      object (tk.union dk) fun k h =>
        if hd : k ∈ dk then
          if ht : k ∈ tk then mergeWithin overflow n (tc k ht) (dc k hd) else dc k hd
        else tc k (KeySet.mem_left_of_mem_union h hd)
    | _ => object dk dc
  | _ + 1, _, delta => delta

/-- List the paths of the fields below the object at `base` with at most `n` nested calls. -/
def walkWithin (overflow : String → Document → List String) :
    Nat → String → Document → List String
  | 0, base, d => overflow base d
  | n + 1, base, object ks child =>
    ks.names.attach.flatMap fun ⟨k, h⟩ =>
      extendPath base k :: walkWithin overflow n (extendPath base k) (child k h)
  | _ + 1, _, _ => []

/-- Build a document anew with at most `n` nested calls. -/
def copyWithin (overflow : Document → Document) : Nat → Document → Document
  | 0, d => overflow d
  | n + 1, array m item => array m fun i => copyWithin overflow n (item i)
  | n + 1, object ks child => object ks fun k h => copyWithin overflow n (child k h)
  | _ + 1, d => d

/-- Merging nests no more calls than the delta has levels, and one. -/
theorem mergeWithin_eq_merge (overflow : Document → Document → Document) {n : Nat} {t d : Document}
    (h : d.depth < n) : mergeWithin overflow n t d = t.merge d := by
  induction n generalizing t d with
  | zero => contradiction
  | succ n ih =>
    cases d with
    | object dk dc =>
      cases t with
      | object tk tc =>
        rw [mergeWithin, merge]
        congr 1
        funext k hk
        split
        · next hd =>
          have hless : (dc k hd).depth < n :=
            (hasChild_object.2 ⟨k, hd, rfl⟩).depth_lt.trans_le (Nat.le_of_lt_succ h)
          simp only [ih hless]
        · rfl
      | _ => rfl
    | _ => simp only [mergeWithin, merge]

/-- Walking nests no more calls than the document has levels, and one. -/
theorem walkWithin_eq_walkFrom (overflow : String → Document → List String) {n : Nat}
    {d : Document} (h : d.depth < n) (base : String) :
    walkWithin overflow n base d = d.walkFrom base := by
  induction n generalizing d base with
  | zero => contradiction
  | succ n ih =>
    cases d with
    | object ks child =>
      rw [walkWithin, walkFrom]
      refine List.flatMap_congr fun key _ => ?_
      obtain ⟨k, hk⟩ := key
      have hless : (child k hk).depth < n :=
        (hasChild_object.2 ⟨k, hk, rfl⟩).depth_lt.trans_le (Nat.le_of_lt_succ h)
      simp only [ih hless]
    | _ => rfl

/-- Copying nests no more calls than the document has levels, and one; the copy is the document. -/
theorem copyWithin_eq (overflow : Document → Document) {n : Nat} {d : Document}
    (h : d.depth < n) : copyWithin overflow n d = d := by
  induction n generalizing d with
  | zero => contradiction
  | succ n ih =>
    have hless {v : Document} (hv : d.HasChild v) : v.depth < n :=
      hv.depth_lt.trans_le (Nat.le_of_lt_succ h)
    cases d with
    | array m item =>
      rw [copyWithin]
      congr 1
      funext i
      exact ih (hless (hasChild_array.2 ⟨i, rfl⟩))
    | object ks child =>
      rw [copyWithin]
      congr 1
      funext k hk
      exact ih (hless (hasChild_object.2 ⟨k, hk, rfl⟩))
    | _ => rfl

end Document

end Intercept
