import Intercept.Proofs.Document.Overlay
import Mathlib.Data.List.Induction

/-!
# Logs of deltas

A log of deltas is laid over a document delta by delta, and may be laid over the result once more.
In between the document differs from what it was in the first pass: a delta that brought a new object
meets what later deltas made of it, and a later delta may have put a scalar where an earlier one lays
an object. Main statement: `mergeAll_mergeAll`. After the second pass the document is what it was
after the first one.

A delta that is no object replaces the document, so nothing of what was before it matters
(`mergeAll_eq_of_replaced`). A log of objects decides field by field, and what it does to a field is
again a log: that of the values which its deltas have for the field (`field?_mergeAll`).
-/

namespace Intercept.Document

/-! ### Objects and their fields -/

/-- Objects with the same fields are the same. -/
lemma eq_of_field? {t d : Document} (ht : t.isObject = true) (hd : d.isObject = true)
    (h : ∀ k, t.field? k = d.field? k) : t = d := by
  cases t with
  | object tk tc =>
    cases d with
    | object dk dc =>
      have hmem (k : String) : k ∈ tk ↔ k ∈ dk := by
        have hsome := congrArg Option.isSome (h k)
        by_cases hkt : k ∈ tk <;> by_cases hkd : k ∈ dk <;> simp_all
      obtain rfl : tk = dk := KeySet.ext_mem hmem
      congr 1
      funext k hk
      simpa [hk] using h k
    | _ => contradiction
  | _ => contradiction

/-- What holds of a document whenever it holds of its fields holds of every document. -/
lemma fieldInduction {P : Document → Prop}
    (step : ∀ d, (∀ k v, d.field? k = some v → P v) → P d) (d : Document) : P d := by
  induction d with
  | object names child ih =>
    refine step _ fun k v hv => ?_
    rw [field?_object] at hv
    split at hv
    · next hk => exact Option.some.inj hv ▸ ih k hk
    · contradiction
  | _ => exact step _ fun _ _ hv => by contradiction

/-- A document that is laid over itself stays as it is. -/
@[simp] lemma merge_self (d : Document) : d.merge d = d := by
  induction d using fieldInduction with
  | step d ih =>
    cases hd : d.isObject with
    | false => exact merge_of_not_isObject hd
    | true =>
      refine eq_of_field? (by rwa [isObject_merge]) hd fun k => ?_
      rw [field?_merge hd hd]
      cases hk : d.field? k with
      | none => rfl
      | some v => exact congrArg some (ih k v hk)

/-! ### What a log does -/

/-- A log with one more delta. -/
lemma mergeAll_concat (t : Document) (ds : List Document) (d : Document) :
    t.mergeAll (ds ++ [d]) = (t.mergeAll ds).merge d := List.foldl_concat ..

/-- A log with a delta that is no object leads to the same document, whatever it is laid over. -/
lemma mergeAll_eq_of_replaced {ds : List Document} (h : ∃ d ∈ ds, d.isObject = false)
    (t u : Document) : t.mergeAll ds = u.mergeAll ds := by
  induction ds generalizing t u with
  | nil => simp at h
  | cons d ds ih =>
    rw [mergeAll_cons, mergeAll_cons]
    by_cases hlater : ∃ d ∈ ds, d.isObject = false
    · exact ih hlater _ _
    · have hd : d.isObject = false := by simpa [hlater] using h
      rw [merge_of_not_isObject hd, merge_of_not_isObject hd]

/-- An object stays one under a log of objects. -/
lemma isObject_mergeAll {t : Document} {ds : List Document} (ht : t.isObject = true)
    (hds : ∀ d ∈ ds, d.isObject = true) : (t.mergeAll ds).isObject = true := by
  induction ds generalizing t with
  | nil => exact ht
  | cons d ds ih =>
    exact ih (by rw [isObject_merge, hds d List.mem_cons_self])
      fun e he => hds e (List.mem_cons_of_mem _ he)

/-- The first of some documents with the others laid over it, if there are any. -/
def layered? : List Document → Option Document
  | [] => none
  | d :: ds => some (d.mergeAll ds)

/-- A log of objects acts on each field by the values that its deltas have for it. -/
lemma field?_mergeAll {t : Document} {ds : List Document} (ht : t.isObject = true)
    (hds : ∀ d ∈ ds, d.isObject = true) (k : String) :
    (t.mergeAll ds).field? k = layered? ((t.field? k).toList ++ ds.filterMap (·.field? k)) := by
  induction ds generalizing t with
  | nil =>
    rw [mergeAll_nil, List.filterMap_nil, List.append_nil]
    cases t.field? k <;> rfl
  | cons d ds ih =>
    have hd : d.isObject = true := hds d List.mem_cons_self
    rw [mergeAll_cons, ih (by rwa [isObject_merge]) fun e he => hds e (List.mem_cons_of_mem _ he),
      field?_merge ht hd, List.filterMap_cons]
    cases t.field? k <;> cases d.field? k <;> rfl

/-! ### The second pass -/

/-- One more delta settles: when a log does not change a document, the log and the delta do not
change what the delta makes of the document. -/
def Settles (d : Document) : Prop :=
  ∀ (s : Document) (ds : List Document), s.mergeAll ds = s →
    ((s.merge d).mergeAll ds).merge d = s.merge d

/-- A field settles if its value in the delta does: `a` is the value in the document, `b` that in
the delta, and `vs` are those in the log. -/
lemma merge_layered?_merge {a b : Option Document} {vs : List Document}
    (hb : ∀ v, b = some v → Settles v) (h : layered? (a.toList ++ vs) = a) :
    (layered? ((a.merge merge b).toList ++ vs)).merge merge b = a.merge merge b := by
  cases b with
  | none => rwa [Option.merge_none_right, Option.merge_none_right]
  | some v =>
    cases a with
    | none =>
      -- no delta of the log has the field, for it would be there
      cases vs with
      | nil => exact congrArg some (merge_self v)
      | cons u us => contradiction
    | some u => exact congrArg some (hb v rfl u vs (Option.some.inj h))

/-- Every delta settles. -/
lemma settles (d : Document) : Settles d := by
  induction d using fieldInduction with
  | step d ih =>
    intro s ds h
    cases hd : d.isObject with
    | false => rw [merge_of_not_isObject hd, merge_of_not_isObject hd]
    | true =>
      by_cases hreplaced : ∃ e ∈ ds, e.isObject = false
      · rw [mergeAll_eq_of_replaced hreplaced _ s, h]
      · have hds : ∀ e ∈ ds, e.isObject = true := by simpa using hreplaced
        cases hs : s.isObject with
        | false =>
          -- only the empty log leaves it alone
          have hnil : ds = [] := by
            rcases List.eq_nil_or_concat ds with hnil | ⟨es, e, rfl⟩
            · exact hnil
            · rw [List.concat_eq_append, mergeAll_concat] at h
              rw [← h, isObject_merge, hds e (by simp)] at hs
              contradiction
          rw [hnil, merge_of_target_not_isObject hs, mergeAll_nil, merge_self]
        | true =>
          have hsd : (s.merge d).isObject = true := by rwa [isObject_merge]
          refine eq_of_field? (by rwa [isObject_merge]) hsd fun k => ?_
          have hkept : layered? ((s.field? k).toList ++ ds.filterMap (·.field? k)) =
              s.field? k := by
            rw [← field?_mergeAll hs hds, h]
          rw [field?_merge (isObject_mergeAll hsd hds) hd, field?_mergeAll hsd hds,
            field?_merge hs hd]
          exact merge_layered?_merge (ih k) hkept

/-- A log of deltas that is laid over a document twice, from the beginning to the end, leads to the
same document as once. A single delta is the log of one. -/
theorem mergeAll_mergeAll (t : Document) (ds : List Document) :
    (t.mergeAll ds).mergeAll ds = t.mergeAll ds := by
  induction ds using List.reverseRecOn with
  | nil => rfl
  | append_singleton ds d ih =>
    rw [mergeAll_concat, mergeAll_concat]
    exact settles d _ ds ih

end Intercept.Document
