import Intercept.Proofs.Document.Overlay

/-!
# What a path finds in a merged document

A merge does not commute with following a path. A segment may be a position in an array on one side
and the name of a field on the other, and where the delta replaces a value as a whole, nothing of
what was below it is found any more. What decides is how far both documents hold objects along the
path (`MeetsAt`):

* as far as they do, following the path leads from a merge to a merge (`follow?_merge_of_objectAt?`);
* from where they do not, the merged document is the delta (`follow?_merge_of_replaced`).

Main statement: `resolve?_merge`. It says for every path what it finds in the merged document, in
terms of what it finds in the two.
-/

namespace Intercept.Document

variable {t d : Document}

/-! ### Following paths -/

/-- A path is followed piece by piece. -/
lemma follow?_append (d : Document) (q r : List String) :
    d.follow? (q ++ r) = (d.follow? q).bind fun c => c.follow? r := by
  induction q generalizing d with
  | nil => rfl
  | cons s q ih =>
    rw [List.cons_append, follow?, follow?, Option.bind_assoc]
    exact Option.bind_congr fun c _ => ih c

/-- The part of a path, from its beginning and as long as possible, that leads to something, in a
document where the whole path leads to nothing. -/
structure IsReach (d : Document) (ss q : List String) : Prop where
  isPrefix : q <+: ss
  isProper : q ≠ ss
  isSome : (d.follow? q).isSome = true
  isLongest : ∀ r, r <+: ss → (d.follow? r).isSome = true → r <+: q

/-- A path that leads to nothing does so from some segment on. -/
lemma exists_step?_eq_none {ss : List String} (h : d.follow? ss = none) :
    ∃ q s rest v, ss = q ++ s :: rest ∧ d.follow? q = some v ∧ v.step? s = none := by
  induction ss generalizing d with
  | nil => contradiction
  | cons s ss ih =>
    cases hs : d.step? s with
    | none => exact ⟨[], s, ss, d, rfl, rfl, hs⟩
    | some c =>
      rw [follow?, hs] at h
      obtain ⟨q, s', rest, v, rfl, hv, hstep⟩ := ih h
      exact ⟨s :: q, s', rest, v, rfl, by rw [follow?, hs, Option.bind_some, hv], hstep⟩

/-- A path reaches as far as its segments lead to something. -/
lemma isReach_of_step?_eq_none {q : List String} {s : String} {v : Document}
    (hv : d.follow? q = some v) (hs : v.step? s = none) (rest : List String) :
    d.IsReach (q ++ s :: rest) q where
  isPrefix := List.prefix_append _ _
  isProper := by simp
  isSome := by rw [hv]; rfl
  isLongest := by
    intro r hr hsome
    rcases List.prefix_or_prefix_of_prefix hr (List.prefix_append q (s :: rest)) with h | ⟨u, rfl⟩
    · exact h
    · rw [List.prefix_append_right_inj] at hr
      cases u with
      | nil => simp
      | cons s' u =>
        obtain ⟨rfl, -⟩ := List.cons_prefix_cons.1 hr
        rw [follow?_append, hv, Option.bind_some, follow?, hs] at hsome
        contradiction

/-! ### Objects along a path -/

/-- A document with a field is an object. -/
lemma isObject_of_field? {k : String} {v : Document} (h : d.field? k = some v) :
    d.isObject = true := by
  cases d with
  | object names child => rfl
  | _ => contradiction

/-- The object that a chain of field names leads to, if it leads to one. -/
def objectAt? (d : Document) (ks : List String) : Option Document :=
  (d.fieldAt? ks).filter isObject

lemma objectAt?_eq_some {ks : List String} {v : Document} :
    d.objectAt? ks = some v ↔ d.fieldAt? ks = some v ∧ v.isObject = true := by
  rw [objectAt?, Option.filter_eq_some_iff]

lemma objectAt?_cons (d : Document) (k : String) (ks : List String) :
    d.objectAt? (k :: ks) = (d.field? k).bind fun c => c.objectAt? ks := by
  rw [objectAt?, fieldAt?]
  cases d.field? k <;> rfl

lemma isSome_objectAt?_nil (d : Document) : (d.objectAt? []).isSome = d.isObject := by
  rw [objectAt?, fieldAt?, Option.isSome_filter]
  rfl

/-- Objects lie below objects. -/
lemma isSome_objectAt?_of_append {q r : List String} (h : (d.objectAt? (q ++ r)).isSome = true) :
    (d.objectAt? q).isSome = true := by
  induction q generalizing d with
  | nil =>
    rw [isSome_objectAt?_nil]
    cases r with
    | nil => rwa [List.append_nil, isSome_objectAt?_nil] at h
    | cons k r =>
      rw [List.nil_append, objectAt?_cons] at h
      obtain ⟨c, hc⟩ := Option.isSome_iff_exists.1 (Option.isSome_of_isSome_bind h)
      exact isObject_of_field? hc
  | cons k q ih =>
    rw [List.cons_append, objectAt?_cons] at h
    rw [objectAt?_cons]
    cases hk : d.field? k with
    | none =>
      rw [hk] at h
      contradiction
    | some c =>
      rw [hk] at h
      exact ih h

/-- Two documents hold objects everywhere along a path, which is followed through fields alone. -/
def MeetsAt (t d : Document) (q : List String) : Prop :=
  ∀ r, r <+: q → (t.objectAt? r).isSome = true ∧ (d.objectAt? r).isSome = true

/-- It is enough that they hold objects at the end. -/
lemma meetsAt_iff {q : List String} :
    t.MeetsAt d q ↔ (t.objectAt? q).isSome = true ∧ (d.objectAt? q).isSome = true := by
  refine ⟨fun h => h q (List.prefix_refl q), ?_⟩
  rintro ⟨ht, hd⟩ r ⟨u, rfl⟩
  exact ⟨isSome_objectAt?_of_append ht, isSome_objectAt?_of_append hd⟩

/-! ### Following paths in a merged document -/

/-- Where both documents hold objects, these are merged. -/
lemma follow?_merge_of_objectAt? {ks : List String} {v w : Document}
    (ht : t.objectAt? ks = some w) (hd : d.objectAt? ks = some v) (rest : List String) :
    (t.merge d).follow? (ks ++ rest) = (w.merge v).follow? rest := by
  induction ks generalizing t d with
  | nil =>
    obtain ⟨rfl⟩ := (objectAt?_eq_some.1 ht).1
    obtain ⟨rfl⟩ := (objectAt?_eq_some.1 hd).1
    rfl
  | cons k ks ih =>
    rw [objectAt?_cons] at ht hd
    obtain ⟨a, ha, hta⟩ := Option.bind_eq_some_iff.1 ht
    obtain ⟨b, hb, hdb⟩ := Option.bind_eq_some_iff.1 hd
    have hobj : (t.merge d).isObject = true := by rw [isObject_merge, isObject_of_field? hb]
    rw [List.cons_append, follow?, step?_of_isObject hobj,
      field?_merge (isObject_of_field? ha) (isObject_of_field? hb), ha, hb]
    exact ih hta hdb

/-- Unless both documents are objects, the delta replaces the target. -/
lemma merge_eq_delta (h : ¬ (t.isObject = true ∧ d.isObject = true)) : t.merge d = d := by
  cases hd : d.isObject with
  | false => exact merge_of_not_isObject hd
  | true =>
    cases ht : t.isObject with
    | false => exact merge_of_target_not_isObject ht
    | true => exact absurd ⟨ht, hd⟩ h

/-- Where they do not hold objects both, the delta has replaced what was there, or above it. -/
lemma follow?_merge_of_replaced {q : List String} {v : Document} (hv : d.follow? q = some v)
    (h : ¬ ((t.objectAt? q).isSome = true ∧ (d.objectAt? q).isSome = true)) (rest : List String) :
    (t.merge d).follow? (q ++ rest) = v.follow? rest := by
  induction q generalizing t d with
  | nil =>
    rw [isSome_objectAt?_nil, isSome_objectAt?_nil] at h
    obtain rfl : d = v := Option.some.inj hv
    rw [merge_eq_delta h, List.nil_append]
  | cons s q ih =>
    by_cases hboth : t.isObject = true ∧ d.isObject = true
    · obtain ⟨ht, hd⟩ := hboth
      have hobj : (t.merge d).isObject = true := by rwa [isObject_merge]
      rw [follow?, step?_of_isObject hd] at hv
      obtain ⟨b, hb, hbv⟩ := Option.bind_eq_some_iff.1 hv
      rw [List.cons_append, follow?, step?_of_isObject hobj, field?_merge ht hd, hb]
      rw [objectAt?_cons, objectAt?_cons, hb] at h
      cases ha : t.field? s with
      | none => rw [Option.merge_none_left, Option.bind_some, follow?_append, hbv, Option.bind_some]
      | some a =>
        rw [ha] at h
        exact ih hbv h
    · rw [merge_eq_delta hboth, follow?_append, hv, Option.bind_some]

/-- Below two objects that are merged, what the delta has no field for is as in the target. -/
lemma follow?_merge_of_field?_eq_none (ht : t.isObject = true) (hd : d.isObject = true) {s : String}
    (h : d.field? s = none) (rest : List String) :
    (t.merge d).follow? (s :: rest) = t.follow? (s :: rest) := by
  have hobj : (t.merge d).isObject = true := by rwa [isObject_merge]
  rw [follow?, follow?, step?_of_isObject hobj, step?_of_isObject ht, field?_merge ht hd, h,
    Option.merge_none_right]

/-! ### What a path finds -/

/-- What a path finds in a merged document.

* If it finds something in the delta, then it finds the same in the merged document; but if this is an
  object, there is an object in the target as well, and both are reached through fields alone, it
  finds the two of them merged.
* If it finds nothing in the delta, what counts is how far into the delta it leads. If both
  documents hold objects everywhere up to there, it finds what it finds in the target. If not, it
  finds nothing. -/
theorem resolve?_merge (t d : Document) {path : String} (hne : path ≠ "") :
    let ss := pathSegments path
    let m := t.merge d
    (∀ v, d.resolve? path = some v →
      (∀ w, d.objectAt? ss = some v → t.objectAt? ss = some w →
        m.resolve? path = some (w.merge v)) ∧
      (¬ (d.objectAt? ss = some v ∧ ∃ w, t.objectAt? ss = some w) → m.resolve? path = some v)) ∧
    (d.resolve? path = none → ∃ q, d.IsReach ss q ∧
      (t.MeetsAt d q → m.resolve? path = t.resolve? path) ∧
      (¬ t.MeetsAt d q → m.resolve? path = none)) := by
  intro ss m
  rw [resolve?_of_ne_empty d hne, resolve?_of_ne_empty m hne, resolve?_of_ne_empty t hne,
    show pathSegments path = ss from rfl]
  clear_value ss
  have hfollow {c v : Document} {ks : List String} (h : c.objectAt? ks = some v) :
      c.follow? ks = some v := follow?_of_fieldAt? (objectAt?_eq_some.1 h).1
  refine ⟨fun v hv => ⟨fun w hd ht => ?_, fun hnot => ?_⟩, fun hnone => ?_⟩
  · have hmerged := follow?_merge_of_objectAt? ht hd []
    rwa [List.append_nil] at hmerged
  · have hreplaced : ¬ ((t.objectAt? ss).isSome = true ∧ (d.objectAt? ss).isSome = true) := by
      rw [Option.isSome_iff_exists, Option.isSome_iff_exists]
      rintro ⟨hw, u, hu⟩
      exact hnot ⟨hu.trans ((hfollow hu).symm.trans hv), hw⟩
    have hdelta := follow?_merge_of_replaced hv hreplaced []
    rwa [List.append_nil] at hdelta
  · obtain ⟨q, s, rest, v, rfl, hv, hstep⟩ := exists_step?_eq_none hnone
    refine ⟨q, isReach_of_step?_eq_none hv hstep rest, ?_, ?_⟩
    · rw [meetsAt_iff, Option.isSome_iff_exists, Option.isSome_iff_exists]
      rintro ⟨⟨w, hw⟩, u, hu⟩
      obtain rfl : u = v := Option.some.inj ((hfollow hu).symm.trans hv)
      have hwobj := (objectAt?_eq_some.1 hw).2
      have huobj := (objectAt?_eq_some.1 hu).2
      rw [step?_of_isObject huobj] at hstep
      rw [follow?_merge_of_objectAt? hw hu, follow?_append, hfollow hw, Option.bind_some,
        follow?_merge_of_field?_eq_none hwobj huobj hstep]
    · rw [meetsAt_iff]
      intro hreplaced
      rw [follow?_merge_of_replaced hv hreplaced, follow?, hstep, Option.bind_none]

/-- A segment that names a field in the target and a position in the delta: the array hides what the
path found, although it holds an object there. -/
theorem resolve?_merge_hidden_by_array :
    let t := ofFields [("a", ofFields [("0", ofFields [("x", .bool true)])])]
    let d := ofFields [("a", ofItems [ofFields []])]
    "a.0.x" ≠ "" ∧ t.resolve? "a.0.x" = some (.bool true) ∧
      (d.resolve? "a.0").map isObject = some true ∧ d.resolve? "a.0.x" = none ∧
      (t.merge d).resolve? "a.0.x" = none := by
  intro t d
  have hnone : d.resolve? "a.0.x" = none := rfl
  refine ⟨by decide, rfl, rfl, hnone, ?_⟩
  obtain ⟨q, hreach, -, hhidden⟩ := (resolve?_merge t d (by decide)).2 hnone
  have hsegments : pathSegments "a.0.x" = ["a", "0", "x"] := rfl
  have hsome : (d.follow? ["a", "0"]).isSome = true := rfl
  have hq : ["a", "0"] <+: q := hreach.isLongest _ (by rw [hsegments]; decide) hsome
  refine hhidden fun hmeet => ?_
  have hfield : (d.objectAt? ["a", "0"]).isSome = false := rfl
  rw [(hmeet _ hq).2] at hfield
  contradiction

end Intercept.Document
