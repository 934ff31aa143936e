import Intercept.Document.Merge
import Intercept.Proofs.Document.Fields

/-!
# What a merge does to paths

An object that is laid over an object decides field by field (`field?_merge`): a field that one of
them lacks is taken from the other one, and a field of both is merged. So no field at the top goes
(`isSome_field?_merge`), and what a path finds in the delta it finds in the merged document
(`isSome_follow?_merge`).

Further down a value can go, when a field above it is replaced as a whole (`ReplacesAt`). Main
statement: `follow?_merge_of_not_mem_chains`. What a path finds is as before, unless the path is a
field of the delta, or leads through a field that the delta replaces.
-/

namespace Intercept.Document

variable {t d : Document}

/-! ### Fields at the top -/

/-- A merged document is an object if the delta is one. -/
@[simp] lemma isObject_merge (t d : Document) : (t.merge d).isObject = d.isObject := by
  cases hd : d.isObject with
  | false => rw [merge_of_not_isObject hd, hd]
  | true =>
    cases d with
    | object names child => cases t <;> rfl
    | _ => contradiction

/-- The fields of a merged object: those of one side as they are, those of both sides merged. -/
lemma field?_merge (ht : t.isObject = true) (hd : d.isObject = true) (k : String) :
    (t.merge d).field? k = (t.field? k).merge merge (d.field? k) := by
  cases t with
  | object tk tc =>
    cases d with
    | object dk dc =>
      rw [merge]
      simp only [field?_object, KeySet.mem_union]
      by_cases hkt : k ∈ tk <;> by_cases hkd : k ∈ dk <;> simp [hkt, hkd]
    | _ => contradiction
  | _ => contradiction

/-- No field at the top goes when an object is laid over an object. -/
lemma isSome_field?_merge (ht : t.isObject = true) (hd : d.isObject = true) {k : String}
    (hk : (t.field? k).isSome = true) : ((t.merge d).field? k).isSome = true := by
  obtain ⟨v, hv⟩ := Option.isSome_iff_exists.1 hk
  rw [field?_merge ht hd, hv]
  cases d.field? k <;> rfl

/-- A step into an object is a step to a field. -/
lemma step?_of_isObject (h : d.isObject = true) (s : String) : d.step? s = d.field? s := by
  cases d with
  | object names child => rfl
  | _ => contradiction

/-! ### Values further down -/

/-- What a path finds in the delta it finds in the merged document. -/
theorem isSome_follow?_merge (t : Document) {ss : List String}
    (h : (d.follow? ss).isSome = true) : ((t.merge d).follow? ss).isSome = true := by
  induction ss generalizing t d with
  | nil => rfl
  | cons s ss ih =>
    cases hd : d.isObject with
    | false => rwa [merge_of_not_isObject hd]
    | true =>
      cases ht : t.isObject with
      | false => rwa [merge_of_target_not_isObject ht]
      | true =>
        rw [follow?, step?_of_isObject hd] at h
        rw [follow?, step?_of_isObject (by rwa [isObject_merge]), field?_merge ht hd]
        cases hds : d.field? s with
        | none =>
          rw [hds] at h
          contradiction
        | some v =>
          rw [hds] at h
          cases t.field? s with
          | none => exact h
          | some u => exact ih u h

/-- What is resolved in the delta is resolved in the merged document. -/
theorem isSome_resolve?_merge (t : Document) {path : String}
    (h : (d.resolve? path).isSome = true) : ((t.merge d).resolve? path).isSome = true := by
  unfold resolve? at h ⊢
  split
  · rfl
  · next hne =>
    rw [if_neg hne] at h
    exact isSome_follow?_merge t h

/-- The delta has a field at a chain of names and does not lay an object over an object there, so
that whatever the target has there is replaced as a whole. -/
def ReplacesAt (t d : Document) (ks : List String) : Prop :=
  ∃ v, d.fieldAt? ks = some v ∧
    (v.isObject = false ∨ ∃ u, t.fieldAt? ks = some u ∧ u.isObject = false)

/-- A replacement further down, seen from above. -/
lemma ReplacesAt.cons {a b : Document} {k : String} {ks : List String}
    (h : ReplacesAt a b ks) (ha : t.field? k = some a) (hb : d.field? k = some b) :
    ReplacesAt t d (k :: ks) := by
  obtain ⟨v, hv, hwhole⟩ := h
  refine ⟨v, by rw [fieldAt?, hb, Option.bind_some, hv], hwhole.imp_right ?_⟩
  rintro ⟨u, hu, hno⟩
  exact ⟨u, by rw [fieldAt?, ha, Option.bind_some, hu], hno⟩

/-- What a path finds in an object is a field reached through objects, or lies below a field that is
no object. -/
lemma mem_chains_or_of_isSome_follow? (hd : d.isObject = true) {ss : List String} (hne : ss ≠ [])
    (h : (d.follow? ss).isSome = true) :
    ss ∈ d.chains ∨ ∃ ks rest v, ss = ks ++ rest ∧ ks ≠ [] ∧ rest ≠ [] ∧
      d.fieldAt? ks = some v ∧ v.isObject = false := by
  induction ss generalizing d with
  | nil => exact absurd rfl hne
  | cons s ss ih =>
    rw [follow?, step?_of_isObject hd] at h
    cases hv : d.field? s with
    | none =>
      rw [hv] at h
      contradiction
    | some v =>
      rw [hv, Option.bind_some] at h
      by_cases hnil : ss = []
      · exact Or.inl (cons_mem_chains.2 ⟨v, hv, Or.inl hnil⟩)
      · cases hobj : v.isObject with
        | false =>
          have hs : d.fieldAt? [s] = some v := by rw [fieldAt?, hv]; rfl
          exact Or.inr ⟨[s], ss, v, rfl, List.cons_ne_nil _ _, hnil, hs, hobj⟩
        | true =>
          rcases ih hobj hnil h with hmem | ⟨ks, rest, u, rfl, hks, hrest, hu, hno⟩
          · exact Or.inl (cons_mem_chains.2 ⟨v, hv, Or.inr hmem⟩)
          · refine Or.inr ⟨s :: ks, rest, u, rfl, List.cons_ne_nil _ _, hrest, ?_, hno⟩
            rw [fieldAt?, hv, Option.bind_some, hu]

/-- What a path finds is as before, unless the path is a field of the delta, or leads through a
field that the delta replaces. -/
theorem follow?_merge_of_not_mem_chains (ht : t.isObject = true) (hd : d.isObject = true)
    {ss : List String} (hne : ss ≠ []) (hss : ss ∉ d.chains)
    (hkept : ∀ ks rest, ss = ks ++ rest → ks ≠ [] → rest ≠ [] → ¬ ReplacesAt t d ks) :
    (t.merge d).follow? ss = t.follow? ss := by
  induction ss generalizing t d with
  | nil => exact absurd rfl hne
  | cons s ss ih =>
    rw [follow?, follow?, step?_of_isObject (by rwa [isObject_merge]), step?_of_isObject ht,
      field?_merge ht hd]
    cases hb : d.field? s with
    | none => rw [Option.merge_none_right]
    | some b =>
      have hnil : ss ≠ [] := fun hnil => hss (cons_mem_chains.2 ⟨b, hb, Or.inl hnil⟩)
      have hbelow : ss ∉ b.chains := fun hmem => hss (cons_mem_chains.2 ⟨b, hb, Or.inr hmem⟩)
      have hds : d.fieldAt? [s] = some b := by rw [fieldAt?, hb]; rfl
      have hbobj : b.isObject = true := by
        by_contra hno
        exact hkept [s] ss rfl (List.cons_ne_nil _ _) hnil
          ⟨b, hds, Or.inl (Bool.eq_false_iff.2 hno)⟩
      cases ha : t.field? s with
      | none =>
        -- the delta brings the whole object, which must not have anything at the path
        rw [Option.merge_none_left, Option.bind_some, Option.bind_none,
          ← Option.not_isSome_iff_eq_none]
        intro hsome
        rcases mem_chains_or_of_isSome_follow? hbobj hnil hsome with
          hmem | ⟨ks, rest, v, rfl, hks, hrest, hv, hno⟩
        · exact hbelow hmem
        · refine hkept (s :: ks) rest rfl (List.cons_ne_nil _ _) hrest ⟨v, ?_, Or.inl hno⟩
          rw [fieldAt?, hb, Option.bind_some, hv]
      | some a =>
        have hts : t.fieldAt? [s] = some a := by rw [fieldAt?, ha]; rfl
        have haobj : a.isObject = true := by
          by_contra hno
          exact hkept [s] ss rfl (List.cons_ne_nil _ _) hnil
            ⟨b, hds, Or.inr ⟨a, hts, Bool.eq_false_iff.2 hno⟩⟩
        refine ih haobj hbobj hnil hbelow fun ks rest hsplit hks hrest hreplaces => ?_
        exact hkept (s :: ks) rest (by rw [hsplit, List.cons_append]) (List.cons_ne_nil _ _) hrest
          (hreplaces.cons ha hb)

end Intercept.Document
