import Intercept.Proofs.Document.DeltaLog
import Intercept.Proofs.Document.Pathwise
import Mathlib.Data.Fintype.EquivFin

/-!
# Two deltas

Two deltas are laid over a document one after the other. Whether their order matters, and whether
they may be merged first and laid over the document as one, depends on what they hold at the chains
of field names that lead to a value in both of them.

* The order does not matter if and only if they never hold different values of which one is no
  object (`merge_right_comm_iff`).
* They may be combined if and only if the first one never holds a value that is no object where the
  second one holds an object (`merge_assoc_iff`). In turn, the first one makes room for that object;
  combined, the object is laid over whatever the document has there.

Along a chain that leads to a value in both of two documents, both hold objects, so that merging
them merges these values (`fieldAt?_merge`). This gives the one direction, for a document that shows
the difference. The other one goes field by field (`field?_merge_object`).
-/

namespace Intercept.Document

variable {d e : Document}

/-! ### Fields of merged documents -/

/-- The fields of a document with an object laid over it. A document that is no object has none. -/
lemma field?_merge_object (t : Document) (hd : d.isObject = true) (k : String) :
    (t.merge d).field? k = (t.field? k).merge merge (d.field? k) := by
  cases ht : t.isObject with
  | true => exact field?_merge ht hd k
  | false =>
    have hnone : t.field? k = none := by
      rw [Option.eq_none_iff_forall_ne_some]
      intro v hv
      rw [isObject_of_field? hv] at ht
      contradiction
    rw [merge_of_target_not_isObject ht, hnone, Option.merge_none_left]

/-- A chain that leads to a value in both documents leads to these values, merged. -/
lemma fieldAt?_merge {ks : List String} {v w : Document} (hd : d.fieldAt? ks = some v)
    (he : e.fieldAt? ks = some w) : (d.merge e).fieldAt? ks = some (v.merge w) := by
  induction ks generalizing d e with
  | nil =>
    obtain rfl : d = v := Option.some.inj hd
    obtain rfl : e = w := Option.some.inj he
    rfl
  | cons k ks ih =>
    obtain ⟨a, ha, hav⟩ := Option.bind_eq_some_iff.1 hd
    obtain ⟨b, hb, hbw⟩ := Option.bind_eq_some_iff.1 he
    rw [fieldAt?, field?_merge_object d (isObject_of_field? hb), ha, hb]
    exact ih hav hbw

/-! ### The order of two deltas -/

/-- Two deltas hold different values at a chain of names, and one of these is no object. -/
def ConflictAt (d e : Document) (ks : List String) : Prop :=
  ∃ v w, d.fieldAt? ks = some v ∧ e.fieldAt? ks = some w ∧
    ¬ (v.isObject = true ∧ w.isObject = true) ∧ v ≠ w

/-- A conflict further down, seen from above. -/
lemma ConflictAt.cons {a b : Document} {k : String} {ks : List String} (h : ConflictAt a b ks)
    (ha : d.field? k = some a) (hb : e.field? k = some b) : ConflictAt d e (k :: ks) := by
  obtain ⟨v, w, hv, hw, hne⟩ := h
  exact ⟨v, w, by rw [fieldAt?, ha, Option.bind_some, hv],
    by rw [fieldAt?, hb, Option.bind_some, hw], hne⟩

/-- Deltas without a conflict that are not both objects are the same. -/
lemma eq_of_not_conflictAt (h : ¬ ConflictAt d e [])
    (hboth : ¬ (d.isObject = true ∧ e.isObject = true)) : d = e := by
  by_contra hne
  exact h ⟨d, e, rfl, rfl, hboth, hne⟩

/-- A field of two objects may be decided in either order: `a` is the value in the document, `b` and
`c` are those in the deltas. -/
lemma option_merge_right_comm {a b c : Option Document}
    (h : ∀ u v, b = some u → c = some v → ∀ t, (merge t u).merge v = (merge t v).merge u) :
    (a.merge merge b).merge merge c = (a.merge merge c).merge merge b := by
  cases b with
  | none => rw [Option.merge_none_right, Option.merge_none_right]
  | some u =>
    cases c with
    | none => rw [Option.merge_none_right, Option.merge_none_right]
    | some v =>
      cases a with
      | some t => exact congrArg some (h u v rfl rfl t)
      | none =>
        -- laid over null, the first delta is what remains of it
        have hnull := h u v rfl rfl null
        rw [merge_of_target_not_isObject (t := null) rfl,
          merge_of_target_not_isObject (t := null) rfl] at hnull
        exact congrArg some hnull

/-- Deltas without a conflict may be laid over a document in either order. -/
lemma merge_right_comm (h : ∀ ks, ¬ ConflictAt d e ks) (t : Document) :
    (t.merge d).merge e = (t.merge e).merge d := by
  induction d using fieldInduction generalizing t e with
  | step d ih =>
    by_cases hboth : d.isObject = true ∧ e.isObject = true
    · obtain ⟨hd, he⟩ := hboth
      refine eq_of_field? (by rwa [isObject_merge]) (by rwa [isObject_merge]) fun k => ?_
      rw [field?_merge_object _ he, field?_merge_object _ hd, field?_merge_object _ hd,
        field?_merge_object _ he]
      exact option_merge_right_comm fun u v hu hv =>
        ih k u hu fun ks hconflict => h (k :: ks) (hconflict.cons hu hv)
    · rw [eq_of_not_conflictAt (h []) hboth]

/-- The order of two deltas is irrelevant, whatever they are laid over, if and only if no chain of
field names leads in both of them to values that differ and are not both objects. -/
theorem merge_right_comm_iff (d e : Document) :
    (∀ t : Document, (t.merge d).merge e = (t.merge e).merge d) ↔ ¬ ∃ ks, ConflictAt d e ks := by
  constructor
  · rintro h ⟨ks, v, w, hv, hw, hboth, hne⟩
    have hnull : d.merge e = e.merge d := by
      have hturn := h null
      rwa [merge_of_target_not_isObject (t := null) rfl,
        merge_of_target_not_isObject (t := null) rfl] at hturn
    have hforward : (d.merge e).fieldAt? ks = some w := by
      rw [fieldAt?_merge hv hw, merge_eq_delta hboth]
    have hbackward : (e.merge d).fieldAt? ks = some v := by
      rw [fieldAt?_merge hw hv, merge_eq_delta fun hboth' => hboth hboth'.symm]
    rw [hnull, hbackward] at hforward
    exact hne (Option.some.inj hforward)
  · exact fun h => merge_right_comm (not_exists.1 h)

/-! ### Two deltas as one -/

/-- At a chain of names the first delta holds a value that is no object, and the second one holds an
object, for which the first one makes room. -/
def ResetAt (d e : Document) (ks : List String) : Prop :=
  ∃ v w, d.fieldAt? ks = some v ∧ v.isObject = false ∧
    e.fieldAt? ks = some w ∧ w.isObject = true

/-- Room made further down, seen from above. -/
lemma ResetAt.cons {a b : Document} {k : String} {ks : List String} (h : ResetAt a b ks)
    (ha : d.field? k = some a) (hb : e.field? k = some b) : ResetAt d e (k :: ks) := by
  obtain ⟨v, w, hv, hvno, hw, hwobj⟩ := h
  exact ⟨v, w, by rw [fieldAt?, ha, Option.bind_some, hv], hvno,
    by rw [fieldAt?, hb, Option.bind_some, hw], hwobj⟩

/-- The value of a field is decided by two deltas in turn as by the two combined: `a` is the value
in the document, `b` and `c` are those in the deltas. -/
lemma option_merge_assoc {a b c : Option Document}
    (h : ∀ u v, b = some u → c = some v → ∀ t, (merge t u).merge v = merge t (u.merge v)) :
    (a.merge merge b).merge merge c = a.merge merge (b.merge merge c) := by
  cases a with
  | none => rw [Option.merge_none_left, Option.merge_none_left]
  | some t =>
    cases b with
    | none => rw [Option.merge_none_right, Option.merge_none_left]
    | some u =>
      cases c with
      | none => rw [Option.merge_none_right, Option.merge_none_right]
      | some v => exact congrArg some (h u v rfl rfl t)

/-- Deltas of which the first one makes no room for the second one may be combined. -/
lemma merge_assoc (h : ∀ ks, ¬ ResetAt d e ks) (t : Document) :
    (t.merge d).merge e = t.merge (d.merge e) := by
  induction d using fieldInduction generalizing t e with
  | step d ih =>
    cases he : e.isObject with
    | false => rw [merge_of_not_isObject he, merge_of_not_isObject he, merge_of_not_isObject he]
    | true =>
      have hd : d.isObject = true := by
        by_contra hno
        exact h [] ⟨d, e, rfl, Bool.eq_false_iff.2 hno, rfl, he⟩
      have hde : (d.merge e).isObject = true := by rwa [isObject_merge]
      refine eq_of_field? (by rwa [isObject_merge]) (by rwa [isObject_merge]) fun k => ?_
      rw [field?_merge_object _ he, field?_merge_object _ hd, field?_merge_object _ hde,
        field?_merge_object _ he]
      exact option_merge_assoc fun u v hu hv =>
        ih k u hu fun ks hreset => h (k :: ks) (hreset.cons hu hv)

/-- The document that has nothing but a value at a chain of names. -/
def nest (ks : List String) (v : Document) : Document :=
  ks.foldr (fun k d => ofFields [(k, d)]) v

/-- The chain leads to the value. -/
lemma fieldAt?_nest (ks : List String) (v : Document) : (nest ks v).fieldAt? ks = some v := by
  induction ks with
  | nil => rfl
  | cons k ks ih =>
    have hk : (nest (k :: ks) v).field? k = some (nest ks v) := by
      rw [nest, List.foldr_cons, field?_ofFields]
      simp [nest, lastEntry?]
    rw [fieldAt?, hk, Option.bind_some, ih]

/-- Every document lacks a field of some name. -/
lemma exists_field?_eq_none (d : Document) : ∃ k, d.field? k = none := by
  cases d with
  | object names child =>
    obtain ⟨k, hk⟩ := Infinite.exists_notMem_finset names.names.toFinset
    exact ⟨k, dif_neg fun hmem => hk (List.mem_toFinset.2 hmem)⟩
  | _ => exact ⟨"", rfl⟩

/-- Two deltas may be combined, whatever they are laid over, if and only if no chain of field names
leads to a value that is no object in the first one and to an object in the second one. -/
theorem merge_assoc_iff (d e : Document) :
    (∀ t : Document, (t.merge d).merge e = t.merge (d.merge e)) ↔ ¬ ∃ ks, ResetAt d e ks := by
  constructor
  · rintro h ⟨ks, v, w, hv, hvno, hw, hwobj⟩
    -- the document has a field there that the object of the second delta lacks
    obtain ⟨k, hk⟩ := exists_field?_eq_none w
    let u : Document := ofFields [(k, null)]
    have hu := fieldAt?_nest ks u
    have hturn : ((nest ks u).merge d |>.merge e).fieldAt? ks = some w := by
      rw [fieldAt?_merge (fieldAt?_merge hu hv) hw, merge_of_not_isObject hvno,
        merge_of_target_not_isObject hvno]
    have hone : ((nest ks u).merge (d.merge e)).fieldAt? ks = some (u.merge w) := by
      rw [fieldAt?_merge hu (fieldAt?_merge hv hw), merge_of_target_not_isObject hvno]
    rw [h, hone, Option.some.injEq] at hturn
    have hlost : ((u.merge w).field? k).isSome = true :=
      isSome_field?_merge rfl hwobj (by simp [u, field?_ofFields, lastEntry?])
    rw [hturn, hk] at hlost
    contradiction
  · exact fun h => merge_assoc (not_exists.1 h)

-- A scalar makes room for the empty object, but not when the two are combined.
example :
    let t := ofFields [("x", ofFields [("y", .bool true)])]
    let d := ofFields [("x", null)]
    let e := ofFields [("x", ofFields [])]
    ((t.merge d).merge e).resolve? "x.y" = none ∧
      (t.merge (d.merge e)).resolve? "x.y" = some (.bool true) := ⟨rfl, rfl⟩

end Intercept.Document
