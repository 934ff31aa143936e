import Intercept.Document.Parser
import Intercept.Document.Pointer
import Intercept.Proofs.Document.DeltaLog
import Intercept.Proofs.Document.Pathwise
import Mathlib.Data.List.MinMax
import Mathlib.Order.Nat

/-!
# How deep documents are nested

The depth of a document counts its levels of containers: what is found in a document is less deep
(`depth_lt_of_atKey?`), and a document that was read is no deeper than readers go
(`depth_le_of_parseBytes?`). Main statement: `depth_merge_le`. A merged document is no deeper than
the deeper one of the two. Where the delta brings a value it is as deep in the result as it was in the
delta, and where both have an object the result is one level above what it holds.
-/

namespace Intercept.Document

/-- How deep containers are nested in a document: not at all in a scalar, and in a container one
level more than in the deepest of its children. -/
def depth : Document → Nat
  | array n item => ((List.finRange n).map fun i => depth (item i)).foldr max 0 + 1
  | object ks child => (ks.names.attach.map fun ⟨k, h⟩ => depth (child k h)).foldr max 0 + 1
  | _ => 0

/-- The greatest of some numbers is below a bound if all of them are. -/
lemma foldr_max_le_iff {l : List Nat} {n : Nat} : l.foldr max 0 ≤ n ↔ ∀ m ∈ l, m ≤ n := by
  refine ⟨fun h m hm => (List.le_max_of_le hm le_rfl).trans h, List.max_le_of_forall_le l n⟩

/-- A document is found directly in another one: as a field of an object or as an item of an array. -/
def HasChild (d v : Document) : Prop := (∃ k, d.field? k = some v) ∨ ∃ i, d.item? i = some v

lemma hasChild_array {m : Nat} {item : Fin m → Document} {v : Document} :
    (array m item).HasChild v ↔ ∃ i, item i = v := by
  constructor
  · rintro (⟨_, hv⟩ | ⟨i, hv⟩)
    · contradiction
    · rw [item?] at hv
      split at hv
      · next hi => exact ⟨⟨i, hi⟩, Option.some.inj hv⟩
      · contradiction
  · rintro ⟨i, rfl⟩
    exact Or.inr ⟨i, dif_pos i.2⟩

lemma hasChild_object {ks : KeySet} {child : (k : String) → k ∈ ks → Document} {v : Document} :
    (object ks child).HasChild v ↔ ∃ k, ∃ h : k ∈ ks, child k h = v := by
  constructor
  · rintro (⟨k, hv⟩ | ⟨_, hv⟩)
    · rw [field?_object] at hv
      split at hv
      · next hk => exact ⟨k, hk, Option.some.inj hv⟩
      · contradiction
    · contradiction
  · rintro ⟨k, hk, rfl⟩
    exact Or.inl ⟨k, dif_pos hk⟩

/-- A document is as deep as its children say. -/
lemma depth_le_succ_iff {d : Document} {n : Nat} :
    d.depth ≤ n + 1 ↔ ∀ v, d.HasChild v → v.depth ≤ n := by
  cases d with
  | array m item =>
    rw [depth, Nat.add_le_add_iff_right, foldr_max_le_iff, List.forall_mem_map]
    simp only [hasChild_array, forall_exists_index, forall_apply_eq_imp_iff]
    exact ⟨fun h i => h i (List.mem_finRange i), fun h i _ => h i⟩
  | object ks child =>
    rw [depth, Nat.add_le_add_iff_right, foldr_max_le_iff, List.forall_mem_map]
    simp only [hasChild_object, forall_exists_index]
    constructor
    · rintro h v k hk rfl
      exact h ⟨k, hk⟩ (List.mem_attach _ _)
    · rintro h ⟨k, hk⟩ -
      exact h _ k hk rfl
  | _ => simp [depth, HasChild, field?, item?]

/-- A container is a level of its own. -/
lemma HasChild.depth_lt {d v : Document} (h : d.HasChild v) : v.depth < d.depth := by
  cases hd : d.depth with
  | zero =>
    cases d with
    | array m item =>
      rw [depth] at hd
      contradiction
    | object ks child =>
      rw [depth] at hd
      contradiction
    | _ => simp [HasChild, field?, item?] at h
  | succ n => exact Nat.lt_succ_of_le (depth_le_succ_iff.1 hd.le v h)

/-- A field is less deep than its object. -/
lemma depth_lt_of_field? {d v : Document} {k : String} (h : d.field? k = some v) :
    v.depth < d.depth := HasChild.depth_lt (Or.inl ⟨k, h⟩)

/-- An item is less deep than its array. -/
lemma depth_lt_of_item? {d v : Document} {i : Nat} (h : d.item? i = some v) :
    v.depth < d.depth := HasChild.depth_lt (Or.inr ⟨i, h⟩)

/-- An object is as deep as its fields say. -/
lemma depth_le_of_isObject {d : Document} {m : Nat} (hd : d.isObject = true) (hm : 0 < m)
    (h : ∀ k v, d.field? k = some v → v.depth < m) : d.depth ≤ m := by
  obtain ⟨n, rfl⟩ := Nat.exists_eq_succ_of_ne_zero hm.ne'
  refine depth_le_succ_iff.2 ?_
  rintro v (⟨k, hv⟩ | ⟨i, hv⟩)
  · exact Nat.le_of_lt_succ (h k v hv)
  · cases d with
    | object ks child => contradiction
    | _ => contradiction

/-! ### Merging -/

/-- A document with a delta laid over it is no deeper than the deeper one of the two. -/
theorem depth_merge_le (t d : Document) : (t.merge d).depth ≤ max t.depth d.depth := by
  induction d using fieldInduction generalizing t with
  | step d ih =>
    by_cases hboth : t.isObject = true ∧ d.isObject = true
    · obtain ⟨ht, hd⟩ := hboth
      have hpos : 0 < max t.depth d.depth := by
        cases d with
        | object ks child => exact lt_max_of_lt_right (Nat.succ_pos _)
        | _ => contradiction
      refine depth_le_of_isObject (by rwa [isObject_merge]) hpos fun k v hv => ?_
      rw [field?_merge ht hd] at hv
      cases ha : t.field? k with
      | none =>
        rw [ha, Option.merge_none_left] at hv
        exact lt_max_of_lt_right (depth_lt_of_field? hv)
      | some a =>
        cases hb : d.field? k with
        | none =>
          rw [ha, hb] at hv
          exact lt_max_of_lt_left (depth_lt_of_field? (ha.trans hv))
        | some b =>
          rw [ha, hb] at hv
          obtain rfl : a.merge b = v := Option.some.inj hv
          have hbelow : (a.merge b).depth ≤ max a.depth b.depth := ih k b hb a
          exact hbelow.trans_lt (max_lt_max (depth_lt_of_field? ha) (depth_lt_of_field? hb))
    · rw [merge_eq_delta hboth]
      exact le_max_right _ _

/-! ### What is found in a document -/

/-- A token of a key leads at least one level down. -/
lemma depth_lt_of_tokenStep? {d v : Document} {token : String} (h : d.tokenStep? token = some v) :
    v.depth < d.depth := by
  cases d with
  | array n item =>
    obtain ⟨i, -, hi⟩ := Option.bind_eq_some_iff.1 h
    exact depth_lt_of_item? hi
  | object ks child => exact depth_lt_of_field? h
  | _ => contradiction

/-- The tokens of a key lead down at least as many levels as they are. -/
lemma depth_add_length_le_of_followTokens? {d v : Document} {ts : List String}
    (h : d.followTokens? ts = some v) : v.depth + ts.length ≤ d.depth := by
  induction ts generalizing d with
  | nil =>
    obtain rfl : d = v := Option.some.inj h
    exact Nat.le_refl d.depth
  | cons t ts ih =>
    obtain ⟨c, hc, hv⟩ := Option.bind_eq_some_iff.1 h
    have hlevel : c.depth < d.depth := depth_lt_of_tokenStep? hc
    have hrest : v.depth + ts.length ≤ c.depth := ih hv
    rw [List.length_cons]
    omega

/-- What a key leads to is less deep than the whole document. -/
lemma depth_lt_of_atKey? {d v : Document} {key : String} (h : d.atKey? key = some v) :
    v.depth < d.depth := by
  have hsome : 0 < (pointerTokens key).length := by
    rw [pointerTokens, List.length_map, Text.splitAt_eq_splitOn]
    exact List.length_pos_of_ne_nil (List.splitOn_ne_nil _ _)
  have hlevels : v.depth + (pointerTokens key).length ≤ d.depth :=
    depth_add_length_le_of_followTokens? h
  omega

/-- What a segment of a path leads to is less deep. -/
lemma depth_lt_of_step? {d v : Document} {segment : String} (h : d.step? segment = some v) :
    v.depth < d.depth := by
  cases d with
  | array n item =>
    obtain ⟨i, -, hi⟩ := Option.bind_eq_some_iff.1 h
    exact depth_lt_of_item? hi
  | object ks child => exact depth_lt_of_field? h
  | _ => contradiction

/-- What a path leads to is no deeper than the whole document. -/
lemma depth_le_of_follow? {d v : Document} {ss : List String} (h : d.follow? ss = some v) :
    v.depth ≤ d.depth := by
  induction ss generalizing d with
  | nil =>
    obtain rfl : d = v := Option.some.inj h
    exact Nat.le_refl d.depth
  | cons s ss ih =>
    obtain ⟨c, hc, hv⟩ := Option.bind_eq_some_iff.1 h
    exact (ih hv).trans (depth_lt_of_step? hc).le

/-- What is resolved in a document is no deeper than the document. -/
lemma depth_le_of_resolve? {d v : Document} {path : String} (h : d.resolve? path = some v) :
    v.depth ≤ d.depth := by
  unfold resolve? at h
  split at h
  · obtain rfl : d = v := Option.some.inj h
    exact Nat.le_refl d.depth
  · exact depth_le_of_follow? h

/-! ### What is read from a text -/

/-- An array is one level deeper than its items. -/
lemma depth_ofItems_le {ds : List Document} {n : Nat} (h : ∀ d ∈ ds, d.depth ≤ n) :
    (ofItems ds).depth ≤ n + 1 := by
  refine depth_le_succ_iff.2 fun v hv => ?_
  rw [ofItems] at hv
  obtain ⟨i, rfl⟩ := hasChild_array.1 hv
  exact h _ (List.mem_toArray.1 (Array.getElem_mem _))

/-- An object is one level deeper than its fields. -/
lemma depth_ofFields_le {fs : List (String × Document)} {n : Nat} (h : ∀ f ∈ fs, f.2.depth ≤ n) :
    (ofFields fs).depth ≤ n + 1 := by
  refine depth_le_succ_iff.2 ?_
  rintro v (⟨k, hv⟩ | ⟨i, hv⟩)
  · rw [field?_ofFields, lastEntry?] at hv
    obtain ⟨f, hf, rfl⟩ := Option.map_eq_some_iff.1 hv
    exact h f (List.mem_reverse.1 (List.mem_of_find?_eq_some hf))
  · contradiction

/-- Scalars are not nested. -/
lemma depth_of_scalar? {cs rest : List Char} {d : Document} (h : scalar? cs = some (d, rest)) :
    d.depth = 0 := by
  unfold scalar? at h
  split at h
  all_goals
    obtain ⟨_, -, heq⟩ := Option.map_eq_some_iff.1 h
    obtain ⟨rfl, -⟩ := Prod.mk.inj heq
    rfl

/-- With a given budget, what the readers read is nested no deeper than the levels that they have
left. -/
structure ReadsWithin (fuel : Nat) : Prop where
  value : ∀ {depth cs d rest}, value? fuel depth cs = some (d, rest) → d.depth ≤ depth
  itemsBody : ∀ {depth cs ds rest}, itemsBody? fuel depth cs = some (ds, rest) →
    ∀ d ∈ ds, d.depth ≤ depth
  items : ∀ {depth acc cs ds rest}, items? fuel depth acc cs = some (ds, rest) →
    (∀ d ∈ acc, d.depth ≤ depth) → ∀ d ∈ ds, d.depth ≤ depth
  membersBody : ∀ {depth cs fs rest}, membersBody? fuel depth cs = some (fs, rest) →
    ∀ f ∈ fs, f.2.depth ≤ depth
  members : ∀ {depth acc cs fs rest}, members? fuel depth acc cs = some (fs, rest) →
    (∀ f ∈ acc, f.2.depth ≤ depth) → ∀ f ∈ fs, f.2.depth ≤ depth

namespace ReadsWithin

variable {fuel : Nat}

/-- Without a budget nothing is read. -/
lemma zero : ReadsWithin 0 where
  value h := by
    rw [value?] at h
    contradiction
  itemsBody h := by
    rw [itemsBody?] at h
    contradiction
  items h := by
    rw [items?] at h
    contradiction
  membersBody h := by
    rw [membersBody?] at h
    contradiction
  members h := by
    rw [members?] at h
    contradiction

/-- A container takes one of the levels, and a scalar none. -/
lemma value_succ (ih : ReadsWithin fuel) {depth : Nat} {cs rest : List Char} {d : Document}
    (h : value? (fuel + 1) depth cs = some (d, rest)) : d.depth ≤ depth := by
  unfold value? at h
  split at h
  · split at h
    · contradiction
    · obtain ⟨_, hbody, heq⟩ := Option.map_eq_some_iff.1 h
      obtain ⟨rfl, -⟩ := Prod.mk.inj heq
      exact depth_ofItems_le (ih.itemsBody hbody)
  · split at h
    · contradiction
    · obtain ⟨_, hbody, heq⟩ := Option.map_eq_some_iff.1 h
      obtain ⟨rfl, -⟩ := Prod.mk.inj heq
      exact depth_ofFields_le (ih.membersBody hbody)
  · rw [depth_of_scalar? h]
    exact Nat.zero_le depth

/-- The items of an array are within the levels that are left in it. -/
lemma items_succ (ih : ReadsWithin fuel) {depth : Nat} {acc ds : List Document}
    {cs rest : List Char} (h : items? (fuel + 1) depth acc cs = some (ds, rest))
    (hacc : ∀ d ∈ acc, d.depth ≤ depth) : ∀ d ∈ ds, d.depth ≤ depth := by
  rw [items?] at h
  obtain ⟨⟨d, cs'⟩, hvalue, h⟩ := Option.bind_eq_some_iff.1 h
  have hread : ∀ e ∈ d :: acc, e.depth ≤ depth := List.forall_mem_cons.2 ⟨ih.value hvalue, hacc⟩
  simp only at h
  split at h
  · exact ih.items h hread
  · obtain ⟨rfl, -⟩ := Prod.mk.inj (Option.some.inj h)
    exact fun e he => hread e (List.mem_reverse.1 he)
  · contradiction

/-- The fields of an object are within the levels that are left in it. -/
lemma members_succ (ih : ReadsWithin fuel) {depth : Nat} {acc fs : List (String × Document)}
    {cs rest : List Char} (h : members? (fuel + 1) depth acc cs = some (fs, rest))
    (hacc : ∀ f ∈ acc, f.2.depth ≤ depth) : ∀ f ∈ fs, f.2.depth ≤ depth := by
  unfold members? at h
  split at h
  · obtain ⟨⟨k, cs'⟩, -, h⟩ := Option.bind_eq_some_iff.1 h
    simp only at h
    split at h
    · obtain ⟨⟨d, cs''⟩, hvalue, h⟩ := Option.bind_eq_some_iff.1 h
      have hread : ∀ f ∈ (k, d) :: acc, f.2.depth ≤ depth :=
        List.forall_mem_cons.2 ⟨ih.value hvalue, hacc⟩
      simp only at h
      split at h
      · exact ih.members h hread
      · obtain ⟨rfl, -⟩ := Prod.mk.inj (Option.some.inj h)
        exact fun f hf => hread f (List.mem_reverse.1 hf)
      · contradiction
    · contradiction
  · contradiction

/-- A larger budget does not let the readers go deeper. -/
lemma succ (ih : ReadsWithin fuel) : ReadsWithin (fuel + 1) where
  value := ih.value_succ
  itemsBody h := by
    rw [itemsBody?] at h
    split at h
    · obtain ⟨rfl, -⟩ := Prod.mk.inj (Option.some.inj h)
      simp
    · exact ih.items h (by simp)
  items := ih.items_succ
  membersBody h := by
    rw [membersBody?] at h
    split at h
    · obtain ⟨rfl, -⟩ := Prod.mk.inj (Option.some.inj h)
      simp
    · exact ih.members h (by simp)
  members := ih.members_succ

end ReadsWithin

/-- With any budget, what the readers read is within the levels that they have left. -/
lemma readsWithin (fuel : Nat) : ReadsWithin fuel := by
  induction fuel with
  | zero => exact .zero
  | succ fuel ih => exact ih.succ

/-- A document that is read from bytes is nested at most as deep as readers go. -/
theorem depth_le_of_parseBytes? {bytes : ByteArray} {d : Document}
    (h : parseBytes? bytes = some d) : d.depth ≤ maxDepth := by
  obtain ⟨s, -, hs⟩ := Option.bind_eq_some_iff.1 h
  rw [parse?, parseChars?] at hs
  obtain ⟨⟨d', rest⟩, hvalue, hrest⟩ := Option.bind_eq_some_iff.1 hs
  simp only at hrest
  split at hrest
  · obtain rfl := Option.some.inj hrest
    exact (readsWithin _).value hvalue
  · contradiction

end Intercept.Document
