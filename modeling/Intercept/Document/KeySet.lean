/-!
# Sets of field names

The names of an object's fields form a finite set of strings. It is kept as a strictly ascending
list, in the order of Unicode code points, so two sets with the same members are equal and every
enumeration of fields has one order.
-/

namespace Intercept

/-- A finite set of field names, listed in ascending order. -/
@[ext] structure KeySet where
  names : List String
  ascending : names.Pairwise (· < ·)

namespace KeySet

instance : Membership String KeySet := ⟨fun ks k => k ∈ ks.names⟩

instance (k : String) (ks : KeySet) : Decidable (k ∈ ks) :=
  inferInstanceAs (Decidable (k ∈ ks.names))

theorem mem_names {k : String} {ks : KeySet} : k ∈ ks.names ↔ k ∈ ks := Iff.rfl

/-- The set without members. -/
def empty : KeySet := ⟨[], .nil⟩

/-- Insert a name into an ascending list, leaving the list alone if the name is there. -/
def insertName (k : String) : List String → List String
  | [] => [k]
  | n :: ns => if k < n then k :: n :: ns else if k = n then n :: ns else n :: insertName k ns

theorem mem_insertName {k m : String} (ns : List String) :
    m ∈ insertName k ns ↔ m = k ∨ m ∈ ns := by
  induction ns with
  | nil => simp [insertName]
  | cons n ns ih =>
    unfold insertName
    split
    · simp
    · split
      · simp_all
      · simp only [List.mem_cons, ih]
        constructor
        · rintro (h | h | h) <;> simp [h]
        · rintro (h | h | h) <;> simp [h]

theorem ascending_insertName {k : String} {ns : List String} (h : ns.Pairwise (· < ·)) :
    (insertName k ns).Pairwise (· < ·) := by
  induction ns with
  | nil => simp [insertName]
  | cons n ns ih =>
    obtain ⟨hn, hns⟩ := List.pairwise_cons.1 h
    unfold insertName
    split
    · rename_i hk
      refine List.pairwise_cons.2 ⟨fun m hm => ?_, h⟩
      rcases List.mem_cons.1 hm with rfl | hm
      · exact hk
      · exact String.lt_trans hk (hn m hm)
    · split
      · exact h
      · rename_i hlt hne
        refine List.pairwise_cons.2 ⟨fun m hm => ?_, ih hns⟩
        rcases (mem_insertName ns).1 hm with rfl | hm
        · rcases Std.lt_trichotomy m n with h | h | h
          · exact absurd h hlt
          · exact absurd h hne
          · exact h
        · exact hn m hm

/-- Add one name. -/
def insert (k : String) (ks : KeySet) : KeySet :=
  ⟨insertName k ks.names, ascending_insertName ks.ascending⟩

@[simp] theorem mem_insert {k m : String} {ks : KeySet} : m ∈ ks.insert k ↔ m = k ∨ m ∈ ks :=
  mem_insertName ks.names

@[simp] theorem not_mem_empty {k : String} : k ∉ empty := List.not_mem_nil

/-- The set of the names in a list. -/
def ofList (ns : List String) : KeySet := ns.foldr insert empty

@[simp] theorem mem_ofList {k : String} {ns : List String} : k ∈ ofList ns ↔ k ∈ ns := by
  induction ns with
  | nil => simp [ofList]
  | cons n ns ih => simp [ofList, ← ih]

/-- The names in either set. -/
def union (ks ls : KeySet) : KeySet := ks.names.foldr insert ls

@[simp] theorem mem_union {k : String} {ks ls : KeySet} : k ∈ ks.union ls ↔ k ∈ ks ∨ k ∈ ls := by
  have key (ns : List String) : k ∈ ns.foldr insert ls ↔ k ∈ ns ∨ k ∈ ls := by
    induction ns with
    | nil => simp
    | cons n ns ih => simp [ih, or_assoc]
  exact key ks.names

/-- Two sets with the same members are equal. -/
theorem ext_mem {ks ls : KeySet} (h : ∀ k, k ∈ ks ↔ k ∈ ls) : ks = ls := by
  have key : ∀ {ns ms : List String}, ns.Pairwise (· < ·) → ms.Pairwise (· < ·) →
      (∀ k, k ∈ ns ↔ k ∈ ms) → ns = ms := by
    intro ns
    induction ns with
    | nil =>
      intro ms _ _ h
      cases ms with
      | nil => rfl
      | cons m ms => simpa using (h m).2 (by simp)
    | cons n ns ih =>
      intro ms hn hm h
      cases ms with
      | nil => simpa using (h n).1 (by simp)
      | cons m ms =>
        obtain ⟨hn, hns⟩ := List.pairwise_cons.1 hn
        obtain ⟨hm, hms⟩ := List.pairwise_cons.1 hm
        have e : n = m := by
          rcases List.mem_cons.1 ((h n).1 (by simp)) with e | e
          · exact e
          · rcases List.mem_cons.1 ((h m).2 (by simp)) with e' | e'
            · exact e'.symm
            · exact absurd (hm n e) (String.lt_asymm (hn m e'))
        subst e
        congr 1
        refine ih hns hms fun k => ⟨fun hk => ?_, fun hk => ?_⟩
        · rcases List.mem_cons.1 ((h k).1 (List.mem_cons_of_mem _ hk)) with e | e
          · exact absurd (hn k hk) (e ▸ String.lt_irrefl k)
          · exact e
        · rcases List.mem_cons.1 ((h k).2 (List.mem_cons_of_mem _ hk)) with e | e
          · exact absurd (hm k hk) (e ▸ String.lt_irrefl k)
          · exact e
  exact KeySet.ext (key ks.ascending ls.ascending h)

end KeySet

end Intercept
