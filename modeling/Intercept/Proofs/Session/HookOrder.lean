import Intercept.Session.HookTable
import Mathlib.Data.List.Nodup
import Mathlib.Data.List.Sort

/-!
# The order of hooks

Hooks that are put in order run by descending priority, and those of equal priority in the order of
their registration. `InPriorityOrder` says this of a list of hooks and the list in which they were
registered. Sorting a table brings its hooks into that order (`inPriorityOrder_sort`), and whoever
leaves some of the hooks out, by removing them or by looking at one target only, leaves them out of
both lists and so keeps the order (`InPriorityOrder.filter`).
-/

namespace Intercept

variable {α : Type}

/-- A list of hooks is the list of their registration, arranged by descending priority and without
changing the order of hooks that agree in it. -/
structure InPriorityOrder (registered chain : List (Hook α)) : Prop where
  perm : chain.Perm registered
  descending : chain.Pairwise fun a b => b.priority ≤ a.priority
  stable : ∀ p, chain.filter (fun h => h.priority = p) = registered.filter fun h => h.priority = p

namespace InPriorityOrder

variable {registered chain : List (Hook α)}

/-- Leaving hooks out keeps the order. -/
theorem filter (h : InPriorityOrder registered chain) (keep : Hook α → Bool) :
    InPriorityOrder (registered.filter keep) (chain.filter keep) where
  perm := h.perm.filter keep
  descending := h.descending.filter keep
  stable p := by
    have hcomm (hooks : List (Hook α)) :
        (hooks.filter keep).filter (fun h => h.priority = p) =
          (hooks.filter fun h => h.priority = p).filter keep := by
      rw [List.filter_filter, List.filter_filter]
      simp only [Bool.and_comm]
    rw [hcomm, hcomm, h.stable p]

/-- Hooks that are told apart by their numbers when they are registered are so in their order. -/
lemma nodup_map_id (h : InPriorityOrder registered chain)
    (hnodup : (registered.map Hook.id).Nodup) : (chain.map Hook.id).Nodup :=
  (h.perm.map Hook.id).nodup_iff.2 hnodup

end InPriorityOrder

namespace HookTable

/-- Of two hooks the first one may run before the second. -/
def precedes (a b : Hook α) : Prop := b.priority ≤ a.priority

instance : DecidableRel (precedes (α := α)) := fun a b =>
  inferInstanceAs (Decidable (b.priority ≤ a.priority))

instance : Std.Total (precedes (α := α)) := ⟨fun a b => Int32.le_total b.priority a.priority⟩

instance : IsTrans (Hook α) precedes := ⟨fun _ _ _ hab hbc => Int32.le_trans hbc hab⟩

/-- A hook is put in its place as in sorting by insertion. -/
lemma insertByPriority_eq (h : Hook α) (hooks : List (Hook α)) :
    insertByPriority h hooks = hooks.orderedInsert precedes h := by
  induction hooks with
  | nil => rfl
  | cons g hooks ih =>
    rw [insertByPriority, List.orderedInsert, ih]
    rfl

/-- A table is sorted by insertion. -/
lemma hooks_sort (t : HookTable α) : t.sort.hooks = t.hooks.insertionSort precedes := by
  have h : insertByPriority (α := α) = List.orderedInsert precedes := by
    funext h hooks
    exact insertByPriority_eq h hooks
  rw [sort, List.insertionSort, h]

/-- A hook is put in front of the hooks of its own priority. -/
lemma filter_insertByPriority (h : Hook α) (hooks : List (Hook α)) (p : Int32) :
    (insertByPriority h hooks).filter (fun g => g.priority = p) =
      (h :: hooks).filter fun g => g.priority = p := by
  induction hooks with
  | nil => rfl
  | cons g hooks ih =>
    rw [insertByPriority]
    split
    · rfl
    · next hlt =>
      -- The hook passes `g` only if its priority is another one.
      have hne : ¬ (h.priority = p ∧ g.priority = p) := by
        rintro ⟨rfl, hg⟩
        exact hlt (hg ▸ Int32.le_refl _)
      rw [List.filter_cons, ih, List.filter_cons, List.filter_cons, List.filter_cons]
      by_cases hp : h.priority = p <;> by_cases hg : g.priority = p <;> simp_all

/-- Sorting a table puts its hooks in order. -/
theorem inPriorityOrder_sort (t : HookTable α) : InPriorityOrder t.hooks t.sort.hooks where
  perm := by
    rw [hooks_sort]
    exact List.perm_insertionSort precedes t.hooks
  descending := by
    rw [hooks_sort]
    exact List.pairwise_insertionSort precedes t.hooks
  stable p := by
    rw [sort]
    induction t.hooks with
    | nil => rfl
    | cons h hooks ih =>
      rw [List.foldr_cons, filter_insertByPriority, List.filter_cons, List.filter_cons, ih]

/-- A packet passes each hook once: no hook is both on every operation and on another one. -/
lemma nodup_chainFor {t : HookTable α} (hnodup : (t.hooks.map Hook.id).Nodup) (op : String) :
    ((t.chainFor op).map Hook.id).Nodup := by
  have hchain (target : String) : ((t.chain target).map Hook.id).Nodup :=
    (List.filter_sublist.map Hook.id).nodup hnodup
  rw [chainFor, List.map_append]
  split
  · simpa using hchain wildcard
  · next hne =>
    refine (hchain wildcard).append (hchain op) fun id hwild hown => ?_
    obtain ⟨g, hg, rfl⟩ := List.mem_map.1 hwild
    obtain ⟨h, hh, hid⟩ := List.mem_map.1 hown
    obtain ⟨hgmem, hgtarget⟩ := List.mem_filter.1 hg
    obtain ⟨hhmem, hhtarget⟩ := List.mem_filter.1 hh
    have hsame : h = g := List.inj_on_of_nodup_map hnodup hhmem hgmem hid
    subst hsame
    exact hne ((of_decide_eq_true hhtarget).symm.trans (of_decide_eq_true hgtarget))

end HookTable

end Intercept
