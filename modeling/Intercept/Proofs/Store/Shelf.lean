import Intercept.Proofs.Store.Run
import Mathlib

/-!
# Hooks kept by path

A shelf has a list for every path that there is a hook on, with the hooks in the order of their
installation. Hooks are put on it, taken away, counted, and found for the paths of a delta.

`Shelf.Keeps` relates a shelf to the list of all hooks on it: the hooks are under their own paths,
and no path has an empty list. Putting a hook on the shelf is adding it to the list (`Keeps.put`),
taking it away is removing it (`Keeps.take`), and the shelf is empty if the list is
(`Keeps.isEmpty_iff`).
-/

namespace Intercept

/-- Installed hooks, for every path those of the path in the order of their installation. -/
structure Shelf where
  lists : Std.HashMap String (List PathHook) := ∅

namespace Shelf

/-- Whether no path has a list. -/
def isEmpty (s : Shelf) : Bool := s.lists.isEmpty

/-- The number of hooks in all lists. -/
def size (s : Shelf) : Nat := (s.lists.toList.map fun e => e.2.length).sum

/-- The hooks of a path. -/
def hooksAt (s : Shelf) (path : String) : List PathHook := s.lists.getD path []

/-- Put a hook behind the others of its path. -/
def put (s : Shelf) (h : PathHook) : Shelf :=
  { lists := s.lists.insert h.path (s.hooksAt h.path ++ [h]) }

/-- Take a hook away, and with the last one of a path the list of the path. Answers whether the hook
was there. -/
def take (s : Shelf) (h : PathHook) : Shelf × Bool :=
  match s.lists[h.path]? with
  | none => (s, false)
  | some hooks =>
    let kept := hooks.filter fun g => g.id ≠ h.id
    ({ lists := if kept.isEmpty then s.lists.erase h.path else s.lists.insert h.path kept },
      kept.length != hooks.length)

/-- The hooks to notify of a delta, visit by visit. The delta is not walked if there are none. -/
def visits (s : Shelf) (delta : Document) : List PathHook :=
  if s.isEmpty then [] else delta.walk.flatMap s.hooksAt

/-- Taking a hook away does not touch other paths. -/
lemma getElem?_take_of_ne (s : Shelf) {h : PathHook} {path : String} (hpath : h.path ≠ path) :
    (s.take h).1.lists[path]? = s.lists[path]? := by
  unfold take
  cases s.lists[h.path]? with
  | none => rfl
  | some hooks =>
    dsimp only
    split
    · rw [Std.HashMap.getElem?_erase, if_neg fun heq => hpath (eq_of_beq heq)]
    · rw [Std.HashMap.getElem?_insert, if_neg fun heq => hpath (eq_of_beq heq)]

/-- On its own path the hook is missing, and the list is if there is nothing left in it. -/
lemma getElem?_take_self (s : Shelf) (h : PathHook) :
    (s.take h).1.lists[h.path]? =
      if ((s.hooksAt h.path).filter fun g => g.id ≠ h.id) = [] then none
      else some ((s.hooksAt h.path).filter fun g => g.id ≠ h.id) := by
  rw [hooksAt, Std.HashMap.getD_eq_getD_getElem?]
  unfold take
  cases hlist : s.lists[h.path]? with
  | none => exact hlist
  | some hooks =>
    dsimp only [Option.getD_some]
    by_cases hnil : (hooks.filter fun g => g.id ≠ h.id) = []
    · rw [if_pos hnil, if_pos (List.isEmpty_iff.2 hnil), Std.HashMap.getElem?_erase_self]
    · rw [if_neg hnil, if_neg fun hempty => hnil (List.isEmpty_iff.1 hempty),
        Std.HashMap.getElem?_insert_self]

/-- Hooks are kept on a shelf, all of them and each under its own path. A path that none of them is
on has no list. -/
def Keeps (s : Shelf) (hooks : List PathHook) : Prop :=
  ∀ path, s.lists[path]? =
    if (hooks.filter fun h => h.path = path) = [] then none
    else some (hooks.filter fun h => h.path = path)

lemma keeps_empty : Keeps {} [] := fun _ => Std.HashMap.getElem?_empty

namespace Keeps

variable {s : Shelf} {hooks : List PathHook}

/-- The hooks of a path, in their order. -/
lemma hooksAt (h : Keeps s hooks) (path : String) :
    s.hooksAt path = hooks.filter fun h => h.path = path := by
  rw [Shelf.hooksAt, Std.HashMap.getD_eq_getD_getElem?, h path]
  split
  · next hnil => rw [hnil, Option.getD_none]
  · rfl

/-- One more hook is kept behind the others. -/
lemma put (h : Keeps s hooks) (g : PathHook) : Keeps (s.put g) (hooks ++ [g]) := by
  intro path
  rw [Shelf.put, Std.HashMap.getElem?_insert, h.hooksAt, List.filter_append]
  by_cases hpath : g.path = path
  · subst hpath
    simp
  · simpa [hpath] using h path

/-- Several hooks are put on the shelf one after the other, but only those that are wanted. -/
lemma foldl_put (h : Keeps s hooks) (wanted : PathHook → Bool) (more : List PathHook) :
    Keeps (more.foldl (fun s g => if wanted g then s.put g else s) s)
      (hooks ++ more.filter wanted) := by
  induction more generalizing s hooks with
  | nil => simpa using h
  | cons g more ih =>
    rw [List.foldl_cons, List.filter_cons]
    cases wanted g with
    | true =>
      rw [if_pos rfl, if_pos rfl, List.append_cons]
      exact ih (h.put g)
    | false => exact ih h

/-- A list on the shelf is that of all hooks on its path, and it is not empty. -/
lemma getElem?_eq_some (h : Keeps s hooks) {path : String} {l : List PathHook}
    (hl : s.lists[path]? = some l) : l ≠ [] ∧ l = hooks.filter fun h => h.path = path := by
  rw [h path] at hl
  split at hl
  · contradiction
  · next hne => exact Option.some.inj hl ▸ ⟨hne, rfl⟩

/-- A path has a list exactly if there is a hook on it. -/
lemma mem_lists_iff (h : Keeps s hooks) {path : String} :
    path ∈ s.lists ↔ ∃ g ∈ hooks, g.path = path := by
  rw [Std.HashMap.mem_iff_isSome_getElem?, h path]
  split
  · next hnil => simpa using hnil
  · next hne => simpa using hne

/-- A hook that is taken away is not kept any more, and all others are. -/
lemma take (h : Keeps s hooks) {g : PathHook} (hg : ∀ x ∈ hooks, x.id = g.id → x = g) :
    Keeps (s.take g).1 (hooks.filter fun x => x.id ≠ g.id) := by
  intro path
  have hcomm : (hooks.filter fun x => x.id ≠ g.id).filter (fun x => x.path = path) =
      (hooks.filter fun x => x.path = path).filter fun x => x.id ≠ g.id := List.filter_comm ..
  rw [hcomm]
  by_cases hpath : g.path = path
  · subst hpath
    rw [getElem?_take_self, h.hooksAt]
  · have hother : ((hooks.filter fun x => x.path = path).filter fun x => x.id ≠ g.id) =
        hooks.filter fun x => x.path = path := by
      refine List.filter_eq_self.2 fun x hx => decide_eq_true fun hid => ?_
      obtain ⟨hmem, hon⟩ := List.mem_filter.1 hx
      obtain rfl := hg x hmem hid
      exact hpath (of_decide_eq_true hon)
    rw [hother, getElem?_take_of_ne s hpath, h path]

/-- Taking a hook away answers whether it was there. -/
lemma take_snd (h : Keeps s hooks) {g : PathHook} (hg : ∀ x ∈ hooks, x.id = g.id → x = g) :
    (s.take g).2 = decide (g ∈ hooks) := by
  unfold Shelf.take
  cases hlist : s.lists[g.path]? with
  | none =>
    refine (decide_eq_false fun hmem => ?_).symm
    have hsome := h.mem_lists_iff.2 ⟨g, hmem, rfl⟩
    rw [Std.HashMap.mem_iff_isSome_getElem?, hlist] at hsome
    contradiction
  | some l =>
    obtain ⟨-, rfl⟩ := h.getElem?_eq_some hlist
    have hshorter : ((hooks.filter fun x => x.path = g.path).filter fun x => x.id ≠ g.id).length =
        (hooks.filter fun x => x.path = g.path).length ↔ g ∉ hooks := by
      rw [List.length_filter_eq_length_iff]
      constructor
      · intro hall hmem
        exact of_decide_eq_true (hall g (List.mem_filter.2 ⟨hmem, by simp⟩)) rfl
      · refine fun hgone x hx => decide_eq_true fun hid => hgone ?_
        have hmem := (List.mem_filter.1 hx).1
        exact hg x hmem hid ▸ hmem
    dsimp only
    rw [bne, beq_eq_decide, decide_eq_decide.2 hshorter, decide_not, Bool.not_not]

/-- A shelf is empty if it keeps no hooks. -/
lemma isEmpty_iff (h : Keeps s hooks) : s.isEmpty = true ↔ hooks = [] := by
  rw [isEmpty, Std.HashMap.isEmpty_iff_forall_not_mem, List.eq_nil_iff_forall_not_mem]
  constructor
  · exact fun hnone g hg => hnone g.path (h.mem_lists_iff.2 ⟨g, hg, rfl⟩)
  · intro hnone path hpath
    obtain ⟨g, hg, -⟩ := h.mem_lists_iff.1 hpath
    exact hnone g hg

/-- The hooks to notify are found on the shelf as in the list of all of them. -/
lemma visits (h : Keeps s hooks) (delta : Document) :
    s.visits delta = Store.visits hooks delta := by
  rw [Shelf.visits, Store.visits]
  split
  · next hempty => simp [h.isEmpty_iff.1 hempty]
  · exact List.flatMap_congr fun path _ => h.hooksAt path

/-- All hooks are counted, each of them once. -/
lemma size (h : Keeps s hooks) : s.size = hooks.length := by
  have hcount : (s.lists.toList.map fun e => e.2.length) =
      s.lists.keys.map fun path => (hooks.map PathHook.path).count path := by
    rw [← Std.HashMap.map_fst_toList_eq_keys, List.map_map]
    refine List.map_congr_left fun ⟨path, l⟩ he => ?_
    obtain ⟨-, rfl⟩ := h.getElem?_eq_some (Std.HashMap.mem_toList_iff_getElem?_eq_some.1 he)
    rw [← List.countP_eq_length_filter, Function.comp_apply, List.count_eq_countP, List.countP_map]
    exact List.countP_congr fun x _ => by simp
  have hkeys : s.lists.keys.Perm (hooks.map PathHook.path).dedup := by
    refine (List.perm_ext_iff_of_nodup Std.HashMap.nodup_keys (List.nodup_dedup _)).2 fun path => ?_
    rw [Std.HashMap.mem_keys, h.mem_lists_iff, List.mem_dedup, List.mem_map]
  rw [Shelf.size, hcount, (hkeys.map _).sum_eq, List.sum_map_count_dedup_eq_length, List.length_map]

end Keeps

end Shelf

end Intercept
