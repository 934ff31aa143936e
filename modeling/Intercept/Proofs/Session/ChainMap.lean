import Intercept.Proofs.Register
import Intercept.Proofs.Session.HookOrder
import Mathlib

/-!
# Hooks kept by target

A hook table has all hooks of a session in one list, and the chain of a target is a part of that
list. A `ChainMap` has a list for every target that there ever was a hook on. A hook is inserted and
removed in the list of its own target, and sorting sorts each list by itself.

The same steps can be performed on both. What both should hold is told without them, by a register
(`Proofs.Register`): a hook is live if it was inserted and not removed afterwards, and live hooks
come in the order of their insertion (`TableStep.live`). `Rearranges` says that a list has just these
hooks, and has them in an order that sorting by priority may have led to. Every step keeps it
(`HookTable.rearranges_run`), and a sort turns it into the order of priorities, however often and at
which points hooks have been sorted before (`Rearranges.inPriorityOrder_sort`).

Main statement: `ChainMap.run_chains_live_hooks`.
-/

namespace Intercept

variable {α : Type}

/-! ### There is one way to put hooks in order -/

/-- Two lists of the same hooks are equal if both are by descending priority and agree in the order
of hooks of equal priority. -/
lemma eq_of_descending {chain chain' : List (Hook α)} (hperm : chain.Perm chain')
    (hties : ∀ p, chain.filter (fun g => g.priority = p) = chain'.filter fun g => g.priority = p)
    (h : chain.Pairwise fun a b => b.priority ≤ a.priority)
    (h' : chain'.Pairwise fun a b => b.priority ≤ a.priority) : chain = chain' := by
  induction chain generalizing chain' with
  | nil => exact (List.nil_perm.1 hperm).symm
  | cons g chain ih =>
    cases chain' with
    | nil => exact (List.not_perm_cons_nil hperm).elim
    | cons g' chain' =>
      obtain ⟨hle, htail⟩ := List.pairwise_cons.1 h
      obtain ⟨hle', htail'⟩ := List.pairwise_cons.1 h'
      -- Both heads have the greatest priority, and each list begins with the first hook of it.
      have hg : g.priority ≤ g'.priority := by
        rcases List.mem_cons.1 (hperm.mem_iff.1 List.mem_cons_self) with rfl | hmem
        · exact Int32.le_refl _
        · exact hle' g hmem
      have hg' : g'.priority ≤ g.priority := by
        rcases List.mem_cons.1 (hperm.mem_iff.2 List.mem_cons_self) with rfl | hmem
        · exact Int32.le_refl _
        · exact hle g' hmem
      have htop := hties g.priority
      rw [List.filter_cons_of_pos (by simp),
        List.filter_cons_of_pos (by simpa using Int32.le_antisymm hg' hg)] at htop
      obtain rfl : g = g' := (List.cons.inj htop).1
      have hrest (p : Int32) : chain.filter (fun g => g.priority = p) =
          chain'.filter fun g => g.priority = p := by
        have hp := hties p
        rw [List.filter_cons, List.filter_cons] at hp
        split at hp
        · exact (List.cons.inj hp).2
        · exact hp
      rw [ih (List.perm_cons g |>.1 hperm) hrest htail htail']

/-- Sorting by merging puts hooks in order. -/
lemma inPriorityOrder_mergeSort (hooks : List (Hook α)) :
    InPriorityOrder hooks (hooks.mergeSort fun a b => b.priority ≤ a.priority) := by
  have htrans (a b c : Hook α) (hab : decide (b.priority ≤ a.priority) = true)
      (hbc : decide (c.priority ≤ b.priority) = true) : decide (c.priority ≤ a.priority) = true :=
    decide_eq_true (Int32.le_trans (of_decide_eq_true hbc) (of_decide_eq_true hab))
  have htotal (a b : Hook α) :
      (decide (b.priority ≤ a.priority) || decide (a.priority ≤ b.priority)) = true := by
    simpa using Int32.le_total b.priority a.priority
  have hperm := List.mergeSort_perm hooks fun a b => decide (b.priority ≤ a.priority)
  constructor
  · exact hperm
  · exact (List.pairwise_mergeSort htrans htotal hooks).imp of_decide_eq_true
  · intro p
    -- Hooks of one priority are sorted as they stand, so they are found in their order.
    have hties : (hooks.filter fun h => h.priority = p).Pairwise
        fun a b => decide (b.priority ≤ a.priority) = true := by
      apply List.pairwise_of_forall_mem_list
      intro a ha b hb
      have hap := of_decide_eq_true (List.mem_filter.1 ha).2
      have hbp := of_decide_eq_true (List.mem_filter.1 hb).2
      apply decide_eq_true
      rw [hap, hbp]
      exact Int32.le_refl p
    have hsub := (List.sublist_mergeSort htrans htotal hties List.filter_sublist).filter
      fun h => decide (h.priority = p)
    simp only [List.filter_filter, Bool.and_self] at hsub
    exact (hsub.eq_of_length (hperm.filter _).length_eq.symm).symm

/-- Hooks that are in order are sorted. -/
theorem InPriorityOrder.eq_mergeSort {registered chain : List (Hook α)}
    (h : InPriorityOrder registered chain) :
    chain = registered.mergeSort fun a b => b.priority ≤ a.priority := by
  have hsort := inPriorityOrder_mergeSort registered
  exact eq_of_descending (h.perm.trans hsort.perm.symm)
    (fun p => (h.stable p).trans (hsort.stable p).symm) h.descending hsort.descending

/-! ### Steps -/

/-- Something that is done to the hooks of a session. -/
inductive TableStep (α : Type) where
  | insert (h : Hook α)
  | remove (h : Hook α)
  | sort

namespace TableStep

/-- The hook that a step is about. -/
def hook? : TableStep α → Option (Hook α)
  | insert h => some h
  | remove h => some h
  | sort => none

/-- What a step means for the register of hooks. -/
def entry? : TableStep α → Option (RegisterEntry (Hook α))
  | insert h => some (.entered h)
  | remove h => some (.struck h.id)
  | sort => none

/-- The hooks that steps insert, in order. -/
def inserted (steps : List (TableStep α)) : List (Hook α) :=
  Register.entered (steps.filterMap entry?)

/-- The hooks that steps insert and do not remove later, in the order of their insertion. -/
def live (steps : List (TableStep α)) : List (Hook α) :=
  Register.standing Hook.id (steps.filterMap entry?)

/-- The hooks that steps are about are told apart by their numbers. -/
def Identified (steps : List (TableStep α)) : Prop :=
  ∀ g ∈ steps.filterMap hook?, ∀ h ∈ steps.filterMap hook?, g.id = h.id → g = h

lemma live_insert (steps : List (TableStep α)) (h : Hook α) :
    live (steps ++ [insert h]) = live steps ++ [h] := by
  rw [live, List.filterMap_append, Register.standing_append]
  simp [live, entry?, Register.standing, Register.strikes]

lemma live_remove (steps : List (TableStep α)) (h : Hook α) :
    live (steps ++ [remove h]) = (live steps).filter fun g => g.id ≠ h.id := by
  rw [live, List.filterMap_append, Register.standing_append]
  simp [live, entry?, Register.standing, Register.strikes, eq_comm]

lemma live_sort (steps : List (TableStep α)) : live (steps ++ [sort]) = live steps := by
  rw [live, List.filterMap_append]
  exact congrArg _ (List.append_nil _)

/-- A live hook has been inserted. -/
lemma mem_inserted_of_mem_live {steps : List (TableStep α)} {h : Hook α} (hh : h ∈ live steps) :
    h ∈ inserted steps := (Register.standing_sublist _).subset hh

/-- A hook that has been inserted is one that some step is about. -/
lemma mem_hooks_of_mem_inserted {steps : List (TableStep α)} {h : Hook α}
    (hh : h ∈ inserted steps) : h ∈ steps.filterMap hook? := by
  induction steps with
  | nil => contradiction
  | cons s steps ih =>
    cases s with
    | insert g =>
      rcases List.mem_cons.1 hh with rfl | hmem
      · exact List.mem_cons_self
      · exact List.mem_cons_of_mem _ (ih hmem)
    | remove g => exact List.mem_cons_of_mem _ (ih hh)
    | sort => exact ih hh

end TableStep

/-! ### Steps on a table -/

/-- A list has the hooks that are registered, and those of equal priority in the order of their
registration. -/
structure Rearranges (registered hooks : List (Hook α)) : Prop where
  perm : hooks.Perm registered
  stable : ∀ p, hooks.filter (fun h => h.priority = p) = registered.filter fun h => h.priority = p

namespace Rearranges

variable {registered : List (Hook α)} {t : HookTable α}

/-- One more hook comes last. -/
lemma insert (h : Rearranges registered t.hooks) (g : Hook α) :
    Rearranges (registered ++ [g]) (t.insert g).hooks where
  perm := h.perm.append_right [g]
  stable p := by rw [HookTable.insert, List.filter_append, List.filter_append, h.stable p]

/-- A hook is taken out. -/
lemma remove (h : Rearranges registered t.hooks) (id : Nat) :
    Rearranges (registered.filter fun g => g.id ≠ id) (t.remove id).hooks where
  perm := h.perm.filter _
  stable p := by
    have hcomm (hooks : List (Hook α)) :
        (hooks.filter fun g => g.id ≠ id).filter (fun g => g.priority = p) =
          (hooks.filter fun g => g.priority = p).filter fun g => g.id ≠ id := List.filter_comm ..
    rw [HookTable.remove, hcomm, hcomm, h.stable p]

/-- Sorting brings the hooks into the order that sorting what is registered leads to. -/
theorem inPriorityOrder_sort (h : Rearranges registered t.hooks) :
    InPriorityOrder registered t.sort.hooks where
  perm := t.inPriorityOrder_sort.perm.trans h.perm
  descending := t.inPriorityOrder_sort.descending
  stable p := (t.inPriorityOrder_sort.stable p).trans (h.stable p)

end Rearranges

namespace HookTable

/-- Perform one step. -/
def step (t : HookTable α) : TableStep α → HookTable α
  | .insert h => t.insert h
  | .remove h => t.remove h.id
  | .sort => t.sort

/-- Perform steps one after the other on an empty table. -/
def run (steps : List (TableStep α)) : HookTable α := steps.foldl step {}

lemma run_concat (steps : List (TableStep α)) (s : TableStep α) :
    run (steps ++ [s]) = (run steps).step s := by
  rw [run, List.foldl_append]
  rfl

/-- At all times a table has the live hooks. -/
theorem rearranges_run (steps : List (TableStep α)) :
    Rearranges (TableStep.live steps) (run steps).hooks := by
  induction steps using List.reverseRecOn with
  | nil => exact ⟨List.Perm.nil, fun p => rfl⟩
  | append_singleton steps s ih =>
    rw [run_concat]
    cases s with
    | insert h =>
      rw [TableStep.live_insert]
      exact ih.insert h
    | remove h =>
      rw [TableStep.live_remove]
      exact ih.remove h.id
    | sort =>
      rw [TableStep.live_sort]
      exact ⟨ih.inPriorityOrder_sort.perm, ih.inPriorityOrder_sort.stable⟩

/-- After a sort, and as long as hooks are only removed, they are in order. -/
theorem inPriorityOrder_run (steps removals : List (TableStep α))
    (hremovals : ∀ s ∈ removals, ∃ h, s = .remove h) :
    InPriorityOrder (TableStep.live (steps ++ .sort :: removals))
      (run (steps ++ .sort :: removals)).hooks := by
  induction removals using List.reverseRecOn with
  | nil =>
    rw [run_concat, TableStep.live_sort]
    exact (rearranges_run steps).inPriorityOrder_sort
  | append_singleton removals s ih =>
    obtain ⟨h, rfl⟩ := hremovals s (List.mem_append_right _ List.mem_cons_self)
    have hbefore := ih fun s hs => hremovals s (List.mem_append_left _ hs)
    rw [← List.cons_append, ← List.append_assoc, run_concat, TableStep.live_remove]
    exact hbefore.filter _

end HookTable

/-! ### Steps on chains -/

/-- The hooks of a session, for every target those on it. -/
structure ChainMap (α : Type) where
  chains : Std.HashMap String (List (Hook α)) := ∅

namespace ChainMap

/-- The hooks on a target. -/
def chain (m : ChainMap α) (target : String) : List (Hook α) := m.chains.getD target []

/-- The number of hooks on all targets. -/
def size (m : ChainMap α) : Nat := (m.chains.toList.map fun e => e.2.length).sum

/-- Put a hook behind the others of its target. -/
def insert (m : ChainMap α) (h : Hook α) : ChainMap α :=
  ⟨m.chains.insert h.target (m.chain h.target ++ [h])⟩

/-- Sort the hooks of every target. -/
def sort (m : ChainMap α) : ChainMap α :=
  ⟨m.chains.map fun _ chain => chain.mergeSort fun a b => b.priority ≤ a.priority⟩

/-- Take a hook out of the list of its target. Answers whether it was there. -/
def remove (m : ChainMap α) (h : Hook α) : ChainMap α × Bool :=
  match m.chains[h.target]? with
  | none => (m, false)
  | some chain =>
    let kept := chain.filter fun g => g.id ≠ h.id
    (⟨m.chains.insert h.target kept⟩, kept.length != chain.length)

/-- Perform one step. -/
def step (m : ChainMap α) : TableStep α → ChainMap α
  | .insert h => m.insert h
  | .remove h => (m.remove h).1
  | .sort => m.sort

/-- Perform steps one after the other on an empty map. -/
def run (steps : List (TableStep α)) : ChainMap α := steps.foldl step {}

lemma chain_insert (m : ChainMap α) (h : Hook α) (target : String) :
    (m.insert h).chain target =
      if h.target = target then m.chain target ++ [h] else m.chain target := by
  rw [chain, insert, Std.HashMap.getD_insert]
  by_cases ht : h.target = target
  · subst ht
    simp
  · simp [ht, chain]

lemma chain_sort (m : ChainMap α) (target : String) :
    m.sort.chain target = (m.chain target).mergeSort fun a b => b.priority ≤ a.priority := by
  rw [chain, sort, Std.HashMap.getD_map, chain, Std.HashMap.getD_eq_getD_getElem?]
  cases m.chains[target]? with
  | none => exact List.mergeSort_nil.symm
  | some chain => rfl

/-- Only the list of its own target has a hook less, and that list has all others in their order. -/
lemma chain_remove (m : ChainMap α) (h : Hook α) (target : String) :
    (m.remove h).1.chain target =
      if h.target = target then (m.chain target).filter fun g => g.id ≠ h.id
      else m.chain target := by
  unfold remove
  cases hlist : m.chains[h.target]? with
  | none =>
    by_cases ht : h.target = target
    · subst ht
      simp [chain, Std.HashMap.getD_eq_getD_getElem?, hlist]
    · rw [if_neg ht]
  | some hooks =>
    rw [chain, Std.HashMap.getD_insert]
    by_cases ht : h.target = target
    · subst ht
      simp [chain, Std.HashMap.getD_eq_getD_getElem?, hlist]
    · simp [ht, chain]

/-- The answer to a removal is whether the list of the target has a hook less. -/
lemma remove_snd (m : ChainMap α) (h : Hook α) :
    (m.remove h).2 = true ↔ ∃ g ∈ m.chain h.target, g.id = h.id := by
  unfold remove
  cases hlist : m.chains[h.target]? with
  | none => simp [chain, Std.HashMap.getD_eq_getD_getElem?, hlist]
  | some hooks =>
    have hchain : m.chain h.target = hooks := by
      rw [chain, Std.HashMap.getD_eq_getD_getElem?, hlist, Option.getD_some]
    rw [hchain, bne_iff_ne, Ne, List.length_filter_eq_length_iff]
    simp

/-! ### Chains and the table -/

/-- A map has some hooks, each in the list of its own target and nowhere else, and in their order. -/
def Holds (m : ChainMap α) (hooks : List (Hook α)) : Prop :=
  ∀ target, m.chain target = hooks.filter fun h => h.target = target

namespace Holds

variable {m : ChainMap α} {t : HookTable α}

lemma insert (hm : m.Holds t.hooks) (h : Hook α) : (m.insert h).Holds (t.insert h).hooks := by
  intro target
  rw [chain_insert, hm, HookTable.insert, List.filter_append]
  by_cases ht : h.target = target
  · simp [ht]
  · simp [ht]

/-- Sorting all hooks sorts those of each target. -/
lemma sort (hm : m.Holds t.hooks) : m.sort.Holds t.sort.hooks := by
  intro target
  rw [chain_sort, hm]
  exact (t.inPriorityOrder_sort.filter _).eq_mergeSort.symm

/-- Among the hooks of all targets only one with its own target is removed. -/
lemma remove (hm : m.Holds t.hooks) {h : Hook α} (hsame : ∀ g ∈ t.hooks, g.id = h.id → g = h) :
    (m.remove h).1.Holds (t.remove h.id).hooks := by
  intro target
  have hcomm : (t.hooks.filter fun g => g.id ≠ h.id).filter (fun g => g.target = target) =
      (t.hooks.filter fun g => g.target = target).filter fun g => g.id ≠ h.id := List.filter_comm ..
  rw [chain_remove, hm, HookTable.remove, hcomm]
  split
  · rfl
  · next ht =>
    symm
    apply List.filter_eq_self.2
    intro g hg
    obtain ⟨hmem, hon⟩ := List.mem_filter.1 hg
    apply decide_eq_true
    intro hid
    obtain rfl := hsame g hmem hid
    exact ht (of_decide_eq_true hon)

/-- All hooks are counted, each of them once. -/
lemma size (hm : m.Holds t.hooks) : m.size = t.size := by
  have hcount : (m.chains.toList.map fun e => e.2.length) =
      m.chains.keys.map fun target => (t.hooks.map Hook.target).count target := by
    rw [← Std.HashMap.map_fst_toList_eq_keys, List.map_map]
    apply List.map_congr_left
    intro ⟨target, hooks⟩ he
    have hhooks : hooks = t.hooks.filter fun h => h.target = target := by
      rw [← hm, chain, Std.HashMap.getD_eq_getD_getElem?,
        Std.HashMap.mem_toList_iff_getElem?_eq_some.1 he, Option.getD_some]
    rw [hhooks, ← List.countP_eq_length_filter, Function.comp_apply, List.count_eq_countP,
      List.countP_map]
    exact List.countP_congr fun x _ => by simp
  have hall : ∀ target ∈ (t.hooks.map Hook.target : Multiset String),
      target ∈ m.chains.keys.toFinset := by
    intro target htarget
    obtain ⟨h, hh, rfl⟩ := List.mem_map.1 (Multiset.mem_coe.1 htarget)
    rw [List.mem_toFinset, Std.HashMap.mem_keys]
    -- A target without a list has no hooks.
    by_contra hnone
    have hempty : m.chain h.target = [] := Std.HashMap.getD_eq_fallback hnone
    rw [hm, List.filter_eq_nil_iff] at hempty
    exact hempty h hh (decide_eq_true rfl)
  have hsum := Multiset.sum_count_eq_card hall
  rw [List.sum_toFinset _ Std.HashMap.nodup_keys] at hsum
  rw [ChainMap.size, hcount, HookTable.size]
  simpa using hsum

end Holds

lemma run_concat (steps : List (TableStep α)) (s : TableStep α) :
    run (steps ++ [s]) = (run steps).step s := by
  rw [run, List.foldl_append]
  rfl

/-- At all times the lists of all targets have the hooks of the table. -/
theorem holds_run {steps : List (TableStep α)} (hids : TableStep.Identified steps) :
    (run steps).Holds (HookTable.run steps).hooks := by
  induction steps using List.reverseRecOn with
  | nil => exact fun target => Std.HashMap.getD_empty
  | append_singleton steps s ih =>
    have hbefore : TableStep.Identified steps := by
      intro g hg h hh
      rw [TableStep.Identified, List.filterMap_append] at hids
      exact hids g (List.mem_append_left _ hg) h (List.mem_append_left _ hh)
    rw [run_concat, HookTable.run_concat]
    cases s with
    | insert h => exact (ih hbefore).insert h
    | sort => exact (ih hbefore).sort
    | remove h =>
      refine (ih hbefore).remove fun g hg => ?_
      have hlive := (HookTable.rearranges_run steps).perm.mem_iff.1 hg
      rw [TableStep.Identified, List.filterMap_append] at hids
      exact hids g
        (List.mem_append_left _ (TableStep.mem_hooks_of_mem_inserted
          (TableStep.mem_inserted_of_mem_live hlive)))
        h (List.mem_append_right _ List.mem_cons_self)

/-- Hooks that differ in their numbers are inserted, removed and sorted in any order. At all times
the chains hold just the live hooks: those that were inserted and not removed.

* If hooks have only been removed since the last sort, the chain of a target is what sorting the live
  hooks on it by descending priority makes of the order of their insertion. What was sorted before
  does not matter.
* Every live hook is once in the chain of its own target and in no other chain, nothing else is in
  any chain, and the size is the number of live hooks.
* A removal answers whether the hook was live, and takes nothing but this hook out of any chain.
* The table that keeps all hooks in one list has the same chains and the same size, and knows the
  same hooks. -/
theorem run_chains_live_hooks (steps : List (TableStep α)) (hids : TableStep.Identified steps)
    (hdistinct : ((TableStep.inserted steps).map Hook.id).Nodup) :
    let m := run steps
    let t := HookTable.run steps
    let live := TableStep.live steps
    (∀ before removals, steps = before ++ .sort :: removals →
      (∀ s ∈ removals, ∃ h, s = .remove h) → ∀ target,
        m.chain target = (live.filter fun h => h.target = target).mergeSort
          fun a b => b.priority ≤ a.priority) ∧
    ((∀ h ∈ live, ∀ target, (m.chain target).filter (fun g => g.id = h.id) =
        if h.target = target then [h] else []) ∧
      (∀ target, ∀ h ∈ m.chain target, h ∈ live) ∧
      m.size = live.length) ∧
    (∀ h, (∀ g ∈ TableStep.inserted steps, g.id = h.id → g = h) →
      ((m.remove h).2 = true ↔ h ∈ live) ∧
      ((m.remove h).2 = t.contains h.id) ∧
      ∀ target, (m.remove h).1.chain target = (m.chain target).filter fun g => g.id ≠ h.id) ∧
    ((∀ target, m.chain target = t.chain target) ∧ m.size = t.size) := by
  intro m t live
  have hholds : m.Holds t.hooks := holds_run hids
  have hlive : Rearranges live t.hooks := HookTable.rearranges_run steps
  have hnodup : (live.map Hook.id).Nodup :=
    ((Register.standing_sublist _).map Hook.id).nodup hdistinct
  refine ⟨?_, ⟨?_, ?_, ?_⟩, ?_, hholds, hholds.size⟩
  · intro before removals hsteps hremovals target
    have horder : InPriorityOrder live t.hooks := by
      simp only [live, t, hsteps]
      exact HookTable.inPriorityOrder_run before removals hremovals
    rw [hholds]
    exact (horder.filter _).eq_mergeSort
  · intro h hh target
    have honce : t.hooks.filter (fun g => g.id = h.id) = [h] :=
      Register.filter_number_eq_singleton ((hlive.perm.map Hook.id).nodup_iff.2 hnodup)
        (hlive.perm.mem_iff.2 hh)
    rw [hholds, List.filter_comm, honce]
    by_cases ht : h.target = target
    · simp [ht]
    · simp [ht]
  · intro target h hh
    rw [hholds] at hh
    exact hlive.perm.mem_iff.1 (List.mem_of_mem_filter hh)
  · rw [hholds.size]
    exact hlive.perm.length_eq
  · intro h hsame
    have hequal : ∀ g ∈ t.hooks, g.id = h.id → g = h := fun g hg =>
      hsame g (TableStep.mem_inserted_of_mem_live (hlive.perm.mem_iff.1 hg))
    have hanswer : (m.remove h).2 = true ↔ h ∈ live := by
      rw [remove_snd, hholds]
      constructor
      · rintro ⟨g, hg, hid⟩
        have hmem := List.mem_of_mem_filter hg
        obtain rfl := hequal g hmem hid
        exact hlive.perm.mem_iff.1 hmem
      · intro hh
        exact ⟨h, List.mem_filter.2 ⟨hlive.perm.mem_iff.2 hh, decide_eq_true rfl⟩, rfl⟩
    have hcontains : t.contains h.id = true ↔ h ∈ live := by
      rw [HookTable.contains, List.any_eq_true]
      constructor
      · rintro ⟨g, hmem, hid⟩
        obtain rfl := hequal g hmem (of_decide_eq_true hid)
        exact hlive.perm.mem_iff.1 hmem
      · intro hh
        exact ⟨h, hlive.perm.mem_iff.2 hh, decide_eq_true rfl⟩
    refine ⟨hanswer, Bool.eq_iff_iff.2 (hanswer.trans hcontains.symm), fun target => ?_⟩
    rw [hholds.remove hequal target, HookTable.remove, List.filter_comm, ← hholds target]

/-- Two hooks that differ in nothing but their numbers, and three more. The second sort puts the late
hook of greater priority in front, and the late one of the same priority last. When the first hook
is removed its double stays where it is. -/
theorem run_chains_look_alikes :
    let a : Hook Unit := ⟨0, ⟨"x", 0, "m"⟩, ()⟩
    let b : Hook Unit := ⟨1, ⟨"x", 0, "m"⟩, ()⟩
    let c : Hook Unit := ⟨2, ⟨"x", 5, "m"⟩, ()⟩
    let d : Hook Unit := ⟨3, ⟨"y", 7, "m"⟩, ()⟩
    let e : Hook Unit := ⟨4, ⟨"x", 0, "m"⟩, ()⟩
    let steps : List (TableStep Unit) :=
      [.insert a, .insert b, .sort, .insert c, .insert d, .insert e, .sort, .remove a]
    TableStep.Identified steps ∧ ((TableStep.inserted steps).map Hook.id).Nodup ∧
      TableStep.live steps = [b, c, d, e] ∧ (run steps).chain "x" = [c, b, e] ∧
      (run steps).size = 4 ∧ ((run steps).remove a).2 = false ∧
      ((run steps).remove b).1.chain "x" = [c, e] := by
  intro a b c d e steps
  have hids : TableStep.Identified steps := by
    have hhooks : steps.filterMap TableStep.hook? = [a, b, c, d, e, a] := rfl
    rw [TableStep.Identified, hhooks]
    simp [a, b, c, d, e]
  have hinserted : TableStep.inserted steps = [a, b, c, d, e] := rfl
  have hdistinct : ((TableStep.inserted steps).map Hook.id).Nodup := by decide
  have hlive : TableStep.live steps = [b, c, d, e] := rfl
  obtain ⟨hsorted, ⟨-, -, hsize⟩, hremove, -⟩ := run_chains_live_hooks steps hids hdistinct
  have hchain : (run steps).chain "x" = [c, b, e] := by
    rw [hsorted (steps.take 6) [.remove a] rfl (by simp) "x", hlive]
    cbv
  obtain ⟨hagain, -⟩ := hremove a (by rw [hinserted]; simp [a, b, c, d, e])
  obtain ⟨-, -, hother⟩ := hremove b (by rw [hinserted]; simp [a, b, c, d, e])
  refine ⟨hids, hdistinct, hlive, hchain, by rw [hsize, hlive]; rfl, ?_, ?_⟩
  · rw [← Bool.not_eq_true, hagain, hlive]
    simp [a, b, c, d, e]
  · rw [hother, hchain]
    rfl

end ChainMap

end Intercept
