import Mathlib.Data.List.Nodup
import Mathlib.Tactic.Common

/-!
# Registers

Hooks are registered and removed by number, and what counts later is which registrations still
stand. A register is the record of both in the order in which they happened. `standing` reads off
what has been entered and not struck out afterwards; the order is that of the entries, whatever was
struck out in between. The main law is `standing_append`: later entries strike out of what stood
before, and add behind it.
-/

namespace Intercept

/-- An entry of a register: something is entered, or what has a number is struck out. -/
inductive RegisterEntry (α : Type) where
  | entered (x : α)
  | struck (number : Nat)

namespace Register

variable {α : Type}

/-- Whether some entry strikes out a number. -/
def strikes (number : Nat) : List (RegisterEntry α) → Bool
  | [] => false
  | .entered _ :: rest => strikes number rest
  | .struck n :: rest => n = number || strikes number rest

/-- What was entered and not struck out later, in the order of entry. -/
def standing (number : α → Nat) : List (RegisterEntry α) → List α
  | [] => []
  | .entered x :: rest =>
    if strikes (number x) rest then standing number rest else x :: standing number rest
  | .struck _ :: rest => standing number rest

/-- All that was ever entered. -/
def entered : List (RegisterEntry α) → List α
  | [] => []
  | .entered x :: rest => x :: entered rest
  | .struck _ :: rest => entered rest

/-- Only the entries that strike something out. -/
def withoutEntered : List (RegisterEntry α) → List (RegisterEntry α)
  | [] => []
  | .entered _ :: rest => withoutEntered rest
  | .struck n :: rest => .struck n :: withoutEntered rest

variable {number : α → Nat}

/-- A number is struck out by two registers in a row if either of them does so. -/
lemma strikes_append (n : Nat) (before after : List (RegisterEntry α)) :
    strikes n (before ++ after) = (strikes n before || strikes n after) := by
  induction before with
  | nil => rfl
  | cons e before ih =>
    cases e with
    | entered x => exact ih
    | struck m => rw [List.cons_append, strikes, strikes, ih, Bool.or_assoc]

/-- Later entries strike out of what stood before, and add behind it. -/
theorem standing_append (before after : List (RegisterEntry α)) :
    standing number (before ++ after) =
      (standing number before).filter (fun x => !strikes (number x) after) ++
        standing number after := by
  induction before with
  | nil => rfl
  | cons e before ih =>
    cases e with
    | struck n => exact ih
    | entered x =>
      rw [List.cons_append, standing, standing, strikes_append, ih]
      cases strikes (number x) before <;> cases hafter : strikes (number x) after <;>
        simp [hafter]

/-- Striking out several numbers strikes out each of them. -/
lemma strikes_map_struck (n : Nat) (ns : List Nat) :
    strikes n (ns.map (.struck : Nat → RegisterEntry α)) = ns.contains n := by
  induction ns with
  | nil => rfl
  | cons m ns ih =>
    rw [List.map_cons, strikes, ih, List.contains_cons]
    congr 1
    exact decide_eq_decide.2 eq_comm

/-- Nothing stands of what only strikes out. -/
lemma standing_map_struck (ns : List Nat) :
    standing number (ns.map (.struck : Nat → RegisterEntry α)) = [] := by
  induction ns with
  | nil => rfl
  | cons n ns ih => exact ih

/-- Nothing is entered by striking out. -/
lemma entered_map_struck (ns : List Nat) :
    entered (ns.map (.struck : Nat → RegisterEntry α)) = [] := by
  induction ns with
  | nil => rfl
  | cons n ns ih => exact ih

/-- What stands has been entered. -/
lemma standing_sublist (entries : List (RegisterEntry α)) :
    (standing number entries).Sublist (entered entries) := by
  induction entries with
  | nil => exact List.Sublist.refl _
  | cons e entries ih =>
    cases e with
    | struck n => exact ih
    | entered x =>
      rw [standing, entered]
      split
      · exact ih.cons x
      · exact ih.cons_cons x

/-- What is entered after two registers in a row was entered in either. -/
lemma entered_append (before after : List (RegisterEntry α)) :
    entered (before ++ after) = entered before ++ entered after := by
  induction before with
  | nil => rfl
  | cons e before ih =>
    cases e with
    | struck n => exact ih
    | entered x => rw [List.cons_append, entered, entered, ih, List.cons_append]

/-- Nothing is entered by entries that strike something out. -/
lemma standing_withoutEntered (entries : List (RegisterEntry α)) :
    standing number (withoutEntered entries) = [] := by
  induction entries with
  | nil => rfl
  | cons e entries ih => cases e <;> exact ih

/-- Nothing is entered when what was entered is dropped. -/
lemma entered_withoutEntered (entries : List (RegisterEntry α)) :
    entered (withoutEntered entries) = [] := by
  induction entries with
  | nil => rfl
  | cons e entries ih => cases e <;> exact ih

/-- There is nothing to drop where nothing was entered. -/
lemma withoutEntered_of_entered_eq_nil {entries : List (RegisterEntry α)}
    (h : entered entries = []) : withoutEntered entries = entries := by
  induction entries with
  | nil => rfl
  | cons e entries ih =>
    cases e with
    | entered x => simp [entered] at h
    | struck n => rw [withoutEntered, ih h]

/-- Dropping what was entered strikes out the same numbers. -/
lemma strikes_withoutEntered (n : Nat) (entries : List (RegisterEntry α)) :
    strikes n (withoutEntered entries) = strikes n entries := by
  induction entries with
  | nil => rfl
  | cons e entries ih =>
    cases e with
    | entered x => exact ih
    | struck m => rw [withoutEntered, strikes, strikes, ih]

/-- A number that is given once finds the one who has it. -/
lemma filter_number_eq_singleton {xs : List α} (hnodup : (xs.map number).Nodup) {x : α}
    (hx : x ∈ xs) : (xs.filter fun y => number y = number x) = [x] := by
  classical
  have hself : ∀ y ∈ xs, decide (number y = number x) = decide (y = x) := by
    intro y hy
    refine decide_eq_decide.2 ⟨fun hnumber => List.inj_on_of_nodup_map hnodup hy hx hnumber, ?_⟩
    rintro rfl
    rfl
  rw [List.filter_congr hself, List.filter_eq x,
    List.count_eq_one_of_mem (List.Nodup.of_map _ hnodup) hx]
  rfl

end Register

end Intercept
