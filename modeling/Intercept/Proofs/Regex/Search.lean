import Intercept.Regex.Search
import Mathlib.Order.Nat

/-!
# What a search finds

The search for an expression takes sets of positions on, and gives up on loops that reach nothing
new. It finds what the expression means nevertheless (`Regex.mem_reach`), because rounds that consume
nothing can be left out, and no more than as many rounds as there are characters are left then. This
takes for granted that no loop asks for more rounds than it allows.
-/

namespace Intercept

namespace Regex

variable {text : Array Char} {r s : Regex} {i j k m n : Nat} {min : Nat} {max : Option Nat}
  {greedy : Bool}

/-- Whether no loop asks for more rounds than it allows. -/
def IsBounded : Regex → Prop
  | empty => True
  | chars _ _ => True
  | look _ => True
  | group _ r => r.IsBounded
  | concat r s => r.IsBounded ∧ s.IsBounded
  | alt r s => r.IsBounded ∧ s.IsBounded
  | loop r min max _ => r.IsBounded ∧ ∀ m, max = some m → min ≤ m

/-! ### Matches, by the shape of the expression -/

/-- The empty expression consumes nothing. -/
lemma matches_empty : Matches text empty i j ↔ i = j := by
  constructor
  · rintro ⟨⟩
    rfl
  · rintro rfl
    exact .empty

/-- A class matches one character. -/
lemma matches_chars {mode : ClassMode} {cls : CharClass} :
    Matches text (chars mode cls) i j ↔ ∃ c, text[i]? = some c ∧ cls.mem mode c = true ∧ j = i + 1 := by
  constructor
  · rintro (_ | ⟨hc, hmem⟩)
    exact ⟨_, hc, hmem, rfl⟩
  · rintro ⟨c, hc, hmem, rfl⟩
    exact .chars hc hmem

/-- A condition consumes nothing. -/
lemma matches_look {l : Look} : Matches text (look l) i j ↔ l.holds text i = true ∧ i = j := by
  constructor
  · rintro (_ | _ | hl)
    exact ⟨hl, rfl⟩
  · rintro ⟨hl, rfl⟩
    exact .look hl

/-- A group matches as its content does. -/
lemma matches_group : Matches text (group n r) i j ↔ Matches text r i j := by
  constructor
  · rintro (_ | _ | _ | h)
    exact h
  · exact .group

/-- One expression after another. -/
lemma matches_concat :
    Matches text (concat r s) i k ↔ ∃ j, Matches text r i j ∧ Matches text s j k := by
  constructor
  · rintro (_ | _ | _ | _ | ⟨h₁, h₂⟩)
    exact ⟨_, h₁, h₂⟩
  · rintro ⟨j, h₁, h₂⟩
    exact .concat h₁ h₂

/-- One expression or another. -/
lemma matches_alt : Matches text (alt r s) i j ↔ Matches text r i j ∨ Matches text s i j := by
  constructor
  · rintro (_ | _ | _ | _ | _ | h | h)
    · exact Or.inl h
    · exact Or.inr h
  · rintro (h | h)
    · exact .altLeft h
    · exact .altRight h

/-- A loop does as many rounds as it allows. -/
lemma matches_loop :
    Matches text (loop r min max greedy) i j ↔
      ∃ n, min ≤ n ∧ (∀ m, max = some m → n ≤ m) ∧ Rounds text r n i j := by
  constructor
  · rintro (_ | _ | _ | _ | _ | _ | _ | ⟨hmin, hmax, h⟩)
    exact ⟨_, hmin, hmax, h⟩
  · rintro ⟨n, hmin, hmax, h⟩
    exact .loop hmin hmax h

/-- No round. -/
lemma rounds_zero : Rounds text r 0 i j ↔ i = j := by
  constructor
  · rintro ⟨⟩
    rfl
  · rintro rfl
    exact .none

/-- A first round, and the others. -/
lemma rounds_succ :
    Rounds text r (n + 1) i k ↔ ∃ j, Matches text r i j ∧ Rounds text r n j k := by
  constructor
  · rintro (_ | ⟨h₁, h₂⟩)
    exact ⟨_, h₁, h₂⟩
  · rintro ⟨j, h₁, h₂⟩
    exact .more h₁ h₂

/-- The first so many rounds, and the others. -/
lemma rounds_add :
    Rounds text r (m + n) i k ↔ ∃ j, Rounds text r m i j ∧ Rounds text r n j k := by
  induction m generalizing i with
  | zero => simp only [Nat.zero_add, rounds_zero, exists_eq_left']
  | succ m ih =>
    rw [Nat.add_right_comm, rounds_succ]
    simp only [ih, rounds_succ]
    constructor
    · rintro ⟨p, hp, j, hj, hk⟩
      exact ⟨j, ⟨p, hp, hj⟩, hk⟩
    · rintro ⟨j, ⟨p, hp, hj⟩, hk⟩
      exact ⟨p, hp, j, hj, hk⟩

/-- Rounds of an expression that goes on within some bounds go on within these bounds. -/
lemma Rounds.induct {P : Nat → Nat → Prop} (hrefl : ∀ i, P i i)
    (htrans : ∀ i j k, P i j → P j k → P i k) (hmatch : ∀ i j, Matches text r i j → P i j)
    (h : Rounds text r n i j) : P i j := by
  induction n generalizing i with
  | zero =>
    rw [rounds_zero.1 h]
    exact hrefl j
  | succ n ih =>
    obtain ⟨p, hp, hrest⟩ := rounds_succ.1 h
    exact htrans i p j (hmatch i p hp) (ih hrest)

/-- An expression never goes back. -/
lemma Matches.le (h : Matches text r i j) : i ≤ j := by
  induction r generalizing i j with
  | empty => exact (matches_empty.1 h).le
  | chars mode cls =>
    obtain ⟨c, -, -, rfl⟩ := matches_chars.1 h
    exact Nat.le_succ i
  | look l => exact (matches_look.1 h).2.le
  | group n r ih => exact ih (matches_group.1 h)
  | concat r s ihr ihs =>
    obtain ⟨p, h₁, h₂⟩ := matches_concat.1 h
    exact (ihr h₁).trans (ihs h₂)
  | alt r s ihr ihs =>
    rcases matches_alt.1 h with h | h
    · exact ihr h
    · exact ihs h
  | loop r min max greedy ih =>
    obtain ⟨n, -, -, hrounds⟩ := matches_loop.1 h
    exact hrounds.induct (fun i => le_refl i) (fun i j k => le_trans) (fun i j => ih)

/-- An expression never goes beyond the text. -/
lemma Matches.le_size (h : Matches text r i j) (hi : i ≤ text.size) : j ≤ text.size := by
  induction r generalizing i j with
  | empty => exact (matches_empty.1 h) ▸ hi
  | chars mode cls =>
    obtain ⟨c, hc, -, rfl⟩ := matches_chars.1 h
    exact (Array.getElem?_eq_some_iff.1 hc).1
  | look l => exact (matches_look.1 h).2 ▸ hi
  | group n r ih => exact ih (matches_group.1 h) hi
  | concat r s ihr ihs =>
    obtain ⟨p, h₁, h₂⟩ := matches_concat.1 h
    exact ihs h₂ (ihr h₁ hi)
  | alt r s ihr ihs =>
    rcases matches_alt.1 h with h | h
    · exact ihr h hi
    · exact ihs h hi
  | loop r min max greedy ih =>
    obtain ⟨n, -, -, hrounds⟩ := matches_loop.1 h
    exact hrounds.induct (P := fun i j => i ≤ text.size → j ≤ text.size) (fun i hi => hi)
      (fun i j k hij hjk hi => hjk (hij hi)) (fun i j => ih) hi

/-- Rounds never go beyond the text. -/
lemma Rounds.le_size (h : Rounds text r n i j) (hi : i ≤ text.size) : j ≤ text.size :=
  h.induct (P := fun i j => i ≤ text.size → j ≤ text.size) (fun _ hi => hi)
    (fun _ _ _ hij hjk hi => hjk (hij hi)) (fun _ _ h hi => h.le_size hi) hi

/-- Rounds that consume nothing can be left out. -/
lemma Rounds.exists_strict (h : Rounds text r n i j) :
    ∃ k ≤ n, k + i ≤ j ∧ Rounds text r k i j := by
  induction n generalizing i with
  | zero => exact ⟨0, le_rfl, by rw [rounds_zero.1 h, Nat.zero_add], h⟩
  | succ n ih =>
    obtain ⟨p, hp, hrest⟩ := rounds_succ.1 h
    obtain ⟨k, hk, hle, hrounds⟩ := ih hrest
    rcases Nat.lt_or_eq_of_le hp.le with hlt | rfl
    · exact ⟨k + 1, Nat.succ_le_succ hk, by omega, rounds_succ.2 ⟨p, hp, hrounds⟩⟩
    · exact ⟨k, hk.trans (Nat.le_succ n), hle, hrounds⟩

/-! ### Positions that are reached -/

/-- The positions in either list. -/
lemma mem_unite {is js : List Nat} : j ∈ unite is js ↔ j ∈ is ∨ j ∈ js := by
  unfold unite
  induction js generalizing is with
  | nil => simp
  | cons a js ih =>
    rw [List.foldl_cons, ih, List.mem_cons]
    by_cases ha : a ∈ is
    · rw [if_pos (List.contains_iff_mem.2 ha)]
      constructor
      · rintro (h | h)
        · exact Or.inl h
        · exact Or.inr (Or.inr h)
      · rintro (h | rfl | h)
        · exact Or.inl h
        · exact Or.inl ha
        · exact Or.inr h
    · rw [if_neg (fun h => ha (List.contains_iff_mem.1 h)), List.mem_append, List.mem_singleton]
      exact or_assoc

section Loop

/-! The step of a loop is assumed to take on any positions of the text as its content does. -/

variable {step : List Nat → List Nat}
  (hstep : ∀ (s : List Nat), (∀ i ∈ s, i ≤ text.size) →
    ∀ j, j ∈ step s ↔ ∃ i ∈ s, Matches text r i j)

include hstep

/-- Positions of the text are taken on to positions of the text. -/
lemma step_le_size {s : List Nat} (hs : ∀ i ∈ s, i ≤ text.size) : ∀ j ∈ step s, j ≤ text.size := by
  intro j hj
  obtain ⟨i, hi, h⟩ := (hstep s hs j).1 hj
  exact h.le_size (hs i hi)

/-- What a number of rounds reaches. -/
lemma mem_iterate {s : List Nat} (hs : ∀ i ∈ s, i ≤ text.size) :
    j ∈ iterate step n s ↔ ∃ i ∈ s, Rounds text r n i j := by
  induction n generalizing s with
  | zero => simp only [iterate, rounds_zero, exists_eq_right]
  | succ n ih =>
    rw [iterate, ih (step_le_size hstep hs)]
    constructor
    · rintro ⟨p, hp, hrounds⟩
      obtain ⟨i, hi, h⟩ := (hstep s hs p).1 hp
      exact ⟨i, hi, rounds_succ.2 ⟨p, h, hrounds⟩⟩
    · rintro ⟨i, hi, hrounds⟩
      obtain ⟨p, h, hrest⟩ := rounds_succ.1 hrounds
      exact ⟨p, (hstep s hs p).2 ⟨i, hi, h⟩, hrest⟩

/-- What up to a number of rounds reach. -/
lemma mem_closure {s : List Nat} (hs : ∀ i ∈ s, i ≤ text.size) :
    j ∈ closure step n s ↔ ∃ k ≤ n, ∃ i ∈ s, Rounds text r k i j := by
  induction n generalizing s with
  | zero =>
    rw [closure]
    constructor
    · intro hj
      exact ⟨0, le_rfl, j, hj, .none⟩
    · rintro ⟨k, hk, i, hi, hrounds⟩
      obtain rfl := Nat.le_zero.1 hk
      rw [← rounds_zero.1 hrounds]
      exact hi
  | succ n ih =>
    rw [closure, mem_unite, ih (step_le_size hstep hs)]
    constructor
    · rintro (hj | ⟨k, hk, p, hp, hrounds⟩)
      · exact ⟨0, Nat.zero_le _, j, hj, .none⟩
      · obtain ⟨i, hi, h⟩ := (hstep s hs p).1 hp
        exact ⟨k + 1, Nat.succ_le_succ hk, i, hi, rounds_succ.2 ⟨p, h, hrounds⟩⟩
    · rintro ⟨k, hk, i, hi, hrounds⟩
      cases k with
      | zero =>
        left
        rw [← rounds_zero.1 hrounds]
        exact hi
      | succ k =>
        right
        obtain ⟨p, h, hrest⟩ := rounds_succ.1 hrounds
        exact ⟨k, Nat.le_of_succ_le_succ hk, p, (hstep s hs p).2 ⟨i, hi, h⟩, hrest⟩

end Loop

/-- The positions that are reached from some positions are those to which the expression matches from
one of them. -/
theorem mem_reach (hr : r.IsBounded) {s : List Nat} (hs : ∀ i ∈ s, i ≤ text.size) :
    j ∈ reach text r s ↔ ∃ i ∈ s, Matches text r i j := by
  induction r generalizing s j with
  | empty => simp only [reach, matches_empty, exists_eq_right]
  | chars mode cls =>
    simp only [reach, List.mem_filterMap, Option.map_eq_some_iff, Option.filter_eq_some_iff,
      matches_chars]
    constructor
    · rintro ⟨i, hi, c, ⟨hc, hmem⟩, rfl⟩
      exact ⟨i, hi, c, hc, hmem, rfl⟩
    · rintro ⟨i, hi, c, hc, hmem, rfl⟩
      exact ⟨i, hi, c, ⟨hc, hmem⟩, rfl⟩
  | look l =>
    simp only [reach, List.mem_filter, matches_look]
    constructor
    · rintro ⟨hj, hl⟩
      exact ⟨j, hj, hl, rfl⟩
    · rintro ⟨i, hi, hl, rfl⟩
      exact ⟨hi, hl⟩
  | group n r ih =>
    simp only [reach, matches_group]
    exact ih hr hs
  | concat r₁ r₂ ih₁ ih₂ =>
    have hmid : ∀ p ∈ reach text r₁ s, p ≤ text.size :=
      step_le_size (fun s hs j => ih₁ hr.1 hs) hs
    simp only [reach, ih₂ hr.2 hmid, ih₁ hr.1 hs, matches_concat]
    constructor
    · rintro ⟨p, ⟨i, hi, h₁⟩, h₂⟩
      exact ⟨i, hi, p, h₁, h₂⟩
    · rintro ⟨i, hi, p, h₁, h₂⟩
      exact ⟨p, ⟨i, hi, h₁⟩, h₂⟩
  | alt r₁ r₂ ih₁ ih₂ =>
    simp only [reach, mem_unite, ih₁ hr.1 hs, ih₂ hr.2 hs, matches_alt]
    constructor
    · rintro (⟨i, hi, h⟩ | ⟨i, hi, h⟩)
      · exact ⟨i, hi, Or.inl h⟩
      · exact ⟨i, hi, Or.inr h⟩
    · rintro ⟨i, hi, h | h⟩
      · exact Or.inl ⟨i, hi, h⟩
      · exact Or.inr ⟨i, hi, h⟩
  | loop r min max greedy ih =>
    have hstep := fun (s : List Nat) (hs : ∀ i ∈ s, i ≤ text.size) j => ih hr.1 (s := s) (j := j) hs
    have hmid : ∀ p ∈ iterate (reach text r) min s, p ≤ text.size := by
      intro p hp
      obtain ⟨i, hi, hrounds⟩ := (mem_iterate hstep hs).1 hp
      exact hrounds.le_size (hs i hi)
    simp only [reach, mem_closure hstep hmid, mem_iterate hstep hs, matches_loop]
    constructor
    · rintro ⟨k, hk, p, ⟨i, hi, hfirst⟩, hrest⟩
      refine ⟨i, hi, min + k, Nat.le_add_right _ _, ?_, rounds_add.2 ⟨p, hfirst, hrest⟩⟩
      rintro m rfl
      have hle : k ≤ m - min := hk.trans (Nat.min_le_left _ _)
      have := hr.2 m rfl
      omega
    · rintro ⟨i, hi, n, hmin, hmax, hrounds⟩
      rw [← Nat.add_sub_cancel' hmin] at hrounds
      obtain ⟨p, hfirst, hrest⟩ := rounds_add.1 hrounds
      obtain ⟨k, hk, hle, hstrict⟩ := hrest.exists_strict
      have hsize : j ≤ text.size := hrounds.le_size (hs i hi)
      refine ⟨k, ?_, p, ⟨i, hi, hfirst⟩, hstrict⟩
      cases max with
      | none => exact (show k ≤ text.size + 1 by omega)
      | some m =>
        have := hmax m rfl
        exact Nat.le_min.2 ⟨by omega, by omega⟩

/-- A search finds an expression where it occurs. -/
theorem occurs_iff (hr : r.IsBounded) {t : String} :
    r.occurs t = true ↔ Occurs t.toList.toArray r := by
  have hrange : ∀ i ∈ List.range (t.toList.toArray.size + 1), i ≤ t.toList.toArray.size :=
    fun i hi => Nat.lt_succ_iff.1 (List.mem_range.1 hi)
  rw [occurs, Bool.not_eq_true', List.isEmpty_eq_false_iff_exists_mem]
  simp only [mem_reach hr hrange, Occurs, List.mem_range, Nat.lt_succ_iff]
  exact exists_comm.trans (by simp only [exists_and_left])

end Regex

end Intercept
