import Intercept.Proofs.Session.Activity

/-!
# Callbacks in a record

A record is a list of activities. At a position of it a context holds the callback that was
registered last, if that has not been invoked since (`Holds`). In an orderly record an invocation is
that of the callback held, right after the turn of its context (`Orderly.held_of_invokes`), a turn
at which a callback is held leads to its invocation (`Orderly.invokes_of_turn`), and what is held at
the end is in the slots then (`Orderly.slot_iff_held`). Each registration is invoked at most once
(`InvokedAt.unique`), and never if it is replaced before (`InvokedAt.not_of_replaced`).
-/

namespace Intercept

variable {σ : Type}

namespace Activity

/-- No activity between two positions of a record fills or empties the slot of a context. -/
def Rests (record : List (Activity σ)) (ctx : ContextId) (i j : Nat) : Prop :=
  ∀ k a, i ≤ k → k < j → record[k]? = some a → ¬ a.Concerns ctx

/-- At position `j` of a record, a context holds the callback that was registered at position `i`.
-/
structure Holds (record : List (Activity σ)) (i j : Nat) (ctx : ContextId)
    (callback : Bool → Program σ) : Prop where
  lt : i < j
  registered : record[i]? = some (.registers ctx callback)
  rests : Rests record ctx (i + 1) j

/-- The callback that was registered at position `i` of a record is invoked at position `j`. -/
def InvokedAt (record : List (Activity σ)) (i j : Nat) : Prop :=
  ∃ ctx callback processEnds, Holds record i j ctx callback ∧
    record[j]? = some (.invokes ctx callback processEnds)

variable {record : List (Activity σ)} {ctx : ContextId} {callback : Bool → Program σ}

/-- One more activity in front of a record moves all positions. -/
lemma Rests.cons {i j : Nat} (h : Rests record ctx i j) (a : Activity σ) :
    Rests (a :: record) ctx (i + 1) (j + 1) := by
  intro k b hi hj hk
  obtain ⟨k, rfl⟩ : ∃ m, k = m + 1 := ⟨k - 1, by omega⟩
  rw [List.getElem?_cons_succ] at hk
  exact h k b (by omega) (by omega) hk

/-- One more activity in front of a record, that does not concern a context. -/
lemma Rests.cons_zero {j : Nat} (h : Rests record ctx 0 j) {a : Activity σ}
    (ha : ¬ a.Concerns ctx) : Rests (a :: record) ctx 0 (j + 1) := by
  intro k b _ hj hk
  cases k with
  | zero =>
    rw [List.getElem?_cons_zero] at hk
    obtain rfl := Option.some.inj hk
    exact ha
  | succ k =>
    rw [List.getElem?_cons_succ] at hk
    exact h k b (Nat.zero_le k) (by omega) hk

/-- What is not concerned in a record is not concerned in the rest of it. -/
lemma Rests.tail {i j : Nat} {a : Activity σ} (h : Rests (a :: record) ctx (i + 1) (j + 1)) :
    Rests record ctx i j := by
  intro k b hi hj hk
  refine h (k + 1) b (by omega) (by omega) ?_
  rw [List.getElem?_cons_succ]
  exact hk

/-- One more activity in front of a record moves what is held. -/
lemma Holds.cons {i j : Nat} (h : Holds record i j ctx callback) (a : Activity σ) :
    Holds (a :: record) (i + 1) (j + 1) ctx callback where
  lt := by have hlt := h.lt; omega
  registered := h.registered
  rests := h.rests.cons a

/-- What was registered at the first position of a record is held as long as the context rests. -/
lemma Rests.holds_zero {j : Nat} (h : Rests record ctx 0 j) :
    Holds (.registers ctx callback :: record) 0 (j + 1) ctx callback where
  lt := Nat.succ_pos j
  registered := rfl
  rests := h.cons _

/-! ### What is held from the beginning -/

/-- The slots after an activity. -/
def fill (slots : Slots σ) : Activity σ → Slots σ
  | registers ctx callback => Function.update slots ctx (some callback)
  | invokes ctx _ _ => Function.update slots ctx none
  | _ => slots

/-- An activity that does not concern a context leaves its slot alone. -/
lemma fill_of_not_concerns {a : Activity σ} (h : ¬ a.Concerns ctx) (slots : Slots σ) :
    a.fill slots ctx = slots ctx := by
  cases a with
  | registers c callback => exact Function.update_of_ne (fun heq => h heq.symm) _ _
  | invokes c callback processEnds => exact Function.update_of_ne (fun heq => h heq.symm) _ _
  | initBegins c => rfl
  | initEnds c hasFinished => rfl
  | handles n hook packet => rfl
  | turn c processEnds => rfl

/-- At a position of a record that begins with some slots, a context holds a callback: it was
registered in the record, or is that of the beginning. -/
def Held (slots : Slots σ) (record : List (Activity σ)) (j : Nat) (ctx : ContextId)
    (callback : Bool → Program σ) : Prop :=
  (∃ i, Holds record i j ctx callback) ∨ slots ctx = some callback ∧ Rests record ctx 0 j

/-- At the beginning of a record a context holds what is in its slot. -/
lemma held_zero {slots : Slots σ} : Held slots record 0 ctx callback ↔ slots ctx = some callback := by
  constructor
  · rintro (⟨i, hheld⟩ | ⟨hslot, -⟩)
    · exact absurd hheld.lt (Nat.not_lt_zero i)
    · exact hslot
  · intro hslot
    exact Or.inr ⟨hslot, fun k _ _ hk => absurd hk (Nat.not_lt_zero k)⟩

/-- What is held after the first activity of a record is told by the slots that this has left. -/
lemma held_cons {slots : Slots σ} {a : Activity σ} {j : Nat} :
    Held slots (a :: record) (j + 1) ctx callback ↔
      Held (a.fill slots) record j ctx callback := by
  constructor
  · rintro (⟨i, hheld⟩ | ⟨hslot, hrest⟩)
    · cases i with
      | zero =>
        obtain rfl := Option.some.inj hheld.registered
        exact Or.inr ⟨Function.update_self _ _ _, hheld.rests.tail⟩
      | succ i =>
        exact Or.inl ⟨i, Nat.lt_of_succ_lt_succ hheld.lt, hheld.registered, hheld.rests.tail⟩
    · have hfirst : ¬ a.Concerns ctx := hrest 0 a (Nat.le_refl 0) (Nat.succ_pos j) rfl
      have hlater : Rests (a :: record) ctx 1 (j + 1) := fun k b _ => hrest k b (Nat.zero_le k)
      exact Or.inr ⟨(fill_of_not_concerns hfirst slots).trans hslot, hlater.tail⟩
  · rintro (⟨i, hheld⟩ | ⟨hslot, hrest⟩)
    · exact Or.inl ⟨i + 1, hheld.cons a⟩
    · by_cases hfirst : a.Concerns ctx
      · cases a with
        | registers c callback' =>
          obtain rfl : c = ctx := hfirst
          have hsame : some callback' = some callback :=
            (Function.update_self (f := slots) _ _).symm.trans hslot
          obtain rfl := Option.some.inj hsame
          exact Or.inl ⟨0, hrest.holds_zero⟩
        | invokes c callback' processEnds =>
          obtain rfl : c = ctx := hfirst
          have hempty : none = some callback :=
            (Function.update_self (f := slots) _ _).symm.trans hslot
          contradiction
        | initBegins c => exact absurd hfirst id
        | initEnds c hasFinished => exact absurd hfirst id
        | handles n hook packet => exact absurd hfirst id
        | turn c processEnds => exact absurd hfirst id
      · rw [fill_of_not_concerns hfirst] at hslot
        exact Or.inr ⟨hslot, hrest.cons_zero hfirst⟩

namespace InvokedAt

/-- A callback is invoked at most once for each time that it is registered. -/
theorem unique {i j j' : Nat} (h : InvokedAt record i j) (h' : InvokedAt record i j') : j = j' := by
  obtain ⟨ctx, callback, processEnds, hheld, hinvoked⟩ := h
  obtain ⟨ctx', callback', processEnds', hheld', hinvoked'⟩ := h'
  have hsame : Activity.registers ctx callback = .registers ctx' callback' :=
    Option.some.inj (hheld.registered.symm.trans hheld'.registered)
  obtain ⟨rfl, rfl⟩ := Activity.registers.inj hsame
  -- The earlier invocation of two would have emptied the slot.
  have hle : ∀ {a b flag flag'}, Holds record i b ctx callback →
      record[a]? = some (.invokes ctx callback flag) → i < a →
      record[b]? = some (.invokes ctx callback flag') → b ≤ a := by
    intro a b flag flag' hb ha hia _
    by_contra hlt
    exact hb.rests a _ hia (by omega) ha rfl
  have h₁ := hle hheld' hinvoked hheld.lt hinvoked'
  have h₂ := hle hheld hinvoked' hheld'.lt hinvoked
  omega

/-- A callback that is replaced before it is invoked is not invoked any more. -/
theorem not_of_replaced {i i' : Nat} {callback' : Bool → Program σ} (hlt : i < i')
    (h : record[i]? = some (.registers ctx callback))
    (h' : record[i']? = some (.registers ctx callback'))
    (hnone : ∀ k a flag, i < k → k < i' → record[k]? ≠ some (.invokes ctx a flag)) (j : Nat) :
    ¬ InvokedAt record i j := by
  rintro ⟨ctx', callback'', processEnds, hheld, hinvoked⟩
  have hsame : Activity.registers ctx callback = .registers ctx' callback'' :=
    Option.some.inj (h.symm.trans hheld.registered)
  obtain ⟨rfl, rfl⟩ := Activity.registers.inj hsame
  rcases lt_trichotomy j i' with hj | rfl | hj
  · exact hnone j callback processEnds hheld.lt hj hinvoked
  · rw [h'] at hinvoked
    cases hinvoked
  · exact hheld.rests i' _ hlt hj h' rfl

end InvokedAt

end Activity

open Activity

namespace Orderly

variable {slots slots' : Slots σ} {record : List (Activity σ)} {ctx : ContextId}
  {callback : Bool → Program σ}

/-- An invocation comes right after the turn of its context, and is that of the callback which the
context holds. -/
theorem held_of_invokes (h : Orderly slots record slots') {j : Nat} {processEnds : Bool}
    (hj : record[j]? = some (.invokes ctx callback processEnds)) :
    (∃ k, j = k + 1 ∧ record[k]? = some (.turn ctx processEnds)) ∧
      Held slots record j ctx callback := by
  induction h generalizing j with
  | done slots => contradiction
  | initBegins c _ ih | initEnds c hasFinished _ ih | handles n hook packet _ ih
  | registers c callback' _ ih | passes flag hempty _ ih =>
    cases j with
    | zero => cases hj
    | succ j =>
      obtain ⟨⟨k, rfl, hturn⟩, hheld⟩ := ih hj
      exact ⟨⟨k + 1, rfl, hturn⟩, held_cons.2 hheld⟩
  | invokes flag hfull _ ih =>
    match j with
    | 0 => cases hj
    | 1 =>
      obtain ⟨rfl, rfl, rfl⟩ := Activity.invokes.inj (Option.some.inj hj)
      exact ⟨⟨0, rfl, rfl⟩, held_cons.2 (held_zero.2 hfull)⟩
    | j + 2 =>
      obtain ⟨⟨k, rfl, hturn⟩, hheld⟩ := ih hj
      exact ⟨⟨k + 2, rfl, hturn⟩, held_cons.2 (held_cons.2 hheld)⟩

/-- The turn of a context that holds a callback leads to its invocation. -/
theorem invokes_of_turn (h : Orderly slots record slots') {j : Nat} {processEnds : Bool}
    (hj : record[j]? = some (.turn ctx processEnds)) (hheld : Held slots record j ctx callback) :
    record[j + 1]? = some (.invokes ctx callback processEnds) := by
  induction h generalizing j with
  | done slots => contradiction
  | initBegins c _ ih | initEnds c hasFinished _ ih | handles n hook packet _ ih
  | registers c callback' _ ih =>
    cases j with
    | zero => cases hj
    | succ j => exact ih hj (held_cons.1 hheld)
  | passes flag hempty _ ih =>
    cases j with
    | zero =>
      obtain ⟨rfl, rfl⟩ := Activity.turn.inj (Option.some.inj hj)
      have hfull := held_zero.1 hheld
      rw [hempty] at hfull
      contradiction
    | succ j => exact ih hj (held_cons.1 hheld)
  | invokes flag hfull _ ih =>
    match j with
    | 0 =>
      obtain ⟨rfl, rfl⟩ := Activity.turn.inj (Option.some.inj hj)
      obtain rfl := Option.some.inj (hfull.symm.trans (held_zero.1 hheld))
      rfl
    | 1 => cases hj
    | j + 2 => exact ih hj (held_cons.1 (held_cons.1 hheld))

/-- What a context holds at the end of a record is what is in its slot then. -/
theorem slot_iff_held (h : Orderly slots record slots') :
    slots' ctx = some callback ↔ Held slots record record.length ctx callback := by
  induction h with
  | done slots => exact held_zero.symm
  | initBegins c _ ih | initEnds c hasFinished _ ih | handles n hook packet _ ih
  | registers c callback' _ ih | passes flag hempty _ ih =>
    rw [List.length_cons, held_cons]
    exact ih
  | invokes flag hfull _ ih =>
    rw [List.length_cons, List.length_cons, held_cons, held_cons]
    exact ih

end Orderly

end Intercept
