import Intercept.Proofs.Regex.Search
import Intercept.Regex.Parser
import Mathlib.Data.List.Forall2

/-!
# Expressions that match alike

Two expressions match alike if they match between the same positions of every text. Putting together
expressions that match alike gives such expressions again; for loops they must also agree on whether
they consume anything at all, because a loop is cut down where they do not. What expressions one after
the other match, and expressions to choose from, is told by `Regex.matches_concatAll_append` and
`Regex.matches_altAll`.
-/

namespace Intercept

namespace Regex

variable {text : Array Char} {r r' s s' : Regex} {rs ss : List Regex} {i j k n : Nat} {min : Nat}
  {max : Option Nat} {greedy : Bool}

/-- An expression that matches like another, and is hollow if the other one is. -/
structure Alike (r r' : Regex) : Prop where
  isHollow : r'.isHollow = r.isHollow
  matches_iff : ∀ text i j, Matches text r' i j ↔ Matches text r i j

namespace Alike

/-- Every expression matches like itself. -/
lemma refl (r : Regex) : Alike r r := ⟨rfl, fun _ _ _ => Iff.rfl⟩

/-- Groups around expressions that match alike, whatever their indices are. -/
lemma group (h : Alike r r') (n n' : Nat) : Alike (.group n r) (.group n' r') where
  isHollow := h.isHollow
  matches_iff := by
    intro text i j
    rw [matches_group, matches_group]
    exact h.matches_iff text i j

/-- Expressions one after the other. -/
lemma concat (hr : Alike r r') (hs : Alike s s') : Alike (.concat r s) (.concat r' s') where
  isHollow := by
    simp only [Regex.isHollow, hr.isHollow, hs.isHollow]
  matches_iff := by
    intro text i k
    simp only [matches_concat, hr.matches_iff, hs.matches_iff]

/-- Expressions to choose from. -/
lemma alt (hr : Alike r r') (hs : Alike s s') : Alike (.alt r s) (.alt r' s') where
  isHollow := by
    simp only [Regex.isHollow, hr.isHollow, hs.isHollow]
  matches_iff := by
    intro text i j
    simp only [matches_alt, hr.matches_iff, hs.matches_iff]

/-- Rounds of expressions that match alike. -/
lemma rounds_iff (h : Alike r r') : Rounds text r' n i j ↔ Rounds text r n i j := by
  induction n generalizing i with
  | zero => rw [rounds_zero, rounds_zero]
  | succ n ih => simp only [rounds_succ, h.matches_iff, ih]

/-- Loops around expressions that match alike. -/
lemma loop (h : Alike r r') : Alike (.loop r min max greedy) (.loop r' min max greedy) where
  isHollow := by
    simp only [Regex.isHollow, h.isHollow]
  matches_iff := by
    intro text i j
    simp only [matches_loop, h.rounds_iff]

/-- Loops without pointless rounds. -/
lemma repeated (h : Alike r r') : Alike (r.repeated min max greedy) (r'.repeated min max greedy) := by
  unfold Regex.repeated
  rw [h.isHollow]
  split
  split
  · exact refl _
  · split
    · exact h
    · exact h.loop

/-- Any number of expressions one after the other. -/
lemma concatAll (h : List.Forall₂ Alike rs ss) : Alike (Regex.concatAll rs) (Regex.concatAll ss) := by
  induction h with
  | nil => exact refl _
  | cons hr hrest ih =>
    cases hrest with
    | nil => exact hr
    | cons _ _ => exact hr.concat ih

/-- Any number of expressions to choose from. -/
lemma altAll (h : List.Forall₂ Alike rs ss) : Alike (Regex.altAll rs) (Regex.altAll ss) := by
  induction h with
  | nil => exact refl _
  | cons hr hrest ih =>
    cases hrest with
    | nil => exact hr
    | cons _ _ => exact hr.alt ih

end Alike

/-- Expressions that match alike occur in the same texts. -/
lemma Alike.occurs_iff (h : Alike r r') : Occurs text r' ↔ Occurs text r := by
  simp only [Occurs, h.matches_iff]

/-- One of some expressions that match alike occurs in the same texts. -/
lemma Alike.exists_occurs_iff (h : List.Forall₂ Alike rs ss) :
    (∃ s ∈ ss, Occurs text s) ↔ ∃ r ∈ rs, Occurs text r := by
  induction h with
  | nil => rfl
  | cons hr _ ih =>
    simp only [List.mem_cons, exists_eq_or_imp]
    exact or_congr hr.occurs_iff ih

/-! ### Sequences and choices -/

/-- A first expression, and those after it. -/
lemma matches_concatAll_cons :
    Matches text (concatAll (r :: rs)) i k ↔
      ∃ j, Matches text r i j ∧ Matches text (concatAll rs) j k := by
  cases rs with
  | nil => simp only [concatAll, matches_empty, exists_eq_right]
  | cons s rs => exact matches_concat

/-- Some expressions, and those after them. -/
lemma matches_concatAll_append :
    Matches text (concatAll (rs ++ ss)) i k ↔
      ∃ j, Matches text (concatAll rs) i j ∧ Matches text (concatAll ss) j k := by
  induction rs generalizing i with
  | nil => simp only [List.nil_append, concatAll, matches_empty, exists_eq_left']
  | cons r rs ih =>
    rw [List.cons_append, matches_concatAll_cons]
    simp only [ih, matches_concatAll_cons]
    constructor
    · rintro ⟨p, hp, j, hj, hk⟩
      exact ⟨j, ⟨p, hp, hj⟩, hk⟩
    · rintro ⟨j, ⟨p, hp, hj⟩, hk⟩
      exact ⟨p, hp, j, hj, hk⟩

/-- One of some expressions to choose from. -/
lemma matches_altAll (hrs : rs ≠ []) :
    Matches text (altAll rs) i j ↔ ∃ r ∈ rs, Matches text r i j := by
  induction rs with
  | nil => contradiction
  | cons r rs ih =>
    cases rs with
    | nil => simp only [altAll, List.mem_singleton, exists_eq_left]
    | cons s rs =>
      refine matches_alt.trans ?_
      rw [ih (List.cons_ne_nil _ _)]
      simp only [List.mem_cons, exists_eq_or_imp]

/-- Pieces that match alike, or are flags both. -/
abbrev PiecesAlike : List Piece → List Piece → Prop := List.Forall₂ (Option.Rel Alike)

/-- The expressions among pieces that match alike match alike. -/
lemma PiecesAlike.filterMap {ps qs : List Piece} (h : PiecesAlike ps qs) :
    List.Forall₂ Alike (ps.filterMap id) (qs.filterMap id) := by
  induction h with
  | nil => exact .nil
  | cons hp _ ih =>
    cases hp with
    | some hr => exact .cons hr ih
    | none => exact ih

/-- The alternatives of pieces that match alike. -/
lemma PiecesAlike.concatAll {ps qs : List Piece} (h : PiecesAlike ps qs) :
    Alike (Regex.concatAll (ps.reverse.filterMap id)) (Regex.concatAll (qs.reverse.filterMap id)) :=
  Alike.concatAll (PiecesAlike.filterMap (List.rel_reverse h))

/-- Pieces that match like pieces of which the first is an expression. -/
lemma PiecesAlike.exists_cons {ps qs : List Piece} (h : PiecesAlike (some r :: ps) qs) :
    ∃ r' qs', qs = some r' :: qs' ∧ Alike r r' ∧ PiecesAlike ps qs' := by
  cases h with
  | cons hp hps =>
    cases hp with
    | some hr => exact ⟨_, _, rfl, hr, hps⟩

namespace Level

variable {l l' : Level}

/-- What has been read of two groups matches alike, alternative by alternative and piece by piece. -/
structure Alike (l l' : Level) : Prop where
  done : List.Forall₂ Regex.Alike l.done l'.done
  pieces : PiecesAlike l.pieces l'.pieces

namespace Alike

/-- Two groups in which nothing has been read. -/
lemma empty : Level.Alike {} {} := ⟨.nil, .nil⟩

/-- The alternatives that are being read. -/
lemma current (h : l.Alike l') : Regex.Alike l.current l'.current := h.pieces.concatAll

/-- All alternatives. -/
lemma result (h : l.Alike l') : Regex.Alike l.result l'.result :=
  Regex.Alike.altAll (List.rel_reverse (.cons h.current h.done))

/-- One more piece. -/
lemma push (h : l.Alike l') {p p' : Piece} (hp : Option.Rel Regex.Alike p p') :
    (l.push p).Alike (l'.push p') := ⟨h.done, .cons hp h.pieces⟩

/-- One more alternative. -/
lemma nextAlternative (h : l.Alike l') : l.nextAlternative.Alike l'.nextAlternative :=
  ⟨.cons h.current h.done, .nil⟩

/-- The last piece is there in both groups, and may be replaced. -/
lemma exists_last (h : l.Alike l') {ps : List Piece} (hlast : l.pieces = some r :: ps) :
    ∃ r' ps', l'.pieces = some r' :: ps' ∧ Regex.Alike r r' ∧ ∀ q q', Regex.Alike q q' →
      Level.Alike { l with pieces := some q :: ps } { l' with pieces := some q' :: ps' } := by
  obtain ⟨r', ps', hps', hr, hps⟩ := PiecesAlike.exists_cons (hlast ▸ h.pieces)
  exact ⟨r', ps', hps', hr, fun q q' hq => ⟨h.done, .cons (.some hq) hps⟩⟩

end Alike

/-- What a group matches. -/
lemma matches_result :
    Matches text l.result i j ↔ (∃ r ∈ l.done, Matches text r i j) ∨ Matches text l.current i j := by
  rw [result, matches_altAll (fun h => List.cons_ne_nil _ _ (List.reverse_eq_nil_iff.1 h))]
  simp only [List.mem_reverse, List.mem_cons, exists_eq_or_imp]
  exact or_comm

/-- What occurs of a group. -/
lemma occurs_result :
    Occurs text l.result ↔ (∃ r ∈ l.done, Occurs text r) ∨ Occurs text l.current := by
  simp only [Occurs, matches_result]
  constructor
  · rintro ⟨i, j, hi, ⟨r, hr, h⟩ | h⟩
    · exact Or.inl ⟨r, hr, i, j, hi, h⟩
    · exact Or.inr ⟨i, j, hi, h⟩
  · rintro (⟨r, hr, i, j, hi, h⟩ | ⟨i, j, hi, h⟩)
    · exact ⟨i, j, hi, Or.inl ⟨r, hr, h⟩⟩
    · exact ⟨i, j, hi, Or.inr h⟩

end Level

end Regex

end Intercept
