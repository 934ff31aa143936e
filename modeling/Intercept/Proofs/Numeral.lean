import Intercept.Document.Parser
import Intercept.Text.Numeral
import Mathlib.Data.List.TakeWhile
import Mathlib.Tactic.Common
import Mathlib.Tactic.IntervalCases

/-!
# Spellings of numbers

A number has many spellings as a numeral: zeros may stand in front of its digits, and a plus sign in
front of these. `readWord?_eq_some_iff` says that a numeral of 64 bits is read as the number that it
spells, and as nothing else. As an integer in a document a number has one spelling, its digits
(`parse?_toString`).
-/

namespace Intercept

namespace Numeral

/-- A text spells a number: any number of zeros and the digits of the number, behind a plus sign or
not. -/
def Spells (s : String) (n : Nat) : Prop :=
  ∃ zeros, s.toList = List.replicate zeros '0' ++ (toString n).toList ∨
    s.toList = '+' :: (List.replicate zeros '0' ++ (toString n).toList)

/-- A digit is the character of a number below ten. -/
lemma exists_digitChar {c : Char} (h : c.isDigit = true) : ∃ d < 10, c = d.digitChar := by
  have hzero : '0'.toNat = 48 := rfl
  have hnine : '9'.toNat = 57 := rfl
  obtain ⟨hge, hle⟩ := Char.isDigit_iff_toNat.1 h
  refine ⟨c.toNat - 48, by omega, Char.toNat_inj.1 ?_⟩
  rw [Nat.toNat_digitChar_of_lt_ten (by omega)]
  omega

/-- The characters that are read as digits are the digits. -/
lemma digit?_eq_some_iff {c : Char} {d : Nat} :
    digit? c = some d ↔ c.isDigit = true ∧ c.toNat - '0'.toNat = d := by
  have hdigit : ('0' ≤ c ∧ c ≤ '9') ↔ c.isDigit = true := by
    rw [Char.isDigit_iff_toNat, Char.le_def, Char.le_def, UInt32.le_iff_toNat_le,
      UInt32.le_iff_toNat_le]
    rfl
  unfold digit?
  by_cases h : c.isDigit = true
  · rw [if_pos (hdigit.2 h), Option.some.injEq, and_iff_right h]
  · rw [if_neg fun hle => h (hdigit.1 hle)]
    simp [h]

/-- What is read of digits is their value, in the place of earlier digits. -/
lemma readFrom?_eq_some_iff {n m : Nat} {cs : List Char} :
    readFrom? n cs = some m ↔ (∀ c ∈ cs, c.isDigit = true) ∧ Nat.ofDigitChars 10 cs n = m := by
  induction cs generalizing n with
  | nil => simp [readFrom?]
  | cons c cs ih =>
    rw [readFrom?, Option.bind_eq_some_iff, Nat.ofDigitChars_cons, List.forall_mem_cons, and_assoc]
    constructor
    · rintro ⟨d, hd, hrest⟩
      obtain ⟨hdigit, rfl⟩ := digit?_eq_some_iff.1 hd
      exact ⟨hdigit, ih.1 hrest⟩
    · rintro ⟨hdigit, hrest⟩
      exact ⟨_, digit?_eq_some_iff.2 ⟨hdigit, rfl⟩, ih.2 hrest⟩

/-- Digits behind those of a positive number are the digits of what is read. -/
lemma toDigits_append {cs : List Char} (h : ∀ c ∈ cs, c.isDigit = true) {n : Nat} (hn : 0 < n) :
    Nat.toDigits 10 n ++ cs = Nat.toDigits 10 (Nat.ofDigitChars 10 cs n) := by
  induction cs generalizing n with
  | nil => simp
  | cons c cs ih =>
    obtain ⟨hc, hcs⟩ := List.forall_mem_cons.1 h
    obtain ⟨d, hd, rfl⟩ := exists_digitChar hc
    have hstep := Nat.toDigits_append_toDigits (by decide) hn hd
    rw [Nat.toDigits_of_lt_base hd] at hstep
    rw [Nat.ofDigitChars_cons_digitChar_of_lt_ten hd, ← ih hcs (by omega), ← hstep,
      List.append_assoc]
    rfl

/-- Digits are zeros and the digits of their value. -/
lemma exists_zeros_of_digits {cs : List Char} (hne : cs ≠ []) (h : ∀ c ∈ cs, c.isDigit = true) :
    ∃ zeros, cs = List.replicate zeros '0' ++ Nat.toDigits 10 (Nat.ofDigitChars 10 cs 0) := by
  induction cs with
  | nil => exact absurd rfl hne
  | cons c cs ih =>
    obtain ⟨hc, hcs⟩ := List.forall_mem_cons.1 h
    obtain ⟨d, hd, rfl⟩ := exists_digitChar hc
    rw [Nat.ofDigitChars_cons_digitChar_of_lt_ten hd, Nat.mul_zero, Nat.zero_add]
    rcases Nat.eq_zero_or_pos d with rfl | hpos
    · -- A zero counts as a zero in front, unless no digit is left behind it.
      rcases eq_or_ne cs [] with rfl | hcs'
      · exact ⟨0, by simp [Nat.toDigits_zero]⟩
      · obtain ⟨zeros, heq⟩ := ih hcs' hcs
        exact ⟨zeros + 1, congrArg ('0' :: ·) heq⟩
    · refine ⟨0, ?_⟩
      rw [← toDigits_append hcs hpos, Nat.toDigits_of_lt_base hd]
      rfl

/-- A number is written with digits only. -/
lemma isDigit_of_mem_toString {n : Nat} {c : Char} (h : c ∈ (toString n).toList) :
    c.isDigit = true := by
  rw [Nat.toString_eq_repr, Nat.toList_repr] at h
  exact Nat.isDigit_of_mem_toDigits (by decide) (by decide) h

/-- Zeros and the digits of a number are digits. -/
lemma isDigit_of_mem_zeros_append {zeros n : Nat} {c : Char}
    (h : c ∈ List.replicate zeros '0' ++ (toString n).toList) : c.isDigit = true := by
  rcases List.mem_append.1 h with hzero | hdigit
  · rw [List.eq_of_mem_replicate hzero]
    rfl
  · exact isDigit_of_mem_toString hdigit

/-- A run of digits is read as a number exactly if it consists of zeros and the digits of the
number. -/
lemma readDigits?_eq_some_iff {cs : List Char} {n : Nat} : readDigits? cs = some n ↔
    ∃ zeros, cs = List.replicate zeros '0' ++ (toString n).toList := by
  have hrepr : (toString n).toList = Nat.toDigits 10 n := by
    rw [Nat.toString_eq_repr, Nat.toList_repr]
  constructor
  · intro h
    unfold readDigits? at h
    split at h
    · contradiction
    · next hne =>
      obtain ⟨hdigits, hvalue⟩ := readFrom?_eq_some_iff.1 h
      rw [hrepr, ← hvalue]
      exact exists_zeros_of_digits hne hdigits
  · rintro ⟨zeros, rfl⟩
    have hread : readFrom? 0 (List.replicate zeros '0' ++ (toString n).toList) = some n := by
      refine readFrom?_eq_some_iff.2 ⟨fun c => isDigit_of_mem_zeros_append, ?_⟩
      rw [hrepr, Nat.ofDigitChars_append, Nat.ofDigitChars_replicate_zero, Nat.mul_zero,
        Nat.ofDigitChars_ten_toDigits]
    unfold readDigits?
    split
    · next h =>
      rw [hrepr] at h
      exact absurd (List.append_eq_nil_iff.1 h).2 Nat.toDigits_ne_nil
    · exact hread

/-- A numeral is read as the number that it spells. -/
theorem read?_eq_some_iff {s : String} {n : Nat} : read? s = some n ↔ Spells s n := by
  unfold read? Spells
  split
  · next cs h =>
    rw [readDigits?_eq_some_iff, h]
    refine exists_congr fun zeros => ?_
    have hplus : '+' :: cs ≠ List.replicate zeros '0' ++ (toString n).toList := by
      intro heq
      have hmem : '+' ∈ List.replicate zeros '0' ++ (toString n).toList := by
        rw [← heq]
        exact List.mem_cons_self
      exact absurd (isDigit_of_mem_zeros_append hmem) (by decide)
    rw [or_iff_right hplus, List.cons_inj_right]
  · next h =>
    rw [readDigits?_eq_some_iff]
    exact exists_congr fun zeros => (or_iff_left (h _)).symm

/-- A text spells one number at most. -/
lemma Spells.unique {s : String} {m n : Nat} (hm : Spells s m) (hn : Spells s n) : m = n :=
  Option.some.inj ((read?_eq_some_iff.2 hm).symm.trans (read?_eq_some_iff.2 hn))

/-- A numeral of 64 bits is read as the number that it spells. -/
theorem readWord?_eq_some_iff {s : String} {w : UInt64} :
    readWord? s = some w ↔ Spells s w.toNat := by
  rw [readWord?, Option.bind_eq_some_iff, ← read?_eq_some_iff]
  constructor
  · rintro ⟨n, hn, hw⟩
    split at hw
    · next hlt =>
      obtain rfl := Option.some.inj hw
      rwa [UInt64.toNat_ofNat_of_lt' hlt]
    · contradiction
  · intro h
    refine ⟨_, h, ?_⟩
    rw [if_pos w.toNat_lt, UInt64.ofNat_toNat]

end Numeral

namespace Document

/-- The digits of a number have no zero in front, unless it is the only one. -/
lemma toDigits_ne_zero_cons {n : Nat} {c : Char} {cs : List Char} :
    Nat.toDigits 10 n ≠ '0' :: c :: cs := by
  intro h
  have hdigits : ∀ d ∈ c :: cs, d.isDigit = true := by
    intro d hd
    refine Nat.isDigit_of_mem_toDigits (b := 10) (n := n) (by decide) (by decide) ?_
    rw [h]
    exact List.mem_cons_of_mem _ hd
  have hvalue : Nat.ofDigitChars 10 (c :: cs) 0 = n := by
    rw [← Nat.ofDigitChars_ten_toDigits (n := n), h]
    rfl
  -- Without the zero they have the same value, so they would have to be the same digits.
  obtain ⟨zeros, heq⟩ := Numeral.exists_zeros_of_digits (List.cons_ne_nil c cs) hdigits
  rw [hvalue, h] at heq
  have hlength := congrArg List.length heq
  simp at hlength
  omega

/-- A significand takes in all digits if their value fits into 64 bits. -/
lemma significandOf_of_lt {cs : List Char} : ∀ {n taken : Nat},
    Nat.ofDigitChars 10 cs n < UInt64.size →
      significandOf n taken cs = (Nat.ofDigitChars 10 cs n, taken + cs.length) := by
  induction cs with
  | nil =>
    intro n taken _
    rfl
  | cons c cs ih =>
    intro n taken h
    rw [Nat.ofDigitChars_cons] at h ⊢
    have hlt : 10 * n + (c.toNat - '0'.toNat) < UInt64.size := by
      refine Nat.lt_of_le_of_lt ?_ h
      rw [Nat.ofDigitChars_eq_ofDigitChars_zero]
      refine Nat.le_add_right_of_le (Nat.le_mul_of_pos_left _ ?_)
      exact Nat.pow_pos (by decide)
    rw [significandOf, if_pos hlt, ih h, List.length_cons, Nat.add_assoc, Nat.add_comm 1]

/-- The digits of a number are an integer part, all of them. -/
lemma integerPart?_toDigits (n : Nat) :
    integerPart? (Nat.toDigits 10 n) = some (Nat.toDigits 10 n, []) := by
  have hrun : digitRun (Nat.toDigits 10 n) = (Nat.toDigits 10 n, []) := by
    have hdigits : ∀ c ∈ Nat.toDigits 10 n, c.isDigit = true :=
      fun c hc => Nat.isDigit_of_mem_toDigits (by decide) (by decide) hc
    rw [digitRun, List.takeWhile_eq_self_iff.2 hdigits, List.dropWhile_eq_nil_iff.2 hdigits]
  rw [integerPart?, hrun]
  split
  · next heq => exact absurd (Prod.mk.inj heq).1 Nat.toDigits_ne_nil
  · next heq => exact absurd (Prod.mk.inj heq).1 toDigits_ne_zero_cons
  · next heq =>
    obtain ⟨rfl, rfl⟩ := Prod.mk.inj heq
    rfl

/-- The digits of a 64-bit number are the literal of an integer. -/
lemma numberOf?_toDigits (n : UInt64) :
    numberOf? false (Nat.toDigits 10 n.toNat) [] none = some (.natural n) := by
  have hvalue : Nat.ofDigitChars 10 (Nat.toDigits 10 n.toNat) 0 = n.toNat :=
    Nat.ofDigitChars_ten_toDigits
  have hlt : Nat.ofDigitChars 10 (Nat.toDigits 10 n.toNat) 0 < UInt64.size := by
    rw [hvalue]
    exact n.toNat_lt
  simp [numberOf?, significandOf_of_lt hlt, hvalue]

/-- The digits of a 64-bit number are read as a number without sign, all of them. -/
lemma unsignedNumber?_toDigits (n : UInt64) :
    unsignedNumber? false (Nat.toDigits 10 n.toNat) = some (.natural n, []) := by
  have hfraction : fractionPart? [] = some ([], []) := rfl
  have hexponent : exponentPart? [] = some (none, []) := rfl
  simp only [unsignedNumber?, integerPart?_toDigits, hfraction, hexponent, numberOf?_toDigits,
    Option.bind_eq_bind, Option.bind_some]

/-- Digits are not blank. -/
lemma skipBlanks_of_isDigit {c : Char} (h : c.isDigit = true) (cs : List Char) :
    skipBlanks (c :: cs) = c :: cs := by
  obtain ⟨d, hd, rfl⟩ := Numeral.exists_digitChar h
  interval_cases d <;> rfl

/-- A value that begins with a digit is a number without sign. -/
lemma value?_of_isDigit {c : Char} (h : c.isDigit = true) (fuel depth : Nat) (cs : List Char) :
    value? (fuel + 1) depth (c :: cs) =
      (unsignedNumber? false (c :: cs)).map fun (n, cs) => (.number n, cs) := by
  obtain ⟨d, hd, rfl⟩ := Numeral.exists_digitChar h
  interval_cases d <;> simp [value?, scalar?, number?, Nat.digitChar]

/-- The digits of a 64-bit number write it as an integer. -/
theorem parse?_toString (n : UInt64) :
    parse? (toString n.toNat) = some (.number (.natural n)) := by
  have hnumber := unsignedNumber?_toDigits n
  have hdigits : ∀ c ∈ Nat.toDigits 10 n.toNat, c.isDigit = true :=
    fun c hc => Nat.isDigit_of_mem_toDigits (by decide) (by decide) hc
  rw [parse?, Nat.toString_eq_repr, Nat.toList_repr]
  cases hcs : Nat.toDigits 10 n.toNat with
  | nil => exact absurd hcs Nat.toDigits_ne_nil
  | cons c cs =>
    rw [hcs] at hnumber hdigits
    have hc : c.isDigit = true := hdigits c List.mem_cons_self
    have hvalue : value? (budget (c :: cs)) maxDepth (c :: cs) = some (.number (.natural n), []) := by
      rw [budget, value?_of_isDigit hc, hnumber, Option.map_some]
    rw [parseChars?, skipBlanks_of_isDigit hc, hvalue]
    rfl

end Document

end Intercept
