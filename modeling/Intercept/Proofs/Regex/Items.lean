import Intercept.Regex.Token
import Mathlib.Data.List.TakeWhile
import Mathlib.Data.Option.Basic
import Mathlib.Control.Basic

/-!
# Escapes and brackets of a longer text

Where an escape or a bracket ends does not change when the text goes on, though some care is needed:
blanks and comments may run to the end of the text, and what begins like the name of a class may get
its end later. Both are settled when the text goes on with a dot, which is part of no name, and when
nothing ends just where the text does. The main statement is `Regex.keepsBrackets`.
-/

namespace Intercept

namespace Regex

variable {properties : PropertyTable} {blanks : Bool} {cs rest x : List Char}

/-- Blanks and comments end where they did, if they end before the text does. -/
lemma skipIgnored_append {inComment : Bool} (h : skipIgnored inComment cs ≠ []) (x : List Char) :
    skipIgnored inComment (cs ++ x) = skipIgnored inComment cs ++ x := by
  induction cs generalizing inComment with
  | nil => exact absurd rfl h
  | cons c cs ih =>
    simp only [skipIgnored, List.cons_append] at h ⊢
    split at h
    next hin =>
      rw [if_pos hin, if_pos hin]
      exact ih h
    next hin =>
      rw [if_neg hin, if_neg hin]
      split at h
      next hhash =>
        rw [if_pos hhash, if_pos hhash]
        exact ih h
      next hhash =>
        rw [if_neg hhash, if_neg hhash]
        split at h
        next hspace =>
          rw [if_pos hspace, if_pos hspace]
          exact ih h
        next hspace =>
          rw [if_neg hspace, if_neg hspace]
          rfl

/-- What is ignored between tokens ends where it did, if it ends before the text does. -/
lemma skipIf_append (h : skipIf blanks cs ≠ []) (x : List Char) :
    skipIf blanks (cs ++ x) = skipIf blanks cs ++ x := by
  cases blanks with
  | true => exact skipIgnored_append h x
  | false => rfl

/-- What is left when blanks and comments are dropped is no longer than the text. -/
lemma length_skipIgnored_le (inComment : Bool) (cs : List Char) :
    (skipIgnored inComment cs).length ≤ cs.length := by
  induction cs generalizing inComment with
  | nil => exact Nat.le_refl 0
  | cons c cs ih =>
    rw [skipIgnored]
    split
    · exact (ih _).trans (Nat.le_succ _)
    · split
      · exact (ih _).trans (Nat.le_succ _)
      · split
        · exact (ih _).trans (Nat.le_succ _)
        · exact Nat.le_refl _

/-- What is left when blanks and comments may be dropped is no longer than the text. -/
lemma length_skipIf_le (blanks : Bool) (cs : List Char) :
    (skipIf blanks cs).length ≤ cs.length := by
  cases blanks with
  | true => exact length_skipIgnored_le false cs
  | false => exact Nat.le_refl _

/-- A stretch of characters ends where it did, if it ends before the text does. -/
lemma takeWhile_append_of_drop {p : Char → Bool} {c : Char}
    (h : cs.drop (cs.takeWhile p).length = c :: rest) (x : List Char) :
    (cs ++ x).takeWhile p = cs.takeWhile p ∧
      (cs ++ x).drop (cs.takeWhile p).length = c :: (rest ++ x) := by
  have hlt : (cs.takeWhile p).length < cs.length := by
    by_contra hle
    rw [List.drop_eq_nil_of_le (Nat.le_of_not_lt hle)] at h
    contradiction
  constructor
  · rw [List.takeWhile_append, if_neg hlt.ne]
  · rw [List.drop_append_of_le_length hlt.le, h]
    rfl

/-- What stands in braces is the same, and ends where it did. -/
lemma braced?_append {inComment : Bool} {body : List Char}
    (h : braced? blanks inComment cs = some (body, rest)) (x : List Char) :
    braced? blanks inComment (cs ++ x) = some (body, rest ++ x) := by
  induction cs generalizing inComment body with
  | nil => contradiction
  | cons c cs ih =>
    simp only [braced?, List.cons_append] at h ⊢
    split at h
    next hin =>
      rw [if_pos hin]
      exact ih h
    next hin =>
      rw [if_neg hin]
      split at h
      next hclose =>
        obtain ⟨rfl, rfl⟩ := Prod.mk.inj (Option.some.inj h)
        rw [if_pos hclose]
      next hclose =>
        rw [if_neg hclose]
        split at h
        next hhash =>
          rw [if_pos hhash]
          exact ih h
        next hhash =>
          rw [if_neg hhash]
          split at h
          next hspace =>
            rw [if_pos hspace]
            exact ih h
          next hspace =>
            obtain ⟨⟨tail, rest'⟩, htail, heq⟩ := Option.map_eq_some_iff.1 h
            obtain ⟨rfl, rfl⟩ := Prod.mk.inj heq
            rw [if_neg hspace, ih htail]
            rfl

/-- The next characters are the same, and end where they did. -/
lemma taken?_append {n : Nat} {ds : List Char} (h : taken? blanks n cs = some (ds, rest))
    (x : List Char) : taken? blanks n (cs ++ x) = some (ds, rest ++ x) := by
  induction n generalizing cs ds with
  | zero =>
    obtain ⟨rfl, rfl⟩ := Prod.mk.inj (Option.some.inj h)
    rfl
  | succ n ih =>
    rw [taken?] at h
    split at h
    next => contradiction
    next c cs' hfront =>
      obtain ⟨⟨ds', rest'⟩, htaken, heq⟩ := Option.map_eq_some_iff.1 h
      obtain ⟨rfl, rfl⟩ := Prod.mk.inj heq
      have hskip : skipIf blanks cs ≠ [] := by
        rw [hfront]
        exact List.cons_ne_nil _ _
      rw [taken?, skipIf_append hskip, hfront, List.cons_append]
      dsimp only
      rw [ih htaken]
      rfl

/-- Nothing is taken of a text that has come to its end. -/
lemma taken?_succ_ne_nil {n : Nat} {ds : List Char} (h : taken? blanks (n + 1) cs = some (ds, rest)) :
    cs ≠ [] := by
  rintro rfl
  have hskip : skipIf blanks [] = [] := by cases blanks <;> rfl
  rw [taken?, hskip] at h
  contradiction

/-! ### Escapes -/

/-- A code point ends where it did. -/
lemma hexEscape?_append {n : Nat} {p : Primitive} (h : hexEscape? blanks (n + 1) cs = some (p, rest))
    (x : List Char) : hexEscape? blanks (n + 1) (cs ++ x) = some (p, rest ++ x) := by
  unfold hexEscape? at h
  split at h
  next cs₁ hfront =>
    obtain ⟨⟨ds, cs₂⟩, hbraced, h⟩ := Option.bind_eq_some_iff.1 h
    have hskip : skipIf blanks cs ≠ [] := by
      rw [hfront]
      exact List.cons_ne_nil _ _
    simp only [hexEscape?, skipIf_append hskip, hfront, List.cons_append, braced?_append hbraced,
      Option.bind_eq_bind, Option.bind_some]
    obtain ⟨_, hsome, h⟩ := Option.bind_eq_some_iff.1 h
    obtain ⟨c, hc, heq⟩ := Option.bind_eq_some_iff.1 h
    obtain ⟨rfl, rfl⟩ := Prod.mk.inj (Option.some.inj heq)
    simp only [hsome, hc, Option.bind_some]
  next hbrace =>
    obtain ⟨⟨ds, cs₂⟩, htaken, h⟩ := Option.bind_eq_some_iff.1 h
    obtain ⟨c, hc, heq⟩ := Option.bind_eq_some_iff.1 h
    obtain ⟨rfl, rfl⟩ := Prod.mk.inj (Option.some.inj heq)
    have hskip := taken?_succ_ne_nil htaken
    rw [hexEscape?, skipIf_append hskip]
    split
    next happend =>
      obtain ⟨a, front, hfront⟩ := List.exists_cons_of_ne_nil hskip
      rw [hfront, List.cons_append] at happend
      exact absurd (hfront.trans (congrArg (· :: front) (List.cons.inj happend).1)) (hbrace front)
    next =>
      simp only [taken?_append htaken, hc, Option.bind_eq_bind, Option.bind_some]

/-- A property ends where it did. -/
lemma property?_append {negated : Bool} {p : Primitive}
    (h : property? properties blanks negated cs = some (p, rest)) (x : List Char) :
    property? properties blanks negated (cs ++ x) = some (p, rest ++ x) := by
  unfold property? at h
  have hskip : skipIf blanks cs ≠ [] := by
    intro hskip
    rw [hskip] at h
    contradiction
  rw [property?, skipIf_append hskip]
  split at h
  next => contradiction
  next cs₁ hfront =>
    obtain ⟨⟨name, cs₂⟩, hbraced, h⟩ := Option.bind_eq_some_iff.1 h
    obtain ⟨set, hset, heq⟩ := Option.bind_eq_some_iff.1 h
    obtain ⟨rfl, rfl⟩ := Prod.mk.inj (Option.some.inj heq)
    simp only [hfront, List.cons_append, braced?_append hbraced, hset, Option.bind_eq_bind,
      Option.bind_some]
  next c cs₁ hbrace hfront =>
    obtain ⟨_, hguard, h⟩ := Option.bind_eq_some_iff.1 h
    obtain ⟨set, hset, heq⟩ := Option.bind_eq_some_iff.1 h
    obtain ⟨rfl, rfl⟩ := Prod.mk.inj (Option.some.inj heq)
    simp only [hfront, List.cons_append, hguard, hset, Option.bind_eq_bind, Option.bind_some]

/-- A word boundary ends where it did. -/
lemma boundary?_append {p : Primitive} (h : boundary? blanks cs = some (p, rest)) (x : List Char) :
    boundary? blanks (cs ++ '.' :: x) = some (p, rest ++ '.' :: x) := by
  unfold boundary? at h
  split at h
  next cs =>
    split at h
    next => contradiction
    next c cs₁ hfront =>
      have hskip : skipIf blanks cs ≠ [] := by
        rw [hfront]
        exact List.cons_ne_nil _ _
      simp only [boundary?, List.cons_append, skipIf_append hskip, hfront]
      split at h
      next hname =>
        obtain ⟨⟨name, cs₂⟩, hbraced, h⟩ := Option.bind_eq_some_iff.1 h
        rw [if_pos hname, braced?_append hbraced]
        dsimp only [Option.bind_eq_bind, Option.bind_some] at h ⊢
        split at h
        all_goals first | contradiction | skip
        all_goals
          obtain ⟨rfl, rfl⟩ := Prod.mk.inj (Option.some.inj h)
          rfl
      next hname =>
        obtain ⟨rfl, rfl⟩ := Prod.mk.inj (Option.some.inj h)
        rw [if_neg hname]
        rfl
  next hbrace =>
    obtain ⟨rfl, rfl⟩ := Prod.mk.inj (Option.some.inj h)
    cases cs with
    | nil => rfl
    | cons c cs =>
      unfold boundary?
      split
      next heq => exact absurd (congrArg (· :: cs) (List.cons.inj heq).1) (hbrace cs)
      next => rfl

/-- An escape ends where it did. -/
lemma escape?_append {p : Primitive} (h : escape? properties blanks cs = some (p, rest))
    (x : List Char) :
    escape? properties blanks (cs ++ '.' :: x) = some (p, rest ++ '.' :: x) := by
  unfold escape? at h
  split at h
  -- nothing after the backslash, code points, properties, word boundaries, and characters of no
  -- special meaning
  case h_1 => contradiction
  case h_2 => exact hexEscape?_append h _
  case h_3 => exact hexEscape?_append h _
  case h_4 => exact hexEscape?_append h _
  case h_5 => exact property?_append h _
  case h_6 => exact property?_append h _
  case h_21 => exact boundary?_append h x
  case h_25 =>
    simp only [List.cons_append, escape?, *]
    split at h
    next hescapable =>
      obtain ⟨rfl, rfl⟩ := Prod.mk.inj (Option.some.inj h)
      rw [if_pos hescapable]
    next => contradiction
  all_goals
    obtain ⟨rfl, rfl⟩ := Prod.mk.inj (Option.some.inj h)
    rfl

/-! ### Brackets -/

/-- No class of ASCII characters has a dot in its name. -/
lemma NamedClass.ofName?_of_dot {name : List Char} (h : '.' ∈ name) :
    ofName? (String.ofList name) = none := by
  unfold ofName?
  split
  case h_15 => rfl
  all_goals
    next heq =>
      have hname := congrArg String.toList heq
      rw [String.toList_ofList] at hname
      rw [hname] at h
      revert h
      decide

/-- A circumflex at the front, and what follows it. -/
def splitCaret : List Char → Bool × List Char
  | '^' :: cs => (true, cs)
  | cs => (false, cs)

/-- Whether there is a circumflex does not change when the text goes on with a dot. -/
lemma splitCaret_append (cs x : List Char) :
    splitCaret (cs ++ '.' :: x) = ((splitCaret cs).1, (splitCaret cs).2 ++ '.' :: x) := by
  cases cs with
  | nil => rfl
  | cons c cs =>
    by_cases hc : c = '^'
    · subst hc
      rfl
    · have hplain : ∀ cs, splitCaret (c :: cs) = (false, c :: cs) := by
        intro cs
        unfold splitCaret
        split
        next heq => exact absurd (List.cons.inj heq).1 hc
        next => rfl
      rw [List.cons_append, hplain, hplain]
      rfl

/-- What follows the circumflex of a class of ASCII characters. -/
def namedClassBody? (negated : Bool) (cs : List Char) : Option (CharClass × List Char) :=
  match cs.drop (cs.takeWhile (· ≠ ':')).length with
  | ':' :: ']' :: rest =>
    (NamedClass.ofName? (String.ofList (cs.takeWhile (· ≠ ':')))).map fun k =>
      (.named k negated, rest)
  | _ => none

/-- A class of ASCII characters has a colon, maybe a circumflex, and a body. -/
lemma namedClass?_colon (cs : List Char) :
    namedClass? (':' :: cs) = namedClassBody? (splitCaret cs).1 (splitCaret cs).2 := rfl

/-- The body of a class of ASCII characters ends where it did, and there is none if there was none:
with the dot it has no name. -/
lemma namedClassBody?_append (negated : Bool) (cs x : List Char) :
    namedClassBody? negated (cs ++ '.' :: x) =
      (namedClassBody? negated cs).map fun e => (e.1, e.2 ++ '.' :: x) := by
  cases hdrop : cs.drop (cs.takeWhile (· ≠ ':')).length with
  | nil =>
    have hall : cs.takeWhile (· ≠ ':') = cs := by
      have hle := List.drop_eq_nil_iff.1 hdrop
      exact (List.takeWhile_prefix _).eq_of_length_le hle
    have hnone : namedClassBody? negated cs = none := by
      rw [namedClassBody?, hdrop]
    have hdot : '.' ∈ (cs ++ '.' :: x).takeWhile (· ≠ ':') := by
      rw [List.takeWhile_append, if_pos (congrArg List.length hall)]
      exact List.mem_append_right _ (List.mem_cons_self ..)
    rw [hnone, namedClassBody?, NamedClass.ofName?_of_dot hdot]
    split
    · rfl
    · rfl
  | cons c rest =>
    obtain ⟨htake, hdrop'⟩ := takeWhile_append_of_drop hdrop ('.' :: x)
    rw [namedClassBody?, namedClassBody?, htake, hdrop', hdrop]
    split
    next rest' heq =>
      obtain ⟨rfl, hrest⟩ := List.cons.inj heq
      cases rest with
      | nil => exact absurd (List.cons.inj hrest).1 (by decide)
      | cons d rest =>
        obtain ⟨rfl, rfl⟩ := List.cons.inj hrest
        change _ = Option.map _ (Option.map _ _)
        rw [Option.map_map]
        rfl
    next hother =>
      split
      next rest' heq =>
        obtain ⟨rfl, rfl⟩ := List.cons.inj heq
        exact absurd rfl (hother _)
      next => rfl

/-- A class of ASCII characters ends where it did, and there is none if there was none. -/
lemma namedClass?_append (cs x : List Char) :
    namedClass? (cs ++ '.' :: x) = (namedClass? cs).map fun e => (e.1, e.2 ++ '.' :: x) := by
  cases cs with
  | nil => rfl
  | cons c cs =>
    by_cases hc : c = ':'
    · subst hc
      rw [List.cons_append, namedClass?_colon, namedClass?_colon, splitCaret_append]
      exact namedClassBody?_append _ _ x
    · have hnone : ∀ cs, namedClass? (c :: cs) = none := by
        intro cs
        unfold namedClass?
        split
        next heq => exact absurd (List.cons.inj heq).1 hc
        next => rfl
      rw [List.cons_append, hnone, hnone]
      rfl

/-- An item of a bracket ends where it did. -/
lemma bracketItem?_append {p : Primitive} (h : bracketItem? properties blanks cs = some (p, rest))
    (x : List Char) :
    bracketItem? properties blanks (cs ++ '.' :: x) = some (p, rest ++ '.' :: x) := by
  unfold bracketItem? at h
  split at h
  next => contradiction
  next cs => exact escape?_append h x
  next c cs hc =>
    obtain ⟨rfl, rfl⟩ := Prod.mk.inj (Option.some.inj h)
    rw [List.cons_append]
    unfold bracketItem?
    split
    next heq => contradiction
    next heq => exact absurd (List.cons.inj heq).1 hc
    next heq =>
      obtain ⟨rfl, rfl⟩ := List.cons.inj heq
      rfl

/-- Whether a hyphen makes a range does not change, nor where the end of the range begins. -/
lemma rangeFollows_append (hcs : cs ≠ []) (hrest : rangeFollows blanks cs ≠ some []) (x : List Char) :
    rangeFollows blanks (cs ++ '.' :: x) = (rangeFollows blanks cs).map (· ++ '.' :: x) := by
  cases cs with
  | nil => contradiction
  | cons c cs =>
    by_cases hc : c = '-'
    · subst hc
      have hskip : skipIf blanks cs ≠ [] := by
        intro hskip
        apply hrest
        rw [rangeFollows, hskip]
      rw [List.cons_append, rangeFollows, rangeFollows, skipIf_append hskip]
      cases hfront : skipIf blanks cs with
      | nil => contradiction
      | cons d ds =>
        by_cases hclose : d = ']'
        · subst hclose
          rfl
        · by_cases hhyphen : d = '-'
          · subst hhyphen
            rfl
          · rw [List.cons_append]
            split
            next heq => exact absurd (List.cons.inj heq).1 hclose
            next heq => exact absurd (List.cons.inj heq).1 hhyphen
            next =>
              split
              next heq => exact absurd (List.cons.inj heq).1 hclose
              next heq => exact absurd (List.cons.inj heq).1 hhyphen
              next => rfl
    · have hnone : ∀ cs, rangeFollows blanks (c :: cs) = none := by
        intro cs
        unfold rangeFollows
        split
        next heq => exact absurd (List.cons.inj heq).1 hc
        next => rfl
      rw [List.cons_append, hnone, hnone]
      rfl

/-- An item or a range ends where it did, if it ends before the text does. -/
lemma bracketRange?_append {k : CharClass} (h : bracketRange? properties blanks cs = some (k, rest))
    (hrest : rest ≠ []) (x : List Char) :
    bracketRange? properties blanks (cs ++ '.' :: x) = some (k, rest ++ '.' :: x) := by
  simp only [bracketRange?, Option.bind_eq_bind, Option.bind_eq_some_iff] at h
  obtain ⟨⟨p, cs₁⟩, hitem, h⟩ := h
  dsimp only at h
  have hskip : skipIf blanks cs₁ ≠ [] := by
    intro hskip
    rw [hskip] at h
    obtain ⟨k', -, heq⟩ := Option.bind_eq_some_iff.1 h
    exact hrest (Prod.mk.inj (Option.some.inj heq)).2.symm
  have hends : rangeFollows blanks (skipIf blanks cs₁) ≠ some [] := by
    intro hends
    rw [hends] at h
    contradiction
  simp only [bracketRange?, Option.bind_eq_bind, bracketItem?_append hitem, Option.bind_some,
    skipIf_append hskip, rangeFollows_append hskip hends]
  cases hfollows : rangeFollows blanks (skipIf blanks cs₁) with
  | none =>
    rw [hfollows] at h
    obtain ⟨k', hk, heq⟩ := Option.bind_eq_some_iff.1 h
    obtain ⟨rfl, rfl⟩ := Prod.mk.inj (Option.some.inj heq)
    simp only [Option.map_none, hk, Option.bind_some]
  | some cs₂ =>
    rw [hfollows] at h
    obtain ⟨⟨q, cs₃⟩, hlast, h⟩ := Option.bind_eq_some_iff.1 h
    simp only [Option.map_some, bracketItem?_append hlast, Option.bind_some]
    dsimp only at h
    split at h
    case h_1 =>
      split at h
      next hle =>
        obtain ⟨rfl, rfl⟩ := Prod.mk.inj (Option.some.inj h)
        exact if_pos hle
      next => contradiction
    case h_2 => contradiction

/-- An operator is made of the same character twice. -/
lemma setOp?_cons_cons (a b : Char) (cs : List Char) :
    setOp? (a :: b :: cs) =
      if a = '&' ∧ b = '&' then some (.intersection, cs)
      else if a = '-' ∧ b = '-' then some (.difference, cs)
      else if a = '~' ∧ b = '~' then some (.symmetric, cs)
      else none := by
  unfold setOp?
  split
  case h_4 hand hminus htilde =>
    rw [if_neg (fun h => hand cs (by rw [h.1, h.2])), if_neg (fun h => hminus cs (by rw [h.1, h.2])),
      if_neg (fun h => htilde cs (by rw [h.1, h.2]))]
  all_goals
    next heq =>
      obtain ⟨rfl, hrest⟩ := List.cons.inj heq
      obtain ⟨rfl, rfl⟩ := List.cons.inj hrest
      rfl

/-- Whether two characters make an operator does not change. -/
lemma setOp?_append (cs x : List Char) :
    setOp? (cs ++ '.' :: x) = (setOp? cs).map fun e => (e.1, e.2 ++ '.' :: x) := by
  match cs with
  | [] => rfl
  | [a] =>
    have hnone : setOp? [a] = none := by
      unfold setOp?
      split <;> simp_all
    rw [hnone, List.singleton_append, setOp?_cons_cons, if_neg (fun h => absurd h.2 (by decide)),
      if_neg (fun h => absurd h.2 (by decide)), if_neg (fun h => absurd h.2 (by decide))]
    rfl
  | a :: b :: cs =>
    rw [List.cons_append, List.cons_append, setOp?_cons_cons, setOp?_cons_cons]
    split
    · rfl
    · split
      · rfl
      · split
        · rfl
        · rfl

/-- Leading hyphens end where they did, if they end before the text does. -/
lemma leadingHyphens_append {fuel fuel' : Nat} {k k' : CharClass} (hfuel : cs.length ≤ fuel)
    (hle : fuel ≤ fuel') (h : leadingHyphens blanks fuel k cs = (k', rest)) (hrest : rest ≠ [])
    (x : List Char) : leadingHyphens blanks fuel' k (cs ++ '.' :: x) = (k', rest ++ '.' :: x) := by
  induction fuel generalizing fuel' k cs with
  | zero =>
    obtain rfl := List.eq_nil_of_length_eq_zero (Nat.le_zero.1 hfuel)
    exact absurd (Prod.mk.inj h).2.symm hrest
  | succ fuel ih =>
    obtain ⟨fuel', rfl⟩ : ∃ n, fuel' = n + 1 := ⟨fuel' - 1, by omega⟩
    have hskip : skipIf blanks cs ≠ [] := by
      intro hskip
      rw [leadingHyphens, hskip] at h
      exact hrest (Prod.mk.inj h).2.symm
    have hlength := length_skipIf_le blanks cs
    rw [leadingHyphens] at h
    rw [leadingHyphens, skipIf_append hskip]
    cases hfront : skipIf blanks cs with
    | nil => contradiction
    | cons d ds =>
      rw [hfront] at h hlength
      by_cases hd : d = '-'
      · subst hd
        rw [List.length_cons] at hlength
        exact ih (by omega) (by omega) h
      · rw [List.cons_append]
        split at h
        next heq => exact absurd (List.cons.inj heq).1 hd
        next =>
          obtain ⟨rfl, rfl⟩ := Prod.mk.inj h
          split
          next heq => exact absurd (List.cons.inj heq).1 hd
          next => rfl

/-- A bracket does not end where the text ends. -/
lemma bracketRest?_nil (fuel : Nat) (pending : PendingOp) (k : CharClass) :
    bracketRest? properties blanks fuel pending k [] = none := by
  cases fuel with
  | zero => rw [bracketRest?]
  | succ fuel =>
    have hskip : skipIf blanks [] = [] := by cases blanks <;> rfl
    rw [bracketRest?, hskip]
    rfl

/-- A closing bracket at the front stands for itself. -/
def literalBracket (k : CharClass) (cs : List Char) : CharClass × List Char :=
  match k, cs with
  | .empty, ']' :: cs => (.range ']' ']', cs)
  | k, cs => (k, cs)

/-- Where nothing is left there is no closing bracket. -/
lemma literalBracket_nil (k : CharClass) : literalBracket k [] = (k, []) := by
  cases k <;> rfl

/-- The first items of a bracket: hyphens, or a closing bracket. -/
def bracketFront (blanks : Bool) (cs : List Char) : CharClass × List Char :=
  let hyphens := leadingHyphens blanks cs.length .empty cs
  literalBracket hyphens.1 hyphens.2

/-- A bracket is an optional negation, the first items, and the rest. -/
lemma bracket?_succ (fuel : Nat) (cs : List Char) :
    bracket? properties blanks (fuel + 1) cs =
      let caret := splitCaret (skipIf blanks cs)
      let front := bracketFront blanks caret.2
      (bracketRest? properties blanks fuel none front.1 front.2).map fun e =>
        (.bracket caret.1 e.1, e.2) := by
  rw [bracket?]
  rfl

/-- A closing bracket at the front is there with the dot or without it. -/
lemma literalBracket_append (k : CharClass) (hcs : cs ≠ []) (x : List Char) :
    literalBracket k (cs ++ x) = ((literalBracket k cs).1, (literalBracket k cs).2 ++ x) := by
  cases cs with
  | nil => contradiction
  | cons c cs =>
    by_cases hc : c = ']'
    · subst hc
      cases k <;> rfl
    · have hplain : ∀ cs, literalBracket k (c :: cs) = (k, c :: cs) := by
        intro cs
        unfold literalBracket
        split
        next heq => exact absurd (List.cons.inj heq).1 hc
        next => rfl
      rw [List.cons_append, hplain, hplain]
      rfl

/-- The first items of a bracket end where they did, if they end before the text does. -/
lemma bracketFront_append (hcs : (leadingHyphens blanks cs.length .empty cs).2 ≠ [])
    (x : List Char) :
    bracketFront blanks (cs ++ '.' :: x) =
      ((bracketFront blanks cs).1, (bracketFront blanks cs).2 ++ '.' :: x) := by
  have hle : cs.length ≤ (cs ++ '.' :: x).length := by
    rw [List.length_append]
    exact Nat.le_add_right _ _
  cases hhyphens : leadingHyphens blanks cs.length .empty cs with
  | mk k rest =>
    rw [hhyphens] at hcs
    unfold bracketFront
    dsimp only
    rw [leadingHyphens_append (Nat.le_refl _) hle hhyphens hcs x, hhyphens]
    exact literalBracket_append _ hcs _

/-- With so much fuel, a bracket ends where it did, and so does what is left of one after some
items. -/
structure KeepsBrackets (properties : PropertyTable) (blanks : Bool) (x : List Char) (fuel : Nat) :
    Prop where
  bracket : ∀ {fuel' cs k rest}, fuel ≤ fuel' → bracket? properties blanks fuel cs = some (k, rest) →
    bracket? properties blanks fuel' (cs ++ '.' :: x) = some (k, rest ++ '.' :: x)
  items : ∀ {fuel' pending k cs k' rest}, fuel ≤ fuel' →
    bracketRest? properties blanks fuel pending k cs = some (k', rest) →
    bracketRest? properties blanks fuel' pending k (cs ++ '.' :: x) = some (k', rest ++ '.' :: x)

namespace KeepsBrackets

variable {fuel fuel' : Nat} {k k' : CharClass} {pending : PendingOp}

/-- A bracket ends where it did if this can be said of what comes after its first items. -/
lemma bracket_succ (h : KeepsBrackets properties blanks x fuel) (hle : fuel ≤ fuel')
    (hbracket : bracket? properties blanks (fuel + 1) cs = some (k, rest)) :
    bracket? properties blanks (fuel' + 1) (cs ++ '.' :: x) = some (k, rest ++ '.' :: x) := by
  rw [bracket?_succ] at hbracket ⊢
  dsimp only at hbracket ⊢
  obtain ⟨⟨k', rest'⟩, hitems, heq⟩ := Option.map_eq_some_iff.1 hbracket
  obtain ⟨rfl, rfl⟩ := Prod.mk.inj heq
  -- otherwise there would be nothing left for the rest
  have hfront : (leadingHyphens blanks (splitCaret (skipIf blanks cs)).2.length .empty
      (splitCaret (skipIf blanks cs)).2).2 ≠ [] := by
    intro hnil
    rw [bracketFront, hnil, literalBracket_nil, bracketRest?_nil] at hitems
    contradiction
  have hskip : skipIf blanks cs ≠ [] := by
    intro hskip
    rw [hskip] at hfront
    exact hfront rfl
  rw [skipIf_append hskip, splitCaret_append]
  dsimp only
  rw [bracketFront_append hfront, h.items hle hitems]
  rfl

/-- Where an item follows, the items after it end where they did. -/
lemma items_of_range (h : KeepsBrackets properties blanks x fuel) (hle : fuel ≤ fuel')
    {e : CharClass × List Char} (hrange : bracketRange? properties blanks cs = some e)
    (hitems : bracketRest? properties blanks fuel pending (.union k e.1) e.2 = some (k', rest)) :
    ((bracketRange? properties blanks (cs ++ '.' :: x)).bind fun e =>
      bracketRest? properties blanks fuel' pending (.union k e.1) e.2) =
        some (k', rest ++ '.' :: x) := by
  obtain ⟨inner, cs₁⟩ := e
  have hcs₁ : cs₁ ≠ [] := by
    rintro rfl
    rw [bracketRest?_nil] at hitems
    contradiction
  rw [bracketRange?_append hrange hcs₁]
  exact h.items hle hitems

/-- What is left of a bracket ends where it did if this can be said of what comes after one item. -/
lemma items_succ (h : KeepsBrackets properties blanks x fuel) (hle : fuel ≤ fuel')
    (hitems : bracketRest? properties blanks (fuel + 1) pending k cs = some (k', rest)) :
    bracketRest? properties blanks (fuel' + 1) pending k (cs ++ '.' :: x) =
      some (k', rest ++ '.' :: x) := by
  rw [bracketRest?] at hitems ⊢
  dsimp only at hitems ⊢
  have hskip : skipIf blanks cs ≠ [] := by
    intro hskip
    rw [hskip] at hitems
    contradiction
  rw [skipIf_append hskip, setOp?_append]
  cases hop : setOp? (skipIf blanks cs) with
  | some e =>
    rw [hop] at hitems
    exact h.items hle hitems
  | none =>
    rw [hop] at hitems
    dsimp only [Option.map_none] at hitems ⊢
    split at hitems
    next => contradiction
    next cs hfront =>
      obtain ⟨rfl, rfl⟩ := Prod.mk.inj (Option.some.inj hitems)
      rw [hfront]
      rfl
    next cs hfront =>
      rw [hfront, List.cons_append]
      split
      next heq => contradiction
      next heq => exact absurd (List.cons.inj heq).1 (by decide)
      next heq =>
        obtain ⟨-, rfl⟩ := List.cons.inj heq
        -- the name of a class, or else a bracket inside this one
        rw [namedClass?_append]
        cases hnamed : namedClass? cs with
        | some e =>
          rw [hnamed] at hitems
          exact h.items hle hitems
        | none =>
          rw [hnamed] at hitems
          obtain ⟨⟨inner, cs₁⟩, hinner, hitems⟩ := Option.bind_eq_some_iff.1 hitems
          dsimp only [Option.map_none]
          rw [h.bracket hle hinner]
          exact h.items hle hitems
      next hopen => exact absurd rfl (hopen _)
    next hclose hopen =>
      obtain ⟨e, hrange, hitems⟩ := Option.bind_eq_some_iff.1 hitems
      cases hfront : skipIf blanks cs with
      | nil => contradiction
      | cons c cs₂ =>
        rw [hfront] at hrange hclose hopen
        rw [List.cons_append]
        split
        next heq => contradiction
        next heq => exact absurd (congrArg (· :: cs₂) (List.cons.inj heq).1) (hclose cs₂)
        next heq => exact absurd (congrArg (· :: cs₂) (List.cons.inj heq).1) (hopen cs₂)
        next => exact h.items_of_range hle hrange hitems

end KeepsBrackets

/-- A bracket ends where it did, and so does what is left of one after some items. -/
theorem keepsBrackets (properties : PropertyTable) (blanks : Bool) (x : List Char) (fuel : Nat) :
    KeepsBrackets properties blanks x fuel := by
  induction fuel with
  | zero =>
    constructor
    · intro fuel' cs k rest _ h
      rw [bracket?] at h
      contradiction
    · intro fuel' pending k cs k' rest _ h
      rw [bracketRest?] at h
      contradiction
  | succ fuel ih =>
    constructor
    · intro fuel' cs k rest hle h
      obtain ⟨fuel', rfl⟩ : ∃ n, fuel' = n + 1 := ⟨fuel' - 1, by omega⟩
      exact ih.bracket_succ (Nat.le_of_succ_le_succ hle) h
    · intro fuel' pending k cs k' rest hle h
      obtain ⟨fuel', rfl⟩ : ∃ n, fuel' = n + 1 := ⟨fuel' - 1, by omega⟩
      exact ih.items_succ (Nat.le_of_succ_le_succ hle) h

end Regex

end Intercept
