import Intercept.Proofs.Regex.Items

/-!
# Tokens of a longer text

Where the first token of a text ends, and which token it is, does not change when the text goes on
with a dot (`Regex.token?_append`).
-/

namespace Intercept

namespace Regex

variable {properties : PropertyTable} {blanks : Bool} {cs rest x : List Char}

/-! ### Groups and flags -/

/-- Flags end where they did. -/
lemma flags?_append {seen fs : List (Flag × Bool)} {minus dangling : Bool} {c : Char}
    (h : flags? seen minus dangling cs = some (fs, c, rest)) (x : List Char) :
    flags? seen minus dangling (cs ++ x) = some (fs, c, rest ++ x) := by
  induction cs generalizing seen minus dangling with
  | nil =>
    rw [flags?] at h
    contradiction
  | cons d cs ih =>
    rw [List.cons_append]
    rw [flags?] at h ⊢
    split at h
    next hend =>
      rw [if_pos hend]
      split at h
      next => contradiction
      next hdangling =>
        cases h
        rw [if_neg hdangling]
    next hend =>
      rw [if_neg hend]
      split at h
      next hminus =>
        rw [if_pos hminus]
        split at h
        next => contradiction
        next hfirst =>
          rw [if_neg hfirst]
          exact ih h
      next hminus =>
        rw [if_neg hminus]
        obtain ⟨f, hf, h⟩ := Option.bind_eq_some_iff.1 h
        rw [hf]
        change (if _ then _ else _) = _
        split at h
        next => contradiction
        next hseen =>
          rw [if_neg hseen]
          exact ih h

/-- The name of a group ends where it did. -/
lemma groupName?_append {name : String} (h : groupName? cs = some (name, rest)) (x : List Char) :
    groupName? (cs ++ x) = some (name, rest ++ x) := by
  unfold groupName? at h
  dsimp only at h
  split at h
  next c tail cs₁ hname hdrop =>
    obtain ⟨htake, hdrop'⟩ := takeWhile_append_of_drop hdrop x
    unfold groupName?
    dsimp only
    rw [hname] at h
    rw [htake, hdrop', hname]
    split at h
    next hvalid =>
      cases h
      change (if isNameChar true c && tail.all (isNameChar false) then _ else _) = _
      rw [if_pos hvalid]
    next => contradiction
  next => contradiction

/-- A group without a question mark is remembered. -/
lemma openGroup?_plain {c : Char} (hc : c ≠ '?') (cs : List Char) :
    openGroup? false (c :: cs) = some (.openGroup none, c :: cs) := by
  unfold openGroup? skipIf
  split <;> simp_all

/-- A group with a name. -/
lemma openGroup?_name {c : Char} (heq : c ≠ '=') (hbang : c ≠ '!') (cs : List Char) :
    openGroup? false ('?' :: '<' :: c :: cs) =
      (groupName? (c :: cs)).map fun e => (.openGroup (some e.1), e.2) := by
  unfold openGroup? skipIf
  split
  case h_6 heq => rw [(List.cons.inj (List.cons.inj heq).2).2]
  case h_7 hangle heq => exact absurd (List.cons.inj heq).2.symm (hangle _)
  all_goals simp_all

/-- A group with flags, or flags without a group. -/
lemma openGroup?_flags {c : Char} (heq : c ≠ '=') (hbang : c ≠ '!') (hangle : c ≠ '<')
    (hname : ∀ tail, c = 'P' → cs ≠ '<' :: tail) :
    openGroup? false ('?' :: c :: cs) =
      (flags? [] false false (c :: cs)).bind fun e =>
        if e.2.1 = ':' then some (.openFlags e.1, e.2.2)
        else if e.1.isEmpty then none
        else some (.setFlags e.1, e.2.2) := by
  unfold openGroup? skipIf
  split
  case h_7 heq => rw [(List.cons.inj heq).2]; rfl
  all_goals simp_all

/-- Flags at the beginning of a group end where they did. -/
lemma openGroup?_flags_append {c : Char} {t : Token} (heq : c ≠ '=') (hbang : c ≠ '!')
    (hangle : c ≠ '<') (hname : ∀ tail, c = 'P' → cs ≠ '<' :: tail)
    (h : openGroup? false ('?' :: c :: cs) = some (t, rest)) (x : List Char) :
    openGroup? false ('?' :: c :: cs ++ '.' :: x) = some (t, rest ++ '.' :: x) := by
  rw [openGroup?_flags heq hbang hangle hname] at h
  obtain ⟨⟨fs, d, cs₂⟩, hflags, h⟩ := Option.bind_eq_some_iff.1 h
  have happend := flags?_append hflags ('.' :: x)
  simp only [List.cons_append] at happend ⊢
  have hname' : ∀ tail, c = 'P' → cs ++ '.' :: x ≠ '<' :: tail := by
    rintro tail hc hcs
    rcases cs with _ | ⟨e, cs⟩
    · exact absurd (List.cons.inj hcs).1 (by decide)
    · exact hname cs hc (congrArg (· :: cs) (List.cons.inj hcs).1)
  rw [openGroup?_flags heq hbang hangle hname', happend, Option.bind_some]
  dsimp only at h ⊢
  split at h
  next hd =>
    cases h
    exact if_pos hd
  next hd =>
    split at h
    next => contradiction
    next hfs =>
      cases h
      rw [if_neg hd, if_neg hfs]

/-- What opens a group ends where it did, if it is told by more than its parenthesis. -/
lemma openGroup?_append {t : Token} (h : openGroup? blanks cs = some (t, rest))
    (hrest : rest = [] → t ≠ .openGroup none) (x : List Char) :
    openGroup? blanks (cs ++ '.' :: x) = some (t, rest ++ '.' :: x) := by
  have hskip : skipIf blanks cs ≠ [] := by
    intro hskip
    rw [openGroup?, hskip] at h
    cases h
    exact hrest rfl rfl
  change openGroup? false (skipIf blanks (cs ++ '.' :: x)) = _
  change openGroup? false (skipIf blanks cs) = _ at h
  rw [skipIf_append hskip]
  generalize skipIf blanks cs = front at h hskip
  rcases front with _ | ⟨a, cs⟩
  · contradiction
  by_cases ha : a = '?'
  swap
  · rw [openGroup?_plain ha] at h
    cases h
    exact openGroup?_plain ha _
  subst ha
  rcases cs with _ | ⟨c, cs⟩
  · contradiction
  by_cases heq : c = '='
  · subst heq
    contradiction
  by_cases hbang : c = '!'
  · subst hbang
    contradiction
  by_cases hangle : c = '<'
  · subst hangle
    rcases cs with _ | ⟨c, cs⟩
    · contradiction
    by_cases heq : c = '='
    · subst heq
      contradiction
    by_cases hbang : c = '!'
    · subst hbang
      contradiction
    rw [openGroup?_name heq hbang] at h
    obtain ⟨⟨name, cs₂⟩, hname, heq'⟩ := Option.map_eq_some_iff.1 h
    cases heq'
    have happend := groupName?_append hname ('.' :: x)
    simp only [List.cons_append] at happend ⊢
    rw [openGroup?_name heq hbang, happend]
    rfl
  by_cases hname : c = 'P' ∧ ∃ tail, cs = '<' :: tail
  · obtain ⟨rfl, cs, rfl⟩ := hname
    obtain ⟨⟨name, cs₂⟩, hname, heq'⟩ := Option.map_eq_some_iff.1 h
    cases heq'
    change (groupName? (cs ++ '.' :: x)).map _ = _
    rw [groupName?_append hname]
    rfl
  · exact openGroup?_flags_append heq hbang hangle (fun tail hc hcs => hname ⟨hc, tail, hcs⟩) h x

/-- Without a question mark a quantifier is not lazy. -/
lemma lazyMark_of_ne {c : Char} (hc : c ≠ '?') (cs : List Char) :
    lazyMark (c :: cs) = (false, c :: cs) := by
  unfold lazyMark
  split
  next heq => exact absurd (List.cons.inj heq).1 hc
  next => rfl

/-- A question mark after a quantifier is there with the dot or without it. -/
lemma lazyMark_append (cs x : List Char) :
    lazyMark (cs ++ '.' :: x) = ((lazyMark cs).1, (lazyMark cs).2 ++ '.' :: x) := by
  cases cs with
  | nil => rfl
  | cons c cs =>
    by_cases hc : c = '?'
    · subst hc
      rfl
    · rw [List.cons_append, lazyMark_of_ne hc, lazyMark_of_ne hc]
      rfl

/-- A quantifier ends where it did. -/
lemma quantifier_append {min : Nat} {max : Option Nat} {t : Token}
    (h : some (Token.quantifier min max (lazyMark cs).1, (lazyMark cs).2) = some (t, rest))
    (x : List Char) :
    some (Token.quantifier min max (lazyMark (cs ++ '.' :: x)).1, (lazyMark (cs ++ '.' :: x)).2) =
      some (t, rest ++ '.' :: x) := by
  obtain ⟨rfl, rfl⟩ := Prod.mk.inj (Option.some.inj h)
  rw [lazyMark_append]

/-- Whether a token is a quantifier. -/
def Token.isQuantifier : Token → Bool
  | quantifier _ _ _ => true
  | _ => false

/-- The first token of a text is the same, and ends where it did, when the text goes on with a dot.
But a parenthesis at the end of the text may turn out to be something else, and where comments are
ignored one of them may follow the bounds of a loop and run to the end of the text. -/
theorem token?_append {t : Token} (h : token? properties blanks cs = some (t, rest))
    (hrest : rest = [] → t ≠ .openGroup none ∧ (t.isQuantifier = true → blanks = false))
    (x : List Char) : token? properties blanks (cs ++ '.' :: x) = some (t, rest ++ '.' :: x) := by
  unfold token? at h
  split at h
  case h_1 => contradiction
  case h_7 cs => exact openGroup?_append h (fun hnil => (hrest hnil).1) x
  case h_8 cs =>
    obtain ⟨⟨k, cs₁⟩, hbracket, heq⟩ := Option.map_eq_some_iff.1 h
    cases heq
    have hle : 2 * cs.length + 2 ≤ 2 * (cs ++ '.' :: x).length + 2 := by
      rw [List.length_append]
      omega
    change (bracket? properties blanks (2 * (cs ++ '.' :: x).length + 2) (cs ++ '.' :: x)).map _ = _
    rw [(keepsBrackets properties blanks x _).bracket hle hbracket]
    rfl
  case h_9 cs => exact quantifier_append h x
  case h_10 cs => exact quantifier_append h x
  case h_11 cs => exact quantifier_append h x
  case h_12 cs =>
    obtain ⟨⟨body, cs₁⟩, hbraced, h⟩ := Option.bind_eq_some_iff.1 h
    obtain ⟨⟨min, max⟩, hbounds, h⟩ := Option.bind_eq_some_iff.1 h
    have hskip : skipIf blanks (cs₁ ++ '.' :: x) = skipIf blanks cs₁ ++ '.' :: x := by
      by_cases hnil : skipIf blanks cs₁ = []
      · dsimp only at h
        rw [hnil] at h
        obtain ⟨rfl, rfl⟩ := Prod.mk.inj (Option.some.inj h)
        obtain rfl := (hrest rfl).2 rfl
        rfl
      · exact skipIf_append hnil _
    change (braced? blanks false (cs ++ '.' :: x)).bind _ = _
    rw [braced?_append hbraced]
    dsimp only [Option.bind_eq_bind, Option.bind_some]
    rw [hbounds, Option.bind_some, hskip]
    exact quantifier_append h x
  case h_13 cs =>
    obtain ⟨⟨p, cs₁⟩, hescape, heq⟩ := Option.map_eq_some_iff.1 h
    cases heq
    change (escape? properties blanks (cs ++ '.' :: x)).map _ = _
    rw [escape?_append hescape]
    rfl
  case h_14 =>
    cases h
    simp only [List.cons_append, token?, *]
  -- the dot, the anchors, the bar, and the closing parenthesis are there by themselves
  all_goals
    cases h
    rfl

end Regex

end Intercept
