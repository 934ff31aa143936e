import Intercept.Proofs.Regex.Search
import Intercept.Regex.Parser

/-!
# Loops of an expression that was read

The bounds of a loop are checked where they are read, and a loop of content that consumes nothing is
cut down in a way that keeps them in order. So no loop of an expression that was read asks for more
rounds than it allows (`Regex.isBounded_of_parse?`), and a search for such an expression finds it
exactly where it occurs (`Regex.occurs_iff_of_parse?`).
-/

namespace Intercept

namespace Regex

variable {r : Regex} {min : Nat} {max : Option Nat} {greedy : Bool} {l : Level} {s s' : Reading}
  {fs : Flags} {properties : PropertyTable}

/-! ### Expressions -/

/-- A loop without pointless rounds keeps its bounds in order. -/
lemma IsBounded.repeated (hr : r.IsBounded) (hbounds : ∀ m, max = some m → min ≤ m) :
    (r.repeated min max greedy).IsBounded := by
  unfold Regex.repeated
  split
  next min' max' heq =>
    have hbounds' : ∀ m, max' = some m → min' ≤ m := by
      split at heq
      next =>
        obtain ⟨rfl, rfl⟩ := Prod.mk.inj heq
        rintro m hm
        obtain rfl := Option.some.inj hm
        cases max with
        | none => exact Nat.min_le_right _ _
        | some n =>
          have hn : min ≤ n := hbounds n rfl
          exact Nat.le_min.2 ⟨(Nat.min_le_left _ _).trans hn, Nat.min_le_right _ _⟩
      next =>
        obtain ⟨rfl, rfl⟩ := Prod.mk.inj heq
        exact hbounds
    split
    · exact trivial
    · split
      · exact hr
      · exact ⟨hr, hbounds'⟩

/-- Expressions one after the other. -/
lemma IsBounded.concatAll {rs : List Regex} (h : ∀ r ∈ rs, r.IsBounded) :
    (Regex.concatAll rs).IsBounded := by
  induction rs with
  | nil => exact trivial
  | cons r rs ih =>
    have hr := h r (List.mem_cons_self ..)
    have hrs := ih fun s hs => h s (List.mem_cons_of_mem _ hs)
    cases rs with
    | nil => exact hr
    | cons s rs => exact ⟨hr, hrs⟩

/-- Expressions to choose from. -/
lemma IsBounded.altAll {rs : List Regex} (h : ∀ r ∈ rs, r.IsBounded) :
    (Regex.altAll rs).IsBounded := by
  induction rs with
  | nil => exact trivial
  | cons r rs ih =>
    have hr := h r (List.mem_cons_self ..)
    have hrs := ih fun s hs => h s (List.mem_cons_of_mem _ hs)
    cases rs with
    | nil => exact hr
    | cons s rs => exact ⟨hr, hrs⟩

/-- A class has no loops. -/
lemma isBounded_of_charsOf? {k : CharClass} (h : charsOf? fs k = some r) : r.IsBounded := by
  unfold charsOf? at h
  split at h
  · obtain rfl := Option.some.inj h
    exact trivial
  · contradiction

/-- A character has no loops. -/
lemma isBounded_of_literalOf? {c : Char} {isByte : Bool} (h : literalOf? fs c isByte = some r) :
    r.IsBounded := by
  unfold literalOf? at h
  split at h
  · split at h
    · contradiction
    · obtain rfl := Option.some.inj h
      exact trivial
  · obtain rfl := Option.some.inj h
    exact trivial

/-- The dot has no loops. -/
lemma isBounded_of_dotOf? (h : dotOf? fs = some r) : r.IsBounded := by
  unfold dotOf? at h
  split at h
  · contradiction
  · obtain rfl := Option.some.inj h
    exact trivial

/-- What escapes stand for has no loops. -/
lemma isBounded_of_primitiveOf? {p : Primitive} (h : primitiveOf? fs p = some r) :
    r.IsBounded := by
  cases p with
  | literal c isByte => exact isBounded_of_literalOf? h
  | cls k negated => exact isBounded_of_charsOf? h
  | property set negated => exact isBounded_of_charsOf? h
  | _ =>
    obtain rfl := Option.some.inj h
    exact trivial

/-! ### Tokens -/

/-- The bounds of a loop are in order. -/
lemma le_of_bounds? {cs : List Char} (h : bounds? cs = some (min, max)) :
    ∀ m, max = some m → min ≤ m := by
  unfold bounds? at h
  dsimp only at h
  split at h
  next =>
    obtain ⟨n, -, heq⟩ := Option.map_eq_some_iff.1 h
    obtain ⟨rfl, rfl⟩ := Prod.mk.inj heq
    rintro m ⟨⟩
    exact le_rfl
  next =>
    obtain ⟨n, -, heq⟩ := Option.map_eq_some_iff.1 h
    obtain ⟨rfl, rfl⟩ := Prod.mk.inj heq
    rintro m ⟨⟩
  next =>
    obtain ⟨n, -, h⟩ := Option.bind_eq_some_iff.1 h
    obtain ⟨n', -, h⟩ := Option.bind_eq_some_iff.1 h
    split at h
    next hle =>
      cases h
      rintro m ⟨⟩
      exact hle
    next => contradiction

/-- The bounds of a token are in order, if it has bounds. -/
def Token.IsBounded : Token → Prop
  | quantifier min max _ => ∀ m, max = some m → min ≤ m
  | _ => True

/-- What opens a group has no bounds. -/
lemma isBounded_of_openGroup? {blanks : Bool} {cs rest : List Char} {t : Token}
    (h : openGroup? blanks cs = some (t, rest)) : t.IsBounded := by
  unfold openGroup? at h
  split at h
  case h_5 =>
    obtain ⟨e, -, heq⟩ := Option.map_eq_some_iff.1 h
    cases heq
    exact trivial
  case h_6 =>
    obtain ⟨e, -, heq⟩ := Option.map_eq_some_iff.1 h
    cases heq
    exact trivial
  case h_7 =>
    obtain ⟨e, -, h⟩ := Option.bind_eq_some_iff.1 h
    dsimp only at h
    split at h
    · cases h
      exact trivial
    · split at h
      · contradiction
      · cases h
        exact trivial
  case h_8 =>
    cases h
    exact trivial
  all_goals contradiction

/-- Whatever bounds a token has are in order. -/
lemma isBounded_of_token? {blanks : Bool} {cs rest : List Char} {t : Token}
    (h : token? properties blanks cs = some (t, rest)) : t.IsBounded := by
  unfold token? at h
  split at h
  case h_1 => contradiction
  case h_7 => exact isBounded_of_openGroup? h
  case h_8 =>
    obtain ⟨e, -, heq⟩ := Option.map_eq_some_iff.1 h
    cases heq
    exact trivial
  case h_11 =>
    cases h
    rintro m ⟨⟩
    exact Nat.zero_le 1
  case h_12 =>
    obtain ⟨⟨body, cs₁⟩, -, h⟩ := Option.bind_eq_some_iff.1 h
    obtain ⟨⟨min, max⟩, hbounds, h⟩ := Option.bind_eq_some_iff.1 h
    cases h
    exact le_of_bounds? hbounds
  case h_13 =>
    obtain ⟨e, -, heq⟩ := Option.map_eq_some_iff.1 h
    cases heq
    exact trivial
  all_goals
    cases h
    first
    | exact trivial
    | rintro m ⟨⟩

/-! ### The machine -/

/-- Whether the bounds of all loops in a group are in order. -/
structure Level.IsBounded (l : Level) : Prop where
  done : ∀ r ∈ l.done, r.IsBounded
  pieces : ∀ r, some r ∈ l.pieces → r.IsBounded

namespace Level.IsBounded

/-- The alternative that is being read. -/
lemma current (h : l.IsBounded) : l.current.IsBounded := by
  apply Regex.IsBounded.concatAll
  intro r hr
  obtain ⟨p, hp, hr⟩ := List.mem_filterMap.1 hr
  obtain rfl : p = some r := hr
  exact h.pieces r (List.mem_reverse.1 hp)

/-- All alternatives. -/
lemma result (h : l.IsBounded) : l.result.IsBounded := by
  apply Regex.IsBounded.altAll
  intro r hr
  rcases List.mem_cons.1 (List.mem_reverse.1 hr) with rfl | hr
  · exact h.current
  · exact h.done r hr

/-- One more piece. -/
lemma push (h : l.IsBounded) {p : Piece} (hp : ∀ r, p = some r → r.IsBounded) :
    (l.push p).IsBounded where
  done := h.done
  pieces := by
    intro r hr
    rcases List.mem_cons.1 hr with heq | hr
    · exact hp r heq.symm
    · exact h.pieces r hr

/-- One more alternative. -/
lemma nextAlternative (h : l.IsBounded) : l.nextAlternative.IsBounded where
  done := by
    intro r hr
    rcases List.mem_cons.1 hr with rfl | hr
    · exact h.current
    · exact h.done r hr
  pieces := by
    intro r hr
    contradiction

/-- A group in which nothing has been read. -/
lemma empty : Level.IsBounded {} where
  done := by
    intro r hr
    contradiction
  pieces := by
    intro r hr
    contradiction

end Level.IsBounded

/-- Whether the bounds of all loops that have been read are in order. -/
structure Reading.IsBounded (s : Reading) : Prop where
  level : s.level.IsBounded
  groups : ∀ g ∈ s.groups, g.outer.IsBounded

namespace Reading.IsBounded

/-- One more expression. -/
lemma push (h : s.IsBounded) (hr : r.IsBounded) : (s.push r).IsBounded where
  level := h.level.push fun _ heq => Option.some.inj heq ▸ hr
  groups := h.groups

/-- One more group. -/
lemma enter (h : s.IsBounded) (index : Option Nat) (flags : Flags) :
    (s.enter index flags).IsBounded where
  level := Level.IsBounded.empty
  groups := by
    intro g hg
    rcases List.mem_cons.1 hg with rfl | hg
    · exact h.level
    · exact h.groups g hg

/-- One more token. -/
lemma step (h : s.IsBounded) {t : Token} (ht : t.IsBounded) (hstep : s.step? t = some s') :
    s'.IsBounded := by
  cases t with
  | primitive p =>
    obtain ⟨r, hr, rfl⟩ := Option.map_eq_some_iff.1 hstep
    exact h.push (isBounded_of_primitiveOf? hr)
  | dot =>
    obtain ⟨r, hr, rfl⟩ := Option.map_eq_some_iff.1 hstep
    exact h.push (isBounded_of_dotOf? hr)
  | caret =>
    obtain rfl := Option.some.inj hstep
    exact h.push trivial
  | dollar =>
    obtain rfl := Option.some.inj hstep
    exact h.push trivial
  | bracket k =>
    obtain ⟨r, hr, rfl⟩ := Option.map_eq_some_iff.1 hstep
    exact h.push (isBounded_of_charsOf? hr)
  | openGroup name =>
    have henter := h.enter (some s.nextIndex) s.flags
    cases name with
    | none =>
      obtain rfl := Option.some.inj hstep
      exact ⟨henter.level, henter.groups⟩
    | some n =>
      simp only [Reading.step?] at hstep
      split at hstep
      · contradiction
      · obtain rfl := Option.some.inj hstep
        exact ⟨henter.level, henter.groups⟩
  | openFlags changes =>
    obtain rfl := Option.some.inj hstep
    exact h.enter _ _
  | setFlags changes =>
    obtain rfl := Option.some.inj hstep
    exact ⟨h.level.push (fun _ heq => by contradiction), h.groups⟩
  | close =>
    simp only [Reading.step?] at hstep
    split at hstep
    next => contradiction
    next g groups hgroups =>
      obtain rfl := Option.some.inj hstep
      have hg := h.groups g (hgroups ▸ List.mem_cons_self ..)
      constructor
      · apply hg.push
        intro r hr
        obtain rfl := Option.some.inj hr
        split
        · exact h.level.result
        · exact h.level.result
      · intro g' hg'
        exact h.groups g' (hgroups ▸ List.mem_cons_of_mem _ hg')
  | bar =>
    obtain rfl := Option.some.inj hstep
    exact ⟨h.level.nextAlternative, h.groups⟩
  | quantifier min max isLazy =>
    simp only [Reading.step?, Reading.quantify?] at hstep
    split at hstep
    next r rest hpieces =>
      obtain rfl := Option.some.inj hstep
      refine ⟨⟨h.level.done, ?_⟩, h.groups⟩
      intro r' hr'
      rcases List.mem_cons.1 hr' with heq | hr'
      · obtain rfl := Option.some.inj heq
        exact (h.level.pieces r (hpieces ▸ List.mem_cons_self ..)).repeated ht
      · exact h.level.pieces r' (hpieces ▸ List.mem_cons_of_mem _ hr')
    next => contradiction

/-- A whole text. -/
lemma run {fuel : Nat} {cs : List Char} (h : s.IsBounded)
    (hrun : run? properties fuel s cs = some s') : s'.IsBounded := by
  induction fuel generalizing s cs with
  | zero =>
    rw [run?] at hrun
    contradiction
  | succ fuel ih =>
    rw [run?] at hrun
    split at hrun
    next =>
      obtain rfl := Option.some.inj hrun
      exact h
    next =>
      obtain ⟨⟨t, rest⟩, ht, hrun⟩ := Option.bind_eq_some_iff.1 hrun
      obtain ⟨s₁, hstep, hrun⟩ := Option.bind_eq_some_iff.1 hrun
      exact ih (h.step (isBounded_of_token? ht) hstep) hrun

end Reading.IsBounded

end Regex

end Intercept
