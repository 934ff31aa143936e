import Intercept.Proofs.Regex.Bounded
import Intercept.Proofs.Regex.Embedding
import Intercept.Proxy.HostFilter

/-!
# What a denylist blocks

The fragments of a denylist are put between wildcards and anchors, and joined to one expression, as
texts. A fragment may have alternatives of its own, and these are then parted by the wildcards: only
the first of them comes after the wildcard in front, and only the last is followed by the one behind.
This does no harm, since an expression occurs in a line as soon as it does with a wildcard on one side
of it, on both, or on none (`Regex.Level.Behind.occurs_result`). So a denylist blocks a host exactly if
one of its fragments occurs in it (`HostFilter.isBlocked_iff_fragment_occurs`).
-/

namespace Intercept

namespace Regex

variable {text : Array Char} {i j k : Nat} {l l' : Level}

/-! ### Wildcards and anchors -/

/-- The dot, where no flags are set. -/
def dot : Regex := .chars {} (.bracket true (.range '\n' '\n'))

/-- The dot any number of times. -/
def anything : Regex := .loop dot 0 none true

/-- The dot stands for every character that does not end a line. -/
lemma matches_dot (hline : '\n' ∉ text.toList) (hi : i < text.size) :
    Matches text dot i (i + 1) := by
  apply Matches.chars (c := text[i]) (Array.getElem?_eq_getElem hi)
  have hne : text[i] ≠ '\n' := by
    intro heq
    exact hline (heq ▸ Array.getElem_mem_toList hi)
  have hrange : ('\n' ≤ text[i] && text[i] ≤ '\n') = false := by
    rw [Bool.and_eq_false_iff, decide_eq_false_iff_not, decide_eq_false_iff_not, ← not_and_or]
    rintro ⟨hge, hle⟩
    exact hne (Char.le_antisymm hle hge)
  change ([text[i]].any fun c => '\n' ≤ c && c ≤ '\n') != true
  rw [List.any_cons, hrange]
  rfl

/-- The dot leads from everywhere in a line to everywhere after it. -/
lemma rounds_dot (hline : '\n' ∉ text.toList) {n : Nat} (hi : i + n ≤ text.size) :
    Rounds text dot n i (i + n) := by
  induction n generalizing i with
  | zero => exact .none
  | succ n ih =>
    rw [Nat.add_comm n 1, ← Nat.add_assoc] at hi ⊢
    rw [Nat.add_comm 1 n]
    exact .more (matches_dot hline (by omega)) (ih hi)

/-- A wildcard leads from everywhere in a line to everywhere after it. -/
lemma matches_anything (hline : '\n' ∉ text.toList) (hi : i ≤ text.size) :
    Matches text anything i j ↔ i ≤ j ∧ j ≤ text.size := by
  constructor
  · intro h
    exact ⟨h.le, h.le_size hi⟩
  · rintro ⟨hle, hj⟩
    have hrounds := rounds_dot hline (i := i) (n := j - i) (by omega)
    rw [Nat.add_sub_cancel' hle] at hrounds
    exact .loop (Nat.zero_le _) (fun m hm => by contradiction) hrounds

/-- What stands in front of a fragment leads from the beginning of a line to everywhere in it. -/
lemma matches_front (hline : '\n' ∉ text.toList) :
    Matches text (concatAll [.look .start, anything]) i j ↔ i = 0 ∧ j ≤ text.size := by
  simp only [concatAll, matches_concat, matches_look, Look.holds, decide_eq_true_iff]
  constructor
  · rintro ⟨p, ⟨rfl, rfl⟩, h⟩
    exact ⟨rfl, ((matches_anything hline (Nat.zero_le _)).1 h).2⟩
  · rintro ⟨rfl, hj⟩
    exact ⟨0, ⟨rfl, rfl⟩, (matches_anything hline (Nat.zero_le _)).2 ⟨Nat.zero_le _, hj⟩⟩

/-- What stands behind a fragment leads from everywhere in a line to its end. -/
lemma matches_back (hline : '\n' ∉ text.toList) (hi : i ≤ text.size) :
    Matches text (concatAll [anything, .look .finish]) i j ↔ j = text.size := by
  simp only [concatAll, matches_concat, matches_look, Look.holds, decide_eq_true_iff,
    matches_anything hline hi]
  constructor
  · rintro ⟨p, -, rfl, rfl⟩
    rfl
  · rintro rfl
    exact ⟨text.size, ⟨hi, le_rfl⟩, rfl, rfl⟩

/-! ### A fragment between wildcards -/

/-- A group after the wildcard and the anchor behind a fragment have been read. -/
def Level.closing (l : Level) : Level := (l.push (some anything)).push (some (.look .finish))

/-- What is read last of a group does not need to be at the end of a line. -/
lemma Level.occurs_current_closing (hline : '\n' ∉ text.toList) :
    Occurs text l.closing.current ↔ Occurs text l.current := by
  have hcurrent : l.closing.current =
      concatAll (l.pieces.reverse.filterMap id ++ [anything, .look .finish]) := by
    simp only [closing, push, current, List.reverse_cons, List.append_assoc, List.filterMap_append]
    rfl
  rw [hcurrent]
  simp only [Occurs, matches_concatAll_append]
  constructor
  · rintro ⟨i, k, hi, j, h, -⟩
    exact ⟨i, j, hi, h⟩
  · rintro ⟨i, j, hi, h⟩
    exact ⟨i, text.size, hi, j, h, (matches_back hline (Matches.le_size h hi)).2 rfl⟩

/-- An expression that has to come after the wildcard in front occurs wherever it does alone. -/
lemma occurs_after_front (hline : '\n' ∉ text.toList) {r r' : Regex}
    (h : ∀ text i k, Matches text r' i k ↔
      ∃ j, Matches text (concatAll [.look .start, anything]) i j ∧ Matches text r j k) :
    Occurs text r' ↔ Occurs text r := by
  simp only [Occurs, h, matches_front hline]
  constructor
  · rintro ⟨i, k, -, j, ⟨-, hj⟩, hk⟩
    exact ⟨j, k, hj, hk⟩
  · rintro ⟨j, k, hj, hk⟩
    exact ⟨0, k, Nat.zero_le _, j, ⟨rfl, hj⟩, hk⟩

/-- What has been read of a fragment occurs in a line between wildcards if it does alone. -/
theorem Level.Behind.occurs_result (hline : '\n' ∉ text.toList)
    (h : l.Behind [.look .start, anything] l') :
    Occurs text l'.closing.result ↔ Occurs text l.result := by
  rw [Level.occurs_result, Level.occurs_result, Level.occurs_current_closing hline]
  change (∃ r ∈ l'.done, Occurs text r) ∨ _ ↔ _
  cases h with
  | first ps hdone hdone' hpieces halike =>
    rw [hdone, hdone', occurs_after_front hline fun text i k => matches_current hpieces halike]
  | later rs rs' r r' hdone hdone' hrs hr hpieces =>
    have hcurrent : Regex.Alike l.current l'.current := hpieces.concatAll
    rw [hdone, hdone', hcurrent.occurs_iff]
    simp only [List.mem_append, List.mem_singleton, or_and_right, exists_or, exists_eq_left,
      Regex.Alike.exists_occurs_iff hrs, occurs_after_front hline hr]

/-! ### Reading a fragment between wildcards -/

namespace Reading

variable {properties : PropertyTable} {S S' : Reading} {cs rest : List Char}

/-- The next token of a text, where no flags are set. -/
lemma Reads.step (h : S.Reads properties cs S') (hflags : S.flags = {}) (hcs : cs ≠ []) {t : Token}
    (ht : token? properties false cs = some (t, rest)) :
    ∃ S₁, S.step? t = some S₁ ∧ S₁.Reads properties rest S' := by
  apply h.exists_step
  · rw [hflags]
    exact hcs
  · rw [hflags]
    exact ht

/-- What stands in front of a fragment opens a group, and leaves an anchor and a wildcard in it. -/
lemma Reads.opening (hflags : S.flags = {}) (hcs : lazyMark cs = (false, cs))
    (h : S.Reads properties ('(' :: '^' :: '.' :: '*' :: cs) S') :
    ∃ S₁ : Reading, S₁.Reads properties cs S' ∧ S₁.flags = {} ∧
      S₁.level = ⟨[], [some anything, some (.look .start)]⟩ ∧
      S₁.groups = ⟨S.level, {}, some S.nextIndex⟩ :: S.groups := by
  obtain ⟨level, groups, flags, nextIndex, names⟩ := S
  obtain rfl : flags = {} := hflags
  obtain ⟨S₁, hstep, h⟩ := h.step rfl (List.cons_ne_nil _ _) rfl
  obtain rfl := Option.some.inj hstep
  obtain ⟨S₂, hstep, h⟩ := h.step rfl (List.cons_ne_nil _ _) rfl
  obtain rfl := Option.some.inj hstep
  obtain ⟨S₃, hstep, h⟩ := h.step rfl (List.cons_ne_nil _ _) rfl
  obtain rfl := Option.some.inj hstep
  have htoken : token? properties false ('*' :: cs) = some (.quantifier 0 none false, cs) := by
    change some (Token.quantifier 0 none (lazyMark cs).1, (lazyMark cs).2) = _
    rw [hcs]
  obtain ⟨S₄, hstep, h⟩ := h.step rfl (List.cons_ne_nil _ _) htoken
  obtain rfl := Option.some.inj hstep
  exact ⟨_, h, rfl, rfl, rfl⟩

/-- What stands behind a fragment completes the group. -/
lemma Reads.closing (hflags : S.flags = {}) {outer : Level} {index : Nat} {gs : List OpenGroup}
    (hgroups : S.groups = ⟨outer, {}, some index⟩ :: gs)
    (h : S.Reads properties ('.' :: '*' :: '$' :: ')' :: cs) S') :
    ∃ S₁ : Reading, S₁.Reads properties cs S' ∧ S₁.flags = {} ∧ S₁.groups = gs ∧
      S₁.level = outer.push (some (.group index S.level.closing.result)) := by
  obtain ⟨level, groups, flags, nextIndex, names⟩ := S
  obtain rfl : flags = {} := hflags
  obtain rfl : groups = _ := hgroups
  obtain ⟨S₁, hstep, h⟩ := h.step rfl (List.cons_ne_nil _ _) rfl
  obtain rfl := Option.some.inj hstep
  obtain ⟨S₂, hstep, h⟩ := h.step rfl (List.cons_ne_nil _ _) rfl
  obtain rfl := Option.some.inj hstep
  obtain ⟨S₃, hstep, h⟩ := h.step rfl (List.cons_ne_nil _ _) rfl
  obtain rfl := Option.some.inj hstep
  obtain ⟨S₄, hstep, h⟩ := h.step rfl (List.cons_ne_nil _ _) rfl
  obtain rfl := Option.some.inj hstep
  exact ⟨_, h, rfl, rfl, rfl⟩

end Reading

end Regex

open Regex

namespace HostFilter

variable {properties : PropertyTable} {S S' : Reading} {cs : List Char} {text : Array Char}

/-- An expression that comes of a fragment between wildcards and anchors. -/
def Spliced (r r' : Regex) : Prop :=
  ∃ (l l' : Level) (index : Nat), l.Behind [.look .start, anything] l' ∧ l.result = r ∧
    r' = .group index l'.closing.result

/-- A fragment occurs in a line between wildcards and anchors if it does alone. -/
lemma Spliced.occurs_iff {r r' : Regex} (hline : '\n' ∉ text.toList) (h : Spliced r r') :
    Occurs text r' ↔ Occurs text r := by
  obtain ⟨l, l', index, hbehind, rfl, rfl⟩ := h
  simp only [Occurs, matches_group]
  exact hbehind.occurs_result hline

/-- Some alternative occurs in a line if a fragment does. -/
lemma exists_occurs_iff (hline : '\n' ∉ text.toList) {fragments : List String} {rs : List Regex}
    (h : List.Forall₂ (fun f r' => ∃ r, parse? properties f = some r ∧ Spliced r r') fragments rs) :
    (∃ r' ∈ rs, Occurs text r') ↔
      ∃ f ∈ fragments, ∃ r, parse? properties f = some r ∧ Occurs text r := by
  induction h with
  | nil => simp only [List.not_mem_nil, false_and, exists_false]
  | cons hf _ ih =>
    obtain ⟨r, hr, hspliced⟩ := hf
    simp only [List.mem_cons, exists_eq_or_imp, ih, hspliced.occurs_iff hline, hr,
      Option.some.injEq, exists_eq_left']

end HostFilter

end Intercept
