import Intercept.Proofs.Regex.Alike
import Intercept.Proofs.Regex.Tokens

/-!
# An expression inside another

A text that spells an expression is put into a longer one, behind some pieces of an alternative and
in front of a dot. The machine that reads the longer text does with this part of it what the machine
does that reads the part alone: the groups that are opened in the part lie above the groups that were
open before, and what is outside all groups of the part is added to the pieces in front of it. Bars
of the part end the alternative that these pieces belong to, so only the first alternative of the
part comes after them (`Level.Behind`). That this goes on from token to token is
`Reading.Within.run`.

Flags must not be set in the part, because outside its groups they would be in force after it.
-/

namespace Intercept

namespace Regex

variable {front : List Regex} {base : List OpenGroup} {l l' : Level} {s s' S S' : Reading}
  {fs : Flags} {gs gs' : List OpenGroup} {properties : PropertyTable}

/-! ### Texts that set flags -/

/-- Whether a token sets flags for what comes after it. -/
def Token.setsFlags : Token → Bool
  | setFlags _ => true
  | _ => false

/-- The tokens that are taken in of a text. -/
def Reading.tokens (properties : PropertyTable) : Nat → Reading → List Char → List Token
  | 0, _, _ => []
  | fuel + 1, s, cs =>
    match skipIf s.flags.ignoreBlanks cs with
    | [] => []
    | cs =>
      match token? properties s.flags.ignoreBlanks cs with
      | none => []
      | some (t, cs) =>
        match s.step? t with
        | none => [t]
        | some s => t :: tokens properties fuel s cs

/-- Whether a text sets flags for what comes after them, and not just inside a group. -/
def setsFlags (properties : PropertyTable) (pattern : String) : Bool :=
  (Reading.tokens properties (pattern.length + 1) {} pattern.toList).any Token.setsFlags

/-! ### Pieces in front -/

/-- `Behind front l l'` says that `l'` is what `l` is, but behind some pieces in front. As long as there
is one alternative they are in front of it; later they are part of the first alternative. -/
inductive Level.Behind (front : List Regex) (l l' : Level) : Prop
  | first (ps : List Piece) : l.done = [] → l'.done = [] →
      l'.pieces = ps ++ (front.map some).reverse → PiecesAlike l.pieces ps → Behind front l l'
  | later (rs rs' : List Regex) (r r' : Regex) : l.done = rs ++ [r] → l'.done = rs' ++ [r'] →
      List.Forall₂ Regex.Alike rs rs' →
      (∀ text i k, Matches text r' i k ↔
        ∃ j, Matches text (concatAll front) i j ∧ Matches text r j k) →
      PiecesAlike l.pieces l'.pieces → Behind front l l'

namespace Level.Behind

/-- One more piece. -/
lemma push (h : l.Behind front l') {p p' : Piece} (hp : Option.Rel Regex.Alike p p') :
    (l.push p).Behind front (l'.push p') := by
  cases h with
  | first ps hdone hdone' hpieces halike =>
    exact first (p' :: ps) hdone hdone' (congrArg (p' :: ·) hpieces) (.cons hp halike)
  | later rs rs' r r' hdone hdone' hrs hr hpieces =>
    exact later rs rs' r r' hdone hdone' hrs hr (.cons hp hpieces)

/-- The alternative that is being read, while there is no other. -/
lemma matches_current {text : Array Char} {i k : Nat} {ps : List Piece}
    (hpieces : l'.pieces = ps ++ (front.map some).reverse) (halike : PiecesAlike l.pieces ps) :
    Matches text l'.current i k ↔
      ∃ j, Matches text (concatAll front) i j ∧ Matches text l.current j k := by
  have hfront : (front.map some).filterMap id = front := by
    rw [List.filterMap_map]
    exact List.filterMap_some
  have hcurrent : l'.current = concatAll (front ++ ps.reverse.filterMap id) := by
    rw [current, hpieces, List.reverse_append, List.reverse_reverse, List.filterMap_append, hfront]
  rw [hcurrent, matches_concatAll_append]
  simp only [PiecesAlike.concatAll halike |>.matches_iff]
  rfl

/-- One more alternative. -/
lemma nextAlternative (h : l.Behind front l') :
    l.nextAlternative.Behind front l'.nextAlternative := by
  cases h with
  | first ps hdone hdone' hpieces halike =>
    refine later [] [] l.current l'.current ?_ ?_ .nil ?_ .nil
    · exact congrArg (l.current :: ·) hdone
    · exact congrArg (l'.current :: ·) hdone'
    · intro text i k
      exact matches_current hpieces halike
  | later rs rs' r r' hdone hdone' hrs hr hpieces =>
    refine later (l.current :: rs) (l'.current :: rs') r r' ?_ ?_ ?_ hr .nil
    · exact congrArg (l.current :: ·) hdone
    · exact congrArg (l'.current :: ·) hdone'
    · exact .cons hpieces.concatAll hrs

/-- The last piece is there in both groups, and may be replaced. -/
lemma exists_last (h : l.Behind front l') {r : Regex} {ps : List Piece}
    (hlast : l.pieces = some r :: ps) :
    ∃ r' ps', l'.pieces = some r' :: ps' ∧ Regex.Alike r r' ∧ ∀ q q', Regex.Alike q q' →
      Behind front { l with pieces := some q :: ps } { l' with pieces := some q' :: ps' } := by
  cases h with
  | first qs hdone hdone' hpieces halike =>
    obtain ⟨r', qs', rfl, hr, hps⟩ := PiecesAlike.exists_cons (hlast ▸ halike)
    refine ⟨r', qs' ++ (front.map some).reverse, hpieces, hr, fun q q' hq => ?_⟩
    exact first (some q' :: qs') hdone hdone' rfl (.cons (.some hq) hps)
  | later rs rs' a a' hdone hdone' hrs ha hpieces =>
    obtain ⟨r', qs', hqs', hr, hps⟩ := PiecesAlike.exists_cons (hlast ▸ hpieces)
    refine ⟨r', qs', hqs', hr, fun q q' hq => ?_⟩
    exact later rs rs' a a' hdone hdone' hrs ha (.cons (.some hq) hps)

end Level.Behind

/-! ### Groups in between -/

/-- What has been read of a group and of those around it, in the part alone and in the longer text: the
groups are alike one by one, until the outermost of the part, which is behind the pieces in front and
in which no flags are set. -/
inductive Nested (front : List Regex) (base : List OpenGroup) :
    Flags → Level → List OpenGroup → Level → List OpenGroup → Prop
  | outermost {l l' : Level} : l.Behind front l' → Nested front base {} l [] l' base
  | inside {fs : Flags} {l l' : Level} {g g' : OpenGroup} {gs gs' : List OpenGroup} : l.Alike l' →
      g'.flags = g.flags → g'.index.isSome = g.index.isSome →
      Nested front base g.flags g.outer gs g'.outer gs' →
      Nested front base fs l (g :: gs) l' (g' :: gs')

namespace Nested

/-- One more piece. -/
lemma push (h : Nested front base fs l gs l' gs') {p p' : Piece} (hp : Option.Rel Alike p p') :
    Nested front base fs (l.push p) gs (l'.push p') gs' := by
  cases h with
  | outermost hl => exact .outermost (hl.push hp)
  | inside hl hflags hindex hrest => exact .inside (hl.push hp) hflags hindex hrest

/-- One more alternative. -/
lemma nextAlternative (h : Nested front base fs l gs l' gs') :
    Nested front base fs l.nextAlternative gs l'.nextAlternative gs' := by
  cases h with
  | outermost hl => exact .outermost hl.nextAlternative
  | inside hl hflags hindex hrest => exact .inside hl.nextAlternative hflags hindex hrest

/-- The last piece is there in both groups, and may be replaced. -/
lemma exists_last (h : Nested front base fs l gs l' gs') {r : Regex} {ps : List Piece}
    (hlast : l.pieces = some r :: ps) :
    ∃ r' ps', l'.pieces = some r' :: ps' ∧ Alike r r' ∧ ∀ q q', Alike q q' →
      Nested front base fs { l with pieces := some q :: ps } gs
        { l' with pieces := some q' :: ps' } gs' := by
  cases h with
  | outermost hl =>
    obtain ⟨r', ps', hps', hr, hreplace⟩ := hl.exists_last hlast
    exact ⟨r', ps', hps', hr, fun q q' hq => .outermost (hreplace q q' hq)⟩
  | inside hl hflags hindex hrest =>
    obtain ⟨r', ps', hps', hr, hreplace⟩ := hl.exists_last hlast
    exact ⟨r', ps', hps', hr, fun q q' hq => .inside (hreplace q q' hq) hflags hindex hrest⟩

end Nested

namespace Reading

/-- The state of the machine that reads the part alone, and of the one that reads it in the longer
text. -/
structure Within (front : List Regex) (base : List OpenGroup) (s S : Reading) : Prop where
  flags : S.flags = s.flags
  nested : Nested front base s.flags s.level s.groups S.level S.groups

namespace Within

/-- One more expression. -/
lemma push (h : Within front base s S) (r : Regex) : Within front base (s.push r) (S.push r) :=
  ⟨h.flags, h.nested.push (.some (Alike.refl r))⟩

/-- One more group. -/
lemma enter (h : Within front base s S) {index index' : Option Nat}
    (hindex : index'.isSome = index.isSome) (fs : Flags) :
    Within front base (s.enter index fs) (S.enter index' fs) where
  flags := rfl
  nested := .inside Level.Alike.empty h.flags hindex h.nested

/-- A repeated piece. -/
lemma quantify (h : Within front base s S) {min : Nat} {max : Option Nat} {isLazy : Bool}
    (hs : s.quantify? min max isLazy = some s') (hS : S.quantify? min max isLazy = some S') :
    Within front base s' S' := by
  unfold quantify? at hs
  split at hs
  next r ps hlast =>
    obtain rfl := Option.some.inj hs
    obtain ⟨r', ps', hlast', hr, hreplace⟩ := h.nested.exists_last hlast
    rw [quantify?, hlast'] at hS
    obtain rfl := Option.some.inj hS
    refine ⟨h.flags, ?_⟩
    dsimp only
    rw [h.flags]
    exact hreplace _ _ hr.repeated
  next => contradiction

/-- One more expression, if there is one. -/
lemma push? (h : Within front base s S) {r? : Option Regex} (hs : r?.map s.push = some s')
    (hS : r?.map S.push = some S') : Within front base s' S' := by
  obtain ⟨r, rfl, rfl⟩ := Option.map_eq_some_iff.1 hs
  obtain rfl := Option.some.inj hS
  exact h.push r

/-- The end of a group. -/
lemma close (h : Within front base s S) (hs : s.step? .close = some s')
    (hS : S.step? .close = some S') : Within front base s' S' := by
  obtain ⟨level, groups, flags, nextIndex, names⟩ := s
  obtain ⟨level', groups', flags', nextIndex', names'⟩ := S
  obtain ⟨rfl, hnested⟩ := h
  cases hnested with
  | outermost hl => contradiction
  | inside hl hflags hindex hrest =>
    obtain rfl := Option.some.inj hs
    obtain rfl := Option.some.inj hS
    refine ⟨hflags, hrest.push (.some ?_)⟩
    dsimp only
    split
    next i hi =>
      rw [hi, Option.isSome_some, Option.isSome_iff_exists] at hindex
      obtain ⟨i', hi'⟩ := hindex
      rw [hi']
      exact hl.result.group i i'
    next hi =>
      rw [hi, Option.isSome_none, Option.isSome_eq_false_iff, Option.isNone_iff_eq_none] at hindex
      rw [hindex]
      exact hl.result

/-- One more token. -/
lemma step (h : Within front base s S) {t : Token} (ht : t.setsFlags = false)
    (hs : s.step? t = some s') (hS : S.step? t = some S') : Within front base s' S' := by
  cases t with
  | primitive p =>
    simp only [step?, h.flags] at hs hS
    exact h.push? hs hS
  | dot =>
    simp only [step?, h.flags] at hs hS
    exact h.push? hs hS
  | caret =>
    simp only [step?, h.flags] at hs hS
    obtain rfl := Option.some.inj hs
    obtain rfl := Option.some.inj hS
    exact h.push _
  | dollar =>
    simp only [step?, h.flags] at hs hS
    obtain rfl := Option.some.inj hs
    obtain rfl := Option.some.inj hS
    exact h.push _
  | bracket k =>
    simp only [step?, h.flags] at hs hS
    exact h.push? hs hS
  | openGroup name =>
    have hindex : (some S.nextIndex).isSome = (some s.nextIndex).isSome := rfl
    have henter := h.enter hindex s.flags
    cases name with
    | none =>
      simp only [step?, h.flags] at hs hS
      obtain rfl := Option.some.inj hs
      obtain rfl := Option.some.inj hS
      exact ⟨henter.flags, henter.nested⟩
    | some n =>
      simp only [step?, h.flags] at hs hS
      split at hs
      · contradiction
      · split at hS
        · contradiction
        · obtain rfl := Option.some.inj hs
          obtain rfl := Option.some.inj hS
          exact ⟨henter.flags, henter.nested⟩
  | openFlags changes =>
    simp only [step?, h.flags] at hs hS
    obtain rfl := Option.some.inj hs
    obtain rfl := Option.some.inj hS
    exact h.enter rfl _
  | setFlags changes => contradiction
  | close => exact h.close hs hS
  | bar =>
    obtain rfl := Option.some.inj hs
    obtain rfl := Option.some.inj hS
    exact ⟨h.flags, h.nested.nextAlternative⟩
  | quantifier min max isLazy => exact h.quantify hs hS

/-- Outside all groups of the part no flags are in force. -/
lemma outermost (h : Within front base s S) (hgroups : s.groups = []) :
    s.flags = {} ∧ S.groups = base ∧ s.level.Behind front S.level := by
  obtain ⟨level, groups, flags, nextIndex, names⟩ := s
  obtain ⟨level', groups', flags', nextIndex', names'⟩ := S
  obtain ⟨rfl, hnested⟩ := h
  obtain rfl : groups = [] := hgroups
  cases hnested with
  | outermost hl => exact ⟨rfl, rfl, hl⟩

end Within

/-- `S.Reads properties cs S'` says that the machine gets from one state to another when it reads a
text, given enough budget. -/
def Reads (properties : PropertyTable) (S : Reading) (cs : List Char) (S' : Reading) : Prop :=
  ∃ n, run? properties n S cs = some S'

/-- Nothing is taken in of a text that has come to its end. -/
lemma Reads.eq_of_nil (h : S.Reads properties [] S') : S' = S := by
  obtain ⟨n, hrun⟩ := h
  cases n with
  | zero =>
    rw [run?] at hrun
    contradiction
  | succ n =>
    have hskip : skipIf S.flags.ignoreBlanks [] = [] := by
      cases S.flags.ignoreBlanks <;> rfl
    rw [run?, hskip] at hrun
    exact (Option.some.inj hrun).symm

/-- A text that has not come to its end goes on with a token. -/
lemma exists_step_of_run? {n : Nat} {cs : List Char} (hskip : skipIf s.flags.ignoreBlanks cs ≠ [])
    (h : run? properties n s cs = some s') :
    ∃ m t rest s₁, n = m + 1 ∧
      token? properties s.flags.ignoreBlanks (skipIf s.flags.ignoreBlanks cs) = some (t, rest) ∧
      s.step? t = some s₁ ∧ run? properties m s₁ rest = some s' := by
  cases n with
  | zero =>
    rw [run?] at h
    contradiction
  | succ m =>
    rw [run?] at h
    split at h
    next hnil => contradiction
    next =>
      obtain ⟨⟨t, rest⟩, ht, h⟩ := Option.bind_eq_some_iff.1 h
      obtain ⟨s₁, hstep, h⟩ := Option.bind_eq_some_iff.1 h
      exact ⟨m, t, rest, s₁, rfl, ht, hstep, h⟩

/-- A text goes on with the token at its front. -/
lemma Reads.exists_step {cs rest : List Char} {t : Token} (h : S.Reads properties cs S')
    (hskip : skipIf S.flags.ignoreBlanks cs ≠ [])
    (ht : token? properties S.flags.ignoreBlanks (skipIf S.flags.ignoreBlanks cs) = some (t, rest)) :
    ∃ S₁, S.step? t = some S₁ ∧ S₁.Reads properties rest S' := by
  obtain ⟨n, hrun⟩ := h
  obtain ⟨m, t', rest', S₁, -, ht', hstep, hrun⟩ := exists_step_of_run? hskip hrun
  rw [ht] at ht'
  obtain ⟨rfl, rfl⟩ := Prod.mk.inj (Option.some.inj ht')
  exact ⟨S₁, hstep, m, hrun⟩

/-- The tokens of a text that goes on with a token. -/
lemma tokens_succ {m : Nat} {cs rest : List Char} {t : Token}
    (hskip : skipIf s.flags.ignoreBlanks cs ≠ [])
    (ht : token? properties s.flags.ignoreBlanks (skipIf s.flags.ignoreBlanks cs) = some (t, rest))
    (hstep : s.step? t = some s') :
    tokens properties (m + 1) s cs = t :: tokens properties m s' rest := by
  rw [tokens]
  split
  next hnil => contradiction
  next =>
    rw [ht]
    dsimp only
    rw [hstep]

/-- A quantifier opens no group and closes none. -/
lemma groups_of_isQuantifier {t : Token} (ht : t.isQuantifier = true) (h : s.step? t = some s') :
    s'.groups = s.groups := by
  cases t with
  | quantifier min max isLazy =>
    simp only [step?, quantify?] at h
    split at h
    · obtain rfl := Option.some.inj h
      rfl
    · contradiction
  | _ => contradiction

/-- The part of a longer text that spells an expression is read as if it stood alone, and then comes
the dot. -/
theorem Within.run {n : Nat} {cs x : List Char} {S'' : Reading} (h : Within front base s S)
    (hs : run? properties n s cs = some s') (hgroups : s'.groups = [])
    (htokens : ∀ t ∈ tokens properties n s cs, t.setsFlags = false)
    (hS : S.Reads properties (cs ++ '.' :: x) S'') :
    ∃ S', Within front base s' S' ∧ S'.Reads properties ('.' :: x) S'' := by
  induction n generalizing s S cs with
  | zero =>
    rw [run?] at hs
    contradiction
  | succ n ih =>
    by_cases hskip : skipIf s.flags.ignoreBlanks cs = []
    · rw [run?, hskip] at hs
      obtain rfl := Option.some.inj hs
      have hcs : cs = [] := by
        rw [(h.outermost hgroups).1] at hskip
        exact hskip
      subst hcs
      exact ⟨S, h, hS⟩
    · obtain ⟨n', t, rest, s₁, hn, ht, hstep, hs⟩ := exists_step_of_run? hskip hs
      obtain rfl := Nat.succ.inj hn
      rw [tokens_succ hskip ht hstep] at htokens
      have hrest : rest = [] → t ≠ .openGroup none ∧
          (t.isQuantifier = true → s.flags.ignoreBlanks = false) := by
        rintro rfl
        rw [Reads.eq_of_nil ⟨n, hs⟩] at hgroups
        constructor
        -- a parenthesis at the end would leave a group open
        · rintro rfl
          obtain rfl := Option.some.inj hstep
          contradiction
        · intro ht
          rw [(h.outermost ((groups_of_isQuantifier ht hstep).symm.trans hgroups)).1]
      have hskip' : skipIf S.flags.ignoreBlanks (cs ++ '.' :: x) =
          skipIf s.flags.ignoreBlanks cs ++ '.' :: x := by
        rw [h.flags]
        exact skipIf_append hskip _
      have htoken : token? properties S.flags.ignoreBlanks
          (skipIf S.flags.ignoreBlanks (cs ++ '.' :: x)) = some (t, rest ++ '.' :: x) := by
        rw [hskip', h.flags]
        exact token?_append ht hrest x
      obtain ⟨S₁, hstep', hS⟩ :=
        hS.exists_step (hskip'.symm ▸ List.append_ne_nil_of_left_ne_nil hskip _) htoken
      have hflags := htokens t (List.mem_cons_self ..)
      exact ih (h.step hflags hstep hstep') hs (fun u hu => htokens u (List.mem_cons_of_mem _ hu)) hS

end Reading

end Regex

end Intercept
