import Intercept.Document.Path
import Mathlib.Data.List.Nodup
import Mathlib.Tactic.Common

/-!
# Fields and their paths

A field of a document that is reached through objects alone is told by the chain of field names that
lead to it; a walk spells every chain as one path. Main statements:

* `walk_eq_map_spell`: a walk consists of the chains of the document, each of them once, spelled;
* `mem_walk_iff_of_plain`: between names that are not empty and have no dot, a path is walked if and
  only if its segments are a chain.

Spelling is not injective in general. A name may hold dots, and an empty name at the start of a
chain leaves no trace in the path, so two fields may share a path, and a path need not lead back to
the field it was spelled from.
-/

namespace Intercept

/-! ### Segments -/

/-- The pieces of a text are those that the library's split finds. -/
lemma Text.splitAt_eq_splitOn (sep : Char) (cs : List Char) :
    splitAt sep cs = cs.splitOn sep := by
  induction cs with
  | nil => rfl
  | cons c cs ih =>
    rw [splitAt, ih, List.splitOn_cons_eq_if_modifyHead]
    simp only [beq_iff_eq]
    cases h : cs.splitOn sep with
    | nil => exact absurd h (List.splitOn_ne_nil sep cs)
    | cons piece pieces => rfl

/-- Paths with the same segments are the same. -/
lemma pathSegments_injective : Function.Injective pathSegments := by
  intro p q h
  have hpieces : p.toList.splitOn '.' = q.toList.splitOn '.' := by
    simpa only [pathSegments, Text.splitAt_eq_splitOn,
      (List.map_injective_iff.2 fun _ _ => String.ofList_injective).eq_iff] using h
  have hjoin (s : String) :
      String.ofList (List.intercalate ['.'] (s.toList.splitOn '.')) = s := by
    rw [List.intercalate_splitOn, String.ofList_toList]
  rw [← hjoin p, hpieces, hjoin]

/-- Every path has a segment. -/
lemma pathSegments_ne_nil (path : String) : pathSegments path ≠ [] := by
  rw [pathSegments, Text.splitAt_eq_splitOn]
  exact fun h => List.splitOn_ne_nil '.' path.toList (List.map_eq_nil_iff.1 h)

/-- A name that is one segment of a path: it is not empty and has no dot. -/
def IsPlain (name : String) : Prop := name ≠ "" ∧ '.' ∉ name.toList

instance (name : String) : Decidable (IsPlain name) :=
  inferInstanceAs (Decidable (name ≠ "" ∧ '.' ∉ name.toList))

/-- A plain name is a path with one segment. -/
lemma pathSegments_of_plain {k : String} (h : IsPlain k) : pathSegments k = [k] := by
  rw [pathSegments, Text.splitAt_eq_splitOn, List.splitOn_eq_singleton h.2, List.map_singleton,
    String.ofList_toList]

/-- A plain name in front of a path is its first segment. -/
lemma pathSegments_append_dot {k : String} (h : IsPlain k) (path : String) :
    pathSegments (k ++ "." ++ path) = k :: pathSegments path := by
  have hchars : (k ++ "." ++ path).toList = k.toList ++ '.' :: path.toList := by simp
  rw [pathSegments, pathSegments, Text.splitAt_eq_splitOn, Text.splitAt_eq_splitOn, hchars,
    List.splitOn_append_cons_self_of_not_mem h.2, List.map_cons, String.ofList_toList]

namespace Document

/-! ### Chains of field names -/

/-- The value that a chain of field names leads to. -/
def fieldAt? (d : Document) : List String → Option Document
  | [] => some d
  | k :: ks => (d.field? k).bind fun c => c.fieldAt? ks

/-- The chains of names that lead to the fields reached through objects, parents before children. -/
def chains : Document → List (List String)
  | object ks child =>
    ks.names.attach.flatMap fun ⟨k, h⟩ => [k] :: (chains (child k h)).map (k :: ·)
  | _ => []

/-- The path of the field that a chain of names leads to, from the object at `base`. -/
def spellFrom (base : String) (ks : List String) : String := ks.foldl extendPath base

/-- The path of the field that a chain of names leads to. -/
def spell (ks : List String) : String := spellFrom "" ks

/-- A chain begins with a field, and goes on from there or ends. -/
lemma cons_mem_chains {d : Document} {k : String} {ks : List String} :
    k :: ks ∈ d.chains ↔ ∃ v, d.field? k = some v ∧ (ks = [] ∨ ks ∈ v.chains) := by
  cases d with
  | object names child =>
    rw [chains, List.mem_flatMap, field?_object]
    constructor
    · rintro ⟨⟨n, hn⟩, -, hmem⟩
      rcases List.mem_cons.1 hmem with heq | hmem
      · obtain ⟨rfl, rfl⟩ := List.cons.inj heq
        exact ⟨child k hn, dif_pos hn, Or.inl rfl⟩
      · obtain ⟨ls, hls, heq⟩ := List.mem_map.1 hmem
        obtain ⟨rfl, rfl⟩ := List.cons.inj heq
        exact ⟨child n hn, dif_pos hn, Or.inr hls⟩
    · rintro ⟨v, hv, hks⟩
      split at hv
      · next hk =>
        obtain rfl := Option.some.inj hv
        refine ⟨⟨k, hk⟩, List.mem_attach _ _, ?_⟩
        rcases hks with rfl | hks
        · exact List.mem_cons_self
        · exact List.mem_cons_of_mem _ (List.mem_map.2 ⟨ks, hks, rfl⟩)
      · contradiction
  | _ => simp [chains, field?]

/-- The chains of a document are those that lead to a field. -/
lemma mem_chains_iff {d : Document} {ks : List String} :
    ks ∈ d.chains ↔ ks ≠ [] ∧ (d.fieldAt? ks).isSome = true := by
  induction ks generalizing d with
  | nil =>
    refine ⟨fun h => ?_, fun h => absurd rfl h.1⟩
    cases d with
    | object names child =>
      obtain ⟨⟨k, hk⟩, -, hmem⟩ := List.mem_flatMap.1 h
      simp at hmem
    | _ => exact absurd h List.not_mem_nil
  | cons k ks ih =>
    rw [cons_mem_chains, fieldAt?]
    cases hk : d.field? k with
    | none => simp
    | some v =>
      have hks : ks = [] ∨ ks ∈ v.chains ↔ (v.fieldAt? ks).isSome = true := by
        rw [ih]
        by_cases hnil : ks = []
        · subst hnil
          simp [fieldAt?]
        · simp [hnil]
      simpa using hks

/-- No chain is listed twice. -/
lemma nodup_chains (d : Document) : d.chains.Nodup := by
  induction d with
  | object names child ih =>
    have hnames : names.names.Nodup := names.ascending.imp fun h => String.ne_of_lt h
    rw [chains, List.nodup_flatMap]
    refine ⟨?_, (List.nodup_attach.2 hnames).imp ?_⟩
    · rintro ⟨k, hk⟩ -
      refine List.nodup_cons.2 ⟨?_, (ih k hk).map (List.cons_injective)⟩
      rw [List.mem_map]
      rintro ⟨ls, hls, heq⟩
      obtain rfl : ls = [] := (List.cons.inj heq).2
      exact (mem_chains_iff.1 hls).1 rfl
    · rintro ⟨k, hk⟩ ⟨l, hl⟩ hne ks hks hls
      have hhead (n : String) (hn : n ∈ names.names)
          (h : ks ∈ [n] :: (child n hn).chains.map (n :: ·)) : ks.head? = some n := by
        rcases List.mem_cons.1 h with rfl | h
        · rfl
        · obtain ⟨ls, -, rfl⟩ := List.mem_map.1 h
          rfl
      refine hne (Subtype.ext (Option.some.inj ?_))
      exact (hhead k hk hks).symm.trans (hhead l hl hls)
  | _ => exact List.nodup_nil

/-- A walk spells the chains of the document. -/
lemma walkFrom_eq_map_spellFrom (d : Document) (base : String) :
    d.walkFrom base = d.chains.map (spellFrom base) := by
  induction d generalizing base with
  | object names child ih =>
    rw [walkFrom, chains, List.map_flatMap]
    refine List.flatMap_congr fun ⟨k, hk⟩ _ => ?_
    simp only [ih k hk, List.map_cons, List.map_map]
    rfl
  | _ => rfl

/-- A walk consists of the chains of the document, spelled. -/
theorem walk_eq_map_spell (d : Document) : d.walk = d.chains.map spell :=
  d.walkFrom_eq_map_spellFrom ""

/-- How often a path is walked: as often as a chain is spelled so. -/
lemma count_walk (d : Document) (path : String) :
    d.walk.count path = d.chains.countP fun ks => spell ks = path := by
  rw [walk_eq_map_spell, List.count_eq_countP, List.countP_map]
  exact List.countP_congr fun ks _ => by simp

/-! ### Plain names -/

/-- All names of fields that are reached through objects are plain. -/
def HasPlainNames (d : Document) : Prop := ∀ ks ∈ d.chains, ∀ k ∈ ks, IsPlain k

instance (d : Document) : Decidable d.HasPlainNames :=
  inferInstanceAs (Decidable (∀ ks ∈ d.chains, ∀ k ∈ ks, IsPlain k))

/-- What stands in front of a path stays in front of it. -/
lemma spellFrom_append_dot {b : String} (hb : b ≠ "") (a : String) (ks : List String) :
    spellFrom (a ++ "." ++ b) ks = a ++ "." ++ spellFrom b ks := by
  induction ks generalizing b with
  | nil => rfl
  | cons k ks ih =>
    have hab : a ++ "." ++ b ≠ "" := by simp
    have hbk : b ++ "." ++ k ≠ "" := by simp
    have hstep : spellFrom (b ++ "." ++ k) ks = spellFrom b (k :: ks) := by
      rw [spellFrom, spellFrom, List.foldl_cons, extendPath, if_neg hb]
    rw [spellFrom, List.foldl_cons, extendPath, if_neg hab, ← hstep, ← ih hbk, spellFrom]
    simp only [String.append_assoc]

/-- The path of a chain of plain names has these names for segments. -/
lemma pathSegments_spell {ks : List String} (hne : ks ≠ []) (h : ∀ k ∈ ks, IsPlain k) :
    pathSegments (spell ks) = ks := by
  induction ks with
  | nil => exact absurd rfl hne
  | cons k ks ih =>
    have hk : IsPlain k := h k List.mem_cons_self
    have hks : ∀ l ∈ ks, IsPlain l := fun l hl => h l (List.mem_cons_of_mem _ hl)
    cases ks with
    | nil => exact pathSegments_of_plain hk
    | cons l ks =>
      have hl : l ≠ "" := (hks l List.mem_cons_self).1
      have hspell : spell (k :: l :: ks) = k ++ "." ++ spell (l :: ks) := by
        have hfront := spellFrom_append_dot hl k ks
        simpa [spell, spellFrom, extendPath, hk.1] using hfront
      rw [hspell, pathSegments_append_dot hk, ih (List.cons_ne_nil _ _) hks]

section Plain

variable {d : Document}

/-- Between plain names a path is walked exactly if its segments are a chain. -/
theorem mem_walk_iff_of_plain (h : d.HasPlainNames) {path : String} :
    path ∈ d.walk ↔ pathSegments path ∈ d.chains := by
  have hsegments {ks : List String} (hks : ks ∈ d.chains) : pathSegments (spell ks) = ks :=
    pathSegments_spell (mem_chains_iff.1 hks).1 (h ks hks)
  rw [walk_eq_map_spell, List.mem_map]
  constructor
  · rintro ⟨ks, hks, rfl⟩
    rwa [hsegments hks]
  · intro hmem
    exact ⟨pathSegments path, hmem, pathSegments_injective (hsegments hmem)⟩

/-- Between plain names no path is walked twice. -/
theorem nodup_walk_of_plain (h : d.HasPlainNames) : d.walk.Nodup := by
  rw [walk_eq_map_spell]
  refine d.nodup_chains.map_on fun ks hks ls hls heq => ?_
  rw [← pathSegments_spell (mem_chains_iff.1 hks).1 (h ks hks), heq,
    pathSegments_spell (mem_chains_iff.1 hls).1 (h ls hls)]

end Plain

/-! ### Chains and segments -/

/-- Following the names of a chain leads to its field. -/
lemma follow?_of_fieldAt? {d v : Document} {ks : List String} (h : d.fieldAt? ks = some v) :
    d.follow? ks = some v := by
  induction ks generalizing d with
  | nil => exact h
  | cons k ks ih =>
    obtain ⟨c, hk, hc⟩ := Option.bind_eq_some_iff.1 h
    have hstep : d.step? k = some c := by
      cases d with
      | object names child => exact hk
      | _ => exact absurd hk (by simp [field?])
    rw [follow?, hstep, Option.bind_some, ih hc]

/-- A path other than the empty one is resolved along its segments. -/
lemma resolve?_of_ne_empty (d : Document) {path : String} (h : path ≠ "") :
    d.resolve? path = d.follow? (pathSegments path) := if_neg h

/-- Between plain names every path that is walked leads to a value. -/
theorem isSome_resolve?_of_mem_walk {d : Document} (h : d.HasPlainNames) {path : String}
    (hpath : path ∈ d.walk) : (d.resolve? path).isSome = true := by
  have hmem : pathSegments path ∈ d.chains := (mem_walk_iff_of_plain h).1 hpath
  obtain ⟨-, hsome⟩ := mem_chains_iff.1 hmem
  obtain ⟨v, hv⟩ := Option.isSome_iff_exists.1 hsome
  unfold resolve?
  split
  · rfl
  · rw [follow?_of_fieldAt? hv]
    rfl

end Document

end Intercept
