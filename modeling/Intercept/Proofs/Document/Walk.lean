import Intercept.Proofs.Document.Fields
import Mathlib

/-!
# Walks in order

A walk goes down into a field before it goes on to the next one, and takes the fields of an object in
the order of their names. Main statement: `walk_enumerates_fields`. Between names that are not empty
and have no dot, a walk lists the fields that are reached through objects, each of them once, and in
the lexicographic order of the names that lead to them: a field stands before all that is below it,
and this before the next field.

A walk need not build every path anew. It may keep one buffer, append each name on the way down, and
cut the buffer back on the way up (`Tour`). What carries this is that a subtree leaves the buffer as
it was, so the cut finds the length that it was told (`Tour.through_eq`).
-/

namespace Intercept

/-! ### Walking with one buffer -/

/-- A walk in progress: the path of the place where it is, and the paths visited so far. -/
structure Tour where
  buffer : List Char := []
  visited : List String := []

namespace Tour

/-- Go down to a field: its name is appended to the buffer, after a dot unless the buffer is empty,
and what the buffer holds then is visited. -/
def enter (t : Tour) (k : String) : Tour :=
  let buffer := (if t.buffer.isEmpty then t.buffer else t.buffer ++ ['.']) ++ k.toList
  { buffer, visited := t.visited ++ [String.ofList buffer] }

/-- Cut the buffer back to a length that it had before. -/
def restore (t : Tour) (length : Nat) : Tour := { t with buffer := t.buffer.take length }

/-- Visit the fields below the place where the tour is. -/
def through : Document → Tour → Tour
  | .object ks child, t =>
    ks.names.attach.foldl
      (fun t ⟨k, h⟩ => (through (child k h) (t.enter k)).restore t.buffer.length) t
  | _, t => t

/-- Going down extends the path in the buffer. -/
lemma enter_eq (t : Tour) (k : String) :
    t.enter k =
      { buffer := (Document.extendPath (String.ofList t.buffer) k).toList
        visited := t.visited ++ [Document.extendPath (String.ofList t.buffer) k] } := by
  have hbuffer : (if t.buffer.isEmpty then t.buffer else t.buffer ++ ['.']) ++ k.toList =
      (Document.extendPath (String.ofList t.buffer) k).toList := by
    cases hb : t.buffer with
    | nil => simp [Document.extendPath]
    | cons c cs => simp [Document.extendPath]
  rw [enter]
  simp only [hbuffer, String.ofList_toList]

/-- What the buffer held before going down is what is left when it is cut back. -/
lemma take_extendPath (buffer : List Char) (k : String) :
    ((Document.extendPath (String.ofList buffer) k).toList).take buffer.length = buffer := by
  unfold Document.extendPath
  split
  · next h => simp_all
  · simp

/-- A tour visits the paths of a walk, and leaves the buffer as it was. -/
theorem through_eq (d : Document) (t : Tour) :
    through d t = { t with visited := t.visited ++ d.walkFrom (String.ofList t.buffer) } := by
  induction d generalizing t with
  | object ks child ih =>
    rw [through, Document.walkFrom]
    generalize ks.names.attach = names
    induction names generalizing t with
    | nil => simp
    | cons n names ihnames =>
      obtain ⟨k, hk⟩ := n
      have hfirst : (through (child k hk) (t.enter k)).restore t.buffer.length =
          { t with
            visited := t.visited ++ Document.extendPath (String.ofList t.buffer) k ::
              (child k hk).walkFrom (Document.extendPath (String.ofList t.buffer) k) } := by
        rw [ih k hk, enter_eq, restore]
        simp only [take_extendPath, String.ofList_toList, List.append_assoc, List.cons_append,
          List.nil_append]
      simp only [List.foldl_cons, hfirst, ihnames, List.flatMap_cons, List.append_assoc]
  | _ => simp [through, Document.walkFrom]

end Tour

namespace Document

/-! ### The order of chains -/

/-- The chains of a document are listed in ascending order: one that is begun by another one comes
after it, and of two that part the one with the lesser name comes first. -/
theorem pairwise_chains (d : Document) : d.chains.Pairwise (· < ·) := by
  induction d with
  | object names child ih =>
    rw [chains, List.pairwise_flatMap]
    refine ⟨?_, ?_⟩
    · rintro ⟨k, hk⟩ -
      refine List.pairwise_cons.2 ⟨?_, ?_⟩
      · intro ks hks
        obtain ⟨ls, hls, rfl⟩ := List.mem_map.1 hks
        obtain ⟨hne, -⟩ := mem_chains_iff.1 hls
        obtain ⟨l, ls, rfl⟩ := List.exists_cons_of_ne_nil hne
        exact List.cons_lt_cons_iff.2 (Or.inr ⟨rfl, List.nil_lt_cons l ls⟩)
      · refine List.pairwise_map.2 ((ih k hk).imp fun hlt => ?_)
        exact List.cons_lt_cons_iff.2 (Or.inr ⟨rfl, hlt⟩)
    · have hhead {k : String} {hk : k ∈ names.names} {ks : List String}
          (h : ks ∈ [k] :: (child k hk).chains.map (k :: ·)) : ∃ ls, ks = k :: ls := by
        rcases List.mem_cons.1 h with rfl | h
        · exact ⟨[], rfl⟩
        · obtain ⟨ls, -, rfl⟩ := List.mem_map.1 h
          exact ⟨ls, rfl⟩
      have hascending : names.names.attach.Pairwise fun a b => a.1 < b.1 := by
        rw [← List.pairwise_map, List.attach_map_subtype_val]
        exact names.ascending
      refine hascending.imp ?_
      rintro ⟨k, hk⟩ ⟨l, hl⟩ hlt ks hks ls hls
      obtain ⟨ks, rfl⟩ := hhead hks
      obtain ⟨ls, rfl⟩ := hhead hls
      exact List.cons_lt_cons_iff.2 (Or.inl hlt)
  | _ => exact List.Pairwise.nil

/-! ### Fields and their texts -/

/-- Plain names joined by dots are the segments of the joined text. -/
lemma pathSegments_intercalate {ks : List String} (hne : ks ≠ []) (h : ∀ k ∈ ks, IsPlain k) :
    pathSegments (".".intercalate ks) = ks := by
  have hdots : ∀ cs ∈ ks.map String.toList, '.' ∉ cs := by
    intro cs hcs
    obtain ⟨k, hk, rfl⟩ := List.mem_map.1 hcs
    exact (h k hk).2
  have hpieces : (".".intercalate ks).toList.splitOn '.' = ks.map String.toList := by
    rw [String.toList_intercalate]
    exact List.splitOn_intercalate '.' hdots (by simpa using hne)
  rw [pathSegments, Text.splitAt_eq_splitOn, hpieces, List.map_map]
  exact List.map_id'' (fun k => String.ofList_toList) ks

/-- A chain of plain names is spelled by joining them with dots. -/
lemma spell_eq_intercalate {ks : List String} (hne : ks ≠ []) (h : ∀ k ∈ ks, IsPlain k) :
    spell ks = ".".intercalate ks :=
  pathSegments_injective ((pathSegments_spell hne h).trans (pathSegments_intercalate hne h).symm)

/-- The walk of a document in which all names of fields that are reached through objects are not empty
and have no dot; names inside arrays may be anything.

* With one buffer that is extended on the way down and cut back on the way up, the same paths are
  visited, and the buffer is empty again in the end.
* By their segments the paths are listed in ascending order, in which segments compare by their code
  points: parents before children, and fields in the order of their names.
* No path is listed twice.
* The paths are the chains of names that lead to a field through objects, joined by dots.
* The segments of such a path are the names of the chain, and it resolves to the value of the field.
* A document that is no object has no fields to list. -/
theorem walk_enumerates_fields {d : Document} (h : d.HasPlainNames) :
    Tour.through d {} = { buffer := [], visited := d.walk } ∧
    (d.walk.map pathSegments).Pairwise (· < ·) ∧
    d.walk.Nodup ∧
    (∀ path, path ∈ d.walk ↔
      ∃ ks v, ks ≠ [] ∧ d.fieldAt? ks = some v ∧ path = ".".intercalate ks) ∧
    (∀ ks v, ks ≠ [] → d.fieldAt? ks = some v →
      pathSegments (".".intercalate ks) = ks ∧ d.resolve? (".".intercalate ks) = some v) ∧
    (d.isObject = false → d.walk = []) := by
  have hplain {ks : List String} {v : Document} (hne : ks ≠ []) (hv : d.fieldAt? ks = some v) :
      ks ∈ d.chains ∧ ∀ k ∈ ks, IsPlain k := by
    have hmem : ks ∈ d.chains := mem_chains_iff.2 ⟨hne, by rw [hv]; rfl⟩
    exact ⟨hmem, h ks hmem⟩
  have hsegments : d.walk.map pathSegments = d.chains := by
    rw [walk_eq_map_spell, List.map_map]
    refine (List.map_congr_left fun ks hks => ?_).trans (List.map_id _)
    exact pathSegments_spell (mem_chains_iff.1 hks).1 (h ks hks)
  refine ⟨Tour.through_eq d {}, hsegments ▸ d.pairwise_chains, nodup_walk_of_plain h, ?_, ?_, ?_⟩
  · intro path
    rw [walk_eq_map_spell, List.mem_map]
    constructor
    · rintro ⟨ks, hks, rfl⟩
      obtain ⟨hne, hsome⟩ := mem_chains_iff.1 hks
      obtain ⟨v, hv⟩ := Option.isSome_iff_exists.1 hsome
      exact ⟨ks, v, hne, hv, spell_eq_intercalate hne (h ks hks)⟩
    · rintro ⟨ks, v, hne, hv, rfl⟩
      obtain ⟨hmem, hnames⟩ := hplain hne hv
      exact ⟨ks, hmem, spell_eq_intercalate hne hnames⟩
  · intro ks v hne hv
    have hnames := (hplain hne hv).2
    have hks := pathSegments_intercalate hne hnames
    have hpath : ".".intercalate ks ≠ "" := by
      intro hempty
      rw [hempty] at hks
      exact (hnames "" (hks ▸ List.mem_singleton_self "")).1 rfl
    refine ⟨hks, ?_⟩
    rw [resolve?_of_ne_empty d hpath, hks]
    exact follow?_of_fieldAt? hv
  · intro hno
    cases d with
    | object names child => contradiction
    | _ => rfl

/-- An object beside a field, with a field and an array in it. -/
theorem walk_enumerates_nested_fields :
    let inner := ofFields [("c", ofItems [ofFields [("", .null)]]), ("a", .bool true)]
    let d := ofFields [("b", inner), ("a", .null)]
    d.HasPlainNames ∧ d.walk = ["a", "b", "b.a", "b.c"] ∧
      Tour.through d {} = { buffer := [], visited := ["a", "b", "b.a", "b.c"] } ∧
      d.resolve? "b.a" = some (.bool true) := by
  intro inner d
  have hplain : d.HasPlainNames := by decide +kernel
  have hwalk : d.walk = ["a", "b", "b.a", "b.c"] := by
    simp only [d, inner]
    cbv
  obtain ⟨htour, -, -, -, hfields, -⟩ := walk_enumerates_fields hplain
  have hfield : d.fieldAt? ["b", "a"] = some (.bool true) := by
    simp only [d, inner]
    cbv
  obtain ⟨-, hresolved⟩ := hfields ["b", "a"] _ (List.cons_ne_nil _ _) hfield
  exact ⟨hplain, hwalk, hwalk ▸ htour, hresolved⟩

end Document

end Intercept
