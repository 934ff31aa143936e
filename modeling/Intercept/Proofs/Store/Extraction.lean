import Intercept.Proofs.Document.Fields
import Intercept.Store.Ingest
import Mathlib

/-!
# Keys as paths

The key of a packet's document and a path in the session state both separate their levels by dots,
but they are read differently: a key is turned into a pointer, whose tokens may hold escapes and
whose array positions have one spelling each, while a path takes every spelling of a position. Main
statement: `extract_eq_elim_resolve?`. A key without slashes and tildes, in which no position is
spelled otherwise than a pointer spells it, finds what the path of the same text finds, in documents
of any shape.

The proof compares the two readings part by part: the tokens of the pointer are the segments of the
path (`pointerTokens_eq_pathSegments`), and a token is the same position in both
(`pointerIndex?_of_not_isPadded`).
-/

namespace Intercept

/-! ### Tokens and segments -/

/-- A token without tildes has no escapes. -/
lemma unescapeToken_of_not_mem {cs : List Char} (h : '~' ∉ cs) : unescapeToken cs = cs := by
  induction cs with
  | nil => rfl
  | cons c cs ih =>
    obtain ⟨hc, hcs⟩ := List.ne_and_not_mem_of_not_mem_cons h
    rw [unescapeToken, ih hcs]
    · rintro _ rfl
      exact absurd rfl hc
    · rintro _ rfl
      exact absurd rfl hc

/-- A text without slashes that gets them for its dots has the pieces that it had. -/
lemma splitAt_slash_map {cs : List Char} (h : '/' ∉ cs) :
    Text.splitAt '/' (cs.map fun c => if c = '.' then '/' else c) = Text.splitAt '.' cs := by
  induction cs with
  | nil => rfl
  | cons c cs ih =>
    obtain ⟨hc, hcs⟩ := List.ne_and_not_mem_of_not_mem_cons h
    rw [List.map_cons, Text.splitAt, Text.splitAt, ih hcs]
    by_cases hdot : c = '.'
    · rw [if_pos hdot, if_pos rfl, if_pos hdot]
    · rw [if_neg hdot, if_neg (Ne.symm hc), if_neg hdot]

/-- A character of a piece is one of the text. -/
lemma mem_of_mem_splitAt {sep c : Char} {cs piece : List Char} (hpiece : piece ∈ Text.splitAt sep cs)
    (hc : c ∈ piece) : c ∈ cs := by
  rw [Text.splitAt_eq_splitOn] at hpiece
  obtain ⟨i, hi⟩ := List.mem_iff_getElem?.1 hpiece
  have hjoined : piece ∈ (cs.splitOn sep).intersperse [sep] :=
    List.mem_iff_getElem?.2 ⟨2 * i, List.getElem?_intersperse_two_mul.trans hi⟩
  have hmem : c ∈ [sep].intercalate (cs.splitOn sep) := List.mem_flatten.2 ⟨piece, hjoined, hc⟩
  rwa [List.intercalate_splitOn] at hmem

/-- The tokens of a key without slashes and tildes are the segments of the path. -/
lemma pointerTokens_eq_pathSegments {key : String} (hslash : '/' ∉ key.toList)
    (htilde : '~' ∉ key.toList) : pointerTokens key = pathSegments key := by
  rw [pointerTokens, pathSegments, splitAt_slash_map hslash]
  refine List.map_congr_left fun piece hpiece => ?_
  rw [unescapeToken_of_not_mem fun hmem => htilde (mem_of_mem_splitAt hpiece hmem)]

/-! ### Positions -/

/-- A numeral with a plus sign or with a superfluous leading zero. -/
def IsPadded (segment : String) : Prop :=
  (Numeral.read? segment).isSome = true ∧
    ((∃ cs, segment.toList = '+' :: cs) ∨ ∃ c cs, segment.toList = '0' :: c :: cs)

/-- A token that is not padded is a position of an array or none, as it is in a path. -/
lemma pointerIndex?_of_not_isPadded {token : String} (h : ¬ IsPadded token) :
    pointerIndex? token = Numeral.readWord? token := by
  have hnone (hpad : (∃ cs, token.toList = '+' :: cs) ∨ ∃ c cs, token.toList = '0' :: c :: cs) :
      Numeral.readWord? token = none := by
    have hread : Numeral.read? token = none := by
      by_contra hsome
      exact h ⟨Option.isSome_iff_ne_none.2 hsome, hpad⟩
    rw [Numeral.readWord?, hread, Option.bind_none]
  unfold pointerIndex?
  split
  · next cs hcs => exact (hnone (Or.inl ⟨cs, hcs⟩)).symm
  · next c cs hcs => exact (hnone (Or.inr ⟨c, cs, hcs⟩)).symm
  · rfl

namespace Document

/-- A token that is not padded leads where it leads as a segment. -/
lemma tokenStep?_of_not_isPadded (d : Document) {token : String} (h : ¬ IsPadded token) :
    d.tokenStep? token = d.step? token := by
  cases d with
  | array n item => rw [tokenStep?, step?, pointerIndex?_of_not_isPadded h]
  | _ => rfl

/-- Tokens that are not padded lead where they lead as segments. -/
lemma followTokens?_of_not_isPadded (d : Document) {ts : List String}
    (h : ∀ t ∈ ts, ¬ IsPadded t) : d.followTokens? ts = d.follow? ts := by
  induction ts generalizing d with
  | nil => rfl
  | cons t ts ih =>
    have ht : ¬ IsPadded t := h t List.mem_cons_self
    have hts : ∀ u ∈ ts, ¬ IsPadded u := fun u hu => h u (List.mem_cons_of_mem t hu)
    rw [followTokens?, follow?, tokenStep?_of_not_isPadded d ht]
    exact Option.bind_congr fun c _ => ih c hts

end Document

/-- What a payload holds at a key is what the path of the same text finds in its document, and
nothing if that finds nothing. The key must not be empty, for then the path finds the document
itself; it must have neither slashes nor tildes, which are more than text in a pointer; and none of
its segments may be a numeral with a plus sign or a superfluous leading zero, which is a position in
a path only. -/
theorem Store.extract_eq_elim_resolve? {payload : ByteArray} {root : Document} {key : String}
    (hparse : Document.parseBytes? payload = some root) (hne : key ≠ "")
    (hslash : '/' ∉ key.toList) (htilde : '~' ∉ key.toList)
    (hpadded : ∀ segment ∈ pathSegments key, ¬ IsPadded segment) :
    extract payload key = (root.resolve? key).elim .absent .found := by
  have hkey : root.atKey? key = root.resolve? key := by
    rw [Document.atKey?, pointerTokens_eq_pathSegments hslash htilde,
      Document.followTokens?_of_not_isPadded root hpadded, Document.resolve?_of_ne_empty root hne]
  rw [extract, hparse]
  simp only [hkey]
  cases root.resolve? key <;> rfl

/-- A key leads to a position of an array, and from there through a field without a name. -/
theorem Store.extract_eq_found_below_nameless_field :
    let payload := "\x7b\"a\":[1,\x7b\"\":[true]\x7d]\x7d".toUTF8
    let root : Document :=
      .ofFields [("a", .ofItems [.number (.natural 1), .ofFields [("", .ofItems [.bool true])]])]
    Document.parseBytes? payload = some root ∧ "a.1..0" ≠ "" ∧ '/' ∉ "a.1..0".toList ∧
      '~' ∉ "a.1..0".toList ∧ (∀ segment ∈ pathSegments "a.1..0", ¬ IsPadded segment) ∧
      extract payload "a.1..0" = .found (.bool true) := by
  intro payload root
  have hparse : Document.parseBytes? payload = some root := by
    simp only [payload, root]
    cbv
  have hsegments : pathSegments "a.1..0" = ["a", "1", "", "0"] := by cbv
  have hpadded : ∀ segment ∈ pathSegments "a.1..0", ¬ IsPadded segment := by
    rw [hsegments]
    simp [IsPadded]
  have hfound : root.resolve? "a.1..0" = some (.bool true) := by
    simp only [root]
    cbv
  have hextract := extract_eq_elim_resolve? hparse (by decide : "a.1..0" ≠ "") (by decide)
    (by decide) hpadded
  rw [hfound] at hextract
  exact ⟨hparse, by decide, by decide, by decide, hpadded, hextract⟩

end Intercept
