import Intercept.Store.Ingest
import Mathlib.Tactic.Common

/-!
# Blank payloads

Packets without a body are passed over before anything is read from them. Main statement: nothing is
lost by this, since blanks alone are no document (`parseBytes?_eq_none_of_isBlankPayload`). The five
blank bytes of a payload are characters of their own, the grammar of documents skips four of them,
and no value begins with the fifth.
-/

namespace Intercept.Store

/-- The character that a blank byte stands for. -/
def blankChar (b : UInt8) : Char := Char.ofNat b.toNat

/-- The blank bytes are five. -/
lemma isBlankByte_iff (b : UInt8) :
    isBlankByte b = true ↔ b = 32 ∨ b = 9 ∨ b = 10 ∨ b = 12 ∨ b = 13 := by
  simp [isBlankByte, or_assoc]

/-- A blank byte is the whole encoding of its character. -/
lemma utf8EncodeChar_blankChar {b : UInt8} (h : isBlankByte b = true) :
    String.utf8EncodeChar (blankChar b) = [b] := by
  rcases (isBlankByte_iff b).1 h with rfl | rfl | rfl | rfl | rfl <;> decide

/-- A blank byte stands for a character that documents skip, or for a form feed. -/
lemma isBlank_blankChar {b : UInt8} (h : isBlankByte b = true) :
    Document.isBlank (blankChar b) = true ∨ blankChar b = '\x0c' := by
  rcases (isBlankByte_iff b).1 h with rfl | rfl | rfl | rfl | rfl <;> decide

/-- Blank bytes are the encoding of the characters they stand for. -/
lemma utf8Encode_map_blankChar {bs : List UInt8} (h : ∀ b ∈ bs, isBlankByte b = true) :
    (bs.map blankChar).utf8Encode = bs.toByteArray := by
  induction bs with
  | nil => rfl
  | cons b bs ih =>
    have hb : String.utf8EncodeChar (blankChar b) = [b] := utf8EncodeChar_blankChar (h b (by simp))
    have hbs : (bs.map blankChar).utf8Encode = bs.toByteArray :=
      ih fun c hc => h c (List.mem_cons_of_mem _ hc)
    rw [List.map_cons, List.utf8Encode_cons, List.utf8Encode_singleton, hb, hbs]
    exact (@List.toByteArray_append [b] bs).symm

/-- Whatever text a blank payload holds consists of the characters of its bytes. -/
lemma toList_of_isBlankPayload {payload : ByteArray} {s : String}
    (h : isBlankPayload payload = true) (hs : String.fromUTF8? payload = some s) :
    s.toList = payload.data.toList.map blankChar := by
  have hblank : ∀ b ∈ payload.data.toList, isBlankByte b = true := by
    intro b hb
    exact Array.all_eq_true_iff_forall_mem.1 h b (Array.mem_toList_iff.1 hb)
  have hbytes : s.toByteArray = payload := by
    unfold String.fromUTF8? at hs
    split at hs
    · rw [Option.some.injEq] at hs
      subst hs
      rfl
    · contradiction
  have hofList : s = String.ofList (payload.data.toList.map blankChar) := by
    rw [← String.toByteArray_inj, hbytes, String.toByteArray_ofList,
      utf8Encode_map_blankChar hblank]
    exact ByteArray.ext (by rw [List.data_toByteArray])
  rw [hofList, String.toList_ofList]

/-! ### No value begins with a form feed -/

/-- No value begins at the end of a text or at a form feed. -/
lemma value?_eq_none {fuel depth : Nat} {cs : List Char} (h : cs = [] ∨ cs.head? = some '\x0c') :
    Document.value? fuel depth cs = none := by
  cases fuel with
  | zero => rw [Document.value?]
  | succ fuel =>
    rcases h with rfl | h
    · rw [Document.value?]
      · rfl
      all_goals simp
    · cases cs with
      | nil => simp at h
      | cons c cs =>
        obtain rfl : c = '\x0c' := by simpa using h
        rw [Document.value?]
        · rfl
        all_goals simp

/-- What is left of skipped and form feed characters after skipping begins with a form feed, if
anything is left. -/
lemma skipBlanks_eq_nil_or {cs : List Char}
    (h : ∀ c ∈ cs, Document.isBlank c = true ∨ c = '\x0c') :
    Document.skipBlanks cs = [] ∨ (Document.skipBlanks cs).head? = some '\x0c' := by
  induction cs with
  | nil => exact Or.inl rfl
  | cons c cs ih =>
    have hcs := ih fun d hd => h d (List.mem_cons_of_mem _ hd)
    by_cases hc : Document.isBlank c = true
    · simpa [Document.skipBlanks, hc] using hcs
    · have hff : c = '\x0c' := (h c (by simp)).resolve_left hc
      refine Or.inr ?_
      rw [Document.skipBlanks, List.dropWhile_cons_of_neg hc, hff]
      rfl

/-- Blanks alone are no document. -/
theorem parseBytes?_eq_none_of_isBlankPayload {payload : ByteArray}
    (h : isBlankPayload payload = true) : Document.parseBytes? payload = none := by
  unfold Document.parseBytes?
  cases hs : String.fromUTF8? payload with
  | none => rfl
  | some s =>
    have hchars : ∀ c ∈ s.toList, Document.isBlank c = true ∨ c = '\x0c' := by
      intro c hc
      rw [toList_of_isBlankPayload h hs] at hc
      obtain ⟨b, hb, rfl⟩ := List.mem_map.1 hc
      exact isBlank_blankChar (Array.all_eq_true_iff_forall_mem.1 h b (Array.mem_toList_iff.1 hb))
    rw [Option.bind_some, Document.parse?, Document.parseChars?,
      value?_eq_none (skipBlanks_eq_nil_or hchars)]
    rfl

end Intercept.Store
