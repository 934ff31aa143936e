import Intercept.Proofs.Numeral
import Intercept.Session.Key
import Mathlib

/-!
# Printed identities

Diagnostics name a session by its printed identity alone. Main statement: no two identities are
printed alike (`display_eq_display_iff`). A region may end in an underscore and digits itself, so
the text is taken apart from its end. The run of digits there is that of the user id, because it
stops at the underscore in front of it (`rtakeWhile_toList_display`), and what is left is the region
(`rdropWhile_toList_display`).
-/

namespace Intercept.SessionKey

variable {k a b : SessionKey}

/-- Read from its end, a printed identity is the digits of the user id, an underscore and then the
region. -/
lemma reverse_toList_display : k.display.toList.reverse =
    (toString k.uid.toNat).toList.reverse ++ '_' :: k.region.toList.reverse := by
  simp [display]

/-- Read from its end, a printed number has digits only. -/
lemma isDigit_of_mem_reverse {n : Nat} : ∀ c ∈ (toString n).toList.reverse, c.isDigit = true :=
  fun _ h => Numeral.isDigit_of_mem_toString (List.mem_reverse.1 h)

/-- The digits at the end of a printed identity are those of the user id. -/
lemma rtakeWhile_toList_display :
    k.display.toList.rtakeWhile Char.isDigit = (toString k.uid.toNat).toList := by
  rw [List.rtakeWhile, reverse_toList_display,
    List.takeWhile_append_of_pos isDigit_of_mem_reverse,
    List.takeWhile_cons_of_neg (by decide), List.append_nil, List.reverse_reverse]

/-- In front of the digits at its end, a printed identity is the region and an underscore. -/
lemma rdropWhile_toList_display :
    k.display.toList.rdropWhile Char.isDigit = k.region.toList ++ ['_'] := by
  rw [List.rdropWhile, reverse_toList_display,
    List.dropWhile_append_of_pos isDigit_of_mem_reverse,
    List.dropWhile_cons_of_neg (by decide), List.reverse_cons, List.reverse_reverse]

/-- Two identities are printed alike exactly if they have the same region and the same user id. -/
theorem display_eq_display_iff :
    a.display = b.display ↔ a.region = b.region ∧ a.uid = b.uid := by
  constructor
  · intro h
    have huid : (toString a.uid.toNat).toList = (toString b.uid.toNat).toList := by
      rw [← rtakeWhile_toList_display, h, rtakeWhile_toList_display]
    have hregion : a.region.toList ++ ['_'] = b.region.toList ++ ['_'] := by
      rw [← rdropWhile_toList_display, h, rdropWhile_toList_display]
    exact ⟨String.toList_inj.1 (List.append_cancel_right hregion),
      UInt64.toNat_inj.1 (Nat.repr_inj.1 (String.toList_inj.1 huid))⟩
  · rintro ⟨hregion, huid⟩
    rw [display, display, hregion, huid]

end Intercept.SessionKey
