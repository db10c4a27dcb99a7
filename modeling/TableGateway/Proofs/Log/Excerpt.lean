import TableGateway.Log

/-!
# Excerpts are the longest beginnings that fit

A text is cut at a number of bytes; where this falls into a character, the cut goes back byte by
byte to the beginning of the character. A text can be cut there, and every beginning of whole
characters ends at such a place. So what is cut off is the longest beginning that fits: the next
character would go beyond the number of bytes, and as none has more than four of them, at most three
are left unused.

Main statements: `excerpt_longestFitting`, `excerpt_cutsWithin`.
-/

namespace TableGateway

open Text

variable {limit : Nat} {text : String}

/-! ## The two ways to cut -/

theorem excerpt?_eq (limit : Nat) (text : String) :
    excerpt? limit text = some (excerpt limit text) :=
  (Option.some_get (isSome_excerpt? limit text)).symm

theorem excerpt_of_fits (h : text.utf8ByteSize ≤ limit) : excerpt limit text = text := by
  have hcut := excerpt?_eq limit text
  rw [excerpt?, if_pos h] at hcut
  exact (Option.some.inj hcut).symm

/-- What does not fit is cut at the last place before the limit. -/
theorem exists_append_of_not_fits (h : ¬ text.utf8ByteSize ≤ limit) :
    ∃ rest, text = excerpt limit text ++ rest
      ∧ (excerpt limit text).utf8ByteSize = floorBoundary text limit := by
  have hcut := excerpt?_eq limit text
  rw [excerpt?, if_neg h] at hcut
  exact upTo?_eq_some_iff.mp hcut

/-! ## The longest beginning -/

/-- `cut` consists of the first characters of `text`, has at most `limit` bytes, and is the longest
such text. -/
structure LongestFitting (limit : Nat) (text cut : String) : Prop where
  beginning : cut.toList <+: text.toList
  fits : cut.utf8ByteSize ≤ limit
  longest : ∀ other : String, other.toList <+: text.toList → other.utf8ByteSize ≤ limit →
    other.toList <+: cut.toList

theorem excerpt_longestFitting (limit : Nat) (text : String) :
    LongestFitting limit text (excerpt limit text) := by
  by_cases h : text.utf8ByteSize ≤ limit
  · rw [excerpt_of_fits h]
    exact ⟨List.prefix_refl _, h, fun _ hother _ => hother⟩
  · obtain ⟨rest, htext, hsize⟩ := exists_append_of_not_fits h
    have hbeginning : (excerpt limit text).toList <+: text.toList :=
      ⟨rest.toList, by rw [← String.toList_append, ← htext]⟩
    refine ⟨hbeginning, hsize ▸ floorBoundary_le text limit, fun other hother hfits => ?_⟩
    -- Every other beginning ends at a place for a cut, and none was passed over.
    have hle := le_floorBoundary (boundary_of_isPrefix hother) hfits
    exact isPrefix_of_utf8ByteSize_le hother hbeginning (hsize ▸ hle)

/-- With the character that follows, the beginning does not fit any more. -/
theorem LongestFitting.lt_add_utf8Size {cut : String} (h : LongestFitting limit text cut) {c : Char}
    {rest : List Char} (htext : text.toList = cut.toList ++ c :: rest) :
    limit < cut.utf8ByteSize + c.utf8Size := by
  refine Nat.lt_of_not_le fun hfits => ?_
  have hlonger : (cut ++ String.singleton c).toList <+: text.toList := ⟨rest, by simp [htext]⟩
  have hle := (h.longest _ hlonger (by simpa using hfits)).length_le
  rw [String.toList_append, String.toList_singleton, List.length_append,
    List.length_singleton] at hle
  exact Nat.not_succ_le_self _ hle

/-- What is cut off a text that does not fit takes at most three bytes less than it could. -/
theorem LongestFitting.le_add_three {cut : String} (h : LongestFitting limit text cut)
    (hlong : limit < text.utf8ByteSize) : limit ≤ cut.utf8ByteSize + 3 := by
  obtain ⟨rest, hrest⟩ := h.beginning
  cases rest with
  | nil =>
    obtain rfl : cut = text := String.toList_injective (by simpa using hrest)
    exact absurd hlong (Nat.not_lt_of_le h.fits)
  | cons c rest =>
    have hlt := h.lt_add_utf8Size hrest.symm
    have hfour := c.utf8Size_le_four
    omega

/-- The text is cut within the limit, and a character before its end at most. -/
structure CutsWithin (limit : Nat) (text : String) : Prop where
  /-- Where the walk back ends the text can be cut. -/
  checked : excerpt? limit text = some (excerpt limit text)
  longestFitting : LongestFitting limit text (excerpt limit text)
  whole : text.utf8ByteSize ≤ limit → excerpt limit text = text
  nearly : limit < text.utf8ByteSize → limit ≤ (excerpt limit text).utf8ByteSize + 3

theorem excerpt_cutsWithin (limit : Nat) (text : String) : CutsWithin limit text where
  checked := excerpt?_eq limit text
  longestFitting := excerpt_longestFitting limit text
  whole := excerpt_of_fits
  nearly := (excerpt_longestFitting limit text).le_add_three

/-- A limit within the second character, of four bytes, and one within the first. -/
example : excerpt 4 "a😀b" = "a" ∧ excerpt 1 "é" = "" := by decide +kernel

end TableGateway
