/-!
# Cuts at byte offsets

A text is kept as the bytes of its characters in UTF-8, and an offset into it counts bytes. It can
be cut where a character begins or ends, and nowhere else: the sides of a cut are given only if the
offset is such a place.

Main statements: `upTo?_eq_some_iff`, `from?_eq_some_iff`, `bytes?_eq_toByteArray_iff`,
`le_floorBoundary`.
-/

namespace TableGateway.Text

/-- The text can be cut at the offset. -/
abbrev Boundary (text : String) (offset : Nat) : Prop := String.Pos.Raw.IsValid text ⟨offset⟩

/-- What stands before an offset, if the text can be cut there. -/
def upTo? (text : String) (offset : Nat) : Option String :=
  if h : Boundary text offset then some (text.sliceTo (text.pos ⟨offset⟩ h)).copy else none

/-- What stands behind an offset, if the text can be cut there. -/
def from? (text : String) (offset : Nat) : Option String :=
  if h : Boundary text offset then some (text.sliceFrom (text.pos ⟨offset⟩ h)).copy else none

/-- The bytes from one offset to another, if there are so many. -/
def bytes? (text : String) (start stop : Nat) : Option ByteArray :=
  if start ≤ stop ∧ stop ≤ text.utf8ByteSize then some (text.toByteArray.extract start stop)
  else none

/-- How much longer one length is than another, if it is not shorter. -/
def excess? (length other : Nat) : Option Nat :=
  if other ≤ length then some (length - other) else none

/-- The last offset up to the given one at which the text can be cut. -/
def floorBoundary (text : String) : Nat → Nat
  | 0 => 0
  | offset + 1 => if Boundary text (offset + 1) then offset + 1 else floorBoundary text offset

variable {text start rest : String} {offset : Nat}

/-- A text is cut between the characters of its two sides. -/
theorem boundary_iff :
    Boundary text offset ↔ ∃ start rest, text = start ++ rest ∧ start.utf8ByteSize = offset := by
  simp only [Boundary, String.Pos.Raw.isValid_iff_exists_append, String.Pos.Raw.ext_iff,
    String.byteIdx_rawEndPos, eq_comm]

theorem splits_iff (h : Boundary text offset) :
    (text.pos ⟨offset⟩ h).Splits start rest
      ↔ text = start ++ rest ∧ start.utf8ByteSize = offset := by
  constructor
  · rintro ⟨heq, hoffset⟩
    exact ⟨heq, (congrArg String.Pos.Raw.byteIdx hoffset).symm⟩
  · rintro ⟨heq, rfl⟩
    exact ⟨heq, rfl⟩

theorem upTo?_eq_some_iff :
    upTo? text offset = some start
      ↔ ∃ rest, text = start ++ rest ∧ start.utf8ByteSize = offset := by
  constructor
  · intro h
    unfold upTo? at h
    split at h
    · next hcut =>
      obtain rfl := Option.some.inj h
      exact ⟨_, (splits_iff hcut).mp (text.pos ⟨offset⟩ hcut).splits⟩
    · contradiction
  · rintro ⟨rest, h⟩
    have hcut : Boundary text offset := boundary_iff.mpr ⟨start, rest, h⟩
    rw [upTo?, dif_pos hcut, (text.pos ⟨offset⟩ hcut).splits.eq_left ((splits_iff hcut).mpr h)]

theorem from?_eq_some_iff :
    from? text offset = some rest
      ↔ ∃ start, text = start ++ rest ∧ start.utf8ByteSize = offset := by
  constructor
  · intro h
    unfold from? at h
    split at h
    · next hcut =>
      obtain rfl := Option.some.inj h
      exact ⟨_, (splits_iff hcut).mp (text.pos ⟨offset⟩ hcut).splits⟩
    · contradiction
  · rintro ⟨start, h⟩
    have hcut : Boundary text offset := boundary_iff.mpr ⟨start, rest, h⟩
    rw [from?, dif_pos hcut, (text.pos ⟨offset⟩ hcut).splits.eq_right ((splits_iff hcut).mpr h)]

theorem isSome_upTo?_iff : (upTo? text offset).isSome ↔ Boundary text offset := by
  unfold upTo?
  split <;> simp [*]

theorem isSome_from?_iff : (from? text offset).isSome ↔ Boundary text offset := by
  unfold from?
  split <;> simp [*]

/-! ## Bytes of a piece -/

theorem toByteArray_of_upTo? (h : upTo? text offset = some start) :
    start.toByteArray = text.toByteArray.extract 0 offset := by
  obtain ⟨rest, rfl, rfl⟩ := upTo?_eq_some_iff.mp h
  rw [String.toByteArray_append, ByteArray.extract_append_eq_left String.size_toByteArray.symm]

theorem toByteArray_of_from? (h : from? text offset = some rest) :
    rest.toByteArray = text.toByteArray.extract offset text.utf8ByteSize := by
  obtain ⟨start, rfl, rfl⟩ := from?_eq_some_iff.mp h
  rw [String.toByteArray_append, ByteArray.extract_append_eq_right String.size_toByteArray.symm
    (by simp [String.size_toByteArray])]

/-- In UTF-8 the bytes of a piece stand only where the piece itself stands. -/
theorem bytes?_eq_toByteArray_iff {piece : String} (h : piece ≠ "") :
    bytes? text offset (offset + piece.utf8ByteSize) = some piece.toByteArray
      ↔ ∃ start rest, text = start ++ piece ++ rest ∧ start.utf8ByteSize = offset := by
  constructor
  · intro hbytes
    unfold bytes? at hbytes
    split at hbytes
    · next hle =>
      have hpiece := Option.some.inj hbytes
      -- What is cut out is a text, so both of its ends are places for a cut.
      have hvalid := (String.Pos.Raw.isValidUTF8_extract_iff ⟨offset⟩
        ⟨offset + piece.utf8ByteSize⟩ hle.1 hle.2).mp (hpiece ▸ piece.isValidUTF8)
      have hends := hvalid.resolve_left fun heq => h (by simpa [String.Pos.Raw.ext_iff] using heq)
      obtain ⟨start, hstart⟩ := Option.isSome_iff_exists.mp (isSome_upTo?_iff.mpr hends.1)
      obtain ⟨rest, hrest⟩ := Option.isSome_iff_exists.mp (isSome_from?_iff.mpr hends.2)
      obtain ⟨-, -, hsize⟩ := upTo?_eq_some_iff.mp hstart
      refine ⟨start, rest, String.toByteArray_inj.mp ?_, hsize⟩
      calc text.toByteArray
          = text.toByteArray.extract 0 text.utf8ByteSize := by
            rw [← String.size_toByteArray, ByteArray.extract_zero_size]
        _ = text.toByteArray.extract 0 offset
              ++ text.toByteArray.extract offset (offset + piece.utf8ByteSize)
              ++ text.toByteArray.extract (offset + piece.utf8ByteSize) text.utf8ByteSize := by
            rw [← ByteArray.extract_eq_extract_append_extract _ (Nat.zero_le _) hle.1,
              ← ByteArray.extract_eq_extract_append_extract _ (Nat.zero_le _) hle.2]
        _ = (start ++ piece ++ rest).toByteArray := by
            rw [String.toByteArray_append, String.toByteArray_append, toByteArray_of_upTo? hstart,
              toByteArray_of_from? hrest, hpiece]
    · contradiction
  · rintro ⟨start, rest, rfl, rfl⟩
    have hpiece : (start ++ piece ++ rest).toByteArray.extract start.utf8ByteSize
        (start.utf8ByteSize + piece.utf8ByteSize) = piece.toByteArray := by
      rw [String.append_assoc, String.toByteArray_append, String.toByteArray_append,
        ← String.size_toByteArray, ← Nat.add_zero start.toByteArray.size, Nat.add_assoc,
        ByteArray.extract_append_size_add, Nat.zero_add,
        ByteArray.extract_append_eq_left String.size_toByteArray.symm]
    rw [bytes?, if_pos ⟨Nat.le_add_right _ _, by simp⟩, hpiece]

/-! ## Beginnings -/

theorem boundary_of_isPrefix (h : start.toList <+: text.toList) :
    Boundary text start.utf8ByteSize := by
  obtain ⟨rest, hrest⟩ := h
  refine boundary_iff.mpr ⟨start, String.ofList rest, String.toList_injective ?_, rfl⟩
  simp [hrest]

/-- Of two beginnings of a text, the one with fewer bytes is a beginning of the other. -/
theorem isPrefix_of_utf8ByteSize_le {other : String} (hstart : start.toList <+: text.toList)
    (hother : other.toList <+: text.toList) (h : start.utf8ByteSize ≤ other.utf8ByteSize) :
    start.toList <+: other.toList := by
  rcases List.prefix_or_prefix_of_prefix hstart hother with hle | ⟨more, hmore⟩
  · exact hle
  · obtain rfl : start = other ++ String.ofList more := String.toList_injective (by simp [hmore])
    -- Nothing is left for what the first would have in addition.
    rw [String.utf8ByteSize_append] at h
    have hnone : String.ofList more = "" := String.utf8ByteSize_eq_zero_iff.mp (by omega)
    simp [hnone]

/-! ## Going back to a place for a cut -/

theorem boundary_floorBoundary (text : String) (offset : Nat) :
    Boundary text (floorBoundary text offset) := by
  induction offset with
  | zero => exact String.Pos.Raw.isValid_zero
  | succ offset ih =>
    unfold floorBoundary
    split
    · assumption
    · exact ih

theorem floorBoundary_le (text : String) (offset : Nat) : floorBoundary text offset ≤ offset := by
  induction offset with
  | zero => exact Nat.le_refl 0
  | succ offset ih =>
    unfold floorBoundary
    split
    · exact Nat.le_refl _
    · exact Nat.le_succ_of_le ih

/-- No place for a cut is passed over. -/
theorem le_floorBoundary {place : Nat} (h : Boundary text place) (hle : place ≤ offset) :
    place ≤ floorBoundary text offset := by
  induction offset with
  | zero => exact hle
  | succ offset ih =>
    unfold floorBoundary
    split
    · exact hle
    · next hnone =>
      refine ih (Nat.le_of_lt_succ (Nat.lt_of_le_of_ne hle ?_))
      rintro rfl
      exact hnone h

end TableGateway.Text
