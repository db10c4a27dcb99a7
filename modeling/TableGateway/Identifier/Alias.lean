import TableGateway.Text.Bytes

/-!
# Expressions with an alias

An expression may carry an alias behind the word `as`, in either case and with a space on both
sides. The first such separator counts: what is left of it is the expression, what is right of it
the alias.

The separator is searched for in the bytes of the expression, which is then cut at the offsets
found. It is checked that the offsets to search at do not begin below zero, that there are so many
bytes, and that the expression can be cut; no check fails (`isSome_cutAlias?`).
-/

namespace TableGateway.Identifier

open Text

/-! ## The search -/

/-- The ways to write the separator. -/
def separators : List (List Char) := [" as ", " As ", " aS ", " AS "].map String.toList

/-- A letter as a small one; other bytes stay as they are. -/
def lowerByte (b : UInt8) : UInt8 := if 'A'.toUInt8 ≤ b ∧ b ≤ 'Z'.toUInt8 then b + 32 else b

/-- Whether bytes are a separator. -/
def isSeparator (window : ByteArray) : Bool :=
  match window.data.toList with
  | [first, second, third, fourth] =>
    first == ' '.toUInt8 && lowerByte second == 'a'.toUInt8 && lowerByte third == 's'.toUInt8
      && fourth == ' '.toUInt8
  | _ => false

/-- The texts around the separator at the first of the offsets that has one. There is no answer if
the expression has too few bytes, or cannot be cut where it should be. -/
def cutAtFirst? (expr : String) : List Nat → Option (Option (String × String))
  | [] => some none
  | offset :: later => do
    let window ← bytes? expr offset (offset + 4)
    if isSeparator window then
      let left ← upTo? expr offset
      let right ← from? expr (offset + 4)
      return some (left, right)
    else
      cutAtFirst? expr later

/-- The texts to the left and to the right of the first separator, unless a check fails. -/
def cutAlias? (expr : String) : Option (Option (String × String)) :=
  if expr.utf8ByteSize < 4 then
    some none
  else do
    let last ← excess? expr.utf8ByteSize 4
    cutAtFirst? expr (List.range (last + 1))

/-! ## No check fails -/

/-- A small letter is what is left of itself and of its capital. -/
theorem lowerByte_eq_iff (b small : UInt8) (h : 'a'.toUInt8 ≤ small ∧ small ≤ 'z'.toUInt8) :
    lowerByte b = small ↔ b = small ∨ b = small - 32 := by
  have hcapitals : 'A'.toUInt8 = 65 ∧ 'Z'.toUInt8 = 90 := by decide
  have hsmall : 'a'.toUInt8 = 97 ∧ 'z'.toUInt8 = 122 := by decide
  rw [hsmall.1, hsmall.2] at h
  rw [lowerByte, hcapitals.1, hcapitals.2]
  grind

theorem isSeparator_iff {window : ByteArray} :
    isSeparator window = true ↔ ∃ sep ∈ separators, window = (String.ofList sep).toByteArray := by
  constructor
  · intro h
    unfold isSeparator at h
    split at h
    · next first second third fourth hbytes =>
      have ha := lowerByte_eq_iff second 'a'.toUInt8 (by decide)
      have hs := lowerByte_eq_iff third 's'.toUInt8 (by decide)
      simp only [Bool.and_eq_true, beq_iff_eq, ha, hs] at h
      obtain ⟨⟨⟨rfl, hsecond⟩, hthird⟩, rfl⟩ := h
      have hwindow : window = ⟨⟨[' '.toUInt8, second, third, ' '.toUInt8]⟩⟩ := by
        obtain ⟨⟨bytes⟩⟩ := window
        simpa using hbytes
      rcases hsecond with rfl | rfl <;> rcases hthird with rfl | rfl
      · exact ⟨" as ".toList, by decide, hwindow⟩
      · exact ⟨" aS ".toList, by decide, hwindow⟩
      · exact ⟨" As ".toList, by decide, hwindow⟩
      · exact ⟨" AS ".toList, by decide, hwindow⟩
    · contradiction
  · rintro ⟨sep, hsep, rfl⟩
    revert sep
    decide

/-- A separator stands at the offset, between the two texts. -/
def SeparatedAt (offset : Nat) (expr left right : String) : Prop :=
  ∃ sep ∈ separators, expr = left ++ String.ofList sep ++ right ∧ left.utf8ByteSize = offset

variable {expr left right : String} {offset : Nat}

theorem ofList_separator {sep : List Char} (h : sep ∈ separators) :
    String.ofList sep ≠ "" ∧ (String.ofList sep).utf8ByteSize = 4 := by
  revert sep
  decide

/-- A separator in the bytes is one in the text. -/
theorem isSeparator_bytes?_iff :
    (∃ window, bytes? expr offset (offset + 4) = some window ∧ isSeparator window = true)
      ↔ ∃ left right, SeparatedAt offset expr left right := by
  constructor
  · rintro ⟨window, hwindow, hsep⟩
    obtain ⟨sep, hmem, rfl⟩ := isSeparator_iff.mp hsep
    obtain ⟨hne, hsize⟩ := ofList_separator hmem
    rw [← hsize] at hwindow
    obtain ⟨left, right, hparts⟩ := (bytes?_eq_toByteArray_iff hne).mp hwindow
    exact ⟨left, right, sep, hmem, hparts⟩
  · rintro ⟨left, right, sep, hmem, hparts⟩
    obtain ⟨hne, hsize⟩ := ofList_separator hmem
    refine ⟨_, ?_, isSeparator_iff.mpr ⟨sep, hmem, rfl⟩⟩
    rw [← hsize]
    exact (bytes?_eq_toByteArray_iff hne).mpr ⟨left, right, hparts⟩

/-- On both sides of a separator the text can be cut. -/
theorem SeparatedAt.sides (h : SeparatedAt offset expr left right) :
    upTo? expr offset = some left ∧ from? expr (offset + 4) = some right := by
  obtain ⟨sep, hmem, rfl, rfl⟩ := h
  obtain ⟨-, hsize⟩ := ofList_separator hmem
  constructor
  · exact upTo?_eq_some_iff.mpr ⟨_, String.append_assoc, rfl⟩
  · exact from?_eq_some_iff.mpr ⟨_, rfl, by rw [String.utf8ByteSize_append, hsize]⟩

theorem cutAtFirst?_of_separatedAt (h : SeparatedAt offset expr left right) (later : List Nat) :
    cutAtFirst? expr (offset :: later) = some (some (left, right)) := by
  obtain ⟨window, hwindow, hsep⟩ := isSeparator_bytes?_iff.mpr ⟨left, right, h⟩
  simp only [cutAtFirst?, hwindow, hsep, h.sides.1, h.sides.2, Option.bind_eq_bind,
    Option.bind_some, if_true]
  rfl

theorem cutAtFirst?_of_not_separatedAt (hle : offset + 4 ≤ expr.utf8ByteSize)
    (h : ¬ ∃ left right, SeparatedAt offset expr left right) (later : List Nat) :
    cutAtFirst? expr (offset :: later) = cutAtFirst? expr later := by
  have hwindow : bytes? expr offset (offset + 4)
      = some (expr.toByteArray.extract offset (offset + 4)) :=
    if_pos ⟨Nat.le_add_right offset 4, hle⟩
  have hsep : ¬ isSeparator (expr.toByteArray.extract offset (offset + 4)) = true :=
    fun hsep => h (isSeparator_bytes?_iff.mp ⟨_, hwindow, hsep⟩)
  simp only [cutAtFirst?, hwindow, Option.bind_eq_bind, Option.bind_some, if_neg hsep]

theorem isSome_cutAtFirst? {offsets : List Nat}
    (h : ∀ offset ∈ offsets, offset + 4 ≤ expr.utf8ByteSize) :
    (cutAtFirst? expr offsets).isSome := by
  induction offsets with
  | nil => rfl
  | cons offset later ih =>
    by_cases hsep : ∃ left right, SeparatedAt offset expr left right
    · obtain ⟨left, right, hsep⟩ := hsep
      rw [cutAtFirst?_of_separatedAt hsep]
      rfl
    · rw [cutAtFirst?_of_not_separatedAt (h offset List.mem_cons_self) hsep]
      exact ih fun other hother => h other (List.mem_cons_of_mem offset hother)

theorem isSome_cutAlias? (expr : String) : (cutAlias? expr).isSome := by
  unfold cutAlias?
  split
  · rfl
  · next hlong =>
    have hfour : 4 ≤ expr.utf8ByteSize := Nat.le_of_not_lt hlong
    rw [excess?, if_pos hfour]
    refine isSome_cutAtFirst? fun offset hoffset => ?_
    have hlt := List.mem_range.mp hoffset
    omega

/-- The texts to the left and to the right of the first separator. All checks hold. -/
def cutAlias (expr : String) : Option (String × String) :=
  (cutAlias? expr).get (isSome_cutAlias? expr)

end TableGateway.Identifier
