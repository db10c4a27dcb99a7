import TableGateway.Identifier
import TableGateway.Proofs.Identifier.Separator

/-!
# The cut by bytes is the split by characters

The search for the separator runs through the bytes of an expression, and the expression is cut at
byte offsets. The bytes of a separator stand nowhere but where its characters stand, whatever
characters of two, three or four bytes are around them. So the first offset found is that of the
first separator, and an expression is written as if it had been split character by character.

Main statements: `cutAlias_eq`, `text_eq_split`, `cutAlias_cutsAtFirst`.
-/

namespace TableGateway.Identifier

open Text

variable {expr left right : String} {offset : Nat}

/-! ## The first offset -/

theorem SeparatedAt.add_four_le (h : SeparatedAt offset expr left right) :
    offset + 4 ≤ expr.utf8ByteSize := by
  obtain ⟨sep, hmem, rfl, rfl⟩ := h
  rw [String.utf8ByteSize_append, String.utf8ByteSize_append, (ofList_separator hmem).2]
  exact Nat.le_add_right _ _

/-- The search ends at the first of the offsets that has a separator, if there is one. -/
theorem cutAtFirst?_outcome {offsets : List Nat}
    (h : ∀ offset ∈ offsets, offset + 4 ≤ expr.utf8ByteSize) :
    cutAtFirst? expr offsets = some none
        ∧ (∀ offset ∈ offsets, ¬ ∃ left right, SeparatedAt offset expr left right)
      ∨ ∃ before offset after left right, offsets = before ++ offset :: after
        ∧ (∀ earlier ∈ before, ¬ ∃ left right, SeparatedAt earlier expr left right)
        ∧ SeparatedAt offset expr left right
        ∧ cutAtFirst? expr offsets = some (some (left, right)) := by
  induction offsets with
  | nil => exact .inl ⟨rfl, fun offset hmem => absurd hmem List.not_mem_nil⟩
  | cons offset later ih =>
    by_cases hsep : ∃ left right, SeparatedAt offset expr left right
    · obtain ⟨left, right, hsep⟩ := hsep
      exact .inr ⟨[], offset, later, left, right, rfl, fun earlier hmem =>
        absurd hmem List.not_mem_nil, hsep, cutAtFirst?_of_separatedAt hsep later⟩
    · rw [cutAtFirst?_of_not_separatedAt (h offset List.mem_cons_self) hsep]
      rcases ih fun other hother => h other (List.mem_cons_of_mem offset hother) with
        ⟨hnone, hall⟩ | ⟨before, found, after, left, right, rfl, hbefore, hfound, hcut⟩
      · exact .inl ⟨hnone, List.forall_mem_cons.mpr ⟨hsep, hall⟩⟩
      · exact .inr ⟨offset :: before, found, after, left, right, rfl,
          List.forall_mem_cons.mpr ⟨hsep, hbefore⟩, hfound, hcut⟩

/-- The checked search gives what the cut is. -/
theorem cutAlias?_eq (expr : String) : cutAlias? expr = some (cutAlias expr) :=
  (Option.some_get (isSome_cutAlias? expr)).symm

/-- An expression is cut at the first offset that has a separator, if there is one. -/
theorem cutAlias_outcome (expr : String) :
    cutAlias expr = none ∧ (∀ offset, ¬ ∃ left right, SeparatedAt offset expr left right)
      ∨ ∃ offset left right, SeparatedAt offset expr left right
        ∧ (∀ earlier < offset, ¬ ∃ left right, SeparatedAt earlier expr left right)
        ∧ cutAlias expr = some (left, right) := by
  have hcut := cutAlias?_eq expr
  unfold cutAlias? at hcut
  split at hcut
  · next hshort =>
    refine .inl ⟨(Option.some.inj hcut).symm, ?_⟩
    rintro offset ⟨left, right, hsep⟩
    have hle := hsep.add_four_le
    omega
  · next hlong =>
    have hfour : 4 ≤ expr.utf8ByteSize := Nat.le_of_not_lt hlong
    have hrange : ∀ offset, offset ∈ List.range (expr.utf8ByteSize - 4 + 1)
        ↔ offset + 4 ≤ expr.utf8ByteSize := fun offset => by
      rw [List.mem_range]
      omega
    rw [excess?, if_pos hfour, Option.bind_eq_bind, Option.bind_some] at hcut
    rcases cutAtFirst?_outcome fun offset => (hrange offset).mp with
      ⟨hnone, hall⟩ | ⟨before, offset, after, left, right, hoffsets, hbefore, hsep, hfound⟩
    · refine .inl ⟨(Option.some.inj (hnone.symm.trans hcut)).symm, fun offset hsep => ?_⟩
      obtain ⟨left, right, hat⟩ := hsep
      exact hall offset ((hrange offset).mpr hat.add_four_le) ⟨left, right, hat⟩
    · refine .inr ⟨offset, left, right, hsep, fun earlier hlt => hbefore earlier ?_,
        (Option.some.inj (hfound.symm.trans hcut)).symm⟩
      -- The offsets ascend without a gap, so all smaller ones stand before.
      rw [List.range_eq_range'] at hoffsets
      obtain ⟨count, -, rfl, hrest⟩ := List.range'_eq_append_iff.mp hoffsets
      obtain ⟨rfl, -⟩ := List.range'_eq_cons_iff.mp hrest.symm
      rw [← List.range_eq_range', List.mem_range]
      omega

/-! ## Characters -/

theorem separatedAt_ofList {earlier sep later : List Char} (hsep : sep ∈ separators)
    (h : expr.toList = earlier ++ sep ++ later) :
    SeparatedAt (String.ofList earlier).utf8ByteSize expr (String.ofList earlier)
      (String.ofList later) := by
  refine ⟨sep, hsep, String.toList_injective ?_, rfl⟩
  simp [h]

theorem hasSeparator_iff :
    HasSeparator expr.toList ↔ ∃ offset left right, SeparatedAt offset expr left right := by
  constructor
  · rintro ⟨sep, hsep, earlier, later, h⟩
    exact ⟨_, _, _, separatedAt_ofList hsep h.symm⟩
  · rintro ⟨offset, left, right, sep, hsep, rfl, -⟩
    exact ⟨sep, hsep, left.toList, right.toList, by simp⟩

/-- The first separator by bytes is the first by characters. -/
theorem SeparatedAt.splitsAtFirst (h : SeparatedAt offset expr left right)
    (hfirst : ∀ earlier < offset, ¬ ∃ left right, SeparatedAt earlier expr left right) :
    SplitsAtFirst expr.toList left.toList right.toList := by
  obtain ⟨sep, hsep, hexpr, rfl⟩ := h
  have haround : expr.toList = left.toList ++ sep ++ right.toList := by simp [hexpr]
  refine ⟨⟨sep, hsep, haround⟩, fun earlier later other hother htext => ?_⟩
  have hleft : left.toList <+: expr.toList :=
    ⟨sep ++ right.toList, by rw [haround, List.append_assoc]⟩
  have hearlier : earlier <+: expr.toList := ⟨other ++ later, by rw [htext, List.append_assoc]⟩
  have hsize : left.utf8ByteSize ≤ (String.ofList earlier).utf8ByteSize :=
    Nat.le_of_not_lt fun hlt => hfirst _ hlt ⟨_, _, separatedAt_ofList hother htext⟩
  rw [← String.toList_ofList (l := earlier)] at hearlier ⊢
  exact (isPrefix_of_utf8ByteSize_le hleft hearlier hsize).length_le

theorem cutAlias_eq (expr : String) :
    cutAlias expr
      = (splitAlias? expr.toList).map fun (left, right) =>
          (String.ofList left, String.ofList right) := by
  rcases cutAlias_outcome expr with ⟨hnone, hall⟩ | ⟨offset, left, right, hsep, hfirst, hcut⟩
  · have hwhole : ¬ HasSeparator expr.toList := fun h => by
      obtain ⟨offset, hsep⟩ := hasSeparator_iff.mp h
      exact hall offset hsep
    rw [hnone, splitAlias?_eq_none_iff.mpr hwhole, Option.map_none]
  · rw [hcut, splitAlias?_eq_some_iff.mpr (hsep.splitsAtFirst hfirst)]
    simp only [Option.map_some, String.ofList_toList]

/-- An expression as it is written, split character by character. -/
theorem text_eq_split (expr : String) :
    text expr
      = match splitAlias? expr.toList with
        | some (left, right) => bareText left ++ " AS " ++ backticked (String.ofList right)
        | none => bareText expr.toList := by
  rw [text, cutAlias_eq]
  cases splitAlias? expr.toList with
  | none => rfl
  | some parts => simp only [Option.map_some, String.toList_ofList]

/-! ## What the cut is -/

/-- The expression is cut around its first separator, and nothing fails on the way there. -/
structure CutsAtFirst (expr : String) : Prop where
  /-- No check fails. -/
  checked : cutAlias? expr = some (cutAlias expr)
  eq_none_iff : cutAlias expr = none ↔ ¬ HasSeparator expr.toList
  eq_some_iff : ∀ left right,
    cutAlias expr = some (left, right) ↔ SplitsAtFirst expr.toList left.toList right.toList
  /-- Wherever four bytes are a separator, the expression can be cut before and behind them. -/
  boundaries : ∀ offset window, bytes? expr offset (offset + 4) = some window →
    isSeparator window = true → Boundary expr offset ∧ Boundary expr (offset + 4)

theorem cutAlias_cutsAtFirst (expr : String) : CutsAtFirst expr where
  checked := cutAlias?_eq expr
  eq_none_iff := by rw [cutAlias_eq, Option.map_eq_none_iff, splitAlias?_eq_none_iff]
  eq_some_iff left right := by
    rw [cutAlias_eq, ← splitAlias?_eq_some_iff, Option.map_eq_some_iff]
    constructor
    · rintro ⟨⟨left', right'⟩, hsplit, hparts⟩
      obtain ⟨rfl, rfl⟩ := Prod.mk.inj hparts
      rw [hsplit, String.toList_ofList, String.toList_ofList]
    · intro hsplit
      exact ⟨_, hsplit, by simp only [String.ofList_toList]⟩
  boundaries offset window hwindow hsep := by
    obtain ⟨left, right, hat⟩ := isSeparator_bytes?_iff.mp ⟨window, hwindow, hsep⟩
    obtain ⟨hleft, hright⟩ := hat.sides
    exact ⟨isSome_upTo?_iff.mp (hleft ▸ rfl), isSome_from?_iff.mp (hright ▸ rfl)⟩

/-- Characters of two, three and four bytes around the separator, and another one behind it. -/
example : cutAlias "né€😀 aS 😀 as é" = some ("né€😀", "😀 as é") := by decide +kernel

end TableGateway.Identifier
