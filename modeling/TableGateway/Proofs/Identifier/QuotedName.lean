import TableGateway.Proofs.Identifier.AliasCut

/-!
# Names read back from backticks

A reader of statements takes a name from its opening backtick to the first one that is not doubled;
a doubled backtick belongs to the name and stands for one. So the texts that denote a name are its
characters with every backtick doubled, in backticks, provided that no further backtick follows.

A name is put into backticks as it is. It is read back exactly if it holds no backtick: only then is
it the same as with its backticks doubled.

Main statements: `quotedName?_eq_some_iff`, `doubled_eq_self_iff`, `quotedName?_text_iff`.
-/

namespace TableGateway.Identifier

variable {name rest : List Char}

/-! ## The reader -/

/-- What is left of a name up to the backtick that closes it, and what follows. -/
def closing? : List Char → Option (List Char × List Char)
  | [] => none
  | '`' :: '`' :: rest => (closing? rest).map fun (name, rest) => ('`' :: name, rest)
  | '`' :: rest => some ([], rest)
  | c :: rest => (closing? rest).map fun (name, rest) => (c :: name, rest)

/-- The name in backticks at the head of a text, and what follows it. -/
def quotedName? : List Char → Option (List Char × List Char)
  | '`' :: rest => closing? rest
  | _ => none

/-- A name as it has to be written between backticks. -/
def doubled (name : List Char) : List Char :=
  name.flatMap fun c => if c = '`' then ['`', '`'] else [c]

theorem doubled_cons_backtick (name : List Char) :
    doubled ('`' :: name) = '`' :: '`' :: doubled name := rfl

theorem doubled_cons {c : Char} (h : c ≠ '`') (name : List Char) :
    doubled (c :: name) = c :: doubled name := by
  rw [doubled, List.flatMap_cons, if_neg h]
  rfl

/-- Doubling makes a name longer by its backticks. -/
theorem length_doubled (name : List Char) :
    (doubled name).length = name.length + name.count '`' := by
  induction name with
  | nil => rfl
  | cons c name ih =>
    by_cases h : c = '`'
    · subst h
      rw [doubled_cons_backtick, List.count_cons_self]
      simp only [List.length_cons, ih]
      omega
    · rw [doubled_cons h, List.count_cons_of_ne h]
      simp only [List.length_cons, ih]
      omega

theorem doubled_eq_self_iff : doubled name = name ↔ '`' ∉ name := by
  constructor
  · intro h
    have hlength := length_doubled name
    rw [h] at hlength
    exact List.count_eq_zero.mp (by omega)
  · intro h
    induction name with
    | nil => rfl
    | cons c name ih =>
      rw [List.mem_cons, not_or] at h
      rw [doubled_cons (Ne.symm h.1), ih h.2]

/-! ## What is read -/

theorem eq_of_closing? {text : List Char} (h : closing? text = some (name, rest)) :
    text = doubled name ++ '`' :: rest ∧ rest.head? ≠ some '`' := by
  fun_induction closing? text generalizing name with
  | case1 => contradiction
  | case2 text ih =>
    obtain ⟨⟨name', rest'⟩, hread, heq⟩ := Option.map_eq_some_iff.mp h
    obtain ⟨rfl, rfl⟩ := Prod.mk.inj heq
    obtain ⟨rfl, hrest⟩ := ih hread
    exact ⟨rfl, hrest⟩
  | case3 text hsingle =>
    obtain ⟨rfl, rfl⟩ := Prod.mk.inj (Option.some.inj h)
    refine ⟨rfl, fun hhead => ?_⟩
    obtain ⟨later, rfl⟩ := List.head?_eq_some_iff.mp hhead
    exact hsingle later rfl
  | case4 c text _ hc ih =>
    obtain ⟨⟨name', rest'⟩, hread, heq⟩ := Option.map_eq_some_iff.mp h
    obtain ⟨rfl, rfl⟩ := Prod.mk.inj heq
    obtain ⟨rfl, hrest⟩ := ih hread
    refine ⟨?_, hrest⟩
    rw [doubled_cons hc]
    rfl

theorem closing?_doubled (name : List Char) (h : rest.head? ≠ some '`') :
    closing? (doubled name ++ '`' :: rest) = some (name, rest) := by
  induction name with
  | nil =>
    cases rest with
    | nil => rfl
    | cons c rest =>
      have hc : c ≠ '`' := fun e => h (by rw [e]; rfl)
      simp [doubled, closing?, hc]
  | cons c name ih =>
    by_cases hc : c = '`'
    · subst hc
      rw [doubled_cons_backtick, List.cons_append, List.cons_append, closing?, ih]
      rfl
    · rw [doubled_cons hc, List.cons_append, closing?, ih]
      · rfl
      · exact fun _ e _ => hc e
      · exact hc

/-- A name is read exactly off its characters with the backticks doubled. -/
theorem quotedName?_eq_some_iff {text : List Char} :
    quotedName? text = some (name, rest)
      ↔ text = '`' :: doubled name ++ '`' :: rest ∧ rest.head? ≠ some '`' := by
  constructor
  · intro h
    unfold quotedName? at h
    split at h
    · obtain ⟨rfl, hrest⟩ := eq_of_closing? h
      exact ⟨rfl, hrest⟩
    · contradiction
  · rintro ⟨rfl, hrest⟩
    exact closing?_doubled name hrest

/-! ## Names as they are written -/

/-- The expression is a name by itself: it is neither raw nor split before an alias. -/
structure IsName (expr : String) : Prop where
  not_star : expr ≠ "*"
  not_open : expr.toList.head? ≠ some '('
  not_split : ¬ HasSeparator expr.toList

variable {expr : String}

theorem IsName.text_eq (h : IsName expr) : text expr = backticked expr := by
  have hstar : expr.toList ≠ ['*'] := fun e => h.not_star (String.toList_injective e)
  have hraw : ¬ isRaw expr.toList = true := mt isRaw_iff.mp (not_or.mpr ⟨hstar, h.not_open⟩)
  rw [text_eq_split, splitAlias?_eq_none_iff.mpr h.not_split]
  simp only [bareText, if_neg hraw, String.ofList_toList]

/-- A label stands before a name with a point. -/
theorem IsName.fieldText_eq (h : IsName expr) (label : Option String) :
    fieldText label expr = (label.map (· ++ ".")).getD "" ++ text expr := by
  cases label with
  | none => exact String.empty_append.symm
  | some label => simp only [fieldText, if_neg h.not_open, Option.map_some, Option.getD_some]

/-- Some name is read from the first backtick to the last exactly if what stands between them is
that name with its backticks doubled. -/
theorem IsName.quotedName?_text_iff (h : IsName expr) {after : String}
    (hafter : after.toList.head? ≠ some '`') :
    quotedName? (text expr ++ after).toList = some (name, after.toList)
      ↔ expr.toList = doubled name := by
  have htext : (text expr ++ after).toList = '`' :: expr.toList ++ '`' :: after.toList := by
    rw [h.text_eq]
    simp [backticked]
  rw [htext, quotedName?_eq_some_iff, List.append_left_inj, List.cons.injEq]
  exact ⟨fun hread => hread.1.2, fun heq => ⟨⟨rfl, heq⟩, hafter⟩⟩

/-- A name is read back from its text exactly if it has no backtick. -/
theorem IsName.readsBack_iff (h : IsName expr) {after : String}
    (hafter : after.toList.head? ≠ some '`') :
    quotedName? (text expr ++ after).toList = some (expr.toList, after.toList)
      ↔ '`' ∉ expr.toList := by
  rw [h.quotedName?_text_iff hafter, eq_comm, doubled_eq_self_iff]

end TableGateway.Identifier
