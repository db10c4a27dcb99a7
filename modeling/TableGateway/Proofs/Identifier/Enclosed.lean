import TableGateway.Proofs.Identifier.AliasCut

/-!
# Expressions in parentheses

An expression in parentheses, from the first character to the last, belongs to no table and is not
quoted. It is written as it is as long as it has no separator, and so it is before an alias; nothing
else inside of it matters. The search for the separator does not know of parentheses, however: an
expression with a separator inside is split there, and what follows, the closing parenthesis among
it, becomes the name of an alias.

Main statements: `Enclosed.getLast?_eq`, `splitsAtFirst_of_not_hasSeparator`,
`text_of_splitsAtFirst`, `text_enclosed`, `text_cuts_enclosed`.
-/

namespace TableGateway.Identifier

/-! ## Matching parentheses -/

/-- How many parentheses more a text opens than it closes. -/
def openCount (text : List Char) : Int := (text.count '(' : Int) - text.count ')'

/-- The first character is a parenthesis, and the one that matches it is the last. -/
def Enclosed (text : List Char) : Prop :=
  text.head? = some '(' ∧ (∀ n < text.length, 0 < n → 0 < openCount (text.take n))
    ∧ openCount text = 0

instance (text : List Char) : Decidable (Enclosed text) :=
  inferInstanceAs (Decidable (_ ∧ _ ∧ _))

/-- Each parenthesis is matched by its own. -/
example : Enclosed "((a) + (b))".toList ∧ ¬ Enclosed "(a) + (b)".toList := by decide

theorem openCount_concat (text : List Char) (c : Char) :
    openCount (text ++ [c]) = openCount text + openCount [c] := by
  simp only [openCount, List.count_append, Int.natCast_add]
  omega

/-- What matches the first parenthesis closes it. -/
theorem Enclosed.getLast?_eq {text : List Char} (h : Enclosed text) :
    text.getLast? = some ')' := by
  obtain ⟨hhead, hopen, hclosed⟩ := h
  rcases List.eq_nil_or_concat text with rfl | ⟨body, c, rfl⟩
  · contradiction
  rw [List.concat_eq_append] at hhead hopen hclosed ⊢
  rw [List.getLast?_concat]
  cases body with
  | nil =>
    -- By itself the first parenthesis stays open.
    obtain rfl : c = '(' := Option.some.inj hhead
    exact absurd hclosed (by decide)
  | cons d body =>
    have hbody : 0 < openCount (d :: body) := by
      have hlt := hopen (d :: body).length (by simp) (by simp)
      rwa [List.take_left] at hlt
    rw [openCount_concat] at hclosed
    by_cases hc : c = ')'
    · rw [hc]
    · have hnone : [c].count ')' = 0 := List.count_eq_zero.mpr (by simpa using Ne.symm hc)
      have hlast : 0 ≤ openCount [c] := by
        rw [openCount, hnone]
        omega
      omega

/-! ## The split of an enclosed expression -/

variable {chars left right : List Char}

/-- A text that reaches beyond `earlier` has its last character from what comes then. -/
theorem mem_of_prefix_append {earlier other : List Char} {c : Char}
    (h : chars <+: earlier ++ other) (hlt : earlier.length < chars.length)
    (hlast : chars.getLast? = some c) : c ∈ other := by
  obtain ⟨inner, rfl⟩ :=
    List.prefix_of_prefix_length_le (List.prefix_append earlier other) h (Nat.le_of_lt hlt)
  have hne : inner ≠ [] := by
    rintro rfl
    rw [List.append_nil] at hlt
    exact Nat.lt_irrefl _ hlt
  rw [List.getLast?_append, List.getLast?_eq_some_getLast hne, Option.some_or] at hlast
  rw [← Option.some.inj hlast]
  exact ((List.prefix_append_right_inj earlier).mp h).subset (List.getLast_mem hne)

/-- Behind a text that closes a parenthesis and has no separator, a separator is the first. -/
theorem splitsAtFirst_of_not_hasSeparator (hlast : chars.getLast? = some ')')
    (h : ¬ HasSeparator chars) {sep : List Char} (hsep : sep ∈ separators) (name : List Char) :
    SplitsAtFirst (chars ++ sep ++ name) chars name := by
  refine ⟨⟨sep, hsep, rfl⟩, fun earlier later other hother htext => ?_⟩
  refine Nat.le_of_not_lt fun hlt => ?_
  have hends : earlier ++ other <+: chars ++ (sep ++ name) :=
    ⟨later, by rw [← htext, List.append_assoc]⟩
  rcases List.prefix_or_prefix_of_prefix hends (List.prefix_append chars _) with hin | hover
  · obtain ⟨rest, hrest⟩ := hin
    exact h ⟨other, hother, earlier, rest, hrest⟩
  · -- A separator that begins within the text and ends behind it would hold the parenthesis.
    exact close_not_mem_of_mem_separators hother (mem_of_prefix_append hover hlt hlast)

/-- What stands before the first separator opens as the text does. -/
theorem SplitsAtFirst.head?_left (h : SplitsAtFirst chars left right)
    (hopen : chars.head? = some '(') : left.head? = some '(' := by
  obtain ⟨⟨sep, hsep, rfl⟩, -⟩ := h
  cases left with
  | nil =>
    have hspace : ∀ sep ∈ separators, (sep ++ right).head? = some ' ' := by
      simp [separators]
    rw [List.nil_append, hspace sep hsep] at hopen
    contradiction
  | cons c left => exact hopen

/-! ## Texts of expressions -/

variable {expr : String}

theorem bareText_of_open (h : chars.head? = some '(') : bareText chars = String.ofList chars := by
  rw [bareText, if_pos (isRaw_iff.mpr (.inr h))]

theorem getLast?_append_backticked (before name : String) :
    (before ++ backticked name).toList.getLast? = some '`' := by
  have hlast : (before ++ backticked name).toList = (before ++ "`" ++ name).toList ++ ['`'] := by
    simp [backticked]
  rw [hlast, List.getLast?_concat]

theorem head?_append_of_open (hopen : expr.toList.head? = some '(') (rest : String) :
    (expr ++ rest).toList.head? = some '(' := by
  rw [String.toList_append, List.head?_append, hopen]
  rfl

/-- No label of a table is put before an expression that opens with a parenthesis. -/
theorem fieldText_of_open (hopen : expr.toList.head? = some '(') (label : Option String) :
    fieldText label expr = text expr := by
  cases label with
  | none => rfl
  | some label => rw [fieldText, if_pos hopen]

theorem text_of_not_hasSeparator (hopen : expr.toList.head? = some '(')
    (h : ¬ HasSeparator expr.toList) : text expr = expr := by
  rw [text_eq_split, splitAlias?_eq_none_iff.mpr h]
  simp only [bareText_of_open hopen, String.ofList_toList]

/-- An expression that opens with a parenthesis is cut at its first separator, whatever follows. -/
theorem text_of_splitsAtFirst (hopen : expr.toList.head? = some '(')
    (h : SplitsAtFirst expr.toList left right) (rest : String) :
    text (expr ++ rest)
      = String.ofList left ++ " AS " ++ backticked (String.ofList right ++ rest) := by
  have hsplit := splitAlias?_eq_some_iff.mpr (h.append rest.toList)
  rw [text_eq_split, String.toList_append, hsplit]
  simp only [bareText_of_open (h.head?_left hopen), String.ofList_append, String.ofList_toList]

/-- An alias is split off at the separator before it if there is none within the parentheses. -/
theorem text_aliased (h : Enclosed expr.toList) (hnone : ¬ HasSeparator expr.toList)
    {sep : String} (hsep : sep.toList ∈ separators) (name : String) :
    text (expr ++ sep ++ name) = expr ++ " AS " ++ backticked name := by
  have hsplit := splitAlias?_eq_some_iff.mpr
    (splitsAtFirst_of_not_hasSeparator h.getLast?_eq hnone hsep name.toList)
  rw [text_eq_split, String.toList_append, String.toList_append, hsplit]
  simp only [bareText_of_open h.1, String.ofList_toList]

/-- What is cut ends with a backtick, and an expression in parentheses does not. -/
theorem not_hasSeparator_of_text_eq (h : Enclosed expr.toList) (htext : text expr = expr) :
    ¬ HasSeparator expr.toList := by
  intro hsep
  obtain ⟨left, right, hsplit⟩ := exists_splitsAtFirst hsep
  have hcut := text_of_splitsAtFirst h.1 hsplit ""
  rw [String.append_empty, String.append_empty, htext] at hcut
  have hlast := h.getLast?_eq
  rw [hcut, getLast?_append_backticked] at hlast
  contradiction

/-- Right before its alias, what is cut further in front has a separator, and no backtick. -/
theorem not_hasSeparator_of_aliased (hopen : expr.toList.head? = some '(') {sep name : String}
    (hsep : sep.toList ∈ separators)
    (htext : text (expr ++ sep ++ name) = expr ++ " AS " ++ backticked name) :
    ¬ HasSeparator expr.toList := by
  intro hinside
  obtain ⟨left, right, hsplit⟩ := exists_splitsAtFirst hinside
  have hcut := text_of_splitsAtFirst hopen hsplit (sep ++ name)
  have hwhole : expr ++ " AS " ++ backticked name = expr ++ " AS " ++ "`" ++ (name ++ "`") := by
    simp only [backticked, String.append_assoc]
  have hparts : String.ofList left ++ " AS " ++ backticked (String.ofList right ++ (sep ++ name))
      = String.ofList left ++ " AS " ++ "`" ++ String.ofList right ++ sep ++ (name ++ "`") := by
    simp only [backticked, String.append_assoc]
  -- Both end with the name and a backtick.
  rw [← String.append_assoc, htext, hwhole, hparts, String.append_left_inj] at hcut
  have hbacktick : (expr ++ " AS " ++ "`").toList.getLast? = some '`' := by
    rw [String.toList_append, List.getLast?_append]
    rfl
  rw [hcut, String.toList_append, List.getLast?_append, getLast?_of_mem_separators hsep,
    Option.some_or] at hbacktick
  contradiction

/-- An expression in parentheses passes unchanged exactly if it holds no separator. -/
structure PassesUnseparated (expr : String) : Prop where
  text_eq_iff : text expr = expr ↔ ¬ HasSeparator expr.toList
  /-- The same goes for the expression before an alias. -/
  aliased_iff : ∀ sep name : String, sep.toList ∈ separators →
    (text (expr ++ sep ++ name) = expr ++ " AS " ++ backticked name
      ↔ ¬ HasSeparator expr.toList)
  unlabelled : ∀ (label : Option String) (rest : String),
    fieldText label (expr ++ rest) = text (expr ++ rest)
  /-- A separator inside is taken for the one before an alias. -/
  cut : ∀ left right, SplitsAtFirst expr.toList left right → ∀ rest,
    text (expr ++ rest) = String.ofList left ++ " AS " ++ backticked (String.ofList right ++ rest)

theorem text_enclosed (h : Enclosed expr.toList) : PassesUnseparated expr where
  text_eq_iff := ⟨not_hasSeparator_of_text_eq h, text_of_not_hasSeparator h.1⟩
  aliased_iff _ name hsep :=
    ⟨not_hasSeparator_of_aliased h.1 hsep, fun hnone => text_aliased h hnone hsep name⟩
  unlabelled label rest := fieldText_of_open (head?_append_of_open h.1 rest) label
  cut _ _ hsplit rest := text_of_splitsAtFirst h.1 hsplit rest

/-- A sub-select in which the word `as` stands behind a tab, and within quotes, so that there is no
separator; and an alias that looks as if it had one. -/
theorem text_enclosed_nested :
    let expr := "(SELECT MAX(b)\tas m, 'as' FROM (t))"
    Enclosed expr.toList ∧ " aS ".toList ∈ separators ∧ ¬ HasSeparator expr.toList
      ∧ text expr = expr
      ∧ fieldText (some "c") (expr ++ " aS " ++ "n as x") = expr ++ " AS `n as x`" := by
  intro expr
  have henclosed : Enclosed expr.toList := by decide +kernel
  have hsep : " aS ".toList ∈ separators := by decide
  have hnone : ¬ HasSeparator expr.toList := by decide +kernel
  have h := text_enclosed henclosed
  have haliased := (h.aliased_iff " aS " "n as x" hsep).mpr hnone
  have hwritten : expr ++ " AS " ++ backticked "n as x" = expr ++ " AS `n as x`" := by
    decide +kernel
  refine ⟨henclosed, hsep, hnone, h.text_eq_iff.mpr hnone, ?_⟩
  rw [String.append_assoc, h.unlabelled, ← String.append_assoc, haliased, hwritten]

/-- A cast is written with a separator, and so is the column of a sub-select: the closing
parenthesis ends up in the backticks, and the one before them is never closed. -/
theorem text_cuts_enclosed :
    Enclosed "(CAST(x as int))".toList
      ∧ text "(CAST(x as int))" = "(CAST(x AS `int))`"
      ∧ text "(CAST(x as int)) as n" = "(CAST(x AS `int)) as n`"
      ∧ fieldText (some "c") "(SELECT y AS z FROM t)" = "(SELECT y AS `z FROM t)`" := by
  decide +kernel

end TableGateway.Identifier
