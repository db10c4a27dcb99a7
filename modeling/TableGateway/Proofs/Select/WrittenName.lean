import TableGateway.Proofs.Identifier.QuotedName
import TableGateway.Proofs.Select.Lists

/-!
# Names written into a statement

The names to group by, to order by and to select come from outside, and each of them is one item of
its list. Behind an item of a list there is a comma, a keyword after a blank, a parenthesis or
nothing at all, and never a backtick. So a name is read from its place in the statement just as it
is read by itself: it is taken for the name that was given, and the statement goes on behind it,
exactly if it has no backtick. A backtick in a name that is not doubled closes the quotation.

Main statements: `holdsName_grouping`, `holdsName_ordering`, `holdsName_selected`, `name_readsBack`,
`name_closes_itself`.
-/

namespace TableGateway.Select

open Identifier (IsName quotedName? doubled)

/-! ## What follows an item -/

/-- A name in front of this text ends there. -/
def EndsName (text : String) : Prop := text.toList.head? ≠ some '`'

theorem EndsName.append {a b : String} (ha : EndsName a) (hb : EndsName b) : EndsName (a ++ b) := by
  by_cases hne : a = ""
  · rwa [hne, String.empty_append]
  · rwa [EndsName, head?_append_of_ne_empty hne]

theorem endsName_empty : EndsName "" := by
  simp [EndsName]

theorem endsName_blank (rest : String) : EndsName (" " ++ rest) := by
  simp [EndsName]

theorem endsName_listText (keyword : String) (items : List String) :
    EndsName (listText keyword items) := by
  unfold listText
  split
  · exact endsName_empty
  · rw [String.append_assoc, String.append_assoc]
    exact endsName_blank _

theorem endsName_filterText (clause : FilterClause) (filters : List Filter) :
    EndsName (filterText clause filters) := by
  cases filters with
  | nil => exact endsName_empty
  | cons first rest =>
    rw [filterText, String.append_assoc, String.append_assoc, String.append_assoc]
    exact endsName_blank _

theorem endsName_orderText (b : Block) : EndsName b.orderText := by
  unfold Block.orderText
  split
  · exact endsName_listText _ _
  · exact endsName_empty
  · exact endsName_empty

theorem endsName_limitText (limit : Option Limit) : EndsName ((limit.map Limit.text).getD "") := by
  cases limit with
  | none => exact endsName_empty
  | some l =>
    show EndsName l.text
    unfold Limit.text
    split <;> simp [EndsName]

theorem endsName_commaLed (items : List String) : EndsName (commaLed items) := by
  cases items with
  | nil => exact endsName_empty
  | cons item rest =>
    rw [commaLed_cons]
    simp [EndsName]

/-! ## Clauses within their statement -/

variable (s : Select)

theorem off_of_head? {counting : Counting} (h : counting.head? = none) : counting = .off := by
  cases counting with
  | off => rfl
  | rows => contradiction
  | distinct field => contradiction

/-- The block stands in its statement with all that is behind its field list. -/
theorem exists_toSql_body :
    ∃ before after, s.toSql = before ++ s.block.body ++ after ∧ EndsName after := by
  cases hhead : s.block.counting.head? with
  | none =>
    have hoff := off_of_head? hhead
    refine ⟨(if s.branches.isEmpty then "" else "(") ++ "SELECT "
        ++ (if s.block.distinct then "DISTINCT " else "") ++ s.block.fieldList,
      if s.branches.isEmpty then "" else ")" ++ branchesText s.branches, ?_, ?_⟩
    · rw [toSql_of_off hoff, Block.rowsText]
      simp only [String.append_assoc]
    · split <;> simp [EndsName]
  | some head =>
    refine ⟨_, if s.branches.isEmpty then "" else ") AS u", toSql_of_head hhead, ?_⟩
    split <;> simp [EndsName]

theorem exists_toSql_groupText :
    ∃ before after,
      s.toSql = before ++ listText "GROUP BY" (s.block.grouping.map Identifier.text) ++ after
        ∧ EndsName after := by
  obtain ⟨before, after, hsql, hafter⟩ := exists_toSql_body s
  refine ⟨before ++ (" FROM " ++ s.block.tableList ++ String.join (s.block.joins.map Join.text)
      ++ filterText .rows s.block.filters),
    filterText .groups s.block.groupFilters ++ (s.block.orderText
      ++ ((s.block.limit.map Limit.text).getD "" ++ after)), ?_, ?_⟩
  · rw [hsql, Block.body]
    simp only [String.append_assoc]
  · exact (endsName_filterText _ _).append
      ((endsName_orderText _).append ((endsName_limitText _).append hafter))

theorem exists_toSql_orderText :
    ∃ before after, s.toSql = before ++ s.block.orderText ++ after ∧ EndsName after := by
  obtain ⟨before, after, hsql, hafter⟩ := exists_toSql_body s
  refine ⟨before ++ (" FROM " ++ s.block.tableList ++ String.join (s.block.joins.map Join.text)
      ++ filterText .rows s.block.filters
      ++ listText "GROUP BY" (s.block.grouping.map Identifier.text)
      ++ filterText .groups s.block.groupFilters),
    (s.block.limit.map Limit.text).getD "" ++ after, ?_, (endsName_limitText _).append hafter⟩
  rw [hsql, Block.body]
  simp only [String.append_assoc]

/-- The field list stands in a statement that does not count, and in one that counts a block with
branches. -/
theorem exists_toSql_fieldList (h : s.block.counting = .off ∨ s.branches ≠ []) :
    ∃ start ∈ ["SELECT ", "SELECT DISTINCT "], ∃ before after,
      s.toSql = before ++ start ++ s.block.fieldList ++ " FROM " ++ after := by
  cases hhead : s.block.counting.head? with
  | none =>
    have hoff := off_of_head? hhead
    refine ⟨"SELECT " ++ if s.block.distinct then "DISTINCT " else "", ?_,
      if s.branches.isEmpty then "" else "(",
      s.block.tableList ++ s.block.clauses
        ++ (if s.branches.isEmpty then "" else ")" ++ branchesText s.branches), ?_⟩
    · split <;> decide
    · rw [toSql_of_off hoff, Block.rowsText, Block.body_eq_clauses]
      simp only [String.append_assoc]
  | some head =>
    have hunion : s.branches.isEmpty = false := by
      rcases h with hoff | hunion
      · rw [hoff] at hhead
        contradiction
      · exact List.isEmpty_eq_false_iff.mpr hunion
    refine ⟨"SELECT ", by decide, "SELECT " ++ head ++ " FROM (",
      s.block.tableList ++ s.block.clauses ++ ") AS u", ?_⟩
    have hopen : " FROM (SELECT " = " FROM (" ++ "SELECT " := rfl
    rw [toSql_of_head hhead, Block.body_eq_clauses, hunion, if_neg Bool.false_ne_true,
      if_neg Bool.false_ne_true, hopen]
    simp only [String.append_assoc]

/-! ## Names in their lists -/

theorem listText_around (keyword : String) (before : List String) (item : String)
    (after : List String) :
    listText keyword (before ++ item :: after)
      = " " ++ keyword ++ " " ++ commaEnded before ++ item ++ commaLed after := by
  have hne : ¬ (before ++ item :: after).isEmpty = true := by simp
  rw [listText, if_neg hne, commaJoined_around]
  simp only [String.append_assoc]

variable {s} {name : String}

/-- Behind `before` and in front of `after` the statement holds the name, and there the name is read
back, with the statement going on behind it, exactly if it has no backtick. -/
structure HoldsName (s : Select) (name before after : String) : Prop where
  toSql_eq : s.toSql = before ++ Identifier.text name ++ after
  readsBack_iff :
    quotedName? (Identifier.text name ++ after).toList = some (name.toList, after.toList)
      ↔ '`' ∉ name.toList

theorem holdsName_grouping (h : IsName name) {earlier later : List String}
    (hgrouping : s.block.grouping = earlier ++ name :: later) :
    ∃ before after,
      HoldsName s name (before ++ " GROUP BY " ++ commaEnded (earlier.map Identifier.text))
        (commaLed (later.map Identifier.text) ++ after) := by
  obtain ⟨before, after, hsql, hafter⟩ := exists_toSql_groupText s
  refine ⟨before, after, ?_, h.readsBack_iff ((endsName_commaLed _).append hafter)⟩
  have hkeyword : " " ++ "GROUP BY" ++ " " = " GROUP BY " := rfl
  rw [hsql, hgrouping, List.map_append, List.map_cons, listText_around, hkeyword]
  simp only [String.append_assoc]

theorem holdsName_ordering (h : IsName name) {earlier later : List OrderTerm} {descending : Bool}
    (hoff : s.block.counting = .off)
    (hordering : s.block.ordering = earlier ++ ⟨name, descending⟩ :: later) :
    ∃ before after,
      HoldsName s name (before ++ " ORDER BY " ++ commaEnded (earlier.map OrderTerm.text))
        ((if descending then " DESC" else "")
          ++ (commaLed (later.map OrderTerm.text) ++ after)) := by
  obtain ⟨before, after, hsql, hafter⟩ := exists_toSql_orderText s
  refine ⟨before, after, ?_, h.readsBack_iff (EndsName.append ?_ ((endsName_commaLed _).append
    hafter))⟩
  · have hkeyword : " " ++ "ORDER BY" ++ " " = " ORDER BY " := rfl
    have horder :
        s.block.orderText = listText "ORDER BY" (s.block.ordering.map OrderTerm.text) := by
      rw [Block.orderText, hoff]
    rw [hsql, horder, hordering, List.map_append, List.map_cons, listText_around, hkeyword,
      OrderTerm.text]
    simp only [String.append_assoc]
  · split <;> simp [EndsName]

theorem holdsName_selected (h : IsName name) {earlier later : List (Option String × String)}
    {label : Option String} (hlist : s.block.counting = .off ∨ s.branches ≠ [])
    (hselected : s.block.selected = earlier ++ (label, name) :: later) :
    ∃ start ∈ ["SELECT ", "SELECT DISTINCT "], ∃ before after,
      HoldsName s name
        (before ++ start
          ++ commaEnded (earlier.map fun field => Identifier.fieldText field.1 field.2)
          ++ (label.map (· ++ ".")).getD "")
        (commaLed (later.map fun field => Identifier.fieldText field.1 field.2)
          ++ (" FROM " ++ after)) := by
  obtain ⟨start, hstart, before, after, hsql⟩ := exists_toSql_fieldList s hlist
  refine ⟨start, hstart, before, after, ?_,
    h.readsBack_iff ((endsName_commaLed _).append (by simp [EndsName]))⟩
  rw [hsql, Block.fieldList_eq, Block.fieldTexts_eq, hselected, List.map_append, List.map_cons,
    commaJoined_around, h.fieldText_eq]
  simp only [String.append_assoc]

/-- A name is read from its text, by itself and in each list of a statement, exactly if it has no
backtick. -/
structure ReadsBackUnquoted (name : String) : Prop where
  /-- Whole texts denote names that are written with their backticks doubled. -/
  denotes_iff : ∀ other, quotedName? (Identifier.text name).toList = some (other, [])
    ↔ name.toList = doubled other
  itself_iff : quotedName? (Identifier.text name).toList = some (name.toList, [])
    ↔ '`' ∉ name.toList
  grouping : ∀ (s : Select) (earlier later : List String),
    s.block.grouping = earlier ++ name :: later → ∃ before after,
      HoldsName s name (before ++ " GROUP BY " ++ commaEnded (earlier.map Identifier.text))
        (commaLed (later.map Identifier.text) ++ after)
  ordering : ∀ (s : Select) (earlier later : List OrderTerm) (descending : Bool),
    s.block.counting = .off →
    s.block.ordering = earlier ++ ⟨name, descending⟩ :: later → ∃ before after,
      HoldsName s name (before ++ " ORDER BY " ++ commaEnded (earlier.map OrderTerm.text))
        ((if descending then " DESC" else "") ++ (commaLed (later.map OrderTerm.text) ++ after))
  /-- In a field list the name stands behind the label of its table. -/
  selected : ∀ (s : Select) (earlier later : List (Option String × String)) (label : Option String),
    s.block.counting = .off ∨ s.branches ≠ [] →
    s.block.selected = earlier ++ (label, name) :: later →
      ∃ start ∈ ["SELECT ", "SELECT DISTINCT "], ∃ before after,
        HoldsName s name
          (before ++ start
            ++ commaEnded (earlier.map fun field => Identifier.fieldText field.1 field.2)
            ++ (label.map (· ++ ".")).getD "")
          (commaLed (later.map fun field => Identifier.fieldText field.1 field.2)
            ++ (" FROM " ++ after))

theorem name_readsBack (h : IsName name) : ReadsBackUnquoted name where
  denotes_iff other := by
    have hwhole : quotedName? (Identifier.text name ++ "").toList = some (other, "".toList)
        ↔ name.toList = doubled other := h.quotedName?_text_iff endsName_empty
    rwa [String.append_empty] at hwhole
  itself_iff := by
    have hwhole := h.readsBack_iff endsName_empty
    rwa [String.append_empty] at hwhole
  grouping _ _ _ hgrouping := holdsName_grouping h hgrouping
  ordering _ _ _ _ hoff hordering := holdsName_ordering h hoff hordering
  selected _ _ _ _ hlist hselected := holdsName_selected h hlist hselected

/-- A name that looks like the end of an order and the beginning of an alias, between two others. -/
theorem name_readsBack_lookalike :
    let name := "a) DESC, 'b' as"
    let s : Select :=
      ⟨{ sources := [⟨⟨"users", some "a"⟩, allFields⟩], grouping := ["x", name, "y"] }, []⟩
    IsName name ∧ '`' ∉ name.toList
      ∧ quotedName? (Identifier.text name).toList = some (name.toList, [])
      ∧ ∃ before after, s.toSql = before ++ " GROUP BY " ++ "`x`," ++ Identifier.text name ++ after
        ∧ quotedName? (Identifier.text name ++ after).toList
          = some (name.toList, after.toList) := by
  intro name s
  have hname : IsName name := ⟨by decide, by decide, by decide +kernel⟩
  have hplain : '`' ∉ name.toList := by decide
  have h := name_readsBack hname
  obtain ⟨before, after, htext, hreads⟩ := h.grouping s ["x"] ["y"] rfl
  have hearlier : commaEnded (["x"].map Identifier.text) = "`x`," := by decide +kernel
  rw [hearlier] at htext
  exact ⟨hname, hplain, h.itself_iff.mpr hplain, before, _, htext, hreads.mpr hplain⟩

/-- A name with a backtick ends at that backtick, and the rest of it is read as statement: a single
name to order by orders by two. -/
theorem name_closes_itself :
    let sorted (ordering : List OrderTerm) : Select :=
      ⟨{ sources := [⟨⟨"users", some "a"⟩, allFields⟩], ordering := ordering }, []⟩
    IsName "a`b" ∧ Identifier.text "a`b" = "`a`b`"
      ∧ quotedName? (Identifier.text "a`b").toList = some ("a".toList, "b`".toList)
      ∧ quotedName? (Identifier.text "a`b").toList ≠ some ("a`b".toList, [])
      ∧ IsName "id` DESC,`age"
      ∧ (sorted [⟨"id` DESC,`age", false⟩]).toSql
        = (sorted [⟨"id", true⟩, ⟨"age", false⟩]).toSql := by
  intro sorted
  have hshort : IsName "a`b" := ⟨by decide, by decide, by decide⟩
  have hlong : IsName "id` DESC,`age" := ⟨by decide, by decide, by decide +kernel⟩
  refine ⟨hshort, by decide +kernel, by decide +kernel, by decide +kernel, hlong, ?_⟩
  decide +kernel

end TableGateway.Select
