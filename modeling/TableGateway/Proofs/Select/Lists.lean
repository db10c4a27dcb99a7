import Mathlib.Algebra.GroupWithZero.Nat
import TableGateway.Proofs.Identifier.Enclosed
import TableGateway.Select.Render

/-!
# The lists of a statement

The field list and the table list are written item by item, through all sources and all joins, and a
comma comes before an item as soon as something has been written. So the text itself has to tell
whether an item stands in front of the next one. It does, because the text of an item is never
empty, not even that of the empty name. Sources and joins without fields leave no trace in the list,
and between two items there is one comma, whatever stands in front of them or behind.

Main statements: `fieldText_ne_empty`, `foldl_appendItem_empty`, `fieldList_eq`, `tableList_eq`,
`lists_separated`.
-/

namespace TableGateway

/-! ## The ends of an item -/

theorem head?_append_of_ne_empty {a : String} (h : a ≠ "") (b : String) :
    (a ++ b).toList.head? = a.toList.head? := by
  have hne : a.toList ≠ [] := mt String.toList_eq_nil_iff.mp h
  rw [String.toList_append, List.head?_append, List.head?_eq_some_head hne, Option.some_or]

theorem getLast?_append_of_ne_empty (a : String) {b : String} (h : b ≠ "") :
    (a ++ b).toList.getLast? = b.toList.getLast? := by
  have hne : b.toList ≠ [] := mt String.toList_eq_nil_iff.mp h
  rw [String.toList_append, List.getLast?_append, List.getLast?_eq_some_getLast hne,
    Option.some_or]

namespace Identifier

variable {label : Option String} {expr : String}

theorem bareText_ne_empty (chars : List Char) : bareText chars ≠ "" := by
  unfold bareText
  split
  · next hraw =>
    -- Raw is the star, or what opens with a parenthesis; nothing at all is neither.
    intro hempty
    obtain rfl : chars = [] := by simpa using congrArg String.toList hempty
    contradiction
  · simp [backticked]

theorem text_ne_empty (expr : String) : text expr ≠ "" := by
  rw [text_eq_split]
  split
  · simp
  · exact bareText_ne_empty _

/-- Not even the empty name is written as nothing. -/
theorem fieldText_ne_empty (label : Option String) (expr : String) : fieldText label expr ≠ "" := by
  cases label with
  | none => exact text_ne_empty expr
  | some label =>
    simp only [fieldText]
    split
    · exact text_ne_empty expr
    · simp

theorem head?_bareText (chars : List Char) : (bareText chars).toList.head? ≠ some ',' := by
  unfold bareText
  split
  · next hraw =>
    rw [String.toList_ofList]
    rcases isRaw_iff.mp hraw with rfl | hopen
    · decide
    · rw [hopen]
      decide
  · simp [backticked]

theorem head?_text (expr : String) : (text expr).toList.head? ≠ some ',' := by
  rw [text_eq_split]
  split
  · next left right _ =>
    rw [String.append_assoc, head?_append_of_ne_empty (bareText_ne_empty left)]
    exact head?_bareText left
  · exact head?_bareText expr.toList

/-- Only the label can put a comma at the head of a field. -/
theorem head?_fieldText (h : (fieldText label expr).toList.head? = some ',') :
    ∃ l, label = some l ∧ l.toList.head? = some ',' := by
  cases label with
  | none => exact absurd h (head?_text expr)
  | some l =>
    refine ⟨l, rfl, ?_⟩
    simp only [fieldText] at h
    split at h
    · exact absurd h (head?_text expr)
    · cases hl : l.toList with
      | nil => simp [hl] at h
      | cons c cs => simpa [hl] using h

/-- What does not open with a parenthesis ends with the star or a backtick, and so does what has an
alias. -/
theorem getLast?_text (h : (text expr).toList.getLast? = some ',') :
    expr.toList.head? = some '(' ∧ expr.toList.getLast? = some ',' := by
  rw [text_eq_split] at h
  split at h
  · rw [getLast?_append_backticked] at h
    contradiction
  · unfold bareText at h
    split at h
    · next hraw =>
      rw [String.toList_ofList] at h
      rcases isRaw_iff.mp hraw with hstar | hopen
      · rw [hstar] at h
        contradiction
      · exact ⟨hopen, h⟩
    · rw [← String.empty_append (s := backticked _), getLast?_append_backticked] at h
      contradiction

/-- Only an expression in parentheses can put a comma at the end of a field. -/
theorem getLast?_fieldText (h : (fieldText label expr).toList.getLast? = some ',') :
    expr.toList.head? = some '(' ∧ expr.toList.getLast? = some ',' := by
  cases label with
  | none => exact getLast?_text h
  | some l =>
    simp only [fieldText] at h
    split at h
    · exact getLast?_text h
    · rw [getLast?_append_of_ne_empty _ (text_ne_empty expr)] at h
      exact getLast?_text h

end Identifier

theorem Relation.text_ne_empty (r : Relation) : r.text ≠ "" := by
  unfold Relation.text
  split <;> simp [Identifier.backticked]

namespace Select

/-! ## Lists of items -/

/-- The items with a comma behind each. -/
def commaEnded (items : List String) : String := String.join (items.map fun item => item ++ ",")

/-- The items with a comma before each. -/
def commaLed (items : List String) : String := String.join (items.map fun item => "," ++ item)

variable {items : List String}

theorem commaLed_cons (item : String) (rest : List String) :
    commaLed (item :: rest) = "," ++ item ++ commaLed rest := String.join_cons

theorem commaJoined_cons (item : String) (rest : List String) :
    commaJoined (item :: rest) = item ++ commaLed rest := by
  induction rest generalizing item with
  | nil => simp [commaJoined, commaLed]
  | cons next rest ih =>
    have hnext : commaJoined (item :: next :: rest) = item ++ "," ++ commaJoined (next :: rest) :=
      String.intercalate_cons_cons
    rw [hnext, ih, commaLed_cons]
    simp only [String.append_assoc]

/-- Where an item stands in a list: the comma before it ends the items in front, the comma behind it
leads the others. -/
theorem commaJoined_around (before : List String) (item : String) (after : List String) :
    commaJoined (before ++ item :: after) = commaEnded before ++ item ++ commaLed after := by
  induction before with
  | nil => rw [List.nil_append, commaJoined_cons, commaEnded, List.map_nil, String.join_nil,
      String.empty_append]
  | cons first before ih =>
    have hfirst : commaJoined (first :: (before ++ item :: after))
        = first ++ "," ++ commaJoined (before ++ item :: after) :=
      String.intercalate_cons_of_ne_nil (by simp)
    rw [List.cons_append, hfirst, ih, commaEnded, commaEnded, List.map_cons, String.join_cons]
    simp only [String.append_assoc]

theorem count_commaLed (items : List String) :
    (commaLed items).toList.count ','
      = (items.map fun item => item.toList.count ',').sum + items.length := by
  induction items with
  | nil => rfl
  | cons item rest ih =>
    have hcomma : ",".toList.count ',' = 1 := by decide
    rw [commaLed_cons, String.toList_append, String.toList_append, List.count_append,
      List.count_append, ih, hcomma, List.map_cons, List.sum_cons, List.length_cons]
    omega

/-- Once something has been written, each item gets its comma. -/
theorem foldl_appendItem {written : String} (hne : written ≠ "") (items : List String) :
    items.foldl appendItem written = written ++ commaLed items := by
  induction items generalizing written with
  | nil => simp [commaLed]
  | cons item rest ih =>
    have hempty : ¬ written.isEmpty = true := mt String.isEmpty_iff.mp hne
    rw [List.foldl_cons, appendItem, if_neg hempty, ih (by simp), commaLed_cons]
    simp only [String.append_assoc]

/-- Written item by item, a list comes out joined by commas if no item is empty. -/
theorem foldl_appendItem_empty (h : ∀ item ∈ items, item ≠ "") :
    items.foldl appendItem "" = commaJoined items := by
  cases items with
  | nil => rfl
  | cons item rest =>
    have hfirst : appendItem "" item = item := rfl
    rw [List.foldl_cons, hfirst, foldl_appendItem (h item List.mem_cons_self), commaJoined_cons]

/-- The text is a list of these items, with one comma between two of them. -/
structure Separates (text : String) (items : List String) : Prop where
  joined : text = commaJoined items
  /-- Between two separators stands something, and so it does before the first and behind the
  last. -/
  item_ne_empty : ∀ item ∈ items, item ≠ ""
  /-- There is no separator in front of the first item. -/
  head : text.toList.head? = items.head?.bind fun item => item.toList.head?
  /-- There is none behind the last. -/
  last : text.toList.getLast? = items.getLast?.bind fun item => item.toList.getLast?
  /-- The commas are those within the items, and one between two neighbours. -/
  commas : text.toList.count ','
    = (items.map fun item => item.toList.count ',').sum + (items.length - 1)

theorem separates_commaJoined (h : ∀ item ∈ items, item ≠ "") :
    Separates (commaJoined items) items where
  joined := rfl
  item_ne_empty := h
  head := by
    cases items with
    | nil => rfl
    | cons item rest =>
      rw [commaJoined_cons, head?_append_of_ne_empty (h item List.mem_cons_self)]
      rfl
  last := by
    rcases List.eq_nil_or_concat items with rfl | ⟨before, item, rfl⟩
    · rfl
    · rw [List.concat_eq_append] at h ⊢
      have hend : commaJoined (before ++ [item]) = commaEnded before ++ item := by
        rw [commaJoined_around]
        exact String.append_empty
      rw [hend, getLast?_append_of_ne_empty _ (h item (by simp)), List.getLast?_concat]
      rfl
  commas := by
    cases items with
    | nil => rfl
    | cons item rest =>
      rw [commaJoined_cons, String.toList_append, List.count_append, count_commaLed, List.map_cons,
        List.sum_cons, List.length_cons]
      omega

/-! ## The lists of a block -/

namespace Block

variable (b : Block)

/-- The fields that a block selects, each with the label of its table: source by source its own
fields and then the extra columns, and then join by join. -/
def selected : List (Option String × String) :=
  b.sources.flatMap (fun s => (s.fields ++ b.columns).map fun expr => (s.relation.label, expr))
    ++ b.joins.flatMap fun j => j.fields.map fun expr => (j.relation.label, expr)

theorem fieldTexts_eq :
    b.fieldTexts = b.selected.map fun field => Identifier.fieldText field.1 field.2 := by
  rw [fieldTexts, selected, List.map_append, List.map_flatMap, List.map_flatMap]
  simp only [List.map_map]
  rfl

theorem length_selected :
    b.selected.length
      = (b.sources.map fun s => s.fields.length + b.columns.length).sum
        + (b.joins.map fun j => j.fields.length).sum := by
  simp only [selected, List.length_append, List.length_flatMap, List.length_map]

theorem fieldTexts_ne_empty : ∀ item ∈ b.fieldTexts, item ≠ "" := by
  rw [fieldTexts_eq]
  intro item hitem
  obtain ⟨field, -, rfl⟩ := List.mem_map.mp hitem
  exact Identifier.fieldText_ne_empty field.1 field.2

theorem tableTexts_ne_empty : ∀ item ∈ b.tableTexts, item ≠ "" := by
  intro item hitem
  obtain ⟨s, -, rfl⟩ := List.mem_map.mp hitem
  exact s.relation.text_ne_empty

/-- Going through the sources and the joins writes one list. -/
theorem fieldList_eq : b.fieldList = commaJoined b.fieldTexts := by
  have hfold : b.fieldList = b.fieldTexts.foldl appendItem "" := by
    rw [fieldTexts, List.foldl_append, List.foldl_flatMap, List.foldl_flatMap]
    rfl
  rw [hfold, foldl_appendItem_empty b.fieldTexts_ne_empty]

theorem tableList_eq : b.tableList = commaJoined b.tableTexts := by
  have hfold : b.tableList = b.tableTexts.foldl appendItem "" := List.foldl_map.symm
  rw [hfold, foldl_appendItem_empty b.tableTexts_ne_empty]

/-- The clauses behind the table list. -/
def clauses : String :=
  String.join (b.joins.map Join.text)
    ++ filterText .rows b.filters
    ++ listText "GROUP BY" (b.grouping.map Identifier.text)
    ++ filterText .groups b.groupFilters
    ++ b.orderText
    ++ (b.limit.map Limit.text).getD ""

theorem body_eq_clauses : b.body = " FROM " ++ b.tableList ++ b.clauses := by
  simp only [body, clauses, String.append_assoc]

end Block

/-! ## The lists in their statement -/

theorem toSql_of_off {s : Select} (hoff : s.block.counting = .off) :
    s.toSql
      = (if s.branches.isEmpty then "" else "(") ++ s.block.rowsText
        ++ (if s.branches.isEmpty then "" else ")" ++ branchesText s.branches) := by
  obtain ⟨b, branches⟩ := s
  have hhead : b.counting.head? = none := by rw [show b.counting = .off from hoff]; rfl
  cases branches <;> simp [toSql, hhead, String.append_assoc]

theorem toSql_of_head {s : Select} {head : String} (hhead : s.block.counting.head? = some head) :
    s.toSql
      = "SELECT " ++ head
        ++ (if s.branches.isEmpty then "" else " FROM (SELECT " ++ s.block.fieldList)
        ++ s.block.body ++ (if s.branches.isEmpty then "" else ") AS u") := by
  obtain ⟨b, branches⟩ := s
  cases branches <;> simp_all [toSql, Block.countText, Block.outerCountText, String.append_assoc]

/-- The two lists of a statement hold what they have to, item for item, with one comma between two
items. -/
structure ListsSeparated (s : Select) : Prop where
  fields : Separates s.block.fieldList
    (s.block.selected.map fun field => Identifier.fieldText field.1 field.2)
  tables : Separates s.block.tableList (s.block.sources.map fun source => source.relation.text)
  fieldCount : s.block.selected.length
    = (s.block.sources.map fun source => source.fields.length + s.block.columns.length).sum
      + (s.block.joins.map fun join => join.fields.length).sum
  /-- No field begins with a comma, apart from labels that do. -/
  begins : ∀ field ∈ s.block.selected,
    (Identifier.fieldText field.1 field.2).toList.head? = some ',' →
      ∃ label, field.1 = some label ∧ label.toList.head? = some ','
  /-- No field ends with a comma, apart from an expression in parentheses that does. -/
  ends : ∀ field ∈ s.block.selected,
    (Identifier.fieldText field.1 field.2).toList.getLast? = some ',' →
      field.2.toList.head? = some '(' ∧ field.2.toList.getLast? = some ','
  /-- The lists stand in the statement, in the block of a union as well. -/
  selecting : s.block.counting = .off →
    s.toSql
      = (if s.branches.isEmpty then "" else "(") ++ "SELECT "
        ++ (if s.block.distinct then "DISTINCT " else "") ++ s.block.fieldList
        ++ " FROM " ++ s.block.tableList ++ s.block.clauses
        ++ (if s.branches.isEmpty then "" else ")" ++ branchesText s.branches)
  /-- A count takes the place of the field list, and is in front of it if there are branches. -/
  counting : ∀ head, s.block.counting.head? = some head →
    s.toSql
      = "SELECT " ++ head
        ++ (if s.branches.isEmpty then "" else " FROM (SELECT " ++ s.block.fieldList)
        ++ " FROM " ++ s.block.tableList ++ s.block.clauses
        ++ (if s.branches.isEmpty then "" else ") AS u")

/-- For every statement, whichever of its sources and joins have no fields, and whatever the names
are. -/
theorem lists_separated (s : Select) : ListsSeparated s where
  fields := by
    have hlist := separates_commaJoined s.block.fieldTexts_ne_empty
    rwa [← s.block.fieldList_eq, s.block.fieldTexts_eq] at hlist
  tables := by
    have hlist := separates_commaJoined s.block.tableTexts_ne_empty
    rwa [← s.block.tableList_eq] at hlist
  fieldCount := s.block.length_selected
  begins _ _ := Identifier.head?_fieldText
  ends _ _ := Identifier.getLast?_fieldText
  selecting hoff := by
    rw [toSql_of_off hoff, Block.rowsText, Block.body_eq_clauses]
    simp only [String.append_assoc]
  counting head hhead := by
    rw [toSql_of_head hhead, Block.body_eq_clauses]
    simp only [String.append_assoc]

/-- A source without fields in front, one with the empty name under the empty label, a join without
fields between two that have some. -/
example :
    toSql
      ⟨{ sources := [⟨⟨"x", none⟩, []⟩, ⟨⟨"", some ""⟩, [""]⟩],
         joins := [⟨.inner, ⟨"j", some "j"⟩, "1", ["a", "b"]⟩, ⟨.left, ⟨"k", none⟩, "1", []⟩,
           ⟨.inner, ⟨"l", none⟩, "1", ["*"]⟩] }, []⟩
      = "SELECT .``,j.`a`,j.`b`,* FROM `x`,`` "
        ++ " JOIN `j` j ON 1 LEFT JOIN `k` ON 1 JOIN `l` ON 1" := by
  decide +kernel

end Select

end TableGateway
