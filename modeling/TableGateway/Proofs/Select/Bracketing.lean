import TableGateway.Proofs.Lexical.Group
import TableGateway.Proofs.Select.Contained
import TableGateway.Proofs.Select.Lists
import TableGateway.Select.Render

/-!
# SELECT statements are well bracketed

A contained statement is neutral, whichever of its four forms it takes (rows, a count, the count of
a united block, a union) and however deep its unions go: each clause is neutral by itself, and a
branch stands in parentheses. The groups at the top of a union are therefore its block and its
branches, each branch behind its keyword.

Main statements: `Contained.neutral_toSql`, `topGroups_toSql`, `toSql_wellBracketed`.
-/

namespace TableGateway

open Lexical

/-! ## Names, labels and conditions are neutral -/

theorem Identifier.neutral_backticked {name : String} (h : '`' ∉ name.toList) :
    Neutral (Identifier.backticked name).toList := by
  rw [Identifier.backticked, String.toList_append, String.toList_append]
  exact Lexical.neutral_backticked h

theorem Identifier.neutral_bareText {expr : List Char} (h : Identifier.BareContained expr) :
    Neutral (Identifier.bareText expr).toList := by
  unfold Identifier.BareContained at h
  unfold Identifier.bareText
  split
  · next hraw =>
    rw [if_pos hraw] at h
    rwa [String.toList_ofList]
  · next hraw =>
    rw [if_neg hraw] at h
    exact Identifier.neutral_backticked (by rwa [String.toList_ofList])

theorem Identifier.neutral_text {expr : String} (h : Identifier.Contained expr) :
    Neutral (Identifier.text expr).toList := by
  unfold Identifier.Contained at h
  rw [Identifier.text_eq_split]
  cases hsplit : Identifier.splitAlias? expr.toList with
  | none =>
    rw [hsplit] at h
    exact Identifier.neutral_bareText h
  | some parts =>
    obtain ⟨left, right⟩ := parts
    rw [hsplit] at h
    have halias : '`' ∉ (String.ofList right).toList := by
      rw [String.toList_ofList]
      exact h.2
    exact ((Identifier.neutral_bareText h.1).append_text (by decide)).append_text
      (Identifier.neutral_backticked halias)

theorem Identifier.neutral_fieldText {label : Option String} {expr : String}
    (hlabel : ∀ l ∈ label, Neutral l.toList) (h : Identifier.Contained expr) :
    Neutral (Identifier.fieldText label expr).toList := by
  have htext := Identifier.neutral_text h
  cases label with
  | none => exact htext
  | some l =>
    simp only [Identifier.fieldText]
    split
    · exact htext
    · exact ((hlabel l rfl).append_text (by decide)).append_text htext

theorem Relation.neutral_text {r : Relation} (h : r.Contained) : Neutral r.text.toList := by
  obtain ⟨table, label⟩ := r
  have hname := Identifier.neutral_backticked h.1
  cases label with
  | none => exact hname
  | some l => exact (hname.append_text (by decide)).append_text (h.2 l rfl)

namespace Select

theorem ConditionText.neutral {text : String} (h : ConditionText text) : Neutral text.toList := by
  obtain ⟨c, hc, rfl⟩ := h
  exact neutral_condition hc.1 hc.2

/-! ## Clauses are neutral -/

theorem neutral_commaJoined {items : List String} (h : ∀ item ∈ items, Neutral item.toList) :
    Neutral (commaJoined items).toList :=
  neutral_intercalate (by decide) h

theorem neutral_listText {keyword : String} {items : List String}
    (hkeyword : Neutral keyword.toList)
    (h : ∀ item ∈ items, Neutral item.toList) : Neutral (listText keyword items).toList := by
  unfold listText
  split
  · exact neutral_nil
  · exact ((neutral_space.append_text hkeyword).append_text neutral_space).append_text
      (neutral_commaJoined h)

theorem neutral_join {α : Type} {text : α → String} {items : List α}
    (h : ∀ item ∈ items, Neutral (text item).toList) :
    Neutral (String.join (items.map text)).toList := by
  rw [String.toList_join, List.flatMap_map]
  exact neutral_flatMap h

theorem neutral_continuation {f : Filter} (h : ConditionText f.condition) :
    Neutral f.continuation.toList := by
  have hkeyword : Neutral f.connective.keyword.toList := by
    cases f.connective <;> decide
  exact ((neutral_space.append_text hkeyword).append_text neutral_space).append_text h.neutral

theorem neutral_filterText (clause : FilterClause) {filters : List Filter}
    (h : ∀ f ∈ filters, ConditionText f.condition) :
    Neutral (filterText clause filters).toList := by
  cases filters with
  | nil => exact neutral_nil
  | cons first rest =>
    have hkeyword : Neutral clause.keyword.toList := by
      cases clause <;> decide
    have hfirst := (h first List.mem_cons_self).neutral
    have hrest : Neutral (String.join (rest.map Filter.continuation)).toList :=
      neutral_join fun f hf => neutral_continuation (h f (List.mem_cons_of_mem _ hf))
    exact (((neutral_space.append_text hkeyword).append_text neutral_space).append_text
      hfirst).append_text hrest

theorem neutral_joinText {j : Join} (hrelation : j.relation.Contained)
    (hcondition : ConditionText j.condition) : Neutral j.text.toList := by
  have hkeyword : Neutral j.kind.keyword.toList := by
    cases j.kind <;> decide
  exact ((((neutral_space.append_text hkeyword).append_text neutral_space).append_text
    (Relation.neutral_text hrelation)).append_text (by decide)).append_text hcondition.neutral

theorem neutral_orderTerm {t : OrderTerm} (h : Identifier.Contained t.expr) :
    Neutral t.text.toList := by
  refine (Identifier.neutral_text h).append_text ?_
  split <;> decide

theorem neutral_limit (l : Limit) : Neutral l.text.toList := by
  have hcount := (figures_natText l.count).neutral
  unfold Limit.text
  split
  · next skip _ =>
    exact ((Neutral.append_text (by decide) (figures_natText skip).neutral).append_text
      (by decide)).append_text hcount
  · exact Neutral.append_text (by decide) hcount

namespace Block

variable {b : Block}

theorem Contained.neutral_fieldTexts (h : b.Contained) :
    ∀ t ∈ b.fieldTexts, Neutral t.toList := by
  intro t ht
  rcases List.mem_append.mp ht with ht | ht
  · obtain ⟨s, hs, ht⟩ := List.mem_flatMap.mp ht
    obtain ⟨f, hf, rfl⟩ := List.mem_map.mp ht
    refine Identifier.neutral_fieldText (h.sources s hs).1.2 ?_
    rcases List.mem_append.mp hf with hf | hf
    · exact (h.sources s hs).2 f hf
    · exact h.columns f hf
  · obtain ⟨j, hj, ht⟩ := List.mem_flatMap.mp ht
    obtain ⟨f, hf, rfl⟩ := List.mem_map.mp ht
    exact Identifier.neutral_fieldText (h.joins j hj).1.2 ((h.joins j hj).2.2 f hf)

theorem Contained.neutral_tableTexts (h : b.Contained) :
    ∀ t ∈ b.tableTexts, Neutral t.toList := by
  intro t ht
  obtain ⟨s, hs, rfl⟩ := List.mem_map.mp ht
  exact Relation.neutral_text (h.sources s hs).1

theorem Contained.neutral_orderText (h : b.Contained) : Neutral b.orderText.toList := by
  unfold orderText
  split
  · refine neutral_listText (by decide) fun t ht => ?_
    obtain ⟨term, hterm, rfl⟩ := List.mem_map.mp ht
    exact neutral_orderTerm (h.ordering term hterm)
  · exact neutral_nil
  · exact neutral_nil

theorem neutral_limitText (b : Block) : Neutral ((b.limit.map Limit.text).getD "").toList := by
  cases b.limit with
  | none => exact neutral_nil
  | some l => exact neutral_limit l

theorem Contained.neutral_body (h : b.Contained) : Neutral b.body.toList := by
  have htables : Neutral (" FROM " ++ b.tableList).toList := by
    rw [tableList_eq]
    exact Neutral.append_text (by decide) (neutral_commaJoined h.neutral_tableTexts)
  have hjoins : Neutral (String.join (b.joins.map Join.text)).toList :=
    neutral_join fun j hj => neutral_joinText (h.joins j hj).1 (h.joins j hj).2.1
  have hgroups : Neutral (listText "GROUP BY" (b.grouping.map Identifier.text)).toList := by
    refine neutral_listText (by decide) fun t ht => ?_
    obtain ⟨g, hg, rfl⟩ := List.mem_map.mp ht
    exact Identifier.neutral_text (h.grouping g hg)
  exact (((((htables.append_text hjoins).append_text
    (neutral_filterText .rows h.filters)).append_text hgroups).append_text
    (neutral_filterText .groups h.groupFilters)).append_text h.neutral_orderText).append_text
    (neutral_limitText b)

theorem Contained.neutral_fieldList (h : b.Contained) : Neutral b.fieldList.toList := by
  rw [fieldList_eq]
  exact neutral_commaJoined h.neutral_fieldTexts

theorem Contained.neutral_rowsText (h : b.Contained) : Neutral b.rowsText.toList := by
  have hdistinct : Neutral (if b.distinct then "DISTINCT " else "").toList := by
    split <;> decide
  exact ((Neutral.append_text (by decide) hdistinct).append_text
    h.neutral_fieldList).append_text h.neutral_body

theorem Contained.neutral_head (h : b.Contained) {head : String}
    (hhead : b.counting.head? = some head) : Neutral head.toList := by
  have hcounting := h.counting
  cases hc : b.counting with
  | off => rw [hc] at hhead; contradiction
  | rows =>
    rw [hc] at hhead
    rw [← Option.some.inj hhead]
    decide
  | distinct field =>
    rw [hc] at hhead hcounting
    have hfield : Neutral field.toList := hcounting
    have hinner : Neutral ("DISTINCT ".toList ++ field.toList) :=
      Neutral.append (by decide) hfield
    have hcount : Neutral "COUNT".toList := by decide
    rw [← Option.some.inj hhead, String.toList_append, String.toList_append]
    exact hcount.append hinner.parenthesised

theorem Contained.neutral_countText (h : b.Contained) {head : String}
    (hhead : b.counting.head? = some head) : Neutral (b.countText head).toList :=
  (Neutral.append_text (by decide) (h.neutral_head hhead)).append_text h.neutral_body

theorem Contained.neutral_outerCountText (h : b.Contained) {head : String}
    (hhead : b.counting.head? = some head) : Neutral (b.outerCountText head).toList := by
  have hinner : Neutral ("SELECT " ++ b.fieldList ++ b.body).toList :=
    (Neutral.append_text (by decide) h.neutral_fieldList).append_text h.neutral_body
  have hstart : Neutral ("SELECT " ++ head ++ " FROM ").toList :=
    (Neutral.append_text (by decide) (h.neutral_head hhead)).append_text (by decide)
  have hend : Neutral " AS u".toList := by decide
  have hall := (hstart.append hinner.parenthesised).append hend
  simpa [outerCountText, List.append_assoc] using hall

end Block

/-! ## Statements are neutral -/

/-- A branch of a union, behind its keyword and in parentheses. -/
theorem neutral_branchText (kind : UnionKind) {text : String} (h : Neutral text.toList) :
    Neutral (" " ++ kind.keyword ++ " (" ++ text ++ ")").toList := by
  have hkeyword : Neutral (" " ++ kind.keyword ++ " ").toList := by
    cases kind <;> decide
  have hall := hkeyword.append h.parenthesised
  simpa [List.append_assoc] using hall

mutual

theorem Contained.neutral_toSql : ∀ {s : Select}, s.Contained → Neutral s.toSql.toList
  | ⟨b, branches⟩, h => by
    rw [toSql]
    cases hhead : b.counting.head? with
    | some head =>
      show Neutral (if branches.isEmpty then _ else _ : String).toList
      split
      · exact h.1.neutral_countText hhead
      · exact h.1.neutral_outerCountText hhead
    | none =>
      show Neutral (if branches.isEmpty then _ else _ : String).toList
      split
      · exact h.1.neutral_rowsText
      · have hgroup := h.1.neutral_rowsText.parenthesised
        have hbranches := neutral_branchesText h.2
        simpa using hgroup.append hbranches

theorem neutral_branchesText : ∀ {branches : List (UnionKind × Select)},
    BranchesContained branches → Neutral (branchesText branches).toList
  | [], _ => neutral_nil
  | (kind, branch) :: rest, h => by
    rw [branchesText]
    exact (neutral_branchText kind (Contained.neutral_toSql h.1)).append_text
      (neutral_branchesText h.2)

end

/-! ## The groups of a union -/

/-- The keyword of a union as it stands between two groups. -/
def UnionKind.separator (kind : UnionKind) : List Char := (" " ++ kind.keyword ++ " ").toList

theorem groupsFrom_branchesText {branches : List (UnionKind × Select)}
    (h : ∀ entry ∈ branches, Neutral entry.2.toSql.toList) :
    topGroups (branchesText branches).toList
      = ⟨branches.map fun entry => (entry.1.separator, entry.2.toSql.toList), []⟩ := by
  induction branches with
  | nil => rfl
  | cons entry rest ih =>
    obtain ⟨kind, branch⟩ := entry
    have hplain : kind.separator.all fun c => c ∉ ['\'', '"', '`', '(', ')'] := by
      cases kind <;> decide
    have hinert : ∀ c ∈ kind.separator, Inert .outside c := fun c hc =>
      inert_outside (of_decide_eq_true (List.all_eq_true.mp hplain c hc))
    have htext : (branchesText ((kind, branch) :: rest)).toList
        = kind.separator ++ ('(' :: branch.toSql.toList ++ ')' :: (branchesText rest).toList) := by
      rw [branchesText]
      simp [UnionKind.separator]
    rw [htext, topGroups, groupsFrom_before hinert,
      groupsFrom_group (h (kind, branch) List.mem_cons_self),
      ih fun other hother => h other (List.mem_cons_of_mem _ hother)]
    rfl

/-- The groups at the top of a union are the block without its branches, and the branches. -/
theorem topGroups_toSql {s : Select} (h : s.Contained) (hcount : s.block.counting = .off)
    (hunion : s.branches ≠ []) :
    topGroups s.toSql.toList
      = ⟨([], ({ s with branches := [] } : Select).toSql.toList)
          :: s.branches.map fun entry => (entry.1.separator, entry.2.toSql.toList), []⟩ := by
  obtain ⟨b, branches⟩ := s
  -- The form is fixed by what is counted and by whether there are branches.
  have hhead : b.counting.head? = none := by
    rw [show b.counting = .off from hcount]
    rfl
  have hempty : branches.isEmpty = false := by
    cases branches with
    | nil => contradiction
    | cons => rfl
  have hbranches := groupsFrom_branchesText fun entry hentry =>
    Contained.neutral_toSql (branchesContained_iff.mp h.2 entry hentry)
  have hblock : toSql ⟨b, []⟩ = b.rowsText := by
    rw [toSql, hhead]
    rfl
  have htext : (toSql ⟨b, branches⟩).toList
      = '(' :: b.rowsText.toList ++ ')' :: (branchesText branches).toList := by
    rw [toSql, hhead, hempty]
    simp
  rw [htext, topGroups, groupsFrom_group h.1.neutral_rowsText, hbranches, hblock]

/-! ## Statements under construction -/

/-- Begin with a contained statement, such as the empty one or one on a table, and take any steps
that add contained things, with any values, uniting with contained statements of any depth. The
statement that comes out is neutral, whether it selects or counts, united or not. If it does not
count and has branches, its groups are the block alone and then each branch as it would be written
by itself, in order, behind `UNION ALL` or `UNION` as it was added. -/
theorem toSql_wellBracketed {start : Select} {steps : List Step} (hstart : start.Contained)
    (hsteps : ∀ step ∈ steps, step.Contained) :
    let s := (Builder.applyAll ⟨Value.literal, start⟩ steps).select
    Neutral s.toSql.toList
      ∧ (s.block.counting = .off → s.branches ≠ [] →
        topGroups s.toSql.toList
          = ⟨([], ({ s with branches := [] } : Select).toSql.toList)
              :: s.branches.map fun entry => (entry.1.separator, entry.2.toSql.toList), []⟩) := by
  intro s
  have hs : s.Contained := contained_applyAll rfl hstart hsteps
  exact ⟨hs.neutral_toSql, topGroups_toSql hs⟩

/-- A bound value that looks like the end of a branch, a table whose name opens a parenthesis, and
a branch without any clause. -/
theorem toSql_wellBracketed_hostile :
    (ofTable "users").Contained
      ∧ (∀ step ∈ [Step.addFilter .rows .and ⟨"a.name = ?", [.text "') UNION (SELECT '"]⟩,
          .addUnion .all (ofTable "o(x"), .addUnion .distinct .empty], step.Contained)
      ∧ topGroups (Builder.applyAll ⟨Value.literal, ofTable "users"⟩
          [.addFilter .rows .and ⟨"a.name = ?", [.text "') UNION (SELECT '"]⟩,
            .addUnion .all (ofTable "o(x"), .addUnion .distinct .empty]).select.toSql.toList
        = ⟨[([], "SELECT a.* FROM `users` a WHERE a.name = '\\') UNION (SELECT \\''".toList),
            (" UNION ALL ".toList, "SELECT a.* FROM `o(x` a".toList),
            (" UNION ".toList, "SELECT  FROM ".toList)], []⟩ := by
  have hstart : (ofTable "users").Contained := contained_ofTable (by decide)
  have hsteps : ∀ step ∈ [Step.addFilter .rows .and ⟨"a.name = ?", [.text "') UNION (SELECT '"]⟩,
      .addUnion .all (ofTable "o(x"), .addUnion .distinct .empty], step.Contained := by
    intro step hstep
    simp only [List.mem_cons, List.not_mem_nil, or_false] at hstep
    rcases hstep with rfl | rfl | rfl
    · exact ⟨by decide, by decide⟩
    · exact contained_ofTable (by decide)
    · exact contained_empty
  refine ⟨hstart, hsteps, ?_⟩
  exact ((toSql_wellBracketed hstart hsteps).2 rfl (List.cons_ne_nil _ _)).trans
    (by decide +kernel)

end Select

end TableGateway
