import TableGateway.Identifier
import TableGateway.Proofs.Identifier.Separator
import TableGateway.Proofs.Lexical.Expansion
import TableGateway.Select.Builder

/-!
# Statements whose parts keep to their places

The names, labels, fields and conditions of a statement come from the caller. `Contained` says of
each that it keeps to its own place: a name in backticks holds no backtick, and what stands as it is
is neutral. Of a condition it is the template that has to be neutral, with its markers outside of
quotations; the values may be any.

A statement is contained by what it holds, however it came to hold it. The empty statement and the
statement on a table are contained, and a step that adds contained things keeps a statement so.

Main statement: `contained_applyAll`.
-/

namespace TableGateway

open Lexical

/-! ## What keeps to its place -/

/-- An expression without an alias: raw ones are neutral, the others do not end their backticks. -/
def Identifier.BareContained (expr : List Char) : Prop :=
  if Identifier.isRaw expr then Neutral expr else '`' ∉ expr

/-- An expression with its alias, where it has one. -/
def Identifier.Contained (expr : String) : Prop :=
  match Identifier.splitAlias? expr.toList with
  | some (left, right) => Identifier.BareContained left ∧ '`' ∉ right
  | none => Identifier.BareContained expr.toList

/-- The name of the table does not end its backticks, and the label is neutral. -/
def Relation.Contained (r : Relation) : Prop :=
  '`' ∉ r.table.toList ∧ ∀ label ∈ r.label, Neutral label.toList

/-- The template is neutral, and its markers stand outside of quotations. -/
def Condition.Contained (c : Condition) : Prop :=
  Neutral c.template.toList ∧ MarkersOutside (.outside 0) c.template.toList c.values

namespace Select

/-- The text of a condition that keeps to its place, with any values in it. -/
def ConditionText (text : String) : Prop :=
  ∃ c : Condition, c.Contained ∧ text = c.text Value.literal

def Counting.Contained : Counting → Prop
  | .off | .rows => True
  | .distinct field => Neutral field.toList

/-- Everything that the block holds keeps to its place. -/
structure Block.Contained (b : Block) : Prop where
  sources : ∀ s ∈ b.sources, s.relation.Contained ∧ ∀ f ∈ s.fields, Identifier.Contained f
  columns : ∀ c ∈ b.columns, Identifier.Contained c
  joins : ∀ j ∈ b.joins, j.relation.Contained ∧ ConditionText j.condition
    ∧ ∀ f ∈ j.fields, Identifier.Contained f
  filters : ∀ f ∈ b.filters, ConditionText f.condition
  grouping : ∀ g ∈ b.grouping, Identifier.Contained g
  groupFilters : ∀ f ∈ b.groupFilters, ConditionText f.condition
  ordering : ∀ t ∈ b.ordering, Identifier.Contained t.expr
  counting : b.counting.Contained

mutual

/-- The block and all branches keep to their places. -/
def Contained : Select → Prop
  | ⟨b, branches⟩ => b.Contained ∧ BranchesContained branches

def BranchesContained : List (UnionKind × Select) → Prop
  | [] => True
  | (_, branch) :: rest => Contained branch ∧ BranchesContained rest

end

theorem branchesContained_iff {branches : List (UnionKind × Select)} :
    BranchesContained branches ↔ ∀ entry ∈ branches, entry.2.Contained := by
  induction branches with
  | nil => simp [BranchesContained]
  | cons entry rest ih => simp [BranchesContained, ih]

/-! ## Steps -/

/-- What the step adds keeps to its place. -/
def Step.Contained : Step → Prop
  | .count field => (Counting.ofField field).Contained
  | .addSource relation fields => relation.Contained ∧ ∀ f ∈ fields, Identifier.Contained f
  | .addColumn expr | .addGroup expr | .addOrder expr _ => Identifier.Contained expr
  | .addJoin _ relation condition fields =>
    relation.Contained ∧ condition.Contained ∧ ∀ f ∈ fields, Identifier.Contained f
  | .addFilter _ _ condition => condition.Contained
  | .addUnion _ branch => branch.Contained
  | .distinct | .clearSources | .clearColumns | .clearJoins | .clearFilters _ | .clearGroups
  | .clearOrder | .limit .. | .clearLimit => True

/-- One more item that has the property. -/
theorem forall_mem_add {α : Type} {p : α → Prop} {items : List α} {item : α}
    (h : ∀ other ∈ items, p other) (hitem : p item) : ∀ other ∈ items ++ [item], p other :=
  List.forall_mem_append.mpr ⟨h, List.forall_mem_singleton.mpr hitem⟩

theorem Block.contained_apply {b : Block} {step : Step} (hb : b.Contained)
    (hstep : step.Contained) : (b.apply Value.literal step).Contained := by
  have hnone : ∀ {α : Type} {p : α → Prop}, ∀ item ∈ ([] : List α), p item :=
    fun item hitem => absurd hitem List.not_mem_nil
  -- A step adds to one part of the block or empties it, and the other parts stay.
  cases step with
  | distinct => exact { hb with }
  | count field => exact { hb with counting := hstep }
  | addSource relation fields =>
    exact { hb with sources := forall_mem_add hb.sources hstep }
  | clearSources => exact { hb with sources := hnone }
  | addColumn expr => exact { hb with columns := forall_mem_add hb.columns hstep }
  | clearColumns =>
    -- The fields of the sources go as well.
    refine { hb with columns := hnone, sources := fun s hs => ?_ }
    obtain ⟨source, hsource, rfl⟩ := List.mem_map.mp hs
    exact ⟨(hb.sources source hsource).1, hnone⟩
  | addJoin kind relation condition fields =>
    obtain ⟨hrelation, hcondition, hfields⟩ := hstep
    have hjoin : ConditionText (condition.text Value.literal) := ⟨condition, hcondition, rfl⟩
    exact { hb with joins := forall_mem_add hb.joins ⟨hrelation, hjoin, hfields⟩ }
  | clearJoins => exact { hb with joins := hnone }
  | addFilter clause connective condition =>
    have hfilter : ConditionText (condition.text Value.literal) := ⟨condition, hstep, rfl⟩
    cases clause with
    | rows => exact { hb with filters := forall_mem_add hb.filters hfilter }
    | groups => exact { hb with groupFilters := forall_mem_add hb.groupFilters hfilter }
  | clearFilters clause =>
    cases clause with
    | rows => exact { hb with filters := hnone }
    | groups => exact { hb with groupFilters := hnone }
  | addGroup expr => exact { hb with grouping := forall_mem_add hb.grouping hstep }
  | clearGroups => exact { hb with grouping := hnone }
  | addOrder expr descending =>
    exact { hb with ordering := forall_mem_add hb.ordering hstep }
  | clearOrder => exact { hb with ordering := hnone }
  | limit count skip => exact { hb with }
  | clearLimit => exact { hb with }
  | addUnion kind branch => exact hb

theorem contained_apply {s : Select} {step : Step} (hs : s.Contained) (hstep : step.Contained) :
    (s.apply Value.literal step).Contained := by
  obtain ⟨b, branches⟩ := s
  obtain ⟨hb, hbranches⟩ := hs
  cases step with
  | addUnion kind branch =>
    refine ⟨hb, branchesContained_iff.mpr ?_⟩
    exact forall_mem_add (branchesContained_iff.mp hbranches) hstep
  | _ => exact ⟨Block.contained_apply hb hstep, hbranches⟩

/-- Contained statements stay so over any sequence of steps that add contained things. -/
theorem contained_applyAll {b : Builder} {steps : List Step} (hquote : b.quote = Value.literal)
    (hs : b.select.Contained) (hsteps : ∀ step ∈ steps, step.Contained) :
    (b.applyAll steps).select.Contained := by
  induction steps generalizing b with
  | nil => exact hs
  | cons step steps ih =>
    refine ih (b := b.apply step) hquote ?_ fun other hother =>
      hsteps other (List.mem_cons_of_mem _ hother)
    rw [Builder.apply, hquote]
    exact contained_apply hs (hsteps step List.mem_cons_self)

theorem contained_empty : Select.empty.Contained :=
  ⟨{ sources := List.forall_mem_nil _, columns := List.forall_mem_nil _,
     joins := List.forall_mem_nil _, filters := List.forall_mem_nil _,
     grouping := List.forall_mem_nil _, groupFilters := List.forall_mem_nil _,
     ordering := List.forall_mem_nil _, counting := trivial }, trivial⟩

theorem contained_ofTable {table : String} (h : '`' ∉ table.toList) :
    (ofTable table).Contained := by
  have hstar : Identifier.Contained "*" := by
    show Neutral ['*']
    decide
  have hlabel : ∀ label ∈ some baseLabel, Neutral label.toList := by
    intro label hlabel
    rw [← Option.some.inj hlabel]
    decide
  refine ⟨{ contained_empty.1 with sources := ?_ }, trivial⟩
  exact List.forall_mem_singleton.mpr ⟨⟨h, hlabel⟩, List.forall_mem_singleton.mpr hstar⟩

end Select

end TableGateway
