import Mathlib.Logic.Relation
import TableGateway.Proofs.Gateway.UnionCount
import TableGateway.Proofs.Select.History

/-!
# What a count does not see

Ordering a statement, dropping its repeated rows and letting it count already make no difference to
the statement that counts it. If it has no branches its field list makes none either: the count
stands where the field list would stand, and everything from the table list to the conditions on
groups, and the limit, is as in the statement that does not count. With branches the field list is
seen, since the rows of the block are selected before they are counted.

A single such change keeps what a count sees, and so does a sequence of them.

Main statements: `Unseen.seen_eq`, `seen_eq_of_unseen`, `toSql_counted_seen`, `count_blind`.
-/

namespace TableGateway

namespace Select

variable {quote : Value → String} {s t : Select}

/-! ## The text around the field list -/

/-- The statement without its count. -/
def uncounted (s : Select) : Select := { s with block := { s.block with counting := .off } }

def Source.bare (source : Source) : Source := { source with fields := [] }

def Join.bare (join : Join) : Join := { join with fields := [] }

namespace Block

/-- The clauses between the field list and the order. -/
def rowClauses (b : Block) : String :=
  " FROM " ++ commaJoined b.tableTexts
    ++ String.join (b.joins.map Join.text)
    ++ filterText .rows b.filters
    ++ listText "GROUP BY" (b.grouping.map Identifier.text)
    ++ filterText .groups b.groupFilters

def limitText (b : Block) : String := (b.limit.map Limit.text).getD ""

theorem body_eq (b : Block) : b.body = b.rowClauses ++ b.orderText ++ b.limitText := by
  rw [body, tableList_eq]
  rfl

/-- The block with nothing in its field list. -/
def bare (b : Block) : Block :=
  { b with columns := [], sources := b.sources.map Source.bare, joins := b.joins.map Join.bare }

theorem rowClauses_bare (b : Block) : b.bare.rowClauses = b.rowClauses := by
  have htables : b.bare.tableTexts = b.tableTexts := List.map_map
  have hjoins : b.bare.joins.map Join.text = b.joins.map Join.text := List.map_map
  rw [rowClauses, htables, hjoins]
  rfl

end Block

/-- Without branches, the count takes the place of the field list, and there is no order. -/
theorem toSql_counted_alone (hnone : s.branches = []) {field : Option String} {head : String}
    (hhead : (Counting.ofField field).head? = some head) :
    (s.counted field).toSql = "SELECT " ++ head ++ s.block.rowClauses ++ s.block.limitText := by
  have hcount : (s.counted field).toSql = (s.counted field).block.countText head := by
    show toSql ⟨(s.counted field).block, s.branches⟩ = _
    rw [toSql, show (s.counted field).block.counting.head? = some head from hhead, hnone]
    rfl
  have horder : s.blockRows.block.orderText = "" := rfl
  rw [hcount, Block.countText, body_counted, Block.body_eq, horder, String.append_empty,
    ← String.append_assoc]
  rfl

theorem toSql_uncounted_alone (hnone : s.branches = []) :
    s.uncounted.toSql
      = "SELECT " ++ (if s.block.distinct then "DISTINCT " else "")
        ++ commaJoined s.block.fieldTexts ++ s.block.rowClauses
        ++ listText "ORDER BY" (s.block.ordering.map OrderTerm.text) ++ s.block.limitText := by
  have hrows : s.uncounted.toSql = s.uncounted.block.rowsText := by
    show toSql ⟨s.uncounted.block, s.branches⟩ = _
    rw [toSql, hnone]
    rfl
  rw [hrows, Block.rowsText, Block.fieldList_eq, Block.body_eq]
  simp only [String.append_assoc]
  rfl

/-! ## What a count sees -/

/-- What a count sees of a statement: neither order nor repetitions nor an earlier count, and the
field list only with branches. -/
def seen (s : Select) : Select :=
  { s with block := if s.branches.isEmpty then s.blockRows.block.bare else s.blockRows.block }

theorem block_seen_alone (hnone : s.branches = []) : s.seen.block = s.blockRows.block.bare := by
  rw [seen, hnone]
  rfl

theorem block_seen_united (hunion : s.branches ≠ []) : s.seen.block = s.blockRows.block := by
  rw [seen, List.isEmpty_eq_false_iff.mpr hunion]
  rfl

/-- A count needs no more than it sees. -/
theorem toSql_counted_seen (s : Select) (field : Option String) :
    (s.seen.counted field).toSql = (s.counted field).toSql := by
  obtain ⟨head, hhead⟩ := exists_head_ofField field
  by_cases hnone : s.branches = []
  · have hseen : s.seen.branches = [] := hnone
    rw [toSql_counted_alone hnone hhead, toSql_counted_alone hseen hhead, block_seen_alone hnone,
      Block.rowClauses_bare]
    rfl
  · have hseen : s.seen.branches ≠ [] := hnone
    have hrows : s.seen.blockRows = s.blockRows := by
      rw [blockRows, block_seen_united hnone]
      rfl
    rw [toSql_counted hnone hhead, toSql_counted hseen hhead, hrows]

/-- Without branches, statements are seen alike if they are the same but for their field lists. -/
theorem seen_eq_of_bare_eq (hnone : s.branches = []) (hbranches : t.branches = s.branches)
    (hbare : t.blockRows.block.bare = s.blockRows.block.bare) : t.seen = s.seen := by
  have hblock : t.seen.block = s.seen.block := by
    rw [block_seen_alone hnone, block_seen_alone (hbranches.trans hnone), hbare]
  show Select.mk t.seen.block t.branches = ⟨s.seen.block, s.branches⟩
  rw [hblock, hbranches]

/-- A change of a statement that a count is blind to. -/
inductive Unseen (quote : Value → String) : Select → Select → Prop where
  /-- Ordering, dropping repeated rows, or counting. -/
  | step (s : Select) (step : Step) (h : step.clause ∈ [.ordering, .distinct, .counting]) :
    Unseen quote s (s.apply quote step)
  | addColumn (s : Select) (expr : String) (hnone : s.branches = []) :
    Unseen quote s (s.apply quote (.addColumn expr))
  | clearColumns (s : Select) (hnone : s.branches = []) :
    Unseen quote s (s.apply quote .clearColumns)
  /-- Other field lists for the same sources and joins. -/
  | fields (s : Select) (sources : List Source) (joins : List Join) (hnone : s.branches = [])
    (hsources : sources.map Source.bare = s.block.sources.map Source.bare)
    (hjoins : joins.map Join.bare = s.block.joins.map Join.bare) :
    Unseen quote s { s with block := { s.block with sources, joins } }

/-- Each single change keeps what is seen. -/
theorem Unseen.seen_eq (h : Unseen quote s t) : t.seen = s.seen := by
  cases h with
  | step step h =>
    cases step with
    | distinct | count | addOrder | clearOrder => rfl
    | _ => simp [Step.clause] at h
  | addColumn expr hnone => exact seen_eq_of_bare_eq hnone rfl rfl
  | clearColumns hnone =>
    have hsources : (s.block.sources.map Source.bare).map Source.bare
        = s.block.sources.map Source.bare := List.map_map
    refine seen_eq_of_bare_eq hnone rfl ?_
    exact congrArg (fun sources => { s.blockRows.block.bare with sources }) hsources
  | fields sources joins hnone hsources hjoins =>
    refine seen_eq_of_bare_eq hnone rfl ?_
    simp only [blockRows, Block.bare, hsources, hjoins]

/-- So does any number of them. -/
theorem seen_eq_of_unseen (h : Relation.ReflTransGen (Unseen quote) s t) : t.seen = s.seen := by
  induction h with
  | refl => rfl
  | tail _ hlast ih => exact hlast.seen_eq.trans ih

end Select

namespace Gateway

variable {δ σ α : Type} [Driver δ σ]

/-- Changes that a count is blind to change nothing about what is sent to count a statement, nor
about the rest of the run. Without branches, what is sent has the tables, joins, conditions, groups
and limit exactly as the statement has them that selects. -/
theorem count_blind (g : Gateway δ α) {quote : Value → String} {s t : Select}
    (h : Relation.ReflTransGen (Select.Unseen quote) s t) (field : Option String)
    (session : Session δ σ) :
    (g.perform (.count t field)).runFrom session = (g.perform (.count s field)).runFrom session
      ∧ ((g.perform (.count s field)).runFrom session).2.trace
        = session.trace
          ++ (g.sending .count .query { sql := (s.counted field).toSql }).entries
      ∧ (s.branches = [] →
        (∃ head, (Select.Counting.ofField field).head? = some head
          ∧ (s.counted field).toSql
            = "SELECT " ++ head ++ s.block.rowClauses ++ s.block.limitText)
        ∧ s.uncounted.toSql
          = "SELECT " ++ (if s.block.distinct then "DISTINCT " else "")
            ++ Select.commaJoined s.block.fieldTexts ++ s.block.rowClauses
            ++ Select.listText "ORDER BY" (s.block.ordering.map Select.OrderTerm.text)
            ++ s.block.limitText) := by
  refine ⟨?_, (trace_perform rfl).trans (by simp), fun hnone => ⟨?_, ?_⟩⟩
  · have hsql : (t.counted field).toSql = (s.counted field).toSql := by
      rw [← Select.toSql_counted_seen, Select.seen_eq_of_unseen h, Select.toSql_counted_seen]
    rw [perform, perform, count, count, hsql]
  · obtain ⟨head, hhead⟩ := Select.exists_head_ofField field
    exact ⟨head, hhead, Select.toSql_counted_alone hnone hhead⟩
  · exact Select.toSql_uncounted_alone hnone

/-- Other fields, then another column, an order, no repeated rows and a count of another field. -/
theorem count_blind_joined :
    let s := (Select.Builder.applyAll ⟨Value.literal, .ofTable "users"⟩
      [.addJoin .left ⟨"groups", some "g"⟩ ⟨"g.id = a.group_id", []⟩ ["name"],
        .addFilter .rows .and ⟨"a.city = ?", [.text "x"]⟩, .addGroup "city",
        .limit 10 (some 5)]).select
    let sources := s.block.sources.map fun source => { source with fields := ["id", "city"] }
    let joins := s.block.joins.map fun join => { join with fields := [] }
    let refielded : Select := { s with block := { s.block with sources, joins } }
    let t := (Select.Builder.applyAll ⟨Value.literal, refielded⟩
      [.addColumn "a.age", .addOrder "age" true, .distinct, .count (some "city")]).select
    let g : Gateway ScriptedDriver Row := toTable ⟨"main", .plain⟩ "users"
    let counting := "SELECT COUNT(*) FROM `users` a LEFT JOIN `groups` g ON g.id = a.group_id"
      ++ " WHERE a.city = 'x' GROUP BY `city` LIMIT 5,10"
    Relation.ReflTransGen (Select.Unseen Value.literal) s t
      ∧ s.branches = []
      ∧ ((g.perform (.count t none)).runFrom ⟨{}, []⟩).2.trace
        = (g.sending .count .query { sql := counting }).entries
      ∧ s.uncounted.toSql
        = "SELECT a.*,g.`name` FROM `users` a LEFT JOIN `groups` g ON g.id = a.group_id"
          ++ " WHERE a.city = 'x' GROUP BY `city` LIMIT 5,10" := by
  intro s sources joins refielded t g counting
  have hnone : s.branches = [] := rfl
  have hfields : Select.Unseen Value.literal s refielded := .fields s sources joins hnone rfl rfl
  have hsteps : Relation.ReflTransGen (Select.Unseen Value.literal) s t :=
    (((Relation.ReflTransGen.single hfields).tail (.addColumn refielded "a.age" rfl)).tail
      (.step _ (.addOrder "age" true) (by decide))).tail (.step _ .distinct (by decide))
      |>.tail (.step _ (.count (some "city")) (by decide))
  obtain ⟨hrun, htrace, htexts⟩ := count_blind g hsteps none ⟨{}, []⟩
  obtain ⟨⟨head, hhead, hcounted⟩, huncounted⟩ := htexts hnone
  obtain rfl : "COUNT(*)" = head := Option.some.inj hhead
  have hsql : (s.counted none).toSql = counting := hcounted.trans (by decide +kernel)
  rw [hrun, htrace, hsql]
  exact ⟨hsteps, hnone, rfl, huncounted.trans (by decide +kernel)⟩

/-- With branches a further column is counted with the rest of the block. -/
example :
    let s := Select.apply Value.literal (.ofTable "users") (.addUnion .all (.ofTable "groups"))
    ((s.apply Value.literal (.addColumn "id")).counted none).toSql ≠ (s.counted none).toSql := by
  decide +kernel

end Gateway

end TableGateway
