import TableGateway.Driver.Scripted
import TableGateway.Proofs.Gateway.Assembly
import TableGateway.Proofs.Select.Lists

/-!
# Counting a statement with branches

A statement that counts and has branches counts the rows of its block from outside: the block stands
in parentheses as it would be written by itself, apart from its order and from dropping repeated
rows. The branches are left out. So the rows of the branches are not counted, and statements with
the same block are counted alike, whatever their branches are.

Main statements: `toSql_counted`, `count_sends_block`, `count_lacks_branch`.
-/

namespace TableGateway

namespace Select

/-- The block of a statement by itself, with all of its rows and in no order. -/
def blockRows (s : Select) : Select :=
  { block := { s.block with counting := .off, distinct := false, ordering := [] } }

theorem toSql_blockRows (s : Select) :
    s.blockRows.toSql
      = "SELECT " ++ commaJoined s.block.fieldTexts ++ s.blockRows.block.body := by
  rw [← s.block.fieldList_eq]
  rfl

/-- A count has no order, so it has the body of the block without its order. -/
theorem body_counted (s : Select) (field : Option String) :
    (s.counted field).block.body = s.blockRows.block.body := by
  cases field <;> rfl

/-- With branches, the block by itself is counted from outside. -/
theorem toSql_counted {s : Select} (hunion : s.branches ≠ []) {field : Option String}
    {head : String} (hhead : (Counting.ofField field).head? = some head) :
    (s.counted field).toSql = "SELECT " ++ head ++ " FROM (" ++ s.blockRows.toSql ++ ") AS u" := by
  have hempty : s.branches.isEmpty = false := by
    rwa [List.isEmpty_eq_false_iff]
  have houter : (s.counted field).toSql = (s.counted field).block.outerCountText head := by
    show toSql ⟨(s.counted field).block, s.branches⟩ = _
    rw [toSql, show (s.counted field).block.counting.head? = some head from hhead, hempty]
    rfl
  have hopen : " FROM (SELECT " = " FROM (" ++ "SELECT " := rfl
  rw [houter, Block.outerCountText, Block.fieldList_eq, body_counted, toSql_blockRows, hopen]
  simp only [String.append_assoc]
  rfl

theorem exists_head_ofField (field : Option String) :
    ∃ head, (Counting.ofField field).head? = some head := by
  cases field with
  | none => exact ⟨_, rfl⟩
  | some field => exact ⟨_, rfl⟩

/-- Counting takes nothing of the branches but that there are some. -/
theorem toSql_counted_congr {s other : Select} (hblock : other.block = s.block)
    (hunion : s.branches ≠ []) (hother : other.branches ≠ []) (field : Option String) :
    (other.counted field).toSql = (s.counted field).toSql := by
  obtain ⟨head, hhead⟩ := exists_head_ofField field
  rw [toSql_counted hunion hhead, toSql_counted hother hhead, blockRows, blockRows, hblock]

end Select

namespace Gateway

variable {δ σ α : Type} [Driver δ σ]

/-- What is sent to count a statement with branches has the block alone between its parentheses, and
the run, with the number that it answers, is the same whatever the branches are. -/
theorem count_sends_block (g : Gateway δ α) {s : Select} (hunion : s.branches ≠ [])
    (field : Option String) (session : Session δ σ) :
    (∃ head, (Select.Counting.ofField field).head? = some head
        ∧ ((g.perform (.count s field)).runFrom session).2.trace
          = session.trace ++ (g.sending .count .query
            { sql := "SELECT " ++ head ++ " FROM (" ++ s.blockRows.toSql ++ ") AS u" }).entries)
      ∧ ∀ other : Select, other.block = s.block → other.branches ≠ [] →
        (g.perform (.count other field)).runFrom session
          = (g.perform (.count s field)).runFrom session := by
  refine ⟨?_, fun other hblock hother => ?_⟩
  · obtain ⟨head, hhead⟩ := Select.exists_head_ofField field
    have htrace : ((g.perform (.count s field)).runFrom session).2.trace
        = session.trace ++ (g.sending .count .query { sql := (s.counted field).toSql }).entries :=
      (trace_perform rfl).trans (by simp)
    rw [Select.toSql_counted hunion hhead] at htrace
    exact ⟨head, hhead, htrace⟩
  · rw [perform, perform, count, count, Select.toSql_counted_congr hblock hunion hother]

/-- A block with an order, a limit and no repeated rows, and two branches, one of them united
itself. -/
theorem count_sends_block_nested :
    let inner := Select.apply Value.literal (.ofTable "teams") (.addUnion .all (.ofTable "crews"))
    let s := (Select.Builder.applyAll ⟨Value.literal, .ofTable "users"⟩
      [.distinct, .addOrder "name" true, .limit 5 none, .addUnion .all (.ofTable "groups"),
        .addUnion .distinct inner]).select
    let g : Gateway ScriptedDriver Row := toTable ⟨"main", .plain⟩ "users"
    let counting := "SELECT COUNT(DISTINCT a.city) FROM (SELECT a.* FROM `users` a LIMIT 5) AS u"
    s.branches ≠ []
      ∧ ((g.perform (.count s (some "a.city"))).runFrom ⟨{}, []⟩).2.trace
        = (g.sending .count .query { sql := counting }).entries := by
  intro inner s g counting
  have hunion : s.branches ≠ [] := List.cons_ne_nil _ _
  obtain ⟨⟨head, hhead, htrace⟩, -⟩ := count_sends_block g hunion (some "a.city") ⟨{}, []⟩
  obtain rfl : "COUNT(DISTINCT a.city)" = head := Option.some.inj hhead
  have hsql : "SELECT " ++ "COUNT(DISTINCT a.city)" ++ " FROM (" ++ s.blockRows.toSql ++ ") AS u"
      = counting := by
    decide +kernel
  rw [hsql] at htrace
  exact ⟨hunion, htrace⟩

/-- The groups are selected and are not counted: their branch is nowhere in what is sent. -/
theorem count_lacks_branch :
    let branch := Select.ofTable "groups"
    let s := Select.apply Value.literal (.ofTable "users") (.addUnion .all branch)
    let g : Gateway ScriptedDriver Row := toTable ⟨"main", .plain⟩ "users"
    let counting := "SELECT COUNT(*) FROM (SELECT a.* FROM `users` a) AS u"
    s.toSql = "(SELECT a.* FROM `users` a) UNION ALL (" ++ branch.toSql ++ ")"
      ∧ ((g.perform (.count s none)).runFrom ⟨{}, []⟩).2.calls
        = [(⟨"main", .plain⟩, .query, { sql := counting })]
      ∧ ¬ branch.toSql.toList <:+: counting.toList := by
  intro branch s g counting
  exact ⟨by decide +kernel, by rfl, by decide +kernel⟩

end Gateway

end TableGateway
