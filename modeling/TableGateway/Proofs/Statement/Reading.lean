import TableGateway.Proofs.Lexical.Token
import TableGateway.Proofs.Statement.Update

/-!
# Statements read back

A database reads a statement by its tokens. From them it takes what kind of statement it is, the
table, the columns that are written and those that select, and for each question mark the column
that the parameter at this place is for. `Reading.ofText?` is such a reader; it knows nothing of how
statements are put together.

What it reads off a statement is what the statement was made of, as long as table and columns hold
no backticks; nothing else in their names can mislead it. There are as many question marks as
parameters, and the parameter of each is the value of its column.

Main statements: `items?_intercalate`, `Made.readsAs`.
-/

namespace TableGateway.Statement

open Lexical

/-! ## The reader -/

inductive Kind where
  | insert
  | update
  | delete
  | select
  deriving DecidableEq, Repr

/-- What a statement says. -/
structure Reading where
  kind : Kind
  table : String
  /-- The columns that are written. -/
  written : List String := []
  /-- The columns that select. -/
  selecting : List String := []
  /-- For each question mark, in order, the column that it stands for. -/
  marked : List String
  deriving DecidableEq, Repr

namespace Reading

/-- The items of a list, each read by itself. Where there is nothing, there is no item. -/
def items? {α : Type} (separator : Token) (item? : List Token → Option α) :
    List Token → Option (List α)
  | [] => some []
  | token :: tokens => ((token :: tokens).splitOn separator).mapM item?

def column? : List Token → Option String
  | [.name column] => some column
  | _ => none

def mark? : List Token → Option Unit
  | [.sign '?'] => some ()
  | _ => none

/-- A column and the question mark that stands for it. -/
def binding? : List Token → Option String
  | [.name column, .sign '=', .sign '?'] => some column
  | _ => none

/-- An insertion behind the name of its table: columns, and as many question marks. -/
def insertion? (table : String) (tokens : List Token) : Option Reading :=
  match tokens.splitOn (.sign ')') with
  | [.sign '(' :: columns, .word "VALUES" :: .sign '(' :: marks, []] =>
    match items? .comma column? columns, items? .comma mark? marks with
    | some columns, some marks =>
      if marks.length = columns.length then
        some { kind := .insert, table, written := columns, marked := columns }
      else none
    | _, _ => none
  | _ => none

/-- An update behind the name of its table: columns that are set, and columns that select. -/
def update? (table : String) (tokens : List Token) : Option Reading :=
  match tokens.splitOn (.word "WHERE") with
  | [.word "SET" :: written, selecting] =>
    match items? .comma binding? written, items? (.word "AND") binding? selecting with
    | some written, some selecting =>
      some { kind := .update, table, written, selecting, marked := written ++ selecting }
    | _, _ => none
  | _ => none

/-- A statement that only selects, behind the name of its table. -/
def selection? (kind : Kind) (table : String) : List Token → Option Reading
  | .word "WHERE" :: tokens =>
    (items? (.word "AND") binding? tokens).map fun selecting =>
      { kind, table, selecting, marked := selecting }
  | _ => none

def ofTokens? : List Token → Option Reading
  | .word "INSERT" :: .word "INTO" :: .name table :: tokens => insertion? table tokens
  | .word "UPDATE" :: .name table :: tokens => update? table tokens
  | .word "DELETE" :: .word "FROM" :: .name table :: tokens => selection? .delete table tokens
  | .word "SELECT" :: .sign '*' :: .word "FROM" :: .name table :: tokens =>
    selection? .select table tokens
  | _ => none

/-- What the text of a statement says. -/
def ofText? (text : String) : Option Reading := (tokens? text).bind ofTokens?

/-! ## Lists of items -/

theorem mapM_map_eq_some {α β γ : Type} {spell : α → β} {item? : β → Option γ} {f : α → γ}
    (h : ∀ a, item? (spell a) = some (f a)) (items : List α) :
    (items.map spell).mapM item? = some (items.map f) := by
  induction items with
  | nil => rfl
  | cons item rest ih => simp [List.mapM_cons, h, ih]

/-- Items that do not hold the separator are read back. -/
theorem items?_intercalate {α β : Type} (separator : Token) {item? : List Token → Option β}
    (spell : α → List Token) (f : α → β) (h : ∀ a, item? (spell a) = some (f a))
    (hne : ∀ a, spell a ≠ []) (hseparator : ∀ a, separator ∉ spell a) (items : List α) :
    items? separator item? ([separator].intercalate (items.map spell)) = some (items.map f) := by
  have hsplit : ∀ item rest,
      ([separator].intercalate ((item :: rest).map spell)).splitOn separator
        = (item :: rest).map spell := fun item rest =>
    List.splitOn_intercalate separator
      (List.forall_mem_map.mpr fun a _ => hseparator a) (List.cons_ne_nil _ _)
  cases items with
  | nil => rfl
  | cons item rest =>
    have hread := mapM_map_eq_some h (item :: rest)
    rw [← hsplit item rest] at hread
    cases htokens : [separator].intercalate ((item :: rest).map spell) with
    | nil =>
      -- No tokens would be a single item without tokens.
      have hnil := hsplit item rest
      rw [htokens, List.splitOn_nil] at hnil
      exact absurd (List.cons.inj hnil).1.symm (hne item)
    | cons token tokens =>
      rw [htokens] at hread
      exact hread

/-- The tokens of a column that is set to its parameter, or compared with it. -/
def bindingTokens (column : String) : List Token := [.name column, .sign '=', .sign '?']

theorem items?_columns (columns : List String) :
    items? .comma column? ([Token.comma].intercalate (columns.map fun column => [.name column]))
      = some columns := by
  have hread := items?_intercalate .comma (fun column => [Token.name column]) id
    (fun column => show column? [.name column] = some column from rfl) (by simp)
    (by simp [Token.comma]) columns
  rwa [List.map_id] at hread

theorem items?_marks (columns : List String) :
    items? .comma mark? ([Token.comma].intercalate (columns.map fun _ => [Token.marker]))
      = some (columns.map fun _ => ()) :=
  items?_intercalate .comma (fun _ => [Token.marker]) (fun _ => ()) (fun _ => rfl) (by simp)
    (fun _ => by decide) columns

theorem items?_bindings (separator : Token) (h : ∀ column, separator ∉ bindingTokens column)
    (columns : List String) :
    items? separator binding? ([separator].intercalate (columns.map bindingTokens))
      = some columns := by
  have hread := items?_intercalate separator bindingTokens id
    (fun column => show binding? (bindingTokens column) = some column from rfl)
    (by simp [bindingTokens]) h columns
  rwa [List.map_id] at hread

/-! ## Kinds of statements -/

theorem insertion?_tokens (table : String) (columns : List String) :
    insertion? table
        (.sign '(' :: [Token.comma].intercalate (columns.map fun column => [.name column])
          ++ .sign ')' :: .word "VALUES" :: .sign '('
            :: [Token.comma].intercalate (columns.map fun _ => [Token.marker]) ++ [.sign ')'])
      = some { kind := .insert, table, written := columns, marked := columns } := by
  have hnames : Token.sign ')' ∉
      [Token.comma].intercalate (columns.map fun column => [Token.name column]) :=
    not_mem_intercalate (by decide) _ (by simp) columns
  have hmarks : Token.sign ')' ∉ [Token.comma].intercalate (columns.map fun _ => [Token.marker]) :=
    not_mem_intercalate (by decide) _ (fun _ => by decide) columns
  have hread := items?_columns columns
  have hmarked := items?_marks columns
  generalize [Token.comma].intercalate (columns.map fun column => [Token.name column]) = names
    at hnames hread ⊢
  generalize [Token.comma].intercalate (columns.map fun _ => [Token.marker]) = marks
    at hmarks hmarked ⊢
  -- The closing parentheses cut the tokens in three.
  have hsplit : ([Token.sign ')'].intercalate [.sign '(' :: names,
      .word "VALUES" :: .sign '(' :: marks, []]).splitOn (.sign ')')
        = [.sign '(' :: names, .word "VALUES" :: .sign '(' :: marks, []] :=
    List.splitOn_intercalate _ (by simp [hnames, hmarks]) (List.cons_ne_nil _ _)
  have htokens : [Token.sign ')'].intercalate [.sign '(' :: names,
      .word "VALUES" :: .sign '(' :: marks, []]
        = .sign '(' :: names
          ++ .sign ')' :: .word "VALUES" :: .sign '(' :: marks ++ [.sign ')'] := by
    simp [List.intercalate_cons_cons]
  rw [insertion?, ← htokens, hsplit]
  simp [hread, hmarked]

theorem update?_tokens (table : String) (written selecting : List String) :
    update? table
        (.word "SET" :: [Token.comma].intercalate (written.map bindingTokens)
          ++ .word "WHERE" :: [Token.word "AND"].intercalate (selecting.map bindingTokens))
      = some { kind := .update, table, written, selecting, marked := written ++ selecting } := by
  have hset : Token.word "WHERE" ∉ [Token.comma].intercalate (written.map bindingTokens) :=
    not_mem_intercalate (by decide) _ (by simp [bindingTokens]) written
  have hwhere : Token.word "WHERE" ∉
      [Token.word "AND"].intercalate (selecting.map bindingTokens) :=
    not_mem_intercalate (by decide) _ (by simp [bindingTokens]) selecting
  have hwritten := items?_bindings .comma (by simp [bindingTokens, Token.comma]) written
  have hselecting := items?_bindings (.word "AND") (by simp [bindingTokens]) selecting
  generalize [Token.comma].intercalate (written.map bindingTokens) = setting at hset hwritten ⊢
  generalize [Token.word "AND"].intercalate (selecting.map bindingTokens) = conditions
    at hwhere hselecting ⊢
  have hsplit : ([Token.word "WHERE"].intercalate
      [.word "SET" :: setting, conditions]).splitOn (.word "WHERE")
        = [.word "SET" :: setting, conditions] :=
    List.splitOn_intercalate _ (by simp [hset, hwhere]) (List.cons_ne_nil _ _)
  have htokens : [Token.word "WHERE"].intercalate [.word "SET" :: setting, conditions]
      = .word "SET" :: setting ++ .word "WHERE" :: conditions := by
    simp [List.intercalate_cons_cons]
  rw [update?, ← htokens, hsplit]
  simp [hwritten, hselecting]

theorem selection?_tokens (kind : Kind) (table : String) (selecting : List String) :
    selection? kind table
        (.word "WHERE" :: [Token.word "AND"].intercalate (selecting.map bindingTokens))
      = some { kind, table, selecting, marked := selecting } := by
  rw [selection?, items?_bindings _ (by simp [bindingTokens])]
  rfl

end Reading

/-! ## Statements that only select -/

/-- The statement that opens like this and selects by the columns. -/
def selectingBy (opening table : String) (columns : List (String × Value)) : Statement where
  sql := opening ++ Identifier.backticked table ++ " WHERE " ++ conditions (Entries.names columns)
  params := columns.map Prod.snd

/-- Without keys there is nothing to delete by. -/
theorem delete_eq (table : String) (record : Record) (keys : List String) :
    delete table record keys
      = if keys = [] then .error (.noKey table)
        else .ok (selectingBy "DELETE FROM " table
          (keys.map fun key => (key, (record.get? key).getD .null))) := by
  rw [delete, selectingBy, Entries.names_map_graph, List.map_map]
  simp only [List.isEmpty_iff]
  rfl

theorem deleteById_eq (table key : String) (id : Value) :
    deleteById table key id = selectingBy "DELETE FROM " table [(key, id)] := rfl

theorem findById_eq (table key : String) (id : Value) :
    findById table key id = selectingBy "SELECT * FROM " table [(key, id)] := rfl

/-! ## The tokens of statements -/

theorem spells_binding {column : String} (h : '`' ∉ column.toList) :
    Spells (binding column) (Reading.bindingTokens column) :=
  (spells_backticked h).append (by decide : Spells " = ?" [.sign '=', .sign '?'])

theorem spells_assignments {columns : List String} (h : ∀ column ∈ columns, '`' ∉ column.toList) :
    Spells (assignments columns)
      ([Token.comma].intercalate (columns.map Reading.bindingTokens)) :=
  spells_intercalate (by decide) columns fun column hcolumn => spells_binding (h column hcolumn)

theorem spells_conditions {columns : List String} (h : ∀ column ∈ columns, '`' ∉ column.toList) :
    Spells (conditions columns)
      ([Token.word "AND"].intercalate (columns.map Reading.bindingTokens)) :=
  spells_intercalate (by decide) columns fun column hcolumn => spells_binding (h column hcolumn)

/-- The tokens of the two lists of an insertion. -/
theorem spells_insert {table : String} {record : Record} (htable : '`' ∉ table.toList)
    (hcolumns : ∀ column ∈ record.flatten.names, '`' ∉ column.toList) :
    Spells (insert table record).sql
      (.word "INSERT" :: .word "INTO" :: .name table :: (.sign '('
        :: [Token.comma].intercalate (record.flatten.names.map fun column => [.name column])
          ++ .sign ')' :: .word "VALUES" :: .sign '('
            :: [Token.comma].intercalate (record.flatten.names.map fun _ => [Token.marker])
          ++ [.sign ')'])) := by
  have hnames : Spells (",".intercalate (record.flatten.names.map Identifier.backticked))
      ([Token.comma].intercalate (record.flatten.names.map fun column => [.name column])) :=
    spells_intercalate (by decide) _ fun column hcolumn =>
      spells_backticked (hcolumns column hcolumn)
  have hmarks : Spells (",".intercalate (record.flatten.names.map fun _ => "?"))
      ([Token.comma].intercalate (record.flatten.names.map fun _ => [Token.marker])) :=
    spells_intercalate (by decide) _ fun _ _ => by decide
  have hopen : Spells "INSERT INTO " [.word "INSERT", .word "INTO"] := by decide
  have hbetween : Spells ") VALUES (" [.sign ')', .word "VALUES", .sign '('] := by decide
  have htokens := (((((hopen.append (spells_backticked htable)).append
    (by decide : Spells " (" [.sign '('])).append hnames).append hbetween).append hmarks).append
    (by decide : Spells ")" [.sign ')'])
  rw [sql_insert]
  simpa only [List.append_assoc, List.cons_append, List.nil_append] using htokens

/-- The tokens of the two lists of an update. -/
theorem spells_updating {table : String} {record : Record} {keys : List String}
    (htable : '`' ∉ table.toList)
    (hset : ∀ column ∈ Entries.names (record.otherColumns keys), '`' ∉ column.toList)
    (hselect : ∀ column ∈ Entries.names (record.keyColumns keys), '`' ∉ column.toList) :
    Spells (updating table record keys).sql
      (.word "UPDATE" :: .name table :: (.word "SET"
        :: [Token.comma].intercalate
            ((Entries.names (record.otherColumns keys)).map Reading.bindingTokens)
          ++ .word "WHERE" :: [Token.word "AND"].intercalate
            ((Entries.names (record.keyColumns keys)).map Reading.bindingTokens))) := by
  have hopen : Spells "UPDATE " [.word "UPDATE"] := by decide
  have htokens := ((((hopen.append (spells_backticked htable)).append
    (by decide : Spells " SET " [.word "SET"])).append (spells_assignments hset)).append
    (by decide : Spells " WHERE " [.word "WHERE"])).append (spells_conditions hselect)
  rw [updating]
  simpa only [List.append_assoc, List.cons_append, List.nil_append] using htokens

/-- The tokens of a statement that only selects, behind those that it opens with. -/
theorem spells_selectingBy {opening table : String} {words : List Token}
    {columns : List (String × Value)} (hopening : Spells opening words)
    (htable : '`' ∉ table.toList)
    (hcolumns : ∀ column ∈ Entries.names columns, '`' ∉ column.toList) :
    Spells (selectingBy opening table columns).sql
      (words ++ .name table :: .word "WHERE"
        :: [Token.word "AND"].intercalate ((Entries.names columns).map Reading.bindingTokens)) := by
  have htokens := ((hopening.append (spells_backticked htable)).append
    (by decide : Spells " WHERE " [.word "WHERE"])).append (spells_conditions hcolumns)
  rw [selectingBy]
  simpa only [List.append_assoc, List.cons_append, List.nil_append] using htokens

/-! ## What is read off -/

/-- The question marks outside of names. -/
def markCount? (text : String) : Option Nat := (tokens? text).map (List.count Token.marker)

/-- A reader takes off the statement its kind, its table, and in order the columns that are written
and that select. There is a question mark for each parameter, and the parameters are the values of
the columns that the question marks stand for, in the same order. -/
structure ReadsAs (s : Statement) (kind : Kind) (table : String)
    (written selecting : List (String × Value)) : Prop where
  reading : Reading.ofText? s.sql = some
    { kind, table, written := Entries.names written, selecting := Entries.names selecting,
      marked := Entries.names (written ++ selecting) }
  marks : markCount? s.sql = some s.params.length
  params : s.params = (written ++ selecting).map Prod.snd

theorem ReadsAs.of_spells {s : Statement} {kind : Kind} {table : String}
    {written selecting : List (String × Value)} {tokens : List Token} (h : Spells s.sql tokens)
    (hreading : Reading.ofTokens? tokens = some
      { kind, table, written := Entries.names written, selecting := Entries.names selecting,
        marked := Entries.names (written ++ selecting) })
    (hmarks : tokens.count .marker = (written ++ selecting).length)
    (hparams : s.params = (written ++ selecting).map Prod.snd) :
    ReadsAs s kind table written selecting where
  reading := by rw [Reading.ofText?, h.tokens?_eq, Option.bind_some, hreading]
  marks := by rw [markCount?, h.tokens?_eq, Option.map_some, hmarks, hparams, List.length_map]
  params := hparams

/-- Bindings have a question mark each. -/
theorem count_bindings (separator : Token) (hne : Token.marker ≠ separator)
    (columns : List String) :
    ([separator].intercalate (columns.map Reading.bindingTokens)).count .marker
      = columns.length := by
  rw [count_intercalate hne Reading.bindingTokens (fun column => by rfl), Nat.mul_one]

theorem readsAs_insert {table : String} {record : Record} (htable : '`' ∉ table.toList)
    (hcolumns : ∀ column ∈ record.flatten.names, '`' ∉ column.toList) :
    ReadsAs (insert table record) .insert table record.flatten.entries [] := by
  have hnames : ([Token.comma].intercalate
      (record.flatten.names.map fun column => [Token.name column])).count .marker = 0 :=
    List.count_eq_zero.mpr (not_mem_intercalate (by decide) _ (by simp [Token.marker]) _)
  have hmarks : ([Token.comma].intercalate
      (record.flatten.names.map fun _ => [Token.marker])).count .marker
        = record.flatten.names.length := by
    rw [count_intercalate (by decide) (fun _ => [Token.marker])
      (fun _ => List.count_singleton_self), Nat.mul_one]
  refine .of_spells (spells_insert htable hcolumns) ?_ ?_ ?_
  · rw [List.append_nil]
    exact Reading.insertion?_tokens table record.flatten.names
  · -- No token of the frame is a question mark.
    simp only [List.count_cons, List.count_append, hnames, hmarks]
    simp [Token.marker, OrderedMap.names, Entries.names]
  · rw [List.append_nil]
    rfl

theorem readsAs_updating {table : String} {record : Record} {keys : List String}
    (htable : '`' ∉ table.toList)
    (hset : ∀ column ∈ Entries.names (record.otherColumns keys), '`' ∉ column.toList)
    (hselect : ∀ column ∈ Entries.names (record.keyColumns keys), '`' ∉ column.toList) :
    ReadsAs (updating table record keys) .update table
      (record.otherColumns keys) (record.keyColumns keys) := by
  refine .of_spells (spells_updating htable hset hselect) ?_ ?_ ?_
  · rw [Entries.names_append]
    exact Reading.update?_tokens table _ _
  · simp only [List.count_cons, List.count_append,
      count_bindings _ (by decide : Token.marker ≠ Token.comma),
      count_bindings _ (by decide : Token.marker ≠ Token.word "AND")]
    simp [Token.marker, Entries.names]
  · rw [List.map_append]
    rfl

/-- A statement that only selects is told by what it opens with. -/
theorem readsAs_selectingBy {kind : Kind} {opening table : String} {words : List Token}
    {columns : List (String × Value)} (hopening : Spells opening words)
    (hwords : Token.marker ∉ words)
    (hkind : ∀ tokens, Reading.ofTokens? (words ++ .name table :: tokens)
      = Reading.selection? kind table tokens)
    (htable : '`' ∉ table.toList)
    (hcolumns : ∀ column ∈ Entries.names columns, '`' ∉ column.toList) :
    ReadsAs (selectingBy opening table columns) kind table [] columns := by
  refine .of_spells (spells_selectingBy hopening htable hcolumns) ?_ ?_ rfl
  · rw [hkind, Reading.selection?_tokens]
    rfl
  · rw [List.count_append, List.count_eq_zero.mpr hwords]
    simp only [List.count_cons, count_bindings _ (by decide : Token.marker ≠ Token.word "AND")]
    simp [Token.marker, Entries.names]

theorem readsAs_deletingBy {table : String} {columns : List (String × Value)}
    (htable : '`' ∉ table.toList)
    (hcolumns : ∀ column ∈ Entries.names columns, '`' ∉ column.toList) :
    ReadsAs (selectingBy "DELETE FROM " table columns) .delete table [] columns :=
  have hopening : Spells "DELETE FROM " [.word "DELETE", .word "FROM"] := by decide
  readsAs_selectingBy hopening (by decide) (fun _ => rfl) htable hcolumns

theorem readsAs_findingBy {table : String} {columns : List (String × Value)}
    (htable : '`' ∉ table.toList)
    (hcolumns : ∀ column ∈ Entries.names columns, '`' ∉ column.toList) :
    ReadsAs (selectingBy "SELECT * FROM " table columns) .select table [] columns :=
  have hopening : Spells "SELECT * FROM " [.word "SELECT", .sign '*', .word "FROM"] := by decide
  readsAs_selectingBy hopening (by decide) (fun _ => rfl) htable hcolumns

/-! ## All statements -/

/-- The statements for a table, and what each is made of: the columns that it writes and those that
select, with their values. -/
inductive Made (table : String) :
    Statement → Kind → List (String × Value) → List (String × Value) → Prop
  | insert (record : Record) :
    Made table (Statement.insert table record) .insert record.flatten.entries []
  | update {record : Record} {keys : List String} {s : Statement}
    (h : Statement.update table record keys = .ok s) :
    Made table s .update (record.otherColumns keys) (record.keyColumns keys)
  | delete {record : Record} {keys : List String} {s : Statement}
    (h : Statement.delete table record keys = .ok s) :
    Made table s .delete [] (keys.map fun key => (key, (record.get? key).getD .null))
  | deleteById (key : String) (id : Value) :
    Made table (Statement.deleteById table key id) .delete [] [(key, id)]
  | findById (key : String) (id : Value) :
    Made table (Statement.findById table key id) .select [] [(key, id)]

/-- Where no name holds a backtick, every statement reads back as what it is made of. -/
theorem Made.readsAs {table : String} {s : Statement} {kind : Kind}
    {written selecting : List (String × Value)} (h : Made table s kind written selecting)
    (htable : '`' ∉ table.toList)
    (hcolumns : ∀ column ∈ Entries.names (written ++ selecting), '`' ∉ column.toList) :
    ReadsAs s kind table written selecting := by
  rw [Entries.names_append] at hcolumns
  obtain ⟨hwritten, hselecting⟩ := List.forall_mem_append.mp hcolumns
  cases h with
  | insert record => exact readsAs_insert htable hwritten
  | @update record keys s h =>
    rw [update_eq] at h
    split at h
    · contradiction
    · split at h
      · contradiction
      · obtain rfl := Except.ok.inj h
        exact readsAs_updating htable hwritten hselecting
  | @delete record keys s h =>
    rw [delete_eq] at h
    split at h
    · contradiction
    · obtain rfl := Except.ok.inj h
      exact readsAs_deletingBy htable hselecting
  | deleteById key id =>
    rw [deleteById_eq]
    exact readsAs_deletingBy htable hselecting
  | findById key id =>
    rw [findById_eq]
    exact readsAs_findingBy htable hselecting

/-- Neither the table nor the columns of this update can be told apart from the text around them
once the backticks are gone. -/
theorem Made.readsAs_hostile :
    let table := "t SET ?"
    let record := Record.row
      ((Row.empty.setNested "a = ?, b" (Row.empty.set " AND c" (.int 1))).set
        ") WHERE ?" (.text "` = ?"))
    let keys := [") WHERE ?"]
    let s := updating table record keys
    Statement.update table record keys = .ok s
      ∧ s.sql = "UPDATE `t SET ?` SET `a = ?, b. AND c` = ? WHERE `) WHERE ?` = ?"
      ∧ ReadsAs s .update table [("a = ?, b. AND c", .int 1)] [(") WHERE ?", .text "` = ?")] := by
  intro table record keys s
  have hupdate : Statement.update table record keys = .ok s := rfl
  have htable : '`' ∉ table.toList := by decide +kernel
  have hcolumns : ∀ column ∈ Entries.names (record.otherColumns keys ++ record.keyColumns keys),
      '`' ∉ column.toList := by decide +kernel
  exact ⟨hupdate, by decide +kernel, Made.readsAs (.update hupdate) htable hcolumns⟩

end TableGateway.Statement
