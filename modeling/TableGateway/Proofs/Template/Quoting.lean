import TableGateway.Proofs.Template.Position
import TableGateway.Value.Text

/-!
# What is asked of a quoter

A quoter makes the text of a value, and the rules of bound values stand before it: null has its own
word, and the items of a list are written one by one. So the quoter is never asked about null, nor
about a list that is bound as it is. It is asked about the items of such a list, and if one of these
is a list again then it is asked about the whole of it: the rules are not applied a second time.

`deepText` applies them at every depth. It asks the quoter about scalars only, so two quoters that
agree on scalars have it in common. Their expansions are the same if they agree on the lists within
bound lists as well, and on nothing less in general.

Main statements: `deepText_congr`, `boundText_congr`, `expand_decidedByScalars`,
`expand_nested_lists_differ`.
-/

namespace TableGateway

/-- Neither null nor a list. -/
def Value.IsScalar (v : Value) : Prop := v ≠ .null ∧ ∀ items, v ≠ .list items

namespace Template

/-! ## The rules at every depth -/

mutual

/-- The text of a value by the rules of bound values, for the items of lists as well. -/
def deepText (quote : Value → String) : Value → String
  | .null => "NULL"
  | .list items => "(" ++ ",".intercalate (deepTexts quote items) ++ ")"
  | v => quote v

/-- The texts of the items of a list. -/
def deepTexts (quote : Value → String) : List Value → List String
  | [] => []
  | item :: rest => deepText quote item :: deepTexts quote rest

end

variable {quote other : Value → String}

theorem deepText_of_isScalar {v : Value} (h : v.IsScalar) : deepText quote v = quote v := by
  cases v with
  | null => exact absurd rfl h.1
  | list items => exact absurd rfl (h.2 items)
  | _ => rfl

theorem deepTexts_eq_map (quote : Value → String) (items : List Value) :
    deepTexts quote items = items.map (deepText quote) := by
  induction items with
  | nil => rfl
  | cons item rest ih => rw [deepTexts, ih, List.map_cons]

mutual

/-- At every depth, the rules leave nothing but scalars to the quoter. -/
theorem deepText_congr (h : ∀ v : Value, v.IsScalar → quote v = other v) :
    ∀ v : Value, deepText quote v = deepText other v
  | .null => rfl
  | .list items => by rw [deepText, deepText, deepTexts_congr h items]
  | .bool _ | .int _ | .float _ | .text _ | .dateTime _ => h _ ⟨by simp, by simp⟩

theorem deepTexts_congr (h : ∀ v : Value, v.IsScalar → quote v = other v) :
    ∀ items : List Value, deepTexts quote items = deepTexts other items
  | [] => rfl
  | item :: rest => by rw [deepTexts, deepTexts, deepText_congr h item, deepTexts_congr h rest]

end

/-- A quoter that applies the rules itself has them applied at every depth. -/
theorem boundText_deepText (quote : Value → String) (v : Value) :
    boundText (deepText quote) v = deepText quote v := by
  cases v with
  | list items =>
    have hitem : ∀ item ∈ items, itemText (deepText quote) item = deepText quote item := by
      intro item _
      cases item <;> rfl
    rw [boundText, deepText, deepTexts_eq_map, List.map_congr_left hitem]
  | _ => rfl

/-! ## Quoters that agree on scalars -/

theorem itemText_congr (h : ∀ v : Value, v.IsScalar → quote v = other v) {v : Value}
    (hlist : ∀ inner, v = .list inner → quote v = other v) :
    itemText quote v = itemText other v := by
  cases v with
  | null => rfl
  | list inner => exact hlist inner rfl
  | _ => exact h _ ⟨by simp, by simp⟩

/-- Of a bound value, only lists in a list are left to the quoter beside scalars. -/
theorem boundText_congr (h : ∀ v : Value, v.IsScalar → quote v = other v) {v : Value}
    (hnested : ∀ items inner, v = .list items → .list inner ∈ items →
      quote (.list inner) = other (.list inner)) : boundText quote v = boundText other v := by
  cases v with
  | null => rfl
  | list items =>
    have hitem : ∀ item ∈ items, itemText quote item = itemText other item := by
      intro item hmem
      refine itemText_congr h fun inner hinner => ?_
      subst hinner
      exact hnested items inner rfl hmem
    rw [boundText, boundText, List.map_congr_left hitem]
  | _ => exact h _ ⟨by simp, by simp⟩

/-- An expansion depends on the quoter through the texts of the bound values. -/
theorem fill_congr {values : List Value} (h : ∀ v ∈ values, boundText quote v = boundText other v)
    (parts : List Part) : fill quote parts values = fill other parts values := by
  induction parts generalizing values with
  | nil => rfl
  | cons part rest ih =>
    cases part with
    | char c => rw [fill, fill, ih h]
    | marker =>
      cases values with
      | nil => rw [fill, fill, ih h]
      | cons v values =>
        rw [List.forall_mem_cons] at h
        rw [fill, fill, h.1, ih h.2]

theorem expand_congr (h : ∀ v : Value, v.IsScalar → quote v = other v) (template : String)
    {values : List Value} (hnested : ∀ items inner, .list items ∈ values → .list inner ∈ items →
      quote (.list inner) = other (.list inner)) :
    expand quote template values = expand other template values := by
  have hbound : ∀ v ∈ values, boundText quote v = boundText other v := by
    intro v hv
    refine boundText_congr h fun items inner heq => ?_
    subst heq
    exact hnested items inner hv
  exact congrArg String.ofList (fill_congr hbound _)

/-- One marker with a list of one item shows what the quoter makes of the item. -/
theorem expand_singleton (quote : Value → String) (item : Value) :
    expand quote " ?" [.list [item]] = " (" ++ itemText quote item ++ ")" := by
  have hparts : parts none " ?".toList = [.char ' ', .marker] := by decide
  have hopen : " (" = String.singleton ' ' ++ "(" := rfl
  rw [expand, hparts, fill, fill, fill, List.append_nil, boundText, List.map_singleton,
    String.intercalate_singleton, String.ofList_cons, String.ofList_toList, hopen]
  simp only [String.append_assoc]

/-- How far two quoters have their expansions in common. -/
structure DecidedByScalars (quote other : Value → String) : Prop where
  /-- What is not decided by scalars is lists within bound lists. -/
  expand_eq : ∀ template values,
    (∀ items inner, .list items ∈ values → .list inner ∈ items →
      quote (.list inner) = other (.list inner)) →
    expand quote template values = expand other template values
  expand_eq_iff : (∀ template values, expand quote template values = expand other template values)
    ↔ ∀ items, quote (.list items) = other (.list items)
  /-- By the rules at every depth, everything is decided. -/
  deepText_eq : ∀ v, deepText quote v = deepText other v
  expand_deepText : ∀ template values,
    (∀ items inner, .list items ∈ values → .list inner ∉ items) →
    expand quote template values = expand (deepText quote) template values

theorem expand_decidedByScalars (h : ∀ v : Value, v.IsScalar → quote v = other v) :
    DecidedByScalars quote other where
  expand_eq template _ hnested := expand_congr h template hnested
  expand_eq_iff := by
    refine ⟨fun hexpand items => ?_, fun hlists template values => ?_⟩
    · have heq := hexpand " ?" [.list [.list items]]
      rw [expand_singleton, expand_singleton] at heq
      simpa [itemText] using heq
    · exact expand_congr h template fun _ inner _ _ => hlists inner
  deepText_eq := deepText_congr h
  expand_deepText template _ hflat :=
    expand_congr (fun _ hv => (deepText_of_isScalar hv).symm) template
      fun items inner hmem hinner => absurd hinner (hflat items inner hmem)

/-- Two quoters that agree on scalars only, and a list that holds a null and no list. -/
theorem expand_decidedByScalars_flat :
    let other : Value → String
      | .null | .list _ => "?"
      | v => v.literal
    (∀ v : Value, v.IsScalar → v.literal = other v)
      ∧ Value.literal (.list []) ≠ other (.list [])
      ∧ expand other "a IN ? AND b = ?" [.list [.int 1, .null, .text "?"], .null]
        = "a IN (1,NULL,'?') AND b = NULL" := by
  intro other
  have h : ∀ v : Value, v.IsScalar → v.literal = other v := by
    intro v hv
    cases v with
    | null => exact absurd rfl hv.1
    | list items => exact absurd rfl (hv.2 items)
    | _ => rfl
  have hflat : ∀ items inner, Value.list items ∈ [.list [.int 1, .null, .text "?"], .null] →
      .list inner ∈ items → Value.literal (.list inner) = other (.list inner) := by
    intro items inner hmem hinner
    have hitems : items = [.int 1, .null, .text "?"] := by simpa using hmem
    simp [hitems] at hinner
  have heq := (expand_decidedByScalars h).expand_eq "a IN ? AND b = ?" _ hflat
  exact ⟨h, by decide +kernel, heq.symm.trans (by decide +kernel)⟩

/-- A quoter and the rules at every depth, by the same quoter: they agree on scalars, and a list of
rows for a comparison with `IN` tells them apart. The inner lists go to the quoter as they are, and
so does the null inside of one. -/
theorem expand_nested_lists_differ :
    let angle (v : Value) : String := "<" ++ v.plainText ++ ">"
    let rows : Value := .list [.list [.int 1, .int 2], .list [.int 3, .null]]
    (∀ v : Value, v.IsScalar → angle v = deepText angle v)
      ∧ expand angle "(a, b) IN ?" [rows] = "(a, b) IN (<[1,2]>,<[3,NULL]>)"
      ∧ expand (deepText angle) "(a, b) IN ?" [rows] = "(a, b) IN ((<1>,<2>),(<3>,NULL))" := by
  intro angle rows
  exact ⟨fun _ hv => (deepText_of_isScalar hv).symm, by decide +kernel, by decide +kernel⟩

end Template

end TableGateway
