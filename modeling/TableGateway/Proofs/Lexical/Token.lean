import TableGateway.Identifier

/-!
# The tokens of a statement

Whoever reads a statement cuts it into tokens first. What stands between two backticks is one name,
whatever it holds; outside of backticks letters make words, blanks separate, and every other
character is a sign of its own.

A text `Spells` tokens if a reader that has nothing begun reads them off it and has nothing begun
behind it. Such texts can be put next to each other, and what they spell is put next to each other
as well.

Main statements: `spells_backticked`, `spells_intercalate`, `count_intercalate`.
-/

namespace TableGateway.Lexical

inductive Token where
  | name (text : String)
  | word (text : String)
  | sign (c : Char)
  deriving DecidableEq, Repr

namespace Token

/-- The sign between the items of a list. -/
def comma : Token := .sign ','

/-- The place of a parameter. -/
def marker : Token := .sign '?'

end Token

/-! ## The reader -/

/-- What has been begun and may go on. -/
inductive Begun where
  | nothing
  | word (letters : List Char)
  | name (chars : List Char)
  deriving DecidableEq, Repr

namespace Begun

/-- A character outside of backticks, with nothing begun: the tokens that it completes, and what it
begins. -/
def start (c : Char) : List Token × Begun :=
  if c = '`' then ([], .name [])
  else if c.isAlpha then ([], .word [c])
  else if c.isWhitespace then ([], .nothing)
  else ([.sign c], .nothing)

/-- One more character. -/
def next : Begun → Char → List Token × Begun
  | .nothing, c => start c
  | .word letters, c =>
    if c.isAlpha then ([], .word (letters ++ [c]))
    else (.word (String.ofList letters) :: (start c).1, (start c).2)
  | .name chars, c =>
    if c = '`' then ([.name (String.ofList chars)], .nothing) else ([], .name (chars ++ [c]))

/-- The end of the text. A name has to be complete. -/
def finish? : Begun → Option (List Token)
  | .nothing => some []
  | .word letters => some [.word (String.ofList letters)]
  | .name _ => none

end Begun

/-- The tokens that a text completes, and what is begun behind it. -/
def scan (begun : Begun) : List Char → List Token × Begun
  | [] => ([], begun)
  | c :: cs =>
    let (done, begun) := begun.next c
    let (more, begun) := scan begun cs
    (done ++ more, begun)

/-- The tokens of a text. -/
def tokens? (text : String) : Option (List Token) :=
  let (done, begun) := scan .nothing text.toList
  begun.finish?.map fun last => done ++ last

/-- What is spelled is read off the text, with nothing begun before it or behind. -/
def Spells (text : String) (tokens : List Token) : Prop :=
  scan .nothing text.toList = (tokens, .nothing)

instance (text : String) (tokens : List Token) : Decidable (Spells text tokens) :=
  inferInstanceAs (Decidable (_ = _))

theorem Spells.tokens?_eq {text : String} {tokens : List Token} (h : Spells text tokens) :
    tokens? text = some tokens := by
  rw [tokens?, h]
  exact congrArg some (List.append_nil tokens)

/-! ## Texts next to each other -/

theorem scan_append (begun : Begun) (a b : List Char) :
    scan begun (a ++ b)
      = ((scan begun a).1 ++ (scan (scan begun a).2 b).1, (scan (scan begun a).2 b).2) := by
  induction a generalizing begun with
  | nil => rfl
  | cons c a ih => simp only [List.cons_append, scan, ih, List.append_assoc]

theorem Spells.append {s t : String} {a b : List Token} (hs : Spells s a) (ht : Spells t b) :
    Spells (s ++ t) (a ++ b) := by
  have hs' : scan .nothing s.toList = (a, .nothing) := hs
  have ht' : scan .nothing t.toList = (b, .nothing) := ht
  rw [Spells, String.toList_append, scan_append, hs', ht']

theorem spells_intercalate {α : Type} {text : α → String} {spell : α → List Token}
    {separator : String} {between : List Token} (hseparator : Spells separator between)
    (items : List α) (h : ∀ item ∈ items, Spells (text item) (spell item)) :
    Spells (separator.intercalate (items.map text)) (between.intercalate (items.map spell)) := by
  induction items with
  | nil => rfl
  | cons item rest ih =>
    have hitem := h item List.mem_cons_self
    have hrest := ih fun other hother => h other (List.mem_cons_of_mem _ hother)
    cases rest with
    | nil =>
      simp only [List.map_cons, List.map_nil, String.intercalate_singleton,
        List.intercalate_singleton]
      exact hitem
    | cons next rest =>
      simp only [List.map_cons, String.intercalate_cons_cons, List.intercalate_cons_cons]
      exact (hitem.append hseparator).append hrest

/-! ## Names -/

/-- Within backticks everything but a backtick belongs to the name. -/
theorem scan_name {name : List Char} (h : '`' ∉ name) (before : List Char) :
    scan (.name before) name = ([], .name (before ++ name)) := by
  induction name generalizing before with
  | nil => rw [List.append_nil, scan]
  | cons c name ih =>
    rw [List.mem_cons, not_or] at h
    have hnext : (Begun.name before).next c = ([], .name (before ++ [c])) :=
      if_neg fun e => h.1 e.symm
    simp only [scan, hnext, ih h.2, List.append_assoc, List.singleton_append, List.nil_append]

/-- A name without backticks is one token, whatever else is in it. -/
theorem spells_backticked {name : String} (h : '`' ∉ name.toList) :
    Spells (Identifier.backticked name) [.name name] := by
  have htext : (Identifier.backticked name).toList = '`' :: (name.toList ++ ['`']) := by
    simp [Identifier.backticked]
  have hopen : Begun.nothing.next '`' = ([], .name []) := rfl
  have hclose : (Begun.name name.toList).next '`' = ([.name name], .nothing) := by
    simp [Begun.next]
  simp only [Spells, htext, scan, hopen, scan_append, scan_name h, List.nil_append, hclose,
    List.append_nil]

/-! ## Lists of tokens -/

/-- How often a token occurs in a list whose items hold it equally often. -/
theorem count_intercalate {α : Type} {token separator : Token} (hne : token ≠ separator)
    (spell : α → List Token) {times : Nat} (h : ∀ item, (spell item).count token = times)
    (items : List α) :
    ([separator].intercalate (items.map spell)).count token = items.length * times := by
  induction items with
  | nil => simp
  | cons item rest ih =>
    cases rest with
    | nil => simp [h]
    | cons next rest =>
      rw [List.map_cons] at ih
      have hsep : [separator].count token = 0 := List.count_eq_zero.mpr (by simpa using hne)
      have hlength : (item :: next :: rest).length = (next :: rest).length + 1 := rfl
      rw [List.map_cons, List.map_cons, List.intercalate_cons_cons, List.count_append,
        List.count_append, h, hsep, ih, hlength, Nat.succ_mul, Nat.add_zero, Nat.add_comm]

/-- A list holds what is in its items, and separators. -/
theorem not_mem_intercalate {α : Type} {token separator : Token} (hne : token ≠ separator)
    (spell : α → List Token) (h : ∀ item, token ∉ spell item) (items : List α) :
    token ∉ [separator].intercalate (items.map spell) := by
  have hcount := count_intercalate hne spell (fun item => List.count_eq_zero.mpr (h item)) items
  exact List.count_eq_zero.mp (hcount.trans (Nat.mul_zero _))

end TableGateway.Lexical
