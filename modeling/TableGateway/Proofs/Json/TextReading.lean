import Mathlib.Data.List.Forall2
import TableGateway.Proofs.Json.WrittenNumber
import TableGateway.Proofs.Record.Lookup

/-!
# JSON texts read back

The text of a tree is in the grammar, whatever the tree holds, and its outline is the outline of the
tree: brackets, commas and colons stand where they belong, strings are given by pieces that spell
them out, and numbers by their numerals. From that outline the tree is read back, if it is not
nested too deeply, repeats no member names, and holds no number that reading gets wrong. Reading
gets no integer wrong.

Main statements: `lexes_text`, `Outline.ofText?_text`, `read?_outline`, `Document.ofText?_text`.
-/

namespace TableGateway.Json

/-! ## Tokens -/

mutual

/-- The tokens of a tree. -/
def tokens : Json → List Token
  | .null => [.null]
  | .bool b => [.bool b]
  | .number n => [.number n.numeral]
  | .string s => [.string (piecesOf s)]
  | .array items => .openArray :: [Token.comma].intercalate (itemTokens items) ++ [.closeArray]
  | .object members =>
    .openObject :: [Token.comma].intercalate (memberTokens members) ++ [.closeObject]

/-- The tokens of each item of an array. -/
def itemTokens : List Json → List (List Token)
  | [] => []
  | item :: rest => tokens item :: itemTokens rest

/-- The tokens of each member of an object. -/
def memberTokens : List (String × Json) → List (List Token)
  | [] => []
  | (name, value) :: rest =>
    (.string (piecesOf name) :: .colon :: tokens value) :: memberTokens rest

end

/-- From this text these tokens are read, before the end of a value. -/
def Lexes (text : List Char) (tokens : List Token) : Prop :=
  ∀ rest, Ends rest → tokens? (text ++ rest) = (tokens? rest).map (tokens ++ ·)

variable {cs rest : List Char} {token : Token}

/-- A token that no blank comes before. -/
theorem tokens?_of_next? (hnext : next? cs = some (token, rest))
    (hblank : cs.dropWhile isSpace = cs) : tokens? cs = (tokens? rest).map (token :: ·) := by
  have hne : cs ≠ [] := by
    rintro rfl
    contradiction
  rw [tokens?, hblank, if_neg hne]
  split
  · next hnone => rw [hnext] at hnone; contradiction
  · next other rest' hsome =>
    rw [hnext] at hsome
    obtain ⟨rfl, rfl⟩ := Prod.mk.inj (Option.some.inj hsome)
    rfl

theorem tokens?_quoted (s : String) (rest : List Char) :
    tokens? ((quoted s).toList ++ rest) = (tokens? rest).map (.string (piecesOf s) :: ·) := by
  have htext : (quoted s).toList ++ rest
      = '"' :: (s.toList.flatMap escapeChar ++ '"' :: rest) := by
    simp [quoted]
  rw [htext]
  refine tokens?_of_next? ?_ rfl
  rw [next?, pieces?_flatMap_escapeChar]
  rfl

/-- A numeral begins with a minus or a digit, and not with a blank. -/
theorem dropWhile_isSpace_spelling {n : Numeral} (h : n.WellFormed) (rest : List Char) :
    (n.spelling ++ rest).dropWhile isSpace = n.spelling ++ rest := by
  obtain ⟨c, cs, hcs, hc⟩ : ∃ c cs, n.spelling = c :: cs ∧ isSpace c = false := by
    obtain ⟨digit, digits, hwhole⟩ := List.exists_cons_of_ne_nil h.whole.ne_nil
    have hdigit := h.whole.digits digit (hwhole ▸ List.mem_cons_self)
    have hblank : isSpace digit = false := by
      rw [← Bool.not_eq_true]
      intro hspace
      simp only [isSpace, Bool.or_eq_true, decide_eq_true_eq] at hspace
      rcases hspace with ((rfl | rfl) | rfl) | rfl <;> contradiction
    rw [Numeral.spelling, hwhole]
    cases n.negative
    · exact ⟨digit, _, rfl, hblank⟩
    · exact ⟨'-', _, rfl, rfl⟩
  rw [hcs, List.cons_append, List.dropWhile_cons_of_neg (by simp [hc])]

/-! ## Texts of trees -/

/-- Items that are read one by one are read in a list. -/
theorem lexes_intercalate {texts : List String} {tokens : List (List Token)}
    (h : List.Forall₂ (fun text tokens => Lexes text.toList tokens) texts tokens) :
    Lexes (",".intercalate texts).toList ([Token.comma].intercalate tokens) := by
  induction h with
  | nil =>
    intro rest _
    show tokens? rest = _
    exact (congrFun Option.map_id _).symm
  | @cons text tokens texts tokenLists hfirst hmore ih =>
    cases hmore with
    | nil =>
      rw [String.intercalate_singleton, List.intercalate_singleton]
      exact hfirst
    | @cons next nextTokens texts tokenLists hnext hmore =>
      intro rest hrest
      have hcomma : tokens? (',' :: ((",".intercalate (next :: texts)).toList ++ rest))
          = (tokens? ((",".intercalate (next :: texts)).toList ++ rest)).map (.comma :: ·) :=
        tokens?_of_next? rfl rfl
      have htext : (",".intercalate (text :: next :: texts)).toList ++ rest
          = text.toList ++ ',' :: ((",".intercalate (next :: texts)).toList ++ rest) := by
        simp [String.intercalate_cons_cons]
      rw [htext, hfirst _ (.cons (by decide)), hcomma, ih rest hrest]
      simp [List.intercalate_cons_cons, Function.comp_def]

/-- The inside of brackets, and the brackets around it. -/
theorem Lexes.bracketed {inside : List Char} {tokens : List Token} {opening closing : Char}
    {opened closed : Token} (h : Lexes inside tokens) (hclosing : closing ∈ [']', '\x7d'])
    (hopened : ∀ rest, tokens? (opening :: rest) = (tokens? rest).map (opened :: ·))
    (hclosed : ∀ rest, tokens? (closing :: rest) = (tokens? rest).map (closed :: ·)) :
    Lexes (opening :: (inside ++ [closing])) (opened :: tokens ++ [closed]) := by
  intro rest _
  have hends : Ends (closing :: rest) := .cons (List.mem_cons_of_mem _ hclosing)
  rw [List.cons_append, List.append_assoc, List.singleton_append, hopened, h _ hends, hclosed]
  simp [Function.comp_def]

mutual

/-- From the text of a tree its tokens are read. -/
theorem lexes_text : ∀ j : Json, Lexes j.text.toList j.tokens
  | .null => fun _ _ => tokens?_of_next? rfl rfl
  | .bool true => fun _ _ => tokens?_of_next? rfl rfl
  | .bool false => fun _ _ => tokens?_of_next? rfl rfl
  | .number n => by
    intro rest hrest
    rw [text, Number.toList_text]
    exact tokens?_of_next? (next?_spelling n.wellFormed_numeral hrest)
      (dropWhile_isSpace_spelling n.wellFormed_numeral rest)
  | .string s => fun rest _ => tokens?_quoted s rest
  | .array items => by
    have htext : (Json.array items).text.toList
        = '[' :: ((",".intercalate (itemTexts items)).toList ++ [']']) := by
      simp [text]
    rw [htext]
    exact (lexes_intercalate (lexes_itemTexts items)).bracketed (by decide)
      (fun _ => tokens?_of_next? rfl rfl) (fun _ => tokens?_of_next? rfl rfl)
  | .object members => by
    have htext : (Json.object members).text.toList
        = '\x7b' :: ((",".intercalate (memberTexts members)).toList ++ ['\x7d']) := by
      simp [text]
    rw [htext]
    exact (lexes_intercalate (lexes_memberTexts members)).bracketed (by decide)
      (fun _ => tokens?_of_next? rfl rfl) (fun _ => tokens?_of_next? rfl rfl)

theorem lexes_itemTexts : ∀ items : List Json,
    List.Forall₂ (fun text tokens => Lexes text.toList tokens) (itemTexts items) (itemTokens items)
  | [] => .nil
  | item :: rest => .cons (lexes_text item) (lexes_itemTexts rest)

theorem lexes_memberTexts : ∀ members : List (String × Json),
    List.Forall₂ (fun text tokens => Lexes text.toList tokens) (memberTexts members)
      (memberTokens members)
  | [] => .nil
  | (name, value) :: rest => by
    refine .cons (fun after hafter => ?_) (lexes_memberTexts rest)
    have hcolon : tokens? (':' :: (value.text.toList ++ after))
        = (tokens? (value.text.toList ++ after)).map (.colon :: ·) :=
      tokens?_of_next? rfl rfl
    have htext : (quoted name ++ ":" ++ value.text).toList ++ after
        = (quoted name).toList ++ (':' :: (value.text.toList ++ after)) := by
      simp
    rw [htext, tokens?_quoted, hcolon, lexes_text value after hafter]
    simp [Function.comp_def]

end

theorem tokens?_text (j : Json) : tokens? j.text.toList = some j.tokens := by
  have hread := lexes_text j [] .nil
  have hnil : tokens? [] = some [] := by rw [tokens?, List.dropWhile_nil, if_pos rfl]
  rwa [List.append_nil, hnil, Option.map_some, List.append_nil] at hread

/-! ## Outlines -/

mutual

/-- The outline of a tree. -/
def outline : Json → Outline
  | .null => .null
  | .bool b => .bool b
  | .number n => .number n.numeral
  | .string s => .string (piecesOf s)
  | .array items => .array (itemOutlines items)
  | .object members => .object (memberOutlines members)

/-- The outlines of the items of an array. -/
def itemOutlines : List Json → List Outline
  | [] => []
  | item :: rest => outline item :: itemOutlines rest

/-- The outlines of the members of an object. -/
def memberOutlines : List (String × Json) → List (List Piece × Outline)
  | [] => []
  | (name, value) :: rest => (piecesOf name, outline value) :: memberOutlines rest

end

open Outline (State Frame)

/-- Where a value may come these tokens are taken for this one. -/
def Builds (tokens : List Token) (outline : Outline) : Prop :=
  ∀ stack, tokens.foldlM State.step? (.value stack) = some (.after outline stack)

/-- The tokens of a member: its name, a colon, and its value. -/
def BuildsMember (tokens : List Token) (member : List Piece × Outline) : Prop :=
  ∃ value, tokens = .string member.1 :: .colon :: value ∧ Builds value member.2

/-- No value begins with a closing bracket, so it may be the first item of an array. -/
theorem Builds.foldlM_firstItem {tokens : List Token} {outline : Outline}
    (h : Builds tokens outline) (more : List Token) (stack : List Frame) :
    (tokens ++ more).foldlM State.step? (.firstItem stack)
      = (tokens ++ more).foldlM State.step? (.value (.array [] :: stack)) := by
  cases tokens with
  | nil => exact absurd (Option.some.inj (h [])) nofun
  | cons token tokens =>
    cases token with
    | closeArray => exact absurd (h []) nofun
    | _ => rfl

theorem foldlM_firstItem {tokens : List (List Token)} {outlines : List Outline}
    (h : List.Forall₂ Builds tokens outlines) (hne : tokens ≠ []) (stack : List Frame) :
    ([Token.comma].intercalate tokens ++ [Token.closeArray]).foldlM State.step? (.firstItem stack)
      = ([Token.comma].intercalate tokens ++ [Token.closeArray]).foldlM State.step?
          (.value (.array [] :: stack)) := by
  cases h with
  | nil => contradiction
  | cons hfirst hmore =>
    cases hmore with
    | nil =>
      rw [List.intercalate_singleton]
      exact hfirst.foldlM_firstItem _ stack
    | cons _ _ =>
      rw [List.intercalate_cons_cons, List.append_assoc, List.append_assoc]
      exact hfirst.foldlM_firstItem _ stack

/-- The items of an array behind those that are read already, the last of them first. -/
theorem foldlM_items {tokens : List (List Token)} {outlines : List Outline}
    (h : List.Forall₂ Builds tokens outlines) (hne : tokens ≠ []) (before : List Outline)
    (stack : List Frame) :
    ([Token.comma].intercalate tokens ++ [Token.closeArray]).foldlM State.step?
        (.value (.array before :: stack))
      = some (.after (.array (before.reverse ++ outlines)) stack) := by
  induction h generalizing before with
  | nil => contradiction
  | @cons first outline others outlines hfirst hmore ih =>
    cases hmore with
    | nil =>
      rw [List.intercalate_singleton, List.foldlM_append, hfirst]
      simp [State.step?]
    | @cons next nextOutline others outlines hnext hmore =>
      rw [List.intercalate_cons_cons, List.append_assoc, List.append_assoc, List.foldlM_append,
        hfirst]
      have hrest := ih (List.cons_ne_nil _ _) (outline :: before)
      simpa [State.step?] using hrest

/-- The members of an object behind those that are read already, the last of them first. -/
theorem foldlM_members {tokens : List (List Token)} {members : List (List Piece × Outline)}
    (h : List.Forall₂ BuildsMember tokens members) (hne : tokens ≠ [])
    (before : List (List Piece × Outline)) (stack : List Frame) :
    ([Token.comma].intercalate tokens ++ [Token.closeObject]).foldlM State.step?
        (.member before stack)
      = some (.after (.object (before.reverse ++ members)) stack) := by
  induction h generalizing before with
  | nil => contradiction
  | @cons first member others members hfirst hmore ih =>
    obtain ⟨name, outline⟩ := member
    obtain ⟨value, rfl, hvalue⟩ := hfirst
    cases hmore with
    | nil =>
      have hread := hvalue (.object before name :: stack)
      rw [List.intercalate_singleton]
      simp [State.step?, hread]
    | @cons next nextMember others members hnext hmore =>
      have hread := hvalue (.object before name :: stack)
      have hrest := ih (List.cons_ne_nil _ _) ((name, outline) :: before)
      rw [List.intercalate_cons_cons]
      simpa [State.step?, hread] using hrest

/-- A member may be the first of an object. -/
theorem foldlM_firstMember {tokens : List (List Token)} {members : List (List Piece × Outline)}
    (h : List.Forall₂ BuildsMember tokens members) (hne : tokens ≠ []) (stack : List Frame) :
    ([Token.comma].intercalate tokens ++ [Token.closeObject]).foldlM State.step?
        (.firstMember stack)
      = ([Token.comma].intercalate tokens ++ [Token.closeObject]).foldlM State.step?
          (.member [] stack) := by
  cases h with
  | nil => contradiction
  | cons hfirst hmore =>
    obtain ⟨value, rfl, -⟩ := hfirst
    cases hmore <;> rfl

mutual

/-- The tokens of a tree are those of its outline. -/
theorem builds_outline : ∀ j : Json, Builds j.tokens j.outline
  | .null | .bool _ | .number _ | .string _ => fun _ => rfl
  | .array items => fun stack => by
    have hitems := builds_itemOutlines items
    rw [tokens, outline, List.cons_append]
    show List.foldlM State.step? (.firstItem stack) _ = _
    cases items with
    | nil => rfl
    | cons item rest =>
      rw [foldlM_firstItem hitems (by simp [itemTokens]),
        foldlM_items hitems (by simp [itemTokens])]
      rfl
  | .object members => fun stack => by
    have hmembers := builds_memberOutlines members
    rw [tokens, outline, List.cons_append]
    show List.foldlM State.step? (.firstMember stack) _ = _
    cases members with
    | nil => rfl
    | cons member rest =>
      rw [foldlM_firstMember hmembers (by simp [memberTokens]),
        foldlM_members hmembers (by simp [memberTokens])]
      rfl

theorem builds_itemOutlines : ∀ items : List Json,
    List.Forall₂ Builds (itemTokens items) (itemOutlines items)
  | [] => .nil
  | item :: rest => .cons (builds_outline item) (builds_itemOutlines rest)

theorem builds_memberOutlines : ∀ members : List (String × Json),
    List.Forall₂ BuildsMember (memberTokens members) (memberOutlines members)
  | [] => .nil
  | (_, value) :: rest => .cons ⟨_, rfl, builds_outline value⟩ (builds_memberOutlines rest)

end

/-- Every text of a tree has the outline of the tree. -/
theorem Outline.ofText?_text (j : Json) : Outline.ofText? j.text = some j.outline := by
  rw [ofText?, tokens?_text, Option.bind_some, ofTokens?, builds_outline j []]

/-! ## Trees -/

mutual

/-- How many arrays and objects stand inside each other. -/
def depth : Json → Nat
  | .null | .bool _ | .number _ | .string _ => 0
  | .array items => itemsDepth items + 1
  | .object members => membersDepth members + 1

def itemsDepth : List Json → Nat
  | [] => 0
  | item :: rest => max (depth item) (itemsDepth rest)

def membersDepth : List (String × Json) → Nat
  | [] => 0
  | (_, value) :: rest => max (depth value) (membersDepth rest)

end

mutual

/-- The numbers in a tree. -/
def numbers : Json → List Number
  | .null | .bool _ | .string _ => []
  | .number n => [n]
  | .array items => itemsNumbers items
  | .object members => membersNumbers members

def itemsNumbers : List Json → List Number
  | [] => []
  | item :: rest => numbers item ++ itemsNumbers rest

def membersNumbers : List (String × Json) → List Number
  | [] => []
  | (_, value) :: rest => numbers value ++ membersNumbers rest

end

/-- The number is read from its numeral. The multiplication or division that scales the digits of a
floating-point number may miss it. -/
def Number.ReadsBack (n : Number) : Prop := n.numeral.number? = some n

theorem Number.readsBack_integer (n : Int)
    (h : -0x8000000000000000 ≤ n ∧ n < 0x10000000000000000) : (Number.integer n h).ReadsBack := by
  simp only [ReadsBack, numeral, Numeral.number?, Option.isSome_none, Bool.false_eq_true, or_self,
    if_false, Decimal.ofDigitChars_digits, decide_eq_true_eq]
  split
  · rw [dif_pos (by omega)]
    congr 2
    omega
  · rw [dif_pos (by omega)]
    congr 2
    omega

/-- One, divided by a power of ten that is rounded itself, comes out as the next number. -/
example :
    let n : Number := .real 1e-23 (by decide)
    n.text = "1e-23" ∧ n.numeral.number?.map Number.text = some "1.0000000000000001e-23" := by
  decide +kernel

mutual

/-- From the outline of a tree the tree is read, as long as its numbers are. -/
theorem read?_outline : ∀ (j : Json) (depth : Nat), j.depth ≤ depth → j.Distinct →
    (∀ n ∈ j.numbers, n.ReadsBack) → j.outline.read? depth = some j
  | .null, _, _, _, _ | .bool _, _, _, _, _ => rfl
  | .number n, depth, _, _, hnumbers => by
    have hn : n.numeral.number? = some n := hnumbers n (by simp [numbers])
    rw [outline, Outline.read?, hn, Option.map_some]
  | .string s, depth, _, _, _ => by
    rw [outline, Outline.read?, string?_piecesOf, Option.map_some]
  | .array items, depth, hdepth, hdistinct, hnumbers => by
    cases depth with
    | zero => contradiction
    | succ depth =>
      have hread := readItems?_itemOutlines items depth (Nat.le_of_succ_le_succ hdepth) hdistinct
        hnumbers
      rw [outline, Outline.read?, hread, Option.map_some]
  | .object members, depth, hdepth, hdistinct, hnumbers => by
    cases depth with
    | zero => contradiction
    | succ depth =>
      have hread := readMembers?_memberOutlines members depth [] (Nat.le_of_succ_le_succ hdepth)
        hdistinct.1 hdistinct.2 hnumbers
      rw [outline, Outline.read?, hread, Option.map_some, List.nil_append]

theorem readItems?_itemOutlines : ∀ (items : List Json) (depth : Nat), itemsDepth items ≤ depth →
    AllDistinct items → (∀ n ∈ itemsNumbers items, n.ReadsBack) →
    Outline.readItems? (itemOutlines items) depth = some items
  | [], _, _, _, _ => rfl
  | item :: rest, depth, hdepth, hdistinct, hnumbers => by
    rw [itemsDepth, Nat.max_le] at hdepth
    rw [itemsNumbers, List.forall_mem_append] at hnumbers
    rw [itemOutlines, Outline.readItems?, read?_outline item depth hdepth.1 hdistinct.1 hnumbers.1,
      readItems?_itemOutlines rest depth hdepth.2 hdistinct.2 hnumbers.2]
    rfl

/-- Members are added behind those that are read already, as no name repeats. -/
theorem readMembers?_memberOutlines : ∀ (members : List (String × Json)) (depth : Nat)
    (done : List (String × Json)), membersDepth members ≤ depth →
    (Entries.names (done ++ members)).Nodup → MembersDistinct members →
    (∀ n ∈ membersNumbers members, n.ReadsBack) →
    Outline.readMembers? (memberOutlines members) depth done = some (done ++ members)
  | [], _, done, _, _, _, _ => by rw [memberOutlines, Outline.readMembers?, List.append_nil]
  | (name, value) :: rest, depth, done, hdepth, hnames, hdistinct, hnumbers => by
    rw [membersDepth, Nat.max_le] at hdepth
    rw [membersNumbers, List.forall_mem_append] at hnumbers
    have hnew : name ∉ Entries.names done := fun hmem => by
      rw [Entries.names, List.map_append, List.map_cons] at hnames
      exact (List.nodup_append.mp hnames).2.2 name hmem name List.mem_cons_self rfl
    have hrest := readMembers?_memberOutlines rest depth (done ++ [(name, value)]) hdepth.2
      (by rwa [List.append_assoc]) hdistinct.2 hnumbers.2
    rw [memberOutlines, Outline.readMembers?, string?_piecesOf,
      read?_outline value depth hdepth.1 hdistinct.1 hnumbers.1]
    show Outline.readMembers? _ _ (Entries.put name value done) = _
    rw [Entries.put_of_not_mem hnew, hrest, List.append_assoc]
    rfl

end

/-- A document is read back from its text. -/
theorem Document.ofText?_text (d : Document) (hdepth : d.tree.depth ≤ greatestDepth)
    (hnumbers : ∀ n ∈ d.tree.numbers, n.ReadsBack) : Document.ofText? d.tree.text = some d := by
  have hread := read?_outline d.tree greatestDepth hdepth d.distinct hnumbers
  rw [ofText?, Outline.ofText?_text, Option.bind_some]
  split
  · next tree htree =>
    obtain rfl := Option.some.inj (htree.symm.trans hread)
    rfl
  · next hnone =>
    rw [hread] at hnone
    contradiction

end TableGateway.Json
