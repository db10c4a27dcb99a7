import TableGateway.Int64Range
import TableGateway.Value.Text

/-!
# Literals read back as their values

A database reads a literal from the front of what it is given, and has to find by itself where the
literal ends. `readLiteral?` is such a reader for nulls, integers, strings and lists: it knows the
escapes of strings and the doubled quote, and it keeps the lists that are open on a stack, so that
it goes through the text once, however deep the lists are.

It reads back every value that consists of these, from the literal of the value and up to where the
literal ends, if the text goes on as it can go on in a list. So no two of these values share a
literal.

Main statements: `stringBody?_escaped`, `valueIn?_literal`, `readLiteral?_literal`.
-/

namespace TableGateway

/-! ## Values that their literals determine -/

namespace Value

mutual

/-- Nulls, integers, strings, and lists of such values. The literal of a boolean is a number, that
of a date-time a string, and that of a floating-point number may be an integer. -/
def Plain : Value → Prop
  | .null | .int _ | .text _ => True
  | .list items => AllPlain items
  | .bool _ | .float _ | .dateTime _ => False

/-- `Plain` for all items of a list. -/
def AllPlain : List Value → Prop
  | [] => True
  | item :: rest => Plain item ∧ AllPlain rest

end

end Value

namespace Literal

/-! ## The reader -/

/-- The character that a character behind a backslash stands for. -/
def unescape? (c : Char) : Option Char :=
  if c = '\'' ∨ c = '"' ∨ c = '\\' then some c
  else if c = '0' then some '\x00'
  else none

/-- The content of a string whose opening quote has been read, and what follows its closing quote.
A doubled quote is part of the string. -/
def stringBody? : List Char → Option (List Char × List Char)
  | [] => none
  | '\'' :: '\'' :: rest => (stringBody? rest).map fun (body, rest) => ('\'' :: body, rest)
  | '\'' :: rest => some ([], rest)
  | '\\' :: c :: rest =>
    match unescape? c with
    | some c => (stringBody? rest).map fun (body, rest) => (c :: body, rest)
    | none => none
  | c :: rest => (stringBody? rest).map fun (body, rest) => (c :: body, rest)

/-- The characters of signed integers. -/
def isNumberChar (c : Char) : Bool := c.isDigit || c = '-' || c = '+'

/-- The integer at the front of a text. -/
def integer? (text : List Char) : Option (Int64 × List Char) :=
  ((Decimal.readInt? (text.takeWhile isNumberChar)).bind int64?).map fun i =>
    (i, text.dropWhile isNumberChar)

/-- The value at the front of a text, where it is no list. -/
def scalar? : List Char → Option (Value × List Char)
  | 'N' :: 'U' :: 'L' :: 'L' :: rest => some (.null, rest)
  | '\'' :: rest => (stringBody? rest).map fun (body, rest) => (.text (String.ofList body), rest)
  | text => (integer? text).map fun (i, rest) => (.int i, rest)

theorem length_lt_of_stringBody? {text : List Char} {found : List Char × List Char}
    (h : stringBody? text = some found) : found.2.length < text.length := by
  fun_induction stringBody? text generalizing found with
  | case1 => contradiction
  | case2 text ih =>
    obtain ⟨inner, hinner, rfl⟩ := Option.map_eq_some_iff.mp h
    have hlt := ih hinner
    exact Nat.lt_succ_of_lt (Nat.lt_succ_of_lt hlt)
  | case3 text =>
    obtain rfl := Option.some.inj h
    exact Nat.lt_succ_self _
  | case4 c text d hd ih =>
    obtain ⟨inner, hinner, rfl⟩ := Option.map_eq_some_iff.mp h
    have hlt := ih hinner
    exact Nat.lt_succ_of_lt (Nat.lt_succ_of_lt hlt)
  | case5 => contradiction
  | case6 c text _ _ _ ih =>
    obtain ⟨inner, hinner, rfl⟩ := Option.map_eq_some_iff.mp h
    have hlt := ih hinner
    exact Nat.lt_succ_of_lt hlt

/-- An integer begins with a character of integers. -/
theorem exists_cons_of_integer? {text : List Char} {found : Int64 × List Char}
    (h : integer? text = some found) : ∃ c cs, text = c :: cs ∧ isNumberChar c := by
  obtain ⟨i, hi, -⟩ := Option.map_eq_some_iff.mp h
  cases text with
  | nil => contradiction
  | cons c cs =>
    refine ⟨c, cs, rfl, ?_⟩
    cases hc : isNumberChar c with
    | true => rfl
    | false =>
      -- An empty run of characters would have been read.
      rw [List.takeWhile_cons_of_neg (by simp [hc])] at hi
      contradiction

theorem length_lt_of_integer? {text : List Char} {found : Int64 × List Char}
    (h : integer? text = some found) : found.2.length < text.length := by
  obtain ⟨c, cs, rfl, hc⟩ := exists_cons_of_integer? h
  obtain ⟨i, -, rfl⟩ := Option.map_eq_some_iff.mp h
  rw [List.dropWhile_cons_of_pos hc]
  exact Nat.lt_succ_of_le (List.dropWhile_suffix _).length_le

theorem length_lt_of_scalar? {text : List Char} {found : Value × List Char}
    (h : scalar? text = some found) : found.2.length < text.length := by
  unfold scalar? at h
  split at h
  · obtain rfl := Option.some.inj h
    simp only [List.length_cons]
    omega
  · obtain ⟨inner, hinner, rfl⟩ := Option.map_eq_some_iff.mp h
    exact Nat.lt_succ_of_lt (length_lt_of_stringBody? hinner)
  · obtain ⟨inner, hinner, rfl⟩ := Option.map_eq_some_iff.mp h
    exact length_lt_of_integer? hinner

mutual

/-- Reads a value, and goes on in the lists that are open. Of each list, the innermost first, the
items so far are given. -/
def valueIn? (lists : List (List Value)) (text : List Char) : Option (Value × List Char) :=
  match text with
  | '(' :: ')' :: rest => after? (.list []) lists rest
  | '(' :: rest => valueIn? ([] :: lists) rest
  | text =>
    match h : scalar? text with
    | some (v, rest) =>
      have := length_lt_of_scalar? h
      after? v lists rest
    | none => none
termination_by text.length

/-- Goes on behind a value: the next item or the end of the innermost list that is open. -/
def after? (v : Value) (lists : List (List Value)) (text : List Char) :
    Option (Value × List Char) :=
  match lists, text with
  | [], rest => some (v, rest)
  | items :: lists, ',' :: rest => valueIn? ((items ++ [v]) :: lists) rest
  | items :: lists, ')' :: rest => after? (.list (items ++ [v])) lists rest
  | _ :: _, _ => none
termination_by text.length

end

/-- Reads the literal at the front of a text: its value, and the text behind it. -/
def readLiteral? (text : List Char) : Option (Value × List Char) := valueIn? [] text

/-- A quote may also be doubled. -/
example : readLiteral? "'it''s',1".toList = some (.text "it's", ",1".toList) := by cbv

/-- Nothing follows, or what can follow an item of a list. -/
def Ends (rest : List Char) : Prop := ∀ c ∈ rest.head?, c = ',' ∨ c = ')'

/-! ## Strings -/

/-- An escaped character is read as the character. -/
theorem stringBody?_escapeChar (c : Char) (rest : List Char) :
    stringBody? (Value.escapeChar c ++ rest)
      = (stringBody? rest).map fun (body, rest) => (c :: body, rest) := by
  unfold Value.escapeChar
  split
  · next hquote =>
    have hc : unescape? c = some c := if_pos hquote
    rw [List.cons_append, List.singleton_append, stringBody?, hc]
  · next hquote =>
    simp only [not_or] at hquote
    split
    · next hzero =>
      subst hzero
      rfl
    · rw [List.singleton_append, stringBody?]
      · exact fun _ hc _ => hquote.1 hc
      · exact hquote.1
      · exact fun _ _ hc _ => hquote.2.2 hc

/-- The content of a quoted string ends at the quote that closes it. -/
theorem stringBody?_escaped (cs : List Char) {rest : List Char} (h : Ends rest) :
    stringBody? (cs.flatMap Value.escapeChar ++ '\'' :: rest) = some (cs, rest) := by
  induction cs with
  | nil =>
    -- What follows is no further quote, which would double this one.
    cases rest with
    | nil => rfl
    | cons d rest =>
      rcases h d rfl with rfl | rfl <;> rfl
  | cons c cs ih => rw [List.flatMap_cons, List.append_assoc, stringBody?_escapeChar, ih]; rfl

/-! ## Integers -/

theorem isNumberChar_of_mem_intText {n : Int} {c : Char} (h : c ∈ (Decimal.intText n).toList) :
    isNumberChar c := by
  have hdigits : ∀ {m : Nat}, c ∈ (Decimal.natText m).toList → isNumberChar c := fun {m} hc => by
    rw [Decimal.natText, String.toList_ofList] at hc
    rw [isNumberChar, Decimal.isDigit_of_mem_digits hc]
    rfl
  cases n with
  | ofNat m => exact hdigits h
  | negSucc m =>
    rw [Decimal.intText, String.toList_append, List.mem_append] at h
    rcases h with h | h
    · obtain rfl := List.mem_singleton.mp h
      rfl
    · exact hdigits h

theorem integer?_intText (i : Int64) {rest : List Char} (h : Ends rest) :
    integer? ((Decimal.intText i.toInt).toList ++ rest) = some (i, rest) := by
  have hall : ∀ c ∈ (Decimal.intText i.toInt).toList, isNumberChar c :=
    fun c hc => isNumberChar_of_mem_intText hc
  have hrest : rest.takeWhile isNumberChar = [] ∧ rest.dropWhile isNumberChar = rest := by
    cases rest with
    | nil => exact ⟨rfl, rfl⟩
    | cons c rest => rcases h c rfl with rfl | rfl <;> exact ⟨rfl, rfl⟩
  rw [integer?, List.takeWhile_append_of_pos hall, List.dropWhile_append_of_pos hall, hrest.1,
    hrest.2, List.append_nil, Decimal.readInt?_intText]
  simp [int64?_eq_some_iff]

/-! ## Values that are no lists -/

theorem scalar?_of_integer? {text rest : List Char} {i : Int64}
    (h : integer? text = some (i, rest)) : scalar? text = some (.int i, rest) := by
  obtain ⟨c, cs, rfl, hc⟩ := exists_cons_of_integer? h
  unfold scalar?
  split
  · next htext => exact absurd ((List.cons.inj htext).1 ▸ hc) (by decide)
  · next htext => exact absurd ((List.cons.inj htext).1 ▸ hc) (by decide)
  · rw [h]
    rfl

/-- No value but a list begins with a parenthesis. -/
theorem scalar?_eq_none {c : Char} (hc : c = '(' ∨ c = ')') (rest : List Char) :
    scalar? (c :: rest) = none := by
  rcases hc with rfl | rfl <;> rfl

/-- Where a value is read that is no list, the lists that are open do not matter. -/
theorem valueIn?_of_scalar? {text rest : List Char} {v : Value}
    (h : scalar? text = some (v, rest)) (lists : List (List Value)) :
    valueIn? lists text = after? v lists rest := by
  have hopen : ∀ others, text ≠ '(' :: others := by
    rintro others rfl
    rw [scalar?_eq_none (.inl rfl)] at h
    contradiction
  rw [valueIn?]
  · split
    · next w others hw =>
      rw [h] at hw
      obtain ⟨rfl, rfl⟩ := Prod.mk.inj (Option.some.inj hw)
      rfl
    · next hnone =>
      rw [h] at hnone
      contradiction
  · exact fun others => hopen (')' :: others)
  · exact hopen

/-! ## Lists -/

theorem valueIn?_close (lists : List (List Value)) (rest : List Char) :
    valueIn? lists (')' :: rest) = none := by
  rw [valueIn?]
  · split
    · next hsome =>
      rw [scalar?_eq_none (.inr rfl)] at hsome
      contradiction
    · rfl
  · simp
  · simp

/-- A parenthesis with a value behind it opens a list. -/
theorem valueIn?_open {text : List Char} {found : Value × List Char}
    (h : valueIn? [] text = some found) (lists : List (List Value)) :
    valueIn? lists ('(' :: text) = valueIn? ([] :: lists) text := by
  have hclose : ∀ others, text ≠ ')' :: others := by
    rintro others rfl
    rw [valueIn?_close] at h
    contradiction
  rw [valueIn?]
  exact hclose

/-- What stands behind an item of a list: the items that follow, the end of the list and a text. -/
def following : List Value → List Char → List Char
  | [], rest => ')' :: rest
  | item :: items, rest => ',' :: (item.literal.toList ++ following items rest)

theorem ends_following (items : List Value) (rest : List Char) : Ends (following items rest) := by
  intro c hc
  cases items with
  | nil => exact .inr (Option.some.inj hc).symm
  | cons item items => exact .inl (Option.some.inj hc).symm

theorem intercalate_literals (item : Value) (items : List Value) (rest : List Char) :
    (",".intercalate (Value.literals (item :: items))).toList ++ ')' :: rest
      = item.literal.toList ++ following items rest := by
  induction items generalizing item with
  | nil => rw [Value.literals, Value.literals, String.intercalate_singleton, following]
  | cons next items ih =>
    rw [following, ← ih next, Value.literals, Value.literals, String.intercalate_cons_cons]
    simp

/-- A list that is not empty is a parenthesis, the first item and what follows it. -/
theorem literal_list_cons (item : Value) (items : List Value) (rest : List Char) :
    (Value.literal (.list (item :: items))).toList ++ rest
      = '(' :: (item.literal.toList ++ following items rest) := by
  rw [← intercalate_literals]
  simp [Value.literal]

mutual

/-- The literal of a value is read as the value, inside of whatever lists are open. -/
theorem valueIn?_literal : ∀ {v : Value}, v.Plain → ∀ (lists : List (List Value))
    {rest : List Char}, Ends rest → valueIn? lists (v.literal.toList ++ rest) = after? v lists rest
  | .null, _, lists, rest, _ => valueIn?_of_scalar? rfl lists
  | .int i, _, lists, rest, h =>
    valueIn?_of_scalar? (scalar?_of_integer? (integer?_intText i h)) lists
  | .text s, _, lists, rest, h => by
    refine valueIn?_of_scalar? ?_ lists
    have htext : (Value.literal (.text s)).toList ++ rest
        = '\'' :: (s.toList.flatMap Value.escapeChar ++ '\'' :: rest) := by
      simp [Value.literal, Value.quoted]
    rw [htext, scalar?, stringBody?_escaped s.toList h]
    simp
  | .list [], _, lists, rest, _ => by
    have htext : (Value.literal (.list [])).toList = ['(', ')'] := by decide
    rw [htext, List.cons_append, List.singleton_append, valueIn?]
  | .list (item :: items), hv, lists, rest, _ => by
    -- The first item is a value, so the parenthesis opens a list.
    have hitem := fun lists => valueIn?_literal hv.1 lists (ends_following items rest)
    have hfirst : valueIn? [] (item.literal.toList ++ following items rest)
        = some (item, following items rest) := by
      rw [hitem, after?]
    rw [literal_list_cons, valueIn?_open hfirst, hitem, after?_following hv.2]
    rfl

/-- Behind an item the items that follow are read, and then the list is there. -/
theorem after?_following : ∀ {items : List Value}, Value.AllPlain items →
    ∀ (item : Value) (before : List Value) (lists : List (List Value)) (rest : List Char),
      after? item (before :: lists) (following items rest)
        = after? (.list (before ++ item :: items)) lists rest
  | [], _, item, before, lists, rest => by rw [following, after?]
  | next :: items, h, item, before, lists, rest => by
    rw [following, after?, valueIn?_literal h.1 _ (ends_following items rest),
      after?_following h.2, List.append_assoc, List.singleton_append]

end

/-! ## Whole literals -/

/-- The reader finds in the literal of a value the value, and leaves what stands behind the literal,
if this is nothing or goes on as a list can go on. So a value is determined by its literal. -/
theorem readLiteral?_literal {v : Value} (hv : v.Plain) :
    (∀ {rest : List Char}, Ends rest → readLiteral? (v.literal.toList ++ rest) = some (v, rest))
      ∧ ∀ {w : Value}, w.Plain → w.literal = v.literal → w = v := by
  have hread : ∀ {u : Value}, u.Plain → ∀ {rest : List Char}, Ends rest →
      readLiteral? (u.literal.toList ++ rest) = some (u, rest) := by
    intro u hu rest hrest
    rw [readLiteral?, valueIn?_literal hu [] hrest, after?]
  refine ⟨hread hv, fun {w} hw heq => ?_⟩
  have hnil : Ends [] := fun c hc => by contradiction
  have hv' := hread hv hnil
  rw [← heq, hread hw hnil] at hv'
  exact congrArg Prod.fst (Option.some.inj hv')

/-- A string with all characters that are escaped, and what would end the list if it were outside,
then an empty list, in a list of which the text goes on; and a string that looks like a null. -/
theorem readLiteral?_literal_hostile :
    let v : Value := .list [.text "a'),\"\x00\\", .list [], .int (-5), .null]
    v.Plain ∧ Ends ",0)".toList
      ∧ readLiteral? "('a\\'),\\\"\\0\\\\',(),-5,NULL),0)".toList = some (v, ",0)".toList)
      ∧ Value.literal (.text "NULL") ≠ Value.literal .null := by
  intro v
  have hv : v.Plain := ⟨trivial, trivial, trivial, trivial, trivial⟩
  have hrest : Ends ",0)".toList := fun c hc => .inl (Option.some.inj hc).symm
  have htext : v.literal.toList ++ ",0)".toList
      = "('a\\'),\\\"\\0\\\\',(),-5,NULL),0)".toList := by decide +kernel
  refine ⟨hv, hrest, ?_, fun h => ?_⟩
  · rw [← htext]
    exact (readLiteral?_literal hv).1 hrest
  · have hnull : Value.Plain .null := trivial
    exact nomatch (readLiteral?_literal hnull).2 (w := .text "NULL") trivial h

end Literal

end TableGateway
