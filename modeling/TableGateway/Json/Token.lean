/-!
# Tokens of JSON texts

A JSON text is a sequence of brackets, commas, colons, words, numbers and strings, with blanks
between them. Tokens keep numbers and strings as they are written: whether a number fits and
whether the escapes of a string are characters is decided where the value is wanted.

The grammar is the strict one. Blanks are the space, the tab and the two line ends; a number has no
leading zero and a digit on either side of its point; a string holds no control characters.

Main statement: `length_lt_of_next?`, each token takes at least one character.
-/

namespace TableGateway.Json

/-- A number as it is written: runs of digits and signs. -/
structure Numeral where
  negative : Bool
  whole : List Char
  fraction : Option (List Char)
  /-- Whether the exponent is negative, and its digits. -/
  exponent : Option (Bool × List Char)
  deriving DecidableEq, Repr

/-- A piece of a string: a character, or a code unit written as four hexadecimal digits. -/
inductive Piece where
  | char (c : Char)
  | unit (u : Nat)
  deriving DecidableEq, Repr

inductive Token where
  | openArray
  | closeArray
  | openObject
  | closeObject
  | comma
  | colon
  | null
  | bool (b : Bool)
  | number (n : Numeral)
  | string (pieces : List Piece)
  deriving DecidableEq, Repr

/-! ## Strings -/

/-- The value of a hexadecimal digit of either case. -/
def hexValue? (c : Char) : Option Nat :=
  if '0' ≤ c ∧ c ≤ '9' then some (c.toNat - '0'.toNat)
  else if 'a' ≤ c ∧ c ≤ 'f' then some (c.toNat - 'a'.toNat + 10)
  else if 'A' ≤ c ∧ c ≤ 'F' then some (c.toNat - 'A'.toNat + 10)
  else none

/-- The code unit of four hexadecimal digits. -/
def codeUnit? (a b c d : Char) : Option Nat := do
  return ((← hexValue? a) * 16 + (← hexValue? b)) * 256 + ((← hexValue? c) * 16 + (← hexValue? d))

/-- The character that a one-letter escape stands for. -/
def escaped? : Char → Option Char
  | '"' => some '"'
  | '\\' => some '\\'
  | '/' => some '/'
  | 'b' => some '\x08'
  | 'f' => some '\x0C'
  | 'n' => some '\n'
  | 'r' => some '\r'
  | 't' => some '\t'
  | _ => none

/-- The pieces of a string up to its closing quote, and what follows the quote. -/
def pieces? : List Char → Option (List Piece × List Char)
  | [] => none
  | '"' :: rest => some ([], rest)
  | '\\' :: 'u' :: a :: b :: c :: d :: rest => do
    let unit ← codeUnit? a b c d
    let (pieces, rest) ← pieces? rest
    return (.unit unit :: pieces, rest)
  | '\\' :: c :: rest => do
    let e ← escaped? c
    let (pieces, rest) ← pieces? rest
    return (.char e :: pieces, rest)
  | c :: rest =>
    if c < ' ' then none
    else do
      let (pieces, rest) ← pieces? rest
      return (.char c :: pieces, rest)

/-! ## Numbers -/

/-- The fraction after a point, if there is a point. -/
def fraction? : List Char → Option (Option (List Char) × List Char)
  | '.' :: cs =>
    let run := cs.takeWhile Char.isDigit
    if run.isEmpty then none else some (some run, cs.dropWhile Char.isDigit)
  | cs => some (none, cs)

/-- Whether the sign of an exponent is negative, and what follows the sign. -/
def exponentSign : List Char → Bool × List Char
  | '-' :: rest => (true, rest)
  | '+' :: rest => (false, rest)
  | cs => (false, cs)

/-- The sign and digits of an exponent, after its letter. -/
def signedDigits? (cs : List Char) : Option ((Bool × List Char) × List Char) :=
  let (negative, rest) := exponentSign cs
  let run := rest.takeWhile Char.isDigit
  if run.isEmpty then none else some ((negative, run), rest.dropWhile Char.isDigit)

/-- The exponent, if there is a letter that starts one. -/
def exponent? : List Char → Option (Option (Bool × List Char) × List Char)
  | c :: cs =>
    if c = 'e' ∨ c = 'E' then (signedDigits? cs).map fun (e, rest) => (some e, rest)
    else some (none, c :: cs)
  | [] => some (none, [])

/-- The number at the head of a text, after its sign. -/
def numeral? (negative : Bool) (cs : List Char) : Option (Numeral × List Char) := do
  let whole := cs.takeWhile Char.isDigit
  if whole.isEmpty ∨ (whole.head? = some '0' ∧ whole.length ≠ 1) then none
  else
    let (fraction, rest) ← fraction? (cs.dropWhile Char.isDigit)
    let (exponent, rest) ← exponent? rest
    return (⟨negative, whole, fraction, exponent⟩, rest)

/-! ## Texts -/

/-- Whether a character may stand between tokens. -/
def isSpace (c : Char) : Bool := c = ' ' || c = '\t' || c = '\n' || c = '\r'

/-- The token at the head of a text, and what follows it. -/
def next? : List Char → Option (Token × List Char)
  | '[' :: rest => some (.openArray, rest)
  | ']' :: rest => some (.closeArray, rest)
  | '{' :: rest => some (.openObject, rest)
  | '}' :: rest => some (.closeObject, rest)
  | ',' :: rest => some (.comma, rest)
  | ':' :: rest => some (.colon, rest)
  | 'n' :: 'u' :: 'l' :: 'l' :: rest => some (.null, rest)
  | 't' :: 'r' :: 'u' :: 'e' :: rest => some (.bool true, rest)
  | 'f' :: 'a' :: 'l' :: 's' :: 'e' :: rest => some (.bool false, rest)
  | '"' :: rest => (pieces? rest).map fun (pieces, rest) => (.string pieces, rest)
  | '-' :: rest => (numeral? true rest).map fun (n, rest) => (.number n, rest)
  | cs => (numeral? false cs).map fun (n, rest) => (.number n, rest)

/-! ## Every token takes a character -/

theorem length_dropWhile_le (p : Char → Bool) (cs : List Char) :
    (cs.dropWhile p).length ≤ cs.length :=
  (List.dropWhile_sublist p).length_le

theorem length_lt_of_pieces? {cs rest : List Char} {pieces : List Piece}
    (h : pieces? cs = some (pieces, rest)) : rest.length < cs.length := by
  fun_induction pieces? cs generalizing pieces rest with
  | case1 => contradiction
  | case2 r =>
    obtain ⟨_, rfl⟩ := Prod.mk.inj (Option.some.inj h)
    simp
  | case3 a b c d r ih =>
    simp only [Option.bind_eq_bind, Option.bind_eq_some_iff] at h
    obtain ⟨u, _, ⟨ps, r'⟩, hr, he⟩ := h
    obtain ⟨_, rfl⟩ := Prod.mk.inj (Option.some.inj he)
    have := ih hr
    simp only [List.length_cons]
    omega
  | case4 c r _ ih =>
    simp only [Option.bind_eq_bind, Option.bind_eq_some_iff] at h
    obtain ⟨u, _, ⟨ps, r'⟩, hr, he⟩ := h
    obtain ⟨_, rfl⟩ := Prod.mk.inj (Option.some.inj he)
    have := ih hr
    simp only [List.length_cons]
    omega
  | case5 => contradiction
  | case6 c r _ _ _ _ ih =>
    simp only [Option.bind_eq_bind, Option.bind_eq_some_iff] at h
    obtain ⟨⟨ps, r'⟩, hr, he⟩ := h
    obtain ⟨_, rfl⟩ := Prod.mk.inj (Option.some.inj he)
    have := ih hr
    simp only [List.length_cons]
    omega

theorem length_le_of_fraction? {cs rest : List Char} {f : Option (List Char)}
    (h : fraction? cs = some (f, rest)) : rest.length ≤ cs.length := by
  unfold fraction? at h
  split at h
  · next r =>
    dsimp only at h
    split at h
    · contradiction
    · obtain ⟨_, rfl⟩ := Prod.mk.inj (Option.some.inj h)
      have := length_dropWhile_le Char.isDigit r
      simp only [List.length_cons]
      omega
  · obtain ⟨_, rfl⟩ := Prod.mk.inj (Option.some.inj h)
    exact Nat.le_refl _

theorem length_exponentSign_le (cs : List Char) : (exponentSign cs).2.length ≤ cs.length := by
  unfold exponentSign
  split <;> simp

theorem length_le_of_signedDigits? {cs rest : List Char} {e : Bool × List Char}
    (h : signedDigits? cs = some (e, rest)) : rest.length ≤ cs.length := by
  unfold signedDigits? at h
  dsimp only at h
  split at h
  · contradiction
  · obtain ⟨_, rfl⟩ := Prod.mk.inj (Option.some.inj h)
    exact Nat.le_trans (length_dropWhile_le _ _) (length_exponentSign_le cs)

theorem length_le_of_exponent? {cs rest : List Char} {e : Option (Bool × List Char)}
    (h : exponent? cs = some (e, rest)) : rest.length ≤ cs.length := by
  unfold exponent? at h
  split at h
  · split at h
    · obtain ⟨⟨e', r⟩, hs, he⟩ := Option.map_eq_some_iff.mp h
      obtain ⟨_, rfl⟩ := Prod.mk.inj he
      have := length_le_of_signedDigits? hs
      simp only [List.length_cons]
      omega
    · obtain ⟨_, rfl⟩ := Prod.mk.inj (Option.some.inj h)
      exact Nat.le_refl _
  · obtain ⟨_, rfl⟩ := Prod.mk.inj (Option.some.inj h)
    exact Nat.le_refl _

theorem length_lt_of_numeral? {negative : Bool} {cs rest : List Char} {n : Numeral}
    (h : numeral? negative cs = some (n, rest)) : rest.length < cs.length := by
  unfold numeral? at h
  dsimp only at h
  split at h
  · contradiction
  · next hw =>
    simp only [Option.bind_eq_bind, Option.bind_eq_some_iff] at h
    obtain ⟨⟨f, r⟩, hf, ⟨e, r'⟩, he, hn⟩ := h
    obtain ⟨_, rfl⟩ := Prod.mk.inj (Option.some.inj hn)
    have h1 : r.length ≤ _ := length_le_of_fraction? hf
    have h2 : r'.length ≤ r.length := length_le_of_exponent? he
    have h3 : (cs.takeWhile Char.isDigit).length + (cs.dropWhile Char.isDigit).length
        = cs.length := by
      rw [← List.length_append, List.takeWhile_append_dropWhile]
    have h4 : 0 < (cs.takeWhile Char.isDigit).length := by
      apply List.length_pos_iff.mpr
      intro hnil
      exact hw (Or.inl (by rw [hnil]; rfl))
    show r'.length < cs.length
    omega

theorem length_lt_of_next? {cs rest : List Char} {t : Token} (h : next? cs = some (t, rest)) :
    rest.length < cs.length := by
  unfold next? at h
  split at h
  case h_10 =>
    obtain ⟨⟨ps, r⟩, hp, he⟩ := Option.map_eq_some_iff.mp h
    obtain ⟨_, rfl⟩ := Prod.mk.inj he
    have := length_lt_of_pieces? hp
    simp only [List.length_cons]
    omega
  case h_11 =>
    obtain ⟨⟨n, r⟩, hn, he⟩ := Option.map_eq_some_iff.mp h
    obtain ⟨_, rfl⟩ := Prod.mk.inj he
    have := length_lt_of_numeral? hn
    simp only [List.length_cons]
    omega
  case h_12 =>
    obtain ⟨⟨n, r⟩, hn, he⟩ := Option.map_eq_some_iff.mp h
    obtain ⟨_, rfl⟩ := Prod.mk.inj he
    exact length_lt_of_numeral? hn
  all_goals
    obtain ⟨_, rfl⟩ := Prod.mk.inj (Option.some.inj h)
    simp only [List.length_cons]
    omega

/-- The tokens of a text. -/
def tokens? (cs : List Char) : Option (List Token) :=
  if cs.dropWhile isSpace = [] then some []
  else
    match _h : next? (cs.dropWhile isSpace) with
    | none => none
    | some (token, rest) => (tokens? rest).map (token :: ·)
termination_by cs.length
decreasing_by exact Nat.lt_of_lt_of_le (length_lt_of_next? _h) (length_dropWhile_le _ _)

end TableGateway.Json
