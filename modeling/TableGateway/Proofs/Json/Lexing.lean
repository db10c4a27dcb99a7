import TableGateway.Json.Printer
import TableGateway.Json.Reader
import TableGateway.Proofs.Decimal.Digits

/-!
# The tokens of written strings and numbers

A string that is written down in quotes is read as one token. Each character makes one piece of it:
the controls without a letter of their own are given by their code, all others come back as
characters, and together the pieces spell out the string again. A numeral is read as one token too,
as long as it has digits wherever it needs them and no further digit, point or exponent follows.

Main statements: `pieces?_flatMap_escapeChar`, `string?_piecesOf`, `next?_spelling`.
-/

namespace TableGateway.Json

open Decimal (IsRun)

variable {c : Char} {cs rest : List Char}

/-! ## Strings -/

/-- The controls that have a letter of their own in escapes. -/
def letteredControls : List Char := ['\x08', '\x0C', '\n', '\r', '\t']

/-- The piece that a character is written as. -/
def pieceOf (c : Char) : Piece :=
  if c < ' ' ∧ c ∉ letteredControls then .unit c.toNat else .char c

/-- The pieces that a string is written as. -/
def piecesOf (s : String) : List Piece := s.toList.map pieceOf

/-- A piece before the others. -/
def addPiece (piece : Piece) : List Piece × List Char → List Piece × List Char
  | (pieces, rest) => (piece :: pieces, rest)

theorem pieces?_letter {letter : Char} (h : escaped? letter = some c) :
    pieces? ('\\' :: letter :: rest) = (pieces? rest).map (addPiece (.char c)) := by
  have hne : letter ≠ 'u' := by
    rintro rfl
    contradiction
  rw [pieces?.eq_4 _ _ fun _ _ _ _ _ hu => absurd hu hne, h]
  cases pieces? rest <;> rfl

theorem pieces?_code {n : Nat} {a b d e : Char} (h : codeUnit? a b d e = some n) :
    pieces? ('\\' :: 'u' :: a :: b :: d :: e :: rest)
      = (pieces? rest).map (addPiece (.unit n)) := by
  rw [pieces?, h]
  cases pieces? rest <;> rfl

theorem pieces?_plain (hquote : c ≠ '"') (hbackslash : c ≠ '\\') (hcontrol : ¬ c < ' ') :
    pieces? (c :: rest) = (pieces? rest).map (addPiece (.char c)) := by
  rw [pieces?.eq_5 _ _ hquote (fun _ _ _ _ _ h => absurd h hbackslash)
    (fun _ _ h => absurd h hbackslash), if_neg hcontrol]
  cases pieces? rest <;> rfl

theorem codeUnit?_hexPair : ∀ n < 32,
    codeUnit? '0' '0' (Nat.digitChar (n / 16)) (Nat.digitChar (n % 16)) = some n := by
  decide

/-- Each character within quotes makes one piece. -/
theorem pieces?_escapeChar (c : Char) (rest : List Char) :
    pieces? (escapeChar c ++ rest) = (pieces? rest).map (addPiece (pieceOf c)) := by
  have hlettered : ∀ c ∈ letteredControls, pieceOf c = .char c :=
    fun c hc => if_neg fun h => h.2 hc
  unfold escapeChar
  split
  · next h => rcases h with rfl | rfl <;> exact pieces?_letter rfl
  · next hquoted =>
    split
    · next h => rw [h]; exact pieces?_letter rfl
    split
    · next h => rw [h]; exact pieces?_letter rfl
    split
    · next h => rw [h]; exact pieces?_letter rfl
    split
    · next h => rw [h]; exact pieces?_letter rfl
    split
    · next h => rw [h]; exact pieces?_letter rfl
    have hnot : c ∉ letteredControls := by simp [letteredControls, *]
    split
    · next hcontrol =>
      rw [pieceOf, if_pos ⟨hcontrol, hnot⟩]
      exact pieces?_code (codeUnit?_hexPair c.toNat hcontrol)
    · next hcontrol =>
      rw [pieceOf, if_neg fun h => hcontrol h.1]
      exact pieces?_plain (fun h => hquoted (.inl h)) (fun h => hquoted (.inr h)) hcontrol

theorem pieces?_flatMap_escapeChar (cs rest : List Char) :
    pieces? (cs.flatMap escapeChar ++ '"' :: rest) = some (cs.map pieceOf, rest) := by
  induction cs with
  | nil => rw [List.flatMap_nil, List.nil_append, pieces?, List.map_nil]
  | cons c cs ih =>
    rw [List.flatMap_cons, List.append_assoc, pieces?_escapeChar, ih]
    rfl

/-- A code below the surrogates is that of a character, whatever comes next. -/
theorem chars?_unit {n : Nat} {pieces : List Piece} (h : n < 0xD800) :
    chars? (.unit n :: pieces) = (chars? pieces).map (Char.ofNat n :: ·) := by
  have hhigh : isHighSurrogate n = false := by
    simp only [isHighSurrogate, Bool.and_eq_false_imp, decide_eq_true_eq, decide_eq_false_iff_not]
    omega
  have hlow : isLowSurrogate n = false := by
    simp only [isLowSurrogate, Bool.and_eq_false_imp, decide_eq_true_eq, decide_eq_false_iff_not]
    omega
  rcases pieces with _ | ⟨_ | low, pieces⟩ <;> simp [chars?, hhigh, hlow]

theorem string?_piecesOf (s : String) : string? (piecesOf s) = some s := by
  have hchars : ∀ cs : List Char, chars? (cs.map pieceOf) = some cs := fun cs => by
    induction cs with
    | nil => rfl
    | cons c cs ih =>
      rw [List.map_cons, pieceOf]
      split
      · next h =>
        have hlt : c.toNat < 32 := h.1
        rw [chars?_unit (by omega), ih, Char.ofNat_toNat]
        rfl
      · rw [chars?, ih]
        rfl
  rw [string?, piecesOf, hchars, Option.map_some, String.ofList_toList]

/-! ## Numerals -/

/-- What may stand behind a value: nothing, a comma, or a closing bracket. -/
inductive Ends : List Char → Prop where
  | nil : Ends []
  | cons {c : Char} {rest : List Char} (h : c ∈ [',', ']', '}']) : Ends (c :: rest)

theorem Ends.head_not {c : Char} {rest : List Char} (h : Ends (c :: rest)) :
    ¬ c.isDigit ∧ c ≠ '.' ∧ c ≠ 'e' ∧ c ≠ 'E' := by
  have hall : ∀ c ∈ [',', ']', '}'], ¬ c.isDigit ∧ c ≠ '.' ∧ c ≠ 'e' ∧ c ≠ 'E' := by simp
  cases h with
  | cons h => exact hall c h

theorem Ends.takeWhile_isDigit (h : Ends rest) : rest.takeWhile Char.isDigit = [] := by
  cases rest with
  | nil => rfl
  | cons c rest => exact List.takeWhile_cons_of_neg h.head_not.1

namespace Numeral

/-- The characters of a fraction. -/
def fractionSpelling : Option (List Char) → List Char
  | none => []
  | some run => '.' :: run

/-- The characters of an exponent, with a sign in any case. -/
def exponentSpelling : Option (Bool × List Char) → List Char
  | none => []
  | some (negative, run) => 'e' :: (if negative then '-' else '+') :: run

/-- The characters of a numeral. -/
def spelling (n : Numeral) : List Char :=
  (if n.negative then ['-'] else [])
    ++ (n.whole ++ (fractionSpelling n.fraction ++ exponentSpelling n.exponent))

/-- There are digits wherever there have to be some, and no zero stands in front. -/
structure WellFormed (n : Numeral) : Prop where
  whole : IsRun n.whole
  no_zero : n.whole.head? = some '0' → n.whole.length = 1
  fraction : ∀ run, n.fraction = some run → IsRun run
  exponent : ∀ negative run, n.exponent = some (negative, run) → IsRun run

theorem exponent?_spelling {e : Option (Bool × List Char)} (h : ∀ negative run,
    e = some (negative, run) → IsRun run) (hrest : Ends rest) :
    exponent? (exponentSpelling e ++ rest) = some (e, rest) := by
  cases e with
  | none =>
    cases rest with
    | nil => rfl
    | cons c rest =>
      have hc := hrest.head_not
      exact if_neg fun h => h.elim hc.2.2.1 hc.2.2.2
  | some e =>
    obtain ⟨negative, run⟩ := e
    have hrun := h negative run rfl
    have hsign : exponentSign ((if negative then '-' else '+') :: (run ++ rest))
        = (negative, run ++ rest) := by
      cases negative <;> rfl
    have hdigits : signedDigits? ((if negative then '-' else '+') :: (run ++ rest))
        = some ((negative, run), rest) := by
      simp only [signedDigits?, hsign, hrun.takeWhile_append hrest.takeWhile_isDigit,
        hrun.dropWhile_append hrest.takeWhile_isDigit, List.isEmpty_iff, if_neg hrun.ne_nil]
    rw [exponentSpelling, List.cons_append, List.cons_append, exponent?, if_pos (.inl rfl), hdigits]
    rfl

/-- Neither an exponent nor the end of a value begins with a digit or a point. -/
theorem exponentSpelling_append (e : Option (Bool × List Char)) (hrest : Ends rest) :
    (exponentSpelling e ++ rest).takeWhile Char.isDigit = []
      ∧ (exponentSpelling e ++ rest).head? ≠ some '.' := by
  cases e with
  | none =>
    refine ⟨hrest.takeWhile_isDigit, ?_⟩
    cases rest with
    | nil => exact nofun
    | cons c rest => exact fun h => hrest.head_not.2.1 (Option.some.inj h)
  | some e => exact ⟨rfl, fun h => absurd (Option.some.inj h) (by decide : 'e' ≠ '.')⟩

theorem fraction?_spelling {f : Option (List Char)} (h : ∀ run, f = some run → IsRun run)
    {tail : List Char} (htail : tail.takeWhile Char.isDigit = []) (hpoint : tail.head? ≠ some '.') :
    fraction? (fractionSpelling f ++ tail) = some (f, tail) := by
  cases f with
  | none =>
    rw [fractionSpelling, List.nil_append]
    unfold fraction?
    split
    · exact absurd rfl hpoint
    · rfl
  | some run =>
    have hrun := h run rfl
    simp only [fractionSpelling, List.cons_append, fraction?, hrun.takeWhile_append htail,
      hrun.dropWhile_append htail, List.isEmpty_iff, if_neg hrun.ne_nil]

theorem numeral?_spelling {n : Numeral} (h : n.WellFormed) (hrest : Ends rest) :
    numeral? n.negative (n.whole ++ (fractionSpelling n.fraction ++ exponentSpelling n.exponent)
      ++ rest) = some (n, rest) := by
  obtain ⟨htail, hpoint⟩ := exponentSpelling_append n.exponent hrest
  have hfraction : (fractionSpelling n.fraction ++ (exponentSpelling n.exponent ++ rest)).takeWhile
      Char.isDigit = [] := by
    cases n.fraction with
    | none => exact htail
    | some run => rfl
  have hwhole : ¬ (n.whole.isEmpty = true ∨ n.whole.head? = some '0' ∧ n.whole.length ≠ 1) := by
    rintro (hnil | ⟨hzero, hlength⟩)
    · exact h.whole.ne_nil (List.isEmpty_iff.mp hnil)
    · exact hlength (h.no_zero hzero)
  simp only [numeral?, List.append_assoc, h.whole.takeWhile_append hfraction,
    h.whole.dropWhile_append hfraction, if_neg hwhole, fraction?_spelling h.fraction htail hpoint,
    exponent?_spelling h.exponent hrest, Option.bind_eq_bind, Option.bind_some]
  rfl

end Numeral

/-- A token that begins with a digit is a number. -/
theorem next?_of_isDigit (h : c.isDigit) :
    next? (c :: cs) = (numeral? false (c :: cs)).map fun (n, rest) => (.number n, rest) := by
  unfold next?
  split
  case h_12 => rfl
  all_goals
    next heq =>
      rw [(List.cons.inj heq).1] at h
      exact absurd h (by decide)

theorem next?_spelling {n : Numeral} (h : n.WellFormed) (hrest : Ends rest) :
    next? (n.spelling ++ rest) = some (.number n, rest) := by
  have hnumeral := Numeral.numeral?_spelling h hrest
  obtain ⟨negative, whole, fraction, exponent⟩ := n
  cases negative with
  | true =>
    show next? ('-' :: (whole ++ _ ++ rest)) = _
    rw [next?, hnumeral]
    rfl
  | false =>
    obtain ⟨c, digits, rfl⟩ := List.exists_cons_of_ne_nil h.whole.ne_nil
    show next? (c :: (digits ++ _ ++ rest)) = _
    rw [next?_of_isDigit h.whole.head_isDigit]
    exact congrArg _ hnumeral

end TableGateway.Json
