import TableGateway.Json.Basic
import TableGateway.Json.Outline

/-!
# Reading JSON documents

A document is read from an outline. Reading fails where an escape is half of a surrogate pair,
where a number is beyond the floating-point range, and where arrays and objects are nested too
deeply. Of two members with one name the first gives the place and the last the value.

## Numbers

Without fraction and exponent a number is an integer if it fits 64 bits, signed for negative and
unsigned for positive numbers. Minus zero does not count as an integer.

Any other number is floating-point. Its digits are gathered as long as the natural number that they
form fits 64 bits; those that do not count are places. That natural number is then scaled by the
power of ten that is left, in one multiplication or division of floating-point numbers, so that the
result is close to the number written but not always the closest.

Main statement: `distinct_of_read?`.
-/

namespace TableGateway.Json

/-! ## Strings -/

/-- Whether a code unit is the first of a surrogate pair. -/
def isHighSurrogate (u : Nat) : Bool := 0xD800 ≤ u && u < 0xDC00

/-- Whether a code unit is the second of a surrogate pair. -/
def isLowSurrogate (u : Nat) : Bool := 0xDC00 ≤ u && u < 0xE000

/-- The characters of a string. A surrogate has to have its partner next to it. -/
def chars? : List Piece → Option (List Char)
  | [] => some []
  | .char c :: rest => (chars? rest).map (c :: ·)
  | .unit high :: .unit low :: rest =>
    if isHighSurrogate high ∧ isLowSurrogate low then
      (chars? rest).map (Char.ofNat (0x10000 + (high - 0xD800) * 0x400 + (low - 0xDC00)) :: ·)
    else if isHighSurrogate high ∨ isLowSurrogate high then none
    else (chars? (.unit low :: rest)).map (Char.ofNat high :: ·)
  | .unit u :: rest =>
    if isHighSurrogate u ∨ isLowSurrogate u then none
    else (chars? rest).map (Char.ofNat u :: ·)

/-- The string that pieces spell out. -/
def string? (pieces : List Piece) : Option String := (chars? pieces).map String.ofList

/-! ## Numbers -/

/-- Gathers digits while the number that they form fits 64 bits; the others are left. -/
def gather (start : Nat) : List Char → Nat × List Char
  | [] => (start, [])
  | c :: rest =>
    let next := 10 * start + (c.toNat - '0'.toNat)
    if next < 0x10000000000000000 then gather next rest else (start, c :: rest)

/-- The greatest power of ten that is a floating-point number. -/
def greatestPower : Nat := 308

/-- A power of ten, correctly rounded. -/
def powerOfTen (e : Nat) : Float := Float.ofScientific 1 false e

/-- `x · 10 ^ e`, if it is in range. -/
def scaleUp? (x : Float) (e : Nat) : Option Float :=
  if e ≤ greatestPower then
    let scaled := x * powerOfTen e
    if scaled.isInf then none else some scaled
  else if x == 0.0 then some x
  else none

/-- `x / 10 ^ e`, in steps that are powers of ten themselves. -/
def scaleDown (x : Float) (e : Nat) : Float :=
  if e ≤ greatestPower then x / powerOfTen e
  else if x == 0.0 then x
  else scaleDown (x / powerOfTen greatestPower) (e - greatestPower)
termination_by e
decreasing_by
  simp only [greatestPower] at *
  omega

/-- `x · 10 ^ e`, if it is in range. -/
def scale? (x : Float) : Int → Option Float
  | .ofNat e => scaleUp? x e
  | .negSucc e => some (scaleDown x (e + 1))

/-- Exponents beyond this one are not computed with. -/
def greatestWrittenExponent : Nat := 0x7fffffff

namespace Numeral

/-- The digits that count, as a natural number, and the power of ten that they lack. -/
def significand (n : Numeral) : Nat × Int :=
  let (gathered, left) := gather 0 n.whole
  match n.fraction with
  | none => (gathered, left.length)
  | some fraction =>
    let (all, rest) := gather gathered fraction
    (all, (left.length : Int) - (fraction.length - rest.length : Nat))

/-- The absolute value of a floating-point number. -/
def magnitude? (n : Numeral) : Option Float :=
  let (significand, places) := n.significand
  let x := Float.ofNat significand
  match n.exponent with
  | none => scale? x places
  | some (negative, run) =>
    let e := Nat.ofDigitChars 10 run 0
    if greatestWrittenExponent < e then
      if significand ≠ 0 ∧ ¬ negative then none else some 0.0
    else scale? x (if negative then places - e else places + e)

/-- The number as a floating-point number. -/
def real? (n : Numeral) : Option Number := do
  let x ← n.magnitude?
  let x := if n.negative then -x else x
  if h : x.isFinite then some (.real x h) else none

/-- The number that a numeral denotes, if it is in range. -/
def number? (n : Numeral) : Option Number :=
  if n.fraction.isSome ∨ n.exponent.isSome then n.real?
  else
    let value := Nat.ofDigitChars 10 n.whole 0
    if n.negative then
      if h : value ≠ 0 ∧ value ≤ 0x8000000000000000 then some (.integer (-value) (by omega))
      else n.real?
    else if h : value < 0x10000000000000000 then some (.integer value (by omega))
    else n.real?

end Numeral

/-! ## Trees -/

/-- Arrays and objects inside each other, at most. -/
def greatestDepth : Nat := 127

namespace Outline

mutual

/-- The tree of an outline that is nested to at most the given depth. -/
def read? : Outline → Nat → Option Json
  | .null, _ => some .null
  | .bool b, _ => some (.bool b)
  | .number n, _ => n.number?.map .number
  | .string pieces, _ => (string? pieces).map .string
  | .array _, 0 => none
  | .array items, depth + 1 => (readItems? items depth).map .array
  | .object _, 0 => none
  | .object members, depth + 1 => (readMembers? members depth []).map .object

/-- The trees of the items of an array. -/
def readItems? : List Outline → Nat → Option (List Json)
  | [], _ => some []
  | item :: rest, depth => do
    let item ← read? item depth
    let rest ← readItems? rest depth
    return item :: rest

/-- The members of an object, added to those that are `done`. -/
def readMembers? :
    List (List Piece × Outline) → Nat → List (String × Json) → Option (List (String × Json))
  | [], _, done => some done
  | (name, value) :: rest, depth, done => do
    let name ← string? name
    let value ← read? value depth
    readMembers? rest depth (Entries.put name value done)

end

mutual

/-- In what is read no object has two members of one name. -/
theorem distinct_of_read? : ∀ (o : Outline) (depth : Nat) {j : Json},
    o.read? depth = some j → j.Distinct
  | .null, _, j, h => by
    obtain rfl := Option.some.inj (by simpa only [read?] using h)
    trivial
  | .bool b, _, j, h => by
    obtain rfl := Option.some.inj (by simpa only [read?] using h)
    trivial
  | .number n, _, j, h => by
    rw [read?] at h
    obtain ⟨_, _, rfl⟩ := Option.map_eq_some_iff.mp h
    trivial
  | .string pieces, _, j, h => by
    rw [read?] at h
    obtain ⟨_, _, rfl⟩ := Option.map_eq_some_iff.mp h
    trivial
  | .array _, 0, j, h => by simp [read?] at h
  | .array items, depth + 1, j, h => by
    rw [read?] at h
    obtain ⟨js, hjs, rfl⟩ := Option.map_eq_some_iff.mp h
    exact distinct_of_readItems? items depth hjs
  | .object _, 0, j, h => by simp [read?] at h
  | .object members, depth + 1, j, h => by
    rw [read?] at h
    obtain ⟨ms, hms, rfl⟩ := Option.map_eq_some_iff.mp h
    have hn : (Entries.names ([] : List (String × Json))).Nodup := List.nodup_nil
    have hd : MembersDistinct [] := by
      rw [MembersDistinct]
      trivial
    exact distinct_of_readMembers? members depth hn hd hms

theorem distinct_of_readItems? : ∀ (items : List Outline) (depth : Nat) {js : List Json},
    readItems? items depth = some js → AllDistinct js
  | [], _, js, h => by
    obtain rfl := Option.some.inj (by simpa only [readItems?] using h)
    trivial
  | item :: rest, depth, js, h => by
    rw [readItems?] at h
    simp only [Option.bind_eq_bind, Option.bind_eq_some_iff] at h
    obtain ⟨j, hj, js', hjs, he⟩ := h
    obtain rfl := Option.some.inj he
    exact ⟨distinct_of_read? item depth hj, distinct_of_readItems? rest depth hjs⟩

theorem distinct_of_readMembers? : ∀ (members : List (List Piece × Outline)) (depth : Nat)
    {done ms : List (String × Json)}, (Entries.names done).Nodup → MembersDistinct done →
    readMembers? members depth done = some ms → (Entries.names ms).Nodup ∧ MembersDistinct ms
  | [], _, done, ms, hn, hd, h => by
    obtain rfl := Option.some.inj (by simpa only [readMembers?] using h)
    exact ⟨hn, hd⟩
  | (name, value) :: rest, depth, done, ms, hn, hd, h => by
    rw [readMembers?] at h
    simp only [Option.bind_eq_bind, Option.bind_eq_some_iff] at h
    obtain ⟨k, _, v, hv, hr⟩ := h
    exact distinct_of_readMembers? rest depth (Entries.nodup_put hn)
      (hd.put (distinct_of_read? value depth hv)) hr

end

end Outline

/-- The document that a text holds. -/
def Document.ofText? (text : String) : Option Document :=
  (Outline.ofText? text).bind fun outline =>
    match h : outline.read? greatestDepth with
    | some tree => some ⟨tree, outline.distinct_of_read? greatestDepth h⟩
    | none => none

end TableGateway.Json
