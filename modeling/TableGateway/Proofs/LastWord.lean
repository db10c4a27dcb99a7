import Mathlib.Data.List.Induction

/-!
# The last word

A history is a list of steps, and something that steps leave behind can often be read off them: a
step says what it is from now on, or says nothing about it. Then all steps together leave what the
last of those says that say something.

Main statement: `part_foldl_eq_iff`.
-/

namespace TableGateway

variable {ι β S : Type}

/-- What steps leave of something that was `start` before: what the last of those says that say
something about it. -/
inductive LastWord (word? : ι → Option β) (start : β) : List ι → β → Prop where
  | silent {steps : List ι} (h : ∀ step ∈ steps, word? step = none) :
    LastWord word? start steps start
  | said {before after : List ι} {step : ι} {answer : β} (hsaid : word? step = some answer)
    (hafter : ∀ later ∈ after, word? later = none) :
    LastWord word? start (before ++ step :: after) answer

variable {apply : S → ι → S} {part : S → β} {word? : ι → Option β} {steps : List ι} {s : S}

/-- Silence stays without effect. -/
theorem LastWord.concat {start answer : β} {step : ι} (h : LastWord word? start steps answer)
    (hstep : word? step = none) : LastWord word? start (steps ++ [step]) answer := by
  have hconcat : ∀ {after}, (∀ later ∈ after, word? later = none) →
      ∀ later ∈ after ++ [step], word? later = none := by
    intro after hafter later hlater
    rcases List.mem_append.mp hlater with hold | hnew
    · exact hafter later hold
    · rw [List.mem_singleton.mp hnew, hstep]
  cases h with
  | silent h => exact .silent (hconcat h)
  | said hsaid hafter =>
    rw [List.append_assoc, List.cons_append]
    exact .said hsaid (hconcat hafter)

/-- A part that each step leaves as it says, if it says something about it. -/
def SetBy (apply : S → ι → S) (part : S → β) (word? : ι → Option β) : Prop :=
  ∀ s step, part (apply s step) = (word? step).getD (part s)

namespace SetBy

variable (h : SetBy apply part word?)
include h

theorem part_foldl (steps : List ι) (s : S) :
    part (steps.foldl apply s)
      = (steps.filterMap word?).foldl (fun _ answer => answer) (part s) := by
  induction steps generalizing s with
  | nil => rfl
  | cons step steps ih =>
    rw [List.foldl_cons, ih, h s step]
    cases hstep : word? step with
    | none => rw [List.filterMap_cons_none hstep, Option.getD_none]
    | some answer => rw [List.filterMap_cons_some hstep, List.foldl_cons, Option.getD_some]

/-- Steps that say the same leave the same. -/
theorem part_foldl_congr {others : List ι} {t : S} (hstart : part t = part s)
    (hsame : others.filterMap word? = steps.filterMap word?) :
    part (others.foldl apply t) = part (steps.foldl apply s) := by
  rw [h.part_foldl, h.part_foldl, hstart, hsame]

theorem part_foldl_of_silent (hsilent : ∀ step ∈ steps, word? step = none) (s : S) :
    part (steps.foldl apply s) = part s := by
  rw [h.part_foldl, List.filterMap_eq_nil_iff.mpr hsilent, List.foldl_nil]

theorem lastWord_foldl (steps : List ι) (s : S) :
    LastWord word? (part s) steps (part (steps.foldl apply s)) := by
  induction steps using List.reverseRecOn with
  | nil => exact .silent fun step hstep => absurd hstep List.not_mem_nil
  | append_singleton steps step ih =>
    rw [List.foldl_append, List.foldl_cons, List.foldl_nil, h]
    cases hstep : word? step with
    | none => exact ih.concat hstep
    | some answer => exact .said hstep fun later hlater => absurd hlater List.not_mem_nil

/-- All steps together leave what the last word is. -/
theorem part_foldl_eq_iff {answer : β} :
    part (steps.foldl apply s) = answer ↔ LastWord word? (part s) steps answer := by
  constructor
  · rintro rfl
    exact h.lastWord_foldl steps s
  · intro hlast
    cases hlast with
    | silent hsilent => exact h.part_foldl_of_silent hsilent s
    | said hsaid hafter =>
      rw [List.foldl_append, List.foldl_cons, h.part_foldl_of_silent hafter, h, hsaid,
        Option.getD_some]

end SetBy

end TableGateway
