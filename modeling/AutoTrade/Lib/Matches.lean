import Mathlib.Data.List.Basic

/-! # The matches of a pattern in a text

`String.prototype.matchAll` for a pattern given by what it matches at a position: the text is
searched from left to right, and the search goes on behind each match. -/

namespace AutoTrade.Lib.Matches

structure Match (α : Type*) where
  index : ℕ
  length : ℕ
  value : α

variable {α : Type*}

/-- The matches in a text that begins at `index` behind the character `previous`. The first `skip`
characters belong to a match already found. `matcher` gives the length of a match and its value. -/
def matchAll (matcher : Option Char → List Char → Option (ℕ × α)) :
    Option Char → ℕ → ℕ → List Char → List (Match α)
  | _, _, _, [] => []
  | _, index, skip + 1, c :: text => matchAll matcher (some c) (index + 1) skip text
  | previous, index, 0, c :: text => match matcher previous (c :: text) with
    | some (length, value) =>
      ⟨index, length, value⟩ :: matchAll matcher (some c) (index + 1) (length - 1) text
    | none => matchAll matcher (some c) (index + 1) 0 text

variable {matcher : Option Char → List Char → Option (ℕ × α)} {previous : Option Char}
  {index skip : ℕ} {text : List Char} {found : Match α}

/-- The character before a position of the text. -/
def charBefore (previous : Option Char) (text : List Char) : ℕ → Option Char
  | 0 => previous
  | i + 1 => text[i]?

/-- A match is found where the pattern matches the rest of the text, behind the character before it. -/
theorem matches_at (h : found ∈ matchAll matcher previous index skip text) :
    index + skip ≤ found.index ∧ found.index - index < text.length ∧
      matcher (charBefore previous text (found.index - index)) (text.drop (found.index - index)) =
        some (found.length, found.value) := by
  -- one character further
  have hlater : ∀ {index : ℕ} {c : Char} {text : List Char}, index + 1 ≤ found.index →
      found.index - (index + 1) < text.length →
      matcher (charBefore (some c) text (found.index - (index + 1)))
        (text.drop (found.index - (index + 1))) = some (found.length, found.value) →
      ∀ previous, found.index - index < (c :: text).length ∧
        matcher (charBefore previous (c :: text) (found.index - index))
          ((c :: text).drop (found.index - index)) = some (found.length, found.value) := by
    intro index c text hle hlt hmatch previous
    have hsub : found.index - index = (found.index - (index + 1)) + 1 := by omega
    have hbefore : charBefore previous (c :: text) (found.index - (index + 1) + 1) =
        charBefore (some c) text (found.index - (index + 1)) := by
      cases found.index - (index + 1) <;> rfl
    rw [hsub, List.drop_succ_cons, List.length_cons, hbefore]
    exact ⟨by omega, hmatch⟩
  fun_induction matchAll matcher previous index skip text with
  | case1 => cases h
  | case2 previous index skip c text ih =>
    obtain ⟨hle, hlt, hmatch⟩ := ih h
    exact ⟨by omega, hlater (by omega) hlt hmatch previous⟩
  | case3 previous index c text length value hmatch ih =>
    rcases List.mem_cons.mp h with rfl | h
    · exact ⟨Nat.le_refl _, by simp, by simpa [charBefore] using hmatch⟩
    · obtain ⟨hle, hlt, hrest⟩ := ih h
      exact ⟨by omega, hlater (by omega) hlt hrest previous⟩
  | case4 previous index c text hmatch ih =>
    obtain ⟨hle, hlt, hrest⟩ := ih h
    exact ⟨by omega, hlater (by omega) hlt hrest previous⟩

theorem matches_ordered : (matchAll matcher previous index skip text).Pairwise
    fun one other => one.index < other.index ∧ one.index + one.length ≤ other.index := by
  fun_induction matchAll matcher previous index skip text with
  | case1 => exact .nil
  | case2 _ _ _ _ _ ih => exact ih
  | case3 _ _ _ _ _ _ _ ih =>
    refine List.pairwise_cons.mpr ⟨fun other hother => ?_, ih⟩
    have hle := (matches_at hother).1
    constructor <;> dsimp only <;> omega
  | case4 _ _ _ _ _ ih => exact ih



end AutoTrade.Lib.Matches
