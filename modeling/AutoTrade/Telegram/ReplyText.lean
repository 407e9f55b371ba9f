import AutoTrade.Lib.Text
import Mathlib.Data.List.DropRight
import Mathlib.Data.PNat.Basic
import Mathlib.Data.Rat.Defs

/-! # Splitting a reply

A reply that is too long for one message is cut at line ends where one lies in the second half of
the window, and at the end of the window otherwise. Each piece is sent without its trailing white
space; when nothing is left of it the whole window is sent instead, which goes past a cut at a line
end.

* `splitLoop_within`: the lengths of the pieces.
* `solid_splitLoop_iff`: the pieces hold the text, white space apart, exactly when the loop never
  sends a window past such a cut.
* `sendsPastCut_iff_blankStart`: where that happens is a matter of the text alone, of what is visible
  on both sides of the line end in which a full window is cut. -/

namespace AutoTrade.Telegram.ReplyText

open Lib.Text

/-- A text as its UTF-16 code units. -/
abbrev Units := List UInt16

/-- The code unit of a line feed. -/
def lineFeed : UInt16 := 10

/-- White space and line terminators; a half of a surrogate pair is neither. -/
def isSpaceUnit (unit : UInt16) : Bool := isJsSpace (Char.ofNat unit.toNat)

/-- `text.trimEnd()`. -/
def trimEnd (text : Units) : Units := text.rdropWhile isSpaceUnit

/-- `text.lastIndexOf("\n", position)`, `none` for `-1`. -/
def lastIndexOfLineFeed (text : Units) (position : ℕ) : Option ℕ :=
  (List.range (position + 1)).reverse.find? fun index => text[index]? = some lineFeed

/-- `text.replace(/^\n/u, "")`. -/
def dropLineFeed : Units → Units
  | [] => []
  | unit :: rest => if unit = lineFeed then rest else unit :: rest

/-! ### The limit -/

/-- A number of the source. -/
inductive Number
  | finite (value : ℚ)
  | infinity
  | negInfinity
  | nan

/-- `Math.max(1, Math.trunc(maxLength))`: no comparison with `NaN` holds. -/
inductive Limit
  | units (count : ℕ+)
  | infinity
  | nan

def normalizedMaxLength : Number → Limit
  | .finite value =>
    .units ⟨(max 1 (value.num.tdiv value.den)).toNat, by omega⟩
  | .infinity => .infinity
  | .negInfinity => .units 1
  | .nan => .nan

/-- `length > limit`. -/
def Limit.exceededBy : Limit → ℕ → Bool
  | .units count, length => count < length
  | .infinity, _ => false
  | .nan, _ => false

/-! ### The loop -/

/-- `splitAt`. -/
def splitPosition (limit : ℕ) (remaining : Units) : ℕ :=
  match lastIndexOfLineFeed remaining limit with
  | some splitAt => if splitAt ≤ limit / 2 then limit else splitAt
  | none => limit

/-- What one turn of the loop pushes. -/
def pieceOf (limit : ℕ) (remaining : Units) : Units :=
  let chunk := trimEnd (remaining.take (splitPosition limit remaining))
  if chunk = [] then remaining.take limit else chunk

/-- What one turn of the loop leaves. -/
def restOf (limit : ℕ) (remaining : Units) : Units :=
  dropLineFeed (remaining.drop (splitPosition limit remaining))

variable {limit : ℕ}

theorem splitPosition_spec (hlimit : 0 < limit) (remaining : Units) :
    0 < splitPosition limit remaining ∧ splitPosition limit remaining ≤ limit := by
  unfold splitPosition
  cases hfind : lastIndexOfLineFeed remaining limit with
  | none => exact ⟨hlimit, le_refl limit⟩
  | some index =>
    have hmem := List.mem_of_find?_eq_some hfind
    rw [List.mem_reverse, List.mem_range] at hmem
    dsimp only
    split_ifs with hearly
    · exact ⟨hlimit, le_refl limit⟩
    · omega

theorem length_dropLineFeed_le (text : Units) : (dropLineFeed text).length ≤ text.length := by
  cases text with
  | nil => exact le_refl 0
  | cons unit rest =>
    rw [dropLineFeed]
    split_ifs with hfeed
    · exact Nat.le_succ _
    · exact le_refl _

variable {remaining : Units}

theorem length_restOf_lt (hlimit : 0 < limit) (h : limit < remaining.length) :
    (restOf limit remaining).length < remaining.length := by
  obtain ⟨hpos, -⟩ := splitPosition_spec hlimit remaining
  have hdrop := length_dropLineFeed_le (remaining.drop (splitPosition limit remaining))
  rw [List.length_drop] at hdrop
  unfold restOf
  omega

/-- The `while` loop with the push behind it, `none` when the given number of turns is not enough.
-/
def splitLoop (limit : ℕ) : ℕ → Units → Option (List Units)
  | 0, _ => none
  | turns + 1, remaining =>
    if limit < remaining.length then
      (splitLoop limit turns (restOf limit remaining)).map fun chunks =>
        pieceOf limit remaining :: chunks
    else some (if 0 < remaining.length then [remaining] else [])

def splitTelegramReplyText (text : Units) (maxLength : Number) : Option (List Units) :=
  match normalizedMaxLength maxLength with
  | .units limit =>
    if text.length ≤ limit then some [text] else splitLoop limit (text.length + 1) text
  | .infinity => some [text]
  | .nan => some (if 0 < text.length then [text] else [])

/-- The values of `remaining` with which a turn of the loop starts. -/
def turnsOf (limit : ℕ) : ℕ → Units → List Units
  | 0, _ => []
  | turns + 1, remaining =>
    if limit < remaining.length then
      remaining :: turnsOf limit turns (restOf limit remaining)
    else []

/-! ### The lengths -/

variable {turns : ℕ}

theorem splitLoop_isSome (hlimit : 0 < limit) (h : remaining.length < turns) :
    (splitLoop limit turns remaining).isSome = true := by
  induction turns generalizing remaining with
  | zero => omega
  | succ turns ih =>
    rw [splitLoop]
    split_ifs with hlong
    · have hrest := length_restOf_lt hlimit hlong
      rw [Option.isSome_map]
      exact ih (by omega)
    · rfl
    · rfl

theorem pieceOf_within (hlimit : 0 < limit) (h : limit < remaining.length) :
    0 < (pieceOf limit remaining).length ∧ (pieceOf limit remaining).length ≤ limit := by
  unfold pieceOf
  dsimp only
  split_ifs with hblank
  · rw [List.length_take]
    omega
  · refine ⟨List.length_pos_of_ne_nil hblank, ?_⟩
    have hprefix := (List.rdropWhile_prefix isSpaceUnit
      (l := remaining.take (splitPosition limit remaining))).length_le
    obtain ⟨-, hle⟩ := splitPosition_spec hlimit remaining
    rw [List.length_take] at hprefix
    unfold trimEnd
    omega

variable {chunks : List Units}

theorem splitLoop_within (hlimit : 0 < limit) (h : splitLoop limit turns remaining = some chunks) :
    ∀ chunk ∈ chunks, 0 < chunk.length ∧ chunk.length ≤ limit := by
  induction turns generalizing remaining chunks with
  | zero => simp [splitLoop] at h
  | succ turns ih =>
    rw [splitLoop] at h
    split_ifs at h with hlong hpos
    · obtain ⟨rest, hrest, rfl⟩ := Option.map_eq_some_iff.mp h
      exact List.forall_mem_cons.mpr ⟨pieceOf_within hlimit hlong, ih hrest⟩
    · rw [← Option.some.inj h, List.forall_mem_singleton]
      exact ⟨hpos, not_lt.mp hlong⟩
    · rw [← Option.some.inj h]
      simp

/-! ### The content -/

/-- The text with its white space removed. -/
def solid (text : Units) : Units := text.filter fun unit => !isSpaceUnit unit

@[simp] theorem solid_append (left right : Units) : solid (left ++ right) = solid left ++ solid right :=
  List.filter_append ..

variable {text : Units}

theorem solid_eq_nil_iff : solid text = [] ↔ text.all isSpaceUnit = true := by
  simp [solid, List.filter_eq_nil_iff]

@[simp] theorem solid_trimEnd (text : Units) : solid (trimEnd text) = solid text := by
  have hblank : solid (text.rtakeWhile isSpaceUnit) = [] := by
    rw [solid_eq_nil_iff, List.all_eq_true]
    exact fun unit hunit => List.mem_rtakeWhile_imp hunit
  have hsplit := congrArg solid (List.rdropWhile_append_rtakeWhile (p := isSpaceUnit) (l := text))
  rw [solid_append, hblank, List.append_nil] at hsplit
  exact hsplit

@[simp] theorem solid_dropLineFeed (text : Units) : solid (dropLineFeed text) = solid text := by
  cases text with
  | nil => rfl
  | cons unit rest =>
    rw [dropLineFeed]
    split_ifs with hfeed
    · have hspace : isSpaceUnit unit = true := by
        rw [hfeed]
        decide
      simp [solid, hspace]
    · rfl

theorem trimEnd_eq_nil_iff : trimEnd text = [] ↔ solid text = [] := by
  rw [trimEnd, List.rdropWhile_eq_nil_iff, solid_eq_nil_iff, List.all_eq_true]

/-- A turn that finds nothing before its cut, and sends what stands behind the cut with it. -/
def SendsPastCut (limit : ℕ) (remaining : Units) : Prop :=
  (remaining.take (splitPosition limit remaining)).all isSpaceUnit = true ∧
    ((remaining.take limit).drop (splitPosition limit remaining)).all isSpaceUnit = false

instance (limit : ℕ) (remaining : Units) : Decidable (SendsPastCut limit remaining) :=
  inferInstanceAs (Decidable (_ ∧ _))

theorem sendsPastCut_iff :
    SendsPastCut limit remaining ↔
      solid (remaining.take (splitPosition limit remaining)) = [] ∧
        solid ((remaining.take limit).drop (splitPosition limit remaining)) ≠ [] := by
  rw [SendsPastCut, solid_eq_nil_iff, Ne, solid_eq_nil_iff, Bool.not_eq_true]

theorem solid_restOf (limit : ℕ) (remaining : Units) :
    solid (remaining.take (splitPosition limit remaining)) ++ solid (restOf limit remaining) =
      solid remaining := by
  rw [restOf, solid_dropLineFeed, ← solid_append, List.take_append_drop]

/-- What a turn pushes: the text before the cut, or the blank and what stands behind the cut. -/
theorem solid_pieceOf (hlimit : 0 < limit) (remaining : Units) :
    solid (pieceOf limit remaining) = solid (remaining.take (splitPosition limit remaining)) ++
      if SendsPastCut limit remaining then
        solid ((remaining.take limit).drop (splitPosition limit remaining)) else [] := by
  obtain ⟨-, hle⟩ := splitPosition_spec hlimit remaining
  have hwindow : remaining.take (splitPosition limit remaining) ++
      (remaining.take limit).drop (splitPosition limit remaining) = remaining.take limit := by
    have htake : (remaining.take limit).take (splitPosition limit remaining) =
        remaining.take (splitPosition limit remaining) := by
      rw [List.take_take, min_eq_left hle]
    rw [← htake, List.take_append_drop]
  unfold pieceOf
  dsimp only
  by_cases hblank : solid (remaining.take (splitPosition limit remaining)) = []
  · rw [if_pos (trimEnd_eq_nil_iff.mpr hblank), hblank, List.nil_append, ← hwindow, solid_append,
      hblank, List.nil_append, hwindow]
    split_ifs with hpast
    · rfl
    · rw [sendsPastCut_iff, not_and, not_not] at hpast
      exact hpast hblank
  · rw [if_neg fun h => hblank (trimEnd_eq_nil_iff.mp h),
      if_neg fun h => hblank (sendsPastCut_iff.mp h).1, solid_trimEnd, List.append_nil]

theorem solid_turn (hlimit : 0 < limit) (h : ¬ SendsPastCut limit remaining) :
    solid (pieceOf limit remaining) ++ solid (restOf limit remaining) = solid remaining := by
  rw [solid_pieceOf hlimit, if_neg h, List.append_nil, solid_restOf]

theorem length_solid_turn (hlimit : 0 < limit) (remaining : Units) :
    (solid remaining).length + (if SendsPastCut limit remaining then 1 else 0) ≤
      (solid (pieceOf limit remaining)).length + (solid (restOf limit remaining)).length := by
  have hrest := congrArg List.length (solid_restOf limit remaining)
  rw [List.length_append] at hrest
  rw [solid_pieceOf hlimit, List.length_append]
  split_ifs with hpast
  · have hpos := List.length_pos_of_ne_nil (sendsPastCut_iff.mp hpast).2
    omega
  · rw [List.length_nil]
    omega

section

variable (hlimit : 0 < limit) (h : splitLoop limit turns remaining = some chunks)
include hlimit h

theorem solid_splitLoop
    (hclean : ∀ turn ∈ turnsOf limit turns remaining, ¬ SendsPastCut limit turn) :
    solid chunks.flatten = solid remaining := by
  induction turns generalizing remaining chunks with
  | zero => simp [splitLoop] at h
  | succ turns ih =>
    rw [splitLoop] at h
    rw [turnsOf] at hclean
    split_ifs at h hclean with hlong hpos
    · obtain ⟨rest, hrest, rfl⟩ := Option.map_eq_some_iff.mp h
      rw [List.forall_mem_cons] at hclean
      rw [List.flatten_cons, solid_append, ih hrest hclean.2]
      exact solid_turn hlimit hclean.1
    · rw [← Option.some.inj h]
      simp
    · have hnil : remaining = [] := List.eq_nil_of_length_eq_zero (by omega)
      rw [← Option.some.inj h, hnil]
      rfl

theorem length_solid_splitLoop :
    (solid remaining).length +
        (turnsOf limit turns remaining).countP (fun turn => SendsPastCut limit turn) ≤
      (solid chunks.flatten).length := by
  induction turns generalizing remaining chunks with
  | zero => simp [splitLoop] at h
  | succ turns ih =>
    rw [splitLoop] at h
    rw [turnsOf]
    split_ifs at h ⊢ with hlong hpos
    · obtain ⟨rest, hrest, rfl⟩ := Option.map_eq_some_iff.mp h
      have hturn := length_solid_turn hlimit remaining
      have hloop := ih hrest
      rw [List.flatten_cons, solid_append, List.length_append, List.countP_cons]
      simp only [decide_eq_true_eq]
      omega
    · rw [← Option.some.inj h]
      simp
    · have hnil : remaining = [] := List.eq_nil_of_length_eq_zero (by omega)
      rw [← Option.some.inj h, hnil]
      rfl

/-- **The pieces hold the text exactly when no turn sends past its cut.** -/
theorem solid_splitLoop_iff :
    solid chunks.flatten = solid remaining ↔
      ∀ turn ∈ turnsOf limit turns remaining, ¬ SendsPastCut limit turn := by
  refine ⟨fun hsame turn hturn hpast => ?_, solid_splitLoop hlimit h⟩
  have hlength := length_solid_splitLoop hlimit h
  rw [hsame] at hlength
  have hpos : 0 < (turnsOf limit turns remaining).countP fun turn => SendsPastCut limit turn :=
    List.countP_pos_iff.mpr ⟨turn, hturn, decide_eq_true hpast⟩
  omega

end

/-! ### Positions in the text -/

/-- What stands at the position is no white space. -/
def Visible (text : Units) (position : ℕ) : Prop :=
  ∃ unit, text[position]? = some unit ∧ isSpaceUnit unit = false

/-- The last line end behind `low`, up to `high`. -/
structure LastLineEnd (text : Units) (low high position : ℕ) : Prop where
  behind : low < position
  within : position ≤ high
  lineEnd : text[position]? = some lineFeed
  last : ∀ later, position < later → later ≤ high → text[later]? ≠ some lineFeed

/-- Where the messages of a text start: behind the last line end in the second half of a full window,
or behind the window when there is none. -/
inductive MessageStart (text : Units) (limit : ℕ) : ℕ → Prop
  | first : MessageStart text limit 0
  | line {start position : ℕ} (before : MessageStart text limit start)
      (full : start + limit < text.length)
      (lineEnd : LastLineEnd text (start + limit / 2) (start + limit) position) :
      MessageStart text limit (position + 1)
  | window {start : ℕ} (before : MessageStart text limit start)
      (full : start + limit < text.length)
      (noLineEnd : ∀ position, ¬ LastLineEnd text (start + limit / 2) (start + limit) position) :
      MessageStart text limit (start + limit)

/-- A full window with nothing visible before its last line end and something visible behind it. -/
def BlankStart (text : Units) (limit start : ℕ) : Prop :=
  ∃ position, LastLineEnd text (start + limit / 2) (start + limit) position ∧
    (∀ earlier, start ≤ earlier → earlier < position → ¬ Visible text earlier) ∧
    ∃ later, position < later ∧ later < start + limit ∧ Visible text later

theorem LastLineEnd.unique {low high position position' : ℕ}
    (h : LastLineEnd text low high position) (h' : LastLineEnd text low high position') :
    position = position' := by
  rcases lt_trichotomy position position' with hlt | heq | hgt
  · exact absurd h'.lineEnd (h.last position' hlt h'.within)
  · exact heq
  · exact absurd h.lineEnd (h'.last position hgt h.within)

theorem lastLineEnd_drop {start low high position : ℕ} :
    LastLineEnd (text.drop start) low high position ↔
      LastLineEnd text (start + low) (start + high) (start + position) := by
  constructor
  · rintro ⟨hlow, hhigh, hfeed, hlast⟩
    rw [List.getElem?_drop] at hfeed
    refine ⟨by omega, by omega, hfeed, fun later hlater hle => ?_⟩
    obtain ⟨offset, rfl⟩ := Nat.exists_eq_add_of_le (by omega : start ≤ later)
    rw [← List.getElem?_drop]
    exact hlast offset (by omega) (by omega)
  · rintro ⟨hlow, hhigh, hfeed, hlast⟩
    refine ⟨by omega, by omega, ?_, fun later hlater hle => ?_⟩
    · rw [List.getElem?_drop]
      exact hfeed
    · rw [List.getElem?_drop]
      exact hlast (start + later) (by omega) (by omega)

/-- The search runs from the end, so it finds the last line feed. -/
theorem lastIndexOfLineFeed_spec (text : Units) (position : ℕ) :
    (∀ index, lastIndexOfLineFeed text position = some index → index ≤ position ∧
        text[index]? = some lineFeed ∧
        ∀ later, index < later → later ≤ position → text[later]? ≠ some lineFeed) ∧
      (lastIndexOfLineFeed text position = none →
        ∀ index, index ≤ position → text[index]? ≠ some lineFeed) := by
  unfold lastIndexOfLineFeed
  induction position with
  | zero =>
    rw [show (List.range (0 + 1)).reverse = [0] from rfl, List.find?_singleton]
    split_ifs with hfeed
    · refine ⟨fun index hindex => ?_, fun h => (by cases h)⟩
      rw [← Option.some.inj hindex]
      exact ⟨le_refl 0, of_decide_eq_true hfeed, fun later _ _ => (by omega)⟩
    · refine ⟨fun index hindex => (by cases hindex), fun _ index hindex => ?_⟩
      rw [Nat.le_zero.mp hindex]
      exact fun heq => hfeed (decide_eq_true heq)
  | succ position ih =>
    rw [List.range_succ, List.reverse_append, List.reverse_singleton, List.singleton_append,
      List.find?_cons]
    by_cases hfeed : text[position + 1]? = some lineFeed
    · rw [decide_eq_true hfeed]
      refine ⟨fun index hindex => ?_, fun h => (by cases h)⟩
      rw [← Option.some.inj hindex]
      exact ⟨le_refl _, hfeed, fun later _ _ => (by omega)⟩
    · rw [decide_eq_false hfeed]
      refine ⟨fun index hindex => ?_, fun hnone index hindex => ?_⟩
      · obtain ⟨hle, hfound, hlast⟩ := ih.1 index hindex
        refine ⟨by omega, hfound, fun later hlater hle' => ?_⟩
        rcases Nat.le_succ_iff.mp hle' with hbefore | rfl
        · exact hlast later hlater hbefore
        · exact hfeed
      · rcases Nat.le_succ_iff.mp hindex with hbefore | rfl
        · exact ih.2 hnone index hbefore
        · exact hfeed

/-- The cut is the last line end of the second half of the window, or there is none and the cut is the
end of the window. -/
theorem splitPosition_cases (limit : ℕ) (remaining : Units) :
    LastLineEnd remaining (limit / 2) limit (splitPosition limit remaining) ∨
      splitPosition limit remaining = limit ∧
        ∀ position, ¬ LastLineEnd remaining (limit / 2) limit position := by
  obtain ⟨hfound, hnone⟩ := lastIndexOfLineFeed_spec remaining limit
  unfold splitPosition
  cases hindex : lastIndexOfLineFeed remaining limit with
  | none => exact Or.inr ⟨rfl, fun position h => hnone hindex position h.within h.lineEnd⟩
  | some index =>
    obtain ⟨hle, hfeed, hlast⟩ := hfound index hindex
    dsimp only
    split_ifs with hearly
    · refine Or.inr ⟨rfl, fun position h => ?_⟩
      have hbehind := h.behind
      exact hlast position (by omega) h.within h.lineEnd
    · exact Or.inl ⟨by omega, hle, hfeed, hlast⟩

theorem dropLineFeed_drop (position : ℕ) :
    dropLineFeed (text.drop position) =
      if text[position]? = some lineFeed then text.drop (position + 1) else text.drop position := by
  rcases Nat.lt_or_ge position text.length with hlt | hge
  · rw [List.drop_eq_getElem_cons hlt, dropLineFeed, List.getElem?_eq_getElem hlt]
    simp only [Option.some.injEq]
  · rw [List.drop_eq_nil_of_le hge, List.getElem?_eq_none hge]
    rfl

section

variable {start position : ℕ}

theorem splitPosition_line
    (hline : LastLineEnd text (start + limit / 2) (start + limit) position) :
    start + splitPosition limit (text.drop start) = position := by
  have hbehind := hline.behind
  rcases splitPosition_cases limit (text.drop start) with hcut | ⟨-, hnone⟩
  · exact (lastLineEnd_drop.mp hcut).unique hline
  · obtain ⟨offset, rfl⟩ := Nat.exists_eq_add_of_le (by omega : start ≤ position)
    exact absurd (lastLineEnd_drop.mpr hline) (hnone offset)

theorem splitPosition_window
    (hnone : ∀ position, ¬ LastLineEnd text (start + limit / 2) (start + limit) position) :
    splitPosition limit (text.drop start) = limit := by
  rcases splitPosition_cases limit (text.drop start) with hcut | ⟨hcut, -⟩
  · exact absurd (lastLineEnd_drop.mp hcut) (hnone _)
  · exact hcut

theorem restOf_line (hline : LastLineEnd text (start + limit / 2) (start + limit) position) :
    restOf limit (text.drop start) = text.drop (position + 1) := by
  unfold restOf
  rw [List.drop_drop, splitPosition_line hline, dropLineFeed_drop, if_pos hline.lineEnd]

theorem restOf_window (hlimit : 0 < limit)
    (hnone : ∀ position, ¬ LastLineEnd text (start + limit / 2) (start + limit) position) :
    restOf limit (text.drop start) = text.drop (start + limit) := by
  have hfeed : text[start + limit]? ≠ some lineFeed := fun hfeed =>
    hnone (start + limit) ⟨by omega, le_refl _, hfeed, fun later hlater hle => (by omega)⟩
  unfold restOf
  rw [List.drop_drop, splitPosition_window hnone, dropLineFeed_drop, if_neg hfeed]

/-- A turn of the loop starts with the text from a message start on, where that fills a window. -/
theorem messageStart_of_mem_turnsOf (hlimit : 0 < limit) (h : MessageStart text limit start)
    {turn : Units} (hturn : turn ∈ turnsOf limit turns (text.drop start)) :
    ∃ start', MessageStart text limit start' ∧ start' + limit < text.length ∧
      turn = text.drop start' := by
  induction turns generalizing start with
  | zero => cases hturn
  | succ turns ih =>
    rw [turnsOf, List.length_drop] at hturn
    split_ifs at hturn with hlong
    · have hfull : start + limit < text.length := by omega
      rcases List.mem_cons.mp hturn with rfl | hrest
      · exact ⟨start, h, hfull, rfl⟩
      · by_cases hline : ∃ position, LastLineEnd text (start + limit / 2) (start + limit) position
        · obtain ⟨position, hline⟩ := hline
          rw [restOf_line hline] at hrest
          exact ih (.line h hfull hline) hrest
        · rw [not_exists] at hline
          rw [restOf_window hlimit hline] at hrest
          exact ih (.window h hfull hline) hrest
    · cases hturn

theorem turnsOf_messageStart (hlimit : 0 < limit) (h : MessageStart text limit start) :
    ∃ turns, text.length - start < turns ∧ ∀ turn ∈ turnsOf limit turns (text.drop start),
      turn ∈ turnsOf limit (text.length + 1) text := by
  have hnext : ∀ {start next : ℕ}, start + limit < text.length → start < next →
      restOf limit (text.drop start) = text.drop next →
      (∃ turns, text.length - start < turns ∧ ∀ turn ∈ turnsOf limit turns (text.drop start),
        turn ∈ turnsOf limit (text.length + 1) text) →
      ∃ turns, text.length - next < turns ∧ ∀ turn ∈ turnsOf limit turns (text.drop next),
        turn ∈ turnsOf limit (text.length + 1) text := by
    rintro start next hfull hlt heq ⟨turns, hturns, hsub⟩
    obtain ⟨turns, rfl⟩ := Nat.exists_eq_succ_of_ne_zero (by omega : turns ≠ 0)
    refine ⟨turns, by omega, fun turn hturn => hsub turn ?_⟩
    rw [turnsOf, List.length_drop, if_pos (by omega), heq]
    exact List.mem_cons_of_mem _ hturn
  induction h with
  | first => exact ⟨text.length + 1, by omega, fun turn hturn => hturn⟩
  | line before full lineEnd ih =>
    have hbehind := lineEnd.behind
    exact hnext full (by omega) (restOf_line lineEnd) ih
  | window before full noLineEnd ih =>
    exact hnext full (by omega) (restOf_window hlimit noLineEnd) ih

theorem mem_turnsOf_of_messageStart (hlimit : 0 < limit) (h : MessageStart text limit start)
    (hfull : start + limit < text.length) :
    text.drop start ∈ turnsOf limit (text.length + 1) text := by
  obtain ⟨turns, hturns, hsub⟩ := turnsOf_messageStart hlimit h
  obtain ⟨turns, rfl⟩ := Nat.exists_eq_succ_of_ne_zero (by omega : turns ≠ 0)
  refine hsub _ ?_
  rw [turnsOf, List.length_drop, if_pos (by omega)]
  exact List.mem_cons_self

/-- The white space of a part of the text, by positions. -/
theorem all_isSpaceUnit_slice (text : Units) (start low high : ℕ) :
    (((text.drop start).take high).drop low).all isSpaceUnit = true ↔
      ∀ position, start + low ≤ position → position < start + high → ¬ Visible text position := by
  rw [List.all_eq_true]
  constructor
  · rintro h position hlow hhigh ⟨unit, hunit, hvisible⟩
    obtain ⟨offset, rfl⟩ := Nat.exists_eq_add_of_le hlow
    have hmem : unit ∈ ((text.drop start).take high).drop low := by
      refine List.mem_of_getElem? (i := offset) ?_
      rw [List.getElem?_drop, List.getElem?_take_of_lt (by omega), List.getElem?_drop,
        ← Nat.add_assoc]
      exact hunit
    rw [h unit hmem] at hvisible
    cases hvisible
  · intro h unit hunit
    obtain ⟨offset, hoffset⟩ := List.mem_iff_getElem?.mp hunit
    rw [List.getElem?_drop, List.getElem?_take] at hoffset
    split_ifs at hoffset with hlt
    rw [List.getElem?_drop] at hoffset
    by_contra hvisible
    exact h (start + (low + offset)) (by omega) (by omega)
      ⟨unit, hoffset, Bool.eq_false_iff.mpr hvisible⟩

theorem sendsPastCut_iff_blankStart (limit : ℕ) (text : Units) (start : ℕ) :
    SendsPastCut limit (text.drop start) ↔ BlankStart text limit start := by
  have hfront := all_isSpaceUnit_slice text start 0 (splitPosition limit (text.drop start))
  have hbehind := all_isSpaceUnit_slice text start (splitPosition limit (text.drop start)) limit
  rw [List.drop_zero] at hfront
  unfold SendsPastCut BlankStart
  rw [hfront, ← Bool.not_eq_true, hbehind]
  by_cases hline : ∃ position, LastLineEnd text (start + limit / 2) (start + limit) position
  · obtain ⟨position, hline⟩ := hline
    have hposition := splitPosition_line hline
    rw [hposition]
    constructor
    · rintro ⟨hblank, hpast⟩
      refine ⟨position, hline, fun earlier => hblank earlier, ?_⟩
      obtain ⟨later, hle, hlt, hvisible⟩ : ∃ later, position ≤ later ∧ later < start + limit ∧
          Visible text later := by
        by_contra hnone
        exact hpast fun later hle hlt hvisible => hnone ⟨later, hle, hlt, hvisible⟩
      refine ⟨later, lt_of_le_of_ne hle ?_, hlt, hvisible⟩
      -- the line end itself is not visible
      rintro rfl
      obtain ⟨unit, hunit, hspace⟩ := hvisible
      rw [← Option.some.inj (hline.lineEnd.symm.trans hunit)] at hspace
      exact absurd hspace (by decide)
    · rintro ⟨position', hline', hblank, later, hlt, hlimit, hvisible⟩
      obtain rfl := hline.unique hline'
      exact ⟨hblank, fun hall => hall later hlt.le hlimit hvisible⟩
  · rw [splitPosition_window (not_exists.mp hline)]
    constructor
    · rintro ⟨-, hpast⟩
      exact absurd (fun position hle hlt => by omega) hpast
    · rintro ⟨position, hposition, -⟩
      exact absurd ⟨position, hposition⟩ hline

end

/-! ### The function -/

/-- The pieces of a text: none is empty but the one of an empty text, none is longer than the limit,
and together they hold the text. -/
structure SplitsInto (text : Units) (maxLength : Number) (chunks : List Units) : Prop where
  nonempty : ∀ chunk ∈ chunks, 0 < chunk.length ∨ text = [] ∧ chunks = [[]]
  within : ∀ chunk ∈ chunks, (normalizedMaxLength maxLength).exceededBy chunk.length = false
  content : solid chunks.flatten = solid text

/-- No message that fills its window starts with a blank that ends there in a line end. -/
def StartsVisibly (text : Units) : Limit → Prop
  | .units limit => ∀ start, MessageStart text limit start → start + limit < text.length →
      ¬ BlankStart text limit start
  | .infinity => True
  | .nan => True

theorem splitsInto_whole {maxLength : Number}
    (h : (normalizedMaxLength maxLength).exceededBy text.length = false) :
    SplitsInto text maxLength [text] := by
  refine ⟨?_, ?_, by simp⟩
  · rw [List.forall_mem_singleton]
    cases text with
    | nil => exact Or.inr ⟨rfl, rfl⟩
    | cons unit rest => exact Or.inl (Nat.succ_pos _)
  · rw [List.forall_mem_singleton]
    exact h

/-- **A reply is split without loss or repetition exactly when its messages start visibly.** The
function returns for every text and limit. -/
theorem splitsInto_iff (text : Units) (maxLength : Number) :
    (∃ chunks, splitTelegramReplyText text maxLength = some chunks ∧
      SplitsInto text maxLength chunks) ↔ StartsVisibly text (normalizedMaxLength maxLength) := by
  unfold splitTelegramReplyText
  cases hlimit : normalizedMaxLength maxLength with
  | infinity =>
    refine iff_of_true ⟨[text], rfl, splitsInto_whole ?_⟩ trivial
    rw [hlimit]
    rfl
  | nan =>
    refine iff_of_true ?_ trivial
    by_cases hpos : 0 < text.length
    · refine ⟨[text], by simp [hpos], splitsInto_whole ?_⟩
      rw [hlimit]
      rfl
    · have hnil : text = [] := List.eq_nil_of_length_eq_zero (by omega)
      exact ⟨[], by simp [hpos], by simp, by simp, by rw [hnil]; rfl⟩
  | units limit =>
    dsimp only
    by_cases hshort : text.length ≤ limit
    · rw [if_pos hshort]
      refine iff_of_true ⟨[text], rfl, splitsInto_whole ?_⟩ ?_
      · rw [hlimit]
        simpa [Limit.exceededBy] using hshort
      · intro start _ hfull
        omega
    · rw [if_neg hshort]
      obtain ⟨chunks, hchunks⟩ :=
        Option.isSome_iff_exists.mp (splitLoop_isSome limit.pos (Nat.lt_succ_self text.length))
      have hwithin := splitLoop_within limit.pos hchunks
      have hstarts : StartsVisibly text (.units limit) ↔ solid chunks.flatten = solid text := by
        rw [solid_splitLoop_iff limit.pos hchunks]
        constructor
        · intro hvisible turn hturn hpast
          have hfirst : MessageStart text limit 0 := .first
          obtain ⟨start, hstart, hfull, rfl⟩ := messageStart_of_mem_turnsOf limit.pos hfirst hturn
          exact hvisible start hstart hfull ((sendsPastCut_iff_blankStart ..).mp hpast)
        · intro hclean start hstart hfull hblank
          exact hclean _ (mem_turnsOf_of_messageStart limit.pos hstart hfull)
            ((sendsPastCut_iff_blankStart ..).mpr hblank)
      rw [hstarts]
      constructor
      · rintro ⟨chunks', hchunks', hsplits⟩
        rw [hchunks] at hchunks'
        rw [Option.some.inj hchunks']
        exact hsplits.content
      · intro hcontent
        refine ⟨chunks, hchunks, fun chunk hchunk => Or.inl (hwithin chunk hchunk).1,
          fun chunk hchunk => ?_, hcontent⟩
        rw [hlimit]
        simpa [Limit.exceededBy] using (hwithin chunk hchunk).2

/-- Four spaces, a line end and a word that does not fit. -/
def indentedReply : Units := "    \nabcdefg".toList.map fun c => UInt16.ofNat c.toNat

/-- **The letter behind the line end is sent twice.** -/
theorem indentedReply_repeated :
    splitTelegramReplyText indentedReply (.finite 6) =
        some (["    \na", "abcdef", "g"].map fun piece =>
          piece.toList.map fun c => UInt16.ofNat c.toNat) ∧
      ¬ ∃ chunks, splitTelegramReplyText indentedReply (.finite 6) = some chunks ∧
        SplitsInto indentedReply (.finite 6) chunks := by
  have hchunks : splitTelegramReplyText indentedReply (.finite 6) =
      some (["    \na", "abcdef", "g"].map fun piece =>
        piece.toList.map fun c => UInt16.ofNat c.toNat) := by decide +kernel
  refine ⟨hchunks, ?_⟩
  rintro ⟨chunks, hsome, hsplits⟩
  have hcontent := hsplits.content
  rw [← Option.some.inj (hchunks.symm.trans hsome)] at hcontent
  exact absurd hcontent (by decide +kernel)

end AutoTrade.Telegram.ReplyText
