import Mathlib.Data.List.Basic

/-! # Regions of an SQL text

A character of an SQL text stands in a quoted value, in a comment, or in neither. A comment is a
line behind `--` or what stands between `/*` and `*/`; a quoted value goes from one of `'`, `"`, a
backtick and `[` to its closing character, and in those that allow it a doubled closing character
stands for one. Which closing characters may be doubled is a parameter: SQLite doubles all but `]`.
-/

namespace AutoTrade.Lib.SqlText

inductive Region
  | plain
  | line
  | block
  | quoted (close : Char)
  deriving DecidableEq

/-- The closing character of the quoted value that the character opens. -/
def closing? (c : Char) : Option Char :=
  if c = '\'' ∨ c = '"' ∨ c = '\x60' then some c else if c = '[' then some ']' else none

/-- The region a character stands in, when it is read alone. -/
def own : Region → Char → Region
  | .plain, c => match closing? c with
    | some close => .quoted close
    | none => .plain
  | region, _ => region

/-- The region behind a character that is read alone. -/
def next : Region → Char → Region
  | .plain, c => own .plain c
  | .line, c => if c = '\n' then .plain else .line
  | .block, _ => .block
  | .quoted close, c => if c = close then .plain else .quoted close

/-- Two characters that are read together: the region they stand in and the one behind them. -/
def pair (doubles : Char → Bool) : Region → Char → Char → Option (Region × Region)
  | .plain, c, d =>
    if c = '-' ∧ d = '-' then some (.line, .line)
    else if c = '/' ∧ d = '*' then some (.block, .block)
    else none
  | .line, _, _ => none
  | .block, c, d => if c = '*' ∧ d = '/' then some (.block, .plain) else none
  | .quoted close, c, d =>
    if c = close ∧ d = close ∧ doubles close then some (.quoted close, .quoted close) else none

variable (doubles : Char → Bool)

/-- The region of each character of the text. -/
def regions : Region → List Char → List Region
  | _, [] => []
  | region, [c] => [own region c]
  | region, c :: d :: text => match pair doubles region c d with
    | some (both, after) => both :: both :: regions after text
    | none => own region c :: regions (next region c) (d :: text)

/-- The region behind the text. -/
def final : Region → List Char → Region
  | region, [] => region
  | region, [c] => next region c
  | region, c :: d :: text => match pair doubles region c d with
    | some (_, after) => final after text
    | none => final (next region c) (d :: text)

/-- The characters of the tokens: those of quoted values, and outside of comments those that are no
white space. -/
def solid (space : Char → Bool) (region : Region) (text : List Char) : List Char :=
  (text.zip (regions doubles region text)).filterMap fun (c, place) => match place with
    | .plain => if space c then none else some c
    | .quoted _ => some c
    | .line | .block => none

variable {doubles} {space : Char → Bool} {region : Region} {text left right : List Char}

@[simp] theorem regions_nil : regions doubles region [] = [] := by unfold regions; rfl

@[simp] theorem final_nil : final doubles region [] = region := by unfold final; rfl

@[simp] theorem length_regions : (regions doubles region text).length = text.length := by
  fun_induction regions doubles region text with
  | case1 => rfl
  | case2 => rfl
  | case3 _ _ _ _ _ _ _ ih => simp [ih]
  | case4 _ _ _ _ _ ih => simp [ih]

/-! ### Cuts -/

/-- Characters that may be read together when they stand next to each other. -/
def Pairs (c d : Char) : Prop :=
  (c = '-' ∧ d = '-') ∨ (c = '/' ∧ d = '*') ∨ (c = '*' ∧ d = '/') ∨
    (c = d ∧ (d = '\'' ∨ d = '"' ∨ d = '\x60' ∨ d = ']'))

/-- A region that can be met: a quoted value ends with a closing character. -/
def Region.Proper : Region → Prop
  | .quoted close => close = '\'' ∨ close = '"' ∨ close = '\x60' ∨ close = ']'
  | _ => True

theorem proper_plain : Region.plain.Proper := trivial

theorem proper_own (c : Char) (h : region.Proper) : (own region c).Proper := by
  cases region with
  | plain =>
    simp only [own, closing?]
    by_cases hsame : c = '\'' ∨ c = '"' ∨ c = '\x60'
    · rw [if_pos hsame]
      exact Or.imp_right (Or.imp_right Or.inl) hsame
    · rw [if_neg hsame]
      by_cases hbracket : c = '['
      · rw [if_pos hbracket]
        exact .inr (.inr (.inr rfl))
      · rw [if_neg hbracket]
        trivial
  | line => trivial
  | block => trivial
  | quoted close => exact h

theorem proper_next (c : Char) (h : region.Proper) : (next region c).Proper := by
  cases region with
  | plain => exact proper_own c h
  | line => simp only [next]; split_ifs <;> trivial
  | block => trivial
  | quoted close =>
    simp only [next]
    split_ifs
    · trivial
    · exact h

variable {c d : Char} {both after : Region}

theorem proper_pair (h : region.Proper) (hpair : pair doubles region c d = some (both, after)) :
    after.Proper := by
  cases region with
  | plain =>
    simp only [pair] at hpair
    split_ifs at hpair <;> cases hpair <;> trivial
  | line => cases hpair
  | block =>
    simp only [pair] at hpair
    split_ifs at hpair
    cases hpair
    trivial
  | quoted close =>
    simp only [pair] at hpair
    split_ifs at hpair
    cases hpair
    exact h

theorem proper_final (h : region.Proper) : (final doubles region text).Proper := by
  fun_induction final doubles region text with
  | case1 => exact h
  | case2 _ c => exact proper_next c h
  | case3 _ _ _ _ _ _ hpair ih => exact ih (proper_pair h hpair)
  | case4 _ c _ _ _ ih => exact ih (proper_next c h)

variable (doubles) in
theorem pair_eq_none (h : region.Proper) (hpairs : ¬ Pairs c d) :
    pair doubles region c d = none := by
  unfold Pairs at hpairs
  cases region with
  | plain =>
    simp only [pair]
    rw [if_neg (by tauto), if_neg (by tauto)]
  | line => rfl
  | block =>
    simp only [pair]
    rw [if_neg (by tauto)]
  | quoted close =>
    simp only [pair]
    refine if_neg ?_
    rintro ⟨rfl, rfl, -⟩
    exact hpairs (.inr (.inr (.inr ⟨rfl, h⟩)))

/-- No character of the left text is read together with one of the right text. -/
def Loose (left right : List Char) : Prop :=
  ∀ c ∈ left.getLast?, ∀ d ∈ right.head?, ¬ Pairs c d

theorem Loose.tail (h : Loose (c :: d :: text) right) : Loose (d :: text) right := by
  intro a ha
  refine h a ?_
  rwa [List.getLast?_cons_cons]

theorem Loose.tail_tail (h : Loose (c :: d :: text) right) : Loose text right := by
  cases text with
  | nil =>
    intro a ha
    cases ha
  | cons e text => exact h.tail.tail

theorem regions_append (h : region.Proper) (hloose : Loose left right) :
    regions doubles region (left ++ right) =
        regions doubles region left ++ regions doubles (final doubles region left) right ∧
      final doubles region (left ++ right) = final doubles (final doubles region left) right := by
  fun_induction regions doubles region left with
  | case1 => simp
  | case2 region c =>
    cases right with
    | nil => simp [regions, final]
    | cons d right =>
      have hnone := pair_eq_none doubles h (hloose c rfl d rfl)
      simp [regions, final, hnone]
  | case3 region c d text both after hpair ih =>
    obtain ⟨hregions, hfinal⟩ := ih (proper_pair h hpair) hloose.tail_tail
    simp [regions, final, hpair, hregions, hfinal]
  | case4 region c d text hpair ih =>
    obtain ⟨hregions, hfinal⟩ := ih (proper_next c h) hloose.tail
    rw [List.cons_append] at hregions hfinal
    simp [regions, final, hpair, hregions, hfinal]

theorem solid_append (h : region.Proper) (hloose : Loose left right) :
    solid doubles space region (left ++ right) =
      solid doubles space region left ++ solid doubles space (final doubles region left) right := by
  unfold solid
  rw [(regions_append h hloose).1, List.zip_append (by simp), List.filterMap_append]

theorem eq_plain_of_own {c : Char} (h : own region c = .plain) : region = .plain := by
  cases region with
  | plain => rfl
  | line => exact h
  | block => exact h
  | quoted close => cases h

theorem ne_plain_of_pair (h : pair doubles region c d = some (both, after)) : both ≠ .plain := by
  rintro rfl
  cases region with
  | line => cases h
  | plain | block | quoted =>
    simp only [pair] at h
    split_ifs at h <;> cases h

theorem eq_plain_of_head (h : (regions doubles region text).head? = some .plain) :
    region = .plain := by
  fun_cases regions doubles region text with
  | case1 => simp at h
  | case2 _ c =>
    simp only [regions, List.head?_cons, Option.some.injEq] at h
    exact eq_plain_of_own h
  | case3 _ c d text both after hpair =>
    simp only [regions, hpair, List.head?_cons, Option.some.injEq] at h
    exact absurd h (ne_plain_of_pair hpair)
  | case4 _ c d text hpair =>
    simp only [regions, hpair, List.head?_cons, Option.some.injEq] at h
    exact eq_plain_of_own h

/-- Two texts one after the other are read one after the other, when the second begins in the plain
region and with no character that may be read together with the one before it. -/
theorem final_eq_plain (h : region.Proper) (hloose : Loose left right)
    (hplain : (regions doubles region (left ++ right))[left.length]? = some .plain) :
    final doubles region left = .plain := by
  rw [(regions_append h hloose).1, List.getElem?_append_right (by simp), length_regions, Nat.sub_self,
    ← List.head?_eq_getElem?] at hplain
  exact eq_plain_of_head hplain

/-! ### White space -/

/-- White space has no other part in an SQL text. -/
def Inert (space : Char → Bool) : Prop :=
  ∀ c, space c = true → closing? c = none ∧ c ≠ '-' ∧ c ≠ '/' ∧ c ≠ '*' ∧ c ≠ ']'

section

variable (hspace : Inert space)
include hspace

theorem Inert.not_pairs {c : Char} (hc : space c = true) (d : Char) :
    ¬ Pairs c d ∧ ¬ Pairs d c := by
  obtain ⟨hclosing, hminus, hslash, hstar, hbracket⟩ := hspace c hc
  have hquotes : ¬ (c = '\'' ∨ c = '"' ∨ c = '\x60') := by
    intro hquote
    unfold closing? at hclosing
    rw [if_pos hquote] at hclosing
    cases hclosing
  constructor
  · rintro (⟨h, -⟩ | ⟨h, -⟩ | ⟨h, -⟩ | ⟨rfl, h⟩) <;> tauto
  · rintro (⟨-, h⟩ | ⟨-, h⟩ | ⟨-, h⟩ | ⟨-, h⟩) <;> tauto

theorem Inert.loose_left (h : ∀ c ∈ left, space c = true) (right : List Char) : Loose left right :=
  fun c hc d _ => (hspace.not_pairs (h c (List.mem_of_getLast? hc)) d).1

theorem Inert.loose_right (h : ∀ c ∈ right, space c = true) (left : List Char) : Loose left right :=
  fun c _ d hd => (hspace.not_pairs (h d (List.mem_of_head? hd)) c).2

theorem Inert.final_cons (hregion : region.Proper) {c : Char} (hc : space c = true)
    (text : List Char) : final doubles region (c :: text) = final doubles (next region c) text := by
  have hloose : Loose [c] text := hspace.loose_left (by simpa using hc) text
  have happend : final doubles region ([c] ++ text) = _ := (regions_append hregion hloose).2
  simpa [final] using happend

theorem final_quoted_spaces {close : Char} (hclose : (Region.quoted close).Proper)
    (htext : ∀ c ∈ text, space c = true) : final doubles (.quoted close) text = .quoted close := by
  induction text with
  | nil => simp
  | cons c text ih =>
    have hc := htext c List.mem_cons_self
    obtain ⟨hclosing, -, -, -, hbracket⟩ := hspace c hc
    have hne : c ≠ close := by
      rintro rfl
      unfold closing? at hclosing
      rcases hclose with rfl | rfl | rfl | rfl
      · simp at hclosing
      · simp at hclosing
      · simp at hclosing
      · exact hbracket rfl
    rw [hspace.final_cons hclose hc]
    simp only [next, if_neg hne]
    exact ih fun d hd => htext d (List.mem_cons_of_mem _ hd)

/-- White space that does not end in a quoted value is no part of a token. -/
theorem solid_spaces (hregion : region.Proper) (htext : ∀ c ∈ text, space c = true)
    (hfinal : ∀ close, final doubles region text ≠ .quoted close) :
    solid doubles space region text = [] := by
  induction text generalizing region with
  | nil => simp [solid]
  | cons c text ih =>
    have hc := htext c List.mem_cons_self
    have hloose : Loose [c] text := hspace.loose_left (by simpa using hc) text
    have hquoted : ∀ close, region ≠ .quoted close := by
      rintro close rfl
      exact hfinal close (final_quoted_spaces hspace hregion htext)
    rw [hspace.final_cons hregion hc] at hfinal
    have hsplit : c :: text = [c] ++ text := rfl
    have hone : final doubles region [c] = next region c := by simp [final]
    rw [hsplit, solid_append hregion hloose, hone,
      ih (proper_next c hregion) (fun d hd => htext d (List.mem_cons_of_mem _ hd)) hfinal,
      List.append_nil]
    cases region with
    | plain => simp [solid, regions, own, (hspace c hc).1, hc]
    | line => simp [solid, regions, own]
    | block => simp [solid, regions, own]
    | quoted close => exact absurd rfl (hquoted close)

/-- White space around a text that does not end in a quoted value is no part of its tokens. -/
theorem solid_trim {before after : List Char} (hbefore : ∀ c ∈ before, space c = true)
    (hafter : ∀ c ∈ after, space c = true)
    (hfinal : ∀ close, final doubles .plain (before ++ text ++ after) ≠ .quoted close) :
    solid doubles space .plain (before ++ text ++ after) = solid doubles space .plain text := by
  have hplain : final doubles .plain before = .plain := by
    induction before with
    | nil => simp
    | cons c before ih =>
      have hc := hbefore c List.mem_cons_self
      rw [hspace.final_cons proper_plain hc]
      have hnext : next .plain c = .plain := by simp [next, own, (hspace c hc).1]
      rw [List.cons_append, List.cons_append, hspace.final_cons proper_plain hc, hnext] at hfinal
      rw [hnext]
      exact ih (fun d hd => hbefore d (List.mem_cons_of_mem _ hd)) hfinal
  have hleft : Loose before (text ++ after) := hspace.loose_left hbefore _
  have hright : Loose text after := hspace.loose_right hafter _
  have hproper : (final doubles .plain text).Proper := proper_final proper_plain
  rw [List.append_assoc, (regions_append proper_plain hleft).2, hplain,
    (regions_append proper_plain hright).2]
    at hfinal
  rw [List.append_assoc, solid_append proper_plain hleft, hplain, solid_append proper_plain hright,
    solid_spaces hspace hproper hafter hfinal,
    solid_spaces hspace proper_plain hbefore (by simp [hplain]), List.nil_append, List.append_nil]

/-- A quoted value begins with a character that is no white space. -/
theorem not_quoted_of_spaces (hregion : ∀ close, region ≠ .quoted close)
    (h : ∀ c place, (c, place) ∈ text.zip (regions doubles region text) →
      place ≠ .line → place ≠ .block → space c = true) :
    ∀ c place, (c, place) ∈ text.zip (regions doubles region text) → ∀ close, place ≠ .quoted close := by
  have hown : ∀ {region : Region} {c : Char}, (∀ close, region ≠ .quoted close) →
      (own region c ≠ .line → own region c ≠ .block → space c = true) →
      ∀ close, own region c ≠ .quoted close := by
    intro region c hregion hc
    cases region with
    | plain =>
      cases hclosing : closing? c with
      | none => simp [own, hclosing]
      | some close =>
        simp only [own, hclosing] at hc
        rw [(hspace c (hc (by simp) (by simp))).1] at hclosing
        cases hclosing
    | line => simp [own]
    | block => simp [own]
    | quoted close => exact absurd rfl (hregion close)
  fun_induction regions doubles region text with
  | case1 => simp
  | case2 region c =>
    intro a place hmem
    simp only [List.zip_cons_cons, List.zip_nil_right, List.mem_singleton, Prod.mk.injEq] at hmem
    obtain ⟨rfl, rfl⟩ := hmem
    exact hown hregion (h a _ (by simp))
  | case3 region c d text both after hpair ih =>
    simp only [List.zip_cons_cons, List.mem_cons, Prod.mk.injEq] at h ⊢
    have hplaces : both ≠ .plain ∧ (∀ close, both ≠ .quoted close) ∧ ∀ close, after ≠ .quoted close := by
      refine ⟨ne_plain_of_pair hpair, ?_⟩
      cases region with
      | quoted close => exact absurd rfl (hregion close)
      | line => cases hpair
      | plain | block =>
        simp only [pair] at hpair
        split_ifs at hpair <;> cases hpair <;> simp
    rintro a place (⟨rfl, rfl⟩ | ⟨rfl, rfl⟩ | hmem)
    · exact hplaces.2.1
    · exact hplaces.2.1
    · exact ih hplaces.2.2 (fun e place hmem => h e place (.inr (.inr hmem))) a place hmem
  | case4 region c d text hpair ih =>
    simp only [List.zip_cons_cons, List.mem_cons, Prod.mk.injEq] at h ⊢
    have hfirst := hown hregion (h c _ (.inl ⟨rfl, rfl⟩))
    rintro a place (⟨rfl, rfl⟩ | hmem)
    · exact hfirst
    · refine ih ?_ (fun e place hmem => h e place (.inr hmem)) a place hmem
      cases region with
      | plain => exact hfirst
      | line => simp only [next]; split_ifs <;> simp
      | block => simp [next]
      | quoted close => exact absurd rfl (hregion close)

end

theorem solid_eq_nil : solid doubles space region text = [] ↔
    ∀ c place, (c, place) ∈ text.zip (regions doubles region text) →
      place = .line ∨ place = .block ∨ place = .plain ∧ space c = true := by
  unfold solid
  rw [List.filterMap_eq_nil_iff, Prod.forall]
  refine forall_congr' fun c => forall_congr' fun place => imp_congr_right fun _ => ?_
  cases place with
  | plain => simp
  | line => simp
  | block => simp
  | quoted close => simp

/-! ### Closing brackets -/

/-- SQLite's rule: a closing bracket is not doubled. -/
def sqlite (c : Char) : Bool := c ≠ ']'

/-- Every closing character may be doubled. -/
def always (_ : Char) : Bool := true

/-- A text SQLite can read: no closing bracket stands on its own, and no quoted value is left open.
-/
structure Readable (region : Region) (text : List Char) : Prop where
  brackets : ∀ c place, (c, place) ∈ text.zip (regions sqlite region text) → place = .plain → c ≠ ']'
  closed : ∀ close, final sqlite region text ≠ .quoted close

def Region.isQuoted : Region → Bool
  | .quoted _ => true
  | _ => false

instance (region : Region) (text : List Char) : Decidable (Readable region text) :=
  decidable_of_iff
    ((∀ p ∈ text.zip (regions sqlite region text), p.2 = .plain → p.1 ≠ ']') ∧
      (final sqlite region text).isQuoted = false)
    ⟨fun h => ⟨fun c place hmem => h.1 (c, place) hmem, fun close heq => by
        rw [heq] at h
        have hquoted := h.2
        simp [Region.isQuoted] at hquoted⟩,
      fun h => ⟨fun p hmem => h.brackets p.1 p.2 hmem, by
        have hclosed := h.closed
        cases hfinal : final sqlite region text with
        | quoted close => exact absurd hfinal (hclosed close)
        | plain | line | block => rfl⟩⟩

/-- On a readable text nothing depends on whether closing brackets are doubled. -/
theorem regions_always (hregion : region.Proper)
    (h : ∀ c place, (c, place) ∈ text.zip (regions sqlite region text) → place = .plain → c ≠ ']') :
    regions always region text = regions sqlite region text ∧
      final always region text = final sqlite region text := by
  fun_induction regions sqlite region text with
  | case1 => simp
  | case2 region c => simp [regions, final]
  | case3 region c d text both after hpair ih =>
    have hboth : pair always region c d = some (both, after) := by
      cases region with
      | quoted close =>
        simp only [pair] at hpair ⊢
        split_ifs at hpair with hsame
        rw [if_pos ⟨hsame.1, hsame.2.1, rfl⟩]
        exact hpair
      | plain | line | block => exact hpair
    simp only [List.zip_cons_cons, List.mem_cons] at h
    obtain ⟨hregions, hfinal⟩ := ih (proper_pair hregion hpair) fun a place hmem =>
      h a place (.inr (.inr hmem))
    simp [regions, final, hpair, hboth, hregions, hfinal]
  | case4 region c d text hpair ih =>
    have hboth : pair always region c d = none := by
      cases region with
      | quoted close =>
        simp only [pair] at hpair ⊢
        refine if_neg ?_
        rintro ⟨rfl, rfl, -⟩
        by_cases hbracket : d = ']'
        · -- the second bracket would stand on its own
          subst hbracket
          cases text with
          | nil => exact h ']' .plain (by simp [regions, next, own, closing?]) rfl rfl
          | cons e text =>
            exact h ']' .plain (by simp [regions, next, own, closing?, pair]) rfl rfl
        · exact absurd hpair (by simp [sqlite, hbracket])
      | plain | line | block => exact hpair
    simp only [List.zip_cons_cons, List.mem_cons] at h
    obtain ⟨hregions, hfinal⟩ := ih (proper_next c hregion) fun a place hmem =>
      h a place (.inr hmem)
    simp [regions, final, hpair, hboth, hregions, hfinal]

theorem solid_always (hregion : region.Proper) (h : Readable region text) :
    solid always space region text = solid sqlite space region text := by
  unfold solid
  rw [(regions_always hregion h.brackets).1]

theorem Readable.drop_left (h : Readable region (left ++ right)) (hregion : region.Proper)
    (hloose : Loose left right) : Readable (final sqlite region left) right where
  brackets c place hmem := by
    refine h.brackets c place ?_
    rw [(regions_append hregion hloose).1, List.zip_append (by simp)]
    exact List.mem_append_right _ hmem
  closed close := by
    rw [← (regions_append hregion hloose).2]
    exact h.closed close

theorem Readable.drop_right (h : Readable region (left ++ right)) (hregion : region.Proper)
    (hloose : Loose left right) (hplain : final sqlite region left = .plain) :
    Readable region left where
  brackets c place hmem := by
    refine h.brackets c place ?_
    rw [(regions_append hregion hloose).1, List.zip_append (by simp)]
    exact List.mem_append_left _ hmem
  closed close := by simp [hplain]

end AutoTrade.Lib.SqlText
