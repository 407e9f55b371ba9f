import AutoTrade.Db.MigrationScript
import AutoTrade.Lib.Result

/-! # Where a migration script is cut

The masked copy shows the plain characters of the script and blanks for the others (`maskSql_eq`),
so a script is trivia when it has no token (`isSqlTrivia_iff`). A directive begins at a letter of
the copy and ends behind a semicolon of it or with the script; cutting there separates the tokens
(`tokens_drop`). -/

namespace AutoTrade.Db.MigrationScript

open Lib.Matches Lib.Result Lib.SqlText Lib.Text

/-! ### The masked copy -/

def MaskState.region : MaskState → Region
  | .normal => .plain
  | .single => .quoted '\''
  | .double => .quoted '"'
  | .backtick => .quoted '\x60'
  | .bracket => .quoted ']'
  | .line => .line
  | .block => .block

/-- What the masked copy shows of a character. -/
def shown (maskQuotedValues : Bool) (character : Char) : Region → Char
  | .plain => character
  | .quoted _ => if maskQuotedValues then blanked character else character
  | _ => blanked character

variable {maskQuotedValues : Bool} {sql : List Char}

theorem own_plain (character : Char) : own .plain character = (opened character).region := by
  simp only [own, closing?, opened]
  by_cases hsingle : character = '\''
  · simp [hsingle, MaskState.region]
  · by_cases hdouble : character = '"'
    · simp [hdouble, MaskState.region]
    · by_cases hbacktick : character = '\x60'
      · simp [hbacktick, MaskState.region]
      · by_cases hbracket : character = '['
        · simp [hbracket, MaskState.region]
        · simp [hsingle, hdouble, hbacktick, hbracket, MaskState.region]

theorem shown_opened (character : Char) : shown maskQuotedValues character (opened character).region =
    if maskQuotedValues = true ∧ opened character ≠ .normal then ' ' else character := by
  simp only [opened]
  split_ifs with h₁ h₂ h₃ h₄ h₅ h₆ h₇ <;>
    simp_all [MaskState.region, shown, blanked]

@[simp] theorem region_normal : MaskState.normal.region = .plain := rfl

@[simp] theorem region_line : MaskState.line.region = .line := rfl

@[simp] theorem region_block : MaskState.block.region = .block := rfl

theorem region_quote {state : MaskState} (hnormal : state ≠ .normal) (hline : state ≠ .line)
    (hblock : state ≠ .block) : state.region = .quoted (closingCharacter state) := by
  cases state with
  | normal => exact absurd rfl hnormal
  | line => exact absurd rfl hline
  | block => exact absurd rfl hblock
  | single | double | backtick | bracket => rfl

theorem blanked_closing {state : MaskState} : blanked (closingCharacter state) = ' ' := by
  cases state <;> decide

theorem maskSql_eq (state : MaskState) (sql : List Char) :
    maskSql maskQuotedValues state sql =
      List.zipWith (shown maskQuotedValues) sql (regions always state.region sql) := by
  fun_induction maskSql maskQuotedValues state sql with
  | case1 => simp
  | case2 character => simp [regions, own_plain, shown_opened]
  | case3 character next rest h ih => simp [regions, pair, h, ih, shown, blanked]
  | case4 character next rest h h' ih => simp [regions, pair, h', ih, shown, blanked]
  | case5 character next rest h h' ih =>
    simp [regions, pair, h, h', ih, AutoTrade.Lib.SqlText.next, own_plain, shown_opened]
  | case6 character rest ih =>
    have hnext : AutoTrade.Lib.SqlText.next .line character =
        (if character = '\n' then MaskState.normal else MaskState.line).region := by
      simp only [AutoTrade.Lib.SqlText.next]
      split_ifs <;> rfl
    cases rest with
    | nil => simp [regions, own, shown, maskSql]
    | cons next rest =>
      rw [ih, region_line]
      simp [regions, pair, own, shown, hnext]
  | case7 character => simp [regions, own, shown]
  | case8 character next rest h ih => simp [regions, pair, h, ih, shown, blanked]
  | case9 character next rest h ih =>
    rw [ih, region_block]
    simp [regions, pair, h, own, shown, AutoTrade.Lib.SqlText.next]
  | case10 state character hnormal hline hblock =>
    simp [regions, own, region_quote hnormal hline hblock, shown]
  | case11 state rest hnormal hline hblock first ih =>
    rw [ih, region_quote hnormal hline hblock]
    simp [regions, pair, always, shown, first, blanked_closing]
  | case12 state next rest hnormal hline hblock hnext first ih =>
    rw [ih, region_quote hnormal hline hblock]
    simp [regions, pair, hnext, own, shown, first, AutoTrade.Lib.SqlText.next]
  | case13 state character next rest hnormal hline hblock first hclosing ih =>
    rw [ih, region_quote hnormal hline hblock]
    simp [regions, pair, hclosing, own, shown, first, AutoTrade.Lib.SqlText.next]

/-! ### Trivia -/

/-- The characters of the tokens of a text, as SQLite reads it. -/
def tokens (sql : List Char) : List Char := solid sqlite isJsSpace .plain sql

theorem inert_isJsSpace : Inert isJsSpace := by
  intro c hc
  have hne : ∀ d, isJsSpace d = false → c ≠ d := by
    rintro d hd rfl
    rw [hc] at hd
    cases hd
  have h₁ := hne '\'' (by decide)
  have h₂ := hne '"' (by decide)
  have h₃ := hne '\x60' (by decide)
  have h₄ := hne '[' (by decide)
  refine ⟨by simp [closing?, h₁, h₂, h₃, h₄], hne _ (by decide), hne _ (by decide),
    hne _ (by decide), hne _ (by decide)⟩

theorem isSqlTrivia_iff : isSqlTrivia sql = true ↔ solid always isJsSpace .plain sql = [] := by
  have hall : isSqlTrivia sql = true ↔
      ∀ c place, (c, place) ∈ sql.zip (regions always .plain sql) →
        isJsSpace (shown false c place) = true := by
    unfold isSqlTrivia stripSqlComments
    rw [maskSql_eq, List.all_eq_true, ← List.map_uncurry_zip_eq_zipWith, List.forall_mem_map,
      Prod.forall]
    rfl
  have hblanked : ∀ c, isJsSpace (blanked c) = true := by
    intro c
    unfold blanked
    split_ifs with h
    · rcases h with rfl | rfl <;> decide
    · decide
  rw [hall, solid_eq_nil]
  constructor
  · intro h c place hmem
    have hquoted := not_quoted_of_spaces inert_isJsSpace (fun close => by simp)
      (fun a other hother hline hblock => by
        have hshown := h a other hother
        cases other with
        | plain | quoted => exact hshown
        | line => exact absurd rfl hline
        | block => exact absurd rfl hblock) c place hmem
    cases place with
    | plain => exact .inr (.inr ⟨rfl, h c .plain hmem⟩)
    | line => exact .inl rfl
    | block => exact .inr (.inl rfl)
    | quoted close => exact absurd rfl (hquoted close)
  · intro h c place hmem
    rcases h c place hmem with rfl | rfl | ⟨rfl, hspace⟩
    · exact hblanked c
    · exact hblanked c
    · exact hspace

/-! ### Directives -/

variable {i : ℕ}

/-- What the masked copy does not blank is a plain character of the text. -/
theorem plain_of_masked {c : Char} (h : (maskSqlLiteralsAndComments sql)[i]? = some c)
    (hc : c ≠ ' ' ∧ c ≠ '\n' ∧ c ≠ '\r') :
    sql[i]? = some c ∧ (regions always .plain sql)[i]? = some .plain := by
  unfold maskSqlLiteralsAndComments at h
  rw [maskSql_eq, region_normal, List.getElem?_zipWith] at h
  cases hchar : sql[i]? with
  | none => simp [hchar] at h
  | some a =>
    cases hplace : (regions always .plain sql)[i]? with
    | none => simp [hchar, hplace] at h
    | some place =>
      have hshown : shown true a place = c := by simpa [hchar, hplace] using h
      have hblanked : blanked a ≠ c := by
        unfold blanked
        split_ifs with ha
        · rintro rfl
          exact ha.elim hc.2.1 hc.2.2
        · exact fun heq => hc.1 heq.symm
      cases place with
      | plain => exact ⟨congrArg some hshown, rfl⟩
      | line => exact absurd hshown hblanked
      | block => exact absurd hshown hblanked
      | quoted close => exact absurd hshown hblanked

/-- A directive begins at a letter and ends behind a semicolon or with the text. -/
structure Bounds (masked : List Char) (directive : SqlDirective) : Prop where
  start : ∃ c, masked[directive.start]? = some c ∧ isLetter c = true
  lt : directive.start < directive.stop
  stop : masked[directive.stop - 1]? = some ';' ∨ directive.stop = masked.length

theorem behindWord_eq_some {word text rest : List Char} (h : behindWord word text = some rest) :
    ∃ front, text = front ++ rest ∧ front.length = word.length ∧
      ∀ i (hi : i < word.length), ∃ c, front[i]? = some c ∧ folds word[i] c = true := by
  fun_induction behindWord word text with
  | case1 text =>
    cases h
    exact ⟨[], rfl, rfl, fun i hi => by simp at hi⟩
  | case2 letter word c text hfolds ih =>
    obtain ⟨front, rfl, hlength, hall⟩ := ih h
    refine ⟨c :: front, rfl, by simp [hlength], fun i hi => ?_⟩
    cases i with
    | zero => exact ⟨c, rfl, hfolds⟩
    | succ i => simpa using hall i (by simpa using hi)
  | case3 => cases h
  | case4 => cases h

theorem semicolon_not_mem {word front : List Char}
    (h : ∀ i (hi : i < word.length), ∃ c, front[i]? = some c ∧ folds word[i] c = true)
    (hlength : front.length = word.length)
    (hword : ∀ letter ∈ word, letter ≠ ';' ∧ letter.toUpper ≠ ';') : ';' ∉ front := by
  intro hmem
  obtain ⟨i, hi, hget⟩ := List.mem_iff_getElem.mp hmem
  have hlt : i < word.length := hlength ▸ hi
  obtain ⟨c, hc, hfolds⟩ := h i hlt
  rw [List.getElem?_eq_getElem hi, hget] at hc
  cases hc
  obtain ⟨hletter, hupper⟩ := hword _ (List.getElem_mem hlt)
  have hcases : ';' = word[i] ∨ ';' = word[i].toUpper := by
    simpa [folds] using hfolds
  rcases hcases with heq | heq
  · exact hletter heq.symm
  · exact hupper heq.symm

theorem behindSpaces_eq (text : List Char) :
    ∃ front, text = front ++ behindSpaces text ∧ ';' ∉ front := by
  refine ⟨text.takeWhile isJsSpace, by simp [behindSpaces], fun hmem => ?_⟩
  have hspace := List.all_eq_true.mp List.all_takeWhile ';' hmem
  revert hspace
  decide

theorem behindSetting_eq_some {text value rest : List Char}
    (h : behindSetting text = some (value, rest)) :
    (value = "ON".toList ∨ value = "OFF".toList) ∧ ∃ front, text = front ++ rest ∧ ';' ∉ front := by
  unfold behindSetting at h
  cases hon : behindWord "on".toList text with
  | some last =>
    rw [hon] at h
    obtain ⟨rfl, rfl⟩ := Prod.mk.inj (Option.some.inj h)
    obtain ⟨front, heq, hlength, hall⟩ := behindWord_eq_some hon
    exact ⟨.inl rfl, front, heq, semicolon_not_mem hall hlength (by simp)⟩
  | none =>
    rw [hon] at h
    obtain ⟨last, hoff, heq⟩ := Option.map_eq_some_iff.mp h
    obtain ⟨rfl, rfl⟩ := Prod.mk.inj heq
    obtain ⟨front, heq, hlength, hall⟩ := behindWord_eq_some hoff
    exact ⟨.inr rfl, front, heq, semicolon_not_mem hall hlength (by simp)⟩

theorem FOREIGN_KEY_DIRECTIVE_spec {before : Option Char} {text value : List Char} {length : ℕ}
    (h : FOREIGN_KEY_DIRECTIVE before text = some (length, value)) :
    (∀ b ∈ before, isWordCharacter b = false) ∧ ∃ c front rest, text = c :: (front ++ ';' :: rest) ∧
      (c = 'p' ∨ c = 'P') ∧ ';' ∉ front ∧ length = front.length + 2 ∧
      (value = "ON".toList ∨ value = "OFF".toList) := by
  unfold FOREIGN_KEY_DIRECTIVE at h
  split_ifs at h with hbefore
  refine ⟨fun b hb => ?_, ?_⟩
  · cases hb
    by_contra hword
    exact hbefore (by simp [hword])
  obtain ⟨gap, hpragma, h⟩ := Option.bind_eq_some_iff.mp h
  split_ifs at h
  obtain ⟨equals, hkeys, h⟩ := Option.bind_eq_some_iff.mp h
  obtain ⟨setting, hequals, h⟩ := Option.bind_eq_some_iff.mp h
  obtain ⟨⟨value', last⟩, hsetting, h⟩ := Option.bind_eq_some_iff.mp h
  obtain ⟨rest, hsemicolon, heq⟩ := Option.map_eq_some_iff.mp h
  obtain ⟨hlength, rfl⟩ := Prod.mk.inj heq
  -- the parts of the text, one behind the other
  obtain ⟨pragma, rfl, hpragmaLength, hletters⟩ := behindWord_eq_some hpragma
  obtain ⟨first, hfirst, hfolds⟩ := hletters 0 (by decide)
  obtain ⟨pragma', rfl⟩ : ∃ pragma', pragma = first :: pragma' := by
    cases pragma with
    | nil => cases hfirst
    | cons c pragma' => exact ⟨pragma', by rw [Option.some.inj hfirst]⟩
  obtain ⟨spaces₁, hgap, hspaces₁⟩ := behindSpaces_eq gap
  obtain ⟨keys, hkeysEq, hkeysLength, hkeysAll⟩ := behindWord_eq_some hkeys
  obtain ⟨spaces₂, hequalsEq, hspaces₂⟩ := behindSpaces_eq equals
  obtain ⟨sign, hsignEq, hsignLength, hsignAll⟩ := behindWord_eq_some hequals
  obtain ⟨spaces₃, hsettingEq, hspaces₃⟩ := behindSpaces_eq setting
  obtain ⟨hvalue, word, hwordEq, hwordSemicolon⟩ := behindSetting_eq_some hsetting
  obtain ⟨spaces₄, hlastEq, hspaces₄⟩ := behindSpaces_eq last
  have hpragmaSemicolon := semicolon_not_mem hletters hpragmaLength (by simp)
  have hkeysSemicolon := semicolon_not_mem hkeysAll hkeysLength (by simp)
  have hsignSemicolon := semicolon_not_mem hsignAll hsignLength (by simp)
  obtain ⟨semicolon, hsemicolonEq, hone, hsemicolons⟩ := behindWord_eq_some hsemicolon
  obtain ⟨mark, hmark, hmarkFolds⟩ := hsemicolons 0 (by decide)
  have hmarkEq : mark = ';' := by simpa [folds] using hmarkFolds
  have hsingle : semicolon = [';'] := by
    cases semicolon with
    | nil => cases hmark
    | cons c rest' =>
      rw [List.length_cons] at hone
      have hnil : rest' = [] := List.length_eq_zero_iff.mp (by simpa using hone)
      rw [hnil, Option.some.inj hmark, hmarkEq]
  refine ⟨first, pragma' ++ spaces₁ ++ keys ++ spaces₂ ++ sign ++ spaces₃ ++ word ++ spaces₄, rest,
    ?_, by simpa [folds] using hfolds, ?_, ?_, hvalue⟩
  · rw [hgap, hkeysEq, hequalsEq, hsignEq, hsettingEq, hwordEq, hlastEq, hsemicolonEq, hsingle]
    simp
  · rw [List.mem_cons, not_or] at hpragmaSemicolon
    simp [hpragmaSemicolon.2, hspaces₁, hkeysSemicolon, hspaces₂, hsignSemicolon, hspaces₃,
      hwordSemicolon, hspaces₄]
  · have htext : gap = spaces₁ ++ keys ++ spaces₂ ++ sign ++ spaces₃ ++ word ++ spaces₄ ++
        [';'] ++ rest := by
      rw [hgap, hkeysEq, hequalsEq, hsignEq, hsettingEq, hwordEq, hlastEq, hsemicolonEq, hsingle]
      simp
    rw [← hlength, htext]
    simp only [List.length_append, List.length_cons, List.length_nil, List.cons_append]
    omega

variable {directive : SqlDirective}

theorem bounds_foreignKey {masked : List Char} (h : directive ∈ findForeignKeyDirectives masked) :
    Bounds masked directive ∧ (directive.value = "ON".toList ∨ directive.value = "OFF".toList) := by
  obtain ⟨found, hfound, rfl⟩ := List.mem_map.mp h
  obtain ⟨-, -, hat⟩ := matches_at hfound
  rw [Nat.sub_zero] at hat
  obtain ⟨-, c, front, rest, htext, hc, -, hlength, hvalue⟩ := FOREIGN_KEY_DIRECTIVE_spec hat
  have hletter : isLetter c = true := by
    rcases hc with rfl | rfl <;> decide
  have hget : ∀ i, masked[found.index + i]? = (c :: (front ++ ';' :: rest))[i]? := by
    intro i
    rw [← htext, List.getElem?_drop]
  refine ⟨⟨⟨c, by simpa using hget 0, hletter⟩, by dsimp only; omega, .inl ?_⟩, hvalue⟩
  have hlast : found.index + found.length - 1 = found.index + (front.length + 1) := by omega
  dsimp only
  rw [hlast, hget]
  simp

/-! ### Transaction directives -/

/-- What one turn of the loop does to the directives: nothing, a semicolon ends the one that is
open, or a word opens one. -/
inductive Turn (scan : Scan) (found : Match (List Char)) (scan' : Scan) : Prop
  | kept (hdirectives : scan'.directives = scan.directives)
      (hcurrent : scan'.current.map Prod.fst = scan.current.map Prod.fst)
  | ended (hsemicolon : found.value = [';']) (hcurrent : scan'.current = none)
      (hdirectives : scan'.directives = scan.directives ∨ ∃ start words,
        scan.current = some (start, words) ∧
        scan'.directives = scan.directives ++ [⟨start, found.index + 1, joined words⟩])
  | began (hword : found.value ≠ [';']) (hdirectives : scan'.directives = scan.directives)
      (hcurrent : scan'.current.map Prod.fst = some found.index)

variable {scan scan' : Scan} {found : Match (List Char)} {masked : List Char}

theorem scanTriggerToken_keeps {token : List Char} (h : scanTriggerToken scan token = .ok scan') :
    scan'.directives = scan.directives ∧ scan'.current = scan.current := by
  unfold scanTriggerToken at h
  dsimp only at h
  split_ifs at h <;> cases h <;> exact ⟨rfl, rfl⟩

theorem pushWord_keeps (scan : Scan) (word : List Char) :
    (pushWord scan word).directives = scan.directives ∧
      (pushWord scan word).current.map Prod.fst = scan.current.map Prod.fst := by
  refine ⟨rfl, ?_⟩
  unfold pushWord
  cases scan.current <;> rfl

theorem turn_scanToken (h : scanToken scan found = .ok scan') : Turn scan found scan' := by
  unfold scanToken at h
  dsimp only at h
  split_ifs at h with htrigger hsemicolon hstart hcreate htransaction
  · obtain ⟨hdirectives, hcurrent⟩ := scanTriggerToken_keeps h
    exact .kept hdirectives (by rw [hcurrent])
  · cases h
    refine .ended hsemicolon rfl ?_
    cases hcurrent : scan.current with
    | none => exact .inl rfl
    | some open' => exact .inr ⟨open'.1, open'.2, rfl, rfl⟩
  · cases h
    exact .kept rfl rfl
  · cases h
    exact .began hsemicolon rfl rfl
  · cases h
    exact .kept rfl rfl
  · split at h
    · split_ifs at h
      · cases h
        exact .kept rfl rfl
      · cases h
        exact .kept rfl rfl
      · cases h
        obtain ⟨hdirectives, hcurrent⟩ := pushWord_keeps { scan with createPrefix := none }
          (toUpperCase found.value)
        exact .kept hdirectives hcurrent
    · cases h
      obtain ⟨hdirectives, hcurrent⟩ := pushWord_keeps scan (toUpperCase found.value)
      exact .kept hdirectives hcurrent

/-- A match is a semicolon, or a word that begins at a letter. -/
theorem token_at (h : found ∈ matchAll SQL_TOKEN none 0 0 masked) :
    found.index < masked.length ∧ (found.value = [';'] → masked[found.index]? = some ';') ∧
      (found.value ≠ [';'] → ∃ c, masked[found.index]? = some c ∧ isLetter c = true) := by
  obtain ⟨-, hlt, hat⟩ := matches_at h
  rw [Nat.sub_zero] at hlt hat
  refine ⟨hlt, ?_⟩
  have hhead : masked[found.index]? = (masked.drop found.index).head? := by
    rw [List.head?_eq_getElem?, List.getElem?_drop, Nat.add_zero]
  rw [hhead]
  cases htext : masked.drop found.index with
  | nil =>
    rw [htext] at hat
    cases hat
  | cons c text =>
    rw [htext] at hat
    unfold SQL_TOKEN at hat
    dsimp only at hat
    split_ifs at hat with hletter hsemicolon
    · obtain ⟨-, hvalue⟩ := Prod.mk.inj (Option.some.inj hat)
      refine ⟨fun heq => ?_, fun _ => ⟨c, rfl, hletter⟩⟩
      rw [← hvalue] at heq
      rw [(List.cons.inj heq).1] at hletter
      exact absurd hletter (by decide)
    · obtain ⟨-, hvalue⟩ := Prod.mk.inj (Option.some.inj hat)
      exact ⟨fun _ => congrArg some hsemicolon, fun hne => absurd hvalue.symm hne⟩

/-- The directives found so far are bounded, and the one that is open began at a letter, before the
matches that follow. -/
structure Marked (masked : List Char) (scan : Scan) (matches' : List (Match (List Char))) : Prop where
  bounded : ∀ directive ∈ scan.directives, Bounds masked directive
  current : ∀ start, scan.current.map Prod.fst = some start →
    start < masked.length ∧ (∃ c, masked[start]? = some c ∧ isLetter c = true) ∧
      ∀ found ∈ matches', start < found.index

theorem marked_step {rest : List (Match (List Char))} (h : Marked masked scan (found :: rest))
    (hfound : found ∈ matchAll SQL_TOKEN none 0 0 masked)
    (hrest : ∀ other ∈ rest, found.index < other.index) (hstep : scanToken scan found = .ok scan') :
    Marked masked scan' rest := by
  obtain ⟨hlt, hsemicolonAt, hwordAt⟩ := token_at hfound
  cases turn_scanToken hstep with
  | kept hdirectives hcurrent =>
    refine ⟨by rw [hdirectives]; exact h.bounded, fun start hstart => ?_⟩
    rw [hcurrent] at hstart
    obtain ⟨hlength, hletter, hall⟩ := h.current start hstart
    exact ⟨hlength, hletter, fun other hother => hall other (List.mem_cons_of_mem _ hother)⟩
  | ended hsemicolon hcurrent hdirectives =>
    refine ⟨?_, fun start hstart => by rw [hcurrent] at hstart; cases hstart⟩
    rcases hdirectives with hdirectives | ⟨start, words, hopen, hdirectives⟩
    · rw [hdirectives]
      exact h.bounded
    · obtain ⟨-, hletter, hall⟩ := h.current start (by rw [hopen]; rfl)
      rw [hdirectives]
      intro directive hmem
      rcases List.mem_append.mp hmem with hmem | hmem
      · exact h.bounded directive hmem
      · rw [List.mem_singleton.mp hmem]
        refine ⟨hletter, ?_, .inl ?_⟩
        · exact Nat.lt_succ_of_lt (hall found List.mem_cons_self)
        · exact hsemicolonAt hsemicolon
  | began hword hdirectives hcurrent =>
    refine ⟨by rw [hdirectives]; exact h.bounded, fun start hstart => ?_⟩
    rw [hcurrent] at hstart
    cases hstart
    exact ⟨hlt, hwordAt hword, hrest⟩

theorem marked_fold {matches' : List (Match (List Char))}
    (hall : ∀ found ∈ matches', found ∈ matchAll SQL_TOKEN none 0 0 masked)
    (hordered : matches'.Pairwise fun one other => one.index < other.index)
    (h : Marked masked scan matches') (hfold : matches'.foldlM scanToken scan = .ok scan') :
    Marked masked scan' [] := by
  induction matches' generalizing scan with
  | nil =>
    cases hfold
    exact h
  | cons found rest ih =>
    rw [List.foldlM_cons] at hfold
    obtain ⟨mid, hmid, hfold⟩ := bind_eq_ok.mp hfold
    obtain ⟨hbefore, hordered⟩ := List.pairwise_cons.mp hordered
    refine ih (fun other hother => hall other (List.mem_cons_of_mem _ hother)) hordered ?_ hfold
    exact marked_step h (hall found List.mem_cons_self) hbefore hmid

theorem bounds_transaction {directives : List SqlDirective}
    (h : findTransactionDirectives masked = .ok directives) (hmem : directive ∈ directives) :
    Bounds masked directive := by
  unfold findTransactionDirectives at h
  obtain ⟨scan, hfold, h⟩ := bind_eq_ok.mp h
  have hinit : Marked masked {} (matchAll SQL_TOKEN none 0 0 masked) := by
    constructor
    · intro directive hmem
      cases hmem
    · intro start hstart
      cases hstart
  have hmarked := marked_fold (fun _ hfound => hfound) (matches_ordered.imp fun h => h.1) hinit hfold
  split_ifs at h
  cases hcurrent : scan.current with
  | none =>
    rw [hcurrent] at h
    cases h
    exact hmarked.bounded directive hmem
  | some open' =>
    rw [hcurrent] at h
    cases h
    rcases List.mem_append.mp hmem with hmem | hmem
    · exact hmarked.bounded directive hmem
    · obtain ⟨hlt, hletter, -⟩ := hmarked.current open'.1 (by rw [hcurrent]; rfl)
      rw [List.mem_singleton.mp hmem]
      exact ⟨hletter, hlt, .inr rfl⟩

/-! ### Cuts -/

/-- The text can be cut at the position: it is plain there, or it ends there. -/
structure Cut (sql : List Char) (i : ℕ) : Prop where
  loose : Loose (sql.take i) (sql.drop i)
  plain : final sqlite .plain (sql.take i) = .plain ∨ sql.drop i = []

theorem cut_zero (sql : List Char) : Cut sql 0 := by
  refine ⟨?_, .inl (by simp)⟩
  intro c hc
  simp at hc

theorem not_pairs_of_isLetter {c d : Char} (h : isLetter d = true ∨ d = ';') : ¬ Pairs c d := by
  have hd : d ≠ '-' ∧ d ≠ '*' ∧ d ≠ '/' ∧ d ≠ '\'' ∧ d ≠ '"' ∧ d ≠ '\x60' ∧ d ≠ ']' := by
    refine ⟨?_, ?_, ?_, ?_, ?_, ?_, ?_⟩ <;> rintro rfl <;> revert h <;> decide
  rintro (⟨-, h⟩ | ⟨-, h⟩ | ⟨-, h⟩ | ⟨-, h⟩) <;> tauto

theorem not_pairs_semicolon {d : Char} : ¬ Pairs ';' d := by
  rintro (⟨h, -⟩ | ⟨h, -⟩ | ⟨h, -⟩ | ⟨rfl, h⟩)
  · cases h
  · cases h
  · cases h
  · revert h
    decide

theorem cut_of_plain {c : Char} (h : sql[i]? = some c)
    (hplain : (regions sqlite .plain sql)[i]? = some .plain) (hc : isLetter c = true ∨ c = ';') :
    Cut sql i := by
  have hhead : (sql.drop i).head? = some c := by
    rw [List.head?_eq_getElem?, List.getElem?_drop, Nat.add_zero, h]
  have hloose : Loose (sql.take i) (sql.drop i) := by
    intro a _ d hd
    rw [hhead] at hd
    cases hd
    exact not_pairs_of_isLetter hc
  have hlt : i < sql.length := (List.getElem?_eq_some_iff.mp h).1
  refine ⟨hloose, .inl (final_eq_plain proper_plain hloose ?_)⟩
  rw [List.take_append_drop, List.length_take, Nat.min_eq_left (Nat.le_of_lt hlt)]
  exact hplain

theorem cut_behind_semicolon (h : sql[i]? = some ';')
    (hplain : (regions sqlite .plain sql)[i]? = some .plain) : Cut sql (i + 1) := by
  have hbefore := cut_of_plain h hplain (.inr rfl)
  have hlt : i < sql.length := (List.getElem?_eq_some_iff.mp h).1
  have htake : sql.take (i + 1) = sql.take i ++ [';'] := by
    rw [List.take_add_one, h]
    rfl
  refine ⟨?_, .inl ?_⟩
  · intro a ha d _
    rw [htake, List.getLast?_concat] at ha
    cases ha
    exact not_pairs_semicolon
  · have hloose : Loose (sql.take i) [';'] := by
      intro a _ d hd
      cases hd
      exact not_pairs_of_isLetter (.inr rfl)
    rcases hbefore.plain with hfinal | hend
    · rw [htake, (regions_append proper_plain hloose).2, hfinal]
      decide
    · rw [List.drop_eq_nil_iff] at hend
      omega

theorem cut_start (h : Readable .plain sql)
    (hbounds : Bounds (maskSqlLiteralsAndComments sql) directive) : Cut sql directive.start := by
  obtain ⟨c, hat, hletter⟩ := hbounds.start
  have hne : c ≠ ' ' ∧ c ≠ '\n' ∧ c ≠ '\r' := by
    refine ⟨?_, ?_, ?_⟩ <;> rintro rfl <;> revert hletter <;> decide
  obtain ⟨hchar, hplace⟩ := plain_of_masked hat hne
  rw [(regions_always proper_plain h.brackets).1] at hplace
  exact cut_of_plain hchar hplace (.inl hletter)

theorem length_masked : (maskSqlLiteralsAndComments sql).length = sql.length := by
  unfold maskSqlLiteralsAndComments
  rw [maskSql_eq, List.length_zipWith, length_regions, Nat.min_self]

theorem cut_stop (h : Readable .plain sql)
    (hbounds : Bounds (maskSqlLiteralsAndComments sql) directive) : Cut sql directive.stop := by
  rcases hbounds.stop with hat | hend
  · obtain ⟨hchar, hplace⟩ := plain_of_masked hat (by decide)
    rw [(regions_always proper_plain h.brackets).1] at hplace
    have hstop : directive.stop - 1 + 1 = directive.stop := by
      have := hbounds.lt
      omega
    rw [← hstop]
    exact cut_behind_semicolon hchar hplace
  · have hdrop : sql.drop directive.stop = [] := by
      rw [hend, length_masked]
      exact List.drop_length
    refine ⟨?_, .inr hdrop⟩
    intro a _ d hd
    rw [hdrop] at hd
    cases hd

theorem readable_nil : Readable .plain [] where
  brackets c place hmem := by cases hmem
  closed close := by simp

theorem slice_eq (sql : List Char) (start stop : ℕ) :
    slice sql start stop = (sql.drop start).take (stop - start) := List.drop_take ..

variable {start stop : ℕ}

theorem drop_eq (hle : start ≤ stop) : sql.drop start = slice sql start stop ++ sql.drop stop := by
  rw [slice_eq]
  have hdrop : sql.drop stop = (sql.drop start).drop (stop - start) := by
    rw [List.drop_drop, Nat.add_sub_cancel' hle]
  rw [hdrop, List.take_append_drop]

theorem take_eq (hle : start ≤ stop) : sql.take stop = sql.take start ++ slice sql start stop := by
  unfold slice
  have htake : sql.take start = (sql.take stop).take start := by
    rw [List.take_take, Nat.min_eq_left hle]
  rw [htake, List.take_append_drop]

theorem loose_slice (hcut : Cut sql start) (hle : start ≤ stop) :
    Loose (sql.take start) (slice sql start stop) := by
  intro a ha d hd
  refine hcut.loose a ha d ?_
  rw [drop_eq hle]
  exact List.mem_head?_append_of_mem_head? hd

theorem readable_slice (h : Readable .plain sql) (hstart : Cut sql start) (hstop : Cut sql stop)
    (hle : start ≤ stop) : Readable .plain (slice sql start stop) := by
  have htake : Readable .plain (sql.take stop) := by
    rcases hstop.plain with hfinal | hend
    · refine Readable.drop_right ?_ proper_plain hstop.loose hfinal
      rwa [List.take_append_drop]
    · have hall : sql.take stop = sql := List.take_of_length_le (List.drop_eq_nil_iff.mp hend)
      rwa [hall]
  rcases hstart.plain with hfinal | hend
  · rw [take_eq hle] at htake
    have hslice := htake.drop_left proper_plain (loose_slice hstart hle)
    rwa [hfinal] at hslice
  · have hnil : slice sql start stop = [] := by
      rw [slice_eq, hend, List.take_nil]
    rw [hnil]
    exact readable_nil

theorem readable_drop {start : ℕ} (h : Readable .plain sql) (hstart : Cut sql start) :
    Readable .plain (sql.drop start) := by
  rcases hstart.plain with hfinal | hend
  · rw [← List.take_append_drop start sql] at h
    have hdrop := h.drop_left proper_plain hstart.loose
    rwa [hfinal] at hdrop
  · rw [hend]
    exact readable_nil

theorem tokens_drop (hstart : Cut sql start) (hstop : Cut sql stop) (hle : start ≤ stop) :
    tokens (sql.drop start) = tokens (slice sql start stop) ++ tokens (sql.drop stop) := by
  rcases hstart.plain with hfinal | hend
  · have hloose : Loose (slice sql start stop) (sql.drop stop) := by
      intro a ha d hd
      refine hstop.loose a ?_ d hd
      rw [take_eq hle]
      exact List.mem_getLast?_append_of_mem_getLast? ha
    have hslice : final sqlite .plain (sql.take stop) =
        final sqlite .plain (slice sql start stop) := by
      rw [take_eq hle, (regions_append proper_plain (loose_slice hstart hle)).2, hfinal]
    unfold tokens
    rw [drop_eq hle, solid_append proper_plain hloose, ← hslice]
    rcases hstop.plain with hplain | hend
    · rw [hplain]
    · rw [hend]
      simp [solid]
  · have hrest : sql.drop stop = [] := by
      rw [List.drop_eq_nil_iff] at hend ⊢
      omega
    have hnil : slice sql start stop = [] := by
      rw [slice_eq, hend, List.take_nil]
    rw [hend, hrest, hnil]
    rfl

theorem tokens_trim (h : Readable .plain sql) : tokens (trimSql sql) = tokens sql := by
  have hsplit : sql = sql.takeWhile isJsSpace ++ trimSql sql ++
      ((sql.dropWhile isJsSpace).reverse.takeWhile isJsSpace).reverse := by
    unfold trimSql
    rw [List.append_assoc, ← List.reverse_append, List.takeWhile_append_dropWhile,
      List.reverse_reverse, List.takeWhile_append_dropWhile]
  have hspaces : ∀ text : List Char, ∀ c ∈ text.takeWhile isJsSpace, isJsSpace c = true :=
    fun text c hc => List.all_eq_true.mp List.all_takeWhile c hc
  have hclosed := h.closed
  rw [hsplit] at hclosed
  have htrim := solid_trim inert_isJsSpace (hspaces sql)
    (fun c hc => hspaces _ c (List.mem_reverse.mp hc)) hclosed
  rw [← hsplit] at htrim
  exact htrim.symm

theorem tokens_eq_nil_of_trivia (h : Readable .plain sql) :
    isSqlTrivia sql = true ↔ tokens sql = [] := by
  rw [isSqlTrivia_iff, solid_always proper_plain h]
  rfl

end AutoTrade.Db.MigrationScript
