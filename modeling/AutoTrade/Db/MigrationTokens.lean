import AutoTrade.Db.MigrationCuts

/-! # What migration parsing keeps

An accepted script is the directives and the body: `KeepsTokens` says that the characters of its
tokens are those of the directives before the body, of the body, and of the directives behind it. A
script without a transaction envelope is cut behind checks that leave no other token (`keeps_iff`).
A script that has the envelope and no `foreign_keys` directives is not checked: the check of what
stands outside of the envelope is returned as `requiresForeignKeysOff`. -/

namespace AutoTrade.Db.MigrationScript

open Lib.Matches Lib.Result Lib.SqlText

/-! ### What is kept -/

def masked (sql : List Char) : List Char := maskSqlLiteralsAndComments (withoutMark sql)

def foreignKeys (sql : List Char) : List SqlDirective := findForeignKeyDirectives (masked sql)

/-- The transaction statements of a script that can be scanned. -/
def transactions (sql : List Char) : List SqlDirective :=
  match findTransactionDirectives (masked sql) with
  | .ok directives => directives
  | .error _ => []

/-- The tokens of a directive, comments in it aside. -/
def tokensOf (sql : List Char) (directive : SqlDirective) : List Char :=
  tokens (slice (withoutMark sql) directive.start directive.stop)

/-- The tokens of the script are those of the body and of the directives around it, each of which is
there at most once. -/
def KeepsTokens (sql : List Char) (parsed : ParsedMigrationScript) : Prop :=
  ∃ before after : List SqlDirective, (before ++ after).Perm (transactions sql ++ foreignKeys sql) ∧
    ((before ++ after).map SqlDirective.value).Sublist
      ["OFF".toList, "BEGIN IMMEDIATE".toList, "COMMIT".toList, "ON".toList] ∧
    tokens (withoutMark sql) =
      before.flatMap (tokensOf sql) ++ tokens parsed.bodySql ++ after.flatMap (tokensOf sql)

/-- The script holds a directive `OFF` and behind it a directive `ON`. -/
def HasPair (sql : List Char) : Prop :=
  ∃ disable enable, [disable, enable].Sublist (foreignKeys sql) ∧ disable.value = "OFF".toList ∧
    enable.value = "ON".toList

/-- The script has a transaction envelope and no `foreign_keys` directive. -/
def BareEnvelope (sql : List Char) : Prop := transactions sql ≠ [] ∧ foreignKeys sql = []

instance (sql : List Char) : Decidable (BareEnvelope sql) :=
  inferInstanceAs (Decidable (transactions sql ≠ [] ∧ foreignKeys sql = []))

variable {sql : List Char} {parsed : ParsedMigrationScript}

theorem bodied_eq_ok {text : List Char} {requiresForeignKeysOff hadTransactionEnvelope : Bool}
    (h : bodied text requiresForeignKeysOff hadTransactionEnvelope = .ok parsed) :
    parsed = ⟨trimSql text, requiresForeignKeysOff, hadTransactionEnvelope⟩ := by
  unfold bodied at h
  split_ifs at h
  exact (Except.ok.inj h).symm

/-- The ways in which a script is accepted. -/
inductive Accepted (sql : List Char) : ParsedMigrationScript → Prop
  | plain (htransactions : transactions sql = []) (hkeys : foreignKeys sql = []) :
    Accepted sql ⟨trimSql (withoutMark sql), false, false⟩
  | enabled (enable : SqlDirective) (htransactions : transactions sql = [])
      (hkeys : foreignKeys sql = [enable]) (hon : enable.value = "ON".toList)
      (hbefore : isSqlTrivia (slice (withoutMark sql) 0 enable.start) = true) :
    Accepted sql ⟨trimSql ((withoutMark sql).drop enable.stop), false, false⟩
  | disabled (disable enable : SqlDirective) (htransactions : transactions sql = [])
      (hkeys : foreignKeys sql = [disable, enable]) (hoff : disable.value = "OFF".toList)
      (hon : enable.value = "ON".toList)
      (hbefore : isSqlTrivia (slice (withoutMark sql) 0 disable.start) = true)
      (hafter : isSqlTrivia ((withoutMark sql).drop enable.stop) = true) :
    Accepted sql ⟨trimSql (slice (withoutMark sql) disable.stop enable.start), true, false⟩
  | bare (start commit : SqlDirective) (htransactions : transactions sql = [start, commit])
      (hstart : start.value = "BEGIN IMMEDIATE".toList) (hcommit : commit.value = "COMMIT".toList)
      (hlt : start.stop < commit.start) (hkeys : foreignKeys sql = []) :
    Accepted sql ⟨trimSql (slice (withoutMark sql) start.stop commit.start),
      isSqlTrivia (slice (withoutMark sql) 0 start.start) &&
        isSqlTrivia ((withoutMark sql).drop commit.stop), true⟩
  | enveloped (start commit disable enable : SqlDirective)
      (htransactions : transactions sql = [start, commit])
      (hstart : start.value = "BEGIN IMMEDIATE".toList) (hcommit : commit.value = "COMMIT".toList)
      (hlt : start.stop < commit.start) (hkeys : foreignKeys sql = [disable, enable])
      (hoff : disable.value = "OFF".toList) (hon : enable.value = "ON".toList)
      (hdisable : disable.stop ≤ start.start) (henable : commit.stop ≤ enable.start)
      (htrivia : isSqlTrivia (slice (withoutMark sql) 0 disable.start) = true ∧
        isSqlTrivia (slice (withoutMark sql) disable.stop start.start) = true ∧
        isSqlTrivia (slice (withoutMark sql) commit.stop enable.start) = true ∧
        isSqlTrivia ((withoutMark sql).drop enable.stop) = true) :
    Accepted sql ⟨trimSql (slice (withoutMark sql) start.stop commit.start), true, true⟩

theorem accepted_of_parse (h : parseMigrationScript sql = .ok parsed) : Accepted sql parsed := by
  unfold parseMigrationScript at h
  obtain ⟨found, hfound, h⟩ := bind_eq_ok.mp h
  have htransactions : transactions sql = found := by
    unfold transactions masked
    rw [hfound]
  have hkeys : foreignKeys sql = findForeignKeyDirectives
      (maskSqlLiteralsAndComments (withoutMark sql)) := rfl
  dsimp only at h
  rw [← hkeys] at h
  split at h
  · -- no transaction statement
    split at h
    · next hnone =>
      rw [bodied_eq_ok h]
      exact .plain htransactions hnone
    · next enable hone =>
      split_ifs at h with hchecks
      rw [bodied_eq_ok h]
      exact .enabled enable htransactions hone hchecks.1 hchecks.2
    · next disable enable htwo =>
      split_ifs at h with hchecks
      rw [bodied_eq_ok h]
      obtain ⟨hoff, hon, hbefore, hafter⟩ := hchecks
      exact .disabled disable enable htransactions htwo hoff hon hbefore hafter
    · cases h
  · next start commit =>
    split_ifs at h with hvalues hlt
    obtain ⟨requires, hrequires, h⟩ := bind_eq_ok.mp h
    rw [not_or, not_not, not_not] at hvalues
    rw [bodied_eq_ok h]
    unfold validateForeignKeyEnvelope at hrequires
    split at hrequires
    · next hnone =>
      rw [← Except.ok.inj hrequires]
      exact .bare start commit htransactions hvalues.1 hvalues.2 (by omega) hnone
    · next disable enable htwo =>
      split_ifs at hrequires with hkeyValues hchecks
      rw [not_or, not_not, not_not] at hkeyValues
      rw [← Except.ok.inj hrequires]
      simp only [not_or, Bool.not_eq_false] at hchecks
      obtain ⟨hdisable, henable, htrivia⟩ := hchecks
      exact .enveloped start commit disable enable htransactions hvalues.1 hvalues.2 (by omega) htwo
        hkeyValues.1 hkeyValues.2 (by omega) (by omega) htrivia
    · cases hrequires
  · cases h

/-! ### The parts of a script -/

variable {directive : SqlDirective}

theorem bounds_directive (h : directive ∈ transactions sql ++ foreignKeys sql) :
    Bounds (masked sql) directive := by
  rcases List.mem_append.mp h with h | h
  · unfold transactions at h
    cases hfound : findTransactionDirectives (masked sql) with
    | error e =>
      rw [hfound] at h
      cases h
    | ok directives =>
      rw [hfound] at h
      exact bounds_transaction hfound h
  · exact (bounds_foreignKey h).1

variable (hreadable : Readable .plain (withoutMark sql))
include hreadable

theorem cut_directive (h : directive ∈ transactions sql ++ foreignKeys sql) :
    Cut (withoutMark sql) directive.start ∧ Cut (withoutMark sql) directive.stop ∧
      directive.start ≤ directive.stop :=
  have hbounds := bounds_directive h
  ⟨cut_start hreadable hbounds, cut_stop hreadable hbounds, Nat.le_of_lt hbounds.lt⟩

theorem tokens_directive {from' : ℕ} (hcut : Cut (withoutMark sql) from')
    (h : directive ∈ transactions sql ++ foreignKeys sql) (hle : from' ≤ directive.start) :
    tokens ((withoutMark sql).drop from') = tokens (slice (withoutMark sql) from' directive.start) ++
      tokensOf sql directive ++ tokens ((withoutMark sql).drop directive.stop) := by
  obtain ⟨hstart, hstop, hlt⟩ := cut_directive hreadable h
  rw [tokens_drop hcut hstart hle, tokens_drop hstart hstop hlt, List.append_assoc]
  rfl

section

variable {start stop : ℕ} (hstart : Cut (withoutMark sql) start)
  (hstop : Cut (withoutMark sql) stop) (hle : start ≤ stop)
include hstart hstop hle

theorem tokens_slice_trivia (h : isSqlTrivia (slice (withoutMark sql) start stop) = true) :
    tokens (slice (withoutMark sql) start stop) = [] :=
  (tokens_eq_nil_of_trivia (readable_slice hreadable hstart hstop hle)).mp h

theorem tokens_slice_trim :
    tokens (trimSql (slice (withoutMark sql) start stop)) =
      tokens (slice (withoutMark sql) start stop) :=
  tokens_trim (readable_slice hreadable hstart hstop hle)

end

theorem tokens_drop_trivia {start : ℕ} (hstart : Cut (withoutMark sql) start)
    (h : isSqlTrivia ((withoutMark sql).drop start) = true) :
    tokens ((withoutMark sql).drop start) = [] :=
  (tokens_eq_nil_of_trivia (readable_drop hreadable hstart)).mp h

theorem tokens_envelope {start commit : SqlDirective}
    (htransactions : transactions sql = [start, commit]) (hlt : start.stop < commit.start) :
    tokens (withoutMark sql) = tokens (slice (withoutMark sql) 0 start.start) ++
      tokensOf sql start ++ tokens (trimSql (slice (withoutMark sql) start.stop commit.start)) ++
      tokensOf sql commit ++ tokens ((withoutMark sql).drop commit.stop) := by
  have hstart : start ∈ transactions sql ++ foreignKeys sql := by simp [htransactions]
  have hcommit : commit ∈ transactions sql ++ foreignKeys sql := by simp [htransactions]
  have hcutStart := cut_directive hreadable hstart
  have hcutCommit := cut_directive hreadable hcommit
  have hle : start.stop ≤ commit.start := Nat.le_of_lt hlt
  have hwhole := tokens_directive hreadable (cut_zero _) hstart (Nat.zero_le _)
  have hbody := tokens_directive hreadable hcutStart.2.1 hcommit hle
  rw [List.drop_zero] at hwhole
  rw [hwhole, hbody, tokens_slice_trim hreadable hcutStart.2.1 hcutCommit.1 hle]
  simp only [List.append_assoc]

omit hreadable

variable {disable enable : SqlDirective}

theorem pair_ordered (h : foreignKeys sql = [disable, enable]) : disable.stop ≤ enable.start := by
  have hordered : (foreignKeys sql).Pairwise fun one other => one.stop ≤ other.start := by
    unfold foreignKeys findForeignKeyDirectives
    rw [List.pairwise_map]
    exact matches_ordered.imp fun h => h.2
  rw [h] at hordered
  exact (List.pairwise_cons.mp hordered).1 enable (List.mem_singleton_self _)

theorem hasPair_of_eq (h : foreignKeys sql = [disable, enable])
    (hoff : disable.value = "OFF".toList) (hon : enable.value = "ON".toList) : HasPair sql :=
  ⟨disable, enable, by rw [h], hoff, hon⟩

theorem not_hasPair (h : (foreignKeys sql).length ≤ 1) : ¬ HasPair sql := by
  rintro ⟨disable, enable, hsub, -⟩
  have hlength := hsub.length_le
  simp only [List.length_cons, List.length_nil] at hlength
  omega

/-! ### Accepted scripts -/

include hreadable

theorem keeps_of_accepted (h : Accepted sql parsed) (hbare : ¬ BareEnvelope sql) :
    KeepsTokens sql parsed ∧ (parsed.requiresForeignKeysOff = true ↔ HasPair sql) := by
  cases h with
  | plain htransactions hkeys =>
    refine ⟨⟨[], [], by simp [htransactions, hkeys], by simp, ?_⟩, ?_⟩
    · simpa using (tokens_trim hreadable).symm
    · exact iff_of_false (by simp) (not_hasPair (by simp [hkeys]))
  | enabled enable htransactions hkeys hon hbefore =>
    have hmem : enable ∈ transactions sql ++ foreignKeys sql := by simp [hkeys]
    obtain ⟨hstart, hstop, -⟩ := cut_directive hreadable hmem
    have hwhole := tokens_directive hreadable (cut_zero _) hmem (Nat.zero_le _)
    rw [List.drop_zero, tokens_slice_trivia hreadable (cut_zero _) hstart (Nat.zero_le _) hbefore]
      at hwhole
    refine ⟨⟨[enable], [], by simp [htransactions, hkeys], by simp [hon], ?_⟩, ?_⟩
    · rw [hwhole, tokens_trim (readable_drop hreadable hstop)]
      simp
    · exact iff_of_false (by simp) (not_hasPair (by simp [hkeys]))
  | disabled disable enable htransactions hkeys hoff hon hbefore hafter =>
    have hdisable : disable ∈ transactions sql ++ foreignKeys sql := by simp [hkeys]
    have henable : enable ∈ transactions sql ++ foreignKeys sql := by simp [hkeys]
    obtain ⟨hstart, hstop, -⟩ := cut_directive hreadable hdisable
    obtain ⟨hstart', hstop', -⟩ := cut_directive hreadable henable
    have hle := pair_ordered hkeys
    have hwhole := tokens_directive hreadable (cut_zero _) hdisable (Nat.zero_le _)
    have hbody := tokens_directive hreadable hstop henable hle
    rw [List.drop_zero, tokens_slice_trivia hreadable (cut_zero _) hstart (Nat.zero_le _) hbefore,
      hbody, tokens_drop_trivia hreadable hstop' hafter] at hwhole
    refine ⟨⟨[disable], [enable], by simp [htransactions, hkeys], ?_, ?_⟩, ?_⟩
    · simp [hoff, hon]
    · rw [hwhole, tokens_slice_trim hreadable hstop hstart' hle]
      simp
    · exact iff_of_true rfl (hasPair_of_eq hkeys hoff hon)
  | bare start commit htransactions _ _ _ hkeys =>
    exact absurd ⟨by simp [htransactions], hkeys⟩ hbare
  | enveloped start commit disable enable htransactions hstart hcommit hlt hkeys hoff hon hdisable
      henable htrivia =>
    obtain ⟨hbefore, hleft, hright, hafter⟩ := htrivia
    have hmem : ∀ directive ∈ [start, commit, disable, enable],
        directive ∈ transactions sql ++ foreignKeys sql := by
      rw [htransactions, hkeys]
      exact fun directive hmem => hmem
    have hcutStart := cut_directive hreadable (hmem start (by simp))
    have hcutCommit := cut_directive hreadable (hmem commit (by simp))
    have hcutDisable := cut_directive hreadable (hmem disable (by simp))
    have hcutEnable := cut_directive hreadable (hmem enable (by simp))
    have hle : start.stop ≤ commit.start := Nat.le_of_lt hlt
    -- the script, directive by directive
    have h₁ := tokens_directive hreadable (cut_zero _) (hmem disable (by simp)) (Nat.zero_le _)
    have h₂ := tokens_directive hreadable hcutDisable.2.1 (hmem start (by simp)) hdisable
    have h₃ := tokens_directive hreadable hcutStart.2.1 (hmem commit (by simp)) hle
    have h₄ := tokens_directive hreadable hcutCommit.2.1 (hmem enable (by simp)) henable
    rw [List.drop_zero, tokens_slice_trivia hreadable (cut_zero _) hcutDisable.1 (Nat.zero_le _)
      hbefore, h₂, tokens_slice_trivia hreadable hcutDisable.2.1 hcutStart.1 hdisable hleft, h₃,
      h₄, tokens_slice_trivia hreadable hcutCommit.2.1 hcutEnable.1 henable hright,
      tokens_drop_trivia hreadable hcutEnable.2.1 hafter] at h₁
    refine ⟨⟨[disable, start], [commit, enable], ?_, ?_, ?_⟩, ?_⟩
    · rw [htransactions, hkeys]
      have hperm : ([disable] ++ [start, commit]).Perm ([start, commit] ++ [disable]) :=
        List.perm_append_comm
      exact hperm.append_right [enable]
    · simp [hoff, hon, hstart, hcommit]
    · rw [h₁, tokens_slice_trim hreadable hcutStart.2.1 hcutCommit.1 hle]
      simp
    · exact iff_of_true rfl (hasPair_of_eq hkeys hoff hon)

/-- In a script with a bare envelope either a token outside of the envelope is lost, or foreign keys
are turned off without the directives. -/
theorem not_keeps_of_bare (h : Accepted sql parsed) (hbare : BareEnvelope sql) :
    ¬ (KeepsTokens sql parsed ∧ (parsed.requiresForeignKeysOff = true ↔ HasPair sql)) := by
  rintro ⟨⟨before, after, hperm, -, htokens⟩, hrequires⟩
  have hnone := hbare.2
  have hpair : ¬ HasPair sql := not_hasPair (by simp [hnone])
  cases h with
  | plain htransactions _ => exact hbare.1 htransactions
  | enabled enable htransactions _ _ _ => exact hbare.1 htransactions
  | disabled disable enable htransactions _ _ _ _ _ => exact hbare.1 htransactions
  | enveloped start commit disable enable _ _ _ _ hkeys => simp [hkeys] at hnone
  | bare start commit htransactions _ _ hlt _ =>
    have hwhole := tokens_envelope hreadable htransactions hlt
    have hmem : ∀ directive ∈ [start, commit], directive ∈ transactions sql ++ foreignKeys sql := by
      rw [htransactions, hnone]
      exact fun directive hmem => hmem
    have hcutStart := cut_directive hreadable (hmem start (by simp))
    have hcutCommit := cut_directive hreadable (hmem commit (by simp))
    -- the directives have the same tokens in every order
    have hcount : (before.flatMap (tokensOf sql)).length + (after.flatMap (tokensOf sql)).length =
        (tokensOf sql start).length + (tokensOf sql commit).length := by
      have hlength := (hperm.flatMap_right (tokensOf sql)).length_eq
      rw [htransactions, hnone] at hlength
      simpa using hlength
    have hlengths := congrArg List.length (hwhole.symm.trans htokens)
    simp only [List.length_append] at hlengths
    have hbefore : tokens (slice (withoutMark sql) 0 start.start) = [] :=
      List.length_eq_zero_iff.mp (by omega)
    have hafter : tokens ((withoutMark sql).drop commit.stop) = [] :=
      List.length_eq_zero_iff.mp (by omega)
    have hleft := (tokens_eq_nil_of_trivia (readable_slice hreadable (cut_zero _) hcutStart.1
      (Nat.zero_le _))).mpr hbefore
    have hright := (tokens_eq_nil_of_trivia (readable_drop hreadable hcutCommit.2.1)).mpr hafter
    exact hpair (hrequires.mp (by rw [hleft, hright]; rfl))

omit hreadable

/-- **An accepted script keeps its tokens, and turns foreign keys off exactly for the pair of
directives, unless it has a transaction envelope without `foreign_keys` directives; then it never
does both.** -/
theorem keeps_iff (hreadable : Readable .plain (withoutMark sql))
    (h : parseMigrationScript sql = .ok parsed) :
    (KeepsTokens sql parsed ∧ (parsed.requiresForeignKeysOff = true ↔ HasPair sql)) ↔
      ¬ BareEnvelope sql :=
  ⟨fun hkeeps hbare => not_keeps_of_bare hreadable (accepted_of_parse h) hbare hkeeps,
    fun hbare => keeps_of_accepted hreadable (accepted_of_parse h) hbare⟩

/-- A table is dropped in an envelope between the two directives. -/
def rebuildScript : List Char :=
  ("PRAGMA foreign_keys = OFF; BEGIN IMMEDIATE; DROP TABLE sample; COMMIT; " ++
    "PRAGMA foreign_keys = ON;").toList

theorem keeps_iff_rebuildScript :
    KeepsTokens rebuildScript ⟨"DROP TABLE sample;".toList, true, true⟩ ∧ HasPair rebuildScript := by
  have hparse : parseMigrationScript rebuildScript = .ok ⟨"DROP TABLE sample;".toList, true, true⟩ := by
    decide +kernel
  obtain ⟨hkeeps, hpair⟩ := (keeps_iff (by decide +kernel) hparse).mpr (by decide +kernel)
  exact ⟨hkeeps, hpair.mp rfl⟩

/-- A statement stands before the transaction envelope. -/
def statementBefore : List Char :=
  "DROP TABLE old; BEGIN IMMEDIATE; CREATE TABLE sample (id TEXT); COMMIT;".toList

/-- The statement before the envelope is accepted and lost. -/
theorem statementBefore_loses : Readable .plain (withoutMark statementBefore) ∧
    parseMigrationScript statementBefore =
      .ok ⟨"CREATE TABLE sample (id TEXT);".toList, false, true⟩ ∧
    ¬ KeepsTokens statementBefore ⟨"CREATE TABLE sample (id TEXT);".toList, false, true⟩ := by
  have hreadable : Readable .plain (withoutMark statementBefore) := by decide +kernel
  have hparse : parseMigrationScript statementBefore =
      .ok ⟨"CREATE TABLE sample (id TEXT);".toList, false, true⟩ := by decide +kernel
  have hkeys : foreignKeys statementBefore = [] := by decide +kernel
  have hpair : ¬ HasPair statementBefore := not_hasPair (by simp [hkeys])
  refine ⟨hreadable, hparse, fun hkeeps => ?_⟩
  exact not_keeps_of_bare hreadable (accepted_of_parse hparse) (by decide +kernel)
    ⟨hkeeps, iff_of_false (by simp) hpair⟩

end AutoTrade.Db.MigrationScript
