import AutoTrade.Lib.Matches
import AutoTrade.Lib.SqlText
import AutoTrade.Lib.Text

/-! # Migration scripts

A migration script is cut on a masked copy, in which quoted values and comments are blanks: the
words of the copy give the transaction statements, a pattern the `foreign_keys` directives, and the
body is a slice of the script between them. Texts are lists of characters, and positions count
characters. -/

namespace AutoTrade.Db.MigrationScript

open Lib.Matches Lib.Text

/-! ### The masked copy -/

inductive MaskState
  | normal
  | single
  | double
  | backtick
  | bracket
  | line
  | block
  deriving DecidableEq

/-- The state behind a character of the `NORMAL` state that is read alone. -/
def opened (character : Char) : MaskState :=
  if character = '\'' then .single
  else if character = '"' then .double
  else if character = '\x60' then .backtick
  else if character = '[' then .bracket
  else .normal

def closingCharacter : MaskState → Char
  | .single => '\''
  | .double => '"'
  | .backtick => '\x60'
  | _ => ']'

/-- Line ends stay, any other character is blanked. -/
def blanked (character : Char) : Char :=
  if character = '\n' ∨ character = '\r' then character else ' '

def maskSql (maskQuotedValues : Bool) : MaskState → List Char → List Char
  | _, [] => []
  | .normal, [character] =>
    [if maskQuotedValues = true ∧ opened character ≠ .normal then ' ' else character]
  | .normal, character :: next :: rest =>
    if character = '-' ∧ next = '-' then ' ' :: ' ' :: maskSql maskQuotedValues .line rest
    else if character = '/' ∧ next = '*' then ' ' :: ' ' :: maskSql maskQuotedValues .block rest
    else
      (if maskQuotedValues = true ∧ opened character ≠ .normal then ' ' else character) ::
        maskSql maskQuotedValues (opened character) (next :: rest)
  | .line, character :: rest =>
    blanked character :: maskSql maskQuotedValues (if character = '\n' then .normal else .line) rest
  | .block, [character] => [blanked character]
  | .block, character :: next :: rest =>
    if character = '*' ∧ next = '/' then ' ' :: ' ' :: maskSql maskQuotedValues .normal rest
    else blanked character :: maskSql maskQuotedValues .block (next :: rest)
  | _, [character] => [if maskQuotedValues then blanked character else character]
  | state, character :: next :: rest =>
    let first := if maskQuotedValues then blanked character else character
    if character = closingCharacter state then
      if next = closingCharacter state then
        first :: (if maskQuotedValues then ' ' else next) :: maskSql maskQuotedValues state rest
      else first :: maskSql maskQuotedValues .normal (next :: rest)
    else first :: maskSql maskQuotedValues state (next :: rest)

def maskSqlLiteralsAndComments (sql : List Char) : List Char := maskSql true .normal sql

def stripSqlComments (sql : List Char) : List Char := maskSql false .normal sql

def isSqlTrivia (sql : List Char) : Bool := (stripSqlComments sql).all isJsSpace

/-! ### Directives -/

structure SqlDirective where
  start : ℕ
  stop : ℕ
  value : List Char

def isLetter (c : Char) : Bool := ('a' ≤ c ∧ c ≤ 'z') ∨ ('A' ≤ c ∧ c ≤ 'Z') ∨ c = '_'

def isWordCharacter (c : Char) : Bool := isLetter c ∨ ('0' ≤ c ∧ c ≤ '9')

/-- A letter of a pattern with the flags `iu`: the long s and the Kelvin sign fold to `s` and `k`.
-/
def folds (letter c : Char) : Bool :=
  c = letter ∨ c = letter.toUpper ∨ (letter = 's' ∧ c = '\u017f') ∨ (letter = 'k' ∧ c = '\u212a')

/-- What follows when the text begins with the word. -/
def behindWord : List Char → List Char → Option (List Char)
  | [], text => some text
  | letter :: word, c :: text => if folds letter c then behindWord word text else none
  | _ :: _, [] => none

def behindSpaces (text : List Char) : List Char := text.dropWhile isJsSpace

/-- `(ON|OFF)`, in capitals, and what follows. -/
def behindSetting (text : List Char) : Option (List Char × List Char) :=
  match behindWord "on".toList text with
  | some rest => some ("ON".toList, rest)
  | none => (behindWord "off".toList text).map fun rest => ("OFF".toList, rest)

/-- `/\bPRAGMA\s+foreign_keys\s*=\s*(ON|OFF)\s*;/iu` at a position. -/
def FOREIGN_KEY_DIRECTIVE (previous : Option Char) (text : List Char) :
    Option (ℕ × List Char) :=
  if previous.any fun c => isWordCharacter c ∨ c = '\u017f' ∨ c = '\u212a' then none
  else (behindWord "pragma".toList text).bind fun gap =>
    if (gap.head?.any isJsSpace) = false then none
    else (behindWord "foreign_keys".toList (behindSpaces gap)).bind fun equals =>
      (behindWord ['='] (behindSpaces equals)).bind fun setting =>
        (behindSetting (behindSpaces setting)).bind fun (value, last) =>
          (behindWord [';'] (behindSpaces last)).map fun rest =>
            (text.length - rest.length, value)

def findForeignKeyDirectives (maskedSql : List Char) : List SqlDirective :=
  (matchAll FOREIGN_KEY_DIRECTIVE none 0 0 maskedSql).map fun found =>
    ⟨found.index, found.index + found.length, found.value⟩

/-- `/[A-Za-z_][A-Za-z0-9_]*|;/u` at a position. -/
def SQL_TOKEN (_ : Option Char) : List Char → Option (ℕ × List Char)
  | [] => none
  | c :: text =>
    if isLetter c then
      let word := c :: text.takeWhile isWordCharacter
      some (word.length, word)
    else if c = ';' then some (1, [';'])
    else none

/-- The loop variables of `findTransactionDirectives`. -/
structure Scan where
  directives : List SqlDirective := []
  atStatementStart : Bool := true
  current : Option (ℕ × List (List Char)) := none
  createPrefix : Option (List (List Char)) := none
  inTrigger : Bool := false
  triggerBodyStarted : Bool := false
  triggerCaseDepth : ℕ := 0
  triggerClosing : Bool := false

def malformedMigration : String := "Malformed migration transaction structure."

def TRANSACTION_WORDS : List (List Char) :=
  ["BEGIN".toList, "COMMIT".toList, "ROLLBACK".toList, "END".toList, "SAVEPOINT".toList,
    "RELEASE".toList]

def TEMPORARY_WORDS : List (List Char) := ["TEMP".toList, "TEMPORARY".toList]

def toUpperCase (word : List Char) : List Char := word.map Char.toUpper

def joined (words : List (List Char)) : List Char := [' '].intercalate words

/-- A token inside of a trigger. -/
def scanTriggerToken (scan : Scan) (token : List Char) : Except String Scan :=
  if token = [';'] then
    if scan.triggerClosing then
      .ok { scan with
        inTrigger := false, triggerBodyStarted := false, triggerCaseDepth := 0,
        triggerClosing := false, atStatementStart := true }
    else .ok scan
  else
    let word := toUpperCase token
    if scan.triggerBodyStarted = false then
      .ok (if word = "BEGIN".toList then { scan with triggerBodyStarted := true } else scan)
    else if scan.triggerClosing then .error malformedMigration
    else if word = "CASE".toList then
      .ok { scan with triggerCaseDepth := scan.triggerCaseDepth + 1 }
    else if word = "END".toList then
      .ok (if scan.triggerCaseDepth > 0 then
        { scan with triggerCaseDepth := scan.triggerCaseDepth - 1 }
      else { scan with triggerClosing := true })
    else .ok scan

/-- A word of a statement is added to its directive. -/
def pushWord (scan : Scan) (word : List Char) : Scan :=
  { scan with current := scan.current.map fun (start, words) => (start, words ++ [word]) }

/-- One turn of the loop. -/
def scanToken (scan : Scan) (found : Match (List Char)) : Except String Scan :=
  let token := found.value
  if scan.inTrigger then scanTriggerToken scan token
  else if token = [';'] then
    .ok { scan with
      directives := match scan.current with
        | some (start, words) => scan.directives ++ [⟨start, found.index + 1, joined words⟩]
        | none => scan.directives
      current := none, createPrefix := none, atStatementStart := true }
  else
    let word := toUpperCase token
    if scan.atStatementStart then
      if word = "CREATE".toList then
        .ok { scan with createPrefix := some [word], atStatementStart := false }
      else if word ∈ TRANSACTION_WORDS then
        .ok { scan with current := some (found.index, [word]), atStatementStart := false }
      else .ok { scan with atStatementStart := false }
    else match scan.createPrefix with
      | some words =>
        if word = "TRIGGER".toList ∧ (words.length = 1 ∨
            words.length = 2 ∧ ∃ temporary ∈ TEMPORARY_WORDS, words[1]? = some temporary) then
          .ok { scan with createPrefix := none, inTrigger := true }
        else if words.length = 1 ∧ word ∈ TEMPORARY_WORDS then
          .ok { scan with createPrefix := some (words ++ [word]) }
        else .ok (pushWord { scan with createPrefix := none } word)
      | none => .ok (pushWord scan word)

def findTransactionDirectives (maskedSql : List Char) : Except String (List SqlDirective) := do
  let scan ← (matchAll SQL_TOKEN none 0 0 maskedSql).foldlM scanToken {}
  if scan.inTrigger then .error malformedMigration
  else .ok (match scan.current with
    | some (start, words) => scan.directives ++ [⟨start, maskedSql.length, joined words⟩]
    | none => scan.directives)

/-! ### The script -/

structure ParsedMigrationScript where
  bodySql : List Char
  requiresForeignKeysOff : Bool
  hadTransactionEnvelope : Bool
  deriving DecidableEq

/-- `sql.slice(start, stop)`. -/
def slice (sql : List Char) (start stop : ℕ) : List Char := (sql.take stop).drop start

/-- `sql.trim()`. -/
def trimSql (sql : List Char) : List Char :=
  ((sql.dropWhile isJsSpace).reverse.dropWhile isJsSpace).reverse

def validateForeignKeyEnvelope (source : List Char) (directives : List SqlDirective)
    (beginStart commitEnd : ℕ) : Except String Bool :=
  match directives with
  | [] => .ok (isSqlTrivia (slice source 0 beginStart) && isSqlTrivia (source.drop commitEnd))
  | [disable, enable] =>
    if disable.value ≠ "OFF".toList ∨ enable.value ≠ "ON".toList then .error malformedMigration
    else if disable.stop > beginStart ∨ enable.start < commitEnd ∨
        isSqlTrivia (slice source 0 disable.start) = false ∨
        isSqlTrivia (slice source disable.stop beginStart) = false ∨
        isSqlTrivia (slice source commitEnd enable.start) = false ∨
        isSqlTrivia (source.drop enable.stop) = false then .error malformedMigration
    else .ok true
  | _ => .error malformedMigration

/-- A body that is not empty. -/
def bodied (sql : List Char) (requiresForeignKeysOff hadTransactionEnvelope : Bool) :
    Except String ParsedMigrationScript :=
  if trimSql sql = [] then .error malformedMigration
  else .ok ⟨trimSql sql, requiresForeignKeysOff, hadTransactionEnvelope⟩

def plainMigration (source : List Char) : Except String ParsedMigrationScript :=
  bodied source false false

/-- The script without a byte order mark. -/
def withoutMark (sql : List Char) : List Char :=
  match sql with
  | '\ufeff' :: source => source
  | source => source

def parseMigrationScript (sql : List Char) : Except String ParsedMigrationScript := do
  let source := withoutMark sql
  let masked := maskSqlLiteralsAndComments source
  let transactions ← findTransactionDirectives masked
  let foreignKeys := findForeignKeyDirectives masked
  match transactions with
  | [] =>
    match foreignKeys with
    | [] => plainMigration source
    | [enable] =>
      if enable.value = "ON".toList ∧ isSqlTrivia (slice source 0 enable.start) = true then
        plainMigration (source.drop enable.stop)
      else .error malformedMigration
    | [disable, enable] =>
      if disable.value = "OFF".toList ∧ enable.value = "ON".toList ∧
          isSqlTrivia (slice source 0 disable.start) = true ∧
          isSqlTrivia (source.drop enable.stop) = true then
        bodied (slice source disable.stop enable.start) true false
      else .error malformedMigration
    | _ => .error malformedMigration
  | [start, commit] =>
    if start.value ≠ "BEGIN IMMEDIATE".toList ∨ commit.value ≠ "COMMIT".toList then
      .error malformedMigration
    else if start.stop ≥ commit.start then .error malformedMigration
    else do
      let hasForeignKeyEnvelope ←
        validateForeignKeyEnvelope source foreignKeys start.start commit.stop
      bodied (slice source start.stop commit.start) hasForeignKeyEnvelope true
  | _ => .error malformedMigration

end AutoTrade.Db.MigrationScript
