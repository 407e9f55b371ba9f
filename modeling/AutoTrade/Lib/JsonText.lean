import AutoTrade.Lib.Decimal
import AutoTrade.Lib.Json
import AutoTrade.Lib.Table
import AutoTrade.Lib.Text

/-! # JSON texts

`JSON.stringify` and `JSON.parse` over any type of numbers whose texts the parser reads back. A text
is scanned into UTF-16 code units first, as in ECMAScript; a value whose texts are no sequences of
characters (a surrogate that stands alone) is not read.

`parse_stringify`: a value in which every object has each name once is read back from its text. -/

namespace AutoTrade.Lib.JsonText

open Lib.Decimal Lib.Json Lib.Table Lib.Text

/-! ### Numbers -/

/-- The text after a number: it ends, or goes on with what may follow a value. -/
def Delimited (rest : List Char) : Prop := ∀ c ∈ rest.head?, c = ',' ∨ c = ']' ∨ c = '\x7d'

/-- How numbers are written, and what the parser takes for a number at the front of a text. -/
structure NumberSyntax (Num : Type) where
  print : Num → List Char
  scan : List Char → Option (Num × List Char)
  print_head : ∀ n, ∃ c rest, print n = c :: rest ∧ (c = '-' ∨ c.isDigit = true)
  scan_print : ∀ n rest, Delimited rest → scan (print n ++ rest) = some (n, rest)

variable {Num : Type} (N : NumberSyntax Num)

/-! ### Writing -/

def quoted (text : String) : List Char := '"' :: (text.toList.flatMap jsonEscape ++ ['"'])

mutual

def print : JsonValue Num → List Char
  | .null => ['n', 'u', 'l', 'l']
  | .bool true => ['t', 'r', 'u', 'e']
  | .bool false => ['f', 'a', 'l', 's', 'e']
  | .number n => N.print n
  | .text text => quoted text
  | .array items => '[' :: ((printItems items).tail ++ [']'])
  | .object fields => '\x7b' :: ((printFields fields).tail ++ ['\x7d'])

/-- The items, each after a comma. -/
def printItems : List (JsonValue Num) → List Char
  | [] => []
  | value :: rest => ',' :: (print value ++ printItems rest)

/-- The fields, each after a comma. -/
def printFields : List (String × JsonValue Num) → List Char
  | [] => []
  | (name, value) :: rest => ',' :: (quoted name ++ ':' :: (print value ++ printFields rest))

end

/-- `JSON.stringify(value)`. -/
def stringify (value : JsonValue Num) : String := String.ofList (print N value)

/-! ### Reading texts -/

def isJsonSpace (c : Char) : Bool := c = ' ' ∨ c = '\t' ∨ c = '\n' ∨ c = '\r'

def skipSpace (chars : List Char) : List Char := chars.dropWhile isJsonSpace

def hexValue (c : Char) : Option ℕ :=
  if c.isDigit then some (c.toNat - 48)
  else if 'a' ≤ c ∧ c ≤ 'f' then some (c.toNat - 87)
  else if 'A' ≤ c ∧ c ≤ 'F' then some (c.toNat - 55)
  else none

/-- The code unit of `\uabcd`. -/
def hexUnit (a b c d : Char) : Option ℕ := do
  some (4096 * (← hexValue a) + 256 * (← hexValue b) + 16 * (← hexValue c) + (← hexValue d))

/-- The code unit of an escape of one character. -/
def escapeUnit (c : Char) : Option ℕ :=
  if c = '"' ∨ c = '\\' ∨ c = '/' then some c.toNat
  else if c = 'b' then some 8
  else if c = 'f' then some 12
  else if c = 'n' then some 10
  else if c = 'r' then some 13
  else if c = 't' then some 9
  else none

/-- The code units of a text up to its closing quote. -/
def scanUnits : List Char → Option (List ℕ × List Char)
  | [] => none
  | '\\' :: 'u' :: a :: b :: c :: d :: rest => do
    let unit ← hexUnit a b c d
    let (units, rest) ← scanUnits rest
    some (unit :: units, rest)
  | '\\' :: c :: rest => do
    let unit ← escapeUnit c
    let (units, rest) ← scanUnits rest
    some (unit :: units, rest)
  | c :: rest =>
    if c = '"' then some ([], rest)
    else if c.toNat < 0x20 then none
    else do
      let (units, rest) ← scanUnits rest
      some (charUnits c ++ units, rest)

/-- The characters of code units. -/
def decodeUnits : List ℕ → Option (List Char)
  | [] => some []
  | unit :: rest =>
    if unit < 0xd800 ∨ 0xdfff < unit then (decodeUnits rest).map (Char.ofNat unit :: ·)
    else match rest with
    | [] => none
    | low :: rest =>
      if unit < 0xdc00 ∧ 0xdc00 ≤ low ∧ low ≤ 0xdfff then
        (decodeUnits rest).map
          (Char.ofNat (0x10000 + (unit - 0xd800) * 0x400 + (low - 0xdc00)) :: ·)
      else none

/-- The text after its opening quote. -/
def scanText (chars : List Char) : Option (String × List Char) := do
  let (units, rest) ← scanUnits chars
  let text ← decodeUnits units
  some (String.ofList text, rest)

/-! ### Reading values -/

mutual

/-- A value at the front of the text. Every level reads a character, so the length of the text is
enough fuel. -/
def scanValue : ℕ → List Char → Option (JsonValue Num × List Char)
  | 0, _ => none
  | fuel + 1, chars =>
    match skipSpace chars with
    | 'n' :: 'u' :: 'l' :: 'l' :: rest => some (.null, rest)
    | 't' :: 'r' :: 'u' :: 'e' :: rest => some (.bool true, rest)
    | 'f' :: 'a' :: 'l' :: 's' :: 'e' :: rest => some (.bool false, rest)
    | '"' :: rest => (scanText rest).map fun r => (.text r.1, r.2)
    | '[' :: rest =>
      match skipSpace rest with
      | ']' :: rest => some (.array [], rest)
      | rest => do
        let (value, rest) ← scanValue fuel rest
        let (items, rest) ← scanItems fuel rest
        some (.array (value :: items), rest)
    | '\x7b' :: rest =>
      match skipSpace rest with
      | '\x7d' :: rest => some (.object [], rest)
      | rest => do
        let (field, rest) ← scanField fuel rest
        let (fields, rest) ← scanFields fuel rest
        some (.object ((field :: fields).foldl (fun fields field => upsert Prod.fst field fields) []),
          rest)
    | rest => (N.scan rest).map fun r => (.number r.1, r.2)

/-- The rest of an array after a value. -/
def scanItems : ℕ → List Char → Option (List (JsonValue Num) × List Char)
  | 0, _ => none
  | fuel + 1, chars =>
    match skipSpace chars with
    | ']' :: rest => some ([], rest)
    | ',' :: rest => do
      let (value, rest) ← scanValue fuel rest
      let (items, rest) ← scanItems fuel rest
      some (value :: items, rest)
    | _ => none

/-- A name and its value. -/
def scanField : ℕ → List Char → Option ((String × JsonValue Num) × List Char)
  | 0, _ => none
  | fuel + 1, chars =>
    match skipSpace chars with
    | '"' :: rest => do
      let (name, rest) ← scanText rest
      match skipSpace rest with
      | ':' :: rest => do
        let (value, rest) ← scanValue fuel rest
        some ((name, value), rest)
      | _ => none
    | _ => none

/-- The rest of an object after a field. -/
def scanFields : ℕ → List Char → Option (List (String × JsonValue Num) × List Char)
  | 0, _ => none
  | fuel + 1, chars =>
    match skipSpace chars with
    | '\x7d' :: rest => some ([], rest)
    | ',' :: rest => do
      let (field, rest) ← scanField fuel rest
      let (fields, rest) ← scanFields fuel rest
      some (field :: fields, rest)
    | _ => none

end

/-- `JSON.parse(text)`; `none` is a `SyntaxError`. -/
def parse (text : String) : Option (JsonValue Num) :=
  match scanValue N (text.length + 1) text.toList with
  | some (value, rest) => if skipSpace rest = [] then some value else none
  | none => none

/-! ### Texts are read back -/

variable (c : Char)

theorem toNat_valid : c.toNat < 0xd800 ∨ (0xdfff < c.toNat ∧ c.toNat < 0x110000) := c.valid

theorem hexValue_hexDigit : ∀ n < 16, hexValue (hexDigit n) = some n := by decide

theorem decodeUnits_charUnits (rest : List ℕ) :
    decodeUnits (charUnits c ++ rest) = (decodeUnits rest).map (c :: ·) := by
  have hvalid := toNat_valid c
  unfold charUnits
  split
  · have hsingle : c.toNat < 0xd800 ∨ 0xdfff < c.toNat := by omega
    rw [List.singleton_append, decodeUnits.eq_def]
    dsimp only
    rw [if_pos hsingle, Char.ofNat_toNat]
  · have hpair : ¬ (0xd800 + (c.toNat - 0x10000) / 0x400 < 0xd800 ∨
        0xdfff < 0xd800 + (c.toNat - 0x10000) / 0x400) := by omega
    have hlow : 0xd800 + (c.toNat - 0x10000) / 0x400 < 0xdc00 ∧
        0xdc00 ≤ 0xdc00 + (c.toNat - 0x10000) % 0x400 ∧
        0xdc00 + (c.toNat - 0x10000) % 0x400 ≤ 0xdfff := by omega
    have hcode : 0x10000 + (0xd800 + (c.toNat - 0x10000) / 0x400 - 0xd800) * 0x400 +
        (0xdc00 + (c.toNat - 0x10000) % 0x400 - 0xdc00) = c.toNat := by omega
    rw [List.cons_append, List.singleton_append, decodeUnits.eq_def]
    dsimp only
    rw [if_neg hpair, if_pos hlow, hcode, Char.ofNat_toNat]

theorem decodeUnits_flatMap (chars : List Char) : decodeUnits (chars.flatMap charUnits) = some chars := by
  induction chars with
  | nil => rfl
  | cons c chars ih => rw [List.flatMap_cons, decodeUnits_charUnits, ih, Option.map_some]

theorem scanUnits_escape {c e : Char} (hunit : escapeUnit e = some c.toNat) (hu : e ≠ 'u')
    (rest : List Char) :
    scanUnits ('\\' :: e :: rest) = (scanUnits rest).map fun r => (c.toNat :: r.1, r.2) := by
  rw [scanUnits.eq_def]
  split
  · cases ‹_ :: _ = []›
  · exact absurd (List.cons.inj (List.cons.inj ‹_›).2).1 hu
  · obtain ⟨rfl, rfl⟩ := List.cons.inj (List.cons.inj ‹_›).2
    rw [hunit]
    cases hrest : scanUnits rest <;> rfl
  · rename_i hnone heq
    obtain ⟨hc, hrest⟩ := List.cons.inj heq
    exact (hnone _ _ hc.symm hrest.symm).elim

/-- A written character is scanned into its code units. -/
theorem scanUnits_jsonEscape (rest : List Char) :
    scanUnits (jsonEscape c ++ rest) =
      (scanUnits rest).map fun r => (charUnits c ++ r.1, r.2) := by
  unfold jsonEscape
  split_ifs with hquote hslash hb hf hn hr ht hcontrol
  · subst hquote
    exact scanUnits_escape (by decide) (by decide) rest
  · subst hslash
    exact scanUnits_escape (by decide) (by decide) rest
  · subst hb
    exact scanUnits_escape (by decide) (by decide) rest
  · subst hf
    exact scanUnits_escape (by decide) (by decide) rest
  · subst hn
    exact scanUnits_escape (by decide) (by decide) rest
  · subst hr
    exact scanUnits_escape (by decide) (by decide) rest
  · subst ht
    exact scanUnits_escape (by decide) (by decide) rest
  · have hhigh := hexValue_hexDigit (c.toNat / 16) (by omega)
    have hlow := hexValue_hexDigit (c.toNat % 16) (by omega)
    have hunits : charUnits c = [c.toNat] := if_pos (by omega)
    have hunit : hexUnit '0' '0' (hexDigit (c.toNat / 16)) (hexDigit (c.toNat % 16)) =
        some c.toNat := by
      have hzero : hexValue '0' = some 0 := by decide
      have hcode : 4096 * 0 + 256 * 0 + 16 * (c.toNat / 16) + c.toNat % 16 = c.toNat := by omega
      unfold hexUnit
      rw [hzero, hhigh, hlow]
      exact congrArg some hcode
    rw [hunits]
    simp only [List.cons_append, List.nil_append, scanUnits]
    rw [hunit]
    cases hrest : scanUnits rest <;> rfl
  · rw [List.singleton_append, scanUnits.eq_def]
    split
    · cases ‹_ :: _ = []›
    · exact absurd (List.cons.inj ‹_›).1 hslash
    · exact absurd (List.cons.inj ‹_›).1 hslash
    · obtain ⟨rfl, rfl⟩ := List.cons.inj ‹_›
      rw [if_neg hquote, if_neg hcontrol]
      cases hrest : scanUnits rest <;> rfl

theorem scanUnits_quoted (chars rest : List Char) :
    scanUnits (chars.flatMap jsonEscape ++ '"' :: rest) = some (chars.flatMap charUnits, rest) := by
  induction chars with
  | nil => rfl
  | cons c chars ih =>
    rw [List.flatMap_cons, List.append_assoc, scanUnits_jsonEscape, ih]
    rfl

/-- **A written text is read back.** -/
theorem scanText_quoted (text : String) (rest : List Char) :
    scanText (text.toList.flatMap jsonEscape ++ '"' :: rest) = some (text, rest) := by
  unfold scanText
  rw [scanUnits_quoted]
  change (decodeUnits _ >>= _) = _
  rw [decodeUnits_flatMap]
  change some (String.ofList text.toList, rest) = _
  rw [String.ofList_toList]

/-! ### Values are read back -/

mutual

/-- Every object has each of its names once. -/
def NamedOnce : JsonValue Num → Prop
  | .array items => NamedOnceItems items
  | .object fields => (fields.map Prod.fst).Nodup ∧ NamedOnceFields fields
  | _ => True

def NamedOnceItems : List (JsonValue Num) → Prop
  | [] => True
  | value :: rest => NamedOnce value ∧ NamedOnceItems rest

def NamedOnceFields : List (String × JsonValue Num) → Prop
  | [] => True
  | (_, value) :: rest => NamedOnce value ∧ NamedOnceFields rest

end

theorem upsert_of_fresh {fields : List (String × JsonValue Num)} {field : String × JsonValue Num}
    (h : field.1 ∉ fields.map Prod.fst) : upsert Prod.fst field fields = fields ++ [field] := by
  have hnone : select Prod.fst field.1 fields = none := by
    rw [select, List.find?_eq_none]
    intro entry hentry
    rw [decide_eq_true_eq]
    rintro hname
    exact h (List.mem_map.mpr ⟨entry, hentry, hname⟩)
  rw [upsert, hnone]
  rfl

theorem foldl_upsert : ∀ (fields kept : List (String × JsonValue Num)),
    ((kept ++ fields).map Prod.fst).Nodup →
      fields.foldl (fun fields field => upsert Prod.fst field fields) kept = kept ++ fields
  | [], kept, _ => (List.append_nil kept).symm
  | field :: fields, kept, h => by
    have hfresh : field.1 ∉ kept.map Prod.fst := by
      rw [List.map_append, List.map_cons, List.nodup_append] at h
      intro hmem
      exact h.2.2 _ hmem _ List.mem_cons_self rfl
    rw [List.foldl_cons, upsert_of_fresh hfresh, foldl_upsert fields (kept ++ [field])]
    · rw [List.append_assoc, List.singleton_append]
    · rw [List.append_assoc, List.singleton_append]
      exact h

theorem skipSpace_cons {c : Char} (h : isJsonSpace c = false) (rest : List Char) :
    skipSpace (c :: rest) = c :: rest := by
  rw [skipSpace, List.dropWhile_cons, h]
  rfl

/-- The first characters that a written value can have. -/
def StartsValue (c : Char) : Prop :=
  c = 'n' ∨ c = 't' ∨ c = 'f' ∨ c = '"' ∨ c = '[' ∨ c = '\x7b' ∨ c = '-' ∨ c.isDigit = true

theorem StartsValue.not_space {c : Char} (h : StartsValue c) :
    isJsonSpace c = false ∧ c ≠ ']' ∧ c ≠ '\x7d' := by
  rcases h with rfl | rfl | rfl | rfl | rfl | rfl | rfl | hdigit
  all_goals try decide
  refine ⟨?_, ?_, ?_⟩
  · simp only [isJsonSpace, decide_eq_false_iff_not]
    rintro (rfl | rfl | rfl | rfl) <;> exact absurd hdigit (by decide)
  · rintro rfl
    exact absurd hdigit (by decide)
  · rintro rfl
    exact absurd hdigit (by decide)

theorem print_head (value : JsonValue Num) :
    ∃ c rest, print N value = c :: rest ∧ StartsValue c := by
  unfold StartsValue
  cases value with
  | null => exact ⟨'n', _, rfl, by decide⟩
  | bool value => cases value with
    | false => exact ⟨'f', _, rfl, by decide⟩
    | true => exact ⟨'t', _, rfl, by decide⟩
  | number n =>
    obtain ⟨c, rest, hprint, hc⟩ := N.print_head n
    rw [print, hprint]
    exact ⟨c, rest, rfl, by tauto⟩
  | text text => exact ⟨'"', _, rfl, by decide⟩
  | array items => exact ⟨'[', _, rfl, by decide⟩
  | object fields => exact ⟨'\x7b', _, rfl, by decide⟩

variable {rest : List Char}

theorem scanValue_number (n : Num) (fuel : ℕ) (hrest : Delimited rest) :
    scanValue N (fuel + 1) (N.print n ++ rest) = some (.number n, rest) := by
  obtain ⟨c, digits, hprint, hc⟩ := N.print_head n
  have hscan := N.scan_print n rest hrest
  have hspace : isJsonSpace c = false := (StartsValue.not_space (by unfold StartsValue; tauto)).1
  rw [hprint, List.cons_append] at hscan ⊢
  have hne : c ≠ 'n' ∧ c ≠ 't' ∧ c ≠ 'f' ∧ c ≠ '"' ∧ c ≠ '[' ∧ c ≠ '\x7b' := by
    rcases hc with rfl | hc
    · decide
    · refine ⟨?_, ?_, ?_, ?_, ?_, ?_⟩ <;> (rintro rfl; exact absurd hc (by decide))
  obtain ⟨hn, ht, hf, hquote, hbracket, hbrace⟩ := hne
  rw [scanValue, skipSpace_cons hspace]
  split
  · exact absurd (List.cons.inj ‹_›).1 hn
  · exact absurd (List.cons.inj ‹_›).1 ht
  · exact absurd (List.cons.inj ‹_›).1 hf
  · exact absurd (List.cons.inj ‹_›).1 hquote
  · exact absurd (List.cons.inj ‹_›).1 hbracket
  · exact absurd (List.cons.inj ‹_›).1 hbrace
  · rw [hscan]
    rfl

theorem delimited_items (items : List (JsonValue Num)) (rest : List Char) :
    Delimited (printItems N items ++ ']' :: rest) := by
  intro c hc
  cases items with
  | nil => exact Or.inr (Or.inl (Option.some.inj hc).symm)
  | cons value items => exact Or.inl (Option.some.inj hc).symm

theorem delimited_fields (fields : List (String × JsonValue Num)) (rest : List Char) :
    Delimited (printFields N fields ++ '\x7d' :: rest) := by
  intro c hc
  cases fields with
  | nil => exact Or.inr (Or.inr (Option.some.inj hc).symm)
  | cons field fields => exact Or.inl (Option.some.inj hc).symm

variable {value : JsonValue Num}

theorem scanField_print (name : String) {fuel : ℕ}
    (hvalue : scanValue N fuel (print N value ++ rest) = some (value, rest)) :
    scanField N (fuel + 1) (quoted name ++ ':' :: (print N value ++ rest)) =
      some ((name, value), rest) := by
  have htext : quoted name ++ ':' :: (print N value ++ rest) =
      '"' :: (name.toList.flatMap jsonEscape ++ '"' :: ':' :: (print N value ++ rest)) := by
    simp [quoted]
  rw [htext, scanField, skipSpace_cons (by decide)]
  change (scanText _ >>= _) = _
  rw [scanText_quoted]
  change (scanValue N fuel (print N value ++ rest) >>= _) = _
  rw [hvalue]
  rfl

mutual

/-- **A written value is scanned, up to what follows it.** -/
theorem scanValue_print : ∀ (value : JsonValue Num) (fuel : ℕ) (rest : List Char),
    NamedOnce value → (print N value).length ≤ fuel → Delimited rest →
      scanValue N fuel (print N value ++ rest) = some (value, rest)
  | value, 0, rest, _, hfuel, _ => by
    obtain ⟨c, chars, hprint, -⟩ := print_head N value
    rw [hprint] at hfuel
    exact absurd hfuel (by simp)
  | .null, fuel + 1, rest, _, _, _ => rfl
  | .bool true, fuel + 1, rest, _, _, _ => rfl
  | .bool false, fuel + 1, rest, _, _, _ => rfl
  | .number n, fuel + 1, rest, _, _, hrest => scanValue_number N n fuel hrest
  | .text text, fuel + 1, rest, _, _, _ => by
    have htext : print N (.text text) ++ rest =
        '"' :: (text.toList.flatMap jsonEscape ++ '"' :: rest) := by
      simp [print, quoted]
    rw [htext, scanValue, skipSpace_cons (by decide)]
    change Option.map _ (scanText _) = _
    rw [scanText_quoted]
    rfl
  | .array [], fuel + 1, rest, _, _, _ => rfl
  | .array (value :: items), fuel + 1, rest, hnamed, hfuel, hrest => by
    obtain ⟨hvalue, hitems⟩ := hnamed
    have hlength : (print N value).length + (printItems N items).length + 2 ≤ fuel + 1 := by
      simp only [print, printItems, List.tail_cons, List.length_cons, List.length_append,
        List.length_nil] at hfuel
      omega
    have hscan := scanValue_print value fuel (printItems N items ++ ']' :: rest) hvalue (by omega)
      (delimited_items N items rest)
    have hmore := scanItems_print items fuel rest hitems (by omega)
    obtain ⟨c, chars, hprint, hc⟩ := print_head N value
    obtain ⟨hspace, hbracket, -⟩ := hc.not_space
    have htext : print N (.array (value :: items)) ++ rest =
        '[' :: (print N value ++ (printItems N items ++ ']' :: rest)) := by
      simp [print, printItems]
    have hstart : skipSpace (print N value ++ (printItems N items ++ ']' :: rest)) =
        print N value ++ (printItems N items ++ ']' :: rest) := by
      rw [hprint, List.cons_append, skipSpace_cons hspace]
    rw [htext, scanValue, skipSpace_cons (by decide)]
    change (match skipSpace (print N value ++ (printItems N items ++ ']' :: rest)) with
      | ']' :: rest => some (JsonValue.array [], rest)
      | rest => _) = _
    rw [hstart]
    split
    · rw [hprint] at *
      exact absurd (List.cons.inj ‹_›).1 hbracket
    · rw [hscan]
      change (scanItems N fuel _ >>= _) = _
      rw [hmore]
      rfl
  | .object [], fuel + 1, rest, _, _, _ => rfl
  | .object ((name, value) :: fields), fuel + 1, rest, hnamed, hfuel, hrest => by
    obtain ⟨honce, hvalue, hfields⟩ := hnamed
    have hlength : (quoted name).length + (print N value).length + (printFields N fields).length +
        3 ≤ fuel + 1 := by
      simp only [print, printFields, List.tail_cons, List.length_cons, List.length_append,
        List.length_nil] at hfuel
      omega
    obtain ⟨fuel, rfl⟩ : ∃ lower, fuel = lower + 1 := ⟨fuel - 1, by omega⟩
    have hscan := scanField_print N name (scanValue_print value fuel
      (printFields N fields ++ '\x7d' :: rest) hvalue (by omega) (delimited_fields N fields rest))
    have hmore := scanFields_print fields (fuel + 1) rest hfields (by omega)
    have htext : print N (.object ((name, value) :: fields)) ++ rest = '\x7b' ::
        (quoted name ++ ':' :: (print N value ++ (printFields N fields ++ '\x7d' :: rest))) := by
      simp [print, printFields]
    rw [htext, scanValue, skipSpace_cons (by decide)]
    change (scanField N (fuel + 1) (quoted name ++ _) >>= _) = _
    rw [hscan]
    change (scanFields N (fuel + 1) _ >>= _) = _
    rw [hmore]
    change some (JsonValue.object (((name, value) :: fields).foldl _ []), rest) = _
    rw [foldl_upsert _ [] honce]
    rfl

theorem scanItems_print : ∀ (items : List (JsonValue Num)) (fuel : ℕ) (rest : List Char),
    NamedOnceItems items → (printItems N items).length + 1 ≤ fuel →
      scanItems N fuel (printItems N items ++ ']' :: rest) = some (items, rest)
  | items, 0, rest, _, hfuel => absurd hfuel (by omega)
  | [], fuel + 1, rest, _, _ => rfl
  | value :: items, fuel + 1, rest, hnamed, hfuel => by
    obtain ⟨hvalue, hitems⟩ := hnamed
    simp only [printItems, List.length_cons, List.length_append] at hfuel
    have hscan := scanValue_print value fuel (printItems N items ++ ']' :: rest) hvalue (by omega)
      (delimited_items N items rest)
    have hmore := scanItems_print items fuel rest hitems (by omega)
    rw [printItems, List.cons_append, List.append_assoc, scanItems, skipSpace_cons (by decide)]
    change (scanValue N fuel _ >>= _) = _
    rw [hscan]
    change (scanItems N fuel _ >>= _) = _
    rw [hmore]
    rfl

theorem scanFields_print : ∀ (fields : List (String × JsonValue Num)) (fuel : ℕ)
    (rest : List Char), NamedOnceFields fields → (printFields N fields).length + 1 ≤ fuel →
      scanFields N fuel (printFields N fields ++ '\x7d' :: rest) = some (fields, rest)
  | fields, 0, rest, _, hfuel => absurd hfuel (by omega)
  | [], fuel + 1, rest, _, _ => rfl
  | (name, value) :: fields, fuel + 1, rest, hnamed, hfuel => by
    obtain ⟨hvalue, hfields⟩ := hnamed
    simp only [printFields, List.length_cons, List.length_append] at hfuel
    obtain ⟨fuel, rfl⟩ : ∃ lower, fuel = lower + 1 := ⟨fuel - 1, by omega⟩
    have hscan := scanField_print N name (scanValue_print value fuel
      (printFields N fields ++ '\x7d' :: rest) hvalue (by omega) (delimited_fields N fields rest))
    have hmore := scanFields_print fields (fuel + 1) rest hfields (by omega)
    have htext : printFields N ((name, value) :: fields) ++ '\x7d' :: rest = ',' ::
        (quoted name ++ ':' :: (print N value ++ (printFields N fields ++ '\x7d' :: rest))) := by
      simp [printFields]
    rw [htext, scanFields, skipSpace_cons (by decide)]
    change (scanField N (fuel + 1) _ >>= _) = _
    rw [hscan]
    change (scanFields N (fuel + 1) _ >>= _) = _
    rw [hmore]
    rfl

end

/-- **The text of a value is read back as the value.** -/
theorem parse_stringify (h : NamedOnce value) : parse N (stringify N value) = some value := by
  have hscan := scanValue_print N value ((print N value).length + 1) [] h (by omega)
    (fun c hc => by cases hc)
  rw [List.append_nil] at hscan
  unfold parse stringify
  rw [String.length_ofList, String.toList_ofList, hscan]
  rfl

/-! ### Integers -/

def printInteger (n : ℤ) : List Char :=
  if n < 0 then '-' :: Nat.toDigits 10 n.natAbs else Nat.toDigits 10 n.natAbs

/-- The digits at the front of the text, without a zero before other digits. -/
def scanNatural (chars : List Char) : Option (ℕ × List Char) :=
  let digits := chars.takeWhile Char.isDigit
  if digits = [] ∨ (digits.head? = some '0' ∧ digits ≠ ['0']) then none
  else some (Nat.ofDigitChars 10 digits 0, chars.dropWhile Char.isDigit)

def scanInteger : List Char → Option (ℤ × List Char)
  | '-' :: rest => (scanNatural rest).map fun r => (-(r.1 : ℤ), r.2)
  | chars => (scanNatural chars).map fun r => ((r.1 : ℤ), r.2)

theorem toDigits_head_isDigit (n : ℕ) :
    ∃ c rest, Nat.toDigits 10 n = c :: rest ∧ c.isDigit = true := by
  have hall := toDigits_all_isDigit n
  cases hdigits : Nat.toDigits 10 n with
  | nil => exact absurd hdigits Nat.toDigits_ne_nil
  | cons c rest =>
    rw [hdigits, List.all_cons, Bool.and_eq_true] at hall
    exact ⟨c, rest, rfl, hall.1⟩

theorem scanNatural_toDigits (n : ℕ) (hrest : Delimited rest) :
    scanNatural (Nat.toDigits 10 n ++ rest) = some (n, rest) := by
  have hall := List.all_eq_true.mp (toDigits_all_isDigit n)
  have hstop : rest.takeWhile Char.isDigit = [] ∧ rest.dropWhile Char.isDigit = rest := by
    cases rest with
    | nil => exact ⟨rfl, rfl⟩
    | cons c rest =>
      have hc : c.isDigit = false := by
        rcases hrest c rfl with rfl | rfl | rfl <;> decide
      rw [List.takeWhile_cons, List.dropWhile_cons, hc]
      exact ⟨rfl, rfl⟩
  have htake : (Nat.toDigits 10 n ++ rest).takeWhile Char.isDigit = Nat.toDigits 10 n := by
    rw [List.takeWhile_append_of_pos hall, hstop.1, List.append_nil]
  have hdrop : (Nat.toDigits 10 n ++ rest).dropWhile Char.isDigit = rest := by
    rw [List.dropWhile_append_of_pos hall, hstop.2]
  have hplain : ¬ (Nat.toDigits 10 n = [] ∨
      ((Nat.toDigits 10 n).head? = some '0' ∧ Nat.toDigits 10 n ≠ ['0'])) := by
    rintro (hnil | ⟨hzero, hne⟩)
    · exact Nat.toDigits_ne_nil hnil
    · rcases Nat.eq_zero_or_pos n with rfl | hpos
      · exact hne rfl
      · exact toDigits_head_ne_zero hpos hzero
  unfold scanNatural
  dsimp only
  rw [htake, if_neg hplain, hdrop, Nat.ofDigitChars_ten_toDigits]

/-- The integers, as JSON writes them. -/
def integers : NumberSyntax ℤ where
  print := printInteger
  scan := scanInteger
  print_head n := by
    obtain ⟨c, rest, hdigits, hc⟩ := toDigits_head_isDigit n.natAbs
    unfold printInteger
    split
    · exact ⟨'-', _, rfl, Or.inl rfl⟩
    · exact ⟨c, rest, hdigits, Or.inr hc⟩
  scan_print n rest hrest := by
    obtain ⟨c, digits, hdigits, hc⟩ := toDigits_head_isDigit n.natAbs
    have hscan := scanNatural_toDigits n.natAbs hrest
    unfold printInteger
    split
    · rw [List.cons_append, scanInteger, hscan]
      simp only [Option.map_some, Option.some.injEq, Prod.mk.injEq, and_true]
      omega
    · have hsign : ∀ chars, Nat.toDigits 10 n.natAbs ++ rest = '-' :: chars → False := by
        intro chars h
        rw [hdigits, List.cons_append] at h
        rw [(List.cons.inj h).1] at hc
        exact absurd hc (by decide)
      rw [scanInteger.eq_2 _ hsign, hscan]
      simp only [Option.map_some, Option.some.injEq, Prod.mk.injEq, and_true]
      omega

end AutoTrade.Lib.JsonText
