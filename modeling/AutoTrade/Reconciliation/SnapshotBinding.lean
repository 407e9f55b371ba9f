import AutoTrade.Reconciliation.Snapshots

/-! # Snapshots are bound by their numbers

`bindExchangeOrderSnapshot` compares decimals as texts, after it has rewritten both of them. Two
rewritten texts are the same exactly when the numbers are: a decimal without leading zeros and without
zeros at the end is determined by its number (`text_eq_iff`).

* `normalize_eq_iff`, `canonicalize_eq_iff`: the two rewritings against numeric equality.
* `bind_iff_same_numbers`: what is accepted, and that every other spelling of an order written by the
  serializer of the exchange is. -/

namespace AutoTrade.Reconciliation.SnapshotBinding

open Lib.Decimal Lib.NumberText Domain.Types
open Reconciliation.Snapshots
open Execution.OrderDecimals Execution.EvidenceDecimals

/-! ### Canonical texts of digits -/

variable {chars : List Char}

theorem digits_of_isDigits (h : isDigits chars = true) :
    chars ≠ [] ∧ chars.all Char.isDigit = true := by
  simpa only [isDigits, decide_eq_true_eq] using h

/-- Without its leading zeros a run of digits is a numeral of the same number. -/
theorem stripLeadingZeros_spec (h : isDigits chars = true) :
    isNumeral (stripLeadingZeros chars) = true ∧ ∀ rest,
      Nat.ofDigitChars 10 (stripLeadingZeros chars ++ rest) 0 =
        Nat.ofDigitChars 10 (chars ++ rest) 0 := by
  obtain ⟨hne, hall⟩ := digits_of_isDigits h
  induction chars with
  | nil => exact absurd rfl hne
  | cons first tail ih =>
    rw [List.all_cons, Bool.and_eq_true] at hall
    obtain ⟨hfirst, htail⟩ := hall
    by_cases hzero : first = '0'
    · subst hzero
      rcases tail with _ | ⟨digit, tail⟩
      · exact ⟨by decide, fun _ => rfl⟩
      · have hdigit : digit.isDigit = true := by
          rw [List.all_cons, Bool.and_eq_true] at htail
          exact htail.1
        have hrest : isDigits (digit :: tail) = true := by
          simp only [isDigits, decide_eq_true_eq]
          exact ⟨List.cons_ne_nil _ _, htail⟩
        have hstrip : stripLeadingZeros ('0' :: digit :: tail) =
            stripLeadingZeros (digit :: tail) := by
          rw [stripLeadingZeros, if_pos hdigit]
        obtain ⟨hnumeral, hvalue⟩ := ih hrest (List.cons_ne_nil _ _) htail
        rw [hstrip]
        refine ⟨hnumeral, fun rest => ?_⟩
        rw [hvalue rest]
        show _ = Nat.ofDigitChars 10 ('0' :: (digit :: tail ++ rest)) 0
        rw [Nat.ofDigitChars_cons]
        rfl
    · have hpositive : isNumeral (first :: tail) = true := by
        simp only [isNumeral, isPositiveNumeral, decide_eq_true_eq]
        refine Or.inr ⟨List.cons_ne_nil _ _, ?_, ?_⟩
        · rw [List.head?_cons]
          exact fun h => hzero (Option.some.inj h)
        · rw [List.all_cons, hfirst, htail]
          rfl
      rw [stripLeadingZeros_of_isNumeral hpositive]
      exact ⟨hpositive, fun _ => rfl⟩

variable {whole fraction : List Char}

theorem trimmed_spec (hwhole : isDigits whole = true)
    (hfraction : fraction.all Char.isDigit = true) :
    isCanonicalNonNegative (joinPoint (stripLeadingZeros whole) (stripZeros fraction)) = true ∧
      decimalValue (joinPoint (stripLeadingZeros whole) (stripZeros fraction)) =
        (Nat.ofDigitChars 10 (whole ++ fraction) 0 : ℚ) / 10 ^ fraction.length := by
  obtain ⟨hnumeral, hvalue⟩ := stripLeadingZeros_spec hwhole
  have hall := all_of_isNumeral hnumeral
  constructor
  · simp only [isCanonicalNonNegative, decide_eq_true_eq]
    rw [wholePart_joinPoint hall]
    exact ⟨hnumeral, trimmed_joinPoint_stripZeros hall hfraction⟩
  · rw [decimalValue_joinPoint_stripZeros hall, hvalue]

/-- **A canonical text is determined by its number.** -/
theorem text_eq_iff {t t' : String} (h : isCanonicalNonNegative t.toList = true)
    (h' : isCanonicalNonNegative t'.toList = true) :
    t = t' ↔ decimalValue t.toList = decimalValue t'.toList := by
  rw [← routingNumber_of_canonical h, ← routingNumber_of_canonical h', ← value_parse, ← value_parse,
    ← format_eq_iff, format_parse h, format_parse h']

/-! ### Truncation -/

/-- Cutting the digits behind some place cuts the number at that place. -/
theorem ofDigitChars_take (hfraction : fraction.all Char.isDigit = true) (places : ℕ) :
    (Nat.ofDigitChars 10 (whole ++ fraction.take places) 0 : ℚ) / 10 ^ (fraction.take places).length =
      (⌊(Nat.ofDigitChars 10 (whole ++ fraction) 0 : ℚ) / 10 ^ fraction.length * 10 ^ places⌋ : ℚ) /
        10 ^ places := by
  rcases Nat.lt_or_ge fraction.length places with hshort | hlong
  · rw [List.take_of_length_le hshort.le]
    have hint : (Nat.ofDigitChars 10 (whole ++ fraction) 0 : ℚ) / 10 ^ fraction.length *
        10 ^ places = ((Nat.ofDigitChars 10 (whole ++ fraction) 0 *
          10 ^ (places - fraction.length) : ℕ) : ℚ) := by
      have hpow : (10 : ℚ) ^ places = 10 ^ (places - fraction.length) * 10 ^ fraction.length := by
        rw [← pow_add, Nat.sub_add_cancel hshort.le]
      rw [hpow]
      push_cast
      field_simp
    rw [hint, Int.floor_natCast, Int.cast_natCast, ← hint, mul_div_cancel_right₀ _ (by positivity)]
  · set kept := Nat.ofDigitChars 10 (whole ++ fraction.take places) 0 with hkept
    set cut := Nat.ofDigitChars 10 (fraction.drop places) 0 with hcut
    have hlength : (fraction.drop places).length = fraction.length - places := List.length_drop
    have hdrop : (fraction.drop places).all Char.isDigit = true :=
      List.all_eq_true.mpr fun c hc => List.all_eq_true.mp hfraction c (List.mem_of_mem_drop hc)
    have hlt : cut < 10 ^ (fraction.length - places) := by
      rw [← hlength]
      exact ofDigitChars_lt hdrop
    have hsplit : Nat.ofDigitChars 10 (whole ++ fraction) 0 =
        10 ^ (fraction.length - places) * kept + cut := by
      conv_lhs => rw [← List.take_append_drop places fraction, ← List.append_assoc,
        Nat.ofDigitChars_append]
      rw [Nat.ofDigitChars_eq_ofDigitChars_zero, hlength]
    have hfloor : ⌊(Nat.ofDigitChars 10 (whole ++ fraction) 0 : ℚ) / 10 ^ fraction.length *
        10 ^ places⌋ = (kept : ℤ) := by
      have hpow : (10 : ℚ) ^ fraction.length = 10 ^ (fraction.length - places) * 10 ^ places := by
        rw [← pow_add, Nat.sub_add_cancel hlong]
      have hpos : (0 : ℚ) < 10 ^ (fraction.length - places) := by positivity
      have hvalue : (Nat.ofDigitChars 10 (whole ++ fraction) 0 : ℚ) / 10 ^ fraction.length *
          10 ^ places = kept + cut / 10 ^ (fraction.length - places) := by
        rw [hsplit, hpow]
        push_cast
        field_simp
      have hcutlt : (cut : ℚ) / 10 ^ (fraction.length - places) < 1 := by
        rw [div_lt_one hpos]
        exact_mod_cast hlt
      have hcutnonneg : (0 : ℚ) ≤ (cut : ℚ) / 10 ^ (fraction.length - places) := by positivity
      rw [Int.floor_eq_iff, hvalue]
      push_cast
      constructor
      · linarith
      · linarith
    rw [hfloor, List.length_take_of_le hlong, Int.cast_natCast]

/-! ### Numbers of decimals -/

/-- The number a decimal text stands for, whatever zeros it is written with. -/
def decimalNumber (text : String) : Option ℚ :=
  if isDecimalText text.toList then some (decimalValue text.toList) else none

theorem parts_of_isDecimalText (h : isDecimalText chars = true) :
    isDigits (wholePart chars) = true ∧
      ((fractionPart chars).getD []).all Char.isDigit = true := by
  simp only [isDecimalText, decide_eq_true_eq] at h
  refine ⟨h.1, ?_⟩
  rcases hf : fractionPart chars with _ | fraction
  · rfl
  · rw [hf, Option.all_some] at h
    exact (digits_of_isDigits h.2).2

variable {text : String}

theorem normalize_spec (h : isDecimalText text.toList = true) :
    ∃ t, normalizeNonNegativeDecimal text = some t ∧ isCanonicalNonNegative t.toList = true ∧
      decimalValue t.toList = decimalValue text.toList := by
  obtain ⟨hwhole, hfraction⟩ := parts_of_isDecimalText h
  refine ⟨_, if_pos h, ?_⟩
  rw [String.toList_ofList]
  exact trimmed_spec hwhole hfraction

theorem canonicalize_spec (h : isDecimalText text.toList = true) (label : String) :
    ∃ t, canonicalizeUpbitOrderDecimal text label = .ok t ∧
      isCanonicalNonNegative t.toList = true ∧
      decimalValue t.toList = (⌊decimalValue text.toList * 10 ^ 8⌋ : ℚ) / 10 ^ 8 := by
  obtain ⟨hwhole, hfraction⟩ := parts_of_isDecimalText h
  have htake : (((fractionPart text.toList).getD []).take 8).all Char.isDigit = true :=
    List.all_eq_true.mpr fun c hc => List.all_eq_true.mp hfraction c (List.mem_of_mem_take hc)
  obtain ⟨hcanonical, hvalue⟩ := trimmed_spec hwhole htake
  refine ⟨_, if_pos h, ?_⟩
  rw [String.toList_ofList]
  refine ⟨hcanonical, ?_⟩
  rw [hvalue]
  exact ofDigitChars_take hfraction 8

variable {left right : String}

/-- **Normalized texts are the same exactly when the numbers are.** -/
theorem normalize_eq_iff (hl : isDecimalText left.toList = true)
    (hr : isDecimalText right.toList = true) :
    normalizeNonNegativeDecimal left = normalizeNonNegativeDecimal right ↔
      decimalValue left.toList = decimalValue right.toList := by
  obtain ⟨l, hlok, hlc, hlv⟩ := normalize_spec hl
  obtain ⟨r, hrok, hrc, hrv⟩ := normalize_spec hr
  rw [hlok, hrok, Option.some.injEq, text_eq_iff hlc hrc, hlv, hrv]

theorem isDecimalText_of_canonicalize {text t label : String}
    (h : canonicalizeUpbitOrderDecimal text label = .ok t) : isDecimalText text.toList = true := by
  by_contra hnot
  rw [canonicalizeUpbitOrderDecimal, if_neg hnot] at h
  cases h

/-- **Texts written for the exchange are the same exactly when the numbers are, cut behind the eighth
decimal.** -/
theorem canonicalize_eq_iff {left right l r label label' : String}
    (hl : canonicalizeUpbitOrderDecimal left label = .ok l)
    (hr : canonicalizeUpbitOrderDecimal right label' = .ok r) :
    l = r ↔ ⌊decimalValue left.toList * 10 ^ 8⌋ = ⌊decimalValue right.toList * 10 ^ 8⌋ := by
  obtain ⟨l', hl', hlc, hlv⟩ := canonicalize_spec (isDecimalText_of_canonicalize hl) label
  obtain ⟨r', hr', hrc, hrv⟩ := canonicalize_spec (isDecimalText_of_canonicalize hr) label'
  rw [hl, Except.ok.injEq] at hl'
  rw [hr, Except.ok.injEq] at hr'
  rw [hl', hr', text_eq_iff hlc hrc, hlv, hrv, div_left_inj' (by positivity), Int.cast_inj]

/-! ### Binding -/

/-- Two amounts of an order are the same number, or both are absent. With `eightDecimals` they are
compared up to the eighth decimal. -/
def SameNumber (eightDecimals : Bool) : Option String → Option String → Prop
  | none, none => True
  | some left, some right => ∃ p q, decimalNumber left = some p ∧ decimalNumber right = some q ∧
      if eightDecimals then ⌊p * 10 ^ 8⌋ = ⌊q * 10 ^ 8⌋ else p = q
  | _, _ => False

theorem decimalNumber_eq_some {q : ℚ} :
    decimalNumber text = some q ↔ isDecimalText text.toList = true ∧ decimalValue text.toList = q := by
  unfold decimalNumber
  split_ifs with h
  · simp [h]
  · simp [h]

theorem normalize_eq_none :
    normalizeNonNegativeDecimal text = none ↔ ¬ isDecimalText text.toList = true := by
  unfold normalizeNonNegativeDecimal
  split_ifs with h
  · simp [h]
  · simp [h]

variable {eightDecimals : Bool}

theorem sameOrderIntentDecimal_some_iff :
    sameOrderIntentDecimal (some left) (some right) eightDecimals = true ↔
      SameNumber eightDecimals (some left) (some right) := by
  have hsame : SameNumber eightDecimals (some left) (some right) ↔
      isDecimalText left.toList = true ∧ isDecimalText right.toList = true ∧
        if eightDecimals then ⌊decimalValue left.toList * 10 ^ 8⌋ = ⌊decimalValue right.toList * 10 ^ 8⌋
        else decimalValue left.toList = decimalValue right.toList := by
    simp only [SameNumber, decimalNumber_eq_some]
    constructor
    · rintro ⟨p, q, ⟨hl, rfl⟩, ⟨hr, rfl⟩, h⟩
      exact ⟨hl, hr, h⟩
    · rintro ⟨hl, hr, h⟩
      exact ⟨_, _, ⟨hl, rfl⟩, ⟨hr, rfl⟩, h⟩
  rw [hsame]
  have herror : ∀ {text : String}, ¬ isDecimalText text.toList = true →
      ∃ e, canonicalizeUpbitOrderDecimal text "" = .error e := fun h => ⟨_, if_neg h⟩
  by_cases hl : isDecimalText left.toList = true
  · by_cases hr : isDecimalText right.toList = true
    · simp only [hl, hr, true_and]
      cases eightDecimals with
      | true =>
        obtain ⟨l, hlok, -⟩ := canonicalize_spec hl ""
        obtain ⟨r, hrok, -⟩ := canonicalize_spec hr ""
        simp only [sameOrderIntentDecimal, hlok, hrok, if_true, decide_eq_true_eq]
        exact canonicalize_eq_iff hlok hrok
      | false =>
        obtain ⟨l, hlok, -⟩ := normalize_spec hl
        obtain ⟨r, hrok, -⟩ := normalize_spec hr
        have heq := normalize_eq_iff hl hr
        rw [hlok, hrok, Option.some.injEq] at heq
        simp only [sameOrderIntentDecimal, hlok, hrok, Bool.false_eq_true, if_false,
          decide_eq_true_eq]
        exact heq
    · obtain ⟨e, he⟩ := herror hr
      have hnone := normalize_eq_none.mpr hr
      simp only [hr, Bool.false_eq_true, false_and, and_false, iff_false]
      unfold sameOrderIntentDecimal
      dsimp only
      rw [he, hnone]
      cases eightDecimals with
      | true => cases canonicalizeUpbitOrderDecimal left "" <;> simp
      | false => cases normalizeNonNegativeDecimal left <;> simp
  · obtain ⟨e, he⟩ := herror hl
    have hnone := normalize_eq_none.mpr hl
    simp only [hl, Bool.false_eq_true, false_and, iff_false]
    unfold sameOrderIntentDecimal
    dsimp only
    rw [he, hnone]
    cases eightDecimals with
    | true => simp
    | false => simp

variable {left right : Option String}

theorem sameOrderIntentDecimal_iff :
    sameOrderIntentDecimal left right eightDecimals = true ↔ SameNumber eightDecimals left right := by
  rcases left with _ | left
  · rcases right with _ | right
    · simp [sameOrderIntentDecimal, SameNumber]
    · simp [sameOrderIntentDecimal, SameNumber]
  · rcases right with _ | right
    · simp [sameOrderIntentDecimal, SameNumber]
    · exact sameOrderIntentDecimal_some_iff

/-- The snapshot has the ids that were asked for and everything of the order but its amounts. -/
structure Matches (candidate : ExchangeOrderSnapshot) (query : ExchangeOrderLookupIdentity)
    (order : OrderRecord) : Prop where
  queriedUuid : ∀ uuid ∈ query.uuid, candidate.uuid = uuid
  queriedIdentifier : ∀ identifier ∈ query.identifier, candidate.identifier = some identifier
  uuid : ∀ uuid ∈ order.upbitUuid, candidate.uuid = uuid
  identifier : candidate.identifier = some order.identifier
  market : candidate.market = order.market
  side : candidate.side = order.side
  ordType : candidate.ordType = order.ordType
  timeInForce : candidate.timeInForce = order.timeInForce
  smpType : candidate.smpType = order.smpType

theorem isBoundTo_iff {candidate : ExchangeOrderSnapshot} {query : ExchangeOrderLookupIdentity}
    {order : OrderRecord} : isBoundTo candidate query order = true ↔
      Matches candidate query order ∧
        SameNumber (candidate.side = .bid ∧ candidate.ordType = .price) candidate.price order.price ∧
        SameNumber (candidate.side = .ask ∧ candidate.ordType = .market) candidate.volume
          order.volume := by
  have hall : ∀ {o : Option String} {p : String → Prop} [DecidablePred p],
      o.all (fun t => decide (p t)) = true ↔ ∀ t ∈ o, p t := by
    intro o p _
    cases o <;> simp
  simp only [isBoundTo, decide_eq_true_eq, hall, sameOrderIntentDecimal_iff]
  constructor
  · rintro ⟨hqu, hqi, hi, hu, hm, hs, ho, hprice, hvolume, ht, hsmp⟩
    exact ⟨⟨hqu, hqi, hu, hi, hm, hs, ho, ht, hsmp⟩, hprice, hvolume⟩
  · rintro ⟨⟨hqu, hqi, hu, hi, hm, hs, ho, ht, hsmp⟩, hprice, hvolume⟩
    exact ⟨hqu, hqi, hi, hu, hm, hs, ho, hprice, hvolume, ht, hsmp⟩

/-- A text that the serializer of the exchange has written: it canonicalizes `String(x)`. -/
def Serialized (text : String) : Prop :=
  ∃ written label, canonicalizeUpbitOrderDecimal written label = .ok text

/-- The exchange gives the number back in a spelling of its own. -/
def Respells : Option String → Option String → Prop
  | none, none => True
  | some left, some right => decimalNumber left = some (decimalValue right.toList)
  | _, _ => False

theorem isDecimalText_of_serialized (h : Serialized text) : isDecimalText text.toList = true := by
  obtain ⟨written, label, hok⟩ := h
  obtain ⟨t, ht, hc, -⟩ := canonicalize_spec (isDecimalText_of_canonicalize hok) label
  rw [hok, Except.ok.injEq] at ht
  rw [ht]
  exact isDecimalText_of_canonical hc

theorem sameNumber_of_respells (h : Respells left right) (hright : ∀ text ∈ right, Serialized text)
    (eightDecimals : Bool) : SameNumber eightDecimals left right := by
  rcases left with _ | left
  · rcases right with _ | right
    · trivial
    · exact h
  · rcases right with _ | right
    · exact h
    · refine ⟨_, _, h, decimalNumber_eq_some.mpr ⟨?_, rfl⟩, by split_ifs <;> rfl⟩
      exact isDecimalText_of_serialized (hright right rfl)

/-- **A snapshot is accepted exactly when it matches the lookup and the order and has its numbers**; in
particular every other spelling of a serialized order is accepted. -/
theorem bind_iff_same_numbers (candidate : ExchangeOrderSnapshot)
    (query : ExchangeOrderLookupIdentity) (order : OrderRecord) :
    (bindExchangeOrderSnapshot candidate query order = some candidate ↔
      isOrderSnapshot candidate = true ∧ Matches candidate query order ∧
        SameNumber (candidate.side = .bid ∧ candidate.ordType = .price) candidate.price order.price ∧
        SameNumber (candidate.side = .ask ∧ candidate.ordType = .market) candidate.volume
          order.volume) ∧
    ((∀ text ∈ order.price, Serialized text) → (∀ text ∈ order.volume, Serialized text) →
      isOrderSnapshot candidate = true → Matches candidate query order →
      Respells candidate.price order.price → Respells candidate.volume order.volume →
      bindExchangeOrderSnapshot candidate query order = some candidate) := by
  have hbind : bindExchangeOrderSnapshot candidate query order = some candidate ↔
      isOrderSnapshot candidate = true ∧ isBoundTo candidate query order = true := by
    unfold bindExchangeOrderSnapshot
    split_ifs with h
    · exact iff_of_true rfl h
    · exact iff_of_false (by simp) h
  rw [isBoundTo_iff] at hbind
  refine ⟨hbind, fun hprice hvolume hform hmatches hp hv => ?_⟩
  exact hbind.mpr ⟨hform, hmatches, sameNumber_of_respells hp hprice _,
    sameNumber_of_respells hv hvolume _⟩

/-- A market buy for 100000.5 KRW. -/
def buyOrder : OrderRecord where
  id := "order-1"
  strategyDecisionId := none
  exchangeAccountId := "account-1"
  market := .krwBtc
  side := .bid
  ordType := .price
  volume := none
  price := some "100000.5"
  timeInForce := none
  smpType := none
  identifier := "identifier-1"
  idempotencyKey := "key-1"
  origin := .strategy
  requestedAt := "2026-01-02T00:00:00.000Z"
  upbitUuid := none
  status := .submitting
  executionMode := .live
  exchangeResponseJson := none
  failureCode := none
  failureMessage := none
  createdAt := "2026-01-02T00:00:00.000Z"
  updatedAt := "2026-01-02T00:00:00.000Z"

/-- The exchange writes the price with other zeros. -/
def echoedOrder : ExchangeOrderSnapshot where
  uuid := "uuid-1"
  identifier := some "identifier-1"
  market := .krwBtc
  side := .bid
  ordType := .price
  state := "wait"
  price := some "00100000.5000000000"
  volume := none
  timeInForce := none
  smpType := none
  remainingVolume := none
  executedVolume := some "0"
  paidFee := some "0.0"
  createdAt := "2026-01-02T00:00:01+09:00"
  fills := []
  raw := "\x7b\x7d"

theorem bind_echoed_order :
    bindExchangeOrderSnapshot echoedOrder ⟨none, some "identifier-1"⟩ buyOrder =
      some echoedOrder := by
  refine (bind_iff_same_numbers echoedOrder ⟨none, some "identifier-1"⟩ buyOrder).2 ?_ ?_
    (by decide +kernel) ?_ (by show _ = _; decide +kernel) trivial
  · intro text htext
    rw [← Option.mem_some_iff.mp htext]
    exact ⟨"100000.5", "Upbit market-buy quote", by decide +kernel⟩
  · intro text htext
    cases htext
  · exact ⟨by simp, by simp [echoedOrder], by simp [buyOrder], rfl, rfl, rfl, rfl, rfl, rfl⟩

end AutoTrade.Reconciliation.SnapshotBinding
