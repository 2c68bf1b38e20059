import FastVoice.PhoneNumbers.Address

/-! # Matching phone numbers

The number of a webhook and the number of a configuration match when they agree up to pluses in front, spaces and
dashes, or when a country code in front of one of them makes it the other.
-/
namespace FastVoice.PhoneNumbers.Matching

def clean (number : List Char) : List Char := number.filter fun c => c != ' ' && c != '-'

def noPlus (clean : List Char) : List Char := clean.dropWhile (· == '+')

def testNumberFormatsWithCountryCode (incomingNoPlus configuredNoPlus countryCode : List Char) : Bool :=
  countryCode ++ incomingNoPlus == configuredNoPlus ||
    (incomingNoPlus.head? == some '0' && countryCode ++ incomingNoPlus.tail == configuredNoPlus) ||
    countryCode ++ configuredNoPlus == incomingNoPlus ||
    (configuredNoPlus.head? == some '0' && countryCode ++ configuredNoPlus.tail == incomingNoPlus)

def isGiven (country : Option (List Char)) : Bool := country != none && country != some []

section

variable (unicode : Unicode)

def codeOf (country : Option (List Char)) : List (List Char) :=
  ((country.map (getCountryCode unicode)).filter (· != [])).toList

/-- The codes the numbers are tried with, in order: those of the hints, or the common ones when there is no hint. -/
def codesTried (toCountry fromCountry : Option (List Char)) : List (List Char) :=
  (if isGiven toCountry then codeOf unicode toCountry else []) ++
    (if isGiven fromCountry && fromCountry != toCountry then codeOf unicode fromCountry else []) ++
    if !isGiven toCountry && !isGiven fromCountry then ["91".toList, "1".toList, "44".toList] else []

def numbersMatch (incomingNumber configuredNumber : List Char) (toCountry fromCountry : Option (List Char)) : Bool :=
  if incomingNumber = [] ∨ configuredNumber = [] then false
  else if clean incomingNumber = clean configuredNumber then true
  else if noPlus (clean incomingNumber) = noPlus (clean configuredNumber) then true
  else (codesTried unicode toCountry fromCountry).any
    (testNumberFormatsWithCountryCode (noPlus (clean incomingNumber)) (noPlus (clean configuredNumber)))

theorem testNumberFormats_comm (incoming configured : List Char) :
    testNumberFormatsWithCountryCode incoming configured = testNumberFormatsWithCountryCode configured incoming := by
  funext code
  rw [testNumberFormatsWithCountryCode, testNumberFormatsWithCountryCode, Bool.or_assoc, Bool.or_comm]
  simp only [Bool.or_assoc]

theorem numbersMatch_comm (incoming configured : List Char) (toCountry fromCountry : Option (List Char)) :
    numbersMatch unicode incoming configured toCountry fromCountry =
      numbersMatch unicode configured incoming toCountry fromCountry := by
  have hFormats := testNumberFormats_comm (noPlus (clean incoming)) (noPlus (clean configured))
  simp only [numbersMatch, hFormats, or_comm (a := incoming = []), eq_comm (a := clean incoming),
    eq_comm (a := noPlus (clean incoming))]

/-- A number written with a plus and a digit that is not zero. -/
def Explicit (number : List Char) : Prop := ∃ d rest, number = '+' :: d :: rest ∧ d ∈ "123456789".toList

def digits (number : List Char) : List Char := number.filter unicode.isDecimal

def Prefixed (code incoming configured : List Char) : Prop :=
  code ++ noPlus (clean incoming) = noPlus (clean configured) ∨
    code ++ noPlus (clean configured) = noPlus (clean incoming)

/-- The order of the two numbers does not matter, and two international numbers of different digits do not match. -/
def NeverConfuses (incoming configured : List Char) (toCountry fromCountry : Option (List Char)) : Prop :=
  numbersMatch unicode incoming configured toCountry fromCountry =
      numbersMatch unicode configured incoming toCountry fromCountry ∧
    (Explicit incoming → Explicit configured → digits unicode incoming ≠ digits unicode configured →
      numbersMatch unicode incoming configured toCountry fromCountry = false)

variable {unicode}

theorem not_isDecimal_punctuation : ∀ c ∈ [' ', '-', '+'], unicode.isDecimal c = false := by
  intro c hc
  have hAscii : ∀ c ∈ [' ', '-', '+'], c.toNat < 128 ∧ c.isDigit = false :=
    Text.forall_of_all (by decide)
  rw [unicode.decimal_ascii c (hAscii c hc).1]
  exact (hAscii c hc).2

theorem digits_clean (number : List Char) : digits unicode (clean number) = digits unicode number := by
  rw [digits, clean, List.filter_filter]
  refine List.filter_congr fun c _ => ?_
  cases hDigit : unicode.isDecimal c with
  | false => rfl
  | true =>
    have hSpace : c ≠ ' ' := by
      rintro rfl
      rw [not_isDecimal_punctuation _ (by decide)] at hDigit
      contradiction
    have hDash : c ≠ '-' := by
      rintro rfl
      rw [not_isDecimal_punctuation _ (by decide)] at hDigit
      contradiction
    simp [hSpace, hDash]

theorem digits_noPlus (number : List Char) : digits unicode (noPlus number) = digits unicode number := by
  induction number with
  | nil => rfl
  | cons c number ih =>
    rw [noPlus, List.dropWhile_cons]
    split
    · rename_i hPlus
      rw [beq_iff_eq] at hPlus
      subst hPlus
      rw [digits, digits, List.filter_cons, not_isDecimal_punctuation _ (by decide)]
      exact ih
    · rfl

theorem Explicit.head?_noPlus {number : List Char} (h : Explicit number) :
    (noPlus (clean number)).head? ≠ some '0' := by
  obtain ⟨d, rest, rfl, hd⟩ := h
  have hFirst : ∀ d ∈ "123456789".toList, d ≠ ' ' ∧ d ≠ '-' ∧ d ≠ '+' ∧ d ≠ '0' :=
    Text.forall_of_all (by decide)
  obtain ⟨hSpace, hDash, hPlus, hZero⟩ := hFirst d hd
  simp [clean, noPlus, hSpace, hDash, hPlus, hZero]

theorem Explicit.ne_nil {number : List Char} (h : Explicit number) : number ≠ [] := by
  obtain ⟨d, rest, rfl, -⟩ := h
  exact List.cons_ne_nil _ _

theorem numbersMatch_explicit {incoming configured : List Char} (hIncoming : Explicit incoming)
    (hConfigured : Explicit configured) (hDigits : digits unicode incoming ≠ digits unicode configured)
    (toCountry fromCountry : Option (List Char)) :
    numbersMatch unicode incoming configured toCountry fromCountry = true ↔
      ∃ code ∈ codesTried unicode toCountry fromCountry, Prefixed code incoming configured := by
  have hNoPlus : noPlus (clean incoming) ≠ noPlus (clean configured) := by
    intro hSame
    refine hDigits ?_
    calc digits unicode incoming = digits unicode (noPlus (clean incoming)) := by rw [digits_noPlus, digits_clean]
      _ = digits unicode (noPlus (clean configured)) := by rw [hSame]
      _ = digits unicode configured := by rw [digits_noPlus, digits_clean]
  have hClean : clean incoming ≠ clean configured := fun hSame => hNoPlus (congrArg noPlus hSame)
  rw [numbersMatch, if_neg (not_or.mpr ⟨hIncoming.ne_nil, hConfigured.ne_nil⟩), if_neg hClean, if_neg hNoPlus,
    List.any_eq_true]
  refine exists_congr fun code => and_congr_right fun _ => ?_
  simp [testNumberFormatsWithCountryCode, Prefixed, hIncoming.head?_noPlus, hConfigured.head?_noPlus]

theorem never_confuses_iff (unicode : Unicode) (incoming configured : List Char)
    (toCountry fromCountry : Option (List Char)) :
    NeverConfuses unicode incoming configured toCountry fromCountry ↔
      (Explicit incoming → Explicit configured → digits unicode incoming ≠ digits unicode configured →
        ∀ code ∈ codesTried unicode toCountry fromCountry, ¬Prefixed code incoming configured) := by
  rw [NeverConfuses, and_iff_right (numbersMatch_comm unicode incoming configured toCountry fromCountry)]
  refine imp_congr_right fun hIncoming => imp_congr_right fun hConfigured => imp_congr_right fun hDigits => ?_
  rw [← Bool.not_eq_true, numbersMatch_explicit hIncoming hConfigured hDigits]
  push Not
  rfl

theorem egypt_matches_washington :
    ¬NeverConfuses ascii "+2025550123".toList "+12025550123".toList (some "US".toList) none := by
  rintro ⟨-, h⟩
  have hMatch : numbersMatch ascii "+2025550123".toList "+12025550123".toList (some "US".toList) none = true := by
    decide +kernel
  rw [h ⟨'2', _, rfl, by decide⟩ ⟨'1', _, rfl, by decide⟩ (by decide +kernel)] at hMatch
  contradiction

end

end FastVoice.PhoneNumbers.Matching
