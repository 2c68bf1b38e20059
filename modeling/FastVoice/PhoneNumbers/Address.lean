import FastVoice.Runtime.Text

/-! # Telephony addresses

An address is a phone number, a SIP URI or an extension, and is stored and looked up in a canonical form. The form of a
phone number may take the dial code of a country, and that of a SIP URI keeps the user as it is written.
-/
namespace FastVoice.PhoneNumbers

/-- What `str.lower` makes of a character: whitespace, digits and the ASCII characters stand for themselves up to their
case, and no other character becomes one of these that is not a letter. -/
def Lowered (isDecimal : Char → Bool) (c : Char) (image : List Char) : Prop :=
  if Text.isSpace c = true ∨ isDecimal c = true ∨ c.toNat < 128 then image = [c.toLower]
  else image ≠ [] ∧ ∀ d ∈ image,
    Text.isSpace d = false ∧ isDecimal d = false ∧ (d.toNat < 128 → d.isAlpha = true)

/-- The character tables. A text is lowered in its context, and a letter of ASCII in either case is the same context. -/
structure Unicode where
  lower : List Char → List Char
  upper : List Char → List Char
  isDecimal : Char → Bool
  decimal_ascii : ∀ c : Char, c.toNat < 128 → isDecimal c = c.isDigit
  decimal_not_space : ∀ c, isDecimal c = true → Text.isSpace c = false
  lower_lower : ∀ text, lower (lower text) = lower text
  images : ∀ text, ∃ images, lower text = images.flatten ∧ List.Forall₂ (Lowered isDecimal) text images
  lower_asciiCase : ∀ text, lower (text.map Char.toLower) = lower text
  scheme : ∀ text, ∀ name ∈ ["sip:", "sips:"], name.toList <+: lower text →
    (text.take name.length).map Char.toLower = name.toList

theorem isUpper_iff {c : Char} : c.isUpper = true ↔ c.val ≥ 'A'.val ∧ c.val ≤ 'Z'.val :=
  decide_eq_true_iff

theorem toNat_lt_of_isUpper {c : Char} (h : c.isUpper = true) : c.toNat < 128 :=
  Nat.lt_of_le_of_lt (UInt32.le_iff_toNat_le.mp (isUpper_iff.mp h).2) (by decide)

theorem toLower_of_not_isUpper {c : Char} (h : c.isUpper = false) : c.toLower = c := by
  have hRange : ¬(c.val ≥ 'A'.val ∧ c.val ≤ 'Z'.val) := by
    rw [← isUpper_iff, h]
    exact Bool.false_ne_true
  exact dif_neg hRange

theorem toLower_of_not_ascii {c : Char} (h : ¬c.toNat < 128) : c.toLower = c :=
  toLower_of_not_isUpper (Bool.eq_false_iff.mpr fun hUpper => h (toNat_lt_of_isUpper hUpper))

theorem toLower_toLower (c : Char) : c.toLower.toLower = c.toLower := by
  have hAll : ∀ n < 128, (Char.ofNat n).toLower.isUpper = false := by decide +kernel
  refine toLower_of_not_isUpper ?_
  by_cases hAscii : c.toNat < 128
  · have hHere := hAll c.toNat hAscii
    rwa [Char.ofNat_toNat] at hHere
  · rw [toLower_of_not_ascii hAscii]
    exact Bool.eq_false_iff.mpr fun hUpper => hAscii (toNat_lt_of_isUpper hUpper)

theorem isSpace_of_isDigit {c : Char} (h : c.isDigit = true) : Text.isSpace c = false := by
  have hAll : ∀ n < 128, (Char.ofNat n).isDigit = true → Text.isSpace (Char.ofNat n) = false := by decide +kernel
  have hAscii : c.toNat < 128 := by
    rw [Char.isDigit, Bool.and_eq_true, decide_eq_true_eq, decide_eq_true_eq] at h
    exact Nat.lt_of_le_of_lt (UInt32.le_iff_toNat_le.mp h.2) (by decide)
  have hHere := hAll c.toNat hAscii
  rw [Char.ofNat_toNat] at hHere
  exact hHere h

theorem not_isDigit_of_not_ascii {c : Char} (h : ¬c.toNat < 128) : c.isDigit = false := by
  refine Bool.eq_false_iff.mpr fun hDigit => h ?_
  rw [Char.isDigit, Bool.and_eq_true, decide_eq_true_eq, decide_eq_true_eq] at hDigit
  exact Nat.lt_of_le_of_lt (UInt32.le_iff_toNat_le.mp hDigit.2) (by decide)

def ascii : Unicode where
  lower text := text.map Char.toLower
  upper text := text.map Char.toUpper
  isDecimal := Char.isDigit
  decimal_ascii _ _ := rfl
  decimal_not_space _ := isSpace_of_isDigit
  lower_lower text := by simp [toLower_toLower]
  images text := by
    refine ⟨text.map fun c => [c.toLower], List.map_eq_flatMap, ?_⟩
    induction text with
    | nil => exact .nil
    | cons c text ih =>
      refine .cons ?_ ih
      rw [Lowered]
      split
      · rfl
      · rename_i hOther
        rw [not_or, not_or] at hOther
        obtain ⟨hSpace, hDigit, hAscii⟩ := hOther
        dsimp only
        rw [toLower_of_not_ascii hAscii]
        refine ⟨List.cons_ne_nil _ _, fun d hd => ?_⟩
        rw [List.mem_singleton.mp hd]
        exact ⟨Bool.eq_false_iff.mpr hSpace, Bool.eq_false_iff.mpr hDigit, fun h => absurd h hAscii⟩
  lower_asciiCase text := by simp [toLower_toLower]
  scheme text name _ hPrefix := by
    rw [List.map_take]
    exact (List.prefix_iff_eq_take.mp hPrefix).symm

def isUserChar (c : Char) : Bool := c ≠ '@' && c ≠ ';' && c ≠ '?'

def isHostChar (c : Char) : Bool := c ≠ ':' && c ≠ ';' && c ≠ '?'

structure SipAddress where
  secure : Bool
  user : Option (List Char)
  host : List Char
  port : Option (List Char)
  rest : List Char
  deriving DecidableEq

structure SipHost where
  host : List Char
  port : Option (List Char)
  rest : List Char

def restOf : List Char → Option (List Char)
  | [] => some []
  | c :: more => if (c = ';' ∨ c = '?') ∧ Char.ofNat 10 ∉ more then some (c :: more) else none

section

variable (unicode : Unicode)

def portOf (host : List Char) : List Char → Option SipHost
  | ':' :: more =>
    if more.takeWhile unicode.isDecimal = [] then none
    else (restOf (more.dropWhile unicode.isDecimal)).map fun rest =>
      ⟨host, some (more.takeWhile unicode.isDecimal), rest⟩
  | remaining => (restOf remaining).map fun rest => ⟨host, none, rest⟩

def hostOf (text : List Char) : Option SipHost :=
  if text.takeWhile isHostChar = [] then none
  else portOf unicode (text.takeWhile isHostChar) (text.dropWhile isHostChar)

def withUser (text : List Char) : Option (List Char × SipHost) :=
  match text.dropWhile isUserChar with
  | '@' :: more =>
    if text.takeWhile isUserChar = [] then none
    else (hostOf unicode more).map fun host => (text.takeWhile isUserChar, host)
  | _ => none

def schemeOf (text : List Char) : Option (Bool × List Char) :=
  if (text.take 4).map Char.toLower = "sip:".toList then some (false, text.drop 4)
  else if (text.take 5).map Char.toLower = "sips:".toList then some (true, text.drop 5)
  else none

def sipAddressOf (secure : Bool) (text : List Char) : Option SipAddress :=
  match withUser unicode text with
  | some (user, found) => some ⟨secure, some user, found.host, found.port, found.rest⟩
  | none => (hostOf unicode text).map fun found => ⟨secure, none, found.host, found.port, found.rest⟩

/-- The match of `_SIP_URI_RE`. An address is stripped before, so that its end is not a line break. -/
def matchSipUri (raw : List Char) : Option SipAddress :=
  (schemeOf raw).bind fun scheme => sipAddressOf unicode scheme.1 scheme.2

end

def schemeText (secure : Bool) : List Char := if secure then "sips".toList else "sip".toList

def defaultPort (secure : Bool) : List Char := if secure then "5061".toList else "5060".toList

def userText : Option (List Char) → List Char
  | some user => user ++ ['@']
  | none => []

def portText : Option (List Char) → List Char
  | some port => ':' :: port
  | none => []

namespace SipAddress

variable (address : SipAddress)

def body : List Char := userText address.user ++ (address.host ++ (portText address.port ++ address.rest))

def write : List Char := schemeText address.secure ++ ':' :: address.body

def keptPort : Option (List Char) :=
  if address.port = some (defaultPort address.secure) then none else address.port

def normalize (unicode : Unicode) : SipAddress where
  secure := address.secure
  user := address.user
  host := unicode.lower address.host
  port := address.keptPort
  rest := if address.rest = [] then [] else unicode.lower address.rest

end SipAddress

inductive AddressType where
  | pstn
  | sipUri
  | sipExtension
  deriving DecidableEq

structure NormalizedAddress where
  canonical : List Char
  addressType : AddressType
  countryCode : Option (List Char)
  deriving DecidableEq

def COUNTRY_CODES : List (String × String) :=
  [("US", "1"), ("CA", "1"), ("GB", "44"), ("IN", "91"), ("AU", "61"), ("DE", "49"), ("FR", "33"), ("BR", "55"),
    ("MX", "52"), ("IT", "39"), ("ES", "34"), ("NL", "31"), ("SE", "46"), ("NO", "47"), ("DK", "45"), ("FI", "358"),
    ("CH", "41"), ("AT", "43"), ("BE", "32"), ("LU", "352"), ("IE", "353")]

def isStripped (c : Char) : Bool := Text.isSpace c || c = '-' || c = '(' || c = ')'

def isSaneLength (digits : List Char) : Bool := 8 ≤ digits.length && digits.length ≤ 15

section

variable (unicode : Unicode)

/-- An empty text for a country without a code. -/
def getCountryCode (countryIso : List Char) : List Char :=
  if countryIso = [] then []
  else ((COUNTRY_CODES.lookup (String.ofList (unicode.upper countryIso))).getD "").toList

def dialOf (countryHint : Option (List Char)) : Option (List Char) :=
  match countryHint with
  | none => none
  | some hint => if getCountryCode unicode hint = [] then none else some (getCountryCode unicode hint)

def normalizePstn (digits : List Char) (countryHint : Option (List Char)) : NormalizedAddress :=
  match dialOf unicode countryHint with
  | none => ⟨'+' :: digits, .pstn, none⟩
  | some dial =>
    let candidate := dial ++ digits.dropWhile (· = '0')
    let digits := if dial.isPrefixOf digits then digits else if isSaneLength candidate then candidate else digits
    ⟨'+' :: digits, .pstn, countryHint.map unicode.upper⟩

def normalizeSipUri (raw : List Char) : NormalizedAddress :=
  match matchSipUri unicode raw with
  | none => ⟨unicode.lower raw, .sipUri, none⟩
  | some address => ⟨(address.normalize unicode).write, .sipUri, none⟩

def pstnDigits (raw : List Char) : Option (List Char) :=
  let digits := raw.filter fun c => !isStripped c
  let digits := if digits.head? = some '+' then digits.tail else digits
  if digits.all unicode.isDecimal && isSaneLength digits then some digits else none

def startsSip (lowered : List Char) : Bool :=
  "sip:".toList.isPrefixOf lowered || "sips:".toList.isPrefixOf lowered

/-- `normalize_telephony_address` of an address that is stripped. -/
def normalizeStripped (raw : List Char) (countryHint : Option (List Char)) : NormalizedAddress :=
  if startsSip (unicode.lower raw) then normalizeSipUri unicode raw
  else match pstnDigits unicode raw with
    | some digits => normalizePstn unicode digits countryHint
    | none => ⟨unicode.lower raw, .sipExtension, none⟩

def normalizeTelephonyAddress (raw : List Char) (countryHint : Option (List Char)) :
    Except String NormalizedAddress :=
  if Text.stripChars raw = [] then .error "address must not be empty"
  else .ok (normalizeStripped unicode (Text.stripChars raw) countryHint)

end

end FastVoice.PhoneNumbers
