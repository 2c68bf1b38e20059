import FastVoice.InboundRouting.Routes
import FastVoice.PhoneNumbers.Address

/-! # Registered numbers are found

A number is stored in its canonical form, and a call to it is routed by the canonical form of the number that the
provider reports. The country's dial code is put before a number that is written with a `+`, too.
-/
namespace FastVoice.PhoneNumbers
open InboundRouting

variable {unicode : Unicode}

def Writes (raw digits : List Char) : Prop := raw.filter (fun c => !isStripped c) = '+' :: digits

def IsNumber (unicode : Unicode) (digits : List Char) : Prop :=
  digits.all unicode.isDecimal = true ∧ isSaneLength digits = true

/-- The hint has no dial code, or one that the digits begin with, or one that makes the number too short or too long. -/
def Keeps (unicode : Unicode) (countryHint : Option (List Char)) (digits : List Char) : Prop :=
  ∀ dial, dialOf unicode countryHint = some dial →
    dial <+: digits ∨ isSaneLength (dial ++ digits.dropWhile (· = '0')) = false

theorem filter_stripChars (raw : List Char) : (Text.stripChars raw).filter (fun c => !isStripped c) =
    raw.filter fun c => !isStripped c := by
  have hFront (text : List Char) : (text.dropWhile Text.isSpace).filter (fun c => !isStripped c) =
      text.filter fun c => !isStripped c := by
    induction text with
    | nil => rfl
    | cons c text ih =>
      by_cases hSpace : Text.isSpace c = true
      · rw [List.dropWhile_cons_of_pos hSpace, ih, List.filter_cons_of_neg]
        simp [isStripped, hSpace]
      · rw [List.dropWhile_cons_of_neg hSpace]
  rw [Text.stripChars, List.rdropWhile, List.filter_reverse, hFront, List.filter_reverse, List.reverse_reverse, hFront]

theorem mem_of_writes {raw digits : List Char} (h : Writes raw digits) {c : Char} (hc : c ∈ raw) :
    isStripped c = true ∨ c = '+' ∨ c ∈ digits := by
  cases hStripped : isStripped c with
  | true => exact .inl rfl
  | false =>
    have hKept : c ∈ raw.filter fun c => !isStripped c := List.mem_filter.mpr ⟨hc, by rw [hStripped]; rfl⟩
    rw [show raw.filter (fun c => !isStripped c) = '+' :: digits from h] at hKept
    exact .inr (List.mem_cons.mp hKept)

theorem head_of_startsSip {raw : List Char} (h : startsSip (unicode.lower raw) = true) :
    ∃ c, raw.head? = some c ∧ c.toLower = 's' := by
  rw [startsSip, Bool.or_eq_true, List.isPrefixOf_iff_prefix, List.isPrefixOf_iff_prefix] at h
  have hTake : ∃ n, ∃ rest, (raw.take n).map Char.toLower = 's' :: rest := by
    rcases h with h | h
    · exact ⟨_, _, unicode.scheme raw "sip:" (by simp) h⟩
    · exact ⟨_, _, unicode.scheme raw "sips:" (by simp) h⟩
  obtain ⟨n, rest, hTake⟩ := hTake
  cases raw with
  | nil => simp at hTake
  | cons c raw =>
    cases n with
    | zero => simp at hTake
    | succ n =>
      rw [List.take_succ_cons, List.map_cons] at hTake
      exact ⟨c, rfl, (List.cons.inj hTake).1⟩

theorem toNat_lt_of_toLower {c : Char} (h : c.toLower = 's') : c.toNat < 128 := by
  cases hUpper : c.isUpper with
  | true => exact toNat_lt_of_isUpper hUpper
  | false =>
    rw [toLower_of_not_isUpper hUpper] at h
    rw [h]
    decide

theorem startsSip_of_writes {raw digits : List Char} (hNumber : IsNumber unicode digits) {text : List Char}
    (hWrites : Writes raw digits) (hText : ∀ c ∈ text, c ∈ raw) : startsSip (unicode.lower text) = false := by
  have hLetters : ∀ n < 128, (Char.ofNat n).toLower = 's' →
      isStripped (Char.ofNat n) = false ∧ Char.ofNat n ≠ '+' ∧ (Char.ofNat n).isDigit = false := by decide +kernel
  refine Bool.eq_false_iff.mpr fun hSip => ?_
  obtain ⟨c, hHead, hLower⟩ := head_of_startsSip hSip
  have hAscii := toNat_lt_of_toLower hLower
  have hLetter := hLetters c.toNat hAscii
  rw [Char.ofNat_toNat] at hLetter
  obtain ⟨hStripped, hPlus, hDigit⟩ := hLetter hLower
  rcases mem_of_writes hWrites (hText c (List.mem_of_mem_head? hHead)) with h | h | h
  · rw [hStripped] at h
    nomatch h
  · exact hPlus h
  · have hDecimal := List.all_eq_true.mp hNumber.1 c h
    rw [unicode.decimal_ascii c hAscii, hDigit] at hDecimal
    nomatch hDecimal

theorem normalize_of_writes {raw digits : List Char} (hNumber : IsNumber unicode digits) (hWrites : Writes raw digits)
    (countryHint : Option (List Char)) :
    normalizeTelephonyAddress unicode raw countryHint = .ok (normalizePstn unicode digits countryHint) := by
  have hFilter := (filter_stripChars raw).trans hWrites
  have hNonempty : Text.stripChars raw ≠ [] := by
    intro hEmpty
    rw [hEmpty] at hFilter
    nomatch hFilter
  have hSub : ∀ c ∈ Text.stripChars raw, c ∈ raw := fun c hc =>
    (List.dropWhile_sublist _).subset ((List.rdropWhile_prefix _ _).subset hc)
  have hDigits : pstnDigits unicode (Text.stripChars raw) = some digits := by
    rw [pstnDigits, hFilter]
    simp [hNumber.1, hNumber.2]
  rw [normalizeTelephonyAddress, if_neg hNonempty, normalizeStripped,
    if_neg (ne_true_of_eq_false (startsSip_of_writes hNumber hWrites hSub)), hDigits]

theorem canonical_normalizePstn_iff {countryHint : Option (List Char)} {digits : List Char} :
    (normalizePstn unicode digits countryHint).canonical = '+' :: digits ↔ Keeps unicode countryHint digits := by
  rw [normalizePstn, Keeps]
  cases hDial : dialOf unicode countryHint with
  | none => exact iff_of_true rfl nofun
  | some dial =>
    simp only [Option.some.injEq, forall_eq', List.cons.injEq, true_and]
    rw [← List.isPrefixOf_iff_prefix]
    cases hPrefix : dial.isPrefixOf digits with
    | true => simp
    | false =>
      cases hLength : isSaneLength (dial ++ digits.dropWhile (· = '0')) with
      | false => simp
      | true =>
        simp only [Bool.false_eq_true, if_false, if_true, false_or, Bool.true_eq_false, iff_false]
        intro hSame
        have hHere : dial <+: digits := ⟨_, hSame⟩
        rw [List.isPrefixOf_iff_prefix.mpr hHere] at hPrefix
        nomatch hPrefix

section

variable (unicode : Unicode) (db : Database)

/-- `create_phone_number` of an active number. -/
def createPhoneNumber (organizationId configId : Nat) (address : String) (countryCode : Option (List Char)) :
    Except String (Option PhoneNumber × Database) :=
  (normalizeTelephonyAddress unicode address.toList countryCode).map fun normalized =>
    db.createPhoneNumber organizationId configId address (String.ofList normalized.canonical) true

def activeNumbers (organizationId : Nat) (canonical provider : String) : List (Configuration × PhoneNumber) :=
  db.joined.filter fun row =>
    row.2.organizationId = organizationId && row.2.addressNormalized = canonical && row.2.isActive &&
      row.1.provider = provider && !row.1.inactive

def findActivePhoneNumberForInbound (organizationId : Nat) (address provider : String)
    (countryHint : Option (List Char)) : Except String (Option PhoneNumber) :=
  (normalizeTelephonyAddress unicode address.toList countryHint).map fun normalized =>
    (activeNumbers db organizationId (String.ofList normalized.canonical) provider).head?.map Prod.snd

def findInboundRouteByAccount (provider accountIdField accountId toNumber : String)
    (countryHint : Option (List Char)) (organizationId : Option Nat) :
    Except String (Option (Configuration × PhoneNumber)) :=
  if provider = "" ∨ accountIdField = "" ∨ accountId = "" ∨ toNumber = "" then .ok none
  else (normalizeTelephonyAddress unicode toNumber.toList countryHint).map fun normalized =>
    db.findInboundRouteByAccount provider accountIdField accountId (String.ofList normalized.canonical)
      organizationId

end

/-- What is created for an active configuration is what both lookups return. Without an organization the second one
returns some number with the address. -/
def FoundAfterCreation (unicode : Unicode) (countryCode countryHint : Option (List Char))
    (address reported : String) : Prop :=
  ∀ (db db' : Database) (config : Configuration) (row : PhoneNumber), db.Consistent →
    config ∈ db.configurations.rows → config.inactive = false →
    createPhoneNumber unicode db config.organizationId config.id address countryCode = .ok (some row, db') →
    findActivePhoneNumberForInbound unicode db' config.organizationId reported config.provider countryHint =
        .ok (some row) ∧
      ∀ accountIdField accountId, config.provider ≠ "" → accountIdField ≠ "" → accountId ≠ "" →
        config.credential accountIdField = some accountId →
        findInboundRouteByAccount unicode db' config.provider accountIdField accountId reported countryHint
            (some config.organizationId) = .ok (some (config, row)) ∧
          ∃ found, findInboundRouteByAccount unicode db' config.provider accountIdField accountId reported countryHint
            none = .ok (some found) ∧ found.2.addressNormalized = row.addressNormalized

theorem head?_of_unique {α : Type} {l : List α} {a : α} (hMem : a ∈ l) (hAll : ∀ b ∈ l, b = a) : l.head? = some a := by
  cases l with
  | nil => exact absurd hMem List.not_mem_nil
  | cons b l => exact congrArg some (hAll b List.mem_cons_self)

theorem organization_of_joined {db : Database} (hConsistent : db.Consistent) {row : Configuration × PhoneNumber}
    (hRow : row ∈ db.joined) : row.1.organizationId = row.2.organizationId := by
  obtain ⟨hConfig, hNumber, hOwner⟩ := Database.mem_joined.mp hRow
  obtain ⟨c, hc, hId, hOrganization⟩ := hConsistent.owned row.2 hNumber
  have hSame : c = row.1 := List.inj_on_of_nodup_map db.configurations.distinct hc hConfig (hId.trans hOwner)
  rw [← hSame, hOrganization]

theorem eq_of_created {db db' : Database} {config : Configuration} {address canonical : String} {row : PhoneNumber}
    (hConsistent : db.Consistent) (hConfig : config ∈ db.configurations.rows)
    (hCreated : db.createPhoneNumber config.organizationId config.id address canonical true = (some row, db')) :
    db'.Consistent ∧ (config, row) ∈ db'.joined ∧ row.organizationId = config.organizationId ∧
      row.addressNormalized = canonical ∧ row.isActive = true ∧
      ∀ other ∈ db'.joined, other.2.organizationId = config.organizationId →
        other.2.addressNormalized = canonical → other = (config, row) := by
  have hKept : (db.createPhoneNumber config.organizationId config.id address canonical true).2.Consistent :=
    Database.consistent_createPhoneNumber hConsistent fun c hc hId =>
      congrArg _ (List.inj_on_of_nodup_map db.configurations.distinct hc hConfig hId)
  obtain ⟨hRefused, -⟩ | ⟨-, -, hRows, hConfigurations, -, -⟩ := Database.createPhoneNumber_cases
    config.organizationId config.id address canonical true hConsistent.phoneNumberIds
  · rw [hRefused] at hCreated
    nomatch hCreated
  · have hRow : row = ⟨db.nextPhoneNumberId, config.organizationId, config.id, address, canonical, true⟩ := by
      rw [Database.createPhoneNumber] at hCreated
      split at hCreated
      · nomatch hCreated
      · exact (Option.some.inj (Prod.mk.inj hCreated).1).symm
    rw [hCreated] at hKept hRows hConfigurations
    have hMem : row ∈ db'.phoneNumbers.rows := by
      rw [hRows, hRow]
      exact List.mem_cons_self
    have hConfig' : config ∈ db'.configurations.rows := hConfigurations ▸ hConfig
    have hJoined : (config, row) ∈ db'.joined :=
      Database.mem_joined.mpr ⟨hConfig', hMem, by rw [hRow]⟩
    refine ⟨hKept, hJoined, by rw [hRow], by rw [hRow], by rw [hRow], ?_⟩
    rintro ⟨c, n⟩ hOther hOrganization hAddress
    obtain ⟨hc, hn, hOwner⟩ := Database.mem_joined.mp hOther
    have hSameId : n.id = row.id := hKept.apart n hn row hMem (by rw [hRow]; exact hOrganization)
      (by rw [hRow]; exact hAddress)
    have hSameRow : n = row := List.inj_on_of_nodup_map db'.phoneNumbers.distinct hn hMem hSameId
    have hSameConfig : c = config := by
      refine List.inj_on_of_nodup_map db'.configurations.distinct hc hConfig' ?_
      rw [← show n.telephonyConfigurationId = c.id from hOwner, hSameRow, hRow]
    rw [hSameRow, hSameConfig]

theorem found_of_normalized {countryCode countryHint : Option (List Char)} {address reported : String}
    {normalized normalized' : NormalizedAddress}
    (hStored : normalizeTelephonyAddress unicode address.toList countryCode = .ok normalized)
    (hReported : normalizeTelephonyAddress unicode reported.toList countryHint = .ok normalized')
    (hSame : normalized'.canonical = normalized.canonical) (hNonempty : reported ≠ "") :
    FoundAfterCreation unicode countryCode countryHint address reported := by
  intro db db' config row hConsistent hConfig hActive hCreated
  rw [createPhoneNumber, hStored] at hCreated
  obtain ⟨hKept, hJoined, hOrganization, hAddress, hRowActive, hOnly⟩ :=
    eq_of_created hConsistent hConfig (Except.ok.inj hCreated)
  constructor
  · rw [findActivePhoneNumberForInbound, hReported, Except.map, hSame]
    refine congrArg (fun found => Except.ok (Option.map Prod.snd found)) (head?_of_unique (a := (config, row)) ?_ ?_)
    · exact List.mem_filter.mpr ⟨hJoined, by simp [hOrganization, hAddress, hRowActive, hActive]⟩
    · intro other hOther
      obtain ⟨hMem, hWhere⟩ := List.mem_filter.mp hOther
      simp only [Bool.and_eq_true, decide_eq_true_eq] at hWhere
      exact hOnly other hMem hWhere.1.1.1.1 hWhere.1.1.1.2
  · intro accountIdField accountId hProvider hField hAccount hCredential
    have hGiven : ¬(config.provider = "" ∨ accountIdField = "" ∨ accountId = "" ∨ reported = "") := by
      simp [hProvider, hField, hAccount, hNonempty]
    have hKey : ¬(config.provider = "" ∨ accountIdField = "" ∨ accountId = "") := by
      simp [hProvider, hField, hAccount]
    have hMatch (organizationId : Option Nat) (h : organizationId.all (config.organizationId = ·) = true) :
        (config, row) ∈ db'.inboundRoutes config.provider accountIdField accountId
          (String.ofList normalized.canonical) organizationId :=
      List.mem_filter.mpr ⟨hJoined, by simpa [hCredential, hAddress, hRowActive, hActive] using h⟩
    constructor
    · rw [findInboundRouteByAccount, if_neg hGiven, hReported, Except.map, hSame]
      refine congrArg Except.ok ((if_neg hKey).trans (head?_of_unique (hMatch _ (by simp)) ?_))
      intro other hOther
      obtain ⟨hMem, hWhere⟩ := List.mem_filter.mp hOther
      simp only [Bool.and_eq_true, decide_eq_true_eq, Option.all_some] at hWhere
      exact hOnly other hMem ((organization_of_joined hKept hMem).symm.trans hWhere.2) hWhere.1.1.1.2
    · cases hHead : (db'.inboundRoutes config.provider accountIdField accountId
          (String.ofList normalized.canonical) none).head? with
      | none =>
        rw [List.head?_eq_none_iff] at hHead
        exact absurd (hHead ▸ hMatch none rfl) List.not_mem_nil
      | some found =>
        refine ⟨found, ?_, ?_⟩
        · rw [findInboundRouteByAccount, if_neg hGiven, hReported, Except.map, hSame]
          exact congrArg Except.ok ((if_neg hKey).trans hHead)
        · have hWhere := (List.mem_filter.mp (List.mem_of_mem_head? hHead)).2
          simp only [Bool.and_eq_true, decide_eq_true_eq] at hWhere
          rw [hAddress]
          exact hWhere.1.1.1.2

/-- The number has one canonical form in every way of writing it, and is found once it is stored. -/
def OneForm (unicode : Unicode) (digits : List Char) (countryCode countryHint : Option (List Char)) : Prop :=
  ∀ address reported : String, Writes address.toList digits → Writes reported.toList digits →
    (normalizeTelephonyAddress unicode address.toList countryCode).map (·.canonical) = .ok ('+' :: digits) ∧
      (normalizeTelephonyAddress unicode reported.toList countryHint).map (·.canonical) = .ok ('+' :: digits) ∧
      FoundAfterCreation unicode countryCode countryHint address reported

theorem writes_plain {digits : List Char} (hNumber : IsNumber unicode digits) : Writes ('+' :: digits) digits := by
  refine List.filter_eq_self.mpr (List.forall_mem_cons.mpr ⟨by decide, fun c hc => ?_⟩)
  have hDecimal := List.all_eq_true.mp hNumber.1 c hc
  have hOther (other : Char) (hAscii : other.toNat < 128) (hDigit : other.isDigit = false) : c ≠ other := by
    rintro rfl
    rw [unicode.decimal_ascii c hAscii, hDigit] at hDecimal
    nomatch hDecimal
  simp [isStripped, unicode.decimal_not_space c hDecimal, hOther '-' (by decide) (by decide),
    hOther '(' (by decide) (by decide), hOther ')' (by decide) (by decide)]

/-- A number that is written with a `+` has one form, whatever the country hints at its registration and at a lookup,
exactly when both hints keep its digits. -/
theorem oneForm_iff {digits : List Char} (hNumber : IsNumber unicode digits)
    (countryCode countryHint : Option (List Char)) :
    OneForm unicode digits countryCode countryHint ↔
      Keeps unicode countryCode digits ∧ Keeps unicode countryHint digits := by
  constructor
  · intro hOne
    have hPlain : Writes (String.ofList ('+' :: digits)).toList digits := by
      rw [String.toList_ofList]
      exact writes_plain hNumber
    obtain ⟨hStored, hReported, -⟩ := hOne _ _ hPlain hPlain
    rw [normalize_of_writes hNumber hPlain] at hStored hReported
    exact ⟨canonical_normalizePstn_iff.mp (Except.ok.inj hStored),
      canonical_normalizePstn_iff.mp (Except.ok.inj hReported)⟩
  · rintro ⟨hCode, hHint⟩ address reported hAddress hReported
    have hStoredForm := canonical_normalizePstn_iff.mpr hCode
    have hReportedForm := canonical_normalizePstn_iff.mpr hHint
    have hNonempty : reported ≠ "" := by
      rintro rfl
      nomatch hReported
    refine ⟨?_, ?_, ?_⟩
    · rw [normalize_of_writes hNumber hAddress]
      exact congrArg Except.ok hStoredForm
    · rw [normalize_of_writes hNumber hReported]
      exact congrArg Except.ok hReportedForm
    · exact found_of_normalized (normalize_of_writes hNumber hAddress _) (normalize_of_writes hNumber hReported _)
        (hReportedForm.trans hStoredForm.symm) hNonempty

theorem oneForm_local : OneForm ascii "918043071383".toList (some "IN".toList) none ↔
    Keeps ascii (some "IN".toList) "918043071383".toList ∧ Keeps ascii none "918043071383".toList :=
  oneForm_iff ⟨by decide, by decide⟩ _ _

theorem foreign_number_rewritten :
    normalizeTelephonyAddress ascii "+1 (555) 123-0002".toList (some "IN".toList) =
      .ok ⟨"+9115551230002".toList, .pstn, some "IN".toList⟩ ∧
    normalizeTelephonyAddress ascii "+15551230002".toList none = .ok ⟨"+15551230002".toList, .pstn, none⟩ ∧
    ¬∀ digits, IsNumber ascii digits → ∀ countryCode countryHint, OneForm ascii digits countryCode countryHint := by
  have hRewritten : normalizeTelephonyAddress ascii "+1 (555) 123-0002".toList (some "IN".toList) =
      .ok ⟨"+9115551230002".toList, .pstn, some "IN".toList⟩ := by decide +kernel
  refine ⟨hRewritten, by decide +kernel, fun hAll => ?_⟩
  have hWrites : Writes "+1 (555) 123-0002".toList "15551230002".toList := by
    rw [Writes]
    decide
  obtain ⟨hStored, -⟩ := hAll "15551230002".toList ⟨by decide, by decide⟩ (some "IN".toList) none _ _ hWrites hWrites
  rw [hRewritten] at hStored
  exact absurd (Except.ok.inj hStored) (by decide)

end FastVoice.PhoneNumbers
