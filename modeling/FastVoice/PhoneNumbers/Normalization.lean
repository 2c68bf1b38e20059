import FastVoice.PhoneNumbers.Registration
import FastVoice.PhoneNumbers.SipUris

/-! # Normalizing twice

A default port that is dropped may leave a space at the end, which the second time is stripped. A host in brackets is
not read, so that its default port is kept.
-/
namespace FastVoice.PhoneNumbers

section

variable {unicode : Unicode} {text out : List Char} {address : SipAddress}

/-! ## The canonical form -/

theorem Lowers.forall_of {p : Char → Bool} (hp : ∀ c, ¬Fixed unicode c → p c = true) (h : Lowers unicode text out)
    (hAll : ∀ c ∈ text, p c = true) : ∀ c ∈ out, p c = true := by
  intro c hc
  by_cases hFixed : Fixed unicode c
  · exact hAll c ((h.mem_iff hFixed).mp hc)
  · exact hp c hFixed

theorem Alone.lower {host : List Char} (h : Alone host) : Alone (unicode.lower host) := by
  have hAt : Fixed unicode '@' := fixed_of_mem (by decide)
  have hLowers := lowers_lower unicode host
  obtain ⟨hBefore, hBehind⟩ := hLowers.span (p := fun c => c ≠ '@') (b := true) fun c hOther => by
    simp only [ne_eq, decide_not, Bool.not_eq_true', decide_eq_false_iff_not]
    rintro rfl
    exact hOther hAt
  rcases h with h | h | h
  · exact .inl (hBefore.eq_nil_iff.mpr h)
  · exact .inr (.inl (hBehind.eq_nil_iff.mpr h))
  · rw [h] at hBehind
    obtain ⟨rest, hOut, hRest⟩ := hBehind.tail hAt
    exact .inr (.inr (by rw [hOut, hRest.eq_nil_iff.mpr rfl]))

theorem restOf_lower {rest : List Char} (h : restOf rest = some rest) :
    restOf (unicode.lower rest) = some (unicode.lower rest) := by
  have hSome := isSome_restOf (lowers_lower unicode rest)
  rw [h, Option.isSome_some, Option.isSome_iff_exists] at hSome
  obtain ⟨read, hRead⟩ := hSome
  rw [hRead, (restOf_eq_some hRead).1]

theorem keptPort_cases (address : SipAddress) : address.keptPort = address.port ∨
    address.port = some (defaultPort address.secure) ∧ address.keptPort = none := by
  rw [SipAddress.keptPort]
  split
  · rename_i hDefault
    exact .inr ⟨hDefault, rfl⟩
  · exact .inl rfl

theorem SipAddress.Reads.normalize (h : address.Reads unicode) : (address.normalize unicode).Reads unicode := by
  have hLowers := lowers_lower unicode address.host
  refine ⟨h.user, ⟨?_, ?_, ?_, ?_⟩, fun hNone => (h.alone hNone).lower⟩
  · exact fun hEmpty => h.found.nonempty (hLowers.eq_nil_iff.mp hEmpty)
  · exact hLowers.forall_of (fun c => isHostChar_of_not_fixed) h.found.host
  · rcases keptPort_cases address with hKept | ⟨-, hKept⟩
    · exact fun digits hPort => h.found.port digits (hKept.symm.trans hPort)
    · exact fun digits hPort => nomatch hKept.symm.trans hPort
  · by_cases hRest : address.rest = []
    · simp only [SipAddress.found, SipAddress.normalize, if_pos hRest]
      rfl
    · simp only [SipAddress.found, SipAddress.normalize, if_neg hRest]
      exact restOf_lower h.found.rest

theorem normalize_normalize : (address.normalize unicode).normalize unicode = address.normalize unicode := by
  have hPort : (address.normalize unicode).keptPort = address.keptPort := by
    rw [SipAddress.keptPort, if_neg]
    · rfl
    · intro hDefault
      rcases keptPort_cases address with hKept | ⟨-, hKept⟩
      · have hSame : address.port = some (defaultPort address.secure) := hKept.symm.trans hDefault
        have hNone : address.keptPort = none := if_pos hSame
        exact nomatch hNone.symm.trans hDefault
      · exact nomatch hKept.symm.trans hDefault
  rw [SipAddress.normalize, hPort]
  by_cases hRest : address.rest = []
  · simp [SipAddress.normalize, hRest, unicode.lower_lower]
  · have hLowered : unicode.lower address.rest ≠ [] :=
      fun hEmpty => hRest ((lowers_lower _ address.rest).eq_nil_iff.mp hEmpty)
    simp [SipAddress.normalize, hRest, hLowered, unicode.lower_lower]

/-! ## The end of a text -/

def EndsWithSpace (text : List Char) : Prop := ∃ c, text.getLast? = some c ∧ Text.isSpace c = true

theorem Lowers.endsWithSpace_iff (h : Lowers unicode text out) : EndsWithSpace out ↔ EndsWithSpace text := by
  rcases List.eq_nil_or_concat text with rfl | ⟨front, c, rfl⟩
  · rw [h.eq_nil_iff.mpr rfl]
  · rw [List.concat_eq_append] at h ⊢
    obtain ⟨first, second, rfl, -, hLast⟩ := h.split
    cases hLast with
    | @cons _ image _ _ hImage hNil =>
      rw [hNil.eq_nil_iff.mpr rfl, List.append_nil]
      by_cases hFixed : Fixed unicode c
      · rw [hImage.of_fixed hFixed]
        simp [EndsWithSpace]
      · obtain ⟨hNonempty, hOther⟩ := hImage.of_not_fixed hFixed
        refine iff_of_false ?_ ?_
        · rintro ⟨d, hLast, hSpace⟩
          rw [List.getLast?_append_of_ne_nil _ hNonempty] at hLast
          exact hOther d (List.mem_of_getLast? hLast) (.inl hSpace)
        · rintro ⟨d, hLast, hSpace⟩
          rw [List.getLast?_concat] at hLast
          cases hLast
          exact hFixed (.inl hSpace)

structure Stripped (text : List Char) : Prop where
  head : ∀ c, text.head? = some c → Text.isSpace c = false
  last : ¬EndsWithSpace text

theorem stripped_stripChars (text : List Char) : Stripped (Text.stripChars text) := by
  constructor
  · intro c hc
    obtain ⟨behind, hPrefix⟩ := List.rdropWhile_prefix Text.isSpace (text.dropWhile Text.isSpace)
    have hHead : (text.dropWhile Text.isSpace).head? = some c := by
      rw [← hPrefix, List.head?_append_of_ne_nil]
      · exact hc
      · intro hEmpty
        rw [Text.stripChars, hEmpty] at hc
        cases hc
    have hNot := List.head?_dropWhile_not Text.isSpace text
    rwa [hHead] at hNot
  · rintro ⟨c, hLast, hSpace⟩
    have hNonempty : Text.stripChars text ≠ [] := by
      intro hEmpty
      rw [hEmpty] at hLast
      cases hLast
    rw [List.getLast?_eq_some_getLast hNonempty, Option.some.injEq] at hLast
    exact List.rdropWhile_last_not Text.isSpace _ hNonempty (hLast ▸ hSpace)

theorem stripChars_of_stripped (h : Stripped text) : Text.stripChars text = text := by
  have hFront : text.dropWhile Text.isSpace = text := by
    cases text with
    | nil => rfl
    | cons c text =>
      have hNot : ¬Text.isSpace c = true := by
        rw [h.head c rfl]
        nofun
      exact List.dropWhile_cons_of_neg hNot
  rw [Text.stripChars, hFront, List.rdropWhile_eq_self_iff]
  exact fun hNonempty hSpace => h.last ⟨_, List.getLast?_eq_some_getLast hNonempty, hSpace⟩

theorem endsWithSpace_append {front back : List Char} (hBack : back ≠ []) :
    EndsWithSpace (front ++ back) ↔ EndsWithSpace back := by
  rw [EndsWithSpace, List.getLast?_append_of_ne_nil _ hBack, EndsWithSpace]

theorem not_endsWithSpace_of_decimal (hAll : ∀ c ∈ text, unicode.isDecimal c = true) : ¬EndsWithSpace text := by
  rintro ⟨c, hLast, hSpace⟩
  rw [unicode.decimal_not_space c (hAll c (List.mem_of_getLast? hLast))] at hSpace
  nomatch hSpace

theorem stripChars_append {front : List Char} (hFront : Stripped front) (hNonempty : front ≠ []) (back : List Char) :
    Text.stripChars (front ++ back) = front ++ back.rdropWhile Text.isSpace := by
  obtain ⟨c, rest, rfl⟩ := List.exists_cons_of_ne_nil hNonempty
  have hNot : ¬Text.isSpace c = true := by
    rw [hFront.head c rfl]
    nofun
  have hKept : (c :: rest).reverse.dropWhile Text.isSpace = (c :: rest).reverse := by
    have hSelf := stripChars_of_stripped hFront
    rw [Text.stripChars, List.dropWhile_cons_of_neg hNot, List.rdropWhile] at hSelf
    rw [← List.reverse_reverse (List.dropWhile _ _), hSelf]
  rw [Text.stripChars, List.cons_append, List.dropWhile_cons_of_neg hNot, ← List.cons_append, List.rdropWhile,
    List.rdropWhile, List.reverse_append, List.dropWhile_append, hKept]
  split
  · rename_i hEmpty
    rw [List.isEmpty_iff.mp hEmpty]
    simp
  · rw [List.reverse_append, List.reverse_reverse]

theorem schemeOf_eq_some {secure : Bool} (h : schemeOf text = some (secure, out)) : ∃ front, text = front ++ out := by
  rw [schemeOf] at h
  split at h
  · cases h
    exact ⟨_, (List.take_append_drop 4 text).symm⟩
  · split at h
    · cases h
      exact ⟨_, (List.take_append_drop 5 text).symm⟩
    · nomatch h

/-! ## Ports that are dropped behind a space -/

/-- A SIP URI without parameters and headers, with its default port behind a host that ends with a space. -/
def DropsBehindSpace (unicode : Unicode) (raw : List Char) : Prop :=
  startsSip (unicode.lower raw) = true ∧ ∃ address, matchSipUri unicode raw = some address ∧
    address.port = some (defaultPort address.secure) ∧ address.rest = [] ∧ EndsWithSpace address.host

theorem matchSipUri_eq_some (h : matchSipUri unicode text = some address) :
    (∃ front, text = front ++ address.body) ∧ address.Reads unicode := by
  obtain ⟨⟨secure, behind⟩, hScheme, hRead⟩ := Option.bind_eq_some_iff.mp h
  obtain ⟨-, rfl, hReads⟩ := sipAddressOf_eq_some_iff.mp hRead
  exact ⟨schemeOf_eq_some hScheme, hReads⟩

theorem write_normalize_ends (hReads : address.Reads unicode) (hStripped : Stripped text) {front : List Char}
    (hText : text = front ++ address.body) : EndsWithSpace (address.normalize unicode).write ↔
      address.port = some (defaultPort address.secure) ∧ address.rest = [] ∧ EndsWithSpace address.host := by
  have hHost : unicode.lower address.host ≠ [] :=
    fun hEmpty => hReads.found.nonempty ((lowers_lower _ _).eq_nil_iff.mp hEmpty)
  have hWrite : (address.normalize unicode).write = (schemeText address.secure ++ ':' :: userText address.user) ++
      (unicode.lower address.host ++ (portText address.keptPort ++ (address.normalize unicode).rest)) := by
    simp [SipAddress.write, SipAddress.body, SipAddress.normalize]
  have hBody : text = (front ++ userText address.user) ++
      (address.host ++ (portText address.port ++ address.rest)) := by
    rw [hText, SipAddress.body, List.append_assoc]
  by_cases hRest : address.rest = []
  · have hLowered : (address.normalize unicode).rest = [] := if_pos hRest
    rw [hWrite, hLowered, List.append_nil, endsWithSpace_append (by simp [hHost]), and_iff_right hRest]
    rw [hRest, List.append_nil] at hBody
    cases hKept : address.keptPort with
    | some digits =>
      have hPort : address.port = some digits := by
        rcases keptPort_cases address with hSame | ⟨-, hNone⟩
        · exact hSame.symm.trans hKept
        · cases hNone.symm.trans hKept
      have hDefault : address.port ≠ some (defaultPort address.secure) := by
        intro hDefault
        cases (if_pos hDefault : address.keptPort = none).symm.trans hKept
      obtain ⟨hNonempty, hDigits⟩ := hReads.found.port digits hPort
      refine iff_of_false ?_ fun h => hDefault h.1
      rw [portText, endsWithSpace_append (List.cons_ne_nil _ _), ← List.singleton_append,
        endsWithSpace_append hNonempty]
      exact not_endsWithSpace_of_decimal hDigits
    | none =>
      rw [portText, List.append_nil, (lowers_lower _ address.host).endsWithSpace_iff]
      rcases keptPort_cases address with hSame | ⟨hDefault, -⟩
      · rw [← hSame, hKept, portText, List.append_nil] at hBody
        have hNever : ¬EndsWithSpace address.host := by
          intro hSpace
          exact hStripped.last (hBody ▸ (endsWithSpace_append hReads.found.nonempty).mpr hSpace)
        exact iff_of_false hNever fun h => hNever h.2
      · exact (and_iff_right hDefault).symm
  · have hLowered : (address.normalize unicode).rest = unicode.lower address.rest := if_neg hRest
    have hNonempty : unicode.lower address.rest ≠ [] :=
      fun hEmpty => hRest ((lowers_lower _ _).eq_nil_iff.mp hEmpty)
    refine iff_of_false ?_ fun h => hRest h.2.1
    rw [hWrite, hLowered, ← List.append_assoc, ← List.append_assoc, endsWithSpace_append hNonempty,
      (lowers_lower _ address.rest).endsWithSpace_iff]
    intro hSpace
    rw [← List.append_assoc, ← List.append_assoc] at hBody
    exact hStripped.last (hBody ▸ (endsWithSpace_append hRest).mpr hSpace)

/-! ## Phone numbers -/

theorem isNumber_of_pstnDigits {digits : List Char} (h : pstnDigits unicode text = some digits) :
    IsNumber unicode digits := by
  obtain ⟨hNumber, hDigits⟩ := Option.ite_none_right_eq_some.mp h
  rw [Option.some.inj hDigits] at hNumber
  exact Bool.and_eq_true_iff.mp hNumber

theorem isDecimal_of_dial {countryHint : Option (List Char)} {dial : List Char}
    (h : dialOf unicode countryHint = some dial) : ∀ c ∈ dial, unicode.isDecimal c = true := by
  have hAll : ∀ entry ∈ COUNTRY_CODES, ∀ c ∈ entry.2.toList, c.toNat < 128 ∧ c.isDigit = true := by
    have hTable : (COUNTRY_CODES.all fun entry => entry.2.toList.all fun c => c.toNat < 128 && c.isDigit) = true := by
      decide +kernel
    intro entry hEntry c hc
    simpa using List.all_eq_true.mp (List.all_eq_true.mp hTable entry hEntry) c hc
  have hCode (hint : List Char) : ∀ c ∈ getCountryCode unicode hint, unicode.isDecimal c = true := by
    rw [getCountryCode]
    split
    · exact fun c hc => absurd hc List.not_mem_nil
    · cases hEntry : COUNTRY_CODES.lookup (String.ofList (unicode.upper hint)) with
      | none => exact fun c hc => absurd hc List.not_mem_nil
      | some code =>
        intro c hc
        obtain ⟨hAscii, hDigit⟩ := hAll _ (Python.Json.mem_of_lookup hEntry) c hc
        rw [unicode.decimal_ascii c hAscii, hDigit]
  unfold dialOf at h
  split at h
  · nomatch h
  · split at h
    · nomatch h
    · cases h
      exact hCode _

theorem normalizePstn_form {digits : List Char} (hNumber : IsNumber unicode digits)
    (countryHint : Option (List Char)) : ∃ digits',
      (normalizePstn unicode digits countryHint).canonical = '+' :: digits' ∧ IsNumber unicode digits' ∧
      Keeps unicode countryHint digits' ∧ (normalizePstn unicode digits countryHint).addressType = .pstn := by
  by_cases hKeeps : Keeps unicode countryHint digits
  · refine ⟨digits, canonical_normalizePstn_iff.mpr hKeeps, hNumber, hKeeps, ?_⟩
    rw [normalizePstn]
    split <;> rfl
  · rw [Keeps] at hKeeps
    simp only [not_forall, not_or, Bool.not_eq_false] at hKeeps
    obtain ⟨dial, hDial, hOther, hSane⟩ := hKeeps
    refine ⟨dial ++ digits.dropWhile (· = '0'), ?_, ⟨?_, hSane⟩, ?_, ?_⟩
    · rw [normalizePstn, hDial]
      simp only [List.isPrefixOf_iff_prefix, if_neg hOther, if_pos hSane]
    · rw [List.all_append, Bool.and_eq_true, List.all_eq_true, List.all_eq_true]
      exact ⟨isDecimal_of_dial hDial, fun c hc =>
        List.all_eq_true.mp hNumber.1 c ((List.dropWhile_sublist _).subset hc)⟩
    · intro other hSame
      cases Option.some.inj (hDial.symm.trans hSame)
      exact .inl (List.prefix_append _ _)
    · rw [normalizePstn, hDial]

theorem canonical_ends_iff (unicode : Unicode) (hStripped : Stripped text) (countryHint : Option (List Char)) :
    EndsWithSpace (normalizeStripped unicode text countryHint).canonical ↔ DropsBehindSpace unicode text := by
  have hLower : ¬EndsWithSpace (unicode.lower text) :=
    fun hSpace => hStripped.last ((lowers_lower _ text).endsWithSpace_iff.mp hSpace)
  rw [normalizeStripped, DropsBehindSpace]
  cases hSip : startsSip (unicode.lower text) with
  | true =>
    rw [if_pos rfl, normalizeSipUri]
    cases hMatch : matchSipUri unicode text with
    | none => exact iff_of_false hLower (by simp)
    | some address =>
      obtain ⟨⟨front, hText⟩, hReads⟩ := matchSipUri_eq_some hMatch
      dsimp only
      rw [write_normalize_ends hReads hStripped hText]
      simp
  | false =>
    rw [if_neg Bool.false_ne_true]
    refine iff_of_false ?_ (by simp)
    cases hDigits : pstnDigits unicode text with
    | none => exact hLower
    | some digits =>
      obtain ⟨digits', hForm, hNumber, -⟩ := normalizePstn_form (isNumber_of_pstnDigits hDigits) countryHint
      have hNonempty : digits' ≠ [] := by
        rintro rfl
        exact absurd hNumber.2 (by decide)
      dsimp only
      rw [hForm, ← List.singleton_append, endsWithSpace_append hNonempty]
      exact not_endsWithSpace_of_decimal (List.all_eq_true.mp hNumber.1)

/-! ## The second time -/

def Stable (unicode : Unicode) (raw : List Char) (countryHint : Option (List Char)) : Prop :=
  ∀ normalized, normalizeTelephonyAddress unicode raw countryHint = .ok normalized →
    ∃ again, normalizeTelephonyAddress unicode normalized.canonical countryHint = .ok again ∧
      again.canonical = normalized.canonical ∧ again.addressType = normalized.addressType

theorem stripped_lower (h : Stripped text) : Stripped (unicode.lower text) := by
  have hLowers := lowers_lower unicode text
  refine ⟨fun c hc => ?_, fun hSpace => h.last (hLowers.endsWithSpace_iff.mp hSpace)⟩
  refine Bool.eq_false_iff.mpr fun hSpace => ?_
  obtain ⟨rest, hOut⟩ := List.head?_eq_some_iff.mp hc
  obtain ⟨before, hText, -⟩ := hLowers.head (.inl hSpace) hOut
  rw [h.head c (congrArg List.head? hText)] at hSpace
  nomatch hSpace

theorem ascii_of_toLower {c : Char} (h : c.toLower.toNat < 128) : c.toNat < 128 := by
  by_contra hOther
  rw [toLower_of_not_ascii hOther] at h
  exact hOther h

theorem lower_of_startsSip (h : startsSip (unicode.lower text) = true) : ∃ secure behind out,
    schemeOf text = some (secure, behind) ∧ schemeOf (unicode.lower text) = some (secure, out) ∧
      Lowers unicode behind out := by
  have hBehind (name : String) (hName : name ∈ ["sip:", "sips:"]) (hPrefix : name.toList <+: unicode.lower text) :
      (text.take name.length).map Char.toLower = name.toList ∧ ∃ out,
        unicode.lower text = name.toList ++ out ∧ Lowers unicode (text.drop name.length) out := by
    have hTake := unicode.scheme text name hName hPrefix
    have hLowers := lowers_lower unicode text
    generalize unicode.lower text = lowered at *
    rw [← List.take_append_drop name.length text] at hLowers
    obtain ⟨first, out, hOut, hFirst, hRest⟩ := hLowers.split
    have hAscii : ∀ c ∈ text.take name.length, c.toNat < 128 := by
      intro c hc
      have hMem : c.toLower ∈ name.toList := hTake ▸ List.mem_map_of_mem hc
      have hAll : ∀ name ∈ ["sip:", "sips:"], ∀ c ∈ name.toList, c.toNat < 128 :=
        List.forall_mem_cons.mpr ⟨Text.forall_of_all (by decide),
          List.forall_mem_singleton.mpr (Text.forall_of_all (by decide))⟩
      exact ascii_of_toLower (hAll name hName _ hMem)
    refine ⟨hTake, out, ?_, hRest⟩
    rw [hOut, hFirst.eq_of_ascii hAscii, hTake]
  rw [startsSip, Bool.or_eq_true, List.isPrefixOf_iff_prefix, List.isPrefixOf_iff_prefix] at h
  rcases h with h | h
  · obtain ⟨hTake, out, hOut, hLowers⟩ := hBehind "sip:" (by simp) h
    refine ⟨false, text.drop 4, out, if_pos hTake, ?_, hLowers⟩
    rw [hOut]
    rfl
  · obtain ⟨hTake, out, hOut, hLowers⟩ := hBehind "sips:" (by simp) h
    have hOther : ¬(text.take 4).map Char.toLower = "sip:".toList := by
      intro hFour
      have hFirst := congrArg (List.take 4) hTake
      rw [← List.map_take, List.take_take] at hFirst
      exact absurd (hFour.symm.trans hFirst) (by decide)
    refine ⟨true, text.drop 5, out, ?_, ?_, hLowers⟩
    · rw [schemeOf, if_neg hOther]
      exact if_pos hTake
    · rw [hOut]
      rfl

theorem fixed_of_isStripped {c : Char} (h : isStripped c = true) : Fixed unicode c := by
  simp only [isStripped, Bool.or_eq_true, decide_eq_true_eq] at h
  rcases h with ((h | rfl) | rfl) | rfl
  · exact .inl h
  · exact fixed_of_mem (by decide)
  · exact fixed_of_mem (by decide)
  · exact fixed_of_mem (by decide)

theorem pstnDigits_lower (h : pstnDigits unicode text = none) : pstnDigits unicode (unicode.lower text) = none := by
  cases hDigits : pstnDigits unicode (unicode.lower text) with
  | none => rfl
  | some digits =>
    have hAll : ∀ c ∈ unicode.lower text, Fixed unicode c := by
      intro c hc
      cases hStripped : isStripped c with
      | true => exact fixed_of_isStripped hStripped
      | false =>
        have hKept : c ∈ (unicode.lower text).filter fun c => !isStripped c :=
          List.mem_filter.mpr ⟨hc, by rw [hStripped]; rfl⟩
        obtain ⟨hNumber, -⟩ := Option.ite_none_right_eq_some.mp hDigits
        have hDecimal := List.all_eq_true.mp (Bool.and_eq_true_iff.mp hNumber).1
        generalize (unicode.lower text).filter (fun c => !isStripped c) = kept at *
        split at hDecimal
        · rename_i hPlus
          obtain ⟨rest, rfl⟩ := List.head?_eq_some_iff.mp hPlus
          rcases List.mem_cons.mp hKept with rfl | hRest
          · exact fixed_of_mem (by decide)
          · exact .inr (.inl (hDecimal c hRest))
        · exact .inr (.inl (hDecimal c hKept))
    rw [← (lowers_lower _ text).eq_of_fixed hAll, h] at hDigits
    nomatch hDigits

theorem normalize_of_stripped (hStripped : Stripped text) (hNonempty : text ≠ []) (countryHint : Option (List Char)) :
    normalizeTelephonyAddress unicode text countryHint = .ok (normalizeStripped unicode text countryHint) := by
  rw [normalizeTelephonyAddress, stripChars_of_stripped hStripped, if_neg hNonempty]

theorem rdropWhile_append {α : Type} (p : α → Bool) (l : List α) :
    ∃ last, l = l.rdropWhile p ++ last ∧ ∀ a ∈ last, p a = true := by
  refine ⟨(l.reverse.takeWhile p).reverse, ?_, fun a ha => List.mem_takeWhile_imp (List.mem_reverse.mp ha)⟩
  rw [List.rdropWhile, ← List.reverse_append, List.takeWhile_append_dropWhile, List.reverse_reverse]

theorem head_write (address : SipAddress) : address.write.head? = some 's' := by
  rw [SipAddress.write]
  cases address.secure <;> rfl

theorem normalizeStripped_again (hStripped : Stripped text) (hNonempty : text ≠ [])
    (countryHint : Option (List Char)) (hKept : ¬DropsBehindSpace unicode text) :
    Stripped (normalizeStripped unicode text countryHint).canonical ∧
      (normalizeStripped unicode text countryHint).canonical ≠ [] ∧
      (normalizeStripped unicode (normalizeStripped unicode text countryHint).canonical countryHint).canonical =
        (normalizeStripped unicode text countryHint).canonical ∧
      (normalizeStripped unicode (normalizeStripped unicode text countryHint).canonical countryHint).addressType =
        (normalizeStripped unicode text countryHint).addressType := by
  have hLast := mt (canonical_ends_iff unicode hStripped countryHint).mp hKept
  have hLower : unicode.lower text ≠ [] := fun hEmpty => hNonempty ((lowers_lower _ text).eq_nil_iff.mp hEmpty)
  generalize hForm : normalizeStripped unicode text countryHint = form at *
  rw [normalizeStripped] at hForm
  cases hSip : startsSip (unicode.lower text) with
  | true =>
    rw [hSip, if_pos rfl, normalizeSipUri] at hForm
    obtain ⟨secure, behind, out, hScheme, hLowered, hLowers⟩ := lower_of_startsSip hSip
    cases hMatch : matchSipUri unicode text with
    | none =>
      -- a malformed URI stays malformed
      rw [hMatch] at hForm
      subst hForm
      have hAgain : matchSipUri unicode (unicode.lower text) = none := by
        rw [matchSipUri, hScheme] at hMatch
        rw [matchSipUri, hLowered]
        exact sipAddressOf_lowered hLowers hMatch
      refine ⟨stripped_lower hStripped, hLower, ?_⟩
      dsimp only
      rw [normalizeStripped, unicode.lower_lower, hSip, if_pos rfl, normalizeSipUri, hAgain]
      exact ⟨unicode.lower_lower text, rfl⟩
    | some address =>
      rw [hMatch] at hForm
      subst hForm
      have hReads := (matchSipUri_eq_some hMatch).2.normalize
      refine ⟨⟨fun c hc => ?_, hLast⟩, ?_, ?_⟩
      · rw [head_write _] at hc
        cases hc
        rfl
      · intro hEmpty
        have hHead := head_write (address.normalize unicode)
        rw [show (address.normalize unicode).write = [] from hEmpty] at hHead
        cases hHead
      · dsimp only
        rw [normalizeStripped, startsSip_write, if_pos rfl, normalizeSipUri, matchSipUri_write hReads]
        exact ⟨congrArg SipAddress.write normalize_normalize, rfl⟩
  | false =>
    rw [hSip, if_neg Bool.false_ne_true] at hForm
    cases hDigits : pstnDigits unicode text with
    | none =>
      rw [hDigits] at hForm
      subst hForm
      refine ⟨stripped_lower hStripped, hLower, ?_⟩
      dsimp only
      rw [normalizeStripped, unicode.lower_lower, hSip, if_neg Bool.false_ne_true, pstnDigits_lower hDigits]
      exact ⟨rfl, rfl⟩
    | some digits =>
      rw [hDigits] at hForm
      subst hForm
      obtain ⟨digits', hCanonical, hNumber, hKeeps, hType⟩ :=
        normalizePstn_form (isNumber_of_pstnDigits hDigits) countryHint
      dsimp only at hLast ⊢
      rw [hCanonical] at hLast ⊢
      have hPlus : Stripped ('+' :: digits') := by
        refine ⟨fun c hc => ?_, hLast⟩
        cases Option.some.inj hc
        decide
      have hAgain := normalize_of_writes hNumber (writes_plain hNumber) countryHint
      rw [normalize_of_stripped hPlus (List.cons_ne_nil _ _)] at hAgain
      rw [Except.ok.inj hAgain, canonical_normalizePstn_iff.mpr hKeeps, hType]
      obtain ⟨-, -, -, -, hSame⟩ := normalizePstn_form hNumber countryHint
      exact ⟨hPlus, List.cons_ne_nil _ _, rfl, hSame⟩

theorem not_drops_again (hReads : address.Reads unicode) (hPort : address.keptPort = none) (hRest : address.rest = []) :
    ¬DropsBehindSpace unicode (Text.stripChars (address.normalize unicode).write) := by
  rintro ⟨-, again, hMatch, hDefault, hNoRest, -⟩
  have hWrite : (address.normalize unicode).write = (schemeText address.secure ++ [':']) ++
      (userText address.user ++ unicode.lower address.host) := by
    simp [SipAddress.write, SipAddress.body, SipAddress.normalize, hPort, hRest, portText]
  have hFront : Stripped (schemeText address.secure ++ [':']) := by
    have hAll : ∀ secure, (schemeText secure ++ [':']).head? = some 's' ∧
        (schemeText secure ++ [':']).getLast? = some ':' := by decide
    obtain ⟨hHead, hLast⟩ := hAll address.secure
    refine ⟨fun c hc => ?_, ?_⟩
    · cases Option.some.inj (hHead.symm.trans hc)
      decide
    · rintro ⟨c, hc, hSpace⟩
      cases Option.some.inj (hLast.symm.trans hc)
      cases hSpace
  rw [hWrite, stripChars_append hFront (by simp)] at hMatch
  have hScheme (behind : List Char) : schemeOf ((schemeText address.secure ++ [':']) ++ behind) =
      some (address.secure, behind) := by
    cases address.secure <;> rfl
  rw [matchSipUri, hScheme] at hMatch
  obtain ⟨-, hBody, hAgain⟩ := sipAddressOf_eq_some_iff.mp (show sipAddressOf unicode _ _ = some again from hMatch)
  replace hBody : (userText address.user ++ unicode.lower address.host).rdropWhile Text.isSpace = again.body := hBody
  have hHost := hReads.normalize.found.host
  have hColon : ':' ∉ unicode.lower address.host := by
    intro hMem
    cases hHost ':' hMem
  obtain ⟨spaces, hSplit, hSpaces⟩ := rdropWhile_append Text.isSpace
    (userText address.user ++ unicode.lower address.host)
  have hText : userText address.user ++ unicode.lower address.host =
      (userText again.user ++ again.host) ++ ':' :: (defaultPort again.secure ++ spaces) := by
    rw [hSplit, hBody, SipAddress.body, hDefault, hNoRest]
    simp [portText]
  have hBehind : '@' ∉ defaultPort again.secure ++ spaces := by
    intro hMem
    rcases List.mem_append.mp hMem with hPortMem | hSpaceMem
    · have hAll : ∀ secure, '@' ∉ defaultPort secure := by decide
      exact hAll again.secure hPortMem
    · cases hSpaces '@' hSpaceMem
  cases hUser : address.user with
  | none =>
    rw [hUser, userText, List.nil_append] at hText
    exact hColon (hText ▸ List.mem_append_right _ List.mem_cons_self)
  | some user =>
    rw [hUser, userText, List.append_assoc, List.singleton_append] at hText
    rcases List.append_eq_append_iff.mp hText with ⟨middle, -, hTail⟩ | ⟨middle, -, hTail⟩
    · have hMem : ':' ∈ '@' :: unicode.lower address.host := hTail ▸ List.mem_append_right _ List.mem_cons_self
      rcases List.mem_cons.mp hMem with h | h
      · cases h
      · exact hColon h
    · have hMem : '@' ∈ ':' :: (defaultPort again.secure ++ spaces) :=
        hTail ▸ List.mem_append_right _ List.mem_cons_self
      rcases List.mem_cons.mp hMem with h | h
      · cases h
      · exact hBehind h

theorem stable_iff {raw : List Char} (hNonempty : Text.stripChars raw ≠ []) (countryHint : Option (List Char)) :
    Stable unicode raw countryHint ↔ ¬DropsBehindSpace unicode (Text.stripChars raw) := by
  have hStripped := stripped_stripChars raw
  have hFirst : normalizeTelephonyAddress unicode raw countryHint =
      .ok (normalizeStripped unicode (Text.stripChars raw) countryHint) := if_neg hNonempty
  constructor
  · intro hStable hDrops
    obtain ⟨again, hAgain, hSame, -⟩ := hStable _ hFirst
    have hSpace := (canonical_ends_iff unicode hStripped countryHint).mpr hDrops
    obtain ⟨hSip, address, hMatch, hDefault, hRest, -⟩ := hDrops
    have hForm : (normalizeStripped unicode (Text.stripChars raw) countryHint).canonical =
        (address.normalize unicode).write := by
      rw [normalizeStripped, hSip, if_pos rfl, normalizeSipUri, hMatch]
    rw [hForm, normalizeTelephonyAddress] at hAgain
    rw [← hSame] at hSpace
    split at hAgain
    · cases hAgain
    · cases hAgain
      exact not_drops_again (matchSipUri_eq_some hMatch).2 (if_pos hDefault) hRest
        ((canonical_ends_iff unicode (stripped_stripChars _) countryHint).mp hSpace)
  · intro hKept normalized hNormalized
    cases Except.ok.inj (hFirst.symm.trans hNormalized)
    obtain ⟨hForm, hSome, hCanonical, hType⟩ := normalizeStripped_again hStripped hNonempty countryHint hKept
    exact ⟨_, normalize_of_stripped hForm hSome countryHint, hCanonical, hType⟩

/-! ## Ways of writing a URI -/

def isIpv6Char (c : Char) : Bool := c.isDigit || "abcdefABCDEF:.".toList.contains c

structure SipUri where
  scheme : List Char
  address : SipAddress

def SipUri.written (uri : SipUri) : List Char := uri.scheme ++ ':' :: uri.address.body

/-- The grammar of a URI. A host with a colon is an IPv6 address in brackets. -/
structure SipUri.WellFormed (unicode : Unicode) (uri : SipUri) : Prop where
  scheme : uri.scheme.map Char.toLower = schemeText uri.address.secure
  user : ∀ user, uri.address.user = some user → IsUser user
  nonempty : uri.address.host ≠ []
  host : ∀ c ∈ uri.address.host, isUserChar c = true
  bracketed : ':' ∈ uri.address.host → ∃ inner, uri.address.host = '[' :: (inner ++ [']']) ∧
    ∀ c ∈ inner, isIpv6Char c = true
  port : IsPort unicode uri.address.port
  rest : restOf uri.address.rest = some uri.address.rest
  spaceless : ∀ c ∈ uri.written, Text.isSpace c = false

/-- The URIs differ in the case of the scheme and the host only, or in a default port that is written. -/
structure SipUri.Same (unicode : Unicode) (uri other : SipUri) : Prop where
  secure : uri.address.secure = other.address.secure
  user : uri.address.user = other.address.user
  host : unicode.lower uri.address.host = unicode.lower other.address.host
  port : uri.address.keptPort = other.address.keptPort
  rest : uri.address.rest = other.address.rest

theorem hostOf_of_bracket {front back : List Char} (hColon : ':' ∈ front) (hFront : ∀ c ∈ front, c ≠ ';' ∧ c ≠ '?') :
    hostOf unicode (front ++ ']' :: back) = none := by
  have hBracket {rest : List Char} (hRest : restOf rest = some rest) (tail : List Char) : rest ≠ ']' :: tail := by
    rintro rfl
    rcases head_of_restOf hRest rfl with h | h <;> nomatch h
  have hDelimiter {rest : List Char} (hRest : restOf rest = some rest) {c : Char} {tail : List Char}
      (hSame : rest = c :: tail) (hMem : c ∈ front) : False := by
    rcases head_of_restOf hRest (congrArg List.head? hSame) with rfl | rfl
    · exact (hFront _ hMem).1 rfl
    · exact (hFront _ hMem).2 rfl
  cases hFound : hostOf unicode (front ++ ']' :: back) with
  | none => rfl
  | some found =>
    exfalso
    obtain ⟨hText, hReads⟩ := hostOf_eq_some_iff.mp hFound
    have hNoColon : ':' ∉ found.host := fun hMem => nomatch hReads.host ':' hMem
    obtain ⟨host, port, rest⟩ := found
    rcases List.append_eq_append_iff.mp hText with ⟨middle, hHost, -⟩ | ⟨middle, hSame, hTail⟩
    · exact hNoColon (hHost ▸ List.mem_append_left _ hColon)
    · rw [hSame] at hColon
      have hMiddle := (List.mem_append.mp hColon).resolve_left hNoColon
      obtain ⟨c, middle, rfl⟩ := List.exists_cons_of_ne_nil (List.ne_nil_of_mem hMiddle)
      have hMem : c ∈ front := hSame ▸ List.mem_append_right _ List.mem_cons_self
      cases port with
      | none => exact hDelimiter hReads.rest hTail hMem
      | some digits =>
        have hDigits : digits ++ rest = middle ++ ']' :: back := (List.cons.inj hTail).2
        rcases List.append_eq_append_iff.mp hDigits with ⟨more, hMore, hRest⟩ | ⟨more, hMore, hRest⟩
        · cases more with
          | nil => exact hBracket hReads.rest back hRest
          | cons d more =>
            refine hDelimiter hReads.rest hRest (hSame ▸ List.mem_append_right _ (List.mem_cons_of_mem _ ?_))
            exact hMore ▸ List.mem_append_right _ List.mem_cons_self
        · cases more with
          | nil => exact hBracket hReads.rest back hRest.symm
          | cons d more =>
            have hSameChar : ']' = d := (List.cons.inj hRest).1
            have hDecimal := (hReads.port digits rfl).2 d (hMore ▸ List.mem_append_right _ List.mem_cons_self)
            rw [← hSameChar, isDecimal_delimiter (by decide) (by decide)] at hDecimal
            nomatch hDecimal

namespace SipUri

variable {uri other : SipUri}

theorem stripChars_written (h : uri.WellFormed unicode) : Text.stripChars uri.written = uri.written := by
  refine stripChars_of_stripped ⟨fun c hc => h.spaceless c (List.mem_of_mem_head? hc), ?_⟩
  rintro ⟨c, hLast, hSpace⟩
  rw [h.spaceless c (List.mem_of_getLast? hLast)] at hSpace
  nomatch hSpace

theorem schemeOf_written (h : uri.WellFormed unicode) :
    schemeOf uri.written = some (uri.address.secure, uri.address.body) := by
  have hScheme := h.scheme
  have hLength := congrArg List.length hScheme
  rw [List.length_map] at hLength
  rw [written]
  generalize uri.scheme = scheme at *
  cases hSecure : uri.address.secure with
  | false =>
    rw [hSecure] at hLength hScheme
    obtain ⟨a, b, c, rfl⟩ := List.length_eq_three.mp hLength
    refine if_pos ?_
    change [a, b, c].map Char.toLower ++ [':'] = "sip:".toList
    rw [hScheme]
    rfl
  | true =>
    rw [hSecure] at hLength hScheme
    obtain ⟨a, b, c, d, rfl⟩ : ∃ a b c d, scheme = [a, b, c, d] := by
      match scheme, hLength with
      | [a, b, c, d], _ => exact ⟨a, b, c, d, rfl⟩
    rw [schemeOf, if_neg]
    · refine if_pos ?_
      change [a, b, c, d].map Char.toLower ++ [':'] = "sips:".toList
      rw [hScheme]
      rfl
    · change ¬[a, b, c, d].map Char.toLower = "sip:".toList
      rw [hScheme]
      decide

theorem startsSip_written (h : uri.WellFormed unicode) : startsSip (unicode.lower uri.written) = true := by
  have hAscii : ∀ c ∈ uri.scheme, c.toNat < 128 := by
    intro c hc
    have hMem : c.toLower ∈ schemeText uri.address.secure := h.scheme ▸ List.mem_map_of_mem hc
    have hAll : ∀ secure, ∀ c ∈ schemeText secure, c.toNat < 128 :=
      Bool.forall_bool.mpr ⟨Text.forall_of_all (by decide), Text.forall_of_all (by decide)⟩
    exact ascii_of_toLower (hAll _ _ hMem)
  have hLowers := lowers_lower unicode uri.written
  rw [written] at hLowers ⊢
  obtain ⟨first, second, hOut, hFirst, hSecond⟩ := hLowers.split
  obtain ⟨rest, hRest, -⟩ := hSecond.tail (fixed_of_mem (by decide))
  rw [hOut, hFirst.eq_of_ascii hAscii, h.scheme, hRest]
  cases uri.address.secure with
  | false => rfl
  | true => rfl

theorem canonical_written (h : uri.WellFormed unicode) (countryHint : Option (List Char)) :
    (normalizeTelephonyAddress unicode uri.written countryHint).map (·.canonical) =
      .ok (match sipAddressOf unicode uri.address.secure uri.address.body with
        | none => unicode.lower uri.written
        | some address => (address.normalize unicode).write) := by
  have hNonempty : uri.written ≠ [] := by simp [written]
  rw [normalizeTelephonyAddress, stripChars_written h, if_neg hNonempty, normalizeStripped, startsSip_written h,
    if_pos rfl, normalizeSipUri, matchSipUri, schemeOf_written h]
  change Except.ok (NormalizedAddress.canonical
    (match sipAddressOf unicode _ _ with | none => _ | some address => _)) = _
  cases sipAddressOf unicode uri.address.secure uri.address.body <;> rfl

theorem sipAddressOf_of_plain (h : uri.WellFormed unicode) (hPlain : ':' ∉ uri.address.host) :
    sipAddressOf unicode uri.address.secure uri.address.body = some uri.address := by
  have hHost : ∀ c ∈ uri.address.host, isHostChar c = true := by
    intro c hc
    have hUser := h.host c hc
    simp only [isUserChar, Bool.and_eq_true, decide_eq_true_eq] at hUser
    have hColon : c ≠ ':' := fun hSame => hPlain (hSame ▸ hc)
    simp [isHostChar, hColon, hUser.1.2, hUser.2]
  have hNoAt : uri.address.host.dropWhile (· ≠ '@') = [] := by
    rw [List.dropWhile_eq_nil_iff]
    intro c hc
    have hUser := h.host c hc
    simp only [isUserChar, Bool.and_eq_true, decide_eq_true_eq] at hUser
    simpa using hUser.1.1
  exact sipAddressOf_eq_some_iff.mpr
    ⟨rfl, rfl, h.user, ⟨h.nonempty, hHost, h.port, h.rest⟩, fun _ => .inr (.inl hNoAt)⟩

theorem withUser_of_no_at (unicode : Unicode) {front rest : List Char} (hFront : ∀ c ∈ front, isUserChar c = true)
    (hRest : restOf rest = some rest) : withUser unicode (front ++ rest) = none := by
  cases hRead : withUser unicode (front ++ rest) with
  | none => rfl
  | some read =>
    exfalso
    obtain ⟨user, found⟩ := read
    obtain ⟨hText, ⟨-, hUser⟩, -⟩ := withUser_eq_some_iff.mp hRead
    rcases List.append_eq_append_iff.mp hText with ⟨middle, hSame, hTail⟩ | ⟨middle, hSame, hTail⟩
    · cases middle with
      | nil => rcases head_of_restOf hRest (congrArg List.head? hTail) with h | h <;> nomatch h
      | cons c middle =>
        have hChar := hUser c (hSame ▸ List.mem_append_right _ List.mem_cons_self)
        rcases head_of_restOf hRest (congrArg List.head? hTail) with rfl | rfl <;> nomatch hChar
    · cases middle with
      | nil => rcases head_of_restOf hRest (congrArg List.head? hTail.symm) with h | h <;> nomatch h
      | cons c middle =>
        have hChar := hFront c (hSame ▸ List.mem_append_right _ List.mem_cons_self)
        rw [← (List.cons.inj hTail).1] at hChar
        nomatch hChar

theorem ne_of_isUserChar {c : Char} (h : isUserChar c = true) : c ≠ ';' ∧ c ≠ '?' := by
  simp only [isUserChar, Bool.and_eq_true, decide_eq_true_eq] at h
  exact ⟨h.1.2, h.2⟩

theorem sipAddressOf_of_colon (h : uri.WellFormed unicode) (hColon : ':' ∈ uri.address.host) :
    sipAddressOf unicode uri.address.secure uri.address.body = none := by
  obtain ⟨inner, hHost, -⟩ := h.bracketed hColon
  have hUserChar := h.host
  rw [hHost] at hColon hUserChar
  have hInner : ':' ∈ '[' :: inner := by simpa using hColon
  have hChars : ∀ c ∈ '[' :: inner, isUserChar c = true := fun c hc =>
    hUserChar c (by simpa [List.mem_cons, or_assoc] using Or.inl (List.mem_cons.mp hc))
  have hBracket (front : List Char) (hFront : ∀ c ∈ front, c ≠ ';' ∧ c ≠ '?') : hostOf unicode
      (front ++ (uri.address.host ++ (portText uri.address.port ++ uri.address.rest))) = none := by
    have hText : front ++ (uri.address.host ++ (portText uri.address.port ++ uri.address.rest)) =
        (front ++ '[' :: inner) ++ ']' :: (portText uri.address.port ++ uri.address.rest) := by
      rw [hHost]
      simp
    rw [hText]
    refine hostOf_of_bracket (List.mem_append_right _ hInner) fun c hc => ?_
    exact (List.mem_append.mp hc).elim (hFront c) fun hc => ne_of_isUserChar (hChars c hc)
  rw [sipAddressOf, SipAddress.body]
  cases hUser : uri.address.user with
  | none =>
    have hFront : ∀ c ∈ uri.address.host ++ portText uri.address.port, isUserChar c = true := fun c hc =>
      (List.mem_append.mp hc).elim (h.host c) (no_at_of_port h.port c)
    have hNone := withUser_of_no_at unicode hFront h.rest
    rw [List.append_assoc] at hNone
    rw [userText, List.nil_append, hNone]
    exact congrArg (Option.map _) (hBracket [] fun c hc => absurd hc List.not_mem_nil)
  | some user =>
    obtain ⟨-, hAll⟩ := h.user user hUser
    have hNone : withUser unicode (userText (some user) ++
        (uri.address.host ++ (portText uri.address.port ++ uri.address.rest))) = none := by
      cases hRead : withUser unicode (userText (some user) ++
          (uri.address.host ++ (portText uri.address.port ++ uri.address.rest))) with
      | none => rfl
      | some read =>
        obtain ⟨other, found⟩ := read
        obtain ⟨hText, ⟨-, hOther⟩, hReads⟩ := withUser_eq_some_iff.mp hRead
        rw [userText, List.append_assoc, List.singleton_append] at hText
        have hUser : '@' ∉ user := fun hMem => by cases hAll '@' hMem
        have hRead : '@' ∉ other := fun hMem => by cases hOther '@' hMem
        obtain ⟨-, hSame⟩ := Text.split_first hUser hRead hText
        have hFound := hostOf_eq_some_iff.mpr ⟨rfl, hReads⟩
        rw [← hSame] at hFound
        cases (hBracket [] fun c hc => absurd hc List.not_mem_nil).symm.trans hFound
    rw [hNone]
    refine congrArg (Option.map _) (hBracket _ fun c hc => ?_)
    rcases List.mem_append.mp hc with hc | hc
    · exact ne_of_isUserChar (hAll c hc)
    · rw [List.mem_singleton.mp hc]
      decide

/-! ## Two ways of writing a URI -/

theorem toLower_host (h : uri.WellFormed unicode) (hColon : ':' ∈ uri.address.host) :
    unicode.lower uri.address.host = uri.address.host.map Char.toLower := by
  obtain ⟨inner, hHost, hInner⟩ := h.bracketed hColon
  refine (lowers_lower _ uri.address.host).eq_of_ascii fun c hc => ?_
  rw [hHost] at hc
  have hAscii : ∀ c ∈ inner, c.toNat < 128 := by
    intro c hc
    have hKind := hInner c hc
    rw [isIpv6Char, Bool.or_eq_true] at hKind
    rcases hKind with hDigit | hOther
    · by_contra hNot
      rw [not_isDigit_of_not_ascii hNot] at hDigit
      nomatch hDigit
    · have hAll : ∀ c ∈ "abcdefABCDEF:.".toList, c.toNat < 128 := Text.forall_of_all (by decide)
      exact hAll c (by simpa using hOther)
  simp only [List.mem_cons, List.mem_append, List.not_mem_nil, or_false] at hc
  rcases hc with rfl | hc | rfl
  · decide
  · exact hAscii c hc
  · decide

theorem colon_iff (hSame : uri.Same unicode other) : ':' ∈ uri.address.host ↔ ':' ∈ other.address.host := by
  have hFixed : Fixed unicode ':' := fixed_of_mem (by decide)
  rw [← (lowers_lower unicode uri.address.host).mem_iff hFixed, hSame.host,
    (lowers_lower _ other.address.host).mem_iff hFixed]

theorem normalize_eq (hSame : uri.Same unicode other) :
    uri.address.normalize unicode = other.address.normalize unicode := by
  rw [SipAddress.normalize, SipAddress.normalize, hSame.secure, hSame.user, hSame.host, hSame.port, hSame.rest]

theorem count_colon (h : uri.WellFormed unicode) : (unicode.lower uri.written).count ':' =
    1 + (userText uri.address.user).count ':' + (unicode.lower uri.address.host).count ':' +
      (portText uri.address.port).count ':' + uri.address.rest.count ':' := by
  have hFixed : Fixed unicode ':' := fixed_of_mem (by decide)
  have hScheme : uri.scheme.count ':' = 0 := by
    rw [List.count_eq_zero]
    intro hMem
    have hLowered : ':' ∈ schemeText uri.address.secure := h.scheme ▸ List.mem_map_of_mem hMem
    have hAll : ∀ secure, ':' ∉ schemeText secure := by decide
    exact hAll _ hLowered
  rw [(lowers_lower _ uri.written).count hFixed, (lowers_lower _ uri.address.host).count hFixed, written,
    List.count_append, hScheme, List.count_cons_self, SipAddress.body, List.count_append, List.count_append,
    List.count_append]
  omega

theorem count_portText {port : Option (List Char)} (h : IsPort unicode port) :
    (portText port).count ':' = if port = none then 0 else 1 := by
  cases port with
  | none => rfl
  | some digits =>
    have hNone : digits.count ':' = 0 := by
      rw [List.count_eq_zero]
      intro hMem
      have hDecimal := (h digits rfl).2 ':' hMem
      rw [isDecimal_delimiter (by decide) (by decide)] at hDecimal
      nomatch hDecimal
    rw [portText, List.count_cons_self, hNone, if_neg (Option.some_ne_none _)]

theorem port_eq_of_none_iff (hSame : uri.Same unicode other)
    (hNone : uri.address.port = none ↔ other.address.port = none) : uri.address.port = other.address.port := by
  have hPort := hSame.port
  have hDefault : defaultPort uri.address.secure = defaultPort other.address.secure := congrArg _ hSame.secure
  rcases keptPort_cases uri.address with h | ⟨h, hGone⟩
  · rcases keptPort_cases other.address with h' | ⟨h', hGone'⟩
    · rw [← h, ← h', hPort]
    · have hEmpty : uri.address.port = none := by rw [← h, hPort, hGone']
      rw [hEmpty, hNone.mp hEmpty]
  · rcases keptPort_cases other.address with h' | ⟨h', -⟩
    · have hEmpty : other.address.port = none := by rw [← h', ← hPort, hGone]
      rw [hEmpty, hNone.mpr hEmpty]
    · rw [h, h', hDefault]

theorem canonical_eq_iff (hUri : uri.WellFormed unicode) (hOther : other.WellFormed unicode)
    (hSame : uri.Same unicode other) (countryHint countryHint' : Option (List Char)) :
    (normalizeTelephonyAddress unicode uri.written countryHint).map (·.canonical) =
        (normalizeTelephonyAddress unicode other.written countryHint').map (·.canonical) ↔
      uri.address.port = other.address.port ∨ ':' ∉ uri.address.host := by
  rw [canonical_written hUri, canonical_written hOther, Except.ok.injEq]
  by_cases hColon : ':' ∈ uri.address.host
  · have hColon' := (colon_iff hSame).mp hColon
    rw [sipAddressOf_of_colon hUri hColon, sipAddressOf_of_colon hOther hColon', or_iff_left (not_not.mpr hColon)]
    constructor
    · intro hLower
      have hCount := congrArg (List.count ':') hLower
      rw [count_colon hUri, count_colon hOther, hSame.user, hSame.host, hSame.rest, count_portText hUri.port,
        count_portText hOther.port] at hCount
      refine port_eq_of_none_iff hSame ⟨fun hNone => ?_, fun hNone => ?_⟩
      · by_contra hSome
        rw [if_pos hNone, if_neg hSome] at hCount
        omega
      · by_contra hSome
        rw [if_pos hNone, if_neg hSome] at hCount
        omega
    · intro hPort
      have hHost : uri.address.host.map Char.toLower = other.address.host.map Char.toLower := by
        rw [← toLower_host hUri hColon, ← toLower_host hOther hColon', hSame.host]
      have hWritten : uri.written.map Char.toLower = other.written.map Char.toLower := by
        rw [written, written, SipAddress.body, SipAddress.body, hSame.user, hPort, hSame.rest]
        simp only [List.map_append, List.map_cons, hHost, hUri.scheme, hOther.scheme, hSame.secure]
      change unicode.lower uri.written = unicode.lower other.written
      rw [← unicode.lower_asciiCase, hWritten, unicode.lower_asciiCase]
  · have hColon' := mt (colon_iff hSame).mpr hColon
    rw [sipAddressOf_of_plain hUri hColon, sipAddressOf_of_plain hOther hColon']
    exact iff_of_true (congrArg SipAddress.write (normalize_eq hSame)) (.inr hColon)

end SipUri

end

end FastVoice.PhoneNumbers
