import FastVoice.Engine.Templates

/-! # Rendering the template of a URL

The values are percent-encoded before they are substituted, so that data cannot add a delimiter. Whatever is wrong with
a template or its data is raised as a `ValueError`, save for a time zone that the template names and the database does
not know.
-/
namespace FastVoice.Engine
open Python

namespace PercentEncoding

def isUnreserved (c : Char) : Bool := c.isAlphanum || "_.-~".toList.contains c

def hexDigits : List Char := "0123456789ABCDEF".toList

def percent (byte : UInt8) : List Char :=
  ['%', hexDigits.getD (byte.toNat / 16) '0', hexDigits.getD (byte.toNat % 16) '0']

/-- `quote` with `safe=''`: the bytes of other characters in UTF-8. -/
def quote (text : List Char) : List Char :=
  text.flatMap fun c => if isUnreserved c then [c] else (String.utf8EncodeChar c).flatMap percent

inductive Encoded : List Char → Prop where
  | nil : Encoded []
  | unreserved {c : Char} {rest : List Char} (h : isUnreserved c = true) : Encoded rest → Encoded (c :: rest)
  | escape {high low : Char} {rest : List Char} (hHigh : high ∈ hexDigits) (hLow : low ∈ hexDigits) :
      Encoded rest → Encoded ('%' :: high :: low :: rest)

theorem Encoded.append {text more : List Char} (hText : Encoded text) (hMore : Encoded more) :
    Encoded (text ++ more) := by
  induction hText with
  | nil => exact hMore
  | unreserved h _ ih => exact .unreserved h ih
  | escape hHigh hLow _ ih => exact .escape hHigh hLow ih

theorem encoded_flatMap {α : Type} {items : List α} {f : α → List Char} (h : ∀ item ∈ items, Encoded (f item)) :
    Encoded (items.flatMap f) := by
  induction items with
  | nil => exact .nil
  | cons item items ih =>
    obtain ⟨hFirst, hRest⟩ := List.forall_mem_cons.mp h
    exact hFirst.append (ih hRest)

theorem hexDigit_mem (n : Nat) : hexDigits.getD (n % 16) '0' ∈ hexDigits := by
  have hAll : ∀ n < 16, hexDigits.getD n '0' ∈ hexDigits := by decide
  exact hAll _ (Nat.mod_lt _ (by decide))

theorem encoded_percent (byte : UInt8) : Encoded (percent byte) := by
  refine .escape ?_ (hexDigit_mem _) .nil
  have hHigh : byte.toNat / 16 < 16 := by
    have := byte.toNat_lt
    omega
  rw [← Nat.mod_eq_of_lt hHigh]
  exact hexDigit_mem _

theorem encoded_quote (text : List Char) : Encoded (quote text) := by
  refine encoded_flatMap fun c _ => ?_
  split
  · rename_i hSafe
    exact .unreserved hSafe .nil
  · exact encoded_flatMap fun byte _ => encoded_percent byte

def delimiters : List Char := "/?#@:&=".toList

theorem notMem_delimiters_of_unreserved {c : Char} (h : isUnreserved c = true) : c ∉ delimiters := by
  have hAll : ∀ c ∈ delimiters, isUnreserved c = false := Text.forall_of_all (by decide)
  intro hDelimiter
  simp [hAll c hDelimiter] at h

theorem Encoded.no_delimiter {text : List Char} (h : Encoded text) : ∀ c ∈ text, c ∉ delimiters := by
  have hHex : ∀ c ∈ hexDigits, c ∉ delimiters := by
    have hAll : ∀ c ∈ hexDigits, isUnreserved c = true := Text.forall_of_all (by decide)
    exact fun c hc => notMem_delimiters_of_unreserved (hAll c hc)
  induction h with
  | nil => exact fun c hc => absurd hc List.not_mem_nil
  | unreserved h _ ih => exact List.forall_mem_cons.mpr ⟨notMem_delimiters_of_unreserved h, ih⟩
  | escape hHigh hLow _ ih =>
    refine List.forall_mem_cons.mpr ⟨by decide, ?_⟩
    exact List.forall_mem_cons.mpr ⟨hHex _ hHigh, List.forall_mem_cons.mpr ⟨hHex _ hLow, ih⟩⟩

end PercentEncoding

open PercentEncoding

inductive UrlError where
  | valueError (text : String)
  | zoneInfoNotFoundError (key : String)
  deriving DecidableEq

def UrlError.isValueError : UrlError → Bool
  | valueError _ => true
  | zoneInfoNotFoundError _ => false

/-- What is read of a parsed URL. Reading the host name of some raises. -/
structure ParsedUrl where
  scheme : String
  hostname : Except String (Option String)

/-- The host, with its reading of URLs and with the complaint of `ZoneInfo` about keys that are malformed. -/
structure UrlHost extends Host where
  urlparse : String → Except String ParsedUrl
  malformedKey : String → Option String

def countPairs (c : Char) : List Char → Nat
  | first :: second :: rest =>
    if first = c ∧ second = c then countPairs c rest + 1 else countPairs c (second :: rest)
  | _ => 0

section

variable (host : UrlHost)

def zoneError (key : String) : UrlError :=
  match host.malformedKey key with
  | some text => .valueError text
  | none => .zoneInfoNotFoundError key

def placeholderValue (found : TemplateVariable) (context : Json) (defaultTz : Option String) :
    Except UrlError Json :=
  match resolveBuiltinVariable host.toHost found.path defaultTz with
  | .error (.zoneInfoNotFoundError key) => .error (zoneError host key)
  | .ok (some value) => .ok (.str value)
  | .ok none =>
    match found.filterName, isBlank (contextValue context found.path) with
    | some name, true => .ok (.str (fallback host.toHost found name))
    | _, _ => .ok (contextValue context found.path)

def formatUrlValue (found : TemplateVariable) (value : Json) : Except UrlError (List Char) :=
  match value with
  | .null => .error (.valueError ("URL template variable '" ++ found.path ++ "' has no value."))
  | .arr _ => .error (.valueError "Arrays cannot be rendered directly into a URL.")
  | .obj _ => .error (.valueError "Objects cannot be rendered directly into a URL.")
  | .str s =>
    if s = "" ∧ found.filterName = none then
      .error (.valueError ("URL template variable '" ++ found.path ++ "' resolved to an empty string."))
    else .ok (quote s.toList)
  | .bool b => .ok (quote (if b then "true" else "false").toList)
  | .number n => .ok (quote n.text)

def renderUrlSegment (context : Json) (defaultTz : Option String) :
    Char ⊕ TemplateVariable → Except UrlError (List Char)
  | .inl c => .ok [c]
  | .inr found => placeholderValue host found context defaultTz >>= formatUrlValue found

def renderUrlPieces (url : String) (context : Json) : Except UrlError (List (List Char)) :=
  (segments url).mapM (renderUrlSegment host context (extractTimezoneFromTemplate url))

def parseUrl (url : String) : Except UrlError ParsedUrl := (host.urlparse url).mapError .valueError

def checkedUrl (url rendered : String) : Except UrlError String :=
  if ['{', '{'] <:+: rendered.toList ∨ ['}', '}'] <:+: rendered.toList then
    .error (.valueError "Malformed URL template: invalid placeholder syntax.")
  else do
    let original ← parseUrl host url
    let parsed ← parseUrl host rendered
    if original.scheme ≠ parsed.scheme then
      .error (.valueError "URL placeholders cannot alter the scheme of the configured endpoint.")
    else match parsed.hostname with
      | .error _ => .error (.valueError "URL template rendered an invalid hostname.")
      | .ok hostname =>
        if parsed.scheme ∉ ["http", "https"] ∨ hostname.getD "" = "" then
          .error (.valueError "URL template must render to a valid HTTP or HTTPS URL.")
        else .ok rendered

def renderUrlTemplate (url : String) (context : Json) : Except UrlError String :=
  if countPairs '{' url.toList ≠ countPairs '}' url.toList then
    if countPairs '{' url.toList > countPairs '}' url.toList then
      .error (.valueError "Malformed URL template: unmatched '\x7b\x7b' found.")
    else .error (.valueError "Malformed URL template: unmatched '\x7d\x7d' found.")
  else if ['{', '{', '{', '{'] <:+: url.toList then
    .error (.valueError "Malformed URL template: nested '\x7b\x7b' found.")
  else if url = "" ∨ ¬['{', '{'] <:+: url.toList then .ok url
  else renderUrlPieces host url context >>= fun pieces => checkedUrl host url (String.ofList pieces.flatten)

end

def Becomes : Char ⊕ TemplateVariable → List Char → Prop
  | .inl c, piece => piece = [c]
  | .inr _, piece => Encoded piece

def literals (url : String) : List Char := (segments url).filterMap Sum.getLeft?

def HasPlaceholderSyntax (text : List Char) : Prop := ['{', '{'] <:+: text ∨ ['}', '}'] <:+: text

structure Unbent (host : UrlHost) (url rendered : String) : Prop where
  scheme : (host.urlparse rendered).map (·.scheme) = (host.urlparse url).map (·.scheme)
  pieces : ∃ pieces, rendered.toList = pieces.flatten ∧ List.Forall₂ Becomes (segments url) pieces
  delimiters : rendered.toList.filter (delimiters.contains ·) = (literals url).filter (delimiters.contains ·)
  clean : ¬HasPlaceholderSyntax rendered.toList

/-- What is returned keeps the template's shape, and all else is a `ValueError`. -/
def KeepsShape (host : UrlHost) (url : String) (context : Json) : Prop :=
  match renderUrlTemplate host url context with
  | .ok rendered => Unbent host url rendered
  | .error error => error.isValueError = true

def Showable (found : TemplateVariable) : Json → Prop
  | .null | .arr _ | .obj _ => False
  | .str s => s = "" → found.filterName ≠ none
  | .bool _ | .number _ => True

/-- The first placeholder that cannot be filled reads the clock in a zone that the database does not know. -/
def MeetsUnknownZone (host : UrlHost) (url : String) (context : Json) : Prop :=
  let defaultTz := extractTimezoneFromTemplate url
  countPairs '{' url.toList = countPairs '}' url.toList ∧ ¬['{', '{', '{', '{'] <:+: url.toList ∧
    host.zone (defaultTz.getD "UTC") = none ∧ host.malformedKey (defaultTz.getD "UTC") = none ∧
    ∃ before found after, segments url = before ++ .inr found :: after ∧ usesDefaultZone found.path = true ∧
      ∀ earlier, .inr earlier ∈ before →
        ∃ value, placeholderValue host earlier context defaultTz = .ok value ∧ Showable earlier value

theorem countPairs_eq_zero_iff {c : Char} {text : List Char} : countPairs c text = 0 ↔ ¬[c, c] <:+: text := by
  induction text using countPairs.induct c with
  | case1 first second rest hPair _ =>
    obtain ⟨rfl, rfl⟩ := hPair
    rw [countPairs, if_pos ⟨rfl, rfl⟩]
    simpa using (List.prefix_append [second, second] rest).isInfix
  | case2 first second rest hOther ih =>
    have hHere : ¬[c, c] <+: first :: second :: rest := by
      rintro ⟨tail, hTail⟩
      cases hTail
      exact hOther ⟨rfl, rfl⟩
    rw [countPairs, if_neg hOther, ih, show [c, c] <:+: first :: second :: rest ↔ _ from List.infix_cons_iff, not_or]
    exact (and_iff_right hHere).symm
  | case3 text hShort =>
    have hLength : text.length < 2 := by
      match text, hShort with
      | [], _ => decide
      | [_], _ => exact Nat.lt_succ_self 1
      | first :: second :: rest, hShort => exact absurd rfl (hShort first second rest)
    have hNone : ¬[c, c] <:+: text := fun h => absurd h.length_le (by simpa using hLength)
    simp only [countPairs, hNone, not_false_eq_true]

theorem variableAt_braces {text tail : List Char} {found : TemplateVariable}
    (h : variableAt text = some (found, tail)) : ['{', '{'] <+: text := by
  unfold variableAt at h
  split at h
  · exact ⟨_, rfl⟩
  · nomatch h

theorem segmentsFrom_of_no_braces {text : List Char} (h : ¬['{', '{'] <:+: text) :
    segmentsFrom 0 text = text.map .inl := by
  induction text with
  | nil => rfl
  | cons c text ih =>
    rw [List.infix_cons_iff, not_or] at h
    have hAt : variableAt (c :: text) = none := by
      cases hAt : variableAt (c :: text) with
      | none => rfl
      | some read => exact absurd (variableAt_braces hAt) h.1
    rw [segmentsFrom, hAt, ih h.2, List.map_cons]

theorem becomes_literals (text : List Char) :
    List.Forall₂ Becomes (text.map .inl) (text.map fun c => [c]) := by
  induction text with
  | nil => exact .nil
  | cons c text ih => exact .cons rfl ih

theorem filter_delimiters {parts : List (Char ⊕ TemplateVariable)} {pieces : List (List Char)}
    (h : List.Forall₂ Becomes parts pieces) : pieces.flatten.filter (delimiters.contains ·) =
      (parts.filterMap Sum.getLeft?).filter (delimiters.contains ·) := by
  induction h with
  | nil => rfl
  | @cons part piece _ _ hPiece _ ih =>
    rw [List.flatten_cons, List.filter_append, ih]
    cases part with
    | inl c =>
      rw [show piece = [c] from hPiece, ← List.filter_append]
      rfl
    | inr found =>
      have hNone : piece.filter (delimiters.contains ·) = [] := by
        rw [List.filter_eq_nil_iff]
        intro c hc
        simpa using (show Encoded piece from hPiece).no_delimiter c hc
      rw [hNone, List.filterMap_cons_none rfl, List.nil_append]

section

variable {host : UrlHost} {url : String} {context : Json} {defaultTz : Option String} {found : TemplateVariable}

theorem encoded_formatUrlValue {value : Json} {piece : List Char} (h : formatUrlValue found value = .ok piece) :
    Encoded piece := by
  cases value with
  | null | arr items | obj entries => nomatch h
  | bool b => exact Except.ok.inj h ▸ encoded_quote _
  | number n => exact Except.ok.inj h ▸ encoded_quote _
  | str s =>
    rw [formatUrlValue] at h
    split at h
    · nomatch h
    · exact Except.ok.inj h ▸ encoded_quote _

theorem isOk_formatUrlValue {value : Json} : (formatUrlValue found value).isOk = true ↔ Showable found value := by
  cases value with
  | null | arr items | obj entries => simp [formatUrlValue, Showable, Except.isOk, Except.toBool]
  | bool b => simp [formatUrlValue, Showable, Except.isOk, Except.toBool]
  | number n => simp [formatUrlValue, Showable, Except.isOk, Except.toBool]
  | str s =>
    rw [formatUrlValue, Showable]
    split
    · rename_i hEmpty
      simp [Except.isOk, Except.toBool, hEmpty]
    · rename_i hShown
      simpa [Except.isOk, Except.toBool] using hShown

theorem isValueError_formatUrlValue {value : Json} {error : UrlError}
    (h : formatUrlValue found value = .error error) : error.isValueError = true := by
  cases value with
  | null | arr items | obj entries => exact Except.error.inj h ▸ rfl
  | bool b | number n => nomatch h
  | str s =>
    rw [formatUrlValue] at h
    split at h
    · exact Except.error.inj h ▸ rfl
    · nomatch h

theorem becomes_renderUrlSegment {part : Char ⊕ TemplateVariable} {piece : List Char}
    (h : renderUrlSegment host context defaultTz part = .ok piece) : Becomes part piece := by
  cases part with
  | inl c => exact (Except.ok.inj h).symm
  | inr found =>
    obtain ⟨value, -, hPiece⟩ := Outcome.bind_eq_ok_iff.mp h
    exact encoded_formatUrlValue hPiece

theorem isOk_renderUrlSegment : (renderUrlSegment host context defaultTz (.inr found)).isOk = true ↔
    ∃ value, placeholderValue host found context defaultTz = .ok value ∧ Showable found value := by
  rw [renderUrlSegment]
  cases hValue : placeholderValue host found context defaultTz with
  | error error => simp [bind, Except.bind, Except.isOk, Except.toBool]
  | ok value =>
    rw [show (Except.ok value >>= formatUrlValue found) = formatUrlValue found value from rfl, isOk_formatUrlValue]
    simp

theorem placeholderValue_error_iff {error : UrlError} :
    placeholderValue host found context defaultTz = .error error ↔ usesDefaultZone found.path = true ∧
      host.zone (defaultTz.getD "UTC") = none ∧ error = zoneError host (defaultTz.getD "UTC") := by
  have hResolve : (resolveBuiltinVariable host.toHost found.path defaultTz).isOk = true ↔
      (usesDefaultZone found.path = true → (host.zone (defaultTz.getD "UTC")).isSome = true) :=
    isOk_resolveBuiltinVariable
  rw [placeholderValue]
  cases hBuiltin : resolveBuiltinVariable host.toHost found.path defaultTz with
  | ok builtin =>
    rw [hBuiltin] at hResolve
    have hKnown := hResolve.mp rfl
    have hNever : ¬(usesDefaultZone found.path = true ∧ host.zone (defaultTz.getD "UTC") = none) := by
      rintro ⟨hUses, hNone⟩
      simpa [hNone] using hKnown hUses
    constructor
    · intro h
      cases builtin with
      | some value => cases h
      | none =>
        dsimp only at h
        split at h <;> cases h
    · rintro ⟨hUses, hNone, -⟩
      exact absurd ⟨hUses, hNone⟩ hNever
  | error raised =>
    rw [hBuiltin] at hResolve
    have hUnknown : usesDefaultZone found.path = true ∧ host.zone (defaultTz.getD "UTC") = none := by
      simpa [Except.isOk, Except.toBool] using hResolve
    have hKey : raised = .zoneInfoNotFoundError (defaultTz.getD "UTC") := by
      unfold resolveBuiltinVariable at hBuiltin
      have hZone : defaultZone host.toHost defaultTz = .error (.zoneInfoNotFoundError (defaultTz.getD "UTC")) := by
        rw [defaultZone, hUnknown.2]
      rw [hZone] at hBuiltin
      split at hBuiltin
      · exact (Except.error.inj hBuiltin).symm
      · split at hBuiltin
        · exact (Except.error.inj hBuiltin).symm
        · split at hBuiltin <;> cases hBuiltin
    rw [hKey]
    exact ⟨fun h => ⟨hUnknown.1, hUnknown.2, (Except.error.inj h).symm⟩, fun h => congrArg Except.error h.2.2.symm⟩

theorem isValueError_zoneError {key : String} :
    (zoneError host key).isValueError = false ↔ host.malformedKey key = none := by
  rw [zoneError]
  cases host.malformedKey key <;> simp [UrlError.isValueError]

theorem renderUrlSegment_other_error_iff {part : Char ⊕ TemplateVariable} :
    (∃ error, renderUrlSegment host context defaultTz part = .error error ∧ error.isValueError = false) ↔
      ∃ found, part = .inr found ∧ usesDefaultZone found.path = true ∧
        host.zone (defaultTz.getD "UTC") = none ∧ host.malformedKey (defaultTz.getD "UTC") = none := by
  cases part with
  | inl c => simp [renderUrlSegment]
  | inr found =>
    constructor
    · rintro ⟨error, hError, hOther⟩
      obtain hValue | ⟨value, -, hFormat⟩ := Outcome.bind_eq_error_iff.mp hError
      · obtain ⟨hUses, hNone, rfl⟩ := placeholderValue_error_iff.mp hValue
        exact ⟨found, rfl, hUses, hNone, isValueError_zoneError.mp hOther⟩
      · rw [isValueError_formatUrlValue hFormat] at hOther
        nomatch hOther
    · rintro ⟨_, hPart, hUses, hNone, hKey⟩
      cases hPart
      exact ⟨_, Outcome.bind_eq_error_iff.mpr (.inl (placeholderValue_error_iff.mpr ⟨hUses, hNone, rfl⟩)),
        isValueError_zoneError.mpr hKey⟩

theorem parseUrl_eq_ok_iff {parsed : ParsedUrl} : parseUrl host url = .ok parsed ↔ host.urlparse url = .ok parsed := by
  rw [parseUrl]
  cases host.urlparse url <;> simp [Except.mapError]

theorem isValueError_parseUrl {error : UrlError} (h : parseUrl host url = .error error) :
    error.isValueError = true := by
  rw [parseUrl] at h
  cases hParse : host.urlparse url with
  | ok parsed => rw [hParse] at h; nomatch h
  | error text =>
    rw [hParse] at h
    exact Except.error.inj h ▸ rfl

theorem checkedUrl_ok {rendered result : String} (h : checkedUrl host url rendered = .ok result) :
    result = rendered ∧ ¬HasPlaceholderSyntax rendered.toList ∧
      (host.urlparse rendered).map (·.scheme) = (host.urlparse url).map (·.scheme) := by
  rw [checkedUrl] at h
  split at h
  · nomatch h
  · rename_i hClean
    obtain ⟨original, hOriginal, h⟩ := Outcome.bind_eq_ok_iff.mp h
    obtain ⟨parsed, hParsed, h⟩ := Outcome.bind_eq_ok_iff.mp h
    split at h
    · nomatch h
    · rename_i hScheme
      rw [parseUrl_eq_ok_iff.mp hOriginal, parseUrl_eq_ok_iff.mp hParsed]
      refine ⟨?_, hClean, congrArg Except.ok (not_not.mp hScheme).symm⟩
      split at h
      · nomatch h
      · split at h
        · nomatch h
        · exact (Except.ok.inj h).symm

theorem isValueError_checkedUrl {rendered : String} {error : UrlError}
    (h : checkedUrl host url rendered = .error error) : error.isValueError = true := by
  rw [checkedUrl] at h
  split at h
  · exact Except.error.inj h ▸ rfl
  · obtain hOriginal | ⟨original, -, h⟩ := Outcome.bind_eq_error_iff.mp h
    · exact isValueError_parseUrl hOriginal
    · obtain hParsed | ⟨parsed, -, h⟩ := Outcome.bind_eq_error_iff.mp h
      · exact isValueError_parseUrl hParsed
      · split at h
        · exact Except.error.inj h ▸ rfl
        · split at h
          · exact Except.error.inj h ▸ rfl
          · split at h
            · exact Except.error.inj h ▸ rfl
            · nomatch h

theorem unbent_self (hPairs : countPairs '{' url.toList = countPairs '}' url.toList)
    (hNone : ¬['{', '{'] <:+: url.toList) : Unbent host url url := by
  have hParts : segments url = url.toList.map .inl := segmentsFrom_of_no_braces hNone
  have hPieces : List.Forall₂ Becomes (segments url) (url.toList.map fun c => [c]) :=
    hParts ▸ becomes_literals url.toList
  have hFlatten : url.toList = (url.toList.map fun c => [c]).flatten := (List.flatMap_singleton' url.toList).symm
  refine ⟨rfl, ⟨_, hFlatten, hPieces⟩, ?_, ?_⟩
  · have hSame := filter_delimiters hPieces
    rwa [← hFlatten] at hSame
  · rintro (hOpen | hClose)
    · exact hNone hOpen
    · rw [countPairs_eq_zero_iff.mpr hNone] at hPairs
      exact countPairs_eq_zero_iff.mp hPairs.symm hClose

theorem unbent_of_pieces {pieces : List (List Char)} {result : String}
    (hPieces : renderUrlPieces host url context = .ok pieces)
    (hChecked : checkedUrl host url (String.ofList pieces.flatten) = .ok result) : Unbent host url result := by
  obtain ⟨rfl, hClean, hScheme⟩ := checkedUrl_ok hChecked
  have hFits : List.Forall₂ Becomes (segments url) pieces :=
    (Outcome.mapM_eq_ok_iff.mp hPieces).imp fun _ _ => becomes_renderUrlSegment
  refine ⟨hScheme, ⟨pieces, String.toList_ofList, hFits⟩, ?_, hClean⟩
  rw [String.toList_ofList]
  exact filter_delimiters hFits

variable (host url context) in
theorem renderUrlPieces_other_error_iff :
    (∃ error, renderUrlPieces host url context = .error error ∧ error.isValueError = false) ↔
      host.zone ((extractTimezoneFromTemplate url).getD "UTC") = none ∧
      host.malformedKey ((extractTimezoneFromTemplate url).getD "UTC") = none ∧
      ∃ before found after, segments url = before ++ .inr found :: after ∧ usesDefaultZone found.path = true ∧
        ∀ earlier, .inr earlier ∈ before → ∃ value,
          placeholderValue host earlier context (extractTimezoneFromTemplate url) = .ok value ∧
            Showable earlier value := by
  constructor
  · rintro ⟨error, hError, hOther⟩
    obtain ⟨before, part, after, hSplit, hBefore, hFails⟩ := Outcome.mapM_eq_error_iff.mp hError
    obtain ⟨found, rfl, hUses, hNone, hKey⟩ := renderUrlSegment_other_error_iff.mp ⟨error, hFails, hOther⟩
    exact ⟨hNone, hKey, before, found, after, hSplit, hUses,
      fun earlier hEarlier => isOk_renderUrlSegment.mp (hBefore _ hEarlier)⟩
  · rintro ⟨hNone, hKey, before, found, after, hSplit, hUses, hBefore⟩
    obtain ⟨error, hFails, hOther⟩ := renderUrlSegment_other_error_iff.mpr ⟨found, rfl, hUses, hNone, hKey⟩
    refine ⟨error, Outcome.mapM_eq_error_iff.mpr ⟨before, .inr found, after, hSplit, ?_, hFails⟩, hOther⟩
    intro part hPart
    cases part with
    | inl c => rfl
    | inr earlier => exact isOk_renderUrlSegment.mpr (hBefore earlier hPart)

end

/-- A rendered URL keeps the shape of its template, and the template is refused with a `ValueError` otherwise, exactly
when its first placeholder that cannot be filled does not read the clock of an unknown zone. -/
theorem keepsShape_iff (host : UrlHost) (url : String) (context : Json) :
    KeepsShape host url context ↔ ¬MeetsUnknownZone host url context := by
  rw [KeepsShape, MeetsUnknownZone, renderUrlTemplate]
  by_cases hPairs : countPairs '{' url.toList = countPairs '}' url.toList
  · rw [if_neg (not_not.mpr hPairs)]
    by_cases hNested : ['{', '{', '{', '{'] <:+: url.toList
    · rw [if_pos hNested]
      exact iff_of_true rfl fun h => h.2.1 hNested
    · rw [if_neg hNested]
      by_cases hPlain : url = "" ∨ ¬['{', '{'] <:+: url.toList
      · have hNone : ¬['{', '{'] <:+: url.toList := by
          rcases hPlain with rfl | hNone
          · decide
          · exact hNone
        rw [if_pos hPlain]
        refine iff_of_true (unbent_self hPairs hNone) ?_
        rintro ⟨-, -, -, -, before, found, after, hSplit, -⟩
        have hMem : .inr found ∈ url.toList.map (Sum.inl (β := TemplateVariable)) := by
          rw [← segmentsFrom_of_no_braces hNone, ← segments, hSplit]
          exact List.mem_append_right _ List.mem_cons_self
        obtain ⟨c, -, hSame⟩ := List.mem_map.mp hMem
        nomatch hSame
      · rw [if_neg hPlain]
        have hOther := renderUrlPieces_other_error_iff host url context
        rw [and_iff_right hPairs, and_iff_right hNested, ← hOther]
        cases hPieces : renderUrlPieces host url context with
        | error error => simp [bind, Except.bind]
        | ok pieces =>
          have hNever : ¬∃ error, (Except.ok pieces : Except UrlError (List (List Char))) = .error error ∧
              error.isValueError = false := by
            rintro ⟨error, hError, -⟩
            nomatch hError
          refine iff_of_true ?_ hNever
          change match checkedUrl host url (String.ofList pieces.flatten) with
            | .ok rendered => Unbent host url rendered
            | .error error => error.isValueError = true
          cases hChecked : checkedUrl host url (String.ofList pieces.flatten) with
          | ok result => exact unbent_of_pieces hPieces hChecked
          | error error => exact isValueError_checkedUrl hChecked
  · rw [if_pos hPairs]
    refine iff_of_true ?_ fun h => hPairs h.1
    by_cases hMore : countPairs '{' url.toList > countPairs '}' url.toList
    · rw [if_pos hMore]
      rfl
    · rw [if_neg hMore]
      rfl

def urlHost : UrlHost where
  lower := id
  title := id
  zone key := if key = "UTC" then some ("2024-05-01 09:30:00 UTC", "Wednesday") else none
  urlparse url := .ok ⟨String.ofList (url.toList.takeWhile (· ≠ ':')), .ok (some "example.com")⟩
  malformedKey _ := none

theorem unknown_zone_raised :
    renderUrlTemplate urlHost
        "https://example.com/\x7b\x7bcurrent_weekday\x7d\x7d?at=\x7b\x7bcurrent_time_Mars\x7d\x7d" (.obj []) =
      .error (.zoneInfoNotFoundError "Mars") ∧
    ¬KeepsShape urlHost
        "https://example.com/\x7b\x7bcurrent_weekday\x7d\x7d?at=\x7b\x7bcurrent_time_Mars\x7d\x7d" (.obj []) := by
  have hRaised : renderUrlTemplate urlHost
      "https://example.com/\x7b\x7bcurrent_weekday\x7d\x7d?at=\x7b\x7bcurrent_time_Mars\x7d\x7d" (.obj []) =
      .error (.zoneInfoNotFoundError "Mars") := by
    decide +kernel
  refine ⟨hRaised, fun hKeeps => ?_⟩
  rw [KeepsShape, hRaised] at hKeeps
  nomatch hKeeps

end FastVoice.Engine
