import FastVoice.Embed.Tokens
import Mathlib.Data.Option.Basic

/-! # Which origins an allow-list lets in

The ports are compared as they are written, and a host may differ from the entry's by a leading `www.`.
-/
namespace FastVoice.Embed

namespace UrlLibrary

/-- One of the two is the other behind a `www.`, or behind two of them if it has none itself. -/
def SameSite (host allowed : String) : Prop :=
  host = allowed ∨ host = "www." ++ allowed ∨ allowed = "www." ++ host ∨
    (hasPrefix allowed "www." = false ∧ host = "www." ++ ("www." ++ allowed)) ∨
    (hasPrefix host "www." = false ∧ allowed = "www." ++ ("www." ++ host))

theorem hasPrefix_iff {text start : String} : hasPrefix text start = true ↔ ∃ rest, text = start ++ rest := by
  rw [hasPrefix, List.isPrefixOf_iff_prefix]
  constructor
  · rintro ⟨rest, hRest⟩
    refine ⟨String.ofList rest, ?_⟩
    rw [← String.toList_inj, String.toList_append, String.toList_ofList, hRest]
  · rintro ⟨rest, rfl⟩
    rw [String.toList_append]
    exact List.prefix_append _ _

theorem hasSuffix_iff {text last : String} : hasSuffix text last = true ↔ ∃ rest, text = rest ++ last := by
  rw [hasSuffix, List.isSuffixOf_iff_suffix]
  constructor
  · rintro ⟨rest, hRest⟩
    refine ⟨String.ofList rest, ?_⟩
    rw [← String.toList_inj, String.toList_append, String.toList_ofList, hRest]
  · rintro ⟨rest, rfl⟩
    rw [String.toList_append]
    exact List.suffix_append _ _

theorem normalizeWww_of_www (text : String) : normalizeWww ("www." ++ text) = ["www." ++ text, text] := by
  rw [normalizeWww, if_pos (hasPrefix_iff.mpr ⟨text, rfl⟩), String.toList_append]
  change ["www." ++ text, String.ofList (text.toList)] = _
  rw [String.ofList_toList]

theorem normalizeWww_of_bare {text : String} (h : hasPrefix text "www." = false) :
    normalizeWww text = [text, "www." ++ text] := by
  rw [normalizeWww, if_neg (ne_true_of_eq_false h)]

theorem any_normalizeWww (host allowed : String) : (normalizeWww host).any (· ∈ normalizeWww allowed) = true ↔
      ∃ variant ∈ normalizeWww host, variant ∈ normalizeWww allowed := by
  simp only [List.any_eq_true, decide_eq_true_eq]

theorem sameSite_iff (host allowed : String) :
    (normalizeWww host).any (· ∈ normalizeWww allowed) = true ↔ SameSite host allowed := by
  rw [any_normalizeWww]
  cases hHost : hasPrefix host "www." with
  | false =>
    have hBare (text : String) : host ≠ "www." ++ text := by
      rintro rfl
      rw [hasPrefix_iff.mpr ⟨text, rfl⟩] at hHost
      cases hHost
    rw [normalizeWww_of_bare hHost]
    cases hAllowed : hasPrefix allowed "www." with
    | false =>
      have hOther (text : String) : allowed ≠ "www." ++ text := by
        rintro rfl
        rw [hasPrefix_iff.mpr ⟨text, rfl⟩] at hAllowed
        cases hAllowed
      simp [normalizeWww_of_bare hAllowed, SameSite, hHost, hAllowed, hBare, hOther, (hOther _).symm]
    | true =>
      obtain ⟨rest, rfl⟩ := hasPrefix_iff.mp hAllowed
      simp [normalizeWww_of_www, SameSite, hHost, hAllowed, hBare, eq_comm]
  | true =>
    obtain ⟨rest, rfl⟩ := hasPrefix_iff.mp hHost
    rw [normalizeWww_of_www]
    cases hAllowed : hasPrefix allowed "www." with
    | false =>
      have hOther (text : String) : allowed ≠ "www." ++ text := by
        rintro rfl
        rw [hasPrefix_iff.mpr ⟨text, rfl⟩] at hAllowed
        cases hAllowed
      simp [normalizeWww_of_bare hAllowed, SameSite, hHost, hAllowed, hOther, (hOther _).symm, eq_comm]
    | true =>
      obtain ⟨other, rfl⟩ := hasPrefix_iff.mp hAllowed
      simp only [normalizeWww_of_www, SameSite, hHost, hAllowed, List.mem_cons, List.not_mem_nil,
        String.append_right_inj, exists_eq_or_imp, exists_eq_left, or_false, Bool.true_eq_false, false_and]
      grind

section Entries

variable (library : UrlLibrary)

def entryText (allowed : String) : String := library.lower (Text.strip allowed)

def bareName (name : String) : String :=
  if hasPrefix name "*." then String.ofList (name.toList.drop 2) else name

/-- Hosts under a wildcard, and the hosts that are the same up to `www.`. -/
def Covers (name host : String) : Prop :=
  if hasPrefix name "*." then host = bareName name ∨ ∃ rest, host = rest ++ ("." ++ bareName name)
  else SameSite host name

/-- An entry lets a host and its port in: a star, or a host that covers it and no port or the same. -/
def Admits (host : String) (port : Option String) (allowed : String) : Prop :=
  library.entryText allowed = "*" ∨
    ∃ name namedPort, library.parseOriginHostPort (library.entryText allowed) = some (name, namedPort) ∧
      name ≠ "" ∧ (∀ p, namedPort = some p → port = some p) ∧ Covers name host

/-- The URL of an entry can be split. -/
def Splits (allowed : String) : Prop := (library.parseOriginHostPort (library.entryText allowed)).isSome = true

variable {library} {host allowed : String} {port : Option String}

theorem covers_iff (name host : String) : (if hasPrefix name "*." then
        decide (host = String.ofList (name.toList.drop 2)) || hasSuffix host ("." ++ String.ofList (name.toList.drop 2))
      else (normalizeWww host).any (· ∈ normalizeWww name)) = true ↔ Covers name host := by
  unfold Covers bareName
  split
  · rw [Bool.or_eq_true, decide_eq_true_eq, hasSuffix_iff]
  · exact sameSite_iff host name

theorem allows_isSome (h : library.Splits allowed) (host : String) (port : Option String) :
    (library.allows host port allowed).isSome = true := by
  unfold allows
  dsimp only
  split
  · rfl
  · rw [Option.isSome_map]
    exact h

theorem allows_iff (host : String) (port : Option String) (allowed : String) :
    library.allows host port allowed = some true ↔ library.Admits host port allowed := by
  unfold allows Admits
  change (if library.entryText allowed = "*" then some true else _) = _ ↔ _
  split
  · rename_i hStar
    simp [hStar]
  · rename_i hStar
    rw [Option.map_eq_some_iff, or_iff_right hStar]
    change (∃ named, library.parseOriginHostPort (library.entryText allowed) = some named ∧ _) ↔ _
    rw [Prod.exists]
    apply exists_congr
    intro name
    apply exists_congr
    intro namedPort
    apply and_congr_right
    intro _
    dsimp only
    split
    · rename_i hEmpty
      simp [hEmpty]
    · rename_i hName
      rw [← covers_iff]
      cases namedPort with
      | none => simp [hName]
      | some p =>
        obtain rfl | hPort := eq_or_ne port (some p)
        · simp [hName]
        · simp [hPort, hPort.symm]

theorem anyM_some_true_iff {α : Type} {f : α → Option Bool} {entries : List α}
    (h : ∀ entry ∈ entries, (f entry).isSome = true) :
    entries.anyM f = some true ↔ ∃ entry ∈ entries, f entry = some true := by
  induction entries with
  | nil => simp
  | cons entry entries ih =>
    obtain ⟨hEntry, hEntries⟩ := List.forall_mem_cons.mp h
    obtain ⟨answer, hAnswer⟩ := Option.isSome_iff_exists.mp hEntry
    rw [List.anyM_cons, hAnswer]
    cases answer with
    | true => simp [hAnswer]
    | false => simpa [hAnswer] using ih hEntries

/-- Only the ending of the host is the name, and the ending does not begin after a dot. -/
def MerelyEndsWith (host name : String) : Prop :=
  ∃ rest, rest ≠ "" ∧ host = rest ++ name ∧ hasSuffix rest "." = false

theorem append_right_eq {first second text : String} : first ++ text = second ++ text ↔ first = second := by
  rw [← String.toList_inj, String.toList_append, String.toList_append, List.append_cancel_right_eq, String.toList_inj]

theorem not_covers_of_merelyEndsWith {name : String} (h : MerelyEndsWith host (bareName name)) : ¬Covers name host := by
  obtain ⟨rest, hRest, rfl, hDot⟩ := h
  have hEnds (text : String) : rest ≠ text ++ "." := by
    rintro rfl
    rw [hasSuffix_iff.mpr ⟨text, rfl⟩] at hDot
    cases hDot
  have hLonger (front text : String) : text ≠ front ++ (rest ++ text) := by
    intro hEq
    have hNil : "" = front ++ rest := by
      rw [← append_right_eq, String.append_assoc, ← hEq, String.empty_append]
    exact hRest (String.append_eq_empty_iff.mp hNil.symm).2
  unfold Covers
  split
  · rintro (hEq | ⟨front, hEq⟩)
    · exact hLonger "" _ ((String.empty_append).trans hEq).symm
    · rw [← String.append_assoc] at hEq
      exact hEnds front (append_right_eq.mp hEq)
  · rename_i hPlain
    rw [bareName, if_neg hPlain]
    rintro (hEq | hEq | hEq | ⟨-, hEq⟩ | ⟨-, hEq⟩)
    · exact hLonger "" _ ((String.empty_append).trans hEq).symm
    · exact hEnds "www" (append_right_eq.mp hEq)
    · exact hLonger "www." _ hEq
    · rw [← String.append_assoc] at hEq
      exact hEnds "www.www" (append_right_eq.mp hEq)
    · rw [← String.append_assoc] at hEq
      exact hLonger ("www." ++ "www.") _ hEq

end Entries

variable {library : UrlLibrary}

/-- Nothing is refused without a list. Otherwise the origin needs a host, and an entry that admits it. No entry
admits a host that merely ends with its name. -/
theorem validateEmbedOrigin_iff (origin : String) {allowedDomains : List String}
    (hSplits : ∀ allowed ∈ allowedDomains, library.Splits allowed) :
    (library.validateEmbedOrigin origin allowedDomains = some true ↔
      allowedDomains = [] ∨ ∃ host port, library.parseOriginHostPort origin = some (host, port) ∧ host ≠ "" ∧
        ∃ allowed ∈ allowedDomains, library.Admits host port allowed) ∧
    ∀ host port allowed name namedPort, library.entryText allowed ≠ "*" →
      library.parseOriginHostPort (library.entryText allowed) = some (name, namedPort) →
      MerelyEndsWith host (bareName name) → ¬library.Admits host port allowed := by
  constructor
  · unfold validateEmbedOrigin
    split
    · rename_i hNil
      simp [hNil]
    · rename_i hSome
      rw [or_iff_right hSome]
      cases hParsed : library.parseOriginHostPort origin with
      | none => simp
      | some parsed =>
        obtain ⟨host, port⟩ := parsed
        have hAny : allowedDomains.anyM (library.allows host port) = some true ↔
            ∃ allowed ∈ allowedDomains, library.Admits host port allowed := by
          simp only [← allows_iff]
          apply anyM_some_true_iff
          exact fun allowed hMem => allows_isSome (hSplits allowed hMem) host port
        dsimp only
        split
        · rename_i hEmpty
          simp [hEmpty]
        · rename_i hHost
          simp [hAny, hHost]
  · rintro host port allowed name namedPort hStar hParsed hEnds (hEq | ⟨other, otherPort, hOther, -, -, hCovers⟩)
    · exact hStar hEq
    · obtain ⟨rfl, rfl⟩ := Prod.mk.inj (Option.some.inj (hParsed.symm.trans hOther))
      exact not_covers_of_merelyEndsWith hEnds hCovers

section DefaultPorts

private def lowerAscii (text : String) : String := String.ofList (text.toList.map Char.toLower)

private def isSchemeChar (c : Char) : Bool := c.isAlphanum || c = '+' || c = '-' || c = '.'

private def partitionColon (text : List Char) : List Char × List Char :=
  (text.takeWhile (· ≠ ':'), (text.dropWhile (· ≠ ':')).drop 1)

private def netloc (url : List Char) : List Char :=
  let (scheme, rest) := partitionColon url
  let named := scheme.head?.any Char.isAlpha && scheme.all isSchemeChar && url.contains ':'
  match if named then rest else url with
  | '/' :: '/' :: authority => authority.takeWhile fun c => c ≠ '/' && c ≠ '?' && c ≠ '#'
  | _ => []

private def splitAuthority (url : String) : Option SplitUrl :=
  let authority := netloc url.toList
  if authority.contains '[' ≠ authority.contains ']' then none
  else
    let hostinfo := authority.rtakeWhile (· ≠ '@')
    let (hostname, port) :=
      if hostinfo.contains '[' then
        let bracketed := (hostinfo.dropWhile (· ≠ '[')).drop 1
        (bracketed.takeWhile (· ≠ ']'), (partitionColon (bracketed.dropWhile (· ≠ ']'))).2)
      else partitionColon hostinfo
    let number := port.foldl (fun n c => 10 * n + (c.toNat - '0'.toNat)) 0
    some ⟨if hostname = [] then none else some (lowerAscii (String.ofList hostname)),
      if port = [] then some none else if port.all Char.isDigit && number ≤ 65535 then some (some number) else none⟩

private def asciiLibrary : UrlLibrary := ⟨lowerAscii, splitAuthority⟩

theorem localhost_port_admitted :
    asciiLibrary.validateEmbedOrigin "http://localhost:3020" ["localhost:3000", "localhost:3020"] = some true := by
  have hSplits : ∀ allowed ∈ ["localhost:3000", "localhost:3020"], asciiLibrary.Splits allowed := by
    simp only [List.forall_mem_cons, Splits]
    decide +kernel
  apply (validateEmbedOrigin_iff "http://localhost:3020" hSplits).1.mpr
  refine .inr ⟨"localhost", some "3020", by decide +kernel, by decide, "localhost:3020", by decide, .inr ?_⟩
  refine ⟨"localhost", some "3020", by decide +kernel, by decide, fun _ h => h, ?_⟩
  rw [Covers, if_neg (by decide +kernel)]
  exact .inl rfl

def effectivePort (origin : String) (port : Option String) : Option String :=
  port <|> if hasPrefix origin "https:" then some "443" else if hasPrefix origin "http:" then some "80" else none

/-- The default port counts, and each host may lack one `www.` -/
def AdmitsByDefault (library : UrlLibrary) (origin host : String) (port : Option String) (allowed : String) : Prop :=
  ∃ name namedPort, library.parseOriginHostPort (library.entryText allowed) = some (name, namedPort) ∧
    (∀ p, namedPort = some p → effectivePort origin port = some p) ∧
    (host = name ∨ host = "www." ++ name ∨ name = "www." ++ host)

/-- An entry with the default port refuses the origin that leaves it out, two leading `www.` are let in, and a star
does not let in an origin without a host. -/
theorem default_port_refused :
    (asciiLibrary.parseOriginHostPort "https://example.com" = some ("example.com", none) ∧
      AdmitsByDefault asciiLibrary "https://example.com" "example.com" none "example.com:443" ∧
      asciiLibrary.validateEmbedOrigin "https://example.com" ["example.com:443"] = some false) ∧
    asciiLibrary.validateEmbedOrigin "https://www.www.example.com" ["example.com"] = some true ∧
    asciiLibrary.validateEmbedOrigin "" ["*"] = some false := by
  refine ⟨⟨by decide +kernel, ⟨"example.com", some "443", by decide +kernel, ?_, .inl rfl⟩, by decide +kernel⟩,
    by decide +kernel, by decide +kernel⟩
  decide +kernel

end DefaultPorts

end UrlLibrary

end FastVoice.Embed
