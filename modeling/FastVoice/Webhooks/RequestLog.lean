import FastVoice.Python.Json

/-! # The log of webhook requests

A request is logged before it is sent: the origin of its URL, its headers and its payload, without the values of headers
that may be secret, of fields with sensitive names and of URLs, and cut at a length.
-/
namespace FastVoice.Webhooks.RequestLog
open Python

def REDACTED : String := "[REDACTED]"

def MAX_REQUEST_LOG_CHARS : Nat := 8000

/-- The regular expressions that the sensitive names are written in. -/
inductive Pattern where
  | text (chars : String)
  | seq (first second : Pattern)
  | alt (first second : Pattern)
  | maybe (pattern : Pattern)
  | digits

namespace Pattern

/-- What may be left of a text behind a match in front. -/
def rests : Pattern → List Char → List (List Char)
  | .text chars, input => if chars.toList.isPrefixOf input then [input.drop chars.length] else []
  | .seq first second, input => (first.rests input).flatMap second.rests
  | .alt first second, input => first.rests input ++ second.rests input
  | .maybe pattern, input => pattern.rests input ++ [input]
  | .digits, input => (List.range ((input.takeWhile Char.isDigit).length + 1)).map input.drop

def anyOf (first : Pattern) (more : List Pattern) : Pattern := more.foldr (fun p rest => .alt p rest) first

def joined (first second : String) : Pattern := .seq (.text first) (.seq (.maybe (.text "_")) (.text second))

/-- A match between underscores or the ends of the text: `(?:^|_)(?:...)(?:$|_)`, the case being ignored. -/
def searchWords (pattern : Pattern) (text : List Char) : Bool :=
  let starts := text.tails.filterMap fun rest => if rest.head? = some '_' then some rest.tail else none
  (text :: starts).any fun start =>
    (pattern.rests (start.map Char.toLower)).any fun rest => rest = [] ∨ rest.head? = some '_'

end Pattern

def SENSITIVE_FIELD : Pattern :=
  .anyOf (.text "authorization")
    [.text "cookie", .text "credential", .text "password", .text "passwd", .text "secret", .text "signature",
      .text "token", .joined "api" "key", .joined "access" "key", .joined "private" "key", .joined "client" "secret",
      .text "email", .text "phone", .text "telephone", .text "mobile", .text "address",
      .seq (.joined "date" "of") (.seq (.maybe (.text "_")) (.text "birth")), .text "dob", .text "ssn",
      .seq (.text "card") (.maybe (.seq (.maybe (.text "_")) (.alt (.text "number") (.text "no")))),
      .seq (.text "cvv") .digits, .seq (.text "cvc") .digits, .text "callback_url", .text "redirect_uri"]

/-- `re.sub` of the empty matches behind a character at a boundary. -/
def splitAt (boundary : Char → List Char → Bool) : List Char → List Char
  | [] => []
  | c :: rest => if boundary c rest then c :: '_' :: splitAt boundary rest else c :: splitAt boundary rest

def isLowerThenUpper (c : Char) (rest : List Char) : Bool := (c.isLower || c.isDigit) && rest.head?.any Char.isUpper

def isUpperThenCapitalized (c : Char) (rest : List Char) : Bool :=
  c.isUpper && rest.head?.any Char.isUpper && rest.tail.head?.any Char.isLower

def underscored (inRun : Bool) : List Char → List Char
  | [] => []
  | c :: rest =>
    if c.isAlphanum then c :: underscored false rest
    else if inRun then underscored true rest
    else '_' :: underscored true rest

def normalizeWebhookFieldName (key : String) : List Char :=
  let name := splitAt isLowerThenUpper key.toList
  let name := splitAt isUpperThenCapitalized name
  (((underscored false name).dropWhile (· == '_')).rdropWhile (· == '_')).map Char.toLower

def isSensitive (key : String) : Bool := SENSITIVE_FIELD.searchWords (normalizeWebhookFieldName key)

/-- What `urlsplit` reads of a URL but for its path, query and fragment. There is no port when its reading raises. -/
structure SplitUrl where
  scheme : String
  hostname : Option String
  port : Option (Option Nat)
  deriving DecidableEq

/-- `urlsplit` raises where there is no result. -/
structure Library where
  lower : String → String
  urlsplit : String → Option SplitUrl

section

variable (library : Library)

/-- Whether the text is a URL of `http` or `https` with a host. -/
def isHttpUrl (text : String) : Bool :=
  (library.urlsplit text).any fun parsed =>
    (library.lower parsed.scheme = "http" ∨ library.lower parsed.scheme = "https") ∧ parsed.hostname.getD "" ≠ ""

mutual

def redactWebhookValue : Json → Json
  | .obj entries => .obj (redactEntries entries)
  | .arr items => .arr (redactItems items)
  | .str s => if isHttpUrl library s then .str REDACTED else .str s
  | value => value

def redactItems : List Json → List Json
  | [] => []
  | item :: items => redactWebhookValue item :: redactItems items

def redactEntries : List (String × Json) → List (String × Json)
  | [] => []
  | (key, nested) :: entries =>
    (key, if isSensitive key then .str REDACTED else redactWebhookValue nested) :: redactEntries entries

end

def safeWebhookUrl (url : String) : String :=
  match library.urlsplit url with
  | none => REDACTED
  | some parsed =>
    let hostname := parsed.hostname.getD ""
    if parsed.scheme = "" ∨ hostname = "" then REDACTED
    else
      let hostname := if ':' ∈ hostname.toList then "[" ++ hostname ++ "]" else hostname
      match parsed.port with
      | none => REDACTED
      | some none => parsed.scheme ++ "://" ++ hostname
      | some (some port) => parsed.scheme ++ "://" ++ hostname ++ ":" ++ toString port

/-- With `ensure_ascii=False` only control characters, quotes and backslashes are escaped. -/
def escapeChar (c : Char) : List Char :=
  match Json.escapeTable.lookup c.toNat with
  | some second => [Json.backslash, second]
  | none => if c.toNat < 32 then Json.unicodeEscape c.toNat else [c]

def quoted (s : String) : List Char := Json.quote :: (s.toList.flatMap escapeChar ++ [Json.quote])

mutual

def render : Json → List Char
  | .null => "null".toList
  | .bool b => (if b then "true" else "false").toList
  | .number n => n.text
  | .str s => quoted s
  | .arr items => "[".toList ++ ", ".toList.intercalate (renderItems items) ++ "]".toList
  | .obj entries => "\x7b".toList ++ ", ".toList.intercalate (renderEntries entries) ++ "\x7d".toList

def renderItems : List Json → List (List Char)
  | [] => []
  | item :: items => render item :: renderItems items

def renderEntries : List (String × Json) → List (List Char)
  | [] => []
  | (key, value) :: entries => (quoted key ++ ": ".toList ++ render value) :: renderEntries entries

end

structure Delivery where
  id : Nat
  webhookName : Option String
  endpointUrl : String
  payload : Json

def loggedHeaders : List String :=
  ["content-type", "x-dograh-delivery-id", "x-dograh-workflow-run-id", "x-dograh-delivery-attempt"]

def isLogged (key : String) : Bool := library.lower key ∈ loggedHeaders

def requestData (delivery : Delivery) (method : String) (headers : List (String × String)) : Json :=
  .obj
    [("method", .str method),
      ("url", .str (safeWebhookUrl library delivery.endpointUrl)),
      ("headers", .obj (headers.map fun header =>
        (header.1, .str (if isLogged library header.1 then header.2 else REDACTED)))),
      ("payload", if method ∈ ["POST", "PUT", "PATCH"] then redactWebhookValue library delivery.payload else .null)]

def truncated (rendered : List Char) : List Char :=
  if MAX_REQUEST_LOG_CHARS < rendered.length then
    rendered.take MAX_REQUEST_LOG_CHARS ++ "...[TRUNCATED]".toList
  else rendered

def logWebhookRequest (delivery : Delivery) (method : String) (attempt : Nat) (headers : List (String × String)) :
    String :=
  "Webhook '" ++ delivery.webhookName.getD "None" ++ "' delivery " ++ toString delivery.id ++ " request (attempt " ++
    toString attempt ++ "): " ++ String.ofList (truncated (render (requestData library delivery method headers)))

mutual

/-- Documents that differ only in URLs and under sensitive names. -/
inductive Alike : Json → Json → Prop
  | same (value : Json) : Alike value value
  | url {s s' : String} : isHttpUrl library s = true → isHttpUrl library s' = true → Alike (.str s) (.str s')
  | arr {items items' : List Json} : AlikeItems items items' → Alike (.arr items) (.arr items')
  | obj {entries entries' : List (String × Json)} :
      AlikeEntries entries entries' → Alike (.obj entries) (.obj entries')

inductive AlikeItems : List Json → List Json → Prop
  | nil : AlikeItems [] []
  | cons {item item' : Json} {items items' : List Json} :
      Alike item item' → AlikeItems items items' → AlikeItems (item :: items) (item' :: items')

inductive AlikeEntries : List (String × Json) → List (String × Json) → Prop
  | nil : AlikeEntries [] []
  | hidden {key : String} (value value' : Json) {entries entries' : List (String × Json)} :
      isSensitive key = true → AlikeEntries entries entries' →
        AlikeEntries ((key, value) :: entries) ((key, value') :: entries')
  | shown (key : String) {value value' : Json} {entries entries' : List (String × Json)} :
      Alike value value' → AlikeEntries entries entries' →
        AlikeEntries ((key, value) :: entries) ((key, value') :: entries')

end

variable {library}

mutual

theorem Alike.redact_eq {value value' : Json} (h : Alike library value value') :
    redactWebhookValue library value = redactWebhookValue library value' := by
  cases h with
  | same => rfl
  | url hUrl hUrl' => rw [redactWebhookValue, redactWebhookValue, if_pos hUrl, if_pos hUrl']
  | arr hItems => rw [redactWebhookValue, redactWebhookValue, hItems.redact_eq]
  | obj hEntries => rw [redactWebhookValue, redactWebhookValue, hEntries.redact_eq]

theorem AlikeItems.redact_eq {items items' : List Json} (h : AlikeItems library items items') :
    redactItems library items = redactItems library items' := by
  cases h with
  | nil => rfl
  | cons hItem hItems => rw [redactItems, redactItems, hItem.redact_eq, hItems.redact_eq]

theorem AlikeEntries.redact_eq {entries entries' : List (String × Json)} (h : AlikeEntries library entries entries') :
    redactEntries library entries = redactEntries library entries' := by
  cases h with
  | nil => rfl
  | hidden _ _ hSensitive hEntries =>
    rw [redactEntries, redactEntries, if_pos hSensitive, if_pos hSensitive, hEntries.redact_eq]
  | shown _ hValue hEntries => rw [redactEntries, redactEntries, hValue.redact_eq, hEntries.redact_eq]

end

def SameOrigin (library : Library) (url url' : String) : Prop := library.urlsplit url = library.urlsplit url'

/-- Headers of the same names, and of the same values where those are logged. -/
def SameHeaders (library : Library) : List (String × String) → List (String × String) → Prop :=
  List.Forall₂ fun header header' =>
    header.1 = header'.1 ∧ (isLogged library header.1 = true → header.2 = header'.2)

theorem SameHeaders.logged_eq {headers headers' : List (String × String)} (h : SameHeaders library headers headers') :
    (headers.map fun header => (header.1, Json.str (if isLogged library header.1 then header.2 else REDACTED))) =
      headers'.map fun header => (header.1, Json.str (if isLogged library header.1 then header.2 else REDACTED)) := by
  induction h with
  | nil => rfl
  | @cons header header' _ _ hHeader _ ih =>
    obtain ⟨hName, hValue⟩ := hHeader
    rw [List.map_cons, List.map_cons, ih, ← hName]
    by_cases hLogged : isLogged library header.1 = true
    · rw [hValue hLogged]
    · rw [if_neg hLogged, if_neg hLogged]

structure SameToLog (library : Library) (delivery delivery' : Delivery) : Prop where
  id : delivery.id = delivery'.id
  webhookName : delivery.webhookName = delivery'.webhookName
  origin : SameOrigin library delivery.endpointUrl delivery'.endpointUrl
  payload : Alike library delivery.payload delivery'.payload

theorem log_hides {delivery delivery' : Delivery} {headers headers' : List (String × String)}
    (hDelivery : SameToLog library delivery delivery') (hHeaders : SameHeaders library headers headers')
    (method : String) (attempt : Nat) :
    logWebhookRequest library delivery method attempt headers =
      logWebhookRequest library delivery' method attempt headers' := by
  have hUrl : safeWebhookUrl library delivery.endpointUrl = safeWebhookUrl library delivery'.endpointUrl := by
    rw [safeWebhookUrl, safeWebhookUrl, hDelivery.origin]
  rw [logWebhookRequest, logWebhookRequest, requestData, requestData, hDelivery.id, hDelivery.webhookName, hUrl,
    hHeaders.logged_eq, hDelivery.payload.redact_eq]

def hooksLibrary : Library where
  lower := String.toLower
  urlsplit url :=
    if "https://hooks.example/".toList.isPrefixOf url.toList then some ⟨"https", some "hooks.example", some none⟩
    else some ⟨"", none, some none⟩

def orderDelivery (url key callback : String) : Delivery where
  id := 7
  webhookName := some "Orders"
  endpointUrl := url
  payload := .obj [("apiKey", .str key), ("callbacks", .arr [.str callback]), ("done", .bool true)]

theorem log_hides_order :
    logWebhookRequest hooksLibrary (orderDelivery "https://hooks.example/1" "k1" "https://hooks.example/a") "POST" 1
        [("Authorization", "Bearer t1"), ("Content-Type", "application/json")] =
      logWebhookRequest hooksLibrary (orderDelivery "https://hooks.example/2" "k2" "https://hooks.example/b") "POST" 1
        [("Authorization", "Bearer t2"), ("Content-Type", "application/json")] := by
  have hPayload : Alike hooksLibrary (orderDelivery "https://hooks.example/1" "k1" "https://hooks.example/a").payload
      (orderDelivery "https://hooks.example/2" "k2" "https://hooks.example/b").payload :=
    .obj (.hidden _ _ (by decide +kernel)
      (.shown _ (.arr (.cons (.url (by decide +kernel) (by decide +kernel)) .nil)) (.shown _ (.same _) .nil)))
  have hOrigin : SameOrigin hooksLibrary "https://hooks.example/1" "https://hooks.example/2" := by
    unfold SameOrigin
    decide +kernel
  have hSecret : isLogged hooksLibrary "Authorization" ≠ true := by decide +kernel
  have hHeaders : SameHeaders hooksLibrary [("Authorization", "Bearer t1"), ("Content-Type", "application/json")]
      [("Authorization", "Bearer t2"), ("Content-Type", "application/json")] :=
    .cons ⟨rfl, fun h => absurd h hSecret⟩ (.cons ⟨rfl, fun _ => rfl⟩ .nil)
  have hDelivery : SameToLog hooksLibrary
      (orderDelivery "https://hooks.example/1" "k1" "https://hooks.example/a")
      (orderDelivery "https://hooks.example/2" "k2" "https://hooks.example/b") :=
    ⟨rfl, rfl, hOrigin, hPayload⟩
  exact log_hides hDelivery hHeaders "POST" 1

end

end FastVoice.Webhooks.RequestLog
