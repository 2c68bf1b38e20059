import FastVoice.Runtime.Text

/-! # Embed tokens and their sessions

The rows of a token and of a session, and the check of the origin of a request.
-/
namespace FastVoice.Embed

structure EmbedToken where
  workflowId : Nat
  organizationId : Nat
  createdBy : Nat
  allowedDomains : List String
  isActive : Bool
  deriving DecidableEq

structure EmbedSession where
  embedTokenId : Nat
  workflowRunId : Option Nat
  expiresAt : Nat
  deriving DecidableEq

structure SplitUrl where
  hostname : Option String
  port : Option (Option Nat)

/-- How the library reads texts and URLs: `urlsplit` raises where there is no result. -/
structure UrlLibrary where
  lower : String → String
  urlsplit : String → Option SplitUrl

namespace UrlLibrary

variable (library : UrlLibrary)

def dropTrailingDots (hostname : String) : String := String.ofList (hostname.toList.rdropWhile (· = '.'))

def hasPrefix (text start : String) : Bool := start.toList.isPrefixOf text.toList

def hasSuffix (text last : String) : Bool := last.toList.isSuffixOf text.toList

def contains (text part : String) : Bool := text.toList.tails.any part.toList.isPrefixOf

def parseOriginHostPort (value : String) : Option (String × Option String) :=
  let candidate := library.lower (Text.strip value)
  if candidate = "" then some ("", none)
  else
    let candidate :=
      if !contains candidate "://" && !hasPrefix candidate "//" then "//" ++ candidate else candidate
    (library.urlsplit candidate).map fun parsed =>
      (dropTrailingDots (parsed.hostname.getD ""), (parsed.port.getD none).map toString)

def normalizeWww (value : String) : List String :=
  if hasPrefix value "www." then [value, String.ofList (value.toList.drop 4)] else [value, "www." ++ value]

/-- Whether one entry of the allow-list lets a host and its port in. -/
def allows (domain : String) (originPort : Option String) (allowed : String) : Option Bool :=
  let allowed := library.lower (Text.strip allowed)
  if allowed = "*" then some true
  else
    (library.parseOriginHostPort allowed).map fun (allowedDomain, allowedPort) =>
      if allowedDomain = "" then false
      else if allowedPort.isSome && allowedPort ≠ originPort then false
      else if hasPrefix allowedDomain "*." then
        let baseDomain := String.ofList (allowedDomain.toList.drop 2)
        domain = baseDomain || hasSuffix domain ("." ++ baseDomain)
      else (normalizeWww domain).any (· ∈ normalizeWww allowedDomain)

/-- `none` where an URL cannot be split. -/
def validateEmbedOrigin (origin : String) (allowedDomains : List String) : Option Bool :=
  if allowedDomains = [] then some true
  else
    match library.parseOriginHostPort origin with
    | none => none
    | some (domain, originPort) =>
      if domain = "" then some false else allowedDomains.anyM (library.allows domain originPort)

end UrlLibrary

end FastVoice.Embed
