import FastVoice.Python.IpAddress

/-! # Requests to the URLs that a user configures

A URL is checked at one moment and connected to at a later one, and the answers to a host name may change
between the two.
-/
namespace FastVoice.Outbound
open Python

/-- A parsed URL. Reading the port of some URLs raises. -/
structure Url where
  scheme : String
  hostname : Option String
  port : Option (Option Nat)
  deriving DecidableEq

structure Web where
  urlparse : String → Option Url
  /-- `ipaddress.ip_address` on a host name. -/
  ipAddress : String → Option IpAddress
  /-- `none` when the name does not resolve. -/
  getaddrinfo : Nat → String → Option (List IpAddress)
  /-- The addresses of an answer that a client tries to connect to. -/
  tried : Nat → List IpAddress → List IpAddress
  tried_subset : ∀ moment answer, tried moment answer ⊆ answer
  location : Nat → String → Option String

def cgnatNetwork : IpAddress.Network 32 := ⟨0x64400000#32, 10, by decide⟩

def isBlockedSaasServiceIp (ip : IpAddress) : Bool :=
  ip.isPrivate || ip.isLoopback || ip.isLinkLocal || ip.isMulticast || ip.isReserved || ip.isUnspecified ||
    match ip with
    | .v4 ip => cgnatNetwork.contains ip
    | .v6 _ => false

namespace Web

variable (web : Web)

def resolveHostnameIps (moment : Nat) (hostname : String) : Option (List IpAddress) :=
  match web.ipAddress hostname with
  | some ip => some [ip]
  | none => web.getaddrinfo moment hostname

/-- A `ValueError` of a library has a text that the caller does not control. -/
def libraryError : String := "Invalid URL"

def validateUserConfiguredServiceUrl (deploymentMode : String) (moment : Nat) (url fieldName : String) :
    Except String Unit :=
  if deploymentMode = "oss" then .ok ()
  else
    match web.urlparse url with
    | none => .error libraryError
    | some parsed =>
      match parsed.hostname with
      | none => .error (fieldName ++ " must be an http, https, ws, or wss URL")
      | some hostname =>
        if parsed.scheme ∉ ["http", "https", "ws", "wss"] ∨ hostname = "" then
          .error (fieldName ++ " must be an http, https, ws, or wss URL")
        else if hostname.toLower = "localhost" then
          .error (fieldName ++ " cannot point to localhost in SaaS mode")
        else
          match parsed.port with
          | none => .error libraryError
          | some _ =>
            match web.resolveHostnameIps moment hostname with
            | none => .error "Could not resolve service URL hostname"
            | some ips =>
              if ips.any isBlockedSaasServiceIp then
                .error (fieldName ++ " must resolve to a public IP address in SaaS mode")
              else .ok ()

/-- The host that the client connects to: a URL of another scheme, or without a host, is refused. -/
def clientHost (url : String) : Option String :=
  match web.urlparse url with
  | some ⟨scheme, some hostname, some _⟩ =>
    if scheme ∈ ["http", "https"] ∧ hostname ≠ "" then some hostname else none
  | _ => none

def connections (moment : Nat) (url : String) : List IpAddress :=
  match web.clientHost url with
  | some hostname => web.tried moment ((web.resolveHostnameIps moment hostname).getD [])
  | none => []

def requested (followRedirects : Bool) : Nat → Nat → String → List (Nat × String)
  | 0, moment, url => [(moment, url)]
  | redirects + 1, moment, url =>
    (moment, url) ::
      match followRedirects, web.location moment url with
      | true, some next => requested followRedirects redirects (moment + 1) next
      | _, _ => []

def request (followRedirects : Bool) (moment : Nat) (url : String) : List IpAddress :=
  (web.requested followRedirects 20 moment url).flatMap fun (moment, url) => web.connections moment url

theorem requested_without_redirects (redirects moment : Nat) (url : String) :
    web.requested false redirects moment url = [(moment, url)] := by
  cases redirects <;> simp [requested]

theorem request_without_redirects (moment : Nat) (url : String) :
    web.request false moment url = web.connections moment url := by
  simp [request, requested_without_redirects]

end Web

/-- A use of a URL: what rendering its template gave, whether all that the site does besides the check reaches
the request, and the moments of the check and of the request. -/
structure Use where
  url : Option String
  prepared : Bool
  checked : Nat
  sent : Nat

variable (web : Web) (deploymentMode : String)

def connectionsOf (checkedField : Option String) (use : Use) : List IpAddress :=
  match use.url with
  | none => []
  | some url =>
    match checkedField.map (web.validateUserConfiguredServiceUrl deploymentMode use.checked url) with
    | some (.error _) => []
    | _ => if use.prepared then web.request false use.sent url else []

inductive CallSite where
  | httpTool
  | transferResolver
  | preCallFetch
  | webhook
  deriving DecidableEq

def CallSite.checkedField : CallSite → Option String
  | .httpTool => some "config.url"
  | .transferResolver => some "config.resolver.url"
  | .preCallFetch => none
  | .webhook => none

def executeHttpTool (use : Use) : List IpAddress := connectionsOf web deploymentMode (some "config.url") use

def executeHttpResolver (use : Use) : List IpAddress :=
  connectionsOf web deploymentMode (some "config.resolver.url") use

def executePreCallFetch (use : Use) : List IpAddress := connectionsOf web deploymentMode none use

def deliverWebhook (use : Use) : List IpAddress := connectionsOf web deploymentMode none use

def CallSite.execute : CallSite → Use → List IpAddress
  | .httpTool => executeHttpTool web deploymentMode
  | .transferResolver => executeHttpResolver web deploymentMode
  | .preCallFetch => executePreCallFetch web deploymentMode
  | .webhook => deliverWebhook web deploymentMode

theorem CallSite.execute_eq (site : CallSite) (use : Use) :
    site.execute web deploymentMode use = connectionsOf web deploymentMode site.checkedField use := by
  cases site <;> rfl

end FastVoice.Outbound

/-! # When a configured URL leads to an internal address in a hosted deployment -/
namespace FastVoice.Outbound
open Python

namespace Web

variable (web : Web)

def Passes (moment : Nat) (hostname : String) : Prop :=
  hostname.toLower ≠ "localhost" ∧
    ∃ ips, web.resolveHostnameIps moment hostname = some ips ∧ ∀ ip ∈ ips, isBlockedSaasServiceIp ip = false

theorem clientHost_eq_some {url hostname : String} (h : web.clientHost url = some hostname) :
    ∃ scheme port, web.urlparse url = some ⟨scheme, some hostname, some port⟩ ∧
      scheme ∈ ["http", "https"] ∧ hostname ≠ "" := by
  unfold clientHost at h
  split at h
  case h_1 scheme host port hParsed =>
    split at h
    case isTrue hHttp =>
      cases h
      exact ⟨scheme, port, hParsed, hHttp⟩
    case isFalse => cases h
  case h_2 => cases h

theorem validate_ok_iff {deploymentMode : String} (hMode : deploymentMode ≠ "oss") {url hostname : String}
    (hHost : web.clientHost url = some hostname) (moment : Nat) (fieldName : String) :
    web.validateUserConfiguredServiceUrl deploymentMode moment url fieldName = .ok () ↔
      web.Passes moment hostname := by
  obtain ⟨scheme, port, hParsed, hScheme, hNonempty⟩ := web.clientHost_eq_some hHost
  have hService : ¬ (scheme ∉ ["http", "https", "ws", "wss"] ∨ hostname = "") := by
    simp only [List.mem_cons] at hScheme
    rcases hScheme with rfl | rfl | hNone
    · simp [hNonempty]
    · simp [hNonempty]
    · cases hNone
  simp only [validateUserConfiguredServiceUrl, hMode, hParsed, hService, Passes, if_false]
  cases web.resolveHostnameIps moment hostname with
  | none => split <;> simp
  | some ips =>
    split
    case isTrue hLocal => simp [hLocal]
    case isFalse hLocal => simp [hLocal]

theorem connections_of_passes {url hostname : String} (hHost : web.clientHost url = some hostname)
    {checked sent : Nat} (hPasses : web.Passes checked hostname)
    (hSteady : web.resolveHostnameIps sent hostname = web.resolveHostnameIps checked hostname) :
    ∀ ip ∈ web.connections sent url, isBlockedSaasServiceIp ip = false := by
  obtain ⟨-, ips, hIps, hPublic⟩ := hPasses
  intro ip hIp
  have hTried : ip ∈ web.tried sent ips := by
    simpa [connections, hHost, hSteady, hIps] using hIp
  exact hPublic ip (web.tried_subset sent ips hTried)

theorem resolve_steady {hostname : String} {checked sent : Nat} (h : (web.ipAddress hostname).isSome = true ∨
    web.getaddrinfo sent hostname = web.getaddrinfo checked hostname) :
    web.resolveHostnameIps sent hostname = web.resolveHostnameIps checked hostname := by
  unfold resolveHostnameIps
  cases hIp : web.ipAddress hostname with
  | some ip => rfl
  | none =>
    rw [hIp] at h
    exact h.resolve_left Bool.false_ne_true

end Web

variable (web : Web)

def Exposed (moment : Nat) (url : String) : Prop :=
  ∃ ip ∈ web.connections moment url, isBlockedSaasServiceIp ip = true

/-- The condition on the answers of the network at the two moments. At a site that checks, no name may pass the
check and lead elsewhere afterwards; at one that does not, no URL may lead to a blocked address at all. -/
def Sound (site : CallSite) (use : Use) : Prop :=
  use.prepared = true → ∀ url, use.url = some url → Exposed web use.sent url →
    site.checkedField.isSome = true ∧ ∀ hostname, web.clientHost url = some hostname →
      ¬ web.Passes use.checked hostname

theorem exposed_host {moment : Nat} {url : String} (h : Exposed web moment url) :
    ∃ hostname, web.clientHost url = some hostname := by
  obtain ⟨ip, hIp, -⟩ := h
  unfold Web.connections at hIp
  cases hHost : web.clientHost url with
  | none => simp [hHost] at hIp
  | some hostname => exact ⟨hostname, rfl⟩

theorem mem_connectionsOf_iff {deploymentMode : String} {field : Option String} {use : Use} {ip : IpAddress} :
    ip ∈ connectionsOf web deploymentMode field use ↔
      use.prepared = true ∧ ∃ url, use.url = some url ∧ ip ∈ web.connections use.sent url ∧
        ∀ name, field = some name →
          web.validateUserConfiguredServiceUrl deploymentMode use.checked url name = .ok () := by
  unfold connectionsOf
  cases use.url with
  | none => simp
  | some url =>
    cases field with
    | none => simp [Web.request_without_redirects]
    | some name =>
      cases hCheck : web.validateUserConfiguredServiceUrl deploymentMode use.checked url name with
      | error message => simp [hCheck]
      | ok _ => simp [hCheck, Web.request_without_redirects]

theorem use_safe_iff {deploymentMode : String} (hMode : deploymentMode ≠ "oss") (site : CallSite) (use : Use) :
    (∀ ip ∈ site.execute web deploymentMode use, isBlockedSaasServiceIp ip = false) ↔ Sound web site use := by
  rw [CallSite.execute_eq]
  constructor
  · intro hSafe hPrepared url hUrl hExposed
    obtain ⟨hostname, hHost⟩ := exposed_host web hExposed
    obtain ⟨ip, hIp, hBlocked⟩ := hExposed
    have hUnreached : ip ∉ connectionsOf web deploymentMode site.checkedField use := by
      intro hReached
      simp [hSafe ip hReached] at hBlocked
    rw [mem_connectionsOf_iff] at hUnreached
    cases hField : site.checkedField with
    | none => exact absurd ⟨hPrepared, url, hUrl, hIp, by simp [hField]⟩ hUnreached
    | some name =>
      refine ⟨rfl, fun host hSame hPasses => hUnreached ⟨hPrepared, url, hUrl, hIp, ?_⟩⟩
      intro field _
      exact (web.validate_ok_iff hMode hSame use.checked field).mpr hPasses
  · intro hSound ip hReached
    obtain ⟨hPrepared, url, hUrl, hIp, hChecked⟩ := (mem_connectionsOf_iff web).mp hReached
    rw [← Bool.not_eq_true]
    intro hBlocked
    have hExposed : Exposed web use.sent url := ⟨ip, hIp, hBlocked⟩
    obtain ⟨hostname, hHost⟩ := exposed_host web hExposed
    obtain ⟨hField, hFails⟩ := hSound hPrepared url hUrl hExposed
    obtain ⟨name, hName⟩ := Option.isSome_iff_exists.mp hField
    exact hFails hostname hHost ((web.validate_ok_iff hMode hHost use.checked name).mp (hChecked name hName))

/-- A site that checks connects to public addresses only where the host is an address or its name resolves alike at
the check and at the request. -/
theorem checked_site_safe {deploymentMode : String} (hMode : deploymentMode ≠ "oss") {site : CallSite} {use : Use}
    (hSite : site.checkedField.isSome = true) (hSteady : ∀ url hostname, use.url = some url →
      web.clientHost url = some hostname → (web.ipAddress hostname).isSome = true ∨
        web.getaddrinfo use.sent hostname = web.getaddrinfo use.checked hostname) :
    ∀ ip ∈ site.execute web deploymentMode use, isBlockedSaasServiceIp ip = false := by
  refine (use_safe_iff web hMode site use).mpr fun _ url hUrl hExposed => ⟨hSite, fun hostname hHost hPasses => ?_⟩
  obtain ⟨ip, hIp, hBlocked⟩ := hExposed
  have hSame := web.resolve_steady (hSteady url hostname hUrl hHost)
  rw [web.connections_of_passes hHost hPasses hSame ip hIp] at hBlocked
  cases hBlocked

/-- No use, of any number and in any order, connects to an internal address exactly when each of them is sound. -/
theorem no_internal_address_iff {deploymentMode : String} (hMode : deploymentMode ≠ "oss")
    (uses : List (CallSite × Use)) :
    (∀ entry ∈ uses, ∀ ip ∈ entry.1.execute web deploymentMode entry.2, isBlockedSaasServiceIp ip = false) ↔
      ∀ entry ∈ uses, Sound web entry.1 entry.2 := by
  constructor
  · intro hSafe entry hEntry
    exact (use_safe_iff web hMode entry.1 entry.2).mp (hSafe entry hEntry)
  · intro hSound entry hEntry
    exact (use_safe_iff web hMode entry.1 entry.2).mpr (hSound entry hEntry)

def metadataWeb : Web where
  urlparse url :=
    if url = "http://169.254.169.254/latest/meta-data" then some ⟨"http", some "169.254.169.254", some none⟩
    else some ⟨"https", some "rebind.example", some none⟩
  ipAddress hostname := if hostname = "169.254.169.254" then some (.v4 0xA9FEA9FE#32) else none
  getaddrinfo moment _ := some [.v4 (if moment = 0 then 0x08080808#32 else 0x0A000001#32)]
  tried _ answer := answer
  tried_subset _ _ := fun _ h => h
  location _ _ := none

def metadataUse : Use := ⟨some "http://169.254.169.254/latest/meta-data", true, 0, 1⟩

theorem fetch_reaches_metadata :
    ¬ ∀ (web : Web) (deploymentMode : String) (uses : List (CallSite × Use)), deploymentMode ≠ "oss" →
      ∀ entry ∈ uses, ∀ ip ∈ entry.1.execute web deploymentMode entry.2, isBlockedSaasServiceIp ip = false := by
  intro hAll
  have hSafe := hAll metadataWeb "saas" [(.preCallFetch, metadataUse)] (by decide) _ (List.mem_singleton_self _)
    (.v4 0xA9FEA9FE#32) (by decide +kernel)
  exact absurd hSafe (by decide +kernel)

theorem checked_tool_safe :
    (∀ entry ∈ [(CallSite.httpTool, metadataUse)],
      ∀ ip ∈ entry.1.execute metadataWeb "saas" entry.2, isBlockedSaasServiceIp ip = false) ↔
    ∀ entry ∈ [(CallSite.httpTool, metadataUse)], Sound metadataWeb entry.1 entry.2 :=
  no_internal_address_iff metadataWeb (by decide) [(.httpTool, metadataUse)]

def publicUse : Use := ⟨some "https://rebind.example/hook", true, 0, 0⟩

theorem checked_site_safe_public : CallSite.httpTool.execute metadataWeb "saas" publicUse = [.v4 0x08080808#32] ∧
    isBlockedSaasServiceIp (.v4 0x08080808#32) = false := by
  have hSafe : ∀ ip ∈ CallSite.httpTool.execute metadataWeb "saas" publicUse, isBlockedSaasServiceIp ip = false :=
    checked_site_safe metadataWeb (by decide) rfl fun _ _ _ _ => .inr rfl
  exact ⟨by decide +kernel, hSafe _ (by decide +kernel)⟩

end FastVoice.Outbound
