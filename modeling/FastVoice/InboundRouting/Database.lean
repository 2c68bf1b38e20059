import FastVoice.Configuration.Masking
import FastVoice.Sql.Table

/-! # Telephony providers and their credentials

What the registry says about the credentials of a provider, and how submitted credentials are completed
from the stored ones before they are saved.
-/
namespace FastVoice.InboundRouting
open Python Configuration

/-- The fields of a provider's specification that concern its credentials. A sensitive field is a path
of keys. -/
structure ProviderSpec where
  accountIdCredentialField : String := ""
  sensitiveFields : List (List String)
  serverManagedCredentialFields : List String := []
  accountScopedServerManagedCredentialFields : List String := []
  preprocesses : Bool := false

def getOptional : String → Option ProviderSpec
  | "twilio" => some {
      accountIdCredentialField := "account_sid"
      sensitiveFields := [["account_sid"], ["auth_token"]] }
  | "vonage" => some {
      accountIdCredentialField := "api_key"
      sensitiveFields := [["private_key"], ["api_key"], ["api_secret"], ["signature_secret"]] }
  | "telnyx" => some {
      accountIdCredentialField := "connection_id"
      sensitiveFields := [["api_key"]]
      preprocesses := true }
  | "plivo" => some {
      accountIdCredentialField := "auth_id"
      sensitiveFields := [["auth_id"], ["auth_token"]]
      preprocesses := true }
  | "vobiz" => some {
      accountIdCredentialField := "auth_id"
      sensitiveFields := [["auth_id"], ["auth_token"]]
      preprocesses := true }
  | "cloudonix" => some {
      accountIdCredentialField := "domain_id"
      sensitiveFields := [["bearer_token"]]
      serverManagedCredentialFields := ["domain_uuid", "application_id", "application_uuid", "managed_by",
        "provisioning_id", "outbound_trunk_uuids"]
      accountScopedServerManagedCredentialFields := ["domain_uuid", "application_id", "application_uuid",
        "outbound_trunk_uuids"]
      preprocesses := true }
  | "ari" => some {
      sensitiveFields := [["app_password"], ["external_pbx", "agent_api", "username"],
        ["external_pbx", "agent_api", "password"], ["external_pbx", "non_agent_api", "username"],
        ["external_pbx", "non_agent_api", "password"]] }
  | _ => none

/-- The field that names the account of a provider, empty for a provider without one. -/
def accountField (provider : String) : String :=
  ((getOptional provider).map ProviderSpec.accountIdCredentialField).getD ""

def getNestedField (value : Json) (path : List String) : Json := path.foldl Json.get value

def setNestedField : List String → Json → Json → Json
  | [], _, fieldValue => fieldValue
  | [part], value, fieldValue => value.set part fieldValue
  | part :: parts, value, fieldValue =>
    let child := if (value.get part).isDict then value.get part else .obj []
    value.set part (setNestedField parts child fieldValue)

def preserveMaskedFields (provider : String) (requestDict existing : Json) : Json :=
  let fields := ((getOptional provider).map ProviderSpec.sensitiveFields).getD []
  fields.foldl (fun request path =>
    match getNestedField request path, getNestedField existing path with
    | .str value, .str existingValue =>
      if value ≠ "" ∧ isMaskOf value existingValue then
        setNestedField path request (.str existingValue)
      else
        request
    | _, _ => request) requestDict

/-- `_run_preprocess_hook` up to the hook: the fields that only the server sets are carried over, except
those of another account. An account id is a string. -/
def carryServerFields (spec : ProviderSpec) (credentials : Json) (existing : Option Json) : Json :=
  let field := spec.accountIdCredentialField
  let accountChanged := existing.any fun stored =>
    field ≠ "" && (credentials.get field).text? ≠ (stored.get field).text?
  let invalidated := if accountChanged then spec.accountScopedServerManagedCredentialFields else []
  spec.serverManagedCredentialFields.foldl (fun credentials field =>
    let without := credentials.pop field
    match existing with
    | some stored =>
      if field ∉ invalidated ∧ stored.has field then without.set field (stored.get field)
      else without
    | none => without) credentials

end FastVoice.InboundRouting

/-! # Telephony configurations and phone numbers

The two tables that an inbound call is routed by, and the transactions on them. A database refuses a name
that an organization uses already, an address that it has already, and a number without a configuration.
-/
namespace FastVoice.InboundRouting
open Python Sql

structure Configuration where
  id : Nat
  organizationId : Nat
  name : String
  provider : String
  credentials : Json
  inactive : Bool := false

structure PhoneNumber where
  id : Nat
  organizationId : Nat
  telephonyConfigurationId : Nat
  address : String
  addressNormalized : String
  isActive : Bool := true

structure Database where
  configurations : Table Configuration.id
  phoneNumbers : Table PhoneNumber.id
  nextConfigurationId : Nat
  nextPhoneNumberId : Nat

def Configuration.credential (c : Configuration) (field : String) : Option String :=
  (c.credentials.get field).text?

/-- The account that inbound calls of the configuration name, if it has one. -/
def Configuration.account (c : Configuration) : Option String :=
  if accountField c.provider = "" then none
  else (c.credential (accountField c.provider)).filter (· ≠ "")

namespace Database

variable (db : Database)

def joined : List (Configuration × PhoneNumber) :=
  (db.configurations.rows.product db.phoneNumbers.rows).filter fun row =>
    row.2.telephonyConfigurationId = row.1.id

def getTelephonyConfigurationForOrg (configId organizationId : Nat) : Option Configuration :=
  (db.configurations.lookup configId).filter fun c => c.organizationId = organizationId

def getPhoneNumberForConfig (phoneNumberId configId : Nat) : Option PhoneNumber :=
  (db.phoneNumbers.lookup phoneNumberId).filter fun n => n.telephonyConfigurationId = configId

def findInboundRoutingConflict (provider accountIdField accountId canonical : String) :
    Option (Configuration × PhoneNumber) :=
  if provider = "" ∨ accountIdField = "" ∨ accountId = "" then
    none
  else
    db.joined.find? fun row =>
      row.1.provider = provider && row.1.credential accountIdField = some accountId &&
        row.2.addressNormalized = canonical

def inboundRoutes (provider accountIdField accountId canonical : String) (organizationId : Option Nat) :
    List (Configuration × PhoneNumber) :=
  db.joined.filter fun row =>
    row.1.provider = provider && row.1.credential accountIdField = some accountId &&
      row.2.addressNormalized = canonical && row.2.isActive && !row.1.inactive &&
      organizationId.all fun id => row.1.organizationId = id

def findInboundRouteByAccount (provider accountIdField accountId canonical : String)
    (organizationId : Option Nat) : Option (Configuration × PhoneNumber) :=
  if provider = "" ∨ accountIdField = "" ∨ accountId = "" then none
  else (db.inboundRoutes provider accountIdField accountId canonical organizationId).head?

def addressTaken (organizationId : Nat) (canonical : String) : Bool :=
  db.phoneNumbers.rows.any fun n => n.organizationId = organizationId && n.addressNormalized = canonical

def createPhoneNumber (organizationId configId : Nat) (address canonical : String) (isActive : Bool) :
    Option PhoneNumber × Database :=
  let row : PhoneNumber := ⟨db.nextPhoneNumberId, organizationId, configId, address, canonical, isActive⟩
  if db.addressTaken organizationId canonical || (db.configurations.lookup configId).isNone then
    (none, db)
  else
    (some row, { db with
      phoneNumbers := db.phoneNumbers.insert row
      nextPhoneNumberId := db.nextPhoneNumberId + 1 })

def createTelephonyConfiguration (organizationId : Nat) (name provider : String) (credentials : Json) :
    Option Configuration × Database :=
  let row : Configuration := ⟨db.nextConfigurationId, organizationId, name, provider, credentials, false⟩
  if db.configurations.rows.any fun c => c.organizationId = organizationId && c.name = name then
    (none, db)
  else
    (some row, { db with
      configurations := db.configurations.insert row
      nextConfigurationId := db.nextConfigurationId + 1 })

def modify (configId : Nat) (f : Configuration → Configuration) (h : ∀ c, (f c).id = c.id) : Database :=
  { db with
    configurations := db.configurations.update (fun c => if c.id = configId then f c else c) fun c => by
      split
      · exact h c
      · rfl }

def withChanges (name : Option String) (credentials : Option Json) (c : Configuration) : Configuration :=
  { c with name := name.getD c.name, credentials := credentials.getD c.credentials }

theorem withChanges_id (name : Option String) (credentials : Option Json) (c : Configuration) :
    (withChanges name credentials c).id = c.id := rfl

def nameTaken (configId organizationId : Nat) (name : Option String) : Bool :=
  name.any fun name => db.configurations.rows.any fun c =>
    c.id ≠ configId && c.organizationId = organizationId && c.name = name

def updateTelephonyConfiguration (configId organizationId : Nat) (name : Option String)
    (credentials : Option Json) : Except Unit (Option Configuration) × Database :=
  match db.getTelephonyConfigurationForOrg configId organizationId with
  | none => (.ok none, db)
  | some row =>
    if db.nameTaken configId organizationId name then
      (.error (), db)
    else
      (.ok (some (withChanges name credentials row)),
        db.modify configId (withChanges name credentials) (withChanges_id name credentials))

def deleteTelephonyConfiguration (configId organizationId : Nat) : Bool × Database :=
  match db.getTelephonyConfigurationForOrg configId organizationId with
  | none => (false, db)
  | some _ =>
    (true, { db with
      configurations := db.configurations.delete configId
      phoneNumbers := ⟨db.phoneNumbers.rows.filter fun n => n.telephonyConfigurationId ≠ configId,
        db.phoneNumbers.distinct.sublist (List.filter_sublist.map PhoneNumber.id)⟩ })

def deletePhoneNumber (phoneNumberId configId : Nat) : Bool × Database :=
  match db.getPhoneNumberForConfig phoneNumberId configId with
  | none => (false, db)
  | some _ => (true, { db with phoneNumbers := db.phoneNumbers.delete phoneNumberId })

def setInactive (configId : Nat) (inactive : Bool) : Database :=
  db.modify configId (fun c => { c with inactive := inactive }) fun _ => rfl

/-- `update_phone_number`, of which only the active flag matters to a lookup. -/
def updatePhoneNumber (phoneNumberId : Nat) (isActive : Bool) : Database :=
  { db with
    phoneNumbers := db.phoneNumbers.update
      (fun n => if n.id = phoneNumberId then { n with isActive := isActive } else n) fun n => by
        split <;> rfl }

end Database

end FastVoice.InboundRouting
