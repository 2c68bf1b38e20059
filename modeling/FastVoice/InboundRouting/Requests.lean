import FastVoice.Async.Protocol
import FastVoice.InboundRouting.Database

/-! # Requests on configurations and numbers

Each transaction and each provider call is one step; between two steps of a request any other request may
move. A request for creation checks for a conflict in one transaction and inserts in a later one.
-/
namespace FastVoice.InboundRouting
open Python Async

inductive HttpError where
  | httpException (statusCode : Nat) (detail : String)
  | exception
  deriving DecidableEq

inductive Command where
  | getTelephonyConfigurationForOrg (configId organizationId : Nat)
  | getPhoneNumberForConfig (phoneNumberId configId : Nat)
  | getWorkflow (workflowId organizationId : Nat)
  | findInboundRoutingConflict (provider accountIdField accountId canonical : String)
  | ensureProviderPhoneNumber (configId : Nat) (canonical : String)
  | createPhoneNumber (organizationId configId : Nat) (address canonical : String) (isActive : Bool)
  | configureInbound (configId : Nat) (address : String) (attach : Bool)
  | preprocessCredentialsOnSave (provider : String) (credentials : Json)
  | createTelephonyConfiguration (organizationId : Nat) (name provider : String) (credentials : Json)
  | updateTelephonyConfiguration (configId organizationId : Nat) (name : Option String)
      (credentials : Option Json)
  | deleteTelephonyConfiguration (configId organizationId : Nat)
  | deletePhoneNumber (phoneNumberId configId : Nat)

def Reply : Command → Type
  | .getTelephonyConfigurationForOrg .. => Option Configuration
  | .getPhoneNumberForConfig .. => Option PhoneNumber
  | .getWorkflow .. => Bool
  | .findInboundRoutingConflict .. => Option (Configuration × PhoneNumber)
  | .ensureProviderPhoneNumber .. => Except HttpError Unit
  | .createPhoneNumber .. => Option PhoneNumber
  | .configureInbound .. => Bool
  | .preprocessCredentialsOnSave .. => Json
  | .createTelephonyConfiguration .. => Option Configuration
  | .updateTelephonyConfiguration .. => Except Unit (Option Configuration)
  | .deleteTelephonyConfiguration .. => Bool
  | .deletePhoneNumber .. => Bool

inductive Response where
  | phoneNumber (row : PhoneNumber)
  | configuration (row : Configuration)
  | deleted

abbrev Handler (α : Type) := Program Reply HttpError α

def send (cmd : Command) : Handler (Reply cmd) := Program.call cmd

def fetchConfiguration (configId organizationId : Nat) : Handler Configuration := do
  let cfg : Option Configuration ← send (.getTelephonyConfigurationForOrg configId organizationId)
  match cfg with
  | some cfg => .ret cfg
  | none => .raise (.httpException 404 "Telephony configuration not found")

def ensureWorkflowBelongsToOrg (workflowId organizationId : Nat) : Handler Unit := do
  let found : Bool ← send (.getWorkflow workflowId organizationId)
  if found then .ret () else .raise (.httpException 404 "Workflow not found")

structure PhoneNumberCreateRequest where
  address : String
  countryCode : Option String := none
  inboundWorkflowId : Option Nat := none
  isActive : Bool := true

section

-- `normalize_telephony_address(address, country_hint).canonical`, or the text of its `ValueError`.
variable (normalize : String → Option String → Except String String)

def conflictDetail (organizationId : Nat) (conflict : Configuration × PhoneNumber) : String :=
  let scope :=
    if conflict.1.organizationId = organizationId then
      "telephony configuration '" ++ conflict.1.name ++ "'"
    else
      "another organization using the same provider account"
  "Phone number " ++ conflict.2.address ++ " is already registered under " ++ scope ++
    ". Inbound calls cannot be uniquely routed when the same number is configured against the same " ++
    "provider account in more than one place."

/-- The check of the conflict, for a configuration that names an account. -/
def checkConflict (organizationId : Nat) (cfg : Configuration) (request : PhoneNumberCreateRequest) :
    Handler Unit :=
  match cfg.account with
  | none => .ret ()
  | some accountId =>
    match normalize request.address request.countryCode with
    | .error text => .raise (.httpException 400 text)
    | .ok canonical => do
      let conflict : Option (Configuration × PhoneNumber) ←
        send (.findInboundRoutingConflict cfg.provider (accountField cfg.provider) accountId canonical)
      match conflict with
      | some conflict => .raise (.httpException 409 (conflictDetail organizationId conflict))
      | none => .ret ()

def ensureProviderPhoneNumber (configId : Nat) (canonical : String) : Handler Unit := do
  let answer : Except HttpError Unit ← send (.ensureProviderPhoneNumber configId canonical)
  match answer with
  | .ok _ => .ret ()
  | .error refusal => .raise refusal

def syncNewNumber (configId : Nat) (request : PhoneNumberCreateRequest) (row : PhoneNumber) :
    Handler Response :=
  if request.inboundWorkflowId.isSome then do
    let _ : Bool ← send (.configureInbound configId row.address row.isActive)
    .ret (.phoneNumber row)
  else
    .ret (.phoneNumber row)

def insertPhoneNumber (organizationId configId : Nat) (canonical : String)
    (request : PhoneNumberCreateRequest) : Handler Response := do
  let row : Option PhoneNumber ←
    send (.createPhoneNumber organizationId configId request.address canonical request.isActive)
  match row with
  | none => .raise (.httpException 409 "A phone number with this address already exists in the org.")
  | some row => syncNewNumber configId request row

def checkWorkflow (organizationId : Nat) (request : PhoneNumberCreateRequest) : Handler Unit :=
  match request.inboundWorkflowId with
  | some workflowId => ensureWorkflowBelongsToOrg workflowId organizationId
  | none => .ret ()

def registerNumber (organizationId configId : Nat) (request : PhoneNumberCreateRequest) :
    Handler Response :=
  match normalize request.address request.countryCode with
  | .error text => .raise (.httpException 400 text)
  | .ok canonical => do
    ensureProviderPhoneNumber configId canonical
    insertPhoneNumber organizationId configId canonical request

def createPhoneNumber (organizationId configId : Nat) (request : PhoneNumberCreateRequest) :
    Handler Response := do
  let cfg ← fetchConfiguration configId organizationId
  checkWorkflow organizationId request
  checkConflict normalize organizationId cfg request
  registerNumber normalize organizationId configId request

end

def runPreprocessHook (provider : String) (credentials : Json) (existing : Option Json) : Handler Json :=
  match getOptional provider with
  | none => .ret credentials
  | some spec =>
    let carried := carryServerFields spec credentials existing
    if spec.preprocesses then send (.preprocessCredentialsOnSave provider carried)
    else .ret carried

def createTelephonyConfiguration (organizationId : Nat) (name provider : String) (payload : Json) :
    Handler Response := do
  let credentials ← runPreprocessHook provider payload none
  let row : Option Configuration ←
    send (.createTelephonyConfiguration organizationId name provider credentials)
  match row with
  | some row => .ret (.configuration row)
  | none => .raise (.httpException 409 ("A telephony configuration named '" ++ name ++
      "' already exists in this organization. Pick a different name."))

def updatedCredentials (existing : Configuration) (config : Option (String × Json)) :
    Handler (Option Json) :=
  match config with
  | none => .ret none
  | some (provider, payload) =>
    if provider ≠ existing.provider then
      .raise (.httpException 400 "Provider cannot be changed; create a new configuration instead.")
    else do
      let credentials ← runPreprocessHook existing.provider
        (preserveMaskedFields existing.provider payload existing.credentials) (some existing.credentials)
      .ret (some credentials)

def updateTelephonyConfiguration (organizationId configId : Nat) (name : Option String)
    (config : Option (String × Json)) : Handler Response := do
  let existing ← fetchConfiguration configId organizationId
  let credentials ← updatedCredentials existing config
  let row : Except Unit (Option Configuration) ←
    send (.updateTelephonyConfiguration configId organizationId name credentials)
  match row with
  | .ok (some row) => .ret (.configuration row)
  | _ => .raise .exception

def deleteTelephonyConfiguration (organizationId configId : Nat) : Handler Response := do
  let deleted : Bool ← send (.deleteTelephonyConfiguration configId organizationId)
  if deleted then .ret .deleted
  else .raise (.httpException 404 "Telephony configuration not found")

def detachAndDelete (configId : Nat) (number : PhoneNumber) : Handler Response := do
  let ok : Bool ← send (.configureInbound configId number.address false)
  if ok then do
    let deleted : Bool ← send (.deletePhoneNumber number.id configId)
    if deleted then .ret .deleted else .raise (.httpException 404 "Phone number not found")
  else
    .raise (.httpException 502 "Provider rejected the phone-number detach request")

def deletePhoneNumber (organizationId configId phoneNumberId : Nat) : Handler Response := do
  let _ ← fetchConfiguration configId organizationId
  let existing : Option PhoneNumber ← send (.getPhoneNumberForConfig phoneNumberId configId)
  match existing with
  | none => .raise (.httpException 404 "Phone number not found")
  | some number => detachAndDelete configId number

inductive Request where
  | createPhoneNumber (organizationId configId : Nat) (request : PhoneNumberCreateRequest)
  | createTelephonyConfiguration (organizationId : Nat) (name provider : String) (payload : Json)
  | updateTelephonyConfiguration (organizationId configId : Nat) (name : Option String)
      (config : Option (String × Json))
  | deleteTelephonyConfiguration (organizationId configId : Nat)
  | deletePhoneNumber (organizationId configId phoneNumberId : Nat)

def Request.handle (normalize : String → Option String → Except String String) :
    Request → Handler Response
  | .createPhoneNumber organizationId configId request =>
    InboundRouting.createPhoneNumber normalize organizationId configId request
  | .createTelephonyConfiguration organizationId name provider payload =>
    InboundRouting.createTelephonyConfiguration organizationId name provider payload
  | .updateTelephonyConfiguration organizationId configId name config =>
    InboundRouting.updateTelephonyConfiguration organizationId configId name config
  | .deleteTelephonyConfiguration organizationId configId =>
    InboundRouting.deleteTelephonyConfiguration organizationId configId
  | .deletePhoneNumber organizationId configId phoneNumberId =>
    InboundRouting.deletePhoneNumber organizationId configId phoneNumberId

/-- What lies outside: the table of workflows, and what the provider answers to each request. -/
structure Outside (ι : Type) where
  workflowExists : ι → Nat → Nat → Bool
  ensures : ι → Nat → String → Except HttpError Unit
  configures : ι → Nat → String → Bool → Bool
  preprocess : ι → String → Json → Json

inductive Move where
  | setInactive (configId : Nat) (inactive : Bool)
  | updatePhoneNumber (phoneNumberId : Nat) (isActive : Bool)
  deriving DecidableEq

section

variable {ι : Type}

def execute (outside : Outside ι) (proc : ι) : (cmd : Command) → Database → Reply cmd × Database
  | .getTelephonyConfigurationForOrg configId organizationId, db =>
    (db.getTelephonyConfigurationForOrg configId organizationId, db)
  | .getPhoneNumberForConfig phoneNumberId configId, db =>
    (db.getPhoneNumberForConfig phoneNumberId configId, db)
  | .getWorkflow workflowId organizationId, db => (outside.workflowExists proc workflowId organizationId, db)
  | .findInboundRoutingConflict provider accountIdField accountId canonical, db =>
    (db.findInboundRoutingConflict provider accountIdField accountId canonical, db)
  | .ensureProviderPhoneNumber configId canonical, db => (outside.ensures proc configId canonical, db)
  | .createPhoneNumber organizationId configId address canonical isActive, db =>
    db.createPhoneNumber organizationId configId address canonical isActive
  | .configureInbound configId address attach, db => (outside.configures proc configId address attach, db)
  | .preprocessCredentialsOnSave provider credentials, db =>
    (outside.preprocess proc provider credentials, db)
  | .createTelephonyConfiguration organizationId name provider credentials, db =>
    db.createTelephonyConfiguration organizationId name provider credentials
  | .updateTelephonyConfiguration configId organizationId name credentials, db =>
    db.updateTelephonyConfiguration configId organizationId name credentials
  | .deleteTelephonyConfiguration configId organizationId, db =>
    db.deleteTelephonyConfiguration configId organizationId
  | .deletePhoneNumber phoneNumberId configId, db => db.deletePhoneNumber phoneNumberId configId

def environment : Move → Database → Option Database
  | .setInactive configId inactive, db => some (db.setInactive configId inactive)
  | .updatePhoneNumber phoneNumberId isActive, db => some (db.updatePhoneNumber phoneNumberId isActive)

def system (outside : Outside ι) : System ι Reply HttpError Database Move where
  perform proc := (System.ofServer (execute outside proc) environment).perform proc
  environment := environment

end

end FastVoice.InboundRouting
