import FastVoice.InboundRouting.UniqueRoutes

/-! # Routes throughout a run

A request inserts a number only for a configuration that it found in its own organization. With that, every
reachable state has consistent tables, and the routes stay apart exactly in the runs whose insertions and
updates are admitted by the rows they meet.
-/
namespace FastVoice.InboundRouting
open Python Sql Async

def Quiet : Command → Prop
  | .getTelephonyConfigurationForOrg .. => False
  | .createPhoneNumber .. => False
  | _ => True

def InsertsNothing : Command → Prop
  | .createPhoneNumber .. => False
  | _ => True

theorem Quiet.insertsNothing {cmd : Command} (h : Quiet cmd) : InsertsNothing cmd := by
  cases cmd <;> trivial

section Handlers

variable {α : Type} {handler : Handler α}

theorem quiet_obeys {seen : Option (Nat × Nat)} (h : handler.Issues Quiet) :
    handler.Obeys inserting (fun _ t => t = seen) seen := by
  refine h.obeys (T := (· = seen)) (fun t cmd hSeen hQuiet => ?_) rfl
  cases cmd with
  | getTelephonyConfigurationForOrg configId organizationId => exact hQuiet.elim
  | createPhoneNumber organizationId configId address canonical isActive => exact hQuiet.elim
  | _ => exact ⟨trivial, fun _ => hSeen⟩

theorem insertsNothing_obeys {seen : Option (Nat × Nat)} (h : handler.Issues InsertsNothing) :
    handler.Obeys inserting (fun _ _ => True) seen := by
  refine h.obeys (T := fun _ => True) (fun t cmd _ hNothing => ?_) trivial
  cases cmd with
  | createPhoneNumber organizationId configId address canonical isActive => exact hNothing.elim
  | _ => exact ⟨trivial, fun _ => trivial⟩

variable (normalize : String → Option String → Except String String)

theorem fetchConfiguration_issues (configId organizationId : Nat) :
    (fetchConfiguration configId organizationId).Issues InsertsNothing := by
  refine (Program.issues_call trivial).bind fun cfg => ?_
  cases cfg <;> trivial

theorem fetchConfiguration_obeys (configId organizationId : Nat) (seen : Option (Nat × Nat)) :
    (fetchConfiguration configId organizationId).Obeys inserting
      (fun result t => ∀ cfg, result = .ok cfg → t = some (configId, organizationId)) seen := by
  refine Program.obeys_call_bind trivial (fun cfg => ?_) fun _ _ hResult => by cases hResult
  cases cfg with
  | none => exact fun _ hResult => by cases hResult
  | some cfg => exact fun _ _ => rfl

theorem ensureWorkflowBelongsToOrg_issues (workflowId organizationId : Nat) :
    (ensureWorkflowBelongsToOrg workflowId organizationId).Issues Quiet := by
  refine (Program.issues_call trivial).bind fun found => ?_
  cases found <;> trivial

theorem checkWorkflow_issues (organizationId : Nat) (request : PhoneNumberCreateRequest) :
    (checkWorkflow organizationId request).Issues Quiet := by
  unfold checkWorkflow
  split
  · exact ensureWorkflowBelongsToOrg_issues _ _
  · trivial

theorem checkConflict_issues (organizationId : Nat) (cfg : Configuration)
    (request : PhoneNumberCreateRequest) :
    (checkConflict normalize organizationId cfg request).Issues Quiet := by
  unfold checkConflict
  split
  · trivial
  · split
    · trivial
    · refine (Program.issues_call trivial).bind fun conflict => ?_
      cases conflict <;> trivial

theorem ensureProviderPhoneNumber_issues (configId : Nat) (canonical : String) :
    (ensureProviderPhoneNumber configId canonical).Issues Quiet := by
  refine (Program.issues_call trivial).bind fun answer => ?_
  cases answer <;> trivial

theorem syncNewNumber_issues (configId : Nat) (request : PhoneNumberCreateRequest) (row : PhoneNumber) :
    (syncNewNumber configId request row).Issues Quiet := by
  unfold syncNewNumber
  split
  · exact (Program.issues_call trivial).bind fun _ => trivial
  · trivial

theorem insertPhoneNumber_obeys (organizationId configId : Nat) (canonical : String)
    (request : PhoneNumberCreateRequest) :
    (insertPhoneNumber organizationId configId canonical request).Obeys inserting (fun _ _ => True)
      (some (configId, organizationId)) := by
  refine Program.obeys_call_bind rfl (fun row => ?_) fun _ => trivial
  cases row with
  | none => trivial
  | some row =>
    exact insertsNothing_obeys ((syncNewNumber_issues configId request row).mono fun _ => Quiet.insertsNothing)

theorem registerNumber_obeys (organizationId configId : Nat) (request : PhoneNumberCreateRequest) :
    (registerNumber normalize organizationId configId request).Obeys inserting (fun _ _ => True)
      (some (configId, organizationId)) := by
  unfold registerNumber
  split
  · trivial
  · apply Program.Obeys.bind (quiet_obeys (ensureProviderPhoneNumber_issues _ _))
    · rintro _ _ rfl
      exact insertPhoneNumber_obeys _ _ _ _
    · exact fun _ _ _ => trivial

theorem createPhoneNumber_obeys (organizationId configId : Nat) (request : PhoneNumberCreateRequest)
    (seen : Option (Nat × Nat)) :
    (createPhoneNumber normalize organizationId configId request).Obeys inserting (fun _ _ => True) seen := by
  apply Program.Obeys.bind (fetchConfiguration_obeys configId organizationId seen)
  · intro cfg t hFound
    obtain rfl := hFound cfg rfl
    apply Program.Obeys.bind (quiet_obeys (checkWorkflow_issues organizationId request))
    · rintro _ _ rfl
      apply Program.Obeys.bind (quiet_obeys (checkConflict_issues normalize organizationId cfg request))
      · rintro _ _ rfl
        exact registerNumber_obeys normalize organizationId configId request
      · exact fun _ _ _ => trivial
    · exact fun _ _ _ => trivial
  · exact fun _ _ _ => trivial

theorem runPreprocessHook_issues (provider : String) (credentials : Json) (existing : Option Json) :
    (runPreprocessHook provider credentials existing).Issues InsertsNothing := by
  unfold runPreprocessHook
  split
  · trivial
  · rename_i spec hSpec
    cases hHook : spec.preprocesses with
    | false => trivial
    | true => exact Program.issues_call trivial

theorem createTelephonyConfiguration_issues (organizationId : Nat) (name provider : String) (payload : Json) :
    (createTelephonyConfiguration organizationId name provider payload).Issues InsertsNothing := by
  refine (runPreprocessHook_issues _ _ _).bind fun credentials => ?_
  refine (Program.issues_call trivial).bind fun row => ?_
  cases row <;> trivial

theorem updatedCredentials_issues (existing : Configuration) (config : Option (String × Json)) :
    (updatedCredentials existing config).Issues InsertsNothing := by
  unfold updatedCredentials
  split
  · trivial
  · split
    · trivial
    · exact (runPreprocessHook_issues _ _ _).bind fun _ => trivial

theorem updateTelephonyConfiguration_issues (organizationId configId : Nat) (name : Option String)
    (config : Option (String × Json)) :
    (updateTelephonyConfiguration organizationId configId name config).Issues InsertsNothing := by
  refine (fetchConfiguration_issues _ _).bind fun existing => ?_
  refine (updatedCredentials_issues _ _).bind fun credentials => ?_
  refine (Program.issues_call trivial).bind fun row => ?_
  cases row with
  | error _ => trivial
  | ok found => cases found <;> trivial

theorem deleteTelephonyConfiguration_issues (organizationId configId : Nat) :
    (deleteTelephonyConfiguration organizationId configId).Issues InsertsNothing := by
  refine (Program.issues_call trivial).bind fun deleted => ?_
  cases deleted <;> trivial

theorem detachAndDelete_issues (configId : Nat) (number : PhoneNumber) :
    (detachAndDelete configId number).Issues InsertsNothing := by
  refine (Program.issues_call trivial).bind fun ok => ?_
  cases ok with
  | false => trivial
  | true =>
    refine (Program.issues_call trivial).bind fun deleted => ?_
    cases deleted <;> trivial

theorem deletePhoneNumber_issues (organizationId configId phoneNumberId : Nat) :
    (deletePhoneNumber organizationId configId phoneNumberId).Issues InsertsNothing := by
  refine (fetchConfiguration_issues _ _).bind fun _ => ?_
  refine (Program.issues_call trivial).bind fun existing => ?_
  cases existing with
  | none => trivial
  | some number => exact detachAndDelete_issues _ _

theorem Request.obeys (request : Request) (seen : Option (Nat × Nat)) :
    (request.handle normalize).Obeys inserting (fun _ _ => True) seen := by
  cases request with
  | createPhoneNumber organizationId configId request => exact createPhoneNumber_obeys _ _ _ _ _
  | createTelephonyConfiguration organizationId name provider payload =>
    exact insertsNothing_obeys (createTelephonyConfiguration_issues _ _ _ _)
  | updateTelephonyConfiguration organizationId configId name config =>
    exact insertsNothing_obeys (updateTelephonyConfiguration_issues _ _ _ _)
  | deleteTelephonyConfiguration organizationId configId =>
    exact insertsNothing_obeys (deleteTelephonyConfiguration_issues _ _)
  | deletePhoneNumber organizationId configId phoneNumberId =>
    exact insertsNothing_obeys (deletePhoneNumber_issues _ _ _)

end Handlers

section Runs

variable {ι : Type} {outside : Outside ι} {db : Database}

/-- A step that the server executes meets rows that admit it. -/
def apart (ι : Type) : System.Discipline ι Reply HttpError Database Move where
  call _ cmd outcome db := outcome.executed = true → Admits db cmd
  environment _ _ := True

instance (proc : ι) (cmd : Command) (outcome : Outcome HttpError) (db : Database) :
    Decidable ((apart ι).call proc cmd outcome db) :=
  inferInstanceAs (Decidable (outcome.executed = true → Admits db cmd))

instance (move : Move) (db : Database) : Decidable ((apart ι).environment move db) := isTrue trivial

def Sound (db : Database) (seen : ι → Option (Nat × Nat)) : Prop :=
  db.Consistent ∧ ∀ proc, db.Knows (seen proc)

theorem perform_eq (proc : ι) (cmd : Command) (outcome : Outcome HttpError) :
    ((system outside).perform proc cmd outcome db).2 =
      if outcome.executed then (execute outside proc cmd db).2 else db := by
  cases outcome <;> rfl

variable (outside) in
theorem later_perform (proc : ι) (cmd : Command) (outcome : Outcome HttpError) (h : db.Consistent) :
    Database.Later ((system outside).perform proc cmd outcome db).2 db := by
  rw [perform_eq]
  split
  · exact later_execute h
  · exact later_refl db

theorem consistent_perform {proc : ι} {seen : Option (Nat × Nat)} {cmd : Command}
    (outcome : Outcome HttpError) (h : db.Consistent) (hSeen : db.Knows seen)
    (hPermits : inserting.permits seen cmd) :
    ((system outside).perform proc cmd outcome db).2.Consistent := by
  rw [perform_eq]
  split
  · exact consistent_execute h hSeen hPermits
  · exact h

theorem knows_next {proc : ι} {seen : Option (Nat × Nat)} (cmd : Command) (outcome : Outcome HttpError)
    (h : db.Consistent) (hSeen : db.Knows seen) : ((system outside).perform proc cmd outcome db).2.Knows
      (inserting.next seen cmd ((system outside).perform proc cmd outcome db).1) := by
  have hStill := hSeen.later (later_perform outside proc cmd outcome h)
  cases cmd with
  | getTelephonyConfigurationForOrg configId organizationId =>
    cases outcome with
    | fail error applied => exact hStill
    | reply =>
      cases hFound : db.getTelephonyConfigurationForOrg configId organizationId with
      | none => simpa only [system, System.ofServer, execute, hFound, inserting] using hStill
      | some c =>
        simpa only [system, System.ofServer, execute, hFound, inserting] using
          Database.knows_of_found h hFound
  | _ => exact hStill

variable (outside) in
theorem sound_perform [DecidableEq ι] (proc : ι) {seen : ι → Option (Nat × Nat)} {cmd : Command}
    (outcome : Outcome HttpError) (h : Sound db seen) (hPermits : inserting.permits (seen proc) cmd) :
    Sound ((system outside).perform proc cmd outcome db).2 (Function.update seen proc
      (inserting.next (seen proc) cmd ((system outside).perform proc cmd outcome db).1)) := by
  obtain ⟨hConsistent, hKnows⟩ := h
  constructor
  · exact consistent_perform outcome hConsistent (hKnows proc) hPermits
  · apply (Function.forall_update_iff seen fun _ seen =>
      ((system outside).perform proc cmd outcome db).2.Knows seen).mpr
    constructor
    · exact knows_next cmd outcome hConsistent (hKnows proc)
    · exact fun other _ => (hKnows other).later (later_perform outside proc cmd outcome hConsistent)

theorem uniqueRoutes_perform (proc : ι) (cmd : Command) (outcome : Outcome HttpError)
    (hConsistent : db.Consistent) (h : db.UniqueRoutes) :
    ((system outside).perform proc cmd outcome db).2.UniqueRoutes ↔ (apart ι).call proc cmd outcome db := by
  rw [perform_eq]
  show _ ↔ (outcome.executed = true → Admits db cmd)
  split
  · rename_i hExecuted
    rw [uniqueRoutes_execute hConsistent h]
    exact ⟨fun hAdmits _ => hAdmits, fun hAdmits => hAdmits hExecuted⟩
  · rename_i hNot
    exact iff_of_true h fun hExecuted => absurd hExecuted hNot

theorem later_environment (move : Move) : ∀ db', environment move db = some db' → Database.Later db' db := by
  cases move with
  | setInactive configId inactive =>
    rintro _ ⟨⟩
    exact Database.later_modify _ fun _ => rfl
  | updatePhoneNumber phoneNumberId isActive =>
    rintro _ ⟨⟩
    exact Database.later_of_rows rfl fun _ hc => hc

theorem environment_keeps (move : Move) (hConsistent : db.Consistent) (h : db.UniqueRoutes) :
    ∀ db', environment move db = some db' → db'.Consistent ∧ db'.UniqueRoutes := by
  cases move with
  | setInactive configId inactive =>
    rintro _ ⟨⟩
    exact ⟨Database.consistent_modify _ (fun _ => rfl) hConsistent,
      Database.uniqueRoutes_modify_of_account _ (fun _ => rfl) (fun _ => rfl) h⟩
  | updatePhoneNumber phoneNumberId isActive =>
    rintro _ ⟨⟩
    exact ⟨Database.consistent_updatePhoneNumber hConsistent, Database.uniqueRoutes_updatePhoneNumber h⟩

/-- No lookup of an inbound call by a named account matches two rows. -/
def OneRoute (db : Database) : Prop :=
  ∀ provider accountId canonical, accountField provider ≠ "" → accountId ≠ "" →
    (db.inboundRoutes provider (accountField provider) accountId canonical none).length ≤ 1

variable [DecidableEq ι]

def serving (normalize : String → Option String → Except String String) (requests : ι → Request)
    (db : Database) : Config ι Reply HttpError Response Database where
  shared := db
  procs proc := (requests proc).handle normalize

/-- What a caller of the lookup relies on. -/
def RoutesApart (db : Database) : Prop := db.UniqueRoutes ∧ OneRoute db

theorem routesApart_iff (h : db.Consistent) : RoutesApart db ↔ db.UniqueRoutes := by
  refine ⟨fun hApart => hApart.1, fun hUnique => ⟨hUnique, ?_⟩⟩
  exact fun provider accountId canonical => Database.inboundRoutes_length_le_one h hUnique canonical

/-- Routes stay unique exactly in the runs whose executed steps clash with no row at that moment: neither
the insertion after a check, nor the saving of credentials. -/
theorem routes_apart_iff (outside : Outside ι) (normalize : String → Option String → Except String String)
    (requests : ι → Request) {events : List (Event ι HttpError Move)}
    {last : Config ι Reply HttpError Response Database} (hConsistent : db.Consistent)
    (hUnique : db.UniqueRoutes)
    (hRun : (system outside).run (serving normalize requests db) events = some last) :
    (∀ n mid, (system outside).run (serving normalize requests db) (events.take n) = some mid →
        RoutesApart mid.shared) ↔
      (system outside).Follows (apart ι) (serving normalize requests db) events := by
  have hStart : Sound db fun _ : ι => none := ⟨hConsistent, by rintro proc configId organizationId ⟨⟩⟩
  refine System.ghost_throughout_iff (P := fun _ => inserting) (J := Sound) ?_ ?_ hRun
    (fun proc => (requests proc).obeys normalize none) hStart ((routesApart_iff hConsistent).mpr hUnique)
  · intro proc cmd outcome s seen hSound h hPermits
    have hNext := sound_perform outside proc outcome hSound hPermits
    refine ⟨hNext, ?_⟩
    rw [routesApart_iff hNext.1]
    exact uniqueRoutes_perform proc cmd outcome hSound.1 h.1
  · intro move s s' seen hSound h hMove
    obtain ⟨hKept, hUnique⟩ := environment_keeps move hSound.1 h.1 s' hMove
    exact ⟨⟨hKept, fun proc => (hSound.2 proc).later (later_environment move s' hMove)⟩,
      iff_of_true ((routesApart_iff hKept).mpr hUnique) trivial⟩

end Runs

def twilioCredentials (accountSid : String) : Json :=
  .obj [("account_sid", .str accountSid), ("auth_token", .str "token")]

def twoOrganizations : Database where
  configurations := ⟨[⟨1, 1, "main", "twilio", twilioCredentials "AC1", false⟩,
    ⟨2, 2, "main", "twilio", twilioCredentials "AC2", false⟩], by decide⟩
  phoneNumbers := ⟨[⟨1, 1, 1, "+14155550100", "+14155550100", true⟩], by decide⟩
  nextConfigurationId := 3
  nextPhoneNumberId := 2

theorem twoOrganizations_consistent : twoOrganizations.Consistent where
  owned := by decide +kernel
  apart := by decide +kernel
  configurationIds := by decide +kernel
  phoneNumberIds := by decide +kernel

def addThenSave (accountSid : String) : Bool → Request
  | true => .createPhoneNumber 2 2 { address := "+14155550100" }
  | false => .updateTelephonyConfiguration 2 2 none (some ("twilio", twilioCredentials accountSid))

def agreeing : Outside Bool where
  workflowExists _ _ _ := true
  ensures _ _ _ := .ok ()
  configures _ _ _ _ := true
  preprocess _ _ credentials := credentials

def international (address : String) (_ : Option String) : Except String String := .ok address

def inTurn : List (Event Bool HttpError Move) :=
  [true, true, true, true, false, false].map fun proc => .resume proc .reply

theorem routes_apart_new_account : ∃ last,
    (system agreeing).run (serving international (addThenSave "AC3") twoOrganizations) inTurn =
      some last ∧ RoutesApart last.shared := by
  have hEnds : ((system agreeing).run (serving international (addThenSave "AC3") twoOrganizations)
      inTurn).isSome = true := by decide +kernel
  obtain ⟨last, hLast⟩ := Option.isSome_iff_exists.mp hEnds
  have hApart := (routes_apart_iff agreeing international (addThenSave "AC3") twoOrganizations_consistent
    (by decide +kernel) hLast).mpr (by decide +kernel)
  exact ⟨last, hLast, hApart 6 last hLast⟩

theorem saved_account_clashes : ¬ ∀ (requests : Bool → Request) (db : Database),
    db.Consistent → db.UniqueRoutes → ∀ (events : List (Event Bool HttpError Move)) last,
      (system agreeing).run (serving international requests db) events = some last →
        RoutesApart last.shared := by
  intro h
  have hEnds : ((system agreeing).run (serving international (addThenSave "AC1") twoOrganizations)
      inTurn).any (fun last => decide ¬last.shared.UniqueRoutes) = true := by decide +kernel
  obtain ⟨last, hLast, hClash⟩ := (Option.any_eq_true _ _).mp hEnds
  exact of_decide_eq_true hClash
    (h _ _ twoOrganizations_consistent (by decide +kernel) inTurn last hLast).1

end FastVoice.InboundRouting
