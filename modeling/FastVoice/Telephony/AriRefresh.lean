import FastVoice.Runtime.Machine
import FastVoice.Sql.Table
import Mathlib.Data.List.DropRight

/-! # The connections of the ARI manager and the configurations in the database

A refresh starts the connections of new and changed configurations and stops the others. A connection that keeps
failing parks its configuration and stops itself, but stays in the manager's table.
-/
namespace FastVoice.Telephony.AriRefresh
open Sql

/-! ## Configurations -/

section

variable {J : Type}

structure Credentials (J : Type) where
  ariEndpoint : Option String
  appName : Option String
  appPassword : Option String
  wsClientName : Option String
  externalPbx : Option J

structure Configuration (J : Type) where
  id : Nat
  organizationId : Nat
  provider : String
  credentials : Credentials J
  inactive : Bool

@[ext] structure Settings (J : Type) where
  organizationId : Nat
  telephonyConfigurationId : Nat
  ariEndpoint : String
  appName : String
  appPassword : String
  wsClientName : String
  externalPbx : Option J
  deriving DecidableEq

inductive Reading (J : Type)
  | incomplete
  | missingWsClientName
  | usable (settings : Settings J)

def given (text : Option String) : Option String := text.filter (· ≠ "")

def Configuration.read (truthy : J → Bool) (row : Configuration J) (pbxEnabled : Bool) : Reading J :=
  let externalPbx := if row.credentials.externalPbx.any truthy && !pbxEnabled then none else row.credentials.externalPbx
  match given row.credentials.ariEndpoint, given row.credentials.appName, given row.credentials.appPassword with
  | some ariEndpoint, some appName, some appPassword =>
    match given row.credentials.wsClientName with
    | some wsClientName =>
      .usable ⟨row.organizationId, row.id, ariEndpoint, appName, appPassword, wsClientName, externalPbx⟩
    | none => .missingWsClientName
  | _, _, _ => .incomplete

/-! ## Connections -/

structure ARIConnection (J : Type) where
  settings : Settings J
  running : Bool
  /-- It has marked its configuration inactive, and is about to stop itself. -/
  parking : Bool

def ARIConnection.key (conn : ARIConnection J) : Nat := conn.settings.telephonyConfigurationId

def Settings.stripped (config : Settings J) : Settings J :=
  { config with ariEndpoint := String.ofList (config.ariEndpoint.toList.rdropWhile (· = '/')) }

def ARIConnection.start (config : Settings J) : ARIConnection J := ⟨config.stripped, true, false⟩

def ARIConnection.stop (conn : ARIConnection J) : ARIConnection J := { conn with running := false, parking := false }

/-- The connection-level fields are those of the configuration. -/
def ARIConnection.Unchanged (conn : ARIConnection J) (config : Settings J) : Prop :=
  conn.settings.ariEndpoint = config.stripped.ariEndpoint ∧ conn.settings.appName = config.appName ∧
    conn.settings.appPassword = config.appPassword ∧ conn.settings.wsClientName = config.wsClientName ∧
    conn.settings.externalPbx = config.externalPbx

instance [DecidableEq J] (conn : ARIConnection J) (config : Settings J) : Decidable (conn.Unchanged config) :=
  inferInstanceAs (Decidable (_ ∧ _))

/-! ## The service -/

inductive Phase (J : Type)
  | loading (rows : List (Configuration J)) (configs : List (Settings J))
  | updating (visited remaining : List (Settings J))
  | removing (returned : List (Settings J)) (keys : List Nat)

structure Service (J : Type) where
  rows : Table (Configuration.id (J := J))
  nextId : Nat
  connections : Table (ARIConnection.key (J := J))
  stopped : List (ARIConnection J)
  refresh : Option (Phase J)

def Service.empty : Service J := ⟨.empty, 0, .empty, [], none⟩

def Service.createTelephonyConfiguration (s : Service J) (organizationId : Nat) (provider : String)
    (credentials : Credentials J) : Service J :=
  { s with rows := s.rows.insert ⟨s.nextId, organizationId, provider, credentials, false⟩, nextId := s.nextId + 1 }

def Service.edit (s : Service J) (id organizationId : Nat) (credentials : Option (Credentials J))
    (inactive : Option Bool) : Service J :=
  { s with
    rows := s.rows.update
      (fun row => if row.id = id ∧ row.organizationId = organizationId then
        { row with credentials := credentials.getD row.credentials, inactive := inactive.getD row.inactive } else row)
      (by intro row; split <;> rfl) }

def Service.updateTelephonyConfiguration (s : Service J) (id organizationId : Nat) (credentials : Credentials J) :=
  s.edit id organizationId (some credentials) none

def Service.setTelephonyConfigurationInactive (s : Service J) (id organizationId : Nat) :=
  s.edit id organizationId none (some true)

def Service.setTelephonyConfigurationActive (s : Service J) (id organizationId : Nat) :=
  s.edit id organizationId none (some false)

def Service.deleteTelephonyConfiguration (s : Service J) (id : Nat) : Service J := { s with rows := s.rows.delete id }

def Service.activeRows (s : Service J) : List (Configuration J) :=
  s.rows.rows.filter fun row => row.provider = "ari" && !row.inactive

def replaced (connections : Table (ARIConnection.key (J := J))) (conn : ARIConnection J) :
    Table (ARIConnection.key (J := J)) :=
  connections.update (fun other => if other.key = conn.key then conn else other)
    (by intro other; split <;> simp_all)

def Service.loadRow (truthy : J → Bool) (s : Service J) (row : Configuration J) (rows : List (Configuration J))
    (configs : List (Settings J)) (pbxEnabled parkFails : Bool) : Service J :=
  match row.read truthy pbxEnabled with
  | .incomplete => { s with refresh := some (.loading rows configs) }
  | .missingWsClientName =>
    let s := if parkFails then s else s.setTelephonyConfigurationInactive row.id row.organizationId
    { s with refresh := some (.loading rows configs) }
  | .usable settings => { s with refresh := some (.loading rows (configs ++ [settings])) }

def Service.visit [DecidableEq J] (s : Service J) (config : Settings J) (visited remaining : List (Settings J)) :
    Service J :=
  let refresh := some (.updating (visited ++ [config]) remaining)
  match s.connections.lookup config.telephonyConfigurationId with
  | none => { s with connections := s.connections.insert (.start config), refresh := refresh }
  | some existing =>
    if existing.Unchanged config then { s with refresh := refresh }
    else
      { s with
        connections := replaced s.connections (.start config)
        stopped := existing.stop :: s.stopped
        refresh := refresh }

inductive Event (J : Type)
  | create (organizationId : Nat) (provider : String) (credentials : Credentials J)
  | change (id organizationId : Nat) (credentials : Credentials J)
  | delete (id : Nat)
  | reactivate (id organizationId : Nat)
  /-- `_deactivate` of a running connection, until it has marked its configuration inactive. -/
  | deactivate (id : Nat)
  /-- The same of a connection that the manager stops meanwhile. -/
  | deactivateStopped (id organizationId : Nat)
  | park (id : Nat)
  | refresh
  | loadRow (pbxEnabled parkFails : Bool)
  | loaded
  | visit
  | visited
  | remove
  | finish

def Service.step [DecidableEq J] (truthy : J → Bool) (s : Service J) (event : Event J) (refresh : Option (Phase J)) :
    Option (Service J) :=
  match event, refresh with
  | .create organizationId provider credentials, _ =>
    some (s.createTelephonyConfiguration organizationId provider credentials)
  | .change id organizationId credentials, _ => some (s.updateTelephonyConfiguration id organizationId credentials)
  | .delete id, _ => some (s.deleteTelephonyConfiguration id)
  | .reactivate id organizationId, _ => some (s.setTelephonyConfigurationActive id organizationId)
  | .deactivate id, _ =>
    (s.connections.lookup id).bind fun conn =>
      if conn.running && !conn.parking then
        some { s.setTelephonyConfigurationInactive id conn.settings.organizationId with
          connections := replaced s.connections { conn with parking := true } }
      else none
  | .deactivateStopped id organizationId, _ =>
    if s.stopped.any fun conn => conn.key = id && conn.settings.organizationId = organizationId then
      some (s.setTelephonyConfigurationInactive id organizationId)
    else none
  | .park id, _ =>
    (s.connections.lookup id).bind fun conn =>
      if conn.parking then some { s with connections := replaced s.connections conn.stop } else none
  | .refresh, none => some { s with refresh := some (.loading s.activeRows []) }
  | .loadRow pbxEnabled parkFails, some (.loading (row :: rows) configs) =>
    some (s.loadRow truthy row rows configs pbxEnabled parkFails)
  | .loaded, some (.loading [] configs) => some { s with refresh := some (.updating [] configs) }
  | .visit, some (.updating visited (config :: remaining)) => some (s.visit config visited remaining)
  | .visited, some (.updating visited []) =>
    some { s with
      refresh := some (.removing visited ((s.connections.rows.map ARIConnection.key).filter fun key =>
        visited.all fun config => config.telephonyConfigurationId ≠ key)) }
  | .remove, some (.removing returned (key :: keys)) =>
    some { s with
      connections := s.connections.delete key
      stopped := (s.connections.lookup key).toList.map ARIConnection.stop ++ s.stopped
      refresh := some (.removing returned keys) }
  | .finish, some (.removing _ []) => some { s with refresh := none }
  | _, _ => none

def service [DecidableEq J] (truthy : J → Bool) : Machine (Service J) (Event J) where
  step s event := s.step truthy event s.refresh

/-! ## Following the database -/

def Phase.dealt : Phase J → List (Settings J)
  | .loading _ _ => []
  | .updating visited _ => visited
  | .removing returned _ => returned

/-- A configuration has a connection that was built from it and is running. -/
def Connected (connections : Table (ARIConnection.key (J := J))) (config : Settings J) : Prop :=
  ∃ conn, connections.lookup config.telephonyConfigurationId = some conn ∧ conn.settings = config.stripped ∧
    conn.running = true

/-- The connections are those of the configurations, and all others have been stopped. -/
structure FollowsDatabase (returned : List (Settings J)) (s : Service J) : Prop where
  connected : ∀ config ∈ returned, Connected s.connections config
  only : ∀ conn ∈ s.connections.rows, ∃ config ∈ returned, config.telephonyConfigurationId = conn.key
  stopped : ∀ conn ∈ s.stopped, conn.running = false

def RefreshFollows (s : Service J) (event : Event J) (next : Service J) : Prop :=
  match event, s.refresh with
  | .finish, some (.removing returned _) => FollowsDatabase returned next
  | _, _ => True

/-- A connection whose settings are unchanged is running when the refresh comes to it, and none that the refresh has
dealt with parks itself before its end. -/
def Steady (s : Service J) (event : Event J) : Prop :=
  match event, s.refresh with
  | .visit, some (.updating _ (config :: _)) =>
    ∀ conn ∈ s.connections.lookup config.telephonyConfigurationId, conn.Unchanged config → conn.running = true
  | .park id, some phase => ∀ config ∈ phase.dealt, config.telephonyConfigurationId ≠ id
  | _, _ => True

instance [DecidableEq J] (s : Service J) (event : Event J) : Decidable (Steady s event) := by
  unfold Steady
  split <;> infer_instance

/-! ## What always holds -/

def Known (owner : Nat → Nat) (nextId id organizationId : Nat) : Prop := id < nextId ∧ organizationId = owner id

def Phase.Sound (owner : Nat → Nat) (nextId : Nat) (connections : Table (ARIConnection.key (J := J))) : Phase J → Prop
  | .loading rows configs => (∀ row ∈ rows, Known owner nextId row.id row.organizationId) ∧
    (∀ config ∈ configs, Known owner nextId config.telephonyConfigurationId config.organizationId) ∧
    (configs.map Settings.telephonyConfigurationId ++ rows.map Configuration.id).Nodup
  | .updating visited remaining =>
    (∀ config ∈ visited ++ remaining, Known owner nextId config.telephonyConfigurationId config.organizationId) ∧
    ((visited ++ remaining).map Settings.telephonyConfigurationId).Nodup
  | .removing returned keys => (∀ config ∈ returned, config.telephonyConfigurationId ∉ keys) ∧
    ∀ conn ∈ connections.rows, conn.key ∈ keys ∨ ∃ config ∈ returned, config.telephonyConfigurationId = conn.key

structure Sound (owner : Nat → Nat) (s : Service J) : Prop where
  rows : ∀ row ∈ s.rows.rows, Known owner s.nextId row.id row.organizationId
  connections : ∀ conn ∈ s.connections.rows, Known owner s.nextId conn.key conn.settings.organizationId
  stopped : ∀ conn ∈ s.stopped, conn.running = false
  refresh : ∀ phase, s.refresh = some phase → phase.Sound owner s.nextId s.connections

variable {owner : Nat → Nat} {s next : Service J} {connections : Table (ARIConnection.key (J := J))}

theorem Known.later {owner' : Nat → Nat} {nextId nextId' id organizationId : Nat}
    (h : Known owner nextId id organizationId) (hOwner : ∀ id < nextId, owner' id = owner id)
    (hNext : nextId ≤ nextId') : Known owner' nextId' id organizationId :=
  ⟨h.1.trans_le hNext, h.2.trans (hOwner id h.1).symm⟩

theorem Phase.Sound.later {owner' : Nat → Nat} {nextId nextId' : Nat} {phase : Phase J}
    (h : phase.Sound owner nextId connections) (hOwner : ∀ id < nextId, owner' id = owner id)
    (hNext : nextId ≤ nextId') : phase.Sound owner' nextId' connections := by
  cases phase with
  | loading rows configs =>
    obtain ⟨hRows, hConfigs, hNodup⟩ := h
    exact ⟨fun row hRow => (hRows row hRow).later hOwner hNext,
      fun config hConfig => (hConfigs config hConfig).later hOwner hNext, hNodup⟩
  | updating visited remaining => exact ⟨fun config hConfig => (h.1 config hConfig).later hOwner hNext, h.2⟩
  | removing returned keys => exact h

theorem Sound.of_rows (h : Sound owner s) {owner' : Nat → Nat} {nextId : Nat}
    {rows : Table (Configuration.id (J := J))}
    (hRows : ∀ row ∈ rows.rows, Known owner' nextId row.id row.organizationId)
    (hOwner : ∀ id < s.nextId, owner' id = owner id) (hNext : s.nextId ≤ nextId) :
    Sound owner' { s with rows := rows, nextId := nextId } where
  rows := hRows
  connections conn hConn := (h.connections conn hConn).later hOwner hNext
  stopped := h.stopped
  refresh phase hPhase := (h.refresh phase hPhase).later hOwner hNext

theorem Sound.create (h : Sound owner s) (organizationId : Nat) (provider : String) (credentials : Credentials J) :
    Sound (Function.update owner s.nextId organizationId)
      (s.createTelephonyConfiguration organizationId provider credentials) := by
  have hOwner : ∀ id < s.nextId, Function.update owner s.nextId organizationId id = owner id :=
    fun id hId => Function.update_of_ne hId.ne _ _
  refine h.of_rows (fun row hRow => ?_) hOwner (Nat.le_succ _)
  have hFree : s.rows.lookup s.nextId = none := by
    rw [Option.eq_none_iff_forall_ne_some]
    intro other hOther
    obtain ⟨hMem, hId⟩ := Table.lookup_eq_some.mp hOther
    exact absurd (h.rows other hMem).1 (by omega)
  rw [Table.rows_insert hFree] at hRow
  rcases List.mem_cons.mp hRow with rfl | hOld
  · exact ⟨Nat.lt_succ_self _, (Function.update_self s.nextId organizationId owner).symm⟩
  · exact (h.rows row hOld).later hOwner (Nat.le_succ _)

theorem Sound.edit (h : Sound owner s) (id organizationId : Nat) (credentials : Option (Credentials J))
    (inactive : Option Bool) : Sound owner (s.edit id organizationId credentials inactive) := by
  refine h.of_rows (fun row hRow => ?_) (fun _ _ => rfl) le_rfl
  obtain ⟨old, hOld, rfl⟩ := List.mem_map.mp hRow
  have hKnown := h.rows old hOld
  split <;> exact hKnown

theorem Sound.delete (h : Sound owner s) (id : Nat) : Sound owner (s.deleteTelephonyConfiguration id) :=
  h.of_rows (fun row hRow => h.rows row (List.mem_of_mem_filter hRow)) (fun _ _ => rfl) le_rfl

theorem mem_replaced {conn other : ARIConnection J} (h : other ∈ (replaced connections conn).rows) :
    ∃ old ∈ connections.rows, old.key = other.key ∧ (other = old ∨ other = conn) := by
  obtain ⟨old, hOld, rfl⟩ := List.mem_map.mp h
  refine ⟨old, hOld, ?_⟩
  split
  · rename_i hKey
    exact ⟨hKey, .inr rfl⟩
  · exact ⟨rfl, .inl rfl⟩

theorem Phase.Sound.of_keys {nextId : Nat} {phase : Phase J} (h : phase.Sound owner nextId connections)
    {others : Table (ARIConnection.key (J := J))}
    (hKeys : ∀ conn ∈ others.rows, ∃ old ∈ connections.rows, old.key = conn.key) :
    phase.Sound owner nextId others := by
  cases phase with
  | loading rows configs => exact h
  | updating visited remaining => exact h
  | removing returned keys =>
    refine ⟨h.1, fun conn hConn => ?_⟩
    obtain ⟨old, hOld, hKey⟩ := hKeys conn hConn
    rw [← hKey]
    exact h.2 old hOld

theorem Sound.replace (h : Sound owner s) (conn : ARIConnection J) {old : ARIConnection J}
    (hOld : s.connections.lookup conn.key = some old)
    (hOrg : conn.settings.organizationId = old.settings.organizationId) :
    Sound owner { s with connections := replaced s.connections conn } where
  rows := h.rows
  connections other hOther := by
    obtain ⟨before, hBefore, hKey, rfl | rfl⟩ := mem_replaced hOther
    · exact h.connections other hBefore
    · obtain ⟨hMem, hOldKey⟩ := Table.lookup_eq_some.mp hOld
      have hKnown := h.connections old hMem
      rw [hOldKey, ← hOrg] at hKnown
      exact hKnown
  stopped := h.stopped
  refresh phase hPhase := (h.refresh phase hPhase).of_keys fun other hOther => by
    obtain ⟨before, hBefore, hKey, -⟩ := mem_replaced hOther
    exact ⟨before, hBefore, hKey⟩

theorem Sound.of_phase (h : Sound owner s) {phase : Phase J} (hPhase : phase.Sound owner s.nextId s.connections) :
    Sound owner { s with refresh := some phase } where
  rows := h.rows
  connections := h.connections
  stopped := h.stopped
  refresh _ hOther := Option.some.inj hOther ▸ hPhase

theorem read_usable {truthy : J → Bool} {row : Configuration J} {pbxEnabled : Bool} {settings : Settings J}
    (h : row.read truthy pbxEnabled = .usable settings) :
    settings.telephonyConfigurationId = row.id ∧ settings.organizationId = row.organizationId := by
  unfold Configuration.read at h
  dsimp only at h
  split at h
  · split at h
    · obtain rfl := Reading.usable.inj h
      exact ⟨rfl, rfl⟩
    · nomatch h
  · nomatch h

theorem Sound.loadRow (h : Sound owner s) {truthy : J → Bool} {row : Configuration J} {rows : List (Configuration J)}
    {configs : List (Settings J)} (hPhase : s.refresh = some (.loading (row :: rows) configs))
    (pbxEnabled parkFails : Bool) : Sound owner (s.loadRow truthy row rows configs pbxEnabled parkFails) := by
  obtain ⟨hRows, hConfigs, hNodup⟩ := h.refresh _ hPhase
  obtain ⟨hRow, hRest⟩ := List.forall_mem_cons.mp hRows
  have hSkipped : (Phase.loading rows configs).Sound owner s.nextId s.connections :=
    ⟨hRest, hConfigs, hNodup.sublist ((List.Sublist.refl _).append (List.sublist_cons_self _ _))⟩
  unfold Service.loadRow
  split
  · exact h.of_phase hSkipped
  · cases parkFails with
    | true => exact h.of_phase hSkipped
    | false => exact (h.edit row.id row.organizationId none (some true)).of_phase hSkipped
  · rename_i settings hRead
    obtain ⟨hId, hOrg⟩ := read_usable hRead
    refine h.of_phase ⟨hRest, List.forall_mem_append.mpr ⟨hConfigs, List.forall_mem_singleton.mpr ?_⟩, ?_⟩
    · rw [hId, hOrg]
      exact hRow
    · rw [List.map_append, List.append_assoc, List.map_singleton, hId]
      exact hNodup

theorem Sound.visit [DecidableEq J] (h : Sound owner s) {config : Settings J} {visited remaining : List (Settings J)}
    (hPhase : s.refresh = some (.updating visited (config :: remaining))) :
    Sound owner (s.visit config visited remaining) := by
  obtain ⟨hConfigs, hNodup⟩ := h.refresh _ hPhase
  have hNext (connections : Table (ARIConnection.key (J := J))) :
      (Phase.updating (visited ++ [config]) remaining).Sound owner s.nextId connections := by
    rw [Phase.Sound, List.append_assoc]
    exact ⟨hConfigs, hNodup⟩
  have hKnown := hConfigs config (List.mem_append_right _ List.mem_cons_self)
  unfold Service.visit
  dsimp only
  split
  · rename_i hNew
    refine ⟨h.rows, fun conn hConn => ?_, h.stopped, fun phase hOther => Option.some.inj hOther ▸ hNext _⟩
    rw [Table.rows_insert hNew] at hConn
    rcases List.mem_cons.mp hConn with rfl | hOld
    · exact hKnown
    · exact h.connections conn hOld
  · rename_i existing hExisting
    split
    · exact h.of_phase (hNext _)
    · have hOrg : config.organizationId = existing.settings.organizationId := by
        obtain ⟨hMem, hKey⟩ := Table.lookup_eq_some.mp hExisting
        rw [hKnown.2, (h.connections existing hMem).2, hKey]
      have hReplaced := h.replace (.start config) hExisting hOrg
      refine ⟨h.rows, hReplaced.connections, ?_, fun phase hOther => Option.some.inj hOther ▸ hNext _⟩
      exact List.forall_mem_cons.mpr ⟨rfl, h.stopped⟩

/-! ## What the refresh has dealt with -/

def Service.Dealt (s : Service J) : Prop :=
  ∀ phase, s.refresh = some phase → ∀ config ∈ phase.dealt, Connected s.connections config

theorem dealt_of_refresh {phase : Phase J} (h : s.refresh = some phase) :
    s.Dealt ↔ ∀ config ∈ phase.dealt, Connected s.connections config := by
  refine ⟨fun hDealt => hDealt phase h, fun hAll other hOther => ?_⟩
  rw [Option.some.inj (hOther.symm.trans h)]
  exact hAll

theorem lookup_replaced (conn : ARIConnection J) {old : ARIConnection J}
    (h : connections.lookup conn.key = some old) (id : Nat) :
    (replaced connections conn).lookup id = if id = conn.key then some conn else connections.lookup id := by
  rw [replaced, Table.lookup_update]
  split
  · rename_i hKey
    rw [hKey, h, Option.map_some, if_pos (Table.key_of_lookup h)]
  · rename_i hOther
    cases hLookup : connections.lookup id with
    | none => rfl
    | some other =>
      rw [Option.map_some, if_neg]
      rw [Table.key_of_lookup hLookup]
      exact hOther

theorem connected_congr {others : Table (ARIConnection.key (J := J))} {config : Settings J}
    (h : others.lookup config.telephonyConfigurationId = connections.lookup config.telephonyConfigurationId) :
    Connected others config ↔ Connected connections config := by
  rw [Connected, h]
  exact Iff.rfl

theorem connected_replaced (conn : ARIConnection J) {old : ARIConnection J} {config : Settings J}
    (h : connections.lookup conn.key = some old) (hSettings : conn.settings = old.settings)
    (hRunning : conn.running = old.running) :
    Connected (replaced connections conn) config ↔ Connected connections config := by
  by_cases hKey : config.telephonyConfigurationId = conn.key
  · simp [Connected, lookup_replaced _ h, hKey, h, hSettings, hRunning]
  · exact connected_congr ((lookup_replaced _ h _).trans (if_neg hKey))

theorem connected_stopped {conn : ARIConnection J} {config : Settings J}
    (h : connections.lookup conn.key = some conn) : Connected (replaced connections conn.stop) config ↔
      Connected connections config ∧ config.telephonyConfigurationId ≠ conn.key := by
  have hStop : connections.lookup conn.stop.key = some conn := h
  by_cases hKey : config.telephonyConfigurationId = conn.key
  · refine iff_of_false ?_ (by simp [hKey])
    rintro ⟨other, hOther, -, hRunning⟩
    rw [lookup_replaced _ hStop, if_pos (show _ = conn.stop.key from hKey)] at hOther
    obtain rfl := Option.some.inj hOther
    nomatch hRunning
  · rw [connected_congr ((lookup_replaced _ hStop _).trans (if_neg hKey)), and_iff_left hKey]

theorem connected_start {config : Settings J}
    (h : connections.lookup config.telephonyConfigurationId = some (.start config)) : Connected connections config :=
  ⟨_, h, rfl, rfl⟩

theorem dealt_visit [DecidableEq J] (h : Sound owner s) {config : Settings J} {visited remaining : List (Settings J)}
    (hPhase : s.refresh = some (.updating visited (config :: remaining))) :
    (s.visit config visited remaining).Dealt ↔ s.Dealt ∧ Steady s .visit := by
  obtain ⟨hConfigs, hNodup⟩ := h.refresh _ hPhase
  have hApart : ∀ other ∈ visited, other.telephonyConfigurationId ≠ config.telephonyConfigurationId := by
    rw [List.map_append, List.map_cons] at hNodup
    intro other hOther hSame
    exact (List.nodup_append.mp hNodup).2.2 _ (List.mem_map_of_mem hOther) _ List.mem_cons_self hSame
  have hSteady : Steady s .visit ↔ ∀ conn, s.connections.lookup config.telephonyConfigurationId = some conn →
      conn.Unchanged config → conn.running = true := by
    unfold Steady
    rw [hPhase]
    exact Iff.rfl
  -- The configurations before it keep their connections.
  have hNext (others : Table (ARIConnection.key (J := J))) (stopped : List (ARIConnection J))
      (hOthers : ∀ id, id ≠ config.telephonyConfigurationId → others.lookup id = s.connections.lookup id) :
      Service.Dealt { s with
          connections := others, stopped := stopped, refresh := some (.updating (visited ++ [config]) remaining) } ↔
        s.Dealt ∧ Connected others config := by
    rw [dealt_of_refresh rfl, dealt_of_refresh hPhase, Phase.dealt, List.forall_mem_append, List.forall_mem_singleton]
    apply and_congr_left'
    exact forall₂_congr fun other hOther => connected_congr (hOthers _ (hApart other hOther))
  rw [hSteady]
  unfold Service.visit
  dsimp only
  split
  · rename_i hNew
    rw [hNext (s.connections.insert (.start config)) s.stopped fun id hId => Table.lookup_insert_of_ne hId.symm]
    refine and_congr_right fun _ => iff_of_true (connected_start ?_) fun conn hConn => ?_
    · refine Table.lookup_eq_some.mpr ⟨?_, rfl⟩
      rw [Table.rows_insert hNew]
      exact List.mem_cons_self
    · exact nomatch hNew.symm.trans hConn
  · rename_i existing hExisting
    split
    · rename_i hUnchanged
      rw [hNext s.connections s.stopped fun _ _ => rfl]
      refine and_congr_right fun _ => ⟨?_, fun hRunning => ?_⟩
      · rintro ⟨conn, hConn, -, hRunning⟩ other hOther -
        rwa [← Option.some.inj (hConn.symm.trans hOther)]
      · refine ⟨existing, hExisting, ?_, hRunning existing hExisting hUnchanged⟩
        obtain ⟨hMem, hKey⟩ := Table.lookup_eq_some.mp hExisting
        have hOrg : existing.settings.organizationId = config.organizationId := by
          rw [(h.connections existing hMem).2, hKey, (hConfigs config (by simp)).2]
        obtain ⟨hEndpoint, hApp, hPassword, hClient, hPbx⟩ := hUnchanged
        exact Settings.ext hOrg hKey hEndpoint hApp hPassword hClient hPbx
    · rename_i hChanged
      have hLookup := lookup_replaced (.start config) hExisting
      rw [hNext (replaced s.connections (.start config)) (existing.stop :: s.stopped)
        fun id hId => (hLookup id).trans (if_neg hId)]
      refine and_congr_right fun _ => iff_of_true (connected_start ((hLookup _).trans (if_pos rfl))) ?_
      intro conn hConn hUnchanged
      rw [Option.some.inj (hExisting.symm.trans hConn)] at hChanged
      exact absurd hUnchanged hChanged

/-! ## Runs -/

theorem followsDatabase_iff (h : Sound owner s) {returned : List (Settings J)}
    (hPhase : s.refresh = some (.removing returned [])) :
    FollowsDatabase returned { s with refresh := none } ↔ s.Dealt := by
  rw [dealt_of_refresh hPhase]
  refine ⟨FollowsDatabase.connected, fun hAll => ⟨hAll, fun conn hConn => ?_, h.stopped⟩⟩
  exact ((h.refresh _ hPhase).2 conn hConn).resolve_left List.not_mem_nil

theorem sound_removed (h : Sound owner s) {returned : List (Settings J)} {key : Nat} {keys : List Nat}
    (hPhase : s.refresh = some (.removing returned (key :: keys))) : Sound owner { s with
      connections := s.connections.delete key
      stopped := (s.connections.lookup key).toList.map ARIConnection.stop ++ s.stopped
      refresh := some (.removing returned keys) } where
  rows := h.rows
  connections conn hConn := h.connections conn (List.mem_of_mem_filter hConn)
  stopped := by
    rw [List.forall_mem_append, List.forall_mem_map]
    exact ⟨fun _ _ => rfl, h.stopped⟩
  refresh phase hNext := by
    obtain rfl := Option.some.inj hNext
    obtain ⟨hApart, hKeys⟩ := h.refresh _ hPhase
    refine ⟨fun config hConfig hKey => hApart config hConfig (List.mem_cons_of_mem _ hKey), fun conn hConn => ?_⟩
    obtain ⟨hMem, hOther⟩ := List.mem_filter.mp hConn
    refine (hKeys conn hMem).imp_left fun hKey => (List.mem_cons.mp hKey).resolve_left ?_
    exact of_decide_eq_true hOther

theorem step_follows_iff [DecidableEq J] {truthy : J → Bool} (event : Event J) (h : ∃ owner, Sound owner s)
    (hStep : (service truthy).step s event = some next) : (∃ owner, Sound owner next) ∧
      (RefreshFollows s event next ∧ next.Dealt ↔ s.Dealt ∧ Steady s event) := by
  obtain ⟨owner, h⟩ := h
  change s.step truthy event s.refresh = some next at hStep
  -- Steps that touch no connection and leave the refresh alone.
  have hQuiet (hSame : next.connections = s.connections) (hRefresh : next.refresh = s.refresh)
      (hDoes : RefreshFollows s event next) (hSteady : Steady s event) :
      RefreshFollows s event next ∧ next.Dealt ↔ s.Dealt ∧ Steady s event := by
    rw [and_iff_right hDoes, and_iff_left hSteady, Service.Dealt, Service.Dealt, hSame, hRefresh]
  cases event with
  | create organizationId provider credentials =>
    obtain rfl := Option.some.inj hStep
    exact ⟨⟨_, h.create organizationId provider credentials⟩, hQuiet rfl rfl trivial trivial⟩
  | change id organizationId credentials =>
    obtain rfl := Option.some.inj hStep
    exact ⟨⟨_, h.edit ..⟩, hQuiet rfl rfl trivial trivial⟩
  | delete id =>
    obtain rfl := Option.some.inj hStep
    exact ⟨⟨_, h.delete id⟩, hQuiet rfl rfl trivial trivial⟩
  | reactivate id organizationId =>
    obtain rfl := Option.some.inj hStep
    exact ⟨⟨_, h.edit ..⟩, hQuiet rfl rfl trivial trivial⟩
  | deactivateStopped id organizationId =>
    obtain ⟨-, ⟨⟩⟩ := Option.ite_none_right_eq_some.mp hStep
    exact ⟨⟨_, h.edit ..⟩, hQuiet rfl rfl trivial trivial⟩
  | deactivate id =>
    obtain ⟨conn, hConn, hNext⟩ := Option.bind_eq_some_iff.mp hStep
    obtain ⟨-, ⟨⟩⟩ := Option.ite_none_right_eq_some.mp hNext
    have hKey : s.connections.lookup conn.key = some conn := Table.key_of_lookup hConn ▸ hConn
    have hEdited := h.edit id conn.settings.organizationId none (some true)
    refine ⟨⟨_, hEdited.replace { conn with parking := true } hKey rfl⟩, ?_⟩
    refine (and_iff_right (by exact trivial)).trans (Iff.trans ?_ (and_iff_left (by exact trivial)).symm)
    refine forall₂_congr fun phase _ => forall₂_congr fun config _ => ?_
    exact connected_replaced { conn with parking := true } hKey rfl rfl
  | park id =>
    obtain ⟨conn, hConn, hNext⟩ := Option.bind_eq_some_iff.mp hStep
    obtain ⟨-, ⟨⟩⟩ := Option.ite_none_right_eq_some.mp hNext
    obtain rfl := Table.key_of_lookup hConn
    refine ⟨⟨_, h.replace conn.stop hConn rfl⟩, ?_⟩
    refine (and_iff_right (by exact trivial)).trans ?_
    unfold Steady
    cases hPhase : s.refresh with
    | none => simp [Service.Dealt, hPhase]
    | some phase =>
      rw [dealt_of_refresh hPhase, dealt_of_refresh rfl]
      simp only [connected_stopped hConn, forall_and]
  | refresh =>
    cases hPhase : s.refresh with
    | some phase =>
      rw [hPhase] at hStep
      nomatch hStep
    | none =>
      rw [hPhase] at hStep
      obtain rfl := Option.some.inj hStep
      have hActive : (Phase.loading s.activeRows []).Sound owner s.nextId s.connections :=
        ⟨fun row hRow => h.rows row (List.mem_of_mem_filter hRow), List.forall_mem_nil _,
          s.rows.distinct.sublist (List.filter_sublist.map _)⟩
      refine ⟨⟨_, h.of_phase hActive⟩, (and_iff_right (by exact trivial)).trans (iff_of_true ?_ ⟨?_, trivial⟩)⟩
      · exact (dealt_of_refresh rfl).mpr (List.forall_mem_nil _)
      · exact fun phase hOther => nomatch hPhase.symm.trans hOther
  | loadRow pbxEnabled parkFails =>
    match hPhase : s.refresh with
    | some (.loading (row :: rows) configs) =>
      rw [hPhase] at hStep
      obtain rfl := Option.some.inj hStep
      refine ⟨⟨_, h.loadRow hPhase pbxEnabled parkFails⟩, (and_iff_right (by exact trivial)).trans ?_⟩
      refine iff_of_true ?_ ⟨(dealt_of_refresh hPhase).mpr (List.forall_mem_nil _), trivial⟩
      unfold Service.loadRow
      split <;> exact (dealt_of_refresh rfl).mpr (List.forall_mem_nil _)
    | none | some (.loading [] _) | some (.updating _ _) | some (.removing _ _) =>
      rw [hPhase] at hStep
      nomatch hStep
  | loaded =>
    match hPhase : s.refresh with
    | some (.loading [] configs) =>
      rw [hPhase] at hStep
      obtain rfl := Option.some.inj hStep
      obtain ⟨-, hConfigs, hNodup⟩ := h.refresh _ hPhase
      refine ⟨⟨_, h.of_phase ⟨hConfigs, ?_⟩⟩, (and_iff_right (by exact trivial)).trans (iff_of_true ?_ ⟨?_, trivial⟩)⟩
      · simpa using hNodup
      · exact (dealt_of_refresh rfl).mpr (List.forall_mem_nil _)
      · exact (dealt_of_refresh hPhase).mpr (List.forall_mem_nil _)
    | none | some (.loading (_ :: _) _) | some (.updating _ _) | some (.removing _ _) =>
      rw [hPhase] at hStep
      nomatch hStep
  | visit =>
    match hPhase : s.refresh with
    | some (.updating visited (config :: remaining)) =>
      rw [hPhase] at hStep
      obtain rfl := Option.some.inj hStep
      exact ⟨⟨_, h.visit hPhase⟩, (and_iff_right (by exact trivial)).trans (dealt_visit h hPhase)⟩
    | none | some (.loading _ _) | some (.updating _ []) | some (.removing _ _) =>
      rw [hPhase] at hStep
      nomatch hStep
  | visited =>
    match hPhase : s.refresh with
    | some (.updating visited []) =>
      rw [hPhase] at hStep
      obtain rfl := Option.some.inj hStep
      refine ⟨⟨_, h.of_phase ⟨fun config hConfig hKey => ?_, fun conn hConn => ?_⟩⟩,
        (and_iff_right (by exact trivial)).trans ?_⟩
      · have hAll := (List.mem_filter.mp hKey).2
        exact of_decide_eq_true (List.all_eq_true.mp hAll config hConfig) rfl
      · by_cases hReturned : ∃ config ∈ visited, config.telephonyConfigurationId = conn.key
        · exact .inr hReturned
        · refine .inl (List.mem_filter.mpr ⟨List.mem_map_of_mem hConn, List.all_eq_true.mpr fun config hConfig => ?_⟩)
          exact decide_eq_true fun hKey => hReturned ⟨config, hConfig, hKey⟩
      · rw [dealt_of_refresh hPhase, dealt_of_refresh rfl]
        exact (and_iff_left (by exact trivial)).symm
    | none | some (.loading _ _) | some (.updating _ (_ :: _)) | some (.removing _ _) =>
      rw [hPhase] at hStep
      nomatch hStep
  | remove =>
    match hPhase : s.refresh with
    | some (.removing returned (key :: keys)) =>
      rw [hPhase] at hStep
      obtain rfl := Option.some.inj hStep
      refine ⟨⟨_, sound_removed h hPhase⟩, (and_iff_right (by exact trivial)).trans ?_⟩
      rw [dealt_of_refresh hPhase, dealt_of_refresh rfl]
      refine Iff.trans ?_ (and_iff_left (by exact trivial)).symm
      refine forall₂_congr fun config hConfig => connected_congr (Table.lookup_delete_of_ne fun hKey => ?_)
      exact (h.refresh _ hPhase).1 config hConfig (hKey ▸ List.mem_cons_self)
    | none | some (.loading _ _) | some (.updating _ _) | some (.removing _ []) =>
      rw [hPhase] at hStep
      nomatch hStep
  | finish =>
    match hPhase : s.refresh with
    | some (.removing returned []) =>
      rw [hPhase] at hStep
      obtain rfl := Option.some.inj hStep
      refine ⟨⟨_, h.rows, h.connections, h.stopped, nofun⟩, ?_⟩
      unfold RefreshFollows
      rw [hPhase]
      refine (and_iff_left nofun).trans ((followsDatabase_iff h hPhase).trans (and_iff_left (by exact trivial)).symm)
    | none | some (.loading _ _) | some (.updating _ _) | some (.removing _ (_ :: _)) =>
      rw [hPhase] at hStep
      nomatch hStep

theorem sound_empty : Sound (fun _ => 0) (Service.empty (J := J)) :=
  ⟨List.forall_mem_nil _, List.forall_mem_nil _, List.forall_mem_nil _, nofun⟩

/-- Each refresh leaves the connections as the database has them, and one that is under way has done so for what it has
dealt with, exactly if it finds no unchanged connection that has stopped itself and none does so behind it. -/
theorem refreshes_follow_iff [DecidableEq J] (truthy : J → Bool) (events : List (Event J)) (last : Service J)
    (hRun : (service truthy).run .empty events = some last) :
    (service truthy).EachStep RefreshFollows .empty events ∧ last.Dealt ↔
      (service truthy).Follows Steady .empty events := by
  rw [Machine.eachStep_and_iff (K := fun s => ∃ owner, Sound owner s)
    (fun s event next h hStep => step_follows_iff event h hStep) hRun ⟨_, sound_empty⟩]
  exact and_iff_right nofun

end

/-! ## A connection that parks its configuration -/

def pbx : Credentials String where
  ariEndpoint := some "http://pbx:8088/"
  appName := some "fastvoice"
  appPassword := some "secret"
  wsClientName := some "media"
  externalPbx := none

def refreshOne : List (Event String) := [.refresh, .loadRow false false, .loaded, .visit, .visited, .finish]

def edited : List (Event String) :=
  .create 1 "ari" pbx :: refreshOne ++ .change 0 1 { pbx with appPassword := some "changed" } :: refreshOne

theorem refreshes_follow_edited :
    (service fun _ => true).EachStep RefreshFollows .empty edited ∧
      ∀ last, (service fun _ => true).run .empty edited = some last → last.Dealt := by
  obtain ⟨last, hLast⟩ : ∃ last, (service fun _ => true).run .empty edited = some last := ⟨_, rfl⟩
  have hBoth := (refreshes_follow_iff (fun _ => true) edited last hLast).mpr (by decide +kernel)
  exact ⟨hBoth.1, fun other hOther => Option.some.inj (hLast.symm.trans hOther) ▸ hBoth.2⟩

def reactivated : List (Event String) :=
  .create 1 "ari" pbx :: refreshOne ++ .deactivate 0 :: .park 0 :: .reactivate 0 1 ::
    [.refresh, .loadRow false false, .loaded, .visit, .visited]

theorem reactivated_not_connected : ∃ last, (service fun _ => true).run .empty (reactivated ++ [.finish]) = some last ∧
    (∀ row ∈ last.rows.rows, row.inactive = false) ∧ (∀ conn ∈ last.connections.rows, conn.running = false) ∧
    ¬(service fun _ => true).EachStep RefreshFollows .empty (reactivated ++ [.finish]) := by
  have hStopped : ∀ last, (service fun _ => true).run .empty (reactivated ++ [.finish]) = some last →
      (∀ row ∈ last.rows.rows, row.inactive = false) ∧ ∀ conn ∈ last.connections.rows, conn.running = false := by
    rintro _ ⟨⟩
    decide +kernel
  refine ⟨_, rfl, (hStopped _ rfl).1, (hStopped _ rfl).2, fun h => ?_⟩
  have hFollows : FollowsDatabase [⟨1, 0, "http://pbx:8088/", "fastvoice", "secret", "media", none⟩] _ :=
    h.of_run rfl rfl
  obtain ⟨conn, hConn, -, hRunning⟩ := hFollows.connected _ List.mem_cons_self
  have hNot := (hStopped _ rfl).2 conn (Table.lookup_eq_some.mp hConn).1
  exact absurd hRunning (Bool.eq_false_iff.mp hNot)

end FastVoice.Telephony.AriRefresh
