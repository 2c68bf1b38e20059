import FastVoice.InboundRouting.Requests
import FastVoice.InboundRouting.Routes

/-! # Inbound routes are unique

The other transactions leave the routes apart. A run keeps them apart exactly if no number is inserted, and
no credentials are saved, that clash with a number of another configuration at that moment. The check of a
conflict is an earlier transaction, and an update of credentials has none.
-/
namespace FastVoice.InboundRouting
open Python Sql Async

namespace Database

variable {db : Database}

theorem createTelephonyConfiguration_cases (organizationId : Nat) (name provider : String)
    (credentials : Json) (h : db.Consistent) :
    (db.createTelephonyConfiguration organizationId name provider credentials).2 = db ∨
      (db.createTelephonyConfiguration organizationId name provider credentials).2.configurations.rows =
          ⟨db.nextConfigurationId, organizationId, name, provider, credentials, false⟩ ::
            db.configurations.rows ∧
        (db.createTelephonyConfiguration organizationId name provider credentials).2.phoneNumbers =
          db.phoneNumbers ∧
        (db.createTelephonyConfiguration organizationId name provider credentials).2.nextConfigurationId =
          db.nextConfigurationId + 1 ∧
        (db.createTelephonyConfiguration organizationId name provider credentials).2.nextPhoneNumberId =
          db.nextPhoneNumberId := by
  have hFree : db.configurations.lookup db.nextConfigurationId = none := by
    cases hRow : db.configurations.lookup db.nextConfigurationId with
    | none => rfl
    | some c =>
      obtain ⟨hMem, hId⟩ := Table.lookup_eq_some.mp hRow
      exact absurd (h.configurationIds c hMem) (by omega)
  unfold createTelephonyConfiguration
  split
  · exact .inl rfl
  · right
    simp [Table.rows_insert, hFree]

theorem uniqueRoutes_createTelephonyConfiguration (organizationId : Nat) (name provider : String)
    (credentials : Json) (hConsistent : db.Consistent) (h : db.UniqueRoutes) :
    (db.createTelephonyConfiguration organizationId name provider credentials).2.UniqueRoutes := by
  obtain hSame | ⟨hRows, hNumbers, -, -⟩ :=
    createTelephonyConfiguration_cases organizationId name provider credentials hConsistent
  · rw [hSame]
    exact h
  · refine h.mono fun row hRow => ?_
    obtain ⟨hConfig, hNumber, hOwner⟩ := mem_joined.mp hRow
    rw [hNumbers] at hNumber
    rw [hRows] at hConfig
    refine mem_joined.mpr ⟨?_, hNumber, hOwner⟩
    obtain hNew | hOld := List.mem_cons.mp hConfig
    · -- the id of the new configuration belongs to no number yet
      obtain ⟨c, hc, hId, -⟩ := hConsistent.owned row.2 hNumber
      have hLt := hConsistent.configurationIds c hc
      have hNext : row.1.id = db.nextConfigurationId := by rw [hNew]
      omega
    · exact hOld

theorem consistent_createTelephonyConfiguration (organizationId : Nat) (name provider : String)
    (credentials : Json) (h : db.Consistent) :
    (db.createTelephonyConfiguration organizationId name provider credentials).2.Consistent := by
  obtain hSame | ⟨hRows, hNumbers, hNext, hNextNumber⟩ :=
    createTelephonyConfiguration_cases organizationId name provider credentials h
  · rw [hSame]
    exact h
  · constructor
    · rw [hNumbers, hRows]
      intro n hn
      obtain ⟨c, hc, hOwner⟩ := h.owned n hn
      exact ⟨c, List.mem_cons_of_mem _ hc, hOwner⟩
    · rw [hNumbers]
      exact h.apart
    · rw [hRows, hNext]
      refine List.forall_mem_cons.mpr ⟨Nat.lt_succ_self _, fun c hc => ?_⟩
      exact Nat.lt_succ_of_lt (h.configurationIds c hc)
    · rw [hNumbers, hNextNumber]
      exact h.phoneNumberIds

structure Shrinks (db' db : Database) : Prop where
  configurations : ∀ c ∈ db'.configurations.rows, c ∈ db.configurations.rows
  phoneNumbers : ∀ n ∈ db'.phoneNumbers.rows, n ∈ db.phoneNumbers.rows
  owners : ∀ n ∈ db'.phoneNumbers.rows, ∀ c ∈ db.configurations.rows,
    c.id = n.telephonyConfigurationId → c ∈ db'.configurations.rows
  nextConfigurationId : db'.nextConfigurationId = db.nextConfigurationId
  nextPhoneNumberId : db'.nextPhoneNumberId = db.nextPhoneNumberId

theorem Shrinks.refl (db : Database) : Shrinks db db :=
  ⟨fun _ h => h, fun _ h => h, fun _ _ _ h _ => h, rfl, rfl⟩

theorem Shrinks.uniqueRoutes {db' : Database} (h : Shrinks db' db) (hUnique : db.UniqueRoutes) :
    db'.UniqueRoutes := by
  refine hUnique.mono fun row hRow => ?_
  obtain ⟨hConfig, hNumber, hOwner⟩ := mem_joined.mp hRow
  exact mem_joined.mpr ⟨h.configurations _ hConfig, h.phoneNumbers _ hNumber, hOwner⟩

theorem Shrinks.consistent {db' : Database} (h : Shrinks db' db) (hConsistent : db.Consistent) :
    db'.Consistent := by
  constructor
  · intro n hn
    obtain ⟨c, hc, hId, hOrganization⟩ := hConsistent.owned n (h.phoneNumbers n hn)
    exact ⟨c, h.owners n hn c hc hId, hId, hOrganization⟩
  · intro n hn n' hn'
    exact hConsistent.apart n (h.phoneNumbers n hn) n' (h.phoneNumbers n' hn')
  · intro c hc
    rw [h.nextConfigurationId]
    exact hConsistent.configurationIds c (h.configurations c hc)
  · intro n hn
    rw [h.nextPhoneNumberId]
    exact hConsistent.phoneNumberIds n (h.phoneNumbers n hn)

variable (db) in
theorem shrinks_deleteTelephonyConfiguration (configId organizationId : Nat) :
    Shrinks (db.deleteTelephonyConfiguration configId organizationId).2 db := by
  unfold deleteTelephonyConfiguration
  split
  · exact Shrinks.refl db
  · constructor
    · exact fun c hc => List.mem_of_mem_filter hc
    · exact fun n hn => List.mem_of_mem_filter hn
    · intro n hn c hc hId
      have hNe : n.telephonyConfigurationId ≠ configId := by simpa using (List.mem_filter.mp hn).2
      exact List.mem_filter.mpr ⟨hc, by simpa [hId] using hNe⟩
    · rfl
    · rfl

variable (db) in
theorem shrinks_deletePhoneNumber (phoneNumberId configId : Nat) :
    Shrinks (db.deletePhoneNumber phoneNumberId configId).2 db := by
  unfold deletePhoneNumber
  split
  · exact Shrinks.refl db
  · exact ⟨fun _ hc => hc, fun n hn => List.mem_of_mem_filter hn, fun _ _ _ hc _ => hc, rfl, rfl⟩

section ActiveFlag

variable {phoneNumberId : Nat} {isActive : Bool}

theorem mem_updatePhoneNumber {n : PhoneNumber}
    (h : n ∈ (db.updatePhoneNumber phoneNumberId isActive).phoneNumbers.rows) :
    ∃ old ∈ db.phoneNumbers.rows, n.id = old.id ∧ n.organizationId = old.organizationId ∧
      n.telephonyConfigurationId = old.telephonyConfigurationId ∧
      n.addressNormalized = old.addressNormalized := by
  obtain ⟨old, hOld, rfl⟩ := List.mem_map.mp h
  refine ⟨old, hOld, ?_⟩
  split <;> exact ⟨rfl, rfl, rfl, rfl⟩

theorem uniqueRoutes_updatePhoneNumber (h : db.UniqueRoutes) :
    (db.updatePhoneNumber phoneNumberId isActive).UniqueRoutes := by
  have hOld : ∀ row ∈ (db.updatePhoneNumber phoneNumberId isActive).joined, ∃ n, (row.1, n) ∈ db.joined ∧
      n.addressNormalized = row.2.addressNormalized := by
    intro row hRow
    obtain ⟨hConfig, hNumber, hOwner⟩ := mem_joined.mp hRow
    obtain ⟨old, hOld, -, -, hSame, hAddress⟩ := mem_updatePhoneNumber hNumber
    exact ⟨old, mem_joined.mpr ⟨hConfig, hOld, hSame.symm.trans hOwner⟩, hAddress.symm⟩
  rintro row hRow ⟨other, hOther, hClash⟩
  obtain ⟨n, hRowOld, hAddress⟩ := hOld row hRow
  obtain ⟨n', hOtherOld, hAddress'⟩ := hOld other hOther
  refine h (row.1, n) hRowOld ⟨(other.1, n'), hOtherOld, ?_⟩
  obtain ⟨hId, hAccount, hProvider, hSame, hNumber⟩ := hClash
  exact ⟨hId, hAccount, hProvider, hSame, hAddress'.trans (hNumber.trans hAddress.symm)⟩

theorem consistent_updatePhoneNumber (h : db.Consistent) :
    (db.updatePhoneNumber phoneNumberId isActive).Consistent := by
  constructor
  · intro n hn
    obtain ⟨old, hOld, -, hOrganization, hOwner, -⟩ := mem_updatePhoneNumber hn
    rw [hOrganization, hOwner]
    exact h.owned old hOld
  · intro n hn n' hn' hOrganization hAddress
    obtain ⟨old, hOld, hId, hSame, -, hNumber⟩ := mem_updatePhoneNumber hn
    obtain ⟨old', hOld', hId', hSame', -, hNumber'⟩ := mem_updatePhoneNumber hn'
    rw [hId, hId']
    exact h.apart old hOld old' hOld' (hSame.symm.trans (hOrganization.trans hSame'))
      (hNumber.symm.trans (hAddress.trans hNumber'))
  · exact h.configurationIds
  · intro n hn
    obtain ⟨old, hOld, hId, -⟩ := mem_updatePhoneNumber hn
    rw [hId]
    exact h.phoneNumberIds old hOld

end ActiveFlag

theorem account_of_credential {c : Configuration} {provider accountId : String}
    (hProvider : c.provider = provider) (hField : accountField provider ≠ "") (hAccount : accountId ≠ "")
    (h : c.credential (accountField provider) = some accountId) : c.account = some accountId := by
  subst hProvider
  simp [Configuration.account, hField, h, hAccount]

theorem joined_nodup : db.joined.Nodup := by
  have hConfigurations := List.Nodup.of_map _ db.configurations.distinct
  have hNumbers := List.Nodup.of_map _ db.phoneNumbers.distinct
  exact (hConfigurations.product hNumbers).filter _

theorem length_le_one {α : Type} {l : List α} (hNodup : l.Nodup) (h : ∀ a ∈ l, ∀ b ∈ l, a = b) :
    l.length ≤ 1 := by
  match l, hNodup, h with
  | [], _, _ => exact Nat.zero_le 1
  | [_], _, _ => exact le_rfl
  | a :: b :: _, hNodup, h =>
    have hSame : a = b := h a List.mem_cons_self b (List.mem_cons_of_mem _ List.mem_cons_self)
    exact absurd (hSame ▸ List.mem_cons_self) (List.nodup_cons.mp hNodup).1

theorem inboundRoutes_length_le_one (hConsistent : db.Consistent) (h : db.UniqueRoutes)
    {provider accountId : String} (canonical : String) (hField : accountField provider ≠ "")
    (hAccount : accountId ≠ "") :
    (db.inboundRoutes provider (accountField provider) accountId canonical none).length ≤ 1 := by
  refine length_le_one (joined_nodup.filter _) fun row hRow other hOther => ?_
  have hMatch : ∀ row ∈ db.inboundRoutes provider (accountField provider) accountId canonical none,
      row ∈ db.joined ∧ row.1.provider = provider ∧ row.1.account = some accountId ∧
        row.2.addressNormalized = canonical := by
    intro row hRow
    obtain ⟨hMem, hWhere⟩ := List.mem_filter.mp hRow
    simp only [Bool.and_eq_true, decide_eq_true_eq] at hWhere
    obtain ⟨⟨⟨⟨⟨hProvider, hCredential⟩, hAddress⟩, -⟩, -⟩, -⟩ := hWhere
    exact ⟨hMem, hProvider, account_of_credential hProvider hField hAccount hCredential, hAddress⟩
  obtain ⟨hMem, hProvider, hOwn, hAddress⟩ := hMatch row hRow
  obtain ⟨hMem', hProvider', hOwn', hAddress'⟩ := hMatch other hOther
  have hId : other.1.id = row.1.id := by
    by_contra hNe
    exact h row hMem ⟨other, hMem', hNe, by simp [hOwn], hProvider'.trans hProvider.symm,
      hOwn'.trans hOwn.symm, hAddress'.trans hAddress.symm⟩
  obtain ⟨hConfig, hNumber, hOwner⟩ := mem_joined.mp hMem
  obtain ⟨hConfig', hNumber', hOwner'⟩ := mem_joined.mp hMem'
  have hConfigSame : row.1 = other.1 :=
    List.inj_on_of_nodup_map db.configurations.distinct hConfig hConfig' hId.symm
  have hOrganization : row.2.organizationId = other.2.organizationId := by
    obtain ⟨c, hc, hcId, hcOrganization⟩ := hConsistent.owned _ hNumber
    obtain ⟨c', hc', hcId', hcOrganization'⟩ := hConsistent.owned _ hNumber'
    have hSame : c = c' := List.inj_on_of_nodup_map db.configurations.distinct hc hc' (by
      rw [hcId, hcId', hOwner, hOwner', hId])
    rw [← hcOrganization, ← hcOrganization', hSame]
  have hNumberSame : row.2 = other.2 :=
    List.inj_on_of_nodup_map db.phoneNumbers.distinct hNumber hNumber'
      (hConsistent.apart _ hNumber _ hNumber' hOrganization (hAddress.trans hAddress'.symm))
  exact Prod.ext hConfigSame hNumberSame

structure Later (db' db : Database) : Prop where
  nextConfigurationId : db.nextConfigurationId ≤ db'.nextConfigurationId
  configurations : ∀ c ∈ db'.configurations.rows, c.id < db.nextConfigurationId →
    ∃ old ∈ db.configurations.rows, old.id = c.id ∧ old.organizationId = c.organizationId

theorem later_of_rows {db' : Database} (hNext : db'.nextConfigurationId = db.nextConfigurationId)
    (h : ∀ c ∈ db'.configurations.rows, c ∈ db.configurations.rows) : Later db' db :=
  ⟨hNext ▸ le_rfl, fun c hc _ => ⟨c, h c hc, rfl, rfl⟩⟩

theorem later_modify {configId : Nat} {f : Configuration → Configuration} (hId : ∀ c, (f c).id = c.id)
    (hOrganization : ∀ c, (f c).organizationId = c.organizationId) : Later (db.modify configId f hId) db := by
  refine ⟨le_rfl, fun c hc _ => ?_⟩
  obtain ⟨old, hOld, rfl⟩ := List.mem_map.mp hc
  refine ⟨old, hOld, ?_⟩
  split
  · exact ⟨(hId old).symm, (hOrganization old).symm⟩
  · exact ⟨rfl, rfl⟩

def Knows (db : Database) (seen : Option (Nat × Nat)) : Prop :=
  ∀ configId organizationId, seen = some (configId, organizationId) →
    configId < db.nextConfigurationId ∧
      ∀ c ∈ db.configurations.rows, c.id = configId → c.organizationId = organizationId

theorem Knows.later {db' : Database} {seen : Option (Nat × Nat)} (h : db.Knows seen)
    (hLater : Later db' db) : db'.Knows seen := by
  intro configId organizationId hSeen
  obtain ⟨hLt, hOwner⟩ := h configId organizationId hSeen
  refine ⟨hLt.trans_le hLater.nextConfigurationId, fun c hc hId => ?_⟩
  obtain ⟨old, hOld, hOldId, hSame⟩ := hLater.configurations c hc (hId ▸ hLt)
  rw [← hSame]
  exact hOwner old hOld (hOldId.trans hId)

theorem knows_of_found {configId organizationId : Nat} {c : Configuration} (h : db.Consistent)
    (hFound : db.getTelephonyConfigurationForOrg configId organizationId = some c) :
    db.Knows (some (configId, organizationId)) := by
  rintro _ _ ⟨⟩
  obtain ⟨hRow, hOrganization⟩ := Option.filter_eq_some_iff.mp hFound
  obtain ⟨hMem, hId⟩ := Table.lookup_eq_some.mp hRow
  refine ⟨hId ▸ h.configurationIds c hMem, fun c' hc' hId' => ?_⟩
  have hSame : c' = c := List.inj_on_of_nodup_map db.configurations.distinct hc' hMem (hId'.trans hId.symm)
  rw [hSame]
  exact of_decide_eq_true hOrganization

end Database

section Steps

variable {ι : Type} {outside : Outside ι} {db : Database} {proc : ι} {cmd : Command}

/-- When a transaction leaves the routes apart. -/
def Admits (db : Database) : Command → Prop
  | .createPhoneNumber organizationId configId _ canonical _ =>
    db.addressTaken organizationId canonical = false →
      ∀ c ∈ db.configurations.rows, c.id = configId → ¬db.Taken c canonical
  | .updateTelephonyConfiguration configId organizationId name credentials =>
    (db.getTelephonyConfigurationForOrg configId organizationId).isSome = true →
      db.nameTaken configId organizationId name = false → ∀ row ∈ db.joined, row.1.id = configId →
        ¬db.Taken (Database.withChanges name credentials row.1) row.2.addressNormalized
  | _ => True

instance : DecidablePred (Admits db) := fun cmd => by
  cases cmd <;> simp only [Admits] <;> infer_instance

theorem uniqueRoutes_execute (hConsistent : db.Consistent) (h : db.UniqueRoutes) :
    (execute outside proc cmd db).2.UniqueRoutes ↔ Admits db cmd := by
  cases cmd with
  | createPhoneNumber organizationId configId address canonical isActive =>
    exact Database.uniqueRoutes_createPhoneNumber hConsistent h
  | updateTelephonyConfiguration configId organizationId name credentials =>
    exact Database.uniqueRoutes_updateTelephonyConfiguration h
  | createTelephonyConfiguration organizationId name provider credentials =>
    exact iff_of_true (Database.uniqueRoutes_createTelephonyConfiguration organizationId name provider
      credentials hConsistent h) trivial
  | deleteTelephonyConfiguration configId organizationId =>
    exact iff_of_true ((Database.shrinks_deleteTelephonyConfiguration db configId organizationId).uniqueRoutes h)
      trivial
  | deletePhoneNumber phoneNumberId configId =>
    exact iff_of_true ((Database.shrinks_deletePhoneNumber db phoneNumberId configId).uniqueRoutes h) trivial
  | _ => exact iff_of_true h trivial

def inserting : Protocol Reply HttpError (Option (Nat × Nat)) where
  permits seen cmd :=
    match cmd with
    | .createPhoneNumber organizationId configId _ _ _ => seen = some (configId, organizationId)
    | _ => True
  next seen cmd :=
    match cmd with
    | .getTelephonyConfigurationForOrg configId organizationId => fun result =>
      match result with
      | .ok (some _) => some (configId, organizationId)
      | _ => seen
    | _ => fun _ => seen

theorem consistent_execute {seen : Option (Nat × Nat)} (h : db.Consistent) (hSeen : db.Knows seen)
    (hPermits : inserting.permits seen cmd) : (execute outside proc cmd db).2.Consistent := by
  cases cmd with
  | createPhoneNumber organizationId configId address canonical isActive =>
    exact Database.consistent_createPhoneNumber h (hSeen _ _ hPermits).2
  | updateTelephonyConfiguration configId organizationId name credentials =>
    exact Database.consistent_updateTelephonyConfiguration h
  | createTelephonyConfiguration organizationId name provider credentials =>
    exact Database.consistent_createTelephonyConfiguration organizationId name provider credentials h
  | deleteTelephonyConfiguration configId organizationId =>
    exact (Database.shrinks_deleteTelephonyConfiguration db configId organizationId).consistent h
  | deletePhoneNumber phoneNumberId configId =>
    exact (Database.shrinks_deletePhoneNumber db phoneNumberId configId).consistent h
  | _ => exact h

theorem later_refl (db : Database) : Database.Later db db :=
  Database.later_of_rows rfl fun _ hc => hc

theorem later_execute (h : db.Consistent) : Database.Later (execute outside proc cmd db).2 db := by
  cases cmd with
  | createPhoneNumber organizationId configId address canonical isActive =>
    obtain ⟨hRefused, -⟩ | ⟨-, -, -, hConfigurations, hNext, -⟩ :=
      Database.createPhoneNumber_cases organizationId configId address canonical isActive h.phoneNumberIds
    · simp only [execute, hRefused]
      exact later_refl db
    · exact Database.later_of_rows hNext fun c hc => by rwa [← hConfigurations]
  | updateTelephonyConfiguration configId organizationId name credentials =>
    obtain ⟨hSame, -⟩ | ⟨-, -, hChanged⟩ :=
      Database.updateTelephonyConfiguration_cases db configId organizationId name credentials
    · simp only [execute, hSame]
      exact later_refl db
    · simp only [execute, hChanged]
      exact Database.later_modify _ fun _ => rfl
  | createTelephonyConfiguration organizationId name provider credentials =>
    obtain hSame | ⟨hRows, -, hNext, -⟩ :=
      Database.createTelephonyConfiguration_cases organizationId name provider credentials h
    · simp only [execute, hSame]
      exact later_refl db
    · refine ⟨by simp only [execute, hNext]; omega, fun c hc hLt => ?_⟩
      simp only [execute, hRows] at hc
      obtain rfl | hOld := List.mem_cons.mp hc
      · exact absurd hLt (Nat.lt_irrefl _)
      · exact ⟨c, hOld, rfl, rfl⟩
  | deleteTelephonyConfiguration configId organizationId =>
    have hShrinks := Database.shrinks_deleteTelephonyConfiguration db configId organizationId
    exact Database.later_of_rows hShrinks.nextConfigurationId hShrinks.configurations
  | deletePhoneNumber phoneNumberId configId =>
    have hShrinks := Database.shrinks_deletePhoneNumber db phoneNumberId configId
    exact Database.later_of_rows hShrinks.nextConfigurationId hShrinks.configurations
  | _ => exact later_refl db

end Steps

end FastVoice.InboundRouting
