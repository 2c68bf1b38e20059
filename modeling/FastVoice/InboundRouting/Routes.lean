import FastVoice.InboundRouting.Database

/-! # Routes and what changes them

A configuration with an account and a number of it are a route. What each transaction does to the routes,
and when it leaves them apart.
-/
namespace FastVoice.InboundRouting
open Python Sql

def Clash (c : Configuration) (canonical : String) (other : Configuration × PhoneNumber) : Prop :=
  other.1.id ≠ c.id ∧ c.account ≠ none ∧ other.1.provider = c.provider ∧ other.1.account = c.account ∧
    other.2.addressNormalized = canonical

instance (c : Configuration) (canonical : String) (other : Configuration × PhoneNumber) :
    Decidable (Clash c canonical other) := inferInstanceAs (Decidable (_ ∧ _))

namespace Database

variable {db : Database}

def Taken (db : Database) (c : Configuration) (canonical : String) : Prop :=
  ∃ other ∈ db.joined, Clash c canonical other

instance (c : Configuration) (canonical : String) : Decidable (db.Taken c canonical) :=
  inferInstanceAs (Decidable (∃ other ∈ db.joined, Clash c canonical other))

def UniqueRoutes (db : Database) : Prop :=
  ∀ row ∈ db.joined, ¬db.Taken row.1 row.2.addressNormalized

instance : Decidable db.UniqueRoutes :=
  inferInstanceAs (Decidable (∀ row ∈ db.joined, ¬db.Taken row.1 row.2.addressNormalized))

/-- What the constraints and the requests keep. -/
structure Consistent (db : Database) : Prop where
  owned : ∀ n ∈ db.phoneNumbers.rows, ∃ c ∈ db.configurations.rows,
    c.id = n.telephonyConfigurationId ∧ c.organizationId = n.organizationId
  apart : ∀ n ∈ db.phoneNumbers.rows, ∀ n' ∈ db.phoneNumbers.rows,
    n.organizationId = n'.organizationId → n.addressNormalized = n'.addressNormalized → n.id = n'.id
  configurationIds : ∀ c ∈ db.configurations.rows, c.id < db.nextConfigurationId
  phoneNumberIds : ∀ n ∈ db.phoneNumbers.rows, n.id < db.nextPhoneNumberId

theorem mem_joined {row : Configuration × PhoneNumber} :
    row ∈ db.joined ↔ row.1 ∈ db.configurations.rows ∧ row.2 ∈ db.phoneNumbers.rows ∧
      row.2.telephonyConfigurationId = row.1.id := by
  obtain ⟨c, n⟩ := row
  simp [joined, List.mem_filter, List.pair_mem_product, and_assoc]

theorem clash_symm {row other : Configuration × PhoneNumber}
    (h : Clash row.1 row.2.addressNormalized other) : Clash other.1 other.2.addressNormalized row := by
  obtain ⟨hId, hAccount, hProvider, hSame, hAddress⟩ := h
  exact ⟨Ne.symm hId, by rwa [hSame], hProvider.symm, hSame.symm, hAddress.symm⟩

theorem UniqueRoutes.mono {db' : Database} (h : db.UniqueRoutes) (hSub : ∀ row ∈ db'.joined, row ∈ db.joined) :
    db'.UniqueRoutes := by
  rintro row hRow ⟨other, hOther, hClash⟩
  exact h row (hSub row hRow) ⟨other, hSub other hOther, hClash⟩

section Create

variable {organizationId configId : Nat} {address canonical : String} {isActive : Bool}

variable (organizationId configId address canonical isActive) in
theorem createPhoneNumber_cases (hIds : ∀ n ∈ db.phoneNumbers.rows, n.id < db.nextPhoneNumberId) :
    db.createPhoneNumber organizationId configId address canonical isActive = (none, db) ∧
        (db.addressTaken organizationId canonical = true ∨ db.configurations.lookup configId = none) ∨
      db.addressTaken organizationId canonical = false ∧ (∃ c, db.configurations.lookup configId = some c) ∧
        (db.createPhoneNumber organizationId configId address canonical isActive).2.phoneNumbers.rows =
          ⟨db.nextPhoneNumberId, organizationId, configId, address, canonical, isActive⟩ ::
            db.phoneNumbers.rows ∧
        (db.createPhoneNumber organizationId configId address canonical isActive).2.configurations =
          db.configurations ∧
        (db.createPhoneNumber organizationId configId address canonical isActive).2.nextConfigurationId =
          db.nextConfigurationId ∧
        (db.createPhoneNumber organizationId configId address canonical isActive).2.nextPhoneNumberId =
          db.nextPhoneNumberId + 1 := by
  have hFree : db.phoneNumbers.lookup db.nextPhoneNumberId = none := by
    cases hRow : db.phoneNumbers.lookup db.nextPhoneNumberId with
    | none => rfl
    | some n =>
      obtain ⟨hMem, hId⟩ := Table.lookup_eq_some.mp hRow
      exact absurd (hIds n hMem) (by omega)
  cases hTaken : db.addressTaken organizationId canonical with
  | true => exact .inl ⟨by simp [createPhoneNumber, hTaken], .inl rfl⟩
  | false =>
    cases hConfig : db.configurations.lookup configId with
    | none => exact .inl ⟨by simp [createPhoneNumber, hConfig], .inr rfl⟩
    | some c =>
      right
      refine ⟨rfl, ⟨c, rfl⟩, ?_⟩
      simp [createPhoneNumber, hTaken, hConfig, Table.rows_insert, hFree]

theorem uniqueRoutes_cons {db' : Database} {n : PhoneNumber} (hConfigurations : db'.configurations = db.configurations)
    (hNumbers : db'.phoneNumbers.rows = n :: db.phoneNumbers.rows) (h : db.UniqueRoutes) :
    db'.UniqueRoutes ↔ ∀ c ∈ db.configurations.rows, c.id = n.telephonyConfigurationId →
      ¬db.Taken c n.addressNormalized := by
  have hMem : ∀ row : Configuration × PhoneNumber, row ∈ db'.joined ↔
      (row.1 ∈ db.configurations.rows ∧ row.2 = n ∧ n.telephonyConfigurationId = row.1.id) ∨
        row ∈ db.joined := by
    intro row
    rw [mem_joined, mem_joined, hConfigurations, hNumbers, List.mem_cons]
    constructor
    · rintro ⟨hConfig, hNew | hOld, hOwner⟩
      · exact .inl ⟨hConfig, hNew, hNew ▸ hOwner⟩
      · exact .inr ⟨hConfig, hOld, hOwner⟩
    · rintro (⟨hConfig, hNew, hOwner⟩ | ⟨hConfig, hOld, hOwner⟩)
      · exact ⟨hConfig, .inl hNew, hNew ▸ hOwner⟩
      · exact ⟨hConfig, .inr hOld, hOwner⟩
  constructor
  · rintro hUnique c hConfig hId ⟨other, hOther, hClash⟩
    exact hUnique (c, n) ((hMem _).mpr (.inl ⟨hConfig, rfl, hId.symm⟩))
      ⟨other, (hMem _).mpr (.inr hOther), hClash⟩
  · rintro hNew row hRow ⟨other, hOther, hClash⟩
    obtain ⟨hConfig, hNumber, hOwner⟩ | hRow := (hMem row).mp hRow
    · obtain ⟨-, -, hOtherOwner⟩ | hOther := (hMem other).mp hOther
      · exact hClash.1 (hOtherOwner.symm.trans hOwner)
      · exact hNew row.1 hConfig hOwner.symm ⟨other, hOther, hNumber ▸ hClash⟩
    · obtain ⟨hConfig, hNumber, hOwner⟩ | hOther := (hMem other).mp hOther
      · exact hNew other.1 hConfig hOwner.symm ⟨row, hRow, hNumber ▸ clash_symm hClash⟩
      · exact h row hRow ⟨other, hOther, hClash⟩

theorem uniqueRoutes_createPhoneNumber (hConsistent : db.Consistent) (h : db.UniqueRoutes) :
    (db.createPhoneNumber organizationId configId address canonical isActive).2.UniqueRoutes ↔
      (db.addressTaken organizationId canonical = false →
        ∀ c ∈ db.configurations.rows, c.id = configId → ¬db.Taken c canonical) := by
  obtain ⟨hRefused, hWhy⟩ | ⟨hFree, -, hRows, hConfigurations, -, -⟩ :=
    createPhoneNumber_cases organizationId configId address canonical isActive hConsistent.phoneNumberIds
  · rw [hRefused]
    refine ⟨fun _ hFree c hConfig hId => ?_, fun _ => h⟩
    obtain hTaken | hNone := hWhy
    · rw [hFree] at hTaken
      cases hTaken
    · rw [← hId, Table.lookup_of_mem hConfig] at hNone
      cases hNone
  · rw [uniqueRoutes_cons hConfigurations hRows h]
    exact ⟨fun hNew _ => hNew, fun hNew => hNew hFree⟩

theorem consistent_createPhoneNumber (h : db.Consistent)
    (hOwner : ∀ c ∈ db.configurations.rows, c.id = configId → c.organizationId = organizationId) :
    (db.createPhoneNumber organizationId configId address canonical isActive).2.Consistent := by
  obtain ⟨hRefused, -⟩ | ⟨hFree, ⟨c, hConfig⟩, hRows, hConfigurations, hNextConfiguration, hNext⟩ :=
    createPhoneNumber_cases organizationId configId address canonical isActive h.phoneNumberIds
  · rw [hRefused]
    exact h
  · have hNew : ∀ n ∈ db.phoneNumbers.rows, n.organizationId = organizationId →
        n.addressNormalized ≠ canonical := by
      intro n hn hOrganization hAddress
      rw [addressTaken, List.any_eq_false] at hFree
      exact hFree n hn (by simp [hOrganization, hAddress])
    obtain ⟨hMem, hId⟩ := Table.lookup_eq_some.mp hConfig
    constructor
    · rw [hRows, hConfigurations]
      exact List.forall_mem_cons.mpr ⟨⟨c, hMem, hId, hOwner c hMem hId⟩, h.owned⟩
    · rw [hRows]
      intro n hn n' hn' hOrganization hAddress
      obtain rfl | hOld := List.mem_cons.mp hn
      · obtain rfl | hOld' := List.mem_cons.mp hn'
        · rfl
        · exact absurd hAddress.symm (hNew n' hOld' hOrganization.symm)
      · obtain rfl | hOld' := List.mem_cons.mp hn'
        · exact absurd hAddress (hNew n hOld hOrganization)
        · exact h.apart n hOld n' hOld' hOrganization hAddress
    · rw [hConfigurations, hNextConfiguration]
      exact h.configurationIds
    · rw [hRows, hNext]
      refine List.forall_mem_cons.mpr ⟨Nat.lt_succ_self _, fun n hn => ?_⟩
      exact Nat.lt_succ_of_lt (h.phoneNumberIds n hn)

end Create

section Modify

variable {configId : Nat} {f : Configuration → Configuration} (hId : ∀ c, (f c).id = c.id)

theorem mem_joined_modify {row : Configuration × PhoneNumber} : row ∈ (db.modify configId f hId).joined ↔
      ∃ c, (c, row.2) ∈ db.joined ∧ row.1 = if c.id = configId then f c else c := by
  have hKeep : ∀ c, (if c.id = configId then f c else c).id = c.id := by
    intro c
    split
    · exact hId c
    · rfl
  rw [mem_joined]
  simp only [modify, Table.update, List.mem_map, mem_joined]
  constructor
  · rintro ⟨⟨c, hConfig, hSame⟩, hNumber, hOwner⟩
    exact ⟨c, ⟨hConfig, hNumber, by rw [hOwner, ← hSame, hKeep]⟩, hSame.symm⟩
  · rintro ⟨c, ⟨hConfig, hNumber, hOwner⟩, hSame⟩
    exact ⟨⟨c, hConfig, hSame.symm⟩, hNumber, by rw [hOwner, hSame, hKeep]⟩

theorem mem_joined_other {row : Configuration × PhoneNumber} (hOther : row.1.id ≠ configId) :
    row ∈ (db.modify configId f hId).joined ↔ row ∈ db.joined := by
  rw [mem_joined_modify]
  constructor
  · rintro ⟨c, hRow, hSame⟩
    split at hSame
    · rename_i hConfig
      exact absurd (hSame ▸ (hId c).trans hConfig) hOther
    · obtain ⟨c', n⟩ := row
      obtain rfl : c' = c := hSame
      exact hRow
  · intro hRow
    exact ⟨row.1, hRow, (if_neg hOther).symm⟩

theorem uniqueRoutes_modify (h : db.UniqueRoutes) : (db.modify configId f hId).UniqueRoutes ↔
      ∀ row ∈ db.joined, row.1.id = configId → ¬db.Taken (f row.1) row.2.addressNormalized := by
  constructor
  · rintro hUnique row hRow hConfig ⟨other, hOther, hClash⟩
    have hApart : other.1.id ≠ configId := by
      have hNe := hClash.1
      rwa [hId, hConfig] at hNe
    refine hUnique (f row.1, row.2) ((mem_joined_modify hId).mpr ⟨row.1, hRow, (if_pos hConfig).symm⟩) ?_
    exact ⟨other, (mem_joined_other hId hApart).mpr hOther, hClash⟩
  · rintro hChanged row hRow ⟨other, hOther, hClash⟩
    by_cases hOwn : row.1.id = configId
    · have hApart : other.1.id ≠ configId := hOwn ▸ hClash.1
      obtain ⟨c, hOld, hSame⟩ := (mem_joined_modify hId).mp hRow
      split at hSame
      · rename_i hConfig
        exact hChanged (c, row.2) hOld hConfig
          ⟨other, (mem_joined_other hId hApart).mp hOther, hSame ▸ hClash⟩
      · exact absurd (hSame ▸ hOwn) ‹_›
    · have hRowOld := (mem_joined_other hId hOwn).mp hRow
      by_cases hOtherOwn : other.1.id = configId
      · obtain ⟨c, hOld, hSame⟩ := (mem_joined_modify hId).mp hOther
        split at hSame
        · rename_i hConfig
          exact hChanged (c, other.2) hOld hConfig ⟨row, hRowOld, hSame ▸ clash_symm hClash⟩
        · exact absurd (hSame ▸ hOtherOwn) ‹_›
      · exact h row hRowOld ⟨other, (mem_joined_other hId hOtherOwn).mp hOther, hClash⟩

theorem uniqueRoutes_modify_of_account (hProvider : ∀ c, (f c).provider = c.provider)
    (hAccount : ∀ c, (f c).account = c.account) (h : db.UniqueRoutes) :
    (db.modify configId f hId).UniqueRoutes := by
  rw [uniqueRoutes_modify hId h]
  rintro row hRow - ⟨other, hOther, hClash⟩
  refine h row hRow ⟨other, hOther, ?_⟩
  simpa only [Clash, hId, hProvider, hAccount] using hClash

theorem consistent_modify (hOrganization : ∀ c, (f c).organizationId = c.organizationId)
    (h : db.Consistent) : (db.modify configId f hId).Consistent := by
  have hKeep : ∀ c, (if c.id = configId then f c else c).id = c.id ∧
      (if c.id = configId then f c else c).organizationId = c.organizationId := by
    intro c
    split
    · exact ⟨hId c, hOrganization c⟩
    · exact ⟨rfl, rfl⟩
  constructor
  · intro n hn
    obtain ⟨c, hc, hOwner, hSame⟩ := h.owned n hn
    exact ⟨_, List.mem_map_of_mem hc, (hKeep c).1.trans hOwner, (hKeep c).2.trans hSame⟩
  · exact h.apart
  · intro c hc
    obtain ⟨old, hOld, rfl⟩ := List.mem_map.mp hc
    rw [(hKeep old).1]
    exact h.configurationIds old hOld
  · exact h.phoneNumberIds

end Modify

section Update

variable {configId organizationId : Nat} {name : Option String} {credentials : Option Json}

variable (db configId organizationId name credentials) in
theorem updateTelephonyConfiguration_cases :
    (db.updateTelephonyConfiguration configId organizationId name credentials).2 = db ∧
        (db.getTelephonyConfigurationForOrg configId organizationId = none ∨
          db.nameTaken configId organizationId name = true) ∨
      (∃ row, db.getTelephonyConfigurationForOrg configId organizationId = some row) ∧
        db.nameTaken configId organizationId name = false ∧
        (db.updateTelephonyConfiguration configId organizationId name credentials).2 =
          db.modify configId (withChanges name credentials) (withChanges_id name credentials) := by
  unfold updateTelephonyConfiguration
  split
  · rename_i hNone
    exact .inl ⟨rfl, .inl hNone⟩
  · rename_i row hRow
    split
    · rename_i hName
      exact .inl ⟨rfl, .inr hName⟩
    · rename_i hName
      exact .inr ⟨⟨row, hRow⟩, Bool.eq_false_iff.mpr hName, rfl⟩

theorem uniqueRoutes_updateTelephonyConfiguration (h : db.UniqueRoutes) :
    (db.updateTelephonyConfiguration configId organizationId name credentials).2.UniqueRoutes ↔
      ((db.getTelephonyConfigurationForOrg configId organizationId).isSome = true →
        db.nameTaken configId organizationId name = false → ∀ row ∈ db.joined, row.1.id = configId →
          ¬db.Taken (withChanges name credentials row.1) row.2.addressNormalized) := by
  obtain ⟨hSame, hWhy⟩ | ⟨⟨row, hRow⟩, hName, hChanged⟩ :=
    updateTelephonyConfiguration_cases db configId organizationId name credentials
  · rw [hSame]
    refine ⟨fun _ hFound hFree => ?_, fun _ => h⟩
    obtain hNone | hTaken := hWhy
    · rw [hNone] at hFound
      cases hFound
    · rw [hFree] at hTaken
      cases hTaken
  · rw [hChanged, uniqueRoutes_modify _ h, hRow, hName]
    exact ⟨fun hNew _ _ => hNew, fun hNew => hNew rfl rfl⟩

theorem consistent_updateTelephonyConfiguration (h : db.Consistent) :
    (db.updateTelephonyConfiguration configId organizationId name credentials).2.Consistent := by
  obtain ⟨hSame, -⟩ | ⟨-, -, hChanged⟩ :=
    updateTelephonyConfiguration_cases db configId organizationId name credentials
  · rw [hSame]
    exact h
  · rw [hChanged]
    exact consistent_modify _ (fun _ => rfl) h

end Update

end Database

end FastVoice.InboundRouting
