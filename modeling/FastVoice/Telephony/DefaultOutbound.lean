import FastVoice.Python.Json
import FastVoice.Runtime.Machine
import FastVoice.Sql.Table

/-! # The default outbound configuration of an organization

The first configuration becomes the default, a later one may take its place, and a deleted default leaves none. A
transaction whose rows break a constraint is rolled back.
-/
namespace FastVoice.Telephony.DefaultOutbound
open Python Sql

structure Configuration where
  id : Nat
  organizationId : Nat
  name : String
  provider : String
  credentials : Json
  isDefaultOutbound : Bool

inductive Failure
  | conflict
  | dataError
  | inUse
  deriving DecidableEq

def refusal (organizations : List Nat) (rows : List Configuration) : Option Failure :=
  if rows.any fun row => 64 < row.name.length || 32 < row.provider.length then some .dataError
  else if (rows.all fun row => row.organizationId ∈ organizations) &&
      decide (rows.map fun row => (row.organizationId, row.name)).Nodup &&
      decide ((rows.filter (·.isDefaultOutbound)).map (·.organizationId)).Nodup then none
  else some .conflict

structure Database where
  organizations : List Nat
  configurations : Table Configuration.id
  accepted : refusal organizations configurations.rows = none
  nextId : Nat
  fresh : ∀ row ∈ configurations.rows, row.id < nextId
  campaigns : List (Option Nat)

/-- The rows of a transaction replace those before, unless a constraint refuses them. -/
def commit {α : Type} (db : Database) (result : α) (configurations : Table Configuration.id)
    (fresh : ∀ row ∈ configurations.rows, row.id < db.nextId) : Except Failure α × Database :=
  match accepted : refusal db.organizations configurations.rows with
  | some failure => (.error failure, db)
  | none => (.ok result, { db with configurations := configurations, fresh := fresh, accepted := accepted })

def clear (organizationId : Nat) (row : Configuration) : Configuration :=
  if row.organizationId = organizationId && row.isDefaultOutbound then { row with isDefaultOutbound := false }
  else row

theorem clear_id (organizationId : Nat) (row : Configuration) : (clear organizationId row).id = row.id := by
  unfold clear
  split <;> rfl

def clearDefaultOutbound (configurations : Table Configuration.id) (organizationId : Nat) :
    Table Configuration.id := configurations.update (clear organizationId) (clear_id organizationId)

def change (configId : Nat) (f : Configuration → Configuration) (row : Configuration) : Configuration :=
  if row.id = configId then f row else row

theorem change_id (configId : Nat) {f : Configuration → Configuration} (hId : ∀ row, (f row).id = row.id)
    (row : Configuration) : (change configId f row).id = row.id := by
  unfold change
  split
  · exact hId row
  · rfl

theorem fresh_update {configurations : Table Configuration.id} {bound : Nat}
    (fresh : ∀ row ∈ configurations.rows, row.id < bound) {f : Configuration → Configuration}
    (hId : ∀ row, (f row).id = row.id) : ∀ row ∈ (configurations.update f hId).rows, row.id < bound := by
  intro row hRow
  obtain ⟨before, hBefore, rfl⟩ := List.mem_map.mp hRow
  exact (hId before).symm ▸ fresh before hBefore

theorem fresh_insert {configurations : Table Configuration.id} {bound : Nat}
    (fresh : ∀ row ∈ configurations.rows, row.id < bound) {new : Configuration} (hNew : new.id < bound) :
    ∀ row ∈ (configurations.insert new).rows, row.id < bound := by
  unfold Table.insert
  split
  · exact fresh
  · exact List.forall_mem_cons.mpr ⟨hNew, fresh⟩

def members (organizationId : Nat) (configurations : Table Configuration.id) : Nat :=
  configurations.count fun row => row.organizationId = organizationId

namespace Database

variable (db : Database)

def takeId : Database :=
  { db with nextId := db.nextId + 1, fresh := fun row hRow => Nat.lt_succ_of_lt (db.fresh row hRow) }

theorem fresh_clear (organizationId : Nat) :
    ∀ row ∈ (clearDefaultOutbound db.configurations organizationId).rows, row.id < db.nextId :=
  fresh_update db.fresh (clear_id organizationId)

def createTelephonyConfiguration (organizationId : Nat) (name provider : String) (credentials : Json)
    (isDefaultOutbound : Bool) : Except Failure Configuration × Database :=
  let existingCount := members organizationId db.configurations
  let row : Configuration :=
    ⟨db.nextId, organizationId, name, provider, credentials, existingCount = 0 || isDefaultOutbound⟩
  if existingCount ≠ 0 && isDefaultOutbound then
    commit db.takeId row ((clearDefaultOutbound db.configurations organizationId).insert row)
      (fresh_insert (fun row hRow => Nat.lt_succ_of_lt (db.fresh_clear organizationId row hRow)) db.nextId.lt_succ_self)
  else
    commit db.takeId row (db.configurations.insert row) (fresh_insert db.takeId.fresh db.nextId.lt_succ_self)

def owned (configId organizationId : Nat) : Option Configuration :=
  (db.configurations.lookup configId).filter fun row => row.organizationId = organizationId

def withChanges (name : Option String) (credentials : Option Json) (row : Configuration) : Configuration :=
  { row with name := name.getD row.name, credentials := credentials.getD row.credentials }

def updateTelephonyConfiguration (configId organizationId : Nat) (name : Option String)
    (credentials : Option Json) : Except Failure (Option Configuration) × Database :=
  match db.owned configId organizationId with
  | none => (.ok none, db)
  | some row =>
    commit db (some (withChanges name credentials row))
      (db.configurations.update (change configId (withChanges name credentials)) (change_id configId fun _ => rfl))
      (fresh_update db.fresh _)

def asDefault (row : Configuration) : Configuration := { row with isDefaultOutbound := true }

def setDefaultTelephonyConfiguration (configId organizationId : Nat) :
    Except Failure (Option Configuration) × Database :=
  match db.owned configId organizationId with
  | none => (.ok none, db)
  | some row =>
    commit db (some (asDefault row))
      ((clearDefaultOutbound db.configurations organizationId).update (change configId asDefault)
        (change_id configId fun _ => rfl))
      (fresh_update (db.fresh_clear organizationId) _)

def deleteTelephonyConfiguration (configId organizationId : Nat) : Except Failure Bool × Database :=
  match db.owned configId organizationId with
  | none => (.ok false, db)
  | some _ =>
    if some configId ∈ db.campaigns then (.error .inUse, db)
    else commit db true (db.configurations.delete configId) fun row hRow => db.fresh row (List.mem_filter.mp hRow).1

end Database

inductive Operation
  | create (name provider : String) (credentials : Json) (isDefaultOutbound : Bool)
  | update (configId : Nat) (name : Option String) (credentials : Option Json)
  | setDefault (configId : Nat)
  | delete (configId : Nat)
  | assign (campaigns : List (Option Nat))

/-- Whether the operation did what it was asked to, and the database behind it. -/
def perform (organizationId : Nat) (db : Database) : Operation → Bool × Database
  | .create name provider credentials isDefaultOutbound =>
    let (result, db) := db.createTelephonyConfiguration organizationId name provider credentials isDefaultOutbound
    (result.toOption.any fun _ => true, db)
  | .update configId name credentials =>
    let (result, db) := db.updateTelephonyConfiguration configId organizationId name credentials
    (result.toOption.any (·.isSome), db)
  | .setDefault configId =>
    let (result, db) := db.setDefaultTelephonyConfiguration configId organizationId
    (result.toOption.any (·.isSome), db)
  | .delete configId =>
    let (result, db) := db.deleteTelephonyConfiguration configId organizationId
    (result.toOption.any id, db)
  | .assign campaigns => (true, { db with campaigns := campaigns })

def machine (organizationId : Nat) : Machine Database Operation where
  step db operation := some (perform organizationId db operation).2

def flags (organizationId : Nat) (configurations : Table Configuration.id) : Nat :=
  configurations.count fun row => row.organizationId = organizationId && row.isDefaultOutbound

structure HasDefault (organizationId : Nat) (configurations : Table Configuration.id) : Prop where
  one : flags organizationId configurations ≤ 1
  some : 0 < members organizationId configurations → flags organizationId configurations = 1

/-- The default is deleted as the last configuration only. -/
def KeepsDefault (organizationId : Nat) (db : Database) : Operation → Prop
  | .delete configId =>
    ∀ row, db.owned configId organizationId = some row → row.isDefaultOutbound = true →
      some configId ∈ db.campaigns ∨ members organizationId db.configurations = 1
  | _ => True

section

variable {organizationId : Nat} {db : Database}

theorem commit_keeps {α : Type} {P : Table Configuration.id → Prop} {result : α}
    {configurations : Table Configuration.id} {fresh : ∀ row ∈ configurations.rows, row.id < db.nextId}
    (h : P db.configurations) (hDone : P configurations) :
    P (commit db result configurations fresh).2.configurations := by
  unfold commit
  split
  · exact h
  · exact hDone

theorem commit_of_accepted {α : Type} {result : α} {configurations : Table Configuration.id}
    {fresh : ∀ row ∈ configurations.rows, row.id < db.nextId}
    (h : refusal db.organizations configurations.rows = none) :
    (commit db result configurations fresh).2.configurations = configurations := by
  unfold commit
  split
  case h_1 hRefused => exact nomatch hRefused.symm.trans h
  case h_2 => rfl

theorem refusal_eq_none {organizations : List Nat} {rows : List Configuration} :
    refusal organizations rows = none ↔ (∀ row ∈ rows,
        row.name.length ≤ 64 ∧ row.provider.length ≤ 32 ∧ row.organizationId ∈ organizations) ∧
        (rows.map fun row => (row.organizationId, row.name)).Nodup ∧
        ((rows.filter (·.isDefaultOutbound)).map (·.organizationId)).Nodup := by
  unfold refusal
  split
  case isTrue hLong =>
    refine iff_of_false nofun fun h => ?_
    obtain ⟨row, hRow, hName⟩ := List.any_eq_true.mp hLong
    have hShort := h.1 row hRow
    simp only [Bool.or_eq_true, decide_eq_true_eq] at hName
    omega
  case isFalse hShort =>
    have hBounds : ∀ row ∈ rows, row.name.length ≤ 64 ∧ row.provider.length ≤ 32 := by
      intro row hRow
      have hRowShort := List.any_eq_false.mp (Bool.eq_false_iff.mpr hShort) row hRow
      simp only [Bool.or_eq_true, decide_eq_true_eq] at hRowShort
      omega
    rw [ite_eq_left_iff, Bool.and_eq_true, Bool.and_eq_true, List.all_eq_true, decide_eq_true_eq, decide_eq_true_eq,
      and_assoc]
    constructor
    · intro h
      obtain ⟨hOrganizations, hRest⟩ := by_contra fun hNot => nomatch h hNot
      refine ⟨fun row hRow => ?_, hRest⟩
      exact ⟨(hBounds row hRow).1, (hBounds row hRow).2, of_decide_eq_true (hOrganizations row hRow)⟩
    · rintro ⟨hRows, hRest⟩ hNot
      exact absurd ⟨fun row hRow => decide_eq_true (hRows row hRow).2.2, hRest⟩ hNot

theorem refusal_sublist {organizations : List Nat} {rows rows' : List Configuration} (hRows : rows'.Sublist rows)
    (h : refusal organizations rows = none) : refusal organizations rows' = none := by
  obtain ⟨hBounds, hNames, hDefaults⟩ := refusal_eq_none.mp h
  exact refusal_eq_none.mpr ⟨fun row hRow => hBounds row (hRows.subset hRow), hNames.sublist (hRows.map _),
    hDefaults.sublist ((hRows.filter _).map _)⟩

theorem flags_le_one (organizationId : Nat) (db : Database) : flags organizationId db.configurations ≤ 1 := by
  have hDefaults := (refusal_eq_none.mp db.accepted).2.2
  have hCount := List.nodup_iff_count_le_one.mp hDefaults organizationId
  rw [List.count, List.countP_map, List.countP_filter] at hCount
  refine Nat.le_trans (Nat.le_of_eq (List.countP_congr fun row _ => ?_)) hCount
  simp

theorem flags_le_members (organizationId : Nat) (configurations : Table Configuration.id) :
    flags organizationId configurations ≤ members organizationId configurations :=
  List.countP_mono_left fun _ _ hRow => (Bool.and_eq_true _ _ ▸ hRow).1

theorem clear_apply (organizationId : Nat) (row : Configuration) :
    (decide ((clear organizationId row).organizationId = organizationId) &&
      (clear organizationId row).isDefaultOutbound) = false := by
  unfold clear
  split
  · exact Bool.and_false _
  · exact Bool.eq_false_iff.mpr ‹_›

theorem clear_organizationId (organizationId : Nat) (row : Configuration) :
    (clear organizationId row).organizationId = row.organizationId := by
  unfold clear
  split <;> rfl

theorem flags_clear (organizationId : Nat) (configurations : Table Configuration.id) :
    flags organizationId (clearDefaultOutbound configurations organizationId) = 0 := by
  rw [flags, clearDefaultOutbound, Table.count_update, Table.count, List.countP_eq_zero]
  intro row _
  rw [Function.comp_apply, clear_apply]
  exact Bool.false_ne_true

theorem lookup_nextId (db : Database) : db.configurations.lookup db.nextId = none := by
  rw [Table.lookup, List.find?_eq_none]
  intro row hRow hId
  exact absurd (of_decide_eq_true hId) (Nat.ne_of_lt (db.fresh row hRow))

theorem lookup_clear {configurations : Table Configuration.id} {id : Nat} (h : configurations.lookup id = none) :
    (clearDefaultOutbound configurations organizationId).lookup id = none := by
  rw [clearDefaultOutbound, Table.lookup_update, h]
  rfl

theorem hasDefault_of_flags {configurations : Table Configuration.id}
    (h : flags organizationId configurations = 1) : HasDefault organizationId configurations :=
  ⟨Nat.le_of_eq h, fun _ => h⟩

theorem flags_insert {configurations : Table Configuration.id} {row : Configuration}
    (hNew : configurations.lookup row.id = none) (hOrganization : row.organizationId = organizationId) :
    flags organizationId (configurations.insert row) =
      flags organizationId configurations + if row.isDefaultOutbound then 1 else 0 := by
  rw [flags, Table.count_insert hNew, hOrganization, decide_eq_true rfl, Bool.true_and]
  rfl

theorem hasDefault_create (h : HasDefault organizationId db.configurations) (name provider : String)
    (credentials : Json) (isDefaultOutbound : Bool) : HasDefault organizationId (db.createTelephonyConfiguration
      organizationId name provider credentials isDefaultOutbound).2.configurations := by
  have hNew := lookup_nextId db
  unfold Database.createTelephonyConfiguration
  dsimp only
  split
  case isTrue hTakes =>
    refine commit_keeps h (hasDefault_of_flags ?_)
    refine (flags_insert (lookup_clear hNew) rfl).trans ?_
    rw [flags_clear]
    simp only [Bool.and_eq_true] at hTakes
    simp [hTakes.2]
  case isFalse hOther =>
    refine commit_keeps h ?_
    by_cases hEmpty : members organizationId db.configurations = 0
    · refine hasDefault_of_flags ?_
      have hNone := flags_le_members organizationId db.configurations
      rw [hEmpty] at hNone
      refine (flags_insert hNew rfl).trans ?_
      rw [Nat.le_zero.mp hNone]
      simp [hEmpty]
    · refine hasDefault_of_flags ?_
      have hPlain : isDefaultOutbound = false := by simpa [hEmpty] using hOther
      refine (flags_insert hNew rfl).trans ?_
      rw [h.some (Nat.pos_of_ne_zero hEmpty), hPlain]
      simp [hEmpty]

theorem count_change (f : Configuration → Configuration) (hId : ∀ row, (f row).id = row.id)
    {p : Configuration → Bool} (hp : ∀ row, p (f row) = p row) (configId : Nat)
    (configurations : Table Configuration.id) :
    (configurations.update (change configId f) (change_id configId hId)).count p = configurations.count p := by
  rw [Table.count_update]
  refine List.countP_congr fun row _ => ?_
  rw [Function.comp_apply, change]
  split
  · rw [hp]
  · exact Iff.rfl

theorem hasDefault_update (h : HasDefault organizationId db.configurations) (configId : Nat) (name : Option String)
    (credentials : Option Json) : HasDefault organizationId
      (db.updateTelephonyConfiguration configId organizationId name credentials).2.configurations := by
  unfold Database.updateTelephonyConfiguration
  split
  · exact h
  · refine commit_keeps h ⟨?_, ?_⟩
    · rw [flags, count_change (Database.withChanges name credentials) (fun _ => rfl) fun _ => rfl]
      exact h.one
    · rw [flags, members, count_change (Database.withChanges name credentials) (fun _ => rfl) fun _ => rfl,
        count_change (Database.withChanges name credentials) (fun _ => rfl) fun _ => rfl]
      exact h.some

theorem hasDefault_setDefault (h : HasDefault organizationId db.configurations) (configId : Nat) :
    HasDefault organizationId
      (db.setDefaultTelephonyConfiguration configId organizationId).2.configurations := by
  unfold Database.setDefaultTelephonyConfiguration
  split
  · exact h
  case h_2 row hRow =>
    refine commit_keeps h (hasDefault_of_flags ?_)
    obtain ⟨hLookup, hOwner⟩ := Option.filter_eq_some_iff.mp hRow
    have hCleared : (clearDefaultOutbound db.configurations organizationId).lookup configId =
        some (clear organizationId row) := by
      rw [clearDefaultOutbound, Table.lookup_update, hLookup]
      rfl
    have hHere := Table.count_at hCleared fun other => other.organizationId = organizationId
    rw [clear_organizationId, if_pos hOwner] at hHere
    rw [flags, Table.count_update, ← hHere]
    refine List.countP_congr fun other hOther => ?_
    obtain ⟨before, -, rfl⟩ := List.mem_map.mp hOther
    have hCleared := clear_apply organizationId before
    rw [Function.comp_apply, change]
    split
    case isTrue hId => simp [Database.asDefault, hId]
    case isFalse hId => rw [hCleared, decide_eq_false hId, Bool.false_and]

theorem hasDefault_delete_iff (h : HasDefault organizationId db.configurations) (configId : Nat) :
    HasDefault organizationId (db.deleteTelephonyConfiguration configId organizationId).2.configurations ↔
      KeepsDefault organizationId db (.delete configId) := by
  unfold Database.deleteTelephonyConfiguration KeepsDefault
  split
  case h_1 hMissing =>
    refine iff_of_true h fun row hRow => nomatch hMissing.symm.trans hRow
  case h_2 row hRow =>
    split
    case isTrue hUsed => exact iff_of_true h fun _ _ _ => .inl hUsed
    case isFalse hFree =>
      obtain ⟨hLookup, hOwner⟩ := Option.filter_eq_some_iff.mp hRow
      have hRows : (db.configurations.delete configId).rows.Sublist db.configurations.rows := List.filter_sublist
      have hAccepted := refusal_sublist hRows db.accepted
      have hFlags := Table.count_delete hLookup fun row => row.organizationId = organizationId && row.isDefaultOutbound
      have hMembers := Table.count_delete hLookup fun row => row.organizationId = organizationId
      rw [hOwner, Bool.true_and] at hFlags
      rw [hOwner, if_pos rfl] at hMembers
      rw [commit_of_accepted hAccepted]
      change (flags organizationId (db.configurations.delete configId) + _ = flags organizationId db.configurations)
        at hFlags
      change members organizationId (db.configurations.delete configId) + 1 =
        members organizationId db.configurations at hMembers
      constructor
      · rintro ⟨-, hSome⟩ other hOther hDefault
        obtain rfl : row = other := Option.some.inj (hRow.symm.trans hOther)
        rw [hDefault, if_pos rfl, h.some (by omega)] at hFlags
        refine .inr (by_contra fun hMore => ?_)
        have hLeft := hSome (by omega)
        omega
      · intro hKeeps
        cases hDefault : row.isDefaultOutbound with
        | false =>
          rw [hDefault, if_neg Bool.false_ne_true, Nat.add_zero, h.some (by omega)] at hFlags
          exact hasDefault_of_flags hFlags
        | true =>
          obtain hUsed | hLast := hKeeps row hRow hDefault
          · exact absurd hUsed hFree
          · have hNone := flags_le_members organizationId (db.configurations.delete configId)
            exact ⟨by omega, fun hSome => by omega⟩

theorem hasDefault_perform_iff (h : HasDefault organizationId db.configurations) (operation : Operation) :
    HasDefault organizationId (perform organizationId db operation).2.configurations ↔
      KeepsDefault organizationId db operation := by
  cases operation with
  | create name provider credentials isDefaultOutbound =>
    exact iff_of_true (hasDefault_create h name provider credentials isDefaultOutbound) trivial
  | update configId name credentials => exact iff_of_true (hasDefault_update h configId name credentials) trivial
  | setDefault configId => exact iff_of_true (hasDefault_setDefault h configId) trivial
  | delete configId => exact hasDefault_delete_iff h configId
  | assign campaigns => exact iff_of_true h trivial

theorem commit_of_failed {α : Type} {result : α} {configurations : Table Configuration.id}
    {fresh : ∀ row ∈ configurations.rows, row.id < db.nextId} {good : α → Bool} (hGood : good result = true)
    (hFailed : (commit db result configurations fresh).1.toOption.any good = false) :
    (commit db result configurations fresh).2.configurations = db.configurations := by
  unfold commit at hFailed ⊢
  split
  case h_1 => rfl
  case h_2 hAccepted =>
    split at hFailed
    case h_1 hRefused => exact nomatch hRefused.symm.trans hAccepted
    case h_2 =>
      rw [Except.toOption, Option.any_some, hGood] at hFailed
      cases hFailed

theorem configurations_of_failed {operation : Operation} (h : (perform organizationId db operation).1 = false) :
    (perform organizationId db operation).2.configurations = db.configurations := by
  cases operation with
  | create name provider credentials isDefaultOutbound =>
    dsimp only [perform, Database.createTelephonyConfiguration] at h ⊢
    split
    case isTrue hTakes =>
      rw [if_pos hTakes] at h
      exact commit_of_failed rfl h
    case isFalse hOther =>
      rw [if_neg hOther] at h
      exact commit_of_failed rfl h
  | update configId name credentials =>
    dsimp only [perform, Database.updateTelephonyConfiguration] at h ⊢
    cases hRow : db.owned configId organizationId with
    | none => rfl
    | some row =>
      rw [hRow] at h
      exact commit_of_failed rfl h
  | setDefault configId =>
    dsimp only [perform, Database.setDefaultTelephonyConfiguration] at h ⊢
    cases hRow : db.owned configId organizationId with
    | none => rfl
    | some row =>
      rw [hRow] at h
      exact commit_of_failed rfl h
  | delete configId =>
    dsimp only [perform, Database.deleteTelephonyConfiguration] at h ⊢
    cases hRow : db.owned configId organizationId with
    | none => rfl
    | some row =>
      rw [hRow] at h
      by_cases hUsed : some configId ∈ db.campaigns
      · simp only [if_pos hUsed]
      · simp only [if_neg hUsed] at h ⊢
        exact commit_of_failed rfl h
  | assign campaigns => rfl

end

theorem run_isSome (organizationId : Nat) (db : Database) (operations : List Operation) :
    ∃ last, (machine organizationId).run db operations = some last := by
  induction operations generalizing db with
  | nil => exact ⟨db, rfl⟩
  | cons operation operations ih => exact ih _

/-- No organization ever has two default configurations, and one with configurations always has one as long as it is not
deleted while others remain. -/
theorem default_outbound_iff {organizationId : Nat} {db : Database}
    (hStart : HasDefault organizationId db.configurations) (operations : List Operation) :
    (∀ n mid, (machine organizationId).run db (operations.take n) = some mid →
      flags organizationId mid.configurations ≤ 1) ∧
      ((∀ n mid, (machine organizationId).run db (operations.take n) = some mid →
        HasDefault organizationId mid.configurations) ↔
        (machine organizationId).Follows (KeepsDefault organizationId) db operations) ∧
      ∀ (db : Database) (operation : Operation), (perform organizationId db operation).1 = false →
        (perform organizationId db operation).2.configurations = db.configurations := by
  obtain ⟨last, hRun⟩ := run_isSome organizationId db operations
  refine ⟨fun _ mid _ => flags_le_one organizationId mid, ?_, fun _ _ => configurations_of_failed⟩
  refine Machine.throughout_iff (K := fun _ => True) ?_ hRun trivial hStart
  rintro before operation next - hBefore hNext
  obtain rfl := Option.some.inj hNext
  exact ⟨hasDefault_perform_iff hBefore operation, fun _ => trivial⟩

def blank : Database := ⟨[1], Table.empty, rfl, 1, nofun, []⟩

def american : Operation := .create "Twilio US" "twilio" (.obj []) false

def indian : Operation := .create "Vobiz IN" "vobiz" (.obj []) false

theorem hasDefault_blank : HasDefault 1 blank.configurations := ⟨Nat.zero_le _, nofun⟩

theorem default_outbound_blank :
    (∀ n mid, (machine 1).run blank ([american, .delete 1].take n) = some mid →
      flags 1 mid.configurations ≤ 1) ∧
      ((∀ n mid, (machine 1).run blank ([american, .delete 1].take n) = some mid →
        HasDefault 1 mid.configurations) ↔
        (machine 1).Follows (KeepsDefault 1) blank [american, .delete 1]) ∧
      ∀ (db : Database) (operation : Operation), (perform 1 db operation).1 = false →
        (perform 1 db operation).2.configurations = db.configurations :=
  default_outbound_iff hasDefault_blank [american, .delete 1]

theorem default_deleted : ∃ last, (machine 1).run blank [american, indian, .delete 1] = some last ∧
    members 1 last.configurations = 1 ∧ flags 1 last.configurations = 0 :=
  ⟨_, rfl, by decide +kernel, by decide +kernel⟩

end FastVoice.Telephony.DefaultOutbound
