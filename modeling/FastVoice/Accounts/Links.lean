import FastVoice.Accounts.Flows

/-! # Links are opened once, in time, and newest first -/
namespace FastVoice.Accounts
open Async Sql

variable {ι : Type}

abbrev AccountEntry (ι : Type) := Entry ι AccountCommand Error AccountStore UnixTime

abbrev AccountRecord (ι : Type) := Recorded ι AccountCommand Error AccountStore UnixTime

def issuedBy : AccountEntry ι → Option AuthToken
  | .call _ (.issueUserAuthToken userId purpose ttlSeconds) outcome found =>
    if outcome.executed then some (found.newToken userId purpose ttlSeconds) else none
  | _ => none

def openedBy : AccountEntry ι → Option Nat
  | .call _ (.consumeUserAuthToken token purpose) outcome found =>
    if outcome.executed && found.tokens.any (·.usable token purpose found.clock) then some token else none
  | _ => none

/-- The link was issued after the older steps, and no newer one of its kind since. Histories begin with the latest
step. -/
structure NewestLink (history newer older : List (AccountEntry ι)) (issue : AccountEntry ι) (row : AuthToken) :
    Prop where
  split : history = newer ++ issue :: older
  issued : issuedBy issue = some row
  newest : ∀ other ∈ newer, ∀ row', issuedBy other = some row' → row'.userId = row.userId →
    row'.purpose ≠ row.purpose

/-- No link is opened twice, after its expiry, or after a newer one was issued. -/
def LinksSound : List (AccountEntry ι) → Prop
  | [] => True
  | entry :: earlier =>
    (∀ token, openedBy entry = some token → (∀ other ∈ earlier, openedBy other ≠ some token) ∧
      ∃ newer issue older row, NewestLink earlier newer older issue row ∧ row.token = token ∧
        entry.found.clock.val < row.expiresAt.val) ∧
    LinksSound earlier

structure LinksKnown (s : AccountRecord ι) : Prop where
  rows : ∀ row ∈ s.state.tokens, row.token < s.state.issued
  opened : ∀ entry ∈ s.history, ∀ token, openedBy entry = some token → token < s.state.issued
  unopened : ∀ row ∈ s.state.tokens, row.usedAt = none → ∀ entry ∈ s.history, openedBy entry ≠ some row.token
  newest : ∀ row ∈ s.state.tokens, row.usedAt = none →
    ∃ newer issue older, NewestLink s.history newer older issue row
  sound : LinksSound s.history

variable {s : AccountRecord ι} {state : AccountStore} {entry : AccountEntry ι}

theorem NewestLink.cons {history newer older : List (AccountEntry ι)} {issue : AccountEntry ι} {row : AuthToken}
    (h : NewestLink history newer older issue row) (hOther : ∀ row', issuedBy entry = some row' →
      row'.userId = row.userId → row'.purpose ≠ row.purpose) :
    NewestLink (entry :: history) (entry :: newer) older issue row where
  split := congrArg (entry :: ·) h.split
  issued := h.issued
  newest := List.forall_mem_cons.mpr ⟨hOther, h.newest⟩

/-- A step that neither issues nor opens a link. -/
theorem LinksKnown.quiet (h : LinksKnown s) (hTokens : state.tokens = s.state.tokens)
    (hIssued : state.issued = s.state.issued) (hIssue : issuedBy entry = none) (hOpen : openedBy entry = none) :
    LinksKnown ⟨state, entry :: s.history⟩ := by
  constructor
  · rw [hTokens, hIssued]
    exact h.rows
  · rw [hIssued]
    refine List.forall_mem_cons.mpr ⟨fun token hToken => ?_, h.opened⟩
    cases hOpen.symm.trans hToken
  · rw [hTokens]
    intro row hRow hUnused
    refine List.forall_mem_cons.mpr ⟨fun hToken => ?_, h.unopened row hRow hUnused⟩
    cases hOpen.symm.trans hToken
  · rw [hTokens]
    intro row hRow hUnused
    obtain ⟨newer, issue, older, hNewest⟩ := h.newest row hRow hUnused
    refine ⟨entry :: newer, issue, older, hNewest.cons fun row' hRow' => ?_⟩
    rw [hIssue] at hRow'
    cases hRow'
  · refine ⟨fun token hToken => ?_, h.sound⟩
    cases hOpen.symm.trans hToken

theorem LinksKnown.issue (h : LinksKnown s) {userId ttlSeconds : Nat} {purpose : Purpose} (hOpen : openedBy entry = none)
    (hIssue : issuedBy entry = some (s.state.newToken userId purpose ttlSeconds)) : LinksKnown
      ⟨(AccountStore.execute (.issueUserAuthToken userId purpose ttlSeconds) s.state).2, entry :: s.history⟩ where
  rows := by
    refine List.forall_mem_cons.mpr ⟨Nat.lt_succ_self _, fun row hRow => ?_⟩
    exact Nat.lt_succ_of_lt (h.rows row (List.mem_filter.mp hRow).1)
  opened := by
    refine List.forall_mem_cons.mpr ⟨fun token hToken => ?_, fun other hOther token hToken => ?_⟩
    · cases hOpen.symm.trans hToken
    · exact Nat.lt_succ_of_lt (h.opened other hOther token hToken)
  unopened := by
    intro row hRow hUnused
    refine List.forall_mem_cons.mpr ⟨fun hToken => ?_, fun other hOther hToken => ?_⟩
    · cases hOpen.symm.trans hToken
    · obtain rfl | hEarlier := List.mem_cons.mp hRow
      · exact absurd (h.opened other hOther _ hToken) (Nat.lt_irrefl _)
      · exact h.unopened row (List.mem_filter.mp hEarlier).1 hUnused other hOther hToken
  newest := by
    intro row hRow hUnused
    obtain rfl | hEarlier := List.mem_cons.mp hRow
    · exact ⟨[], entry, s.history, rfl, hIssue, fun _ hNone => absurd hNone List.not_mem_nil⟩
    · obtain ⟨hMem, hKept⟩ := List.mem_filter.mp hEarlier
      obtain ⟨newer, issue, older, hNewest⟩ := h.newest row hMem hUnused
      refine ⟨entry :: newer, issue, older, hNewest.cons fun row' hRow' hUser hPurpose => ?_⟩
      rw [hIssue] at hRow'
      cases hRow'
      -- the row of the same kind would have been deleted
      have hUser : userId = row.userId := hUser
      have hPurpose : purpose = row.purpose := hPurpose
      simp [hUser, hPurpose, hUnused] at hKept
  sound := by
    refine ⟨fun token hToken => ?_, h.sound⟩
    cases hOpen.symm.trans hToken

theorem AuthToken.usable_iff {row : AuthToken} {token : Nat} {purpose : Purpose} {now : UnixTime} :
    row.usable token purpose now = true ↔
      row.token = token ∧ row.purpose = purpose ∧ row.usedAt = none ∧ now.val < row.expiresAt.val := by
  simp [AuthToken.usable, and_assoc]

theorem LinksKnown.consume (h : LinksKnown s) {token : Nat} {purpose : Purpose} (hIssue : issuedBy entry = none)
    (hFound : entry.found = s.state) {row : AuthToken} (hRow : row ∈ s.state.tokens)
    (hUsable : row.usable token purpose s.state.clock = true) (hOpen : openedBy entry = some token) :
    LinksKnown ⟨s.state.markUsed token, entry :: s.history⟩ := by
  obtain ⟨rfl, -, hUnused, hTime⟩ := AuthToken.usable_iff.mp hUsable
  have hKept : ∀ other ∈ (s.state.markUsed row.token).tokens, other.usedAt = none →
      other ∈ s.state.tokens ∧ row.token ≠ other.token := by
    intro other hOther hNone
    obtain ⟨found, hMem, rfl⟩ := List.mem_map.mp hOther
    split at hNone
    · cases hNone
    · next hNe =>
      rw [if_neg hNe]
      exact ⟨hMem, Ne.symm hNe⟩
  constructor
  · intro other hOther
    obtain ⟨found, hMem, rfl⟩ := List.mem_map.mp hOther
    have hLt := h.rows found hMem
    split
    · exact hLt
    · exact hLt
  · refine List.forall_mem_cons.mpr ⟨fun other hOther => ?_, h.opened⟩
    cases hOpen.symm.trans hOther
    exact h.rows row hRow
  · intro other hOther hNone
    obtain ⟨hMem, hNe⟩ := hKept other hOther hNone
    refine List.forall_mem_cons.mpr ⟨fun hSame => ?_, h.unopened other hMem hNone⟩
    exact hNe (Option.some.inj (hOpen.symm.trans hSame))
  · intro other hOther hNone
    obtain ⟨newer, issue, older, hNewest⟩ := h.newest other (hKept other hOther hNone).1 hNone
    refine ⟨entry :: newer, issue, older, hNewest.cons fun row' hRow' => ?_⟩
    rw [hIssue] at hRow'
    cases hRow'
  · refine ⟨fun other hOther => ?_, h.sound⟩
    cases hOpen.symm.trans hOther
    obtain ⟨newer, issue, older, hNewest⟩ := h.newest row hRow hUnused
    exact ⟨h.unopened row hRow hUnused, newer, issue, older, row, hNewest, rfl, hFound ▸ hTime⟩

theorem openedBy_consume {found : AccountStore} {token : Nat} {purpose : Purpose} {row : AuthToken}
    {outcome : Outcome Error} (proc : ι) (hExecuted : outcome.executed = true)
    (hRow : found.tokens.find? (·.usable token purpose found.clock) = some row) :
    row ∈ found.tokens ∧ row.usable token purpose found.clock = true ∧
      openedBy (.call proc (.consumeUserAuthToken token purpose) outcome found) = some token := by
  have hMem := List.mem_of_find?_eq_some hRow
  have hUsable : row.usable token purpose found.clock = true :=
    List.find?_some (p := fun row : AuthToken => row.usable token purpose found.clock) hRow
  have hAny : found.tokens.any (·.usable token purpose found.clock) = true := List.any_eq_true.mpr ⟨row, hMem, hUsable⟩
  exact ⟨hMem, hUsable, by simp [openedBy, hExecuted, hAny]⟩

theorem perform_accounts (proc : ι) (command : AccountCommand) (outcome : Outcome Error) (s : AccountRecord ι) :
    ((accountServices ι).recorded.perform proc command outcome s).2 =
      ⟨if outcome.executed then (AccountStore.execute command s.state).2 else s.state,
        .call proc command outcome s.state :: s.history⟩ := by
  cases outcome with
  | reply => rfl
  | fail error applied => cases applied <;> rfl

theorem LinksKnown.perform (h : LinksKnown s) (proc : ι) (command : AccountCommand) (outcome : Outcome Error) :
    LinksKnown ((accountServices ι).recorded.perform proc command outcome s).2 := by
  rw [perform_accounts]
  cases hExecuted : outcome.executed with
  | false => cases command <;> exact h.quiet rfl rfl (by simp [issuedBy, hExecuted]) (by simp [openedBy, hExecuted])
  | true =>
    rw [if_pos rfl]
    cases command with
    | issueUserAuthToken userId purpose ttlSeconds => exact h.issue rfl (by simp [issuedBy, hExecuted])
    | consumeUserAuthToken token purpose =>
      cases hRow : s.state.tokens.find? (·.usable token purpose s.state.clock) with
      | none =>
        have hNone : s.state.tokens.any (·.usable token purpose s.state.clock) = false :=
          List.any_eq_false.mpr (List.find?_eq_none.mp hRow)
        simp only [AccountStore.execute, hRow]
        exact h.quiet rfl rfl rfl (by simp [openedBy, hNone])
      | some row =>
        obtain ⟨hMem, hUsable, hOpen⟩ := openedBy_consume proc hExecuted hRow
        simp only [AccountStore.execute, hRow]
        exact h.consume rfl rfl hMem hUsable hOpen
    | createUserWithEmail | getOrCreateUserByProviderId | updateUserEmail =>
      simp only [AccountStore.execute]
      split <;> exact h.quiet rfl rfl rfl rfl
    | _ => exact h.quiet rfl rfl rfl rfl

theorem LinksKnown.environment (h : LinksKnown s) {move : UnixTime} {s' : AccountRecord ι}
    (hMove : (accountServices ι).recorded.environment move s = some s') : LinksKnown s' := by
  obtain ⟨state, hState, rfl⟩ := Option.map_eq_some_iff.mp hMove
  obtain ⟨-, hState⟩ := Option.ite_none_right_eq_some.mp hState
  cases hState
  exact h.quiet rfl rfl rfl rfl

theorem linksKnown_empty (clock : UnixTime) : LinksKnown (⟨.empty clock, []⟩ : AccountRecord ι) :=
  ⟨nofun, nofun, nofun, nofun, trivial⟩

def accountRequests (bcrypt : Bcrypt) (requests : ι → Request) (clock : UnixTime) :
    Config ι AccountCommand.Reply Error Bool (AccountRecord ι) where
  shared := ⟨.empty clock, []⟩
  procs proc := (requests proc).method bcrypt

/-- Whatever is requested, and however the requests interleave and fail. -/
theorem links_sound [DecidableEq ι] (bcrypt : Bcrypt) (requests : ι → Request) (clock : UnixTime)
    {events : List (Event ι Error UnixTime)} {last : Config ι AccountCommand.Reply Error Bool (AccountRecord ι)}
    (hRun : (accountServices ι).recorded.run (accountRequests bcrypt requests clock) events = some last) :
    LinksSound last.shared.history := by
  refine (System.run_induction (P := fun cfg => LinksKnown cfg.shared) (fun cfg event next h _ hStep => ?_)
    (System.follows_free _ _ events) hRun (linksKnown_empty clock)).sound
  obtain ⟨proc, outcome, command, resume, -, -, rfl⟩ | ⟨move, shared, -, hMove, rfl⟩ := System.step_cases hStep
  · exact h.perform proc command outcome
  · exact h.environment hMove

section Example

def plainBcrypt : Bcrypt := ⟨fun password salt => s!"{salt} {password}", fun password hash => hash = s!"7 {password}"⟩

def newcomer : Bool → Request
  | false => .signup true "owner@example.com" "correct horse" 7
  | true => .verifyEmail 0

def newcomerSteps : List (Event Bool Error UnixTime) :=
  (List.replicate 4 false ++ List.replicate 3 true).map fun proc => .resume proc .reply

def newcomerRun : Option (Config Bool AccountCommand.Reply Error Bool (AccountRecord Bool)) :=
  (accountServices Bool).recorded.run (accountRequests plainBcrypt newcomer ⟨1, UnixTime.one_pos⟩) newcomerSteps

theorem links_sound_newcomer : ∃ last, newcomerRun = some last ∧ LinksSound last.shared.history ∧
    last.shared.history.filterMap openedBy = [0] := by
  have hEnds : newcomerRun.any (fun last => decide (last.shared.history.filterMap openedBy = [0])) = true := by
    decide +kernel
  obtain ⟨last, hRun, hOpened⟩ := (Option.any_eq_true _ _).mp hEnds
  exact ⟨last, hRun, links_sound plainBcrypt newcomer ⟨1, UnixTime.one_pos⟩ hRun, of_decide_eq_true hOpened⟩

end Example

end FastVoice.Accounts
