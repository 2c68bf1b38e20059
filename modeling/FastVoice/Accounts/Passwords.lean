import FastVoice.Accounts.Links

/-! # What a password proves

A link is sent to the address of the request that has issued it, so that who opens it reads the mail of that
address.
-/
namespace FastVoice.Accounts
open Async Sql

section Statements

variable {ι : Type}

def storedBy : AccountEntry ι → Option (Nat × String)
  | .call _ (.createUserWithEmail email passwordHash) outcome found =>
    if outcome.executed && (found.getUserByEmail email).isNone then some (found.users.nextKey, passwordHash)
    else none
  | .call _ (.updateUserPassword userId passwordHash) outcome _ =>
    if outcome.executed then some (userId, passwordHash) else none
  | _ => none

def Request.address : Request → Option String
  | .signup _ email _ _ => some email
  | .forgotPassword _ email => some email
  | _ => none

def Request.link : Request → Option (Nat × Purpose)
  | .verifyEmail token => some (token, .verify)
  | .resetPassword _ token _ _ => some (token, .reset)
  | _ => none

variable (bcrypt : Bcrypt) (requests : ι → Request)

def Request.hash : Request → Option String
  | .signup _ _ password salt => some (bcrypt.hashpw password salt)
  | .resetPassword _ _ password salt => some (bcrypt.hashpw password salt)
  | _ => none

def author : AccountEntry ι → Option Request
  | .call proc _ _ _ => some (requests proc)
  | .environment _ _ => none

/-- A link for an account that was issued for the address, and opened. -/
structure OpenedLink (issue opened : AccountEntry ι) (row : AuthToken) (email : String) : Prop where
  issued : issuedBy issue = some row
  sent : (author requests issue).bind Request.address = some email
  opened : openedBy opened = some row.token

/-- The hash was stored by a registration before a link to its address was issued that has been opened, or by a
request that has opened such a link to reset the password. -/
inductive Vouched (history : List (AccountEntry ι)) (email passwordHash : String) : Prop
  | signup {opened issue write : AccountEntry ι} {row : AuthToken} {request : Request}
      (order : [opened, issue, write].Sublist history) (purpose : row.purpose = .verify)
      (link : OpenedLink requests issue opened row email) (stored : storedBy write = some (row.userId, passwordHash))
      (written : author requests write = some request) (address : request.address = some email)
      (hashed : request.hash bcrypt = some passwordHash)
  | reset {write opened issue : AccountEntry ι} {row : AuthToken} {request : Request}
      (order : [write, opened, issue].Sublist history) (purpose : row.purpose = .reset)
      (link : OpenedLink requests issue opened row email) (stored : storedBy write = some (row.userId, passwordHash))
      (written : author requests write = some request) (token : request.link = some (row.token, .reset))
      (hashed : request.hash bcrypt = some passwordHash)

def AccountStore.signsIn (s : AccountStore) (email password : String) : Bool :=
  (s.getUserByEmail email).any (·.accepts bcrypt password)

def PasswordsProve (s : AccountRecord ι) : Prop :=
  ∀ email password, s.state.signsIn bcrypt email password = true →
    ∃ passwordHash, bcrypt.checkpw password passwordHash = true ∧
      Vouched bcrypt requests s.history email passwordHash

/-- A registration stores its password in an unverified account under its own address, and a reset in an account
under the address of its link. A callback verifies no account with a password, and a link none whose password was
stored after it was issued. No account with a password gets another address. -/
def Careful (request : Request) (s : AccountRecord ι) : AccountCommand → Prop
  | .updateUserPassword userId _ => ∀ user ∈ s.state.users.lookup userId,
    (request.link = none → user.emailVerified = false ∧ user.email = request.address) ∧
    ∀ issue ∈ s.history, ∀ row ∈ issuedBy issue, request.link = some (row.token, row.purpose) →
      (author requests issue).bind Request.address = user.email
  | .markUserEmailVerified userId => ∀ user ∈ s.state.users.lookup userId,
    user.emailVerified = true ∨ user.passwordHash = none ∨ request.link.isSome = true ∧
      s.history.Pairwise fun write issue => ∀ stored ∈ storedBy write, ∀ row ∈ issuedBy issue,
        request.link = some (row.token, row.purpose) → stored.1 ≠ userId
  | .updateUserEmail userId _ => ∀ user ∈ s.state.users.lookup userId, user.passwordHash = none
  | _ => True

instance (request : Request) (s : AccountRecord ι) : DecidablePred (Careful requests request s)
  | .updateUserPassword userId _ => inferInstanceAs (Decidable (∀ user ∈ s.state.users.lookup userId, _ ∧ _))
  | .markUserEmailVerified userId => inferInstanceAs (Decidable (∀ user ∈ s.state.users.lookup userId, _ ∨ _))
  | .updateUserEmail userId _ => inferInstanceAs (Decidable (∀ user ∈ s.state.users.lookup userId, _ = _))
  | .getUserByEmail _ | .createUserWithEmail _ _ | .issueUserAuthToken _ _ _ | .sendAccountLink _ _ _
  | .consumeUserAuthToken _ _ | .getOrCreateUserByProviderId _ | .establish _ => isTrue trivial

def accountDiscipline : System.Discipline ι AccountCommand.Reply Error (AccountRecord ι) UnixTime where
  call proc command outcome s := outcome.executed = true → Careful requests (requests proc) s command
  environment _ _ := True

instance (proc : ι) (command : AccountCommand) (outcome : Outcome Error) (s : AccountRecord ι) :
    Decidable ((accountDiscipline requests).call proc command outcome s) :=
  inferInstanceAs (Decidable (outcome.executed = true → Careful requests (requests proc) s command))

instance (move : UnixTime) (s : AccountRecord ι) : Decidable ((accountDiscipline requests).environment move s) :=
  isTrue trivial

end Statements

/-! ## What a handler knows -/

section Protocol

variable (bcrypt : Bcrypt) (request : Request)

inductive Stage where
  | start
  | found (userId : Nat)
  | stored (userId : Nat)
  | opened (userId : Nat)

def accountProtocol : Protocol AccountCommand.Reply Error Stage where
  permits stage
    | .createUserWithEmail email passwordHash =>
      request.address = some email ∧ request.hash bcrypt = some passwordHash
    | .updateUserPassword userId passwordHash => request.hash bcrypt = some passwordHash ∧
      ((stage = .found userId ∧ ∃ email, request.address = some email) ∨
        stage = .opened userId ∧ ∃ token, request.link = some (token, .reset))
    | .issueUserAuthToken userId purpose _ =>
      (∃ email, request.address = some email) ∧ (purpose = .verify → stage = .stored userId)
    | .consumeUserAuthToken token purpose => request.link = some (token, purpose)
    | .markUserEmailVerified userId => ∀ token purpose, request.link = some (token, purpose) →
      purpose = .verify ∧ stage = .opened userId
    | _ => True
  next stage
    | .getUserByEmail _, .ok (some user) => .found user.id
    | .createUserWithEmail _ _, .ok (some user) => .stored user.id
    | .updateUserPassword userId _, .ok _ => .stored userId
    | .consumeUserAuthToken _ _, .ok (some user) => .opened user.id
    | _, _ => stage

variable {bcrypt request}

theorem Request.link_of_address {email : String} (h : request.address = some email) : request.link = none := by
  cases request <;> first | rfl | cases h

theorem obeys_establish (userId : Nat) (stage : Stage) :
    (establish userId).Obeys (accountProtocol bcrypt request) (fun _ _ => True) stage :=
  Program.obeys_call_bind trivial (fun _ => trivial) fun _ => trivial

theorem obeys_issueLink {userId ttlSeconds : Nat} {email address : String} {purpose : Purpose} {stage : Stage}
    (hAddress : request.address = some address) (hStage : purpose = .verify → stage = .stored userId) :
    (issueLink userId email purpose ttlSeconds).Obeys (accountProtocol bcrypt request) (fun _ _ => True) stage := by
  refine Program.obeys_call_bind ⟨⟨address, hAddress⟩, hStage⟩ (fun token => ?_) fun _ => trivial
  exact Program.obeys_call_bind trivial (fun _ => trivial) fun _ => trivial

theorem obeys_signIn {userId : Nat} {stage : Stage} (h : ∀ token purpose, request.link = some (token, purpose) →
    purpose = .verify ∧ stage = .opened userId) :
    (signIn userId).Obeys (accountProtocol bcrypt request) (fun _ _ => True) stage :=
  Program.obeys_call_bind h (fun _ => obeys_establish _ _) fun _ => trivial

theorem obeys_externalCallback (h : request.link = none) (providerId email : String) :
    (externalCallback providerId email).Obeys (accountProtocol bcrypt request) (fun _ _ => True) .start := by
  have hSignIn : ∀ userId stage, (signIn userId).Obeys (accountProtocol bcrypt request) (fun _ _ => True) stage := by
    intro userId stage
    refine obeys_signIn fun token purpose hLink => ?_
    cases h.symm.trans hLink
  refine Program.obeys_call_bind trivial (fun user => ?_) fun _ => trivial
  cases user with
  | some user => exact hSignIn _ _
  | none =>
    refine Program.obeys_call_bind trivial (fun userId => ?_) fun _ => trivial
    refine Program.obeys_call_bind trivial (fun updated => ?_) fun _ => trivial
    cases updated with
    | true => exact hSignIn _ _
    | false => trivial

theorem Request.obeys (bcrypt : Bcrypt) (request : Request) :
    (request.method bcrypt).Obeys (accountProtocol bcrypt request) (fun _ _ => True) .start := by
  cases request with
  | login admitted email password =>
    cases admitted with
    | false => trivial
    | true =>
      refine Program.obeys_call_bind trivial (fun user => ?_) fun _ => trivial
      cases user with
      | none => trivial
      | some user =>
        dsimp only
        split
        · exact obeys_establish _ _
        · trivial
  | signup admitted email password salt =>
    cases admitted with
    | false => trivial
    | true =>
      refine Program.obeys_call_bind trivial (fun user => ?_) fun _ => trivial
      cases user with
      | some user =>
        dsimp only
        split
        · trivial
        · refine Program.obeys_call_bind ⟨rfl, .inl ⟨rfl, _, rfl⟩⟩ (fun _ => ?_) fun _ => trivial
          exact obeys_issueLink rfl fun _ => rfl
      | none =>
        refine Program.obeys_call_bind ⟨rfl, rfl⟩ (fun created => ?_) fun _ => trivial
        cases created with
        | none => trivial
        | some user => exact obeys_issueLink rfl fun _ => rfl
  | verifyEmail token =>
    refine Program.obeys_call_bind rfl (fun user => ?_) fun _ => trivial
    cases user with
    | none => trivial
    | some user =>
      refine obeys_signIn fun token purpose hLink => ?_
      cases hLink
      exact ⟨rfl, rfl⟩
  | forgotPassword admitted email =>
    cases admitted with
    | false => trivial
    | true =>
      refine Program.obeys_call_bind trivial (fun user => ?_) fun _ => trivial
      cases user with
      | none => trivial
      | some user =>
        dsimp only
        split
        · exact obeys_issueLink rfl nofun
        · trivial
  | resetPassword admitted token password salt =>
    cases admitted with
    | false => trivial
    | true =>
      refine Program.obeys_call_bind rfl (fun user => ?_) fun _ => trivial
      cases user with
      | none => trivial
      | some user =>
        exact Program.obeys_call_bind ⟨rfl, .inr ⟨rfl, _, rfl⟩⟩ (fun _ => trivial) fun _ => trivial
  | googleCallback email sub => exact obeys_externalCallback rfl _ _
  | suiteCallback email sub => exact obeys_externalCallback rfl _ _

end Protocol

/-! ## What a step keeps -/

section Steps

variable {ι : Type} (bcrypt : Bcrypt) (requests : ι → Request)

def Owns (users : Table User.id) (userId : Nat) (email : String) : Prop :=
  ∃ user, users.lookup userId = some user ∧ user.email = some email ∧ user.passwordHash ≠ none

/-- No account is lost, and one with a password keeps one and its address. -/
def Keeps (users users' : Table User.id) : Prop :=
  ∀ userId user, users.lookup userId = some user → ∃ user', users'.lookup userId = some user' ∧
    (user.passwordHash ≠ none → user'.email = user.email ∧ user'.passwordHash ≠ none)

def SignedUp (history : List (AccountEntry ι)) (userId : Nat) (email passwordHash : String) : Prop :=
  ∃ write ∈ history, storedBy write = some (userId, passwordHash) ∧ ∃ request,
    author requests write = some request ∧ request.address = some email ∧ request.hash bcrypt = some passwordHash

def RowSound (history : List (AccountEntry ι)) (user : User) : Prop :=
  ∀ passwordHash, user.passwordHash = some passwordHash → ∃ email, user.email = some email ∧
    (Vouched bcrypt requests history email passwordHash ∨
      user.emailVerified = false ∧ SignedUp bcrypt requests history user.id email passwordHash)

/-- The issue of a link was asked for by a request for an address, which is that of the account if the link is to
verify it. -/
def Asked (users : Table User.id) (issue : AccountEntry ι) (row : AuthToken) (email : String) : Prop :=
  (author requests issue).bind Request.address = some email ∧ (row.purpose = .verify → Owns users row.userId email)

def Stage.Holds (request : Request) (users : Table User.id) (history : List (AccountEntry ι)) : Stage → Prop
  | .start => True
  | .found userId => (users.lookup userId).isSome = true
  | .stored userId => ∀ email, request.address = some email → Owns users userId email
  | .opened userId => ∃ newer issue older row opened email, history = newer ++ issue :: older ∧ opened ∈ newer ∧
      OpenedLink requests issue opened row email ∧ request.link = some (row.token, row.purpose) ∧ row.userId = userId

structure AccountsSound (s : AccountRecord ι) (stages : ι → Stage) : Prop where
  rows : ∀ userId user, s.state.users.lookup userId = some user → RowSound bcrypt requests s.history user
  asked : ∀ issue ∈ s.history, ∀ row, issuedBy issue = some row → ∃ email, Asked requests s.state.users issue row email
  stages : ∀ proc, (stages proc).Holds requests (requests proc) s.state.users s.history

variable {bcrypt requests} {s : AccountRecord ι} {stages : ι → Stage} {state : AccountStore} {entry : AccountEntry ι}

theorem Vouched.cons {history : List (AccountEntry ι)} {email passwordHash : String}
    (h : Vouched bcrypt requests history email passwordHash) (entry : AccountEntry ι) :
    Vouched bcrypt requests (entry :: history) email passwordHash := by
  cases h with
  | signup order purpose link stored written address hashed =>
    exact .signup (order.cons entry) purpose link stored written address hashed
  | reset order purpose link stored written token hashed =>
    exact .reset (order.cons entry) purpose link stored written token hashed

theorem RowSound.cons {history : List (AccountEntry ι)} {user : User} (h : RowSound bcrypt requests history user)
    (entry : AccountEntry ι) : RowSound bcrypt requests (entry :: history) user := by
  intro passwordHash hHash
  obtain ⟨email, hEmail, hVouched | ⟨hNot, write, hWrite, hSigned⟩⟩ := h passwordHash hHash
  · exact ⟨email, hEmail, .inl (hVouched.cons entry)⟩
  · exact ⟨email, hEmail, .inr ⟨hNot, write, List.mem_cons_of_mem _ hWrite, hSigned⟩⟩

theorem Keeps.refl (users : Table User.id) : Keeps users users := fun _ user hUser => ⟨user, hUser, fun h => ⟨rfl, h⟩⟩

theorem Owns.mono {users users' : Table User.id} (hKeeps : Keeps users users') {userId : Nat} {email : String}
    (h : Owns users userId email) : Owns users' userId email := by
  obtain ⟨user, hUser, hEmail, hPassword⟩ := h
  obtain ⟨user', hUser', hSame⟩ := hKeeps userId user hUser
  exact ⟨user', hUser', (hSame hPassword).1.trans hEmail, (hSame hPassword).2⟩

theorem Asked.mono {users users' : Table User.id} (hKeeps : Keeps users users') {issue : AccountEntry ι}
    {row : AuthToken} {email : String} (h : Asked requests users issue row email) :
    Asked requests users' issue row email :=
  ⟨h.1, fun hVerify => (h.2 hVerify).mono hKeeps⟩

theorem Stage.Holds.cons {request : Request} {users users' : Table User.id} {history : List (AccountEntry ι)}
    (hKeeps : Keeps users users') {stage : Stage}
    (h : stage.Holds requests request users history) (entry : AccountEntry ι) :
    stage.Holds requests request users' (entry :: history) := by
  cases stage with
  | start => trivial
  | found userId =>
    obtain ⟨user, hUser⟩ := Option.isSome_iff_exists.mp h
    obtain ⟨user', hUser', -⟩ := hKeeps userId user hUser
    exact Option.isSome_iff_exists.mpr ⟨user', hUser'⟩
  | stored userId => exact fun email hEmail => (h email hEmail).mono hKeeps
  | opened userId =>
    obtain ⟨newer, issue, older, row, opened, email, rfl, hOpened, hLink⟩ := h
    exact ⟨entry :: newer, issue, older, row, opened, email, rfl, List.mem_cons_of_mem _ hOpened, hLink⟩

theorem AccountsSound.step (h : AccountsSound bcrypt requests s stages)
    (hKeeps : Keeps s.state.users state.users) (hRows : ∀ userId user, state.users.lookup userId = some user →
      RowSound bcrypt requests (entry :: s.history) user)
    (hAsked : ∀ row, issuedBy entry = some row → ∃ email, Asked requests s.state.users entry row email) :
    AccountsSound bcrypt requests ⟨state, entry :: s.history⟩ stages where
  rows := hRows
  asked := by
    intro issue hIssue row hRow
    obtain rfl | hEarlier := List.mem_cons.mp hIssue
    · obtain ⟨email, hEmail⟩ := hAsked row hRow
      exact ⟨email, hEmail.mono hKeeps⟩
    · obtain ⟨email, hEmail⟩ := h.asked issue hEarlier row hRow
      exact ⟨email, hEmail.mono hKeeps⟩
  stages proc := (h.stages proc).cons hKeeps entry

theorem AccountsSound.same (h : AccountsSound bcrypt requests s stages) (hUsers : state.users = s.state.users)
    (hAsked : ∀ row, issuedBy entry = some row → ∃ email, Asked requests s.state.users entry row email) :
    AccountsSound bcrypt requests ⟨state, entry :: s.history⟩ stages :=
  h.step (hUsers ▸ Keeps.refl _) (fun userId user hUser => (h.rows userId user (hUsers ▸ hUser)).cons entry) hAsked

theorem AccountsSound.quiet (h : AccountsSound bcrypt requests s stages) (hUsers : state.users = s.state.users)
    (hIssue : issuedBy entry = none) : AccountsSound bcrypt requests ⟨state, entry :: s.history⟩ stages :=
  h.same hUsers fun _ hRow => by cases hIssue.symm.trans hRow

theorem AccountsSound.updateUser (h : AccountsSound bcrypt requests s stages) {userId : Nat} {f : User → User}
    (hId : ∀ user, (f user).id = user.id) (hIssue : issuedBy entry = none)
    (hUpdated : ∀ user, s.state.users.lookup userId = some user →
      (user.passwordHash ≠ none → (f user).email = user.email ∧ (f user).passwordHash ≠ none) ∧
        RowSound bcrypt requests (entry :: s.history) (f user)) :
    AccountsSound bcrypt requests ⟨s.state.updateUser userId f hId, entry :: s.history⟩ stages := by
  have hLookup : ∀ id, (s.state.updateUser userId f hId).users.lookup id =
      (s.state.users.lookup id).map fun user => if user.id = userId then f user else user := by
    intro id
    simp only [AccountStore.updateUser, Table.lookup_update]
  refine h.step (fun id user hUser => ?_) (fun id user hUser => ?_) fun row hRow => ?_
  · refine ⟨_, by rw [hLookup, hUser]; rfl, ?_⟩
    dsimp only
    split
    · next hHere =>
      obtain rfl : id = userId := (Table.key_of_lookup hUser).symm.trans hHere
      exact (hUpdated user hUser).1
    · exact fun hPassword => ⟨rfl, hPassword⟩
  · rw [hLookup] at hUser
    obtain ⟨found, hFound, rfl⟩ := Option.map_eq_some_iff.mp hUser
    split
    · next hHere =>
      obtain rfl : id = userId := (Table.key_of_lookup hFound).symm.trans hHere
      exact (hUpdated found hFound).2
    · exact (h.rows id found hFound).cons entry
  · cases hIssue.symm.trans hRow

theorem AccountStore.rows_insert (s : AccountStore) (providerId email passwordHash : Option String) :
    (s.users.insert (s.newUser providerId email passwordHash)).rows =
      s.newUser providerId email passwordHash :: s.users.rows :=
  Table.rows_insert (Table.nextKey_free s.users)

theorem AccountsSound.insert (h : AccountsSound bcrypt requests s stages) {providerId email passwordHash : Option String}
    (hIssue : issuedBy entry = none)
    (hRow : RowSound bcrypt requests (entry :: s.history) (s.state.newUser providerId email passwordHash)) :
    AccountsSound bcrypt requests
      ⟨{ s.state with users := s.state.users.insert (s.state.newUser providerId email passwordHash) },
        entry :: s.history⟩ stages := by
  refine h.step (fun id user hUser => ?_) (fun id user hUser => ?_) fun row hRow => ?_
  · exact ⟨user, Table.lookup_insert_of_some hUser, fun hPassword => ⟨rfl, hPassword⟩⟩
  · obtain ⟨hMem, hKey⟩ := Table.lookup_eq_some.mp hUser
    obtain rfl | hOld := List.mem_cons.mp (s.state.rows_insert _ _ _ ▸ hMem)
    · exact hRow
    · exact (h.rows id user (Table.lookup_eq_some.mpr ⟨hOld, hKey⟩)).cons entry
  · cases hIssue.symm.trans hRow

variable {proc : ι} {outcome : Outcome Error}

theorem AccountsSound.create (h : AccountsSound bcrypt requests s stages) {email passwordHash : String}
    (hEntry : entry = .call proc (.createUserWithEmail email passwordHash) outcome s.state)
    (hExecuted : outcome.executed = true)
    (hPermits : (accountProtocol bcrypt (requests proc)).permits (stages proc) (.createUserWithEmail email passwordHash)) :
    AccountsSound bcrypt requests
      ⟨(AccountStore.execute (.createUserWithEmail email passwordHash) s.state).2, entry :: s.history⟩ stages := by
  subst hEntry
  simp only [AccountStore.execute]
  split
  · exact h.quiet rfl rfl
  · next hFree =>
    refine h.insert rfl ?_
    rintro _ ⟨⟩
    refine ⟨email, rfl, .inr ⟨rfl, _, List.mem_cons_self, ?_, _, rfl, hPermits⟩⟩
    simpa [storedBy, hExecuted, AccountStore.newUser] using hFree

theorem AccountsSound.setPassword (h : AccountsSound bcrypt requests s stages) {userId : Nat} {passwordHash : String}
    (hEntry : entry = .call proc (.updateUserPassword userId passwordHash) outcome s.state)
    (hExecuted : outcome.executed = true)
    (hPermits : (accountProtocol bcrypt (requests proc)).permits (stages proc) (.updateUserPassword userId passwordHash))
    (hCareful : Careful requests (requests proc) s (.updateUserPassword userId passwordHash)) :
    AccountsSound bcrypt requests
      ⟨(AccountStore.execute (.updateUserPassword userId passwordHash) s.state).2, entry :: s.history⟩ stages := by
  subst hEntry
  refine h.updateUser (f := fun user => { user with passwordHash := some passwordHash }) (fun _ => rfl) rfl
    fun user hUser => ⟨fun _ => ⟨rfl, Option.some_ne_none _⟩, ?_⟩
  have hStored : storedBy (.call proc (.updateUserPassword userId passwordHash) outcome s.state : AccountEntry ι) =
      some (user.id, passwordHash) := by
    rw [Table.key_of_lookup hUser]
    simp [storedBy, hExecuted]
  obtain ⟨hSignup, hReset⟩ := hCareful user hUser
  rintro _ ⟨⟩
  obtain ⟨hHashed, ⟨-, email, hAddress⟩ | ⟨hStage, token, hReal⟩⟩ := hPermits
  · obtain ⟨hNot, hEmail⟩ := hSignup (Request.link_of_address hAddress)
    exact ⟨email, hEmail.trans hAddress, .inr ⟨hNot, _, List.mem_cons_self, hStored, _, rfl, hAddress, hHashed⟩⟩
  · have hHolds := h.stages proc
    rw [hStage] at hHolds
    obtain ⟨newer, issue, older, row, opened, email, hSplit, hOpened, hLink, hToken, rfl⟩ := hHolds
    have hIssue : issue ∈ s.history := hSplit ▸ List.mem_append_right _ List.mem_cons_self
    have hEmail := hReset issue hIssue row hLink.issued hToken
    obtain ⟨rfl, hPurpose⟩ := Prod.mk.inj (Option.some.inj (hReal.symm.trans hToken))
    have hOrder : [opened, issue].Sublist s.history := by
      rw [hSplit]
      exact (List.singleton_sublist.mpr hOpened).append (List.singleton_sublist.mpr List.mem_cons_self)
    rw [Table.key_of_lookup hUser] at hStored
    exact ⟨email, hEmail.symm.trans hLink.sent,
      .inl (.reset (hOrder.cons_cons _) hPurpose.symm hLink hStored rfl hReal hHashed)⟩

theorem issuedBy_of_storedBy {stored : Nat × String} (h : storedBy entry = some stored) : issuedBy entry = none := by
  cases entry with
  | environment move found => rfl
  | call proc command outcome found => cases command <;> first | rfl | cases h

theorem AccountsSound.verify (h : AccountsSound bcrypt requests s stages) {userId : Nat}
    (hEntry : entry = .call proc (.markUserEmailVerified userId) outcome s.state)
    (hPermits : (accountProtocol bcrypt (requests proc)).permits (stages proc) (.markUserEmailVerified userId))
    (hCareful : Careful requests (requests proc) s (.markUserEmailVerified userId)) :
    AccountsSound bcrypt requests ⟨(AccountStore.execute (.markUserEmailVerified userId) s.state).2, entry :: s.history⟩
      stages := by
  subst hEntry
  refine h.updateUser (f := fun user => { user with emailVerified := true }) (fun _ => rfl) rfl
    fun user hUser => ⟨fun hPassword => ⟨rfl, hPassword⟩, ?_⟩
  intro passwordHash hHash
  have hHash : user.passwordHash = some passwordHash := hHash
  obtain ⟨email, hEmail, hVouched | ⟨hNot, write, hWrite, hStored, request, hWritten, hTo, hHashed⟩⟩ :=
    h.rows userId user hUser passwordHash hHash
  · exact ⟨email, hEmail, .inl (hVouched.cons _)⟩
  obtain hVerified | hNone | ⟨hSome, hOlder⟩ := hCareful user hUser
  · cases hNot.symm.trans hVerified
  · cases hHash.symm.trans hNone
  obtain ⟨⟨token, purpose⟩, hToken⟩ := Option.isSome_iff_exists.mp hSome
  obtain ⟨rfl, hStage⟩ := hPermits token purpose hToken
  have hHolds := h.stages proc
  rw [hStage] at hHolds
  obtain ⟨newer, issue, older, row, opened, address, hSplit, hOpened, hLink, hRow, rfl⟩ := hHolds
  have hPurpose : row.purpose = .verify := by
    rw [hToken] at hRow
    exact (Prod.mk.inj (Option.some.inj hRow)).2.symm
  rw [Table.key_of_lookup hUser] at hStored
  -- the password was stored before the link was issued
  have hBefore : write ∈ older := by
    rw [hSplit] at hWrite
    obtain hNewer | hRest := List.mem_append.mp hWrite
    · rw [hSplit] at hOlder
      have hApart := (List.pairwise_append.mp hOlder).2.2 write hNewer issue List.mem_cons_self
      exact absurd rfl (hApart _ hStored row hLink.issued hRow)
    · obtain rfl | hOld := List.mem_cons.mp hRest
      · have hNone := hLink.issued
        rw [issuedBy_of_storedBy hStored] at hNone
        cases hNone
      · exact hOld
  have hOrder : [opened, issue, write].Sublist s.history := by
    rw [hSplit]
    exact (List.singleton_sublist.mpr hOpened).append ((List.singleton_sublist.mpr hBefore).cons_cons issue)
  -- the link was sent to the address of the account
  obtain ⟨email', hSent, hOwns⟩ := h.asked issue (hSplit ▸ List.mem_append_right _ List.mem_cons_self) row hLink.issued
  obtain ⟨owner, hOwner, hAddress, -⟩ := hOwns hPurpose
  obtain rfl : owner = user := Option.some.inj (hOwner.symm.trans hUser)
  obtain rfl : email' = email := Option.some.inj (hAddress.symm.trans hEmail)
  obtain rfl : address = email' := Option.some.inj (hLink.sent.symm.trans hSent)
  exact ⟨address, hEmail, .inl (.signup (hOrder.cons _) hPurpose hLink hStored hWritten hTo hHashed)⟩

theorem AccountsSound.executed (h : AccountsSound bcrypt requests s stages) (command : AccountCommand)
    (hEntry : entry = .call proc command outcome s.state) (hExecuted : outcome.executed = true)
    (hPermits : (accountProtocol bcrypt (requests proc)).permits (stages proc) command)
    (hCareful : Careful requests (requests proc) s command) :
    AccountsSound bcrypt requests ⟨(AccountStore.execute command s.state).2, entry :: s.history⟩ stages := by
  subst hEntry
  cases command with
  | createUserWithEmail email passwordHash => exact h.create rfl hExecuted hPermits
  | updateUserPassword userId passwordHash => exact h.setPassword rfl hExecuted hPermits hCareful
  | markUserEmailVerified userId => exact h.verify rfl hPermits hCareful
  | issueUserAuthToken userId purpose ttlSeconds =>
    refine h.same rfl fun row hRow => ?_
    simp only [issuedBy, hExecuted, if_true] at hRow
    cases hRow
    obtain ⟨⟨email, hAddress⟩, hStage⟩ := hPermits
    refine ⟨email, hAddress, fun hVerify => ?_⟩
    have hHolds := h.stages proc
    rw [hStage hVerify] at hHolds
    exact hHolds email hAddress
  | getOrCreateUserByProviderId providerId =>
    simp only [AccountStore.execute]
    split
    · exact h.quiet rfl rfl
    · exact h.insert rfl (by rintro _ ⟨⟩)
  | updateUserEmail userId email =>
    simp only [AccountStore.execute]
    split
    · exact h.quiet rfl rfl
    · refine h.updateUser (f := fun user => { user with email := some email }) (fun _ => rfl) rfl fun user hUser =>
        ⟨fun hPassword => absurd (hCareful user hUser) hPassword, fun passwordHash hHash => ?_⟩
      cases hHash.symm.trans (hCareful user hUser)
  | consumeUserAuthToken token purpose =>
    refine h.quiet ?_ rfl
    simp only [AccountStore.execute]
    split <;> rfl
  | _ => exact h.quiet rfl rfl

theorem AccountsSound.replied (h : AccountsSound bcrypt requests s stages) (command : AccountCommand)
    (hEntry : entry = .call proc command .reply s.state)
    (hPermits : (accountProtocol bcrypt (requests proc)).permits (stages proc) command) (hKnown : LinksKnown s)
    (hCareful : Careful requests (requests proc) s command)
    (hSame : (stages proc).Holds requests (requests proc) (AccountStore.execute command s.state).2.users
      (entry :: s.history)) : ((accountProtocol bcrypt (requests proc)).next (stages proc) command
      (.ok (AccountStore.execute command s.state).1)).Holds requests (requests proc)
      (AccountStore.execute command s.state).2.users (entry :: s.history) := by
  have hHolds := h.stages proc
  cases command with
  | getUserByEmail email =>
    cases hUser : s.state.getUserByEmail email with
    | none =>
      simp only [AccountStore.execute, accountProtocol, hUser]
      exact hSame
    | some user =>
      simp only [AccountStore.execute, accountProtocol, hUser]
      exact Option.isSome_iff_exists.mpr ⟨user, Table.lookup_of_mem (List.mem_of_find?_eq_some hUser)⟩
  | createUserWithEmail email passwordHash =>
    by_cases hTaken : (s.state.getUserByEmail email).isSome = true
    · simp only [AccountStore.execute, if_pos hTaken] at hSame ⊢
      exact hSame
    · simp only [AccountStore.execute, if_neg hTaken]
      intro address hAddress
      obtain rfl : email = address := Option.some.inj (hPermits.1.symm.trans hAddress)
      exact ⟨_, Table.lookup_eq_some.mpr ⟨s.state.rows_insert _ _ _ ▸ List.mem_cons_self, rfl⟩, rfl,
        Option.some_ne_none _⟩
  | updateUserPassword userId passwordHash =>
    intro address hAddress
    have hLink := Request.link_of_address hAddress
    obtain ⟨-, ⟨hStage, -⟩ | ⟨-, token, hToken⟩⟩ := hPermits
    · rw [hStage] at hHolds
      obtain ⟨user, hUser⟩ := Option.isSome_iff_exists.mp hHolds
      have hEmail := ((hCareful user hUser).1 hLink).2.trans hAddress
      refine ⟨{ user with passwordHash := some passwordHash }, ?_, hEmail, Option.some_ne_none _⟩
      simp only [AccountStore.execute, AccountStore.updateUser, Table.lookup_update, hUser, Option.map_some,
        if_pos (Table.key_of_lookup hUser)]
    · cases hLink.symm.trans hToken
  | consumeUserAuthToken token purpose =>
    subst hEntry
    cases hFind : s.state.tokens.find? (·.usable token purpose s.state.clock) with
    | none =>
      simp only [AccountStore.execute, hFind] at hSame ⊢
      exact hSame
    | some row =>
      simp only [AccountStore.execute, hFind] at hSame ⊢
      cases hUser : s.state.users.lookup row.userId with
      | none => exact hSame
      | some user =>
        obtain ⟨hMem, hUsable, hOpen⟩ := openedBy_consume proc (rfl : Outcome.executed .reply = true) hFind
        obtain ⟨rfl, rfl, hUnused, -⟩ := AuthToken.usable_iff.mp hUsable
        obtain ⟨newer, issue, older, hNewest⟩ := hKnown.newest row hMem hUnused
        have hIssue : issue ∈ s.history := hNewest.split ▸ List.mem_append_right _ List.mem_cons_self
        obtain ⟨email, hSent, -⟩ := h.asked issue hIssue row hNewest.issued
        exact ⟨_ :: newer, issue, older, row, _, email, congrArg (_ :: ·) hNewest.split, List.mem_cons_self,
          ⟨hNewest.issued, hSent, hOpen⟩, hPermits, (Table.key_of_lookup hUser).symm⟩
  | _ => exact hSame

theorem AccountsSound.perform [DecidableEq ι] (h : AccountsSound bcrypt requests s stages) (proc : ι)
    (command : AccountCommand) (outcome : Outcome Error) (hKnown : LinksKnown s)
    (hPermits : (accountProtocol bcrypt (requests proc)).permits (stages proc) command)
    (hCareful : outcome.executed = true → Careful requests (requests proc) s command) :
    AccountsSound bcrypt requests ((accountServices ι).recorded.perform proc command outcome s).2
      (Function.update stages proc ((accountProtocol bcrypt (requests proc)).next (stages proc) command
        ((accountServices ι).recorded.perform proc command outcome s).1)) := by
  rw [perform_accounts]
  have hStep : AccountsSound bcrypt requests
      ⟨if outcome.executed then (AccountStore.execute command s.state).2 else s.state,
        .call proc command outcome s.state :: s.history⟩ stages := by
    cases hExecuted : outcome.executed with
    | true =>
      exact h.executed command rfl hExecuted hPermits (hCareful hExecuted)
    | false =>
      refine h.same rfl fun row hRow => ?_
      cases command <;> simp [issuedBy, hExecuted] at hRow
  refine ⟨hStep.rows, hStep.asked, fun other => ?_⟩
  by_cases hOther : other = proc
  · subst hOther
    rw [Function.update_self]
    cases outcome with
    | reply => exact h.replied command rfl hPermits hKnown (hCareful rfl) (hStep.stages other)
    | fail error applied => cases command <;> exact hStep.stages other
  · rw [Function.update_of_ne hOther]
    exact hStep.stages other

end Steps

/-- In every run whose password writes and verifications are careful, a password lets somebody in only when the
address has vouched for it. -/
theorem passwords_prove {ι : Type} [DecidableEq ι] (bcrypt : Bcrypt) (requests : ι → Request) (clock : UnixTime)
    {events : List (Event ι Error UnixTime)}
    {last : Config ι AccountCommand.Reply Error Bool (AccountRecord ι)}
    (hFollows : (accountServices ι).recorded.Follows (accountDiscipline requests)
      (accountRequests bcrypt requests clock) events)
    (hRun : (accountServices ι).recorded.run (accountRequests bcrypt requests clock) events = some last) :
    PasswordsProve bcrypt requests last.shared := by
  have hEnd : ∃ stages, (LinksKnown last.shared ∧ AccountsSound bcrypt requests last.shared stages) ∧ ∀ proc,
      (last.procs proc).Obeys (accountProtocol bcrypt (requests proc)) (fun _ _ => True) (stages proc) := by
    refine System.ghost_invariant (P := fun proc => accountProtocol bcrypt (requests proc))
      (J := fun s stages => LinksKnown s ∧ AccountsSound bcrypt requests s stages) ?_ ?_ hFollows hRun
      (fun proc => (requests proc).obeys bcrypt) ?_
    · rintro proc command outcome s stages ⟨hKnown, h⟩ hPermits hCareful
      exact ⟨hKnown.perform proc command outcome, h.perform proc command outcome hKnown hPermits hCareful⟩
    · rintro move s s' stages ⟨hKnown, h⟩ _ hMove
      refine ⟨hKnown.environment hMove, ?_⟩
      obtain ⟨state, hState, rfl⟩ := Option.map_eq_some_iff.mp hMove
      obtain ⟨-, hState⟩ := Option.ite_none_right_eq_some.mp hState
      cases hState
      exact h.quiet rfl rfl
    · exact ⟨linksKnown_empty clock, nofun, nofun, fun _ => trivial⟩
  obtain ⟨stages, ⟨-, hSound⟩, -⟩ := hEnd
  intro email password hSigns
  obtain ⟨user, hUser, hAccepts⟩ := (Option.any_eq_true _ _).mp hSigns
  obtain ⟨hPassword, hVerified⟩ := Bool.and_eq_true_iff.mp hAccepts
  obtain ⟨passwordHash, hHash, hChecks⟩ := (Option.any_eq_true _ _).mp hPassword
  have hEmail : user.email = some email :=
    of_decide_eq_true (List.find?_some (p := fun user : User => decide (user.email = some email)) hUser)
  obtain ⟨address, hAddress, hVouched | ⟨hNot, -⟩⟩ :=
    hSound.rows user.id user (Table.lookup_of_mem (List.mem_of_find?_eq_some hUser)) passwordHash hHash
  · obtain rfl : address = email := Option.some.inj (hAddress.symm.trans hEmail)
    exact ⟨passwordHash, hChecks, hVouched⟩
  · cases hVerified.symm.trans hNot

theorem passwords_prove_newcomer : ∃ last, newcomerRun = some last ∧ ∃ passwordHash,
    plainBcrypt.checkpw "correct horse" passwordHash = true ∧
      Vouched plainBcrypt newcomer last.shared.history "owner@example.com" passwordHash := by
  have hEnds : newcomerRun.any (·.shared.state.signsIn plainBcrypt "owner@example.com" "correct horse") = true := by
    decide +kernel
  obtain ⟨last, hRun, hSigns⟩ := (Option.any_eq_true _ _).mp hEnds
  exact ⟨last, hRun, passwords_prove plainBcrypt newcomer ⟨1, UnixTime.one_pos⟩ (by decide +kernel) hRun _ _ hSigns⟩

end FastVoice.Accounts
