import FastVoice.Runtime
import FastVoice.Sql.Table

/-! # The account flows of the web interface

A transaction is one step. An address is taken as the handlers normalize it, without spaces around it and in
lower case. The secret of a link, of which the database keeps the digest, is taken to be new.
-/
namespace FastVoice.Accounts
open Async Sql

structure User where
  id : Nat
  /-- `none` for the id `oss_...` that belongs to no provider. -/
  providerId : Option String
  email : Option String
  passwordHash : Option String
  emailVerified : Bool

inductive Purpose where
  | verify
  | reset
  deriving DecidableEq

structure AuthToken where
  token : Nat
  userId : Nat
  purpose : Purpose
  expiresAt : UnixTime
  usedAt : Option UnixTime

def AuthToken.usable (row : AuthToken) (token : Nat) (purpose : Purpose) (now : UnixTime) : Bool :=
  row.token = token && row.purpose = purpose && row.usedAt.isNone && now.val < row.expiresAt.val

structure AccountStore where
  users : Table User.id
  tokens : List AuthToken
  /-- How many links have been issued. -/
  issued : Nat
  clock : UnixTime

inductive AccountCommand where
  | getUserByEmail (email : String)
  | createUserWithEmail (email : String) (passwordHash : String)
  | updateUserPassword (userId : Nat) (passwordHash : String)
  | issueUserAuthToken (userId : Nat) (purpose : Purpose) (ttlSeconds : Nat)
  | sendAccountLink (email : String) (purpose : Purpose) (token : Nat)
  | consumeUserAuthToken (token : Nat) (purpose : Purpose)
  | markUserEmailVerified (userId : Nat)
  | getOrCreateUserByProviderId (providerId : String)
  | updateUserEmail (userId : Nat) (email : String)
  /-- `_establish`, which writes nothing to the tables of users and of links. -/
  | establish (userId : Nat)

/-- Where the index on the addresses refuses a row, `none` or `false` is replied. -/
abbrev AccountCommand.Reply : AccountCommand → Type
  | .getUserByEmail _ => Option User
  | .createUserWithEmail _ _ => Option User
  | .issueUserAuthToken _ _ _ => Nat
  | .consumeUserAuthToken _ _ => Option User
  | .getOrCreateUserByProviderId _ => Nat
  | .updateUserEmail _ _ => Bool
  | _ => Unit

namespace AccountStore

def getUserByEmail (s : AccountStore) (email : String) : Option User :=
  s.users.rows.find? fun user => user.email = some email

def updateUser (s : AccountStore) (userId : Nat) (f : User → User) (hId : ∀ user, (f user).id = user.id) :
    AccountStore :=
  { s with
    users := s.users.update (fun user => if user.id = userId then f user else user) fun user => by
      split
      · exact hId user
      · rfl }

def newToken (s : AccountStore) (userId : Nat) (purpose : Purpose) (ttlSeconds : Nat) : AuthToken :=
  ⟨s.issued, userId, purpose, ⟨s.clock.val + ttlSeconds, UnixTime.add_pos s.clock ttlSeconds⟩, none⟩

def markUsed (s : AccountStore) (token : Nat) : AccountStore :=
  { s with tokens := s.tokens.map fun row => if row.token = token then { row with usedAt := some s.clock } else row }

def newUser (s : AccountStore) (providerId email : Option String) (passwordHash : Option String) : User :=
  ⟨s.users.nextKey, providerId, email, passwordHash, false⟩

def execute : (command : AccountCommand) → AccountStore → command.Reply × AccountStore
  | .getUserByEmail email, s => (s.getUserByEmail email, s)
  | .createUserWithEmail email passwordHash, s =>
    if (s.getUserByEmail email).isSome then (none, s)
    else
      let user := s.newUser none (some email) (some passwordHash)
      (some user, { s with users := s.users.insert user })
  | .updateUserPassword userId passwordHash, s =>
    ((), s.updateUser userId ({ · with passwordHash := some passwordHash }) fun _ => rfl)
  | .issueUserAuthToken userId purpose ttlSeconds, s =>
    (s.issued, { s with
      tokens := s.newToken userId purpose ttlSeconds ::
        s.tokens.filter fun row => !(row.userId = userId && row.purpose = purpose && row.usedAt.isNone)
      issued := s.issued + 1 })
  | .sendAccountLink _ _ _, s => ((), s)
  | .consumeUserAuthToken token purpose, s =>
    match s.tokens.find? (·.usable token purpose s.clock) with
    | none => (none, s)
    | some row => (s.users.lookup row.userId, s.markUsed token)
  | .markUserEmailVerified userId, s => ((), s.updateUser userId ({ · with emailVerified := true }) fun _ => rfl)
  | .getOrCreateUserByProviderId providerId, s =>
    match s.users.rows.find? fun user => user.providerId = some providerId with
    | some user => (user.id, s)
    | none =>
      let user := s.newUser (some providerId) none none
      (user.id, { s with users := s.users.insert user })
  | .updateUserEmail userId email, s =>
    if (s.users.rows.any fun user => user.email = some email && user.id ≠ userId) then (false, s)
    else (true, s.updateUser userId ({ · with email := some email }) fun _ => rfl)
  | .establish _, s => ((), s)

def environment (now : UnixTime) (s : AccountStore) : Option AccountStore :=
  if s.clock.val ≤ now.val then some { s with clock := now } else none

/-- No accounts yet. -/
def empty (clock : UnixTime) : AccountStore := ⟨.empty, [], 0, clock⟩

end AccountStore

/-- Passwords are hashed with a salt. -/
structure Bcrypt where
  hashpw : String → Nat → String
  checkpw : String → String → Bool

/-- A request that is `admitted` has passed the checks of its form, of its CSRF token and of its rate. A callback
has an identity that its provider has verified, and that is allowed. -/
inductive Request where
  | login (admitted : Bool) (email password : String)
  | signup (admitted : Bool) (email password : String) (salt : Nat)
  | verifyEmail (token : Nat)
  | forgotPassword (admitted : Bool) (email : String)
  | resetPassword (admitted : Bool) (token : Nat) (password : String) (salt : Nat)
  | googleCallback (email sub : String)
  | suiteCallback (email sub : String)

abbrev AccountMethod := Program AccountCommand.Reply Error

section Handlers

open Program

variable (bcrypt : Bcrypt)

def User.accepts (user : User) (password : String) : Bool :=
  user.passwordHash.any (bcrypt.checkpw password) && user.emailVerified

/-- Each handler returns whether it has signed somebody in. -/
def establish (userId : Nat) : AccountMethod Bool := do
  let _ : Unit ← call (AccountCommand.establish userId)
  return true

def loginPost (email password : String) : AccountMethod Bool := do
  let user ← call (AccountCommand.getUserByEmail email)
  match user with
  | none => return false
  | some user => if user.accepts bcrypt password then establish user.id else return false

def issueLink (userId : Nat) (email : String) (purpose : Purpose) (ttlSeconds : Nat) : AccountMethod Bool := do
  let token ← call (AccountCommand.issueUserAuthToken userId purpose ttlSeconds)
  let _ : Unit ← call (AccountCommand.sendAccountLink email purpose token)
  return false

def signupPost (email : String) (passwordHash : String) : AccountMethod Bool := do
  let user ← call (AccountCommand.getUserByEmail email)
  match user with
  | some user =>
    if user.emailVerified then return false
    else do
      let _ : Unit ← call (AccountCommand.updateUserPassword user.id passwordHash)
      issueLink user.id email .verify (24 * 3600)
  | none => do
    let created ← call (AccountCommand.createUserWithEmail email passwordHash)
    match created with
    | none => .raise .exception
    | some user => issueLink user.id email .verify (24 * 3600)

def verifyEmail (token : Nat) : AccountMethod Bool := do
  let user ← call (AccountCommand.consumeUserAuthToken token .verify)
  match user with
  | none => return false
  | some user => do
    let _ : Unit ← call (AccountCommand.markUserEmailVerified user.id)
    establish user.id

def forgotPasswordPost (email : String) : AccountMethod Bool := do
  let user ← call (AccountCommand.getUserByEmail email)
  match user with
  | none => return false
  | some user => if user.emailVerified then issueLink user.id email .reset 3600 else return false

def resetPasswordPost (token : Nat) (passwordHash : String) : AccountMethod Bool := do
  let user ← call (AccountCommand.consumeUserAuthToken token .reset)
  match user with
  | none => return false
  | some user => do
    let _ : Unit ← call (AccountCommand.updateUserPassword user.id passwordHash)
    return false

def signIn (userId : Nat) : AccountMethod Bool := do
  let _ : Unit ← call (AccountCommand.markUserEmailVerified userId)
  establish userId

/-- What `google_callback` and `suite_callback` do with an identity. -/
def externalCallback (providerId email : String) : AccountMethod Bool := do
  let user ← call (AccountCommand.getUserByEmail email)
  match user with
  | some user => signIn user.id
  | none => do
    let userId ← call (AccountCommand.getOrCreateUserByProviderId providerId)
    let updated : Bool ← call (AccountCommand.updateUserEmail userId email)
    if updated then signIn userId else .raise .exception

def googleCallback (email sub : String) : AccountMethod Bool := externalCallback s!"google_{sub}" email

def suiteCallback (email sub : String) : AccountMethod Bool := externalCallback s!"fastoffice_{sub}" email

def Request.method : Request → AccountMethod Bool
  | .login admitted email password => if admitted then loginPost bcrypt email password else .ret false
  | .signup admitted email password salt =>
    if admitted then signupPost email (bcrypt.hashpw password salt) else .ret false
  | .verifyEmail token => Accounts.verifyEmail token
  | .forgotPassword admitted email => if admitted then forgotPasswordPost email else .ret false
  | .resetPassword admitted token password salt =>
    if admitted then resetPasswordPost token (bcrypt.hashpw password salt) else .ret false
  | .googleCallback email sub => Accounts.googleCallback email sub
  | .suiteCallback email sub => Accounts.suiteCallback email sub

end Handlers

def accountServices (ι : Type) : System ι AccountCommand.Reply Error AccountStore UnixTime :=
  .ofServer AccountStore.execute AccountStore.environment

end FastVoice.Accounts
