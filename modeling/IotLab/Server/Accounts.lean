import IotLab.Server.Store
import Mathlib.Data.List.AList

/-!
# Accounts and sessions

`AccountManager` changes the table of the members through `MemberDAO`, and `tryLogin`
puts the member that it has found into the session.  The session keeps this object:
it is not read again from the table.
-/

namespace IotLab.Server

/-- A row of the table `Member`; the password is its hash. -/
structure Member where
  username : Text
  password : Text
  email : Text
  admin : Bool
  deriving Repr, DecidableEq

/-- The table `Member`: the username is the primary key. -/
structure MemberTable where
  rows : AList fun _ : Text => Member
  keyed : ∀ username member, rows.lookup username = some member →
    member.username = username

/-- The attributes of a `HttpSession`. -/
structure HttpSession where
  user : Option Member := none
  ip : Option Text := none
  deriving Repr, DecidableEq

namespace MemberTable

/-- `MemberDAO.find(username)`. -/
def find (table : MemberTable) (username : Text) : Except Failure Member :=
  match table.rows.lookup username with
  | none => .error (.dao "MemberDAO".toList
      ("Member ".toList ++ username ++ " not found".toList))
  | some member => .ok member

/-- `MemberDAO.find(username, password)`. -/
def findBoth (table : MemberTable) (username password : Text) : Except Failure Member :=
  match table.rows.lookup username with
  | none => .error (.dao "MemberDAO".toList
      ("No result for username=".toList ++ username ++ "and password provided".toList))
  | some member =>
      if member.password = password then .ok member
      else .error (.dao "MemberDAO".toList
        ("No result for username=".toList ++ username ++ "and password provided".toList))

theorem keyed_insert (table : MemberTable) (member : Member) (username : Text)
    (found : Member)
    (lookup : (table.rows.insert member.username member).lookup username = some found) :
    found.username = username := by
  by_cases same : username = member.username
  · subst same
    rw [AList.lookup_insert, Option.some.injEq] at lookup
    rw [← lookup]
  · rw [AList.lookup_insert_ne same] at lookup
    exact table.keyed username found lookup

theorem keyed_erase (table : MemberTable) (removed username : Text) (found : Member)
    (lookup : (table.rows.erase removed).lookup username = some found) :
    found.username = username := by
  by_cases same : username = removed
  · subst same
    rw [AList.lookup_erase] at lookup
    cases lookup
  · rw [AList.lookup_erase_ne same] at lookup
    exact table.keyed username found lookup

/-- `persist` of a new member and `merge` of a known one. -/
def merge (table : MemberTable) (member : Member) : MemberTable where
  rows := table.rows.insert member.username member
  keyed := table.keyed_insert member

/-- `MemberDAO.remove`. -/
def remove (table : MemberTable) (member : Member) : MemberTable where
  rows := table.rows.erase member.username
  keyed := table.keyed_erase member.username

section Lookup

variable {table : MemberTable} {member : Member} {username : Text}

theorem lookup_merge_of_eq (same : username = member.username) :
    (table.merge member).rows.lookup username = some member := by
  subst same
  exact AList.lookup_insert _

theorem lookup_merge_of_ne (different : username ≠ member.username) :
    (table.merge member).rows.lookup username = table.rows.lookup username :=
  AList.lookup_insert_ne different

theorem lookup_remove_of_eq (same : username = member.username) :
    (table.remove member).rows.lookup username = none := by
  subst same
  exact AList.lookup_erase _ _

theorem lookup_remove_of_ne (different : username ≠ member.username) :
    (table.remove member).rows.lookup username = table.rows.lookup username :=
  AList.lookup_erase_ne different

theorem find_eq_ok_iff : table.find username = .ok member ↔
    table.rows.lookup username = some member := by
  rw [find]
  cases table.rows.lookup username with
  | none => simp
  | some found => simp

theorem lookup_of_findBoth {password : Text}
    (found : table.findBoth username password = .ok member) :
    table.rows.lookup username = some member := by
  rw [findBoth] at found
  cases lookup : table.rows.lookup username with
  | none => simp [lookup] at found
  | some account =>
      rw [lookup] at found
      by_cases same : account.password = password
      · simpa [same] using found
      · simp [same] at found

end Lookup

end MemberTable

/-- `AccountManager.isLoggedIn`. -/
def isLoggedIn (session : HttpSession) : Bool := session.user.isSome

/-- `AccountManager.isAdmin`. -/
def isAdmin (session : HttpSession) : Bool :=
  match session.user with
  | none => false
  | some member => member.admin

/-- The accounts and the sessions of the server. -/
structure AccountState (ι : Type*) where
  members : MemberTable
  sessions : ι → HttpSession

/-- The message of a `Failure` of a DAO. -/
def Failure.message : Failure → Text
  | .dao _ message => message
  | .invalidData message => message
  | .numberFormat | .indexOutOfBounds | .classCast | .duplicateMote => []

/-- A call of a method of `AccountManager`. -/
inductive AccountAction (ι : Type*) where
  | tryLogin (session : ι) (username password ip : Text)
  | logout (session : ι)
  | tryRegister (username password email : Text) (admin : Bool)
  | update (username password email : Text) (admin : Bool)
  | remove (username : Text)
  deriving Repr, DecidableEq

section Manager

variable {ι : Type*} [DecidableEq ι] (sha1 : Text → Text)

/-- `AccountManager.hash`; `sha1` is the hexadecimal digest. -/
def hash (password : Text) : Text := sha1 ("CC2420".toList ++ password)

namespace AccountState

/-- `AccountManager.tryLogin`: the message of an `AccountException` or the next
state. -/
def tryLogin (state : AccountState ι) (session : ι) (username password ip : Text) :
    Except Text (AccountState ι) :=
  match state.members.findBoth username (hash sha1 password) with
  | .error _ => .error "Wrong username or password".toList
  | .ok member =>
      .ok { state with
        sessions := Function.update state.sessions session ⟨some member, some ip⟩ }

/-- `AccountManager.logout`. -/
def logout (state : AccountState ι) (session : ι) : AccountState ι :=
  { state with
    sessions := Function.update state.sessions session
      { state.sessions session with user := none } }

/-- `AccountManager.tryRegister`. -/
def tryRegister (state : AccountState ι) (username password email : Text) (admin : Bool) :
    Except Text (AccountState ι) :=
  match state.members.find username with
  | .ok _ => .error "This username is unavailable".toList
  | .error _ =>
      .ok { state with
        members := state.members.merge ⟨username, hash sha1 password, email, admin⟩ }

/-- `AccountManager.update`: an empty password is not set. -/
def update (state : AccountState ι) (username password email : Text) (admin : Bool) :
    Except Text (AccountState ι) :=
  match state.members.find username with
  | .error failure => .error failure.message
  | .ok member =>
      .ok { state with
        members := state.members.merge { member with
          password := if 0 < password.length then hash sha1 password else member.password
          email
          admin } }

/-- `AccountManager.remove`. -/
def remove (state : AccountState ι) (username : Text) : Except Text (AccountState ι) :=
  match state.members.find username with
  | .error failure => .error failure.message
  | .ok member => .ok { state with members := state.members.remove member }

/-- The call of a method. -/
def call (state : AccountState ι) : AccountAction ι → Except Text (AccountState ι)
  | .tryLogin session username password ip => state.tryLogin sha1 session username password ip
  | .logout session => .ok (state.logout session)
  | .tryRegister username password email admin =>
      state.tryRegister sha1 username password email admin
  | .update username password email admin => state.update sha1 username password email admin
  | .remove username => state.remove username

end AccountState

/-- A step of the server: an `AccountException` leaves the state as it is. -/
def accountStep (state : AccountState ι) (action : AccountAction ι) :
    Option (AccountState ι) :=
  match state.call sha1 action with
  | .error _ => some state
  | .ok next => some next

end Manager

end IotLab.Server
