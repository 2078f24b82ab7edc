import IotLab.Library.Runs
import IotLab.Server.Accounts
import Mathlib.Data.Fintype.Basic

/-!
# Privileges of sessions

A session is checked with the member that `tryLogin` has put into it.  The accounts can
change behind its back: a removed account stays logged in, and an account that has lost
the admin flag keeps it in the session.
-/

namespace IotLab.Server

open IotLab.Library

/-- Who is logged in has an account, and who is an admin has one with the flag. -/
structure Follows {ι : Type*} (state : AccountState ι) : Prop where
  loggedIn : ∀ session, isLoggedIn (state.sessions session) = true →
    ∃ member account, (state.sessions session).user = some member ∧
      state.members.find member.username = .ok account
  admin : ∀ session, isAdmin (state.sessions session) = true →
    ∃ member account, (state.sessions session).user = some member ∧
      state.members.find member.username = .ok account ∧ account.admin = true

/-- No account is removed while a session is logged in with it, and none loses the
admin flag while a session is logged in with it as an admin. -/
def RespectsSessions {ι : Type*} (state : AccountState ι) : AccountAction ι → Prop
  | .remove username =>
      ∀ session, ∀ member ∈ (state.sessions session).user, member.username ≠ username
  | .update username _ _ admin =>
      ∀ session, ∀ member ∈ (state.sessions session).user,
        member.username = username → member.admin = true → admin = true
  | .tryLogin .. | .logout _ | .tryRegister .. => True

instance {ι : Type*} [Fintype ι] (state : AccountState ι) :
    (action : AccountAction ι) → Decidable (RespectsSessions state action)
  | .remove username => inferInstanceAs (Decidable
      (∀ session, ∀ member ∈ (state.sessions session).user, member.username ≠ username))
  | .update username _ _ admin => inferInstanceAs (Decidable
      (∀ session, ∀ member ∈ (state.sessions session).user,
        member.username = username → member.admin = true → admin = true))
  | .tryLogin .. | .logout _ | .tryRegister .. => isTrue trivial

/-! ## Members that their account backs -/

/-- The account of a member is there, with the admin flag if the member has it. -/
def MemberTable.Backs (table : MemberTable) (member : Member) : Prop :=
  ∃ account, table.rows.lookup member.username = some account ∧
    (member.admin = true → account.admin = true)

section Tables

variable {table : MemberTable} {member : Member}

theorem MemberTable.backs_of_lookup {username : Text}
    (found : table.rows.lookup username = some member) : table.Backs member := by
  refine ⟨member, ?_, id⟩
  rw [table.keyed username member found]
  exact found

theorem MemberTable.backs_merge_of_same {stored : Member}
    (same : member.username = stored.username) :
    (table.merge stored).Backs member ↔ (member.admin = true → stored.admin = true) := by
  simp [MemberTable.Backs, MemberTable.lookup_merge_of_eq same]

theorem MemberTable.backs_merge_of_ne {stored : Member}
    (different : member.username ≠ stored.username) :
    (table.merge stored).Backs member ↔ table.Backs member := by
  rw [MemberTable.Backs, MemberTable.lookup_merge_of_ne different, MemberTable.Backs]

theorem MemberTable.backs_remove_iff {removed : Member} :
    (table.remove removed).Backs member ↔
      member.username ≠ removed.username ∧ table.Backs member := by
  by_cases same : member.username = removed.username
  · simp [MemberTable.Backs, MemberTable.lookup_remove_of_eq same, same]
  · rw [MemberTable.Backs, MemberTable.lookup_remove_of_ne same, ← MemberTable.Backs,
      and_iff_right same]

theorem MemberTable.Backs.lookup_ne_none (backs : table.Backs member) :
    table.rows.lookup member.username ≠ none := by
  obtain ⟨account, found, _⟩ := backs
  simp [found]

end Tables

section States

variable {ι : Type*} {state : AccountState ι}

/-- Every session holds a member that its account backs. -/
theorem follows_iff : Follows state ↔
    ∀ session, ∀ member ∈ (state.sessions session).user, state.members.Backs member := by
  constructor
  · rintro follows session member held
    have logged : isLoggedIn (state.sessions session) = true := by
      rw [isLoggedIn, Option.mem_def.1 held]
      rfl
    obtain ⟨other, account, same, found⟩ := follows.loggedIn session logged
    rw [Option.mem_def.1 held, Option.some.injEq] at same
    subst same
    refine ⟨account, MemberTable.find_eq_ok_iff.1 found, fun admin => ?_⟩
    have privileged : isAdmin (state.sessions session) = true := by
      rw [isAdmin, Option.mem_def.1 held]
      exact admin
    obtain ⟨third, other, same, found', flag⟩ := follows.admin session privileged
    rw [Option.mem_def.1 held, Option.some.injEq] at same
    subst same
    rw [found, Except.ok.injEq] at found'
    exact found' ▸ flag
  · intro backs
    constructor
    · intro session logged
      obtain ⟨member, held⟩ := Option.isSome_iff_exists.1 logged
      obtain ⟨account, found, _⟩ := backs session member held
      exact ⟨member, account, held, MemberTable.find_eq_ok_iff.2 found⟩
    · intro session privileged
      rw [isAdmin] at privileged
      cases held : (state.sessions session).user with
      | none => simp [held] at privileged
      | some member =>
          simp only [held] at privileged
          obtain ⟨account, found, flag⟩ := backs session member held
          exact ⟨member, account, rfl, MemberTable.find_eq_ok_iff.2 found,
            flag privileged⟩

/-! ## One step -/

theorem Follows.register (follows : Follows state) (stored : Member)
    (absent : state.members.rows.lookup stored.username = none) :
    Follows { state with members := state.members.merge stored } := by
  rw [follows_iff] at follows ⊢
  intro session member held
  have backs := follows session member held
  have different : member.username ≠ stored.username :=
    fun same => backs.lookup_ne_none (same ▸ absent)
  exact (MemberTable.backs_merge_of_ne different).2 backs

theorem follows_merge_iff (follows : Follows state) (stored : Member) :
    Follows { state with members := state.members.merge stored } ↔
      ∀ session, ∀ member ∈ (state.sessions session).user,
        member.username = stored.username → member.admin = true → stored.admin = true := by
  rw [follows_iff] at follows ⊢
  refine forall_congr' fun session => forall₂_congr fun member held => ?_
  by_cases same : member.username = stored.username
  · rw [MemberTable.backs_merge_of_same same]
    exact ⟨fun flag _ => flag, fun flag => flag same⟩
  · rw [MemberTable.backs_merge_of_ne same]
    exact iff_of_true (follows session member held) fun equal => absurd equal same

theorem follows_remove_iff (follows : Follows state) (removed : Member) :
    Follows { state with members := state.members.remove removed } ↔
      ∀ session, ∀ member ∈ (state.sessions session).user,
        member.username ≠ removed.username := by
  rw [follows_iff] at follows ⊢
  refine forall_congr' fun session => forall₂_congr fun member held => ?_
  rw [MemberTable.backs_remove_iff, and_iff_left (follows session member held)]

theorem Follows.not_member (follows : Follows state) {username : Text}
    (absent : state.members.rows.lookup username = none) :
    ∀ session, ∀ member ∈ (state.sessions session).user, member.username ≠ username := by
  intro session member held same
  exact (follows_iff.1 follows session member held).lookup_ne_none (same ▸ absent)

variable [DecidableEq ι] {sha1 : Text → Text}

theorem Follows.setSession (follows : Follows state) (session : ι) (attributes : HttpSession)
    (backs : ∀ member ∈ attributes.user, state.members.Backs member) :
    Follows { state with
      sessions := Function.update state.sessions session attributes } := by
  rw [follows_iff] at follows ⊢
  intro other held among
  dsimp only at among
  by_cases own : other = session
  · rw [own, Function.update_self] at among
    exact backs held among
  · rw [Function.update_of_ne own] at among
    exact follows other held among

/-- A step preserves the privileges exactly if it respects the sessions. -/
theorem accountStep_follows (follows : Follows state) (action : AccountAction ι) :
    ∃ next, accountStep sha1 state action = some next ∧
      (Follows next ↔ RespectsSessions state action) := by
  cases action with
  | tryLogin session username password ip =>
      simp only [accountStep, AccountState.call, AccountState.tryLogin]
      cases found : state.members.findBoth username (hash sha1 password) with
      | error failure => exact ⟨state, rfl, iff_of_true follows trivial⟩
      | ok member =>
          have backs : ∀ held ∈ (some member), state.members.Backs held := by
            rintro _ ⟨⟩
            exact MemberTable.backs_of_lookup (MemberTable.lookup_of_findBoth found)
          exact ⟨_, rfl, iff_of_true
            (follows.setSession session ⟨some member, some ip⟩ backs) trivial⟩
  | logout session =>
      have left := follows.setSession session
        { state.sessions session with user := none } (by simp)
      exact ⟨_, rfl, iff_of_true left trivial⟩
  | tryRegister username password email admin =>
      simp only [accountStep, AccountState.call, AccountState.tryRegister,
        MemberTable.find]
      cases found : state.members.rows.lookup username with
      | some member => exact ⟨state, rfl, iff_of_true follows trivial⟩
      | none =>
          have registered := follows.register
            ⟨username, hash sha1 password, email, admin⟩ found
          exact ⟨_, rfl, iff_of_true registered trivial⟩
  | update username password email admin =>
      simp only [accountStep, AccountState.call, AccountState.update, MemberTable.find]
      cases found : state.members.rows.lookup username with
      | none =>
          refine ⟨state, rfl, iff_of_true follows ?_⟩
          intro session member held same
          exact absurd same (follows.not_member found session member held)
      | some account =>
          refine ⟨_, rfl, ?_⟩
          rw [follows_merge_iff follows]
          simp only [RespectsSessions, state.members.keyed username account found]
  | remove username =>
      simp only [accountStep, AccountState.call, AccountState.remove, MemberTable.find]
      cases found : state.members.rows.lookup username with
      | none => exact ⟨state, rfl, iff_of_true follows (follows.not_member found)⟩
      | some account =>
          refine ⟨_, rfl, ?_⟩
          rw [follows_remove_iff follows]
          simp only [RespectsSessions, state.members.keyed username account found]

/-! ## Runs -/

/-- From sessions that nobody is logged in on, the privileges follow the accounts in
every state of a run exactly if every step respects the sessions. -/
theorem privileges_follow_iff (sha1 : Text → Text) (start : AccountState ι)
    (loggedOut : ∀ session, (start.sessions session).user = none)
    (actions : List (AccountAction ι)) :
    (∀ before, before <+: actions → ∀ state,
      run (accountStep sha1) start before = some state → Follows state) ↔
        EveryStep (accountStep sha1) RespectsSessions start actions := by
  apply everyStep_iff_invariant Follows
  · exact fun state action follows => accountStep_follows follows action
  · rw [follows_iff]
    intro session member held
    rw [loggedOut session] at held
    cases held

end States

/-! ## An account that is removed while it is logged in -/

/-- One account with the admin flag. -/
def adminTable : MemberTable :=
  MemberTable.merge ⟨∅, fun username member found => by simp at found⟩
    ⟨"ann".toList, hash id "secret".toList, "ann@iot".toList, true⟩

/-- Two sessions, nobody is logged in. -/
def twoSessions : AccountState (Fin 2) := ⟨adminTable, fun _ => {}⟩

/-- Ann logs in and her account is removed. -/
def removedWhileLoggedIn : List (AccountAction (Fin 2)) :=
  [.tryLogin 0 "ann".toList "secret".toList "::1".toList, .remove "ann".toList]

/-- Ann logs in twice and out once; an account is added, gets the flag and is removed;
Ann gets another address. -/
def respectfulActions : List (AccountAction (Fin 2)) :=
  [.tryLogin 0 "ann".toList "secret".toList "::1".toList,
    .tryLogin 1 "ann".toList "secret".toList "::2".toList,
    .tryRegister "bob".toList "hidden".toList "bob@iot".toList false,
    .update "bob".toList [] "bob@iot".toList true,
    .logout 1,
    .update "ann".toList [] "ann@lab".toList true,
    .remove "bob".toList]

/-- The session of the removed account is still that of an admin. -/
theorem not_privileges_follow :
    ¬ ∀ actions : List (AccountAction (Fin 2)), ∀ before, before <+: actions → ∀ state,
      run (accountStep id) twoSessions before = some state → Follows state := by
  intro always
  obtain ⟨state, executed⟩ := Option.isSome_iff_exists.1
    (show (run (accountStep id) twoSessions removedWhileLoggedIn).isSome from by
      decide +kernel)
  have logged : (run (accountStep id) twoSessions removedWhileLoggedIn).map
      (fun state => isLoggedIn (state.sessions 0) && state.members.rows.entries.isEmpty) =
        some true := by
    decide +kernel
  rw [executed, Option.map_some, Option.some.injEq, Bool.and_eq_true] at logged
  have follows := always removedWhileLoggedIn removedWhileLoggedIn (List.prefix_refl _)
    state executed
  obtain ⟨member, account, _, found⟩ := follows.loggedIn 0 logged.1
  rw [MemberTable.find_eq_ok_iff, AList.lookup, List.isEmpty_iff.1 logged.2] at found
  cases found

theorem privileges_follow_respectfulActions :
    EveryStep (accountStep id) RespectsSessions twoSessions respectfulActions ∧
      ∀ before, before <+: respectfulActions → ∀ state,
        run (accountStep id) twoSessions before = some state → Follows state := by
  have respects : EveryStep (accountStep id) RespectsSessions twoSessions
      respectfulActions := by
    decide +kernel
  exact ⟨respects, (privileges_follow_iff id twoSessions (fun _ => rfl)
    respectfulActions).2 respects⟩

end IotLab.Server
