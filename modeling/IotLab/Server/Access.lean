import IotLab.Library.UrlPaths
import IotLab.Server.Accounts

/-!
# Access to the administration

A request passes `ApiFilter` and `AdminFilter` on its way to a method of a resource.
`AdminFilter` checks the paths of its patterns, the methods are found by the templates
of their annotations.
-/

namespace IotLab.Server

open IotLab.Library

inductive HttpMethod where
  | get
  | head
  | post
  | other (name : Text)
  deriving Repr, DecidableEq

/-- A request; the path is relative to the context of the application. -/
structure Request where
  method : HttpMethod
  path : Text
  session : HttpSession
  deriving Repr, DecidableEq

/-! ## The filters -/

/-- `urlPatterns` of `AdminFilter`. -/
def adminPatterns : List UrlPattern :=
  [.below "/admin".toList,
    .exact "/rest/sendCommand".toList,
    .exact "/rest/info/conf".toList,
    .exact "/rest/info/dbstats".toList,
    .exact "/rest/info/logs".toList,
    .below "/rest/info/logs".toList,
    .exact "/rest/account/accounts".toList,
    .exact "/rest/account/register".toList,
    .exact "/rest/account/remove".toList,
    .exact "/rest/account/update".toList,
    .exact "/rest/geo/disable".toList,
    .exact "/rest/geo/enable".toList,
    .exact "/rest/geo/services".toList]

/-- `AdminFilter.doFilter` calls the rest of the chain, or the filter does not apply. -/
def adminFilter (request : Request) : Bool :=
  if adminPatterns.any (UrlPattern.accepts request.path) then
    isLoggedIn request.session && isAdmin request.session
  else true

/-- `exceptions` of `ApiFilter`. -/
def exceptions : List Text := ["/account/login".toList]

/-- `getPathInfo`: the path behind `/rest`, or `null`. -/
def pathInfo (path : Text) : Option Text :=
  if path.drop 5 = [] then none else some (path.drop 5)

/-- `ApiFilter.doFilter` calls the rest of the chain, or the filter does not apply.
Without a path info it throws. -/
def apiFilter (request : Request) : Bool :=
  if (UrlPattern.below "/rest".toList).accepts request.path then
    match pathInfo request.path with
    | none => false
    | some info =>
        exceptions.contains info || request.method ≠ .post || isLoggedIn request.session
  else true

/-! ## The methods -/

/-- The methods that the documentation reserves for the admin. -/
inductive AdminMethod where
  | sendCommand
  | getConf
  | getDbStats
  | getLogs
  | getServices
  | enable
  | disable
  deriving Repr, DecidableEq

/-- The annotation `@GET` or `@POST`. -/
def AdminMethod.httpMethod : AdminMethod → HttpMethod
  | sendCommand | enable | disable => .post
  | getConf | getDbStats | getLogs | getServices => .get

/-- The annotations `@Path` of the class and of the method, below `/rest`. -/
def AdminMethod.template : AdminMethod → List PathPart
  | sendCommand => [.literal "/rest/sendCommand".toList]
  | getConf => [.literal "/rest/info/conf".toList]
  | getDbStats => [.literal "/rest/info/dbstats".toList]
  | getLogs => [.literal "/rest/info/logs".toList, .optionalSlash, .optionalDigits]
  | getServices => [.literal "/rest/geo/services".toList]
  | enable => [.literal "/rest/geo/services/enable".toList]
  | disable => [.literal "/rest/geo/services/disable".toList]

/-- A method for `GET` also answers `HEAD`. -/
def HttpMethod.answers : (declared requested : HttpMethod) → Bool
  | .get, .head => true
  | declared, requested => declared = requested

/-- A request with this HTTP method and this path is routed to the method. -/
def AdminMethod.routes (method : AdminMethod) (requested : HttpMethod) (path : Text) :
    Bool :=
  method.httpMethod.answers requested && templateAccepts method.template path

/-- A request passes both filters and is routed to the method. -/
def Reaches (request : Request) (method : AdminMethod) : Prop :=
  apiFilter request = true ∧ adminFilter request = true ∧
    method.routes request.method request.path = true

instance (request : Request) (method : AdminMethod) : Decidable (Reaches request method) :=
  inferInstanceAs (Decidable (_ ∧ _ ∧ _))

/-! ## The paths that are protected -/

/-- The path of the method without a slash at its end, or one below that of the logs;
no path of `enable` and `disable`. -/
def CoveredPath : AdminMethod → Text → Prop
  | .sendCommand, path => path = "/rest/sendCommand".toList
  | .getConf, path => path = "/rest/info/conf".toList
  | .getDbStats, path => path = "/rest/info/dbstats".toList
  | .getLogs, path => path = "/rest/info/logs".toList ∨ "/rest/info/logs/".toList <+: path
  | .getServices, path => path = "/rest/geo/services".toList
  | .enable, _ | .disable, _ => False

section Coverage

variable {path : Text}

/-- Of the two paths of a template without variable parts the patterns accept the one
that is listed. -/
theorem accepts_iff_of_literal {text : Text}
    (accepted : templateAccepts [.literal text] path = true)
    (listed : adminPatterns.any (UrlPattern.accepts text) = true)
    (missed : adminPatterns.any (UrlPattern.accepts (text ++ ['/'])) = false) :
    adminPatterns.any (UrlPattern.accepts path) = true ↔ path = text := by
  cases templateAccepts_literal.1 accepted with
  | inl same => exact iff_of_true (same ▸ listed) same
  | inr slash =>
      rw [slash, missed]
      simp

theorem not_accepts_of_literal {text : Text}
    (accepted : templateAccepts [.literal text] path = true)
    (missed : adminPatterns.any (UrlPattern.accepts text) = false)
    (missedSlash : adminPatterns.any (UrlPattern.accepts (text ++ ['/'])) = false) :
    adminPatterns.any (UrlPattern.accepts path) = false := by
  cases templateAccepts_literal.1 accepted with
  | inl same => exact same ▸ missed
  | inr slash => exact slash ▸ missedSlash

/-- The patterns accept exactly the covered paths. -/
theorem any_accepts_iff_coveredPath (method : AdminMethod)
    (accepted : templateAccepts method.template path = true) :
    adminPatterns.any (UrlPattern.accepts path) = true ↔ CoveredPath method path := by
  cases method with
  | sendCommand => exact accepts_iff_of_literal accepted (by decide) (by decide)
  | getConf => exact accepts_iff_of_literal accepted (by decide) (by decide)
  | getDbStats => exact accepts_iff_of_literal accepted (by decide) (by decide)
  | getLogs =>
      have only : adminPatterns.filter (UrlPattern.meets "/rest/info/logs".toList) =
          [.exact "/rest/info/logs".toList, .below "/rest/info/logs".toList] := by decide
      rw [UrlPattern.any_accepts_filter (prefix_of_templateAccepts accepted), only]
      simp [UrlPattern.accepts, CoveredPath]
  | getServices => exact accepts_iff_of_literal accepted (by decide) (by decide)
  | enable =>
      rw [not_accepts_of_literal accepted (by decide) (by decide)]
      simp [CoveredPath]
  | disable =>
      rw [not_accepts_of_literal accepted (by decide) (by decide)]
      simp [CoveredPath]

theorem rest_prefix_of_accepts (method : AdminMethod)
    (accepted : templateAccepts method.template path = true) :
    "/rest/".toList <+: path := by
  have begins : ∃ text rest, method.template = .literal text :: rest ∧
      "/rest/".toList <+: text := by
    cases method <;> exact ⟨_, _, rfl, by decide⟩
  obtain ⟨text, rest, template, shorter⟩ := begins
  rw [template] at accepted
  exact shorter.trans (prefix_of_templateAccepts accepted)

theorem apiFilter_of_isLoggedIn {request : Request}
    (below : "/rest/".toList <+: request.path)
    (logged : isLoggedIn request.session = true) : apiFilter request = true := by
  obtain ⟨info, same⟩ := below
  have some_ : pathInfo request.path = some ('/' :: info) := by
    rw [pathInfo, ← same]
    rfl
  rw [apiFilter, some_, logged]
  simp

/-- `AdminFilter` lets an admin pass, and others where no pattern accepts the path. -/
theorem adminFilter_eq_true_iff (request : Request) :
    adminFilter request = true ↔
      (adminPatterns.any (UrlPattern.accepts request.path) = true →
        isAdmin request.session = true) := by
  have logged : isAdmin request.session = true → isLoggedIn request.session = true := by
    rw [isAdmin, isLoggedIn]
    cases request.session.user with
    | none => simp
    | some member => simp
  rw [adminFilter]
  by_cases accepted : adminPatterns.any (UrlPattern.accepts request.path) = true
  · rw [if_pos accepted, Bool.and_eq_true]
    exact ⟨fun both _ => both.2, fun admin => ⟨logged (admin accepted), admin accepted⟩⟩
  · rw [if_neg accepted]
    exact iff_of_true rfl fun other => absurd other accepted

end Coverage

/-- A session of an account without the admin flag. -/
def memberSession : HttpSession :=
  { user := some ⟨"bob".toList, [], "bob@iot".toList, false⟩ }

/-- Only admins reach a method on a path exactly if the path is covered. -/
theorem adminOnly_iff_coveredPath (method : AdminMethod) (requested : HttpMethod)
    (path : Text) :
    (∀ session, Reaches ⟨requested, path, session⟩ method → isAdmin session = true) ↔
      (method.routes requested path = true → CoveredPath method path) := by
  constructor
  · intro adminOnly routed
    have accepted := (Bool.and_eq_true_iff.1 routed).2
    by_contra uncovered
    have passes : adminFilter ⟨requested, path, memberSession⟩ = true := by
      rw [adminFilter_eq_true_iff]
      intro listed
      exact absurd ((any_accepts_iff_coveredPath method accepted).1 listed) uncovered
    have reaches : Reaches ⟨requested, path, memberSession⟩ method :=
      ⟨apiFilter_of_isLoggedIn (rest_prefix_of_accepts method accepted) rfl, passes, routed⟩
    exact absurd (adminOnly memberSession reaches) (by decide)
  · rintro covered session ⟨_, passes, routed⟩
    have accepted := (Bool.and_eq_true_iff.1 routed).2
    exact (adminFilter_eq_true_iff _).1 passes
      ((any_accepts_iff_coveredPath method accepted).2 (covered routed))

/-- Without a login the configuration is read, and a member without the flag enables a
service. -/
theorem not_adminOnly :
    ¬ ∀ request method, Reaches request method → isAdmin request.session = true := by
  intro adminOnly
  have read : Reaches ⟨.get, "/rest/info/conf/".toList, {}⟩ .getConf := by decide
  exact absurd (adminOnly _ _ read) (by decide)

example : Reaches ⟨.post, "/rest/geo/services/enable".toList, memberSession⟩ .enable := by
  decide

end IotLab.Server
