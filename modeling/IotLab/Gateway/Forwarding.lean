import IotLab.Gateway.LocalConfig
import IotLab.Gateway.Router
import IotLab.Library.Traversal

/-!
# What a started gateway forwards

`main` initialises the router and then the websocket.  The router keeps the two
references that the configuration holds when it is initialised.  The websocket
validates the commands later, and this gives the configuration a new list.
-/

namespace IotLab.Gateway

open IotLab.Library

/-- The fields of the router; the lists are references. -/
structure RouterFields where
  typeOffset : ℤ
  display : Bool
  allowForwarding : ℕ
  allowForwardingOnWs : ℕ
  login : Bool
  uri : Text
  tls : Bool
  tlsUri : Text

/-- The static fields of `WebSocket` that `init` sets. -/
structure WebSocketFields where
  commandFlow : Text
  uri : Text
  tlsUri : Text
  tls : Bool

/-- `Router.init` with the properties of the file; `loggedIn` tells whether the login
succeeds. -/
def Router.init (config : LocalConfig) (lists : Lists) (file : Properties)
    (login loggedIn : Bool) : Except Stop (RouterFields × LocalConfig × Lists) := do
  let (config, lists) ← (config.read file).validate lists
  let router : RouterFields :=
    { uri := config.uri
      tlsUri := config.tlsUri
      tls := config.tls
      allowForwarding := config.allowForwarding
      allowForwardingOnWs := config.allowForwardingOnWs
      display := config.displayResponse
      typeOffset := config.typeOffset
      login }
  if login then
    let config ← config.validateLogin
    if loggedIn then .ok (router, config, lists) else .error .loginFailed
  else .ok (router, config, lists)

/-- `WebSocket.init`. -/
def WebSocket.init (config : LocalConfig) (lists : Lists) :
    Except Stop (WebSocketFields × LocalConfig × Lists) := do
  let (config, lists) ← config.validate lists
  let (config, lists) ← config.validateCommands lists
  .ok
    ({ commandFlow := (config.map Config.COMMAND_WS_URL).getD []
       uri := config.uri
       tlsUri := config.tlsUri
       tls := config.tls },
      config, lists)

/-- The options of the command line. -/
structure Options where
  config : LocalConfig
  login : Bool := false
  command : Bool := false

/-- The loop over the arguments of `main`; a password is read for each `-u`. -/
def readArguments : Options → List Text → List Text → Except Stop Options
  | options, [], _ => .ok options
  | options, argument :: rest, passwords =>
      if argument = "-login".toList then
        readArguments { options with login := true } rest passwords
      else if argument = "-command".toList then
        readArguments { options with command := true } rest passwords
      else if argument = "-u".toList then
        match rest, passwords with
        | [], _ => .error .missingUsername
        | _, [] => .error (.exception "NoSuchElementException".toList)
        | username :: others, password :: later =>
            let config := (options.config.put Config.USERNAME username).put
              Config.PASSWORD password
            readArguments { options with config } others later
      else readArguments options rest passwords

/-- A gateway that has started. -/
structure Started where
  router : RouterFields
  webSocket : Option WebSocketFields
  config : LocalConfig
  lists : Lists

/-- `Gateway.main` up to the start of its threads. -/
def main (arguments passwords : List Text) (file : Properties) (loggedIn : Bool) :
    Except Stop Started := do
  let (config, lists) := LocalConfig.new {}
  let options ← readArguments { config } arguments passwords
  let (router, config, lists) ←
    Router.init options.config lists file options.login loggedIn
  if options.command then
    let (webSocket, config, lists) ← WebSocket.init config lists
    .ok { router, webSocket := some webSocket, config, lists }
  else .ok { router, webSocket := none, config, lists }

/-! ## Forwarding -/

/-- A list as the router sees it. -/
def Started.list (started : Started) (reference : ℕ) : List ℤ :=
  (started.lists.get? reference).getD []

/-- The router with its lists. -/
def Started.resolved (started : Started) : Router where
  typeOffset := started.router.typeOffset.toNat
  allowForwarding := started.list started.router.allowForwarding
  url type := (started.config.map (printInt type)).getD "null".toList

/-- What one call of `forward` sends. -/
structure Forwarded where
  posted : Option Request := none
  sentOnWs : Option Text := none

/-- `Router.sendWs`. -/
def Started.sendWs (started : Started) (sensorData : Text) (type : ℤ) : Option Text :=
  if type ∈ started.list started.router.allowForwardingOnWs then some sensorData
  else none

/-- `Router.forward`.  Without a value at the offset of the type it throws before it
sends, and when the post throws the websocket is not reached. -/
def Started.forward (started : Started) (data : SensorData) (postThrows : Bool) :
    Forwarded :=
  match data.getValue started.router.typeOffset.toNat with
  | none => {}
  | some type =>
      let posted := started.resolved.sendPost data.toText type
      if posted.isSome && postThrows then { posted }
      else { posted, sentOnWs := started.sendWs data.toText type }

/-! ## What the file asks for -/

/-- A type is one of the integers between the commas of a parameter. -/
def Listed (file : Properties) (parameter : Text) (type : ℤ) : Prop :=
  ∃ text, file parameter = some text ∧
    ∃ piece ∈ text.splitOnP (· == ','), parseInteger piece = some type

/-- The type of sensor data is there and listed. -/
def Wanted (file : Properties) (parameter : Text) (offset : ℤ) (data : SensorData) :
    Prop :=
  ∃ type, data.getValue offset.toNat = some type ∧ Listed file parameter type

/-- A call of `forward` sends the data where the file asks for it. -/
structure FollowsFile (file : Properties) (started : Started) (data : SensorData)
    (forwarded : Forwarded) : Prop where
  http : forwarded.posted.map Request.data = some data.toText ↔
    Wanted file Config.ALLOW_FORWARDING started.router.typeOffset data
  webSocket : forwarded.sentOnWs = some data.toText ↔
    Wanted file Config.ALLOW_FORWARDING_ON_WS started.router.typeOffset data

/-! ## What the validation leaves behind -/

/-- Only the account is put into the configuration by the command line. -/
theorem readArguments_keeps {options result : Options} {arguments passwords : List Text}
    (accepted : readArguments options arguments passwords = .ok result) :
    result.config.isValid = options.config.isValid ∧
      result.config.isValidCommand = options.config.isValidCommand ∧
      result.config.allowForwardingOnWs = options.config.allowForwardingOnWs ∧
      ∀ key, key ≠ Config.USERNAME → key ≠ Config.PASSWORD →
        result.config.map key = options.config.map key := by
  fun_induction readArguments options arguments passwords with
  | case1 options _ =>
      cases accepted
      exact ⟨rfl, rfl, rfl, fun _ _ _ => rfl⟩
  | case2 _ _ _ ih => exact ih accepted
  | case3 _ _ _ _ ih => exact ih accepted
  | case4 => cases accepted
  | case5 => cases accepted
  | case6 options username others password later config _ _ ih =>
      obtain ⟨valid, validCommand, list, map⟩ := ih accepted
      refine ⟨valid, validCommand, list, fun key notUsername notPassword => ?_⟩
      rw [map key notUsername notPassword]
      simp [config, LocalConfig.put, notUsername, notPassword]
  | case7 options argument rest passwords _ _ _ ih => exact ih accepted

/-- What a first `validate` does to the list of the router and what it keeps. -/
structure Validated (config : LocalConfig) (lists : Lists) (next : LocalConfig)
    (later : Lists) : Prop where
  forwarded : ∃ text, config.map Config.ALLOW_FORWARDING = some text ∧
    lists.alloc (listedIntegers text) = (next.allowForwarding, later)
  isValid : next.isValid = true
  map : next.map = config.map
  isValidCommand : next.isValidCommand = config.isValidCommand
  allowForwardingOnWs : next.allowForwardingOnWs = config.allowForwardingOnWs

theorem LocalConfig.require_ok {config : LocalConfig} {parameter value : Text}
    (found : config.require parameter = .ok value) :
    config.map parameter = some value := by
  rw [LocalConfig.require] at found
  split at found
  · cases found
  · next present =>
      cases found
      exact present

theorem LocalConfig.validate_spec {config next : LocalConfig} {lists later : Lists}
    (fresh : config.isValid = false)
    (validated : config.validate lists = .ok (next, later)) :
    Validated config lists next later := by
  rw [LocalConfig.validate, if_neg (by simp [fresh])] at validated
  simp only [bind_eq_ok] at validated
  obtain ⟨_, _, _, _, _, _, _, _, _, _, _, _, _, _, text, present, accepted⟩ := validated
  cases accepted
  exact
    { forwarded := ⟨text, LocalConfig.require_ok present, rfl⟩
      isValid := rfl
      map := rfl
      isValidCommand := rfl
      allowForwardingOnWs := rfl }

theorem LocalConfig.validate_of_valid {config : LocalConfig} (lists : Lists)
    (valid : config.isValid = true) : config.validate lists = .ok (config, lists) :=
  if_pos valid

theorem LocalConfig.validateLogin_isValid {config next : LocalConfig}
    (validated : config.validateLogin = .ok next) : next.isValid = config.isValid := by
  rw [LocalConfig.validateLogin] at validated
  split at validated
  · cases validated
    rfl
  · simp only [bind_eq_ok] at validated
    obtain ⟨_, _, _, _, _, _, _, _, accepted⟩ := validated
    cases accepted
    rfl

/-- The commands are validated with the old lists in place. -/
theorem LocalConfig.validateCommands_lists {config next : LocalConfig}
    {lists later : Lists}
    (validated : config.validateCommands lists = .ok (next, later)) :
    ∀ reference, lists.Valid reference → later.get? reference = lists.get? reference := by
  intro reference valid
  rw [LocalConfig.validateCommands] at validated
  split at validated
  · cases validated
    rfl
  · simp only [bind_eq_ok] at validated
    obtain ⟨_, _, accepted⟩ := validated
    cases accepted
    exact Objects.get?_alloc valid _

/-! ## What the router holds -/

/-- The router holds the list that was read for HTTP, and for the websocket the list
that the configuration had before. -/
structure Initialised (config : LocalConfig) (lists : Lists) (router : RouterFields)
    (next : LocalConfig) (later : Lists) : Prop where
  forwarded : ∃ text, config.map Config.ALLOW_FORWARDING = some text ∧
    lists.alloc (listedIntegers text) = (router.allowForwarding, later)
  isValid : next.isValid = true
  allowForwardingOnWs : router.allowForwardingOnWs = config.allowForwardingOnWs

theorem Router.init_spec {config next : LocalConfig} {lists later : Lists}
    {file : Properties} {login loggedIn : Bool} {router : RouterFields}
    (fresh : config.isValid = false)
    (initialised : Router.init config lists file login loggedIn =
      .ok (router, next, later)) :
    Initialised (config.read file) lists router next later := by
  rw [Router.init, bind_eq_ok] at initialised
  obtain ⟨⟨valid, allocated⟩, accepted, rest⟩ := initialised
  have validated : Validated (config.read file) lists _ _ :=
    LocalConfig.validate_spec fresh accepted
  cases login with
  | false =>
      cases rest
      exact ⟨validated.forwarded, validated.isValid, validated.allowForwardingOnWs⟩
  | true =>
      simp only [if_true, bind_eq_ok] at rest
      obtain ⟨afterLogin, withLogin, rest⟩ := rest
      cases loggedIn with
      | false => cases rest
      | true =>
          cases rest
          exact
            { forwarded := validated.forwarded
              isValid := (LocalConfig.validateLogin_isValid withLogin).trans
                validated.isValid
              allowForwardingOnWs := validated.allowForwardingOnWs }

theorem WebSocket.init_lists {config next : LocalConfig} {lists later : Lists}
    {webSocket : WebSocketFields} (isValid : config.isValid = true)
    (initialised : WebSocket.init config lists = .ok (webSocket, next, later)) :
    ∀ reference, lists.Valid reference → later.get? reference = lists.get? reference := by
  rw [WebSocket.init, LocalConfig.validate_of_valid lists isValid] at initialised
  simp only [bind_eq_ok] at initialised
  obtain ⟨_, same, ⟨_, _⟩, validated, accepted⟩ := initialised
  cases same
  cases accepted
  exact LocalConfig.validateCommands_lists validated

/-- After every start the router forwards over HTTP what the file lists, and nothing on
the websocket. -/
theorem main_lists {arguments passwords : List Text} {file : Properties}
    {loggedIn : Bool} {started : Started}
    (start : main arguments passwords file loggedIn = .ok started) :
    (∃ text, file Config.ALLOW_FORWARDING = some text ∧
        started.list started.router.allowForwarding = listedIntegers text) ∧
      started.list started.router.allowForwardingOnWs = [] := by
  simp only [main, bind_eq_ok] at start
  obtain ⟨options, accepted, ⟨router, config, lists⟩, initialised, rest⟩ := start
  obtain ⟨fresh, _, unchanged, map⟩ := readArguments_keeps accepted
  have spec := Router.init_spec fresh initialised
  obtain ⟨text, present, allocated⟩ := spec.forwarded
  have empty : options.config.map Config.ALLOW_FORWARDING = none :=
    map Config.ALLOW_FORWARDING (by decide) (by decide)
  have fromFile : file Config.ALLOW_FORWARDING = some text := by
    simpa [LocalConfig.read, empty] using present
  have reference : router.allowForwardingOnWs = 1 := spec.allowForwardingOnWs.trans unchanged
  have held : lists.get? router.allowForwarding = some (listedIntegers text) := by
    have own := Objects.get?_alloc_self (LocalConfig.new {}).2 (listedIntegers text)
    rw [allocated] at own
    exact own
  have onWs : (LocalConfig.new {}).2.Valid 1 := Nat.lt_succ_self 1
  have stale : lists.get? router.allowForwardingOnWs = some [] := by
    have old := Objects.get?_alloc onWs (listedIntegers text)
    rw [allocated] at old
    rw [reference]
    exact old
  split at rest
  · rw [bind_eq_ok] at rest
    obtain ⟨⟨webSocket, final, later⟩, commands, done⟩ := rest
    cases done
    have kept := WebSocket.init_lists spec.isValid commands
    refine ⟨⟨text, fromFile, ?_⟩, ?_⟩
    · simp only [Started.list, kept _ (Objects.valid_of_get? held), held, Option.getD_some]
    · simp only [Started.list, kept _ (Objects.valid_of_get? stale), stale, Option.getD_some]
  · cases rest
    refine ⟨⟨text, fromFile, ?_⟩, ?_⟩
    · simp only [Started.list, held, Option.getD_some]
    · simp only [Started.list, stale, Option.getD_some]

/-! ## What is forwarded -/

/-- The parsed list holds the integers between the commas. -/
theorem mem_listedIntegers {text : Text} {type : ℤ} :
    type ∈ listedIntegers text ↔
      ∃ piece ∈ text.splitOnP (· == ','), parseInteger piece = some type := by
  have nonempty : ∀ piece, parseInteger piece = some type → piece ≠ [] := by
    intro piece parsed empty
    subst empty
    cases parsed
  rw [listedIntegers, List.mem_filterMap]
  constructor
  · intro listed
    obtain ⟨piece, member, parsed⟩ := listed
    exact ⟨piece, (mem_splitEach (nonempty piece parsed)).1 member, parsed⟩
  · intro listed
    obtain ⟨piece, member, parsed⟩ := listed
    exact ⟨piece, (mem_splitEach (nonempty piece parsed)).2 member, parsed⟩

theorem listed_iff {file : Properties} {parameter : Text} {type : ℤ} :
    Listed file parameter type ↔
      type ∈ ((file parameter).map listedIntegers).getD [] := by
  rw [Listed]
  cases file parameter with
  | none => simp
  | some text => simp [mem_listedIntegers]

theorem Started.forward_posted (started : Started) (data : SensorData)
    (postThrows : Bool) :
    (started.forward data postThrows).posted = started.resolved.forwardPost data := by
  rw [Started.forward, Router.forwardPost]
  change _ = (data.getValue started.router.typeOffset.toNat).bind _
  split
  · next none => rw [none, Option.bind_none]
  · next type found =>
      rw [found, Option.bind_some]
      dsimp only
      split <;> rfl

/-- Every call of `forward` follows the file over HTTP; on the websocket it does
exactly when the type of the data is not listed there. -/
theorem forward_follows_file_iff {arguments passwords : List Text} {file : Properties}
    {loggedIn : Bool} {started : Started}
    (start : main arguments passwords file loggedIn = .ok started)
    (data : SensorData) (postThrows : Bool) :
    FollowsFile file started data (started.forward data postThrows) ↔
      ¬ Wanted file Config.ALLOW_FORWARDING_ON_WS started.router.typeOffset data := by
  obtain ⟨⟨text, present, http⟩, onWs⟩ := main_lists start
  have nothing : (started.forward data postThrows).sentOnWs = none := by
    rw [Started.forward]
    split
    · rfl
    · simp only [Started.sendWs, onWs, List.not_mem_nil, if_false]
      split <;> rfl
  have posted : (started.forward data postThrows).posted.map Request.data =
        some data.toText ↔
      Wanted file Config.ALLOW_FORWARDING started.router.typeOffset data := by
    rw [Started.forward_posted, Router.forwardPost]
    change ((data.getValue started.router.typeOffset.toNat).bind _).map _ = _ ↔ _
    cases found : data.getValue started.router.typeOffset.toNat with
    | none => simp [Wanted, found]
    | some type =>
        simp only [Option.bind_some, Router.sendPost, Started.resolved, http, Wanted,
          found, listed_iff, present, Option.map_some, Option.getD_some,
          Option.some.injEq, exists_eq_left']
        split
        · next listed => exact iff_of_true rfl listed
        · next notListed => exact iff_of_false (by simp) notListed
  constructor
  · intro follows wanted
    have sent := follows.webSocket.2 wanted
    rw [nothing] at sent
    cases sent
  · intro notWanted
    refine ⟨posted, iff_of_false ?_ notWanted⟩
    rw [nothing]
    intro sent
    cases sent

/-- The properties file that comes with the gateway. -/
def configProperties : Properties := fun key =>
  [(Config.HOST, "iotlab.telecomnancy.eu"), (Config.PORT, "8080"),
    (Config.CONTEXT, "/iotlab"), (Config.TLS, "false"), (Config.TLS_PORT, "443"),
    (Config.DISPLAY_RESPONSE, "true"), (Config.TYPE_OFFSET, "0"),
    (Config.ALLOW_FORWARDING, "0,1,10"), ("0".toList, "/rest/data"),
    ("1".toList, "/rest/info/motes/sink/add"), ("10".toList, "/rest/geo"),
    (Config.ALLOW_FORWARDING_ON_WS, "1"), (Config.COMMAND_WS_URL, "/liveStream/30"),
    (Config.LOGIN_URL, "/rest/account/login"), (Config.USERNAME, "gateway"),
    (Config.PASSWORD, "ImTheGateway"),
    (Config.CHECK_LOGIN_URL, "/rest/account/isLoggedIn")].lookup key |>.map String.toList

/-- Geolocation data is posted only, as the file asks. -/
theorem forward_follows_file_geolocation :
    ∃ started, main ["-command".toList] [] configProperties true = .ok started ∧
      FollowsFile configProperties started ⟨[10, 3, 1, 5, -40], 0⟩
        (started.forward ⟨[10, 3, 1, 5, -40], 0⟩ false) := by
  have start : main ["-command".toList] [] configProperties true = .ok _ := rfl
  refine ⟨_, start, (forward_follows_file_iff start _ false).2 ?_⟩
  intro wanted
  obtain ⟨type, found, listed⟩ := wanted
  cases found
  exact absurd (listed_iff.1 listed) (by decide)

/-- The address of a sink has type 1, which the file lists for the websocket.  It is
never sent there. -/
theorem sinkAddress_not_forwarded :
    ∃ started, main ["-command".toList] [] configProperties true = .ok started ∧
      ¬ FollowsFile configProperties started ⟨[1, 257], 0⟩
        (started.forward ⟨[1, 257], 0⟩ false) := by
  refine ⟨_, rfl, ?_⟩
  intro follows
  have sent := follows.webSocket.2 ⟨1, rfl, listed_iff.2 (by decide)⟩
  cases sent

end IotLab.Gateway
