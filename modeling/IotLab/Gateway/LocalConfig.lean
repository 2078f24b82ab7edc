import IotLab.Gateway.SensorData
import IotLab.Library.Objects

/-!
# The configuration of a gateway

`LocalConfig` reads a properties file and checks the parameters of the gateway in
three groups: those of the router, those of the login and those of the commands.
A missing or malformed parameter ends the program.  The two lists of types that are
forwarded are objects, and the configuration holds references to them.
-/

namespace IotLab.Gateway

open IotLab.Library

/-! ## The keys -/

namespace Config

def HOST : Text := "host".toList

def PORT : Text := "port".toList

def CONTEXT : Text := "context".toList

def TLS : Text := "TLS".toList

def TLS_PORT : Text := "TLSport".toList

def DISPLAY_RESPONSE : Text := "displayResponse".toList

def TYPE_OFFSET : Text := "typeOffset".toList

def ALLOW_FORWARDING : Text := "allowForwarding".toList

def ALLOW_FORWARDING_ON_WS : Text := "allowForwardingOnCommandFlow".toList

def COMMAND_WS_URL : Text := "commandWsUrl".toList

def LOGIN_URL : Text := "loginURL".toList

def CHECK_LOGIN_URL : Text := "checkLoginUrl".toList

def USERNAME : Text := "username".toList

def PASSWORD : Text := "password".toList

end Config

/-- What a properties file gives for each key. -/
abbrev Properties := Text → Option Text

/-- The ways in which the start of a gateway ends the program. -/
inductive Stop where
  /-- `missingParameter`, with its second message. -/
  | missingParameter (parameter message : Text)
  /-- An exception that leaves `main`. -/
  | exception (name : Text)
  | missingUsername
  | loginFailed
  deriving Repr, DecidableEq

/-- The fields of `LocalConfig`; a list is a reference. -/
structure LocalConfig where
  map : Properties
  displayResponse : Bool := false
  host : Text := []
  port : ℤ := 0
  tls : Bool := false
  context : Text := []
  typeOffset : ℤ := 0
  allowForwarding : ℕ
  allowForwardingOnWs : ℕ
  uri : Text := []
  commandWsUrl : Text := []
  checkLoginUrl : Text := []
  password : Text := []
  username : Text := []
  loginUrl : Text := []
  isValidCommand : Bool := false
  isValidLogin : Bool := false
  isValid : Bool := false
  tlsPort : ℤ := 0
  tlsUri : Text := []

/-- The lists of types in memory. -/
abbrev Lists := Objects (List ℤ)

/-- `Boolean.parseBoolean`. -/
def parseBoolean (text : Text) : Bool := text.map Char.toLower == "true".toList

/-- The integers between the commas; other pieces are left out. -/
def listedIntegers (text : Text) : List ℤ :=
  (splitEach (· == ',') text).filterMap parseInteger

namespace LocalConfig

/-- The constructor, which creates two empty lists. -/
def new (lists : Lists) : LocalConfig × Lists :=
  let first := lists.alloc []
  let second := first.2.alloc []
  ({ map := fun _ => none, allowForwarding := first.1, allowForwardingOnWs := second.1 },
    second.2)

def put (config : LocalConfig) (key value : Text) : LocalConfig :=
  { config with map := fun other => if other = key then some value else config.map other }

/-- `read`: the properties of the file replace those that were put before. -/
def read (config : LocalConfig) (file : Properties) : LocalConfig :=
  { config with map := fun key => (file key).orElse fun _ => config.map key }

/-- A parameter that must be there. -/
def require (config : LocalConfig) (parameter : Text) : Except Stop Text :=
  match config.map parameter with
  | none => .error (.missingParameter parameter [])
  | some value => .ok value

/-- `Integer.parseInt` on a parameter; one that is not there or not in the range is
reported with a message. -/
def requireInteger (config : LocalConfig) (parameter : Text) (inRange : ℤ → Bool)
    (message : Text) : Except Stop ℤ :=
  match (config.map parameter).bind parseInteger with
  | none => .error (.missingParameter parameter message)
  | some value =>
      if inRange value then .ok value
      else .error (.missingParameter parameter message)

def validatePort (config : LocalConfig) : Except Stop ℤ :=
  config.requireInteger Config.PORT (fun port => port ≤ 65535)
    "must be an integer < 65536".toList

/-- The context gets a slash in front. -/
def validateContext (config : LocalConfig) : Except Stop Text := do
  match ← config.require Config.CONTEXT with
  | [] => .error (.exception "StringIndexOutOfBoundsException".toList)
  | '/' :: rest => .ok ('/' :: rest)
  | context => .ok ('/' :: context)

/-- Without TLS a missing port is not reported, but parsed all the same. -/
def validateTlsPort (config : LocalConfig) (tls : Bool) : Except Stop ℤ :=
  match config.map Config.TLS_PORT with
  | none =>
      if tls then .error (.missingParameter Config.TLS_PORT [])
      else .error (.exception "NumberFormatException".toList)
  | some value =>
      match parseInteger value with
      | none => .error (.exception "NumberFormatException".toList)
      | some port => .ok port

/-- An offset that is there but no natural number is reported with a message. -/
def validateTypeOffset (config : LocalConfig) : Except Stop ℤ := do
  let _ ← config.require Config.TYPE_OFFSET
  config.requireInteger Config.TYPE_OFFSET (fun offset => 0 ≤ offset)
    "must be an integer".toList

/-- `host + ":" + port + context`. -/
def address (host : Text) (port : ℤ) (context : Text) : Text :=
  host ++ ':' :: printInt port ++ context

/-- `validate`. -/
def validate (config : LocalConfig) (lists : Lists) :
    Except Stop (LocalConfig × Lists) :=
  if config.isValid then .ok (config, lists)
  else do
    let host ← config.require Config.HOST
    let port ← config.validatePort
    let context ← config.validateContext
    let tls ← config.require Config.TLS
    let tlsPort ← config.validateTlsPort (parseBoolean tls)
    let displayResponse ← config.require Config.DISPLAY_RESPONSE
    let typeOffset ← config.validateTypeOffset
    let forwarded ← config.require Config.ALLOW_FORWARDING
    let allowForwarding := lists.alloc (listedIntegers forwarded)
    .ok
      ({ config with
          host, port, context, tlsPort, typeOffset
          tls := parseBoolean tls
          uri := address host port context
          tlsUri := address host tlsPort context
          displayResponse := parseBoolean displayResponse
          allowForwarding := allowForwarding.1
          isValid := true },
        allowForwarding.2)

/-- `validateLogin`. -/
def validateLogin (config : LocalConfig) : Except Stop LocalConfig :=
  if config.isValidLogin then .ok config
  else do
    let loginUrl ← config.require Config.LOGIN_URL
    let username ← config.require Config.USERNAME
    let password ← config.require Config.PASSWORD
    let checkLoginUrl ← config.require Config.CHECK_LOGIN_URL
    .ok { config with loginUrl, username, password, checkLoginUrl, isValidLogin := true }

/-- `validateCommands`: the list for the websocket is a new object. -/
def validateCommands (config : LocalConfig) (lists : Lists) :
    Except Stop (LocalConfig × Lists) :=
  if config.isValidCommand then .ok (config, lists)
  else do
    let allowForwardingOnWs :=
      lists.alloc (((config.map Config.ALLOW_FORWARDING_ON_WS).map listedIntegers).getD [])
    let commandWsUrl ← config.require Config.COMMAND_WS_URL
    .ok
      ({ config with
          allowForwardingOnWs := allowForwardingOnWs.1
          commandWsUrl
          isValidCommand := true },
        allowForwardingOnWs.2)

end LocalConfig

end IotLab.Gateway
