import PeerPost.Author
import PeerPost.Config.SocketAddress
import PeerPost.Http.Cors

/-!
# Settings

What a node is started with, the values that hold without any configuration, and the checks before the
start. The checks go in the order server, events, node, and the first that fails is reported.
-/

namespace PeerPost

/-- Where a node runs. -/
inductive Stage where
  | development
  | staging
  | production
deriving DecidableEq

def Stage.name : Stage → String
  | .development => "Development"
  | .staging => "Staging"
  | .production => "Production"

/-- The settings of the HTTP server. -/
structure ServerSettings where
  host : String
  port : UInt16
  stage : Stage
  logLevel : String
  requestTimeoutSecs : UInt64
  corsOrigins? : Option String
deriving DecidableEq

/-- The settings of the event channel. -/
structure EventSettings where
  channelCapacity : UInt64
deriving DecidableEq

/-- The settings of the local author and the demo contacts. -/
structure NodeSettings where
  localAuthorName : String
  seedDemoContacts : Bool
deriving DecidableEq

/-- All settings. -/
structure Settings where
  server : ServerSettings
  events : EventSettings
  node : NodeSettings
deriving DecidableEq

/-- Why settings are refused. -/
inductive SettingsError where
  | port
  | timeout
  | bindAddress (address : String)
  | channelCapacity
  | authorName
deriving DecidableEq

def SettingsError.message : SettingsError → String
  | .port => "Invalid port number"
  | .timeout => "Invalid request timeout"
  | .bindAddress address => "Invalid bind address: " ++ address
  | .channelCapacity => "Event channel capacity must be positive"
  | .authorName => "Local author name must be 1 to 50 bytes"

namespace ServerSettings

def default : ServerSettings :=
  ⟨"127.0.0.1", 7000, .development, "info,courier_headless=debug,tower_http=info", 30, none⟩

/-- The text of the address to bind: the host, a colon and the port. -/
def bindText (server : ServerSettings) : String :=
  server.host ++ ":" ++ String.ofList (Decimal.digits server.port.toNat)

def socketAddress (server : ServerSettings) : Except SettingsError SocketAddress :=
  match SocketAddress.ofChars? server.bindText.toList with
  | some address => .ok address
  | none => .error (.bindAddress server.bindText)

/-- The longest request timeout in seconds. -/
def maxTimeout : UInt64 := 300

def validate (server : ServerSettings) : Except SettingsError Unit :=
  if server.port = 0 then .error .port
  else if server.requestTimeoutSecs = 0 ∨ maxTimeout < server.requestTimeoutSecs then .error .timeout
  else server.socketAddress.map fun _ => ()

def isProduction (server : ServerSettings) : Bool :=
  server.stage = .production

def originList (server : ServerSettings) : List String :=
  match server.corsOrigins? with
  | some list => Http.originParts list
  | none => []

def origins (server : ServerSettings) : Http.Origins :=
  .ofList server.originList

end ServerSettings

namespace EventSettings

def default : EventSettings := ⟨256⟩

def validate (events : EventSettings) : Except SettingsError Unit :=
  if events.channelCapacity = 0 then .error .channelCapacity else .ok ()

end EventSettings

namespace NodeSettings

def default : NodeSettings := ⟨"courier", false⟩

def validate (node : NodeSettings) : Except SettingsError Unit :=
  let size := Text.size node.localAuthorName
  if size = 0 ∨ Author.maxNameSize < size then .error .authorName else .ok ()

end NodeSettings

namespace Settings

def default : Settings := ⟨.default, .default, .default⟩

def validate (settings : Settings) : Except SettingsError Unit := do
  settings.server.validate
  settings.events.validate
  settings.node.validate

end Settings

end PeerPost
