import PeerPost.Config.EnvFile
import PeerPost.Config.Settings
import PeerPost.Text.Quoted

/-!
# Loading the settings

The settings from environment variables and an environment file. Every setting that is not given has its
default. A section may also be given as a list of its settings in order; names that are not known are
ignored.
-/

namespace PeerPost.Config

/-- What stands where something else is expected. `large` is a natural number above a bound. -/
inductive Found where
  | scalar (value : Scalar)
  | large (value : Nat)
  | nothing
  | list
  | table
deriving DecidableEq

/-- Why settings cannot be loaded. `fromVariable` says whether the value comes from a variable as it
stands. -/
inductive LoadError where
  | setting (found : Found) (expected key : String) (fromVariable : Bool)
  | wrongSection (found : Found) (expected : String)
  | shortSection (length : Nat) (expected : String)
  | unknownStage (name : String)
  | noStage
  | place (fault : PlaceFault)
  | unsettable (e : Unsettable)
deriving DecidableEq

namespace Found

/-- What a value is. -/
def ofValue : Value → Found
  | .nothing => .nothing
  | .scalar s => .scalar s
  | .list _ => .list
  | .table _ => .table

def marked (word text : String) : String :=
  word ++ " `" ++ text ++ "`"

/-- The description of what stands in the place of a setting. -/
def inSetting : Found → String
  | .scalar (.bool b) => marked "boolean" (Scalar.bool b).display
  | .scalar (.integer n) => marked "64-bit integer" (Scalar.integer n).display
  | .scalar (.float x) => marked "floating point" (Scalar.float x).display
  | .scalar (.text s) => "string " ++ Text.quoted s
  | .large n => marked "64-bit unsigned integer" (String.ofList (Decimal.digits n))
  | .nothing => "unit value"
  | .list => "sequence"
  | .table => "map"

/-- The text of a number with a point in it, unless it is not finite. -/
def withPoint (x : Binary64) : String :=
  match x with
  | .finite .. => if x.chars.contains '.' then String.ofList x.chars else String.ofList (x.chars ++ ['.', '0'])
  | _ => String.ofList x.chars

/-- The description of what stands in the place of a section. -/
def inSection : Found → String
  | .scalar (.integer n) => marked "integer" (Scalar.integer n).display
  | .scalar (.float x) => marked "floating point" (withPoint x)
  | found => found.inSetting

end Found

namespace LoadError

def stageType : String := "Environment"

/-- What is wrong with the values that were given. -/
def reason : LoadError → String
  | .setting found expected key fromVariable =>
    "invalid type: " ++ found.inSetting ++ ", expected " ++ expected ++ " for key `" ++ key ++ "`" ++
      if fromVariable then " in the environment" else ""
  | .wrongSection found expected => "invalid type: " ++ found.inSection ++ ", expected " ++ expected
  | .shortSection length expected =>
    "invalid length " ++ String.ofList (Decimal.digits length) ++ ", expected " ++ expected
  | .unknownStage name => "enum " ++ stageType ++ " does not have variant constructor " ++ name
  | .noStage =>
    "value of enum " ++ stageType ++ " should be represented by either string or table with exactly one key"
  | .place fault => fault.message
  | .unsettable e => e.message

/-- Whether loading breaks off, which is worse than to fail for the values that were given. -/
def breaksOff : LoadError → Bool
  | .place _ | .unsettable _ => true
  | _ => false

def message (e : LoadError) : String :=
  "Configuration loading failed: " ++ e.reason

end LoadError

/-! ## Settings -/

/-- The error for a value that is no setting of the expected kind. -/
def mismatch (expected key : String) (value : Value) : LoadError :=
  match value with
  | .scalar s => .setting (.scalar s) expected key true
  | value => .setting (.ofValue value) expected key false

/-- Reads a text; scalars of other kinds give their text. -/
def readText (key : String) : Value → Except LoadError String
  | .scalar s => .ok s.display
  | value => .error (mismatch "a string" key value)

/-- Reads a text that may be missing. -/
def readOptionalText (key : String) : Value → Except LoadError (Option String)
  | .nothing => .ok none
  | value => (readText key value).map some

/-- The truth value that a word stands for. -/
def truthOf? (word : List Char) : Option Bool :=
  if ["1", "true", "on", "yes"].contains (String.ofList word) then some true
  else if ["0", "false", "off", "no"].contains (String.ofList word) then some false
  else none

/-- Reads a truth value. Numbers other than zero are true. -/
def readBool (key : String) : Value → Except LoadError Bool
  | .scalar (.bool b) => .ok b
  | .scalar (.integer n) => .ok (n ≠ 0)
  | .scalar (.float x) => .ok !x.isZero
  | .scalar (.text s) =>
    let small := Text.lower s.toList
    match truthOf? small with
    | some b => .ok b
    | none => .error (mismatch "a boolean" key (.scalar (.text (String.ofList small))))
  | value => .error (mismatch "a boolean" key value)

def greatest64 : Nat := 18446744073709551615

/-- Reads a natural number of 64 bits. Truth values and the words for them are 1 and 0. -/
def readNat (key : String) : Value → Except LoadError Nat
  | .scalar (.integer n) =>
    if 0 ≤ n then .ok n.toNat
    else .error (mismatch "an unsigned 64 bit or less integer" key (.scalar (.integer n)))
  | .scalar (.bool b) => .ok b.toNat
  | .scalar (.float x) => .ok (x.toNatUpTo greatest64)
  | .scalar (.text s) =>
    match truthOf? (Text.lower s.toList) with
    | some b => .ok b.toNat
    | none => .error (mismatch "an integer" key (.scalar (.text s)))
  | value => .error (mismatch "an integer" key value)

def readPort (key : String) (value : Value) : Except LoadError UInt16 := do
  let n ← readNat key value
  if n ≤ 65535 then .ok n.toUInt16
  else .error (.setting (.large n) "an unsigned 16 bit integer" key false)

/-- The stage with this name in any case. -/
def stageOf? (name : String) : Option Stage :=
  [Stage.development, .staging, .production].find? fun stage =>
    Text.lower stage.name.toList = Text.lower name.toList

/-- Reads where the node runs: a name, or a table with that name as its only one. -/
def readStage : Value → Except LoadError Stage
  | .scalar (.text name) | .table [(name, _)] =>
    match stageOf? name with
    | some stage => .ok stage
    | none => .error (.unknownStage name)
  | _ => .error .noStage

/-! ## Sections -/

/-- The settings that are given for a section. -/
inductive Section where
  | named (key : String) (entries : List (String × Value))
  | listed (key : String) (items : List Value)

namespace Section

/-- The settings in a section that must be a table or a list. -/
def ofValue (key type : String) : Value → Except LoadError Section
  | .table entries => .ok (.named key entries)
  | .list items => .ok (.listed key items)
  | value => .error (.wrongSection (.ofValue value) ("struct " ++ type))

/-- The setting with a name, which has a place in the list of settings, with its key. -/
def find? (given : Section) (place : Nat) (name : String) : Option (String × Value) :=
  match given with
  | .named key entries => (Entries.get? entries name).map fun value => (key ++ "." ++ name, value)
  | .listed key items =>
    items[place]?.map fun value => (key ++ "[" ++ String.ofList (Decimal.digits place) ++ "]", value)

/-- Reads a setting that has a default. -/
def read {α : Type} (given : Section) (place : Nat) (name : String) (otherwise : α)
    (reader : String → Value → Except LoadError α) : Except LoadError α :=
  match given.find? place name with
  | some (key, value) => reader key value
  | none => .ok otherwise

/-- Checks that a list of settings has at least some number of them, of which all are expected. -/
def checkLength (given : Section) (least : Nat) (expected : String) : Except LoadError Unit :=
  match given with
  | .listed _ items => if items.length < least then .error (.shortSection (least - 1) expected) else .ok ()
  | .named .. => .ok ()

end Section

/-- Reads the settings of the server. In a list all six must be there. -/
def readServer (value : Value) : Except LoadError ServerSettings := do
  let given ← Section.ofValue "server" "ServerConfig" value
  let default := ServerSettings.default
  let host ← given.read 0 "host" default.host readText
  let port ← given.read 1 "port" default.port readPort
  let stage ← given.read 2 "environment" default.stage fun _ => readStage
  let logLevel ← given.read 3 "log_level" default.logLevel readText
  let timeout ← given.read 4 "request_timeout_secs" default.requestTimeoutSecs.toNat readNat
  given.checkLength 6 "struct ServerConfig with 6 elements"
  let corsOrigins? ← given.read 5 "cors_origins" default.corsOrigins? readOptionalText
  return ⟨host, port, stage, logLevel, timeout.toUInt64, corsOrigins?⟩

def readEvents (value : Value) : Except LoadError EventSettings := do
  let given ← Section.ofValue "events" "EventsConfig" value
  let capacity ← given.read 0 "channel_capacity" EventSettings.default.channelCapacity.toNat readNat
  return ⟨capacity.toUInt64⟩

def readNode (value : Value) : Except LoadError NodeSettings := do
  let given ← Section.ofValue "node" "NodeConfig" value
  let name ← given.read 0 "local_author_name" NodeSettings.default.localAuthorName readText
  let seeds ← given.read 1 "seed_demo_contacts" NodeSettings.default.seedDemoContacts readBool
  return ⟨name, seeds⟩

def readSettings (tree : Value) : Except LoadError Settings := do
  let find {α : Type} (name : String) (otherwise : α) (reader : Value → Except LoadError α) : Except LoadError α :=
    match Entries.get? tree.entries name with
    | some value => reader value
    | none => .ok otherwise
  return ⟨← find "server" .default readServer, ← find "events" .default readEvents,
    ← find "node" .default readNode⟩

/-- Loads the settings from variables and, where they do not say otherwise, from a file of variables. -/
def load (env : Variables) (file? : Option String) : Except LoadError Settings :=
  match file?.elim (.ok env) (EnvFile.load env) with
  | .error e => .error (.unsettable e)
  | .ok env =>
    match env.tree with
    | .error fault => .error (.place fault)
    | .ok tree => readSettings tree

end PeerPost.Config
