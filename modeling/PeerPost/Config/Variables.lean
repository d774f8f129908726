import PeerPost.Config.Value
import PeerPost.Text.Quoted

/-!
# Environment variables

The variables that configure a node. Their names start with the name of the program and two underscores,
in any case; two underscores, and also a dot, separate the steps of the rest.
-/

namespace PeerPost.Config

/-- Environment variables. A variable that is set again keeps its place. -/
abbrev Variables := List (String × String)

structure Unsettable where
  name : String
  value : String
deriving DecidableEq

/-- Whether a text has a zero character, which would end it too early. -/
def hasZero (text : String) : Bool :=
  text.toList.contains '\x00'

def Unsettable.message (e : Unsettable) : String :=
  "failed to set environment variable `" ++ Text.quoted e.name ++ "` to `" ++ Text.quoted e.value ++ "`: " ++
    if hasZero e.name || hasZero e.value then "file name contained an unexpected NUL byte"
    else "Invalid argument (os error 22)"

namespace Variables

/-- Sets a variable. Its name must not be empty or have an equals sign. -/
def set (env : Variables) (name value : String) : Except Unsettable Variables :=
  if name.isEmpty || name.toList.contains '=' || hasZero name || hasZero value then .error ⟨name, value⟩
  else .ok (Entries.put name value env)

/-- The value of a variable. -/
def lookup? (env : Variables) (name : List Char) : Option (List Char) :=
  let whole := String.ofList name
  env.findSome? fun (n, value) =>
    if n = whole then some value.toList
    -- Variables are kept as lines of the form `name=value`, and what is looked for is the start of a line; so
    -- a name with an equals sign in it can be found too.
    else if name.contains '=' && whole.startsWith (n ++ "=") then
      let rest := name.drop (n.length + 1) ++ ['=']
      if value.startsWith (String.ofList rest) then some (value.toList.drop rest.length) else none
    else none

/-- The start of the names of all variables of the configuration. -/
def namespaceChars : List Char := "courier__".toList

/-- A text with a dot for every two underscores. -/
def dotted : List Char → List Char
  | '_' :: '_' :: rest => '.' :: dotted rest
  | c :: rest => c :: dotted rest
  | [] => []

/-- The key of a variable of the configuration. -/
def key? (name : String) : Option (List Char) :=
  (namespaceChars.isPrefixOf? (Text.lower name.toList)).map dotted

/-- The keys of the configuration with their values. Of two variables with the same key the later one
counts. -/
def keys (env : Variables) : List (String × Scalar) :=
  env.foldl (fun found (name, text) =>
    match key? name with
    | some key => Entries.put (String.ofList key) (Scalar.ofText text) found
    | none => found) []

def tree (env : Variables) : Except PlaceFault Value :=
  env.keys.foldlM (fun (tree : Value) (key, scalar) => tree.set scalar (Step.ofKey key.toList))
    (.table [])

end Variables

end PeerPost.Config
