import PeerPost.Config.Variables
import PeerPost.Text.Alphanumeric

/-!
# Environment files

A file of variables, one `name=value` a line, with `export` before it if one likes. A value may be
quoted, may have a comment after it, and may name other variables after a dollar sign. Reading stops
without complaint at the first line that is not understood, and a variable that is already set keeps its
value.
-/

namespace PeerPost.Config.EnvFile

/-! ## Lines -/

/-- Where the scanner of lines stands. A line ends only outside quotes. -/
inductive Place where
  | plain
  | blank
  | escape
  | strong
  | strongEscape
  | weak
  | weakEscape
  | comment
deriving DecidableEq

/-- The place after a character outside quotes that may start an escape or quotes. -/
def Place.outside (c : Char) (otherwise : Place) : Place :=
  if c = '\\' then .escape else if c = '"' then .weak else if c = '\'' then .strong else otherwise

/-- The place after a character. A comment starts after a single blank; a second blank in a row counts as
text. -/
def Place.next (c : Char) : Place → Place
  | .plain => Place.outside c (if Text.isBlank c && c ≠ '\n' && c ≠ '\r' then .blank else .plain)
  | .blank => if c = '#' then .comment else Place.outside c .plain
  | .escape => .plain
  | .strong => if c = '\\' then .strongEscape else if c = '\'' then .plain else .strong
  | .strongEscape => .strong
  | .weak => if c = '\\' then .weakEscape else if c = '"' then .plain else .weak
  | .weakEscape => .weak
  | .comment => .comment

/-- The text after the end of the current line. -/
def dropLine (text : List Char) : List Char :=
  (text.dropWhile fun c => c ≠ '\n').drop 1

/-- Reads to the end of a line that may go over several lines inside quotes. A file that ends inside
quotes, or after a blank or a backslash, has no such line. -/
def readLine? (place : Place) (line : List Char) : List Char → Option (List Char × List Char)
  | [] => if place = .plain then some (line.reverse, []) else none
  | c :: rest =>
    match place.next c with
    | .comment => some (line.reverse, dropLine rest)
    | next => if c = '\n' ∧ next = .plain then some (line.reverse, rest) else readLine? next (c :: line) rest

def startsComment (text : List Char) : Bool :=
  (Text.trimStart (text.takeWhile fun c => c ≠ '\n')).head? = some '#'

/-! ## Values -/

/-- Where the reader of a value stands. `quoted` says whether it is inside double quotes; `name` and
`braced` have the name of a variable so far, the last character first. -/
inductive Mode where
  | bare (quoted : Bool)
  | escaped (quoted : Bool)
  | strong
  | name (quoted : Bool) (collected : List Char)
  | braced (quoted : Bool) (collected : List Char)
  | ended

/-- The value of a variable, which is empty if it is not set. -/
def lookup (env : Variables) (collected : List Char) : List Char :=
  (env.lookup? collected.reverse).getD []

def canEscape (c : Char) : Bool :=
  c = '\\' || c = '\'' || c = '"' || c = '$' || c = ' '

/-- Reads a character outside a name: the mode after it, and what it adds to the value. -/
def readBare (quoted : Bool) (c : Char) : Mode × List Char :=
  if c = '$' then (.name quoted [], [])
  else if c = '\\' then (.escaped quoted, [])
  else if c = '"' then (.bare (!quoted), [])
  else if quoted then (.bare true, [c])
  else if c = '\'' then (.strong, [])
  else if c = ' ' ∨ c = '\t' then (.ended, [])
  else (.bare false, [c])

/-- Reads a character: the mode after it, and what it adds to the value. -/
def readChar? (env : Variables) (c : Char) : Mode → Option (Mode × List Char)
  | .ended => if c = ' ' ∨ c = '\t' then some (.ended, []) else none
  | .escaped quoted =>
    if canEscape c then some (.bare quoted, [c]) else if c = 'n' then some (.bare quoted, ['\n']) else none
  | .strong => some (if c = '\'' then (.bare false, []) else (.strong, [c]))
  | .name quoted collected =>
    if Text.isAlphanumeric c then some (.name quoted (c :: collected), [])
    else if c = '{' ∧ collected = [] then some (.braced quoted [], [])
    else if c = '$' then some (.name quoted [], lookup env collected)
    else some (.bare quoted, lookup env collected ++ [c])
  | .braced quoted collected =>
    if c = '}' then some (.bare quoted, lookup env collected)
    else some (.braced quoted (c :: collected), [])
  | .bare quoted => some (readBare quoted c)

/-- What the end of a line adds to the value. Quotes and braces must be closed before it. -/
def finish? (env : Variables) : Mode → Option (List Char)
  | .ended | .bare false | .escaped false => some []
  | .name false collected => some (lookup env collected)
  | _ => none

/-- Reads a value. `value` has its characters so far, the last one first. -/
def readValue? (env : Variables) (mode : Mode) (value : List Char) : List Char → Option (List Char)
  | [] => (finish? env mode).map fun more => value.reverse ++ more
  | c :: rest =>
    match mode, c with
    | .ended, '#' => some value.reverse
    | mode, c =>
      match readChar? env c mode with
      | some (mode, more) => readValue? env mode (more.reverse ++ value) rest
      | none => none

/-! ## Assignments -/

def startsName (c : Char) : Bool :=
  ('a' ≤ c && c ≤ 'z') || ('A' ≤ c && c ≤ 'Z') || c = '_'

def continuesName (c : Char) : Bool :=
  startsName c || Decimal.isDigit c || c = '.'

/-- Reads a name and the white space after it. -/
def readName? : List Char → Option (String × List Char)
  | c :: rest =>
    if startsName c then
      some (String.ofList (c :: rest.takeWhile continuesName), Text.trimStart (rest.dropWhile continuesName))
    else none
  | [] => none

/-- Skips an equals sign and the white space after it. -/
def skipEquals? : List Char → Option (List Char)
  | '=' :: rest => some (Text.trimStart rest)
  | _ => none

/-- Reads a name, with `export` before it or not, and the equals sign after it. -/
def readTarget? (line : List Char) : Option (String × List Char) := do
  let (name, rest) ← readName? line
  match skipEquals? rest with
  | some rest => some (name, rest)
  | none =>
    if name = "export" then
      let (name, rest) ← readName? rest
      let rest ← skipEquals? rest
      some (name, rest)
    else none

/-- What a line says. -/
inductive Line where
  | assignment (name value : String)
  | nothing
  | misunderstood

def Line.read (env : Variables) (line : List Char) : Line :=
  let line := Text.trim line
  if line.isEmpty || line.head? = some '#' then .nothing
  else
    match readTarget? line with
    | none => .misunderstood
    | some (name, rest) =>
      if rest.isEmpty || rest.head? = some '#' then .assignment name ""
      else
        match readValue? env (.bare false) [] rest with
        | some value => .assignment name (String.ofList value)
        | none => .misunderstood

/-- Sets a variable that is not set yet. -/
def setNew (env : Variables) (name value : String) : Except Unsettable Variables :=
  if (Entries.get? env name).isSome then .ok env else env.set name value

/-- Sets the variables of the lines of a file, as far as they are understood. -/
def loadLines : Nat → Variables → List Char → Except Unsettable Variables
  -- Every line takes at least one character, so the rounds do not run out before the text.
  | 0, env, _ => .ok env
  | _, env, [] => .ok env
  | rounds + 1, env, text =>
    if startsComment text then loadLines rounds env (dropLine text)
    else
      match readLine? .plain [] text with
      | none => .ok env
      | some (line, rest) =>
        match Line.read env line with
        | .assignment name value =>
          match setNew env name value with
          | .ok env => loadLines rounds env rest
          | .error e => .error e
        | .nothing => loadLines rounds env rest
        | .misunderstood => .ok env

/-- Sets the variables of a file. A byte order mark at its start is ignored. -/
def load (env : Variables) (file : String) : Except Unsettable Variables :=
  match file.toList with
  | c :: rest => loadLines (rest.length + 1) env (if c.toNat = 0xFEFF then rest else c :: rest)
  | [] => .ok env

end PeerPost.Config.EnvFile
