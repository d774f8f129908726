import PeerPost.Text.Hexadecimal

/-!
# Request targets

The path of a request target, the percent-decoding of a path segment, and the routes of the interface.
Paths are compared as they stand: escapes are decoded only in the segment that names a contact.
-/

namespace PeerPost.Http

/-- Whether a character ends the path of a target. -/
def endsPath (c : Char) : Bool :=
  c = '?' || c = '#'

/-- The rest of a target after `scheme://`, if it starts so. -/
def afterScheme? : List Char → Option (List Char)
  | ':' :: '/' :: '/' :: rest => some rest
  | c :: rest => if c = '/' || endsPath c then none else afterScheme? rest
  | [] => none

/-- The path of a request target. A target with a scheme and a host has the path after the host, and a
target that is only a host has none. -/
def pathOf (target : List Char) : List Char :=
  match target with
  | '/' :: _ => target.takeWhile fun c => !endsPath c
  | _ =>
    match afterScheme? target with
    | none => []
    | some rest =>
      let path := (rest.dropWhile fun c => c ≠ '/' && !endsPath c).takeWhile fun c => !endsPath c
      if path.isEmpty then ['/'] else path

/-- Percent-decodes bytes. A percent sign without two hexadecimal digits after it stays. -/
def percentDecode : Bytes → Bytes
  | 0x25 :: a :: b :: rest =>
    match Hexadecimal.byteValue? a, Hexadecimal.byteValue? b with
    | some x, some y => (x * 16 + y).toUInt8 :: percentDecode rest
    | _, _ => 0x25 :: percentDecode (a :: b :: rest)
  | b :: rest => b :: percentDecode rest
  | [] => []

/-- A route of the interface. `conversation` has the path segment that names the contact. -/
inductive Route where
  | contacts
  | conversation (segment : List Char)
  | events
deriving DecidableEq

def Route.ofPath? (path : List Char) : Option Route :=
  if path = "/v1/contacts".toList then some .contacts
  else if path = "/v1/ws".toList then some .events
  else
    match "/v1/messages/".toList.isPrefixOf? path with
    | some segment => if segment.isEmpty || segment.contains '/' then none else some (.conversation segment)
    | none => none

def Route.allowed : Route → String
  | .conversation _ => "GET,HEAD,POST"
  | .contacts | .events => "GET,HEAD"

/-- The text of a path segment, if its decoded bytes are UTF-8. -/
def segmentText? (segment : List Char) : Option String :=
  Text.ofUtf8? (percentDecode (Text.utf8 (String.ofList segment)))

end PeerPost.Http
