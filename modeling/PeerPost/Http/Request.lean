import PeerPost.Http.Target
import PeerPost.Text.Blank

/-!
# Requests

A request is a method, a target, headers and a body. Header names are compared without regard to case.
-/

namespace PeerPost.Http

structure Request where
  method : String
  target : String
  headers : List (String × Bytes)
  body : Bytes

/-- A header name with small letters. -/
def lowerName (name : String) : List Char :=
  name.toList.map Text.lowerAscii

/-- An ASCII letter byte as a small letter. -/
def lowerByte (b : UInt8) : UInt8 :=
  if 0x41 ≤ b && b ≤ 0x5A then b + 0x20 else b

/-- Whether a sequence of bytes has another one in it. -/
def hasInfix (part : Bytes) : Bytes → Bool
  | [] => part.isEmpty
  | b :: rest => part.isPrefixOf (b :: rest) || hasInfix part rest

namespace Request

/-- The value of the first header with a name. -/
def header? (request : Request) (name : String) : Option Bytes :=
  (request.headers.find? fun h => lowerName h.1 = name.toList).map Prod.snd

def route? (request : Request) : Option Route :=
  Route.ofPath? (pathOf request.target.toList)

/-- Whether a header is a given ASCII text, without regard to case. -/
def headerIs (request : Request) (name text : String) : Bool :=
  match request.header? name with
  | some value => value.map lowerByte = Text.utf8 text
  | none => false

/-- Whether a header is UTF-8 and has a given ASCII text in it, without regard to case. -/
def headerHas (request : Request) (name text : String) : Bool :=
  match request.header? name with
  | some value => (Text.ofUtf8? value).isSome && hasInfix (Text.utf8 text) (value.map lowerByte)
  | none => false

end Request

end PeerPost.Http
