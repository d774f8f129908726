import PeerPost.Json.Scanner

/-!
# Drafts

A draft is the body of a request to write a message: a JSON object whose member `text` is a string or
null, with any other members beside it, or an array of just that value. A missing member is as good as
null, and a repeated one is refused.
-/

namespace PeerPost

open Json.Scanner

/-- What a request to write a message asks for. -/
structure Draft where
  text? : Option String
deriving DecidableEq

namespace Draft

/-- Reads a string or null. -/
def readText? (input : Bytes) : Option (Option String × Bytes) :=
  match skipSpace input with
  | 0x6E :: rest => (skipLiteral? [0x75, 0x6C, 0x6C] rest).map fun rest => (none, rest)
  | 0x22 :: rest => (readString? rest).map fun (text, rest) => (some text, rest)
  | _ => none

/-- Reads a member after the opening quote of its name. `found` is the value of the member `text`, if it
was there before. -/
def readMember? (steps : Nat) (found : Option (Option String)) (input : Bytes) :
    Option (Option (Option String) × Bytes) :=
  match readString? input with
  | none => none
  | some (name, rest) =>
    match skipSpace rest with
    | 0x3A :: rest =>
      if name = "text" then
        -- A second member `text` is refused.
        if found.isSome then none else (readText? rest).map fun (text, rest) => (some text, rest)
      else (skipValue? steps rest).map fun rest => (found, rest)
    | _ => none

/-- Reads the members of an object up to and with its closing bracket, from before a name. -/
def readMembers? : Nat → Option (Option String) → Bytes → Option (Option String × Bytes)
  -- Every member takes at least one byte, so the steps do not run out before the members.
  | 0, _, _ => none
  | steps + 1, found, input =>
    match skipSpace input with
    | 0x22 :: rest =>
      match readMember? steps found rest with
      | none => none
      | some (found, rest) =>
        match skipSpace rest with
        | 0x2C :: rest => readMembers? steps found rest
        | 0x7D :: rest => some (found.join, rest)
        | _ => none
    | _ => none

/-- Reads the rest of an object after its opening bracket. -/
def readObject? (input : Bytes) : Option (Option String × Bytes) :=
  match skipSpace input with
  | 0x7D :: rest => some (none, rest)
  | rest => readMembers? rest.length none rest

/-- Reads the rest of an array of one value after its opening bracket. -/
def readArray? (input : Bytes) : Option (Option String × Bytes) :=
  match readText? input with
  | none => none
  | some (text, rest) =>
    match skipSpace rest with
    | 0x5D :: rest => some (text, rest)
    | _ => none

/-- The draft that a body holds. Nothing but white space may follow it. -/
def decode? (body : Bytes) : Option Draft :=
  let read :=
    match skipSpace body with
    | 0x7B :: rest => readObject? rest
    | 0x5B :: rest => readArray? rest
    | _ => none
  match read with
  | some (text, rest) => if atEnd rest then some ⟨text⟩ else none
  | none => none

end Draft

end PeerPost
