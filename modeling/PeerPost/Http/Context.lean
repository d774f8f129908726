import PeerPost.Http.Failure
import PeerPost.Http.Response
import PeerPost.Message.Draft

/-!
# Request contexts

A context carries one request, its path parameters and its body, and the response written so far. A
controller takes a context and gives the same context back with a response in it.
-/

namespace PeerPost.Http

/-- A request and the response written so far. -/
structure Context where
  requestId : String
  params : List (String × String)
  body : Bytes
  status : Nat
  response? : Option Json

namespace Context

/-- A context without parameters, body and response. -/
def fresh (requestId : String) : Context := ⟨requestId, [], [], 200, none⟩

def withParam (ctx : Context) (name value : String) : Context :=
  { ctx with params := (name, value) :: ctx.params }

def withBody (ctx : Context) (body : Bytes) : Context :=
  { ctx with body := body }

def param? (ctx : Context) (name : String) : Option String :=
  (ctx.params.find? fun p => p.1 = name).map Prod.snd

def draft? (ctx : Context) : Option Draft :=
  Draft.decode? ctx.body

/-- Writes a response. A body that has no JSON form becomes an internal failure. -/
def respondWith (ctx : Context) (status : Nat) : Option Json → Context
  | some body => { ctx with status := status, response? := some body }
  | none => { ctx with status := 500, response? := some (Failure.internal "Response serialization failed").toJson }

def respond (ctx : Context) (status : Nat) (body : Json) : Context :=
  ctx.respondWith status (some body)

def json (ctx : Context) (body : Json) : Context :=
  ctx.respond 200 body

def fail (ctx : Context) (status : Nat) (failure : Failure) : Context :=
  ctx.respond status failure.toJson

/-- The response of a context; without one written, only the status. -/
def toResponse (ctx : Context) : Response :=
  match ctx.response? with
  | some body => .json ctx.status body
  | none => .bare ctx.status

end Context

end PeerPost.Http
