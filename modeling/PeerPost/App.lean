import PeerPost.Config.Settings
import PeerPost.Demo
import PeerPost.Http.Router

/-!
# The application

A node as its settings ask for it, and how it answers requests. The keys and the time come from outside.
-/

namespace PeerPost

/-- A node and the origins from which its router admits requests. -/
structure App where
  node : Node
  origins : Http.Origins

/-- Why an application cannot be built: there is no node, or its demo contacts cannot be added. -/
inductive BuildFailure where
  | start (failure : StartFailure)
  | seed (failure : Demo.SeedFailure)
deriving DecidableEq

namespace App

/-- Makes a node, adds the demo contacts if the settings ask for them, and gives the node its router. -/
def build (settings : Settings) (key : Bytes) (demoKeys : Demo.Keys) (now : Timestamp) : Except BuildFailure App :=
  match Node.create settings.node.localAuthorName key settings.events.channelCapacity.toNat with
  | .error failure => .error (.start failure)
  | .ok node =>
    if settings.node.seedDemoContacts then
      match Demo.seed demoKeys now node with
      | (none, node) => .ok ⟨node, settings.server.origins⟩
      | (some failure, _) => .error (.seed failure)
    else .ok ⟨node, settings.server.origins⟩

/-- Answers a request. -/
def serve (app : App) (now : Timestamp) (request : Http.Request) : Http.Response × App :=
  let (response, node) := Http.serve app.origins app.node now request
  (response, { app with node := node })

end App

end PeerPost
