import XdgPortals.Client.System
import XdgPortals.Facade.Backends

/-!
# The addon as a step system

The node a game uses, one native backend, and the client behind it. A call of the node that reaches
the backend begins a request of the client; what the client hands to Godot waits in a queue until
Godot emits it, and the backend and the node emit it again. How the other backends answer is any
function, and so is what this one answers to the calls that begin no request.
-/

namespace XdgPortals

open Facade

/-- The signal of the backend for one of the client. -/
def Emission.forwarded : Emission → BackendSignal
  | .signal (.powerSaverChanged enabled) => .powerSaverChanged enabled
  | .signal (.requestCompleted handle response results) =>
    .requestCompleted handle response.toInt results
  | .signal (.portalError context message) => .portalError context message
  | .notificationActionInvoked id action parameters =>
    .notificationActionInvoked id action parameters

/-- What the game gets from the backend: the handles that calls return, and its signals. -/
inductive Seen where
  | returned (handle : String)
  | emitted (signal : BackendSignal)

/-- The node, the client, what Godot has emitted for it, and what the game has seen, the latest
first. -/
structure Addon where
  node : Node Backend := {}
  client : Client := {}
  flushed : List Emission := []
  seen : List Seen := []

namespace Addon

inductive Action where
  | call (random : UInt32) (action : Node.Action Backend)
  | client (action : Client.Action)
  | flush

/-- The next emission in Godot's queue. -/
def next (s : Addon) : Option Emission :=
  (Client.deferred s.client.history).reverse[s.flushed.length]?

/-- The other backends emit nothing. -/
def emits : Node.Action Backend → Bool
  | .facade (.backendEmits _ _) => true
  | _ => false

/-- What the client does by itself. -/
def isInternal : Client.Action → Bool
  | .inhibit _ _ _ _ | .openUri _ _ _ _ | .shutDown => false
  | _ => true

variable (env : Environment) (u : UniqueName) (b : Backend)

/-- The request the node has asked the backend for in a call. -/
def asked (random : UInt32) (before after : Node Backend) :
    Node.Action Backend → Option Client.Action
  | .facade (.openUri uri ask parentWindow) =>
    match after.facade.history with
    | .openUri c _ _ _ :: _ =>
      if c = b then some (.openUri random uri ask parentWindow) else none
    | _ => none
  | .inhibit flags reason parentWindow =>
    if before.exchanges.length < after.exchanges.length ∧ after.facade.backend = some b then
      some (.inhibit random flags.toInt32 reason parentWindow)
    else none
  | _ => none

/-- The handle the client returns. -/
def handleOf (n : XdgPortalNative) : Client.Action → String
  | .inhibit random flags reason parentWindow =>
    (n.inhibit (some (some u.toString)) random flags reason parentWindow).2.1
  | .openUri random uri ask parentWindow =>
    (n.openUriRequest (some (some u.toString)) random uri ask parentWindow).2.1
  | _ => ""

/-- The call of the node returns the handle. -/
def returns (handle : String) : Node.Result → Bool
  | .string value => value == handle
  | _ => false

/-- One step. A call that reaches the backend returns what the client returns. -/
def step (s : Addon) : Action → Option Addon
  | .call random action =>
    if emits action then none
    else
      let (result, node) := s.node.perform env.services action
      match asked b random s.node node action with
      | some request =>
        match Client.step u s.client request with
        | none => none
        | some client =>
          let handle := handleOf u s.client.native request
          if returns handle result then
            some { s with
              node := node
              client := client
              seen := if handle = "" then s.seen else .returned handle :: s.seen }
          else none
      | none =>
        -- the backend has dropped its last reference to the client
        if isShutDown b node.facade.history && !isShutDown b s.node.facade.history then
          match Client.step u s.client .shutDown with
          | none        => none
          | some client => some { s with node := node, client := client }
        else some { s with node := node }
  | .client action =>
    if isInternal action then
      match Client.step u s.client action with
      | none        => none
      | some client => some { s with client := client }
    else none
  | .flush =>
    match s.next with
    | none => none
    | some emission =>
      let flushed := emission :: s.flushed
      -- what has been deferred to an object that is gone is dropped
      if isShutDown b s.node.facade.history then some { s with flushed := flushed }
      else
        let signal := emission.forwarded
        let facade := s.node.facade.backendEmits b signal
        let count := s.node.facade.connections.count (b, signal.name)
        some { s with
          node := { s.node with facade := facade }
          flushed := flushed
          seen := List.replicate count (.emitted signal) ++ s.seen }

/-- The addon from the start of the game on. -/
def machine : Machine Addon Action where
  init := {}
  step := step env u b

end Addon

end XdgPortals
