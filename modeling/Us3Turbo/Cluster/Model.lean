import Us3Turbo.Backend.DataPlaneService
import Us3Turbo.Client.PutOnce
import Us3Turbo.Proxy.ControlPlaneService

/-! # Clients, proxy and backend over one network

Any number of `PutOnce` calls, the proxy and the backend exchange messages that
may be lost, duplicated, delayed and reordered.  Each handler of the proxy is one
step; the backend's `GdsPut` takes its transfer and its notification apart.
-/

namespace Us3Turbo.Cluster

open Us3Turbo.Proto Us3Turbo.Transition
open Us3Turbo.Client (PutOnce ClientOptions PutObjectRequest ConstBufferView TransferOutcome
  GdsMemoryManager)
open Us3Turbo.Backend (DataPlaneService Server Served)
open Us3Turbo.Proxy (ProxyControlPlaneService)

/-- A request, or the answer to the call of a session's attempt or of an execution.
`caller` is the attempt that waits for a `GdsPut`; a `GdsPut` of anybody else has none. -/
inductive Message where
  | openSession (request : OpenSessionRequest)
  | openSessionReply (session : String) (reply : RpcResult OpenSessionResponse)
  | gdsPut (caller : Option String) (request : GdsChunkRequest)
  | gdsPutReply (session : String) (reply : RpcResult GdsChunkResponse)
  | reportGdsPut (execution : Nat) (request : ReportGdsPutRequest)
  | reportGdsPutReply (execution : Nat) (response : ReportGdsPutResponse)
  | abortSession (request : AbortSessionRequest)
  | abortSessionReply (session : String) (reply : RpcResult AbortSessionResponse)

inductive ExecutionStage where
  | receiving
  | notifying (served : Served)
  | done (result : RpcResult Served)

structure Execution where
  caller : Option String
  request : GdsChunkRequest
  stage : ExecutionStage := .receiving

/-- What `ReceiveAndDiscard` brought, once it has succeeded. -/
def Execution.served (execution : Execution) : Option Served :=
  match execution.stage with
  | .receiving => none
  | .notifying served => some served
  | .done (.ok served) => some served
  | .done (.error _) => none

structure World where
  backend : DataPlaneService := {}
  proxy : ProxyControlPlaneService
  attempts : String → Option PutOnce := fun _ => none
  executions : Nat → Option Execution := fun _ => none
  network : List Message := []

/-- A choice of the surroundings.  A message is named by its place in the network. -/
inductive Event where
  | start (options : ClientOptions) (request : PutObjectRequest) (buffer : ConstBufferView)
      (out : TransferOutcome) (requestValue sessionValue : UInt64)
  | acquired (session : String) (manager : GdsMemoryManager) (library : Client.Replies)
  | copied (session : String) (host : Option (List UInt8))
  /-- The RPC that the attempt waits for fails or times out there. -/
  | timeout (session : String) (error : RpcError)
  | otherGdsPut (request : GdsChunkRequest)
  /-- `now` is the proxy's clock, `slot` the name of an execution that begins. -/
  | deliver (index : Nat) (now : Int) (slot : Nat)
  | lose (index : Nat)
  | duplicate (index : Nat)
  | receive (execution : Nat) (server : Server)
  /-- The backend's `ReportGdsPut` call fails or times out there. -/
  | reportTimeout (execution : Nat)

def Event.own : Event → Bool
  | .otherGdsPut _ => false
  | _ => true

def sent (put : PutOnce) : List Message :=
  match put.issued with
  | some (.openSession request _) => [.openSession request]
  | some (.gdsPut request _) => [.gdsPut (some put.attempt.sessionId) request]
  | some (.abortSession request _) => [.abortSession request]
  | _ => []

def answer (execution : Execution) (result : RpcResult Served) : List Message :=
  match execution.caller with
  | some session => [.gdsPutReply session (result.map (·.response))]
  | none => []

namespace World

def send (world : World) (messages : List Message) : World :=
  { world with network := world.network ++ messages }

def setAttempt (world : World) (session : String) (put : PutOnce) : World :=
  { world with attempts := Function.update world.attempts session (some put) }

def setExecution (world : World) (id : Nat) (execution : Execution) : World :=
  { world with executions := Function.update world.executions id (some execution) }

/-- The attempt of `session` gets `reply`, and issues its next call if that moves it on. -/
def resume (world : World) (session : String) (reply : Client.Reply) : Option World :=
  (world.attempts session).map fun put =>
    let after := put.resume reply
    (world.setAttempt session after).send (if after.stage = put.stage then [] else sent after)

def finish (world : World) (id : Nat) (execution : Execution) (result : RpcResult Served) :
    World :=
  (world.setExecution id { execution with stage := .done result }).send (answer execution result)

/-- `GdsPut` after the reply to its `ReportGdsPut`, or after that call failed. -/
def notified (world : World) (id : Nat) : Option World :=
  (world.executions id).map fun execution =>
    match execution.stage with
    | .notifying served => world.finish id execution (.ok served)
    | _ => world

def handle (world : World) (now : Int) (slot : Nat) : Message → Option World
  | .openSession request =>
      let outcome := world.proxy.openSession now request
      some ({ world with proxy := outcome.2 }.send
        [.openSessionReply request.sessionId outcome.1])
  | .openSessionReply session reply => world.resume session (.openSession reply)
  | .gdsPut caller request =>
      if (world.executions slot).isNone then some (world.setExecution slot { caller, request })
      else none
  | .gdsPutReply session reply => world.resume session (.gdsPut reply)
  | .reportGdsPut execution request =>
      let outcome := world.proxy.reportGdsPut request
      some ({ world with proxy := outcome.2 }.send [.reportGdsPutReply execution outcome.1])
  | .reportGdsPutReply execution _ => world.notified execution
  | .abortSession request =>
      some (world.send [.abortSessionReply request.sessionId (Proxy.abortSession request)])
  | .abortSessionReply session reply => world.resume session (.abortSession reply)

/-- `ReceiveAndDiscard` of an execution, up to the notification or the answer. -/
def receive (world : World) (id : Nat) (server : Server) : Option World :=
  match world.executions id with
  | some execution =>
      match execution.stage with
      | .receiving =>
          match world.backend.gdsPut server execution.request with
          | .error error => some (world.finish id execution (.error error))
          | .ok served =>
              match served.notification with
              | none => some (world.finish id execution (.ok served))
              | some report =>
                  some ((world.setExecution id
                    { execution with stage := .notifying served }).send [.reportGdsPut id report])
      | _ => none
  | none => none

def failedCall (put : PutOnce) (error : RpcError) : Option Client.Reply :=
  match put.stage with
  | .opening => some (.openSession (.error error))
  | .putting => some (.gdsPut (.error error))
  | .aborting => some (.abortSession (.error error))
  | _ => none

def advance (world : World) : Event → Option World
  | .start options request buffer out requestValue sessionValue =>
      let put := PutOnce.start options request buffer out requestValue sessionValue
      -- An assumption: `MakeId` draws 64 random bits, and no two attempts draw the same.
      if (world.attempts put.attempt.sessionId).isNone then
        some ((world.setAttempt put.attempt.sessionId put).send (sent put))
      else none
  | .acquired session manager library =>
      (world.attempts session).bind fun put =>
        world.resume session (.token
          (manager.acquireToken library put.buffer.data put.buffer.size 0).token)
  | .copied session host => world.resume session (.copied host)
  | .timeout session error =>
      (world.attempts session).bind fun put =>
        (failedCall put error).bind fun reply => world.resume session reply
  | .otherGdsPut request =>
      if (world.attempts request.sessionId).isSome then
        some (world.send [.gdsPut none request])
      else none
  | .deliver index now slot =>
      (world.network[index]?).bind fun message =>
        { world with network := world.network.eraseIdx index }.handle now slot message
  | .lose index =>
      if index < world.network.length then
        some { world with network := world.network.eraseIdx index }
      else none
  | .duplicate index =>
      (world.network[index]?).map fun message => world.send [message]
  | .receive execution server => world.receive execution server
  | .reportTimeout execution => world.notified execution

def system : System World Event :=
  .ofAdvance (fun world => Proxy.proxySystem.initial world.proxy ∧
    world.attempts = (fun _ => none) ∧ world.executions = (fun _ => none) ∧
    world.network = []) advance

/-- The world in which every `GdsPut` is an attempt's own. -/
def ownPuts : System World Event :=
  system.restrict fun _ event _ => event.own = true

end World

end Us3Turbo.Cluster
