import Us3Turbo.Client.Interleaving
import Us3Turbo.Client.PutObject
import Us3Turbo.Data.Scan

/-! # The clients of a process: `rpc_base.h`, and `Initialize` to `Shutdown` of `client.cpp`

`GdsMemoryManager::Instance` hands every client of the process the same manager, which
has connected when it was first asked for, or never will.  A client has the manager and
both of its channels, or it has nothing.
-/

namespace Us3Turbo.Client

open Us3Turbo.Data Us3Turbo.Transition

/-! ## `RpcBase` -/

/-- `brpc::ChannelOptions`, as far as they are set. -/
structure ChannelOptions where
  protocol : String := "baidu_std"
  connectTimeoutMs : Int32
  timeoutMs : Int32
  maxRetry : Nat := 2
deriving DecidableEq

structure Channel where
  address : String
  options : ChannelOptions
deriving DecidableEq

/-- `channel_` and `stub_` are set together. -/
structure RpcBase where
  channel : Option Channel := none
  initError : String := ""
deriving DecidableEq

def trimmed (endpoint : String) : String :=
  String.ofList (endpoint.toList.reverse.dropWhile (· = '/')).reverse

namespace RpcBase

def opened (endpoint : String) (timeout : Milliseconds) : RpcBase where
  channel := some ⟨trimmed endpoint,
    { connectTimeoutMs := applyTimeout timeout, timeoutMs := applyTimeout timeout }⟩

/-- `initializes` is whether `Channel::Init` returns 0. -/
def create (endpoint : String) (timeout : Milliseconds) (role : String) (initializes : Bool) :
    RpcBase :=
  if endpoint = "" then
    { initError :=
        if role = "" then "endpoint must not be empty" else role ++ " endpoint must not be empty" }
  else if initializes then opened endpoint timeout
  else { initError := "Failed to initialize brpc channel: " ++ endpoint }

def ok (rpc : RpcBase) : Bool := rpc.channel.isSome

theorem create_ok {endpoint role : String} {timeout : Milliseconds} {initializes : Bool}
    (succeeds : (create endpoint timeout role initializes).ok = true) :
    endpoint ≠ "" ∧ create endpoint timeout role initializes = opened endpoint timeout := by
  rw [create] at succeeds ⊢
  split at succeeds
  · cases succeeds
  · split at succeeds
    · exact ⟨‹_›, by simp [*]⟩
    · cases succeeds

end RpcBase

/-! ## `Client` -/

/-- The fields of `ClientOptions` that only `Initialize` reads. -/
structure Endpoints where
  endpoint : String
  gdsDataEndpoint : String
  defaultTimeout : Milliseconds := 30000

/-- `gdsMgr` is whether `gds_mgr_` is set; there is one manager it can point to. -/
structure LiveClient extends ClientState where
  endpoints : Endpoints
  metaRpc : Option RpcBase := none
  chunkRpc : Option RpcBase := none
  gdsMgr : Bool := false

/-- What brpc answers to the two `Init`s of one `Initialize`. -/
structure Inits where
  control : Bool
  data : Bool

namespace LiveClient

def create (options : ClientOptions) (endpoints : Endpoints) : LiveClient :=
  { options, initialized := false, endpoints }

def makeMetaRpc (client : LiveClient) (inits : Inits) : RpcBase :=
  .create client.endpoints.endpoint client.endpoints.defaultTimeout "control" inits.control

def makeChunkRpc (client : LiveClient) (inits : Inits) : RpcBase :=
  .create client.endpoints.gdsDataEndpoint client.endpoints.defaultTimeout "data" inits.data

/-- `Initialize` gets as far as `Instance`. -/
def asksInstance (client : LiveClient) (inits : Inits) : Bool :=
  !client.initialized && (client.makeMetaRpc inits).ok && (client.makeChunkRpc inits).ok

/-- `initOk` is what `Instance` returns. -/
def initializeClient (client : LiveClient) (inits : Inits) (initOk : Bool) : Bool × LiveClient :=
  if client.initialized then (true, client)
  else if !(client.makeMetaRpc inits).ok then (false, { client with metaRpc := none })
  else if !(client.makeChunkRpc inits).ok then
    (false, { client with metaRpc := none, chunkRpc := none })
  else if !initOk then (false, { client with metaRpc := none, chunkRpc := none })
  else
    (true, { client with
      metaRpc := some (client.makeMetaRpc inits)
      chunkRpc := some (client.makeChunkRpc inits)
      gdsMgr := true
      initialized := true })

def shutdown (client : LiveClient) : LiveClient :=
  { client with metaRpc := none, chunkRpc := none, gdsMgr := false, initialized := false }

end LiveClient

/-- The calls of a client that need what `Initialize` has set up.  `granted` is whether the
`OpenSession` of an attempt of `PutObject` succeeds, once it is made. -/
inductive Method where
  | registerDeviceBuffer (ptr : DevicePtr) (size : UInt64) (replies : Replies)
  | unregisterDeviceBuffer (ptr : DevicePtr) (replies : Replies)
  | putObject (buffer : ConstBufferView) (granted : Bool)

/-- What a call leaves of the manager, a `PutObject` up to the `AcquireToken` of an attempt.
There is no answer where the code would go through a null pointer. -/
def LiveClient.invoke (client : LiveClient) (shared : SharedManager) : Method → Option SharedManager
  | .registerDeviceBuffer ptr size replies =>
      if !client.initialized then some shared
      else if client.gdsMgr then shared.advance (.registerBuffer ptr size replies)
      else none
  | .unregisterDeviceBuffer ptr replies =>
      if !client.initialized then some shared
      else if client.gdsMgr then shared.advance (.unregisterBuffer ptr replies)
      else none
  | .putObject buffer granted =>
      if !client.initialized then some shared
      else if client.options.putSingleMaxBytes ≠ 0 ∧ buffer.size > client.options.putSingleMaxBytes then
        some shared
      else
        match client.metaRpc, client.chunkRpc, client.gdsMgr with
        | some metaRpc, some _, true =>
            if metaRpc.ok && granted then shared.advance (.acquireToken buffer.data buffer.size 0)
            else some shared
        | _, _, _ => none

/-! ## The process -/

/-- `~GdsMemoryManager`; `replies` is whether each `cuMemObjPutDescriptor` succeeds. -/
def GdsMemoryManager.destroy (manager : GdsMemoryManager) (order : AList fun _ : DevicePtr => UInt64)
    (replies : DevicePtr → Bool) : GdsMemoryManager where
  registered := ∅
  descriptors := order.entries.foldl
    (fun descriptors entry => if replies entry.1 then descriptors.erase entry.1 else descriptors)
    manager.descriptors

/-- `initOk` is the static of `Instance`, once it has been initialised. -/
structure ClientProcess where
  initOk : Option Bool := none
  shared : SharedManager := {}
  clients : Nat → Option LiveClient := fun _ => none
  exited : Bool := false

namespace ClientProcess

/-- `connected` is whether `cuObjClient` is connected, if the manager is constructed here. -/
inductive Event where
  | create (id : Nat) (options : ClientOptions) (endpoints : Endpoints)
  | initializeClient (id : Nat) (inits : Inits) (connected : Bool)
  | invoke (id : Nat) (method : Method)
  /-- An `AcquireToken` goes on. -/
  | step (index : Nat) (replies : Replies)
  | shutdown (id : Nat)
  | destroy (id : Nat)
  | exit (order : AList fun _ : DevicePtr => UInt64) (replies : DevicePtr → Bool)

def setClient (process : ClientProcess) (id : Nat) (client : Option LiveClient) : ClientProcess :=
  { process with clients := Function.update process.clients id client }

/-- `Instance`, if `asked`. -/
def instance_ (process : ClientProcess) (asked connected : Bool) : Option Bool :=
  if asked then some (process.initOk.getD connected) else process.initOk

def advanceRunning (process : ClientProcess) : Event → Option ClientProcess
  | .create id options endpoints =>
      if (process.clients id).isNone then
        some (process.setClient id (some (.create options endpoints)))
      else none
  | .initializeClient id inits connected =>
      (process.clients id).map fun client =>
        let initOk := process.instance_ (client.asksInstance inits) connected
        { process.setClient id (some (client.initializeClient inits (initOk.getD false)).2) with initOk }
  | .invoke id method =>
      (process.clients id).bind fun client =>
        (client.invoke process.shared method).map fun shared => { process with shared }
  | .step index replies =>
      (process.shared.advance (.step index replies)).map fun shared => { process with shared }
  | .shutdown id => (process.clients id).map fun client => process.setClient id (some client.shutdown)
  | .destroy id => (process.clients id).map fun _ => process.setClient id none
  | .exit order replies =>
      if process.shared.acquiring = [] ∧ Walks order process.shared.manager.registered then
        some { process with
          shared := { process.shared with manager := process.shared.manager.destroy order replies }
          exited := true }
      else none

def advance (process : ClientProcess) (event : Event) : Option ClientProcess :=
  if process.exited then none else process.advanceRunning event

def system : System ClientProcess Event := .ofAdvance (fun process => process = {}) advance

end ClientProcess

/-! ## All or nothing -/

namespace LiveClient

variable {client : LiveClient} {shared after : SharedManager} {method : Method}

structure Idle (client : LiveClient) : Prop where
  initialized : client.initialized = false
  metaRpc : client.metaRpc = none
  chunkRpc : client.chunkRpc = none
  gdsMgr : client.gdsMgr = false

structure Ready (client : LiveClient) : Prop where
  initialized : client.initialized = true
  named : client.endpoints.endpoint ≠ "" ∧ client.endpoints.gdsDataEndpoint ≠ ""
  metaRpc : client.metaRpc = some (.opened client.endpoints.endpoint client.endpoints.defaultTimeout)
  chunkRpc : client.chunkRpc =
    some (.opened client.endpoints.gdsDataEndpoint client.endpoints.defaultTimeout)
  gdsMgr : client.gdsMgr = true

theorem idle_create (options : ClientOptions) (endpoints : Endpoints) :
    (create options endpoints).Idle :=
  ⟨rfl, rfl, rfl, rfl⟩

theorem idle_shutdown (client : LiveClient) : client.shutdown.Idle :=
  ⟨rfl, rfl, rfl, rfl⟩

theorem Ready.initializeClient (ready : client.Ready) (inits : Inits) (initOk : Bool) :
    client.initializeClient inits initOk = (true, client) := by
  rw [LiveClient.initializeClient, if_pos ready.initialized]

/-- `Initialize` succeeds as a whole, and then it has asked for the manager, or it leaves the
client as it was. -/
theorem Idle.initializeClient (idle : client.Idle) (inits : Inits) (initOk : Bool) :
    (client.initializeClient inits initOk).2.Idle ∨
      client.asksInstance inits = true ∧ initOk = true ∧
        (client.initializeClient inits initOk).2.Ready := by
  have unset : ¬ client.initialized = true := by rw [idle.initialized]; decide
  rw [LiveClient.initializeClient, if_neg unset]
  cases control : (client.makeMetaRpc inits).ok with
  | false => exact .inl ⟨idle.initialized, rfl, idle.chunkRpc, idle.gdsMgr⟩
  | true =>
      cases data : (client.makeChunkRpc inits).ok with
      | false => exact .inl ⟨idle.initialized, rfl, rfl, idle.gdsMgr⟩
      | true =>
          cases initOk with
          | false => exact .inl ⟨idle.initialized, rfl, rfl, idle.gdsMgr⟩
          | true =>
              obtain ⟨endpoint, metaRpc⟩ := RpcBase.create_ok control
              obtain ⟨gdsDataEndpoint, chunkRpc⟩ := RpcBase.create_ok data
              refine .inr ⟨?_, rfl, rfl, ⟨endpoint, gdsDataEndpoint⟩, congrArg some metaRpc,
                congrArg some chunkRpc, rfl⟩
              simp [asksInstance, idle.initialized, control, data]

theorem Idle.invoke (idle : client.Idle) (shared : SharedManager) (method : Method) :
    client.invoke shared method = some shared := by
  cases method <;> simp [LiveClient.invoke, idle.initialized]

/-- The call of the manager that a client's call comes down to. -/
def call : Method → SharedManager.Event
  | .registerDeviceBuffer ptr size replies => .registerBuffer ptr size replies
  | .unregisterDeviceBuffer ptr replies => .unregisterBuffer ptr replies
  | .putObject buffer _ => .acquireToken buffer.data buffer.size 0

theorem call_advances (shared : SharedManager) (method : Method) :
    ∃ after, shared.advance (call method) = some after := by
  cases method with
  | registerDeviceBuffer ptr size replies => exact ⟨_, rfl⟩
  | unregisterDeviceBuffer ptr replies => exact ⟨_, rfl⟩
  | putObject buffer granted =>
      simp only [call, SharedManager.advance]
      split
      · exact ⟨_, rfl⟩
      · exact ⟨_, rfl⟩

/-- Past `Initialize` a call makes one call of the manager, or none, and meets no null pointer. -/
theorem Ready.invoke (ready : client.Ready) (shared : SharedManager) (method : Method) :
    client.invoke shared method = some shared ∨
      client.invoke shared method = shared.advance (call method) := by
  cases method with
  | registerDeviceBuffer ptr size replies =>
      simp [LiveClient.invoke, call, ready.initialized, ready.gdsMgr]
  | unregisterDeviceBuffer ptr replies =>
      simp [LiveClient.invoke, call, ready.initialized, ready.gdsMgr]
  | putObject buffer granted =>
      have reachable : (RpcBase.opened client.endpoints.endpoint client.endpoints.defaultTimeout).ok = true :=
        rfl
      simp only [LiveClient.invoke, call, ready.initialized, ready.metaRpc, ready.chunkRpc,
        ready.gdsMgr, reachable]
      split
      · exact .inl rfl
      · split
        · exact .inl rfl
        · split
          · exact .inr rfl
          · exact .inl rfl

end LiveClient

namespace ClientProcess

variable {process before after later : ClientProcess} {event : Event} {events : List Event} {id : Nat}
  {client : LiveClient}

/-- What a step found, and what it did. -/
inductive Moved (before : ClientProcess) : Event → ClientProcess → Prop where
  | creates (id : Nat) (options : ClientOptions) (endpoints : Endpoints) :
      Moved before (.create id options endpoints)
        (before.setClient id (some (.create options endpoints)))
  | initializes (id : Nat) (inits : Inits) (connected : Bool) (client : LiveClient)
      (known : before.clients id = some client) (initOk : Option Bool)
      (answers : before.instance_ (client.asksInstance inits) connected = initOk) :
      Moved before (.initializeClient id inits connected)
        { before.setClient id (some (client.initializeClient inits (initOk.getD false)).2) with initOk }
  | invokes (id : Nat) (method : Method) (client : LiveClient) (shared : SharedManager)
      (known : before.clients id = some client)
      (called : client.invoke before.shared method = some shared) :
      Moved before (.invoke id method) { before with shared }
  | goes_on (index : Nat) (replies : Replies) (shared : SharedManager)
      (stepped : before.shared.advance (.step index replies) = some shared) :
      Moved before (.step index replies) { before with shared }
  | stops (id : Nat) (client : LiveClient) (known : before.clients id = some client) :
      Moved before (.shutdown id) (before.setClient id (some client.shutdown))
  | destroys (id : Nat) : Moved before (.destroy id) (before.setClient id none)
  | exits (order : AList fun _ : DevicePtr => UInt64) (replies : DevicePtr → Bool)
      (idle : before.shared.acquiring = [])
      (walks : Walks order before.shared.manager.registered) :
      Moved before (.exit order replies) { before with
        shared := { before.shared with manager := before.shared.manager.destroy order replies }
        exited := true }

theorem moved (advanced : before.advance event = some after) :
    before.exited = false ∧ Moved before event after := by
  rw [advance] at advanced
  split at advanced
  · cases advanced
  rename_i running
  refine ⟨eq_false_of_ne_true running, ?_⟩
  cases event with
  | create id options endpoints =>
      simp only [advanceRunning] at advanced
      split at advanced
      · rw [Option.some.injEq] at advanced
        subst advanced
        exact .creates id options endpoints
      · cases advanced
  | initializeClient id inits connected =>
      obtain ⟨client, known, rfl⟩ := Option.map_eq_some_iff.mp advanced
      exact .initializes id inits connected client known _ rfl
  | invoke id method =>
      obtain ⟨client, known, invoked⟩ := Option.bind_eq_some_iff.mp advanced
      obtain ⟨shared, called, rfl⟩ := Option.map_eq_some_iff.mp invoked
      exact .invokes id method client shared known called
  | step index replies =>
      obtain ⟨shared, stepped, rfl⟩ := Option.map_eq_some_iff.mp advanced
      exact .goes_on index replies shared stepped
  | shutdown id =>
      obtain ⟨client, known, rfl⟩ := Option.map_eq_some_iff.mp advanced
      exact .stops id client known
  | destroy id =>
      obtain ⟨client, known, rfl⟩ := Option.map_eq_some_iff.mp advanced
      exact .destroys id
  | exit order replies =>
      simp only [advanceRunning] at advanced
      split at advanced
      · rename_i idle
        rw [Option.some.injEq] at advanced
        subst advanced
        exact .exits order replies idle.1 idle.2
      · cases advanced

structure Sound (process : ClientProcess) : Prop where
  clients : ∀ {id client}, process.clients id = some client →
    client.Idle ∨ client.Ready ∧ process.initOk = some true
  unused : process.initOk ≠ some true → process.shared = {}

theorem setClient_clients {other : Nat} {client : Option LiveClient} :
    (process.setClient id client).clients other = if other = id then client else process.clients other :=
  Function.update_apply ..

theorem Sound.setClient {initOk : Option Bool} {entry : Option LiveClient} (sound : Sound process)
    (known : process.initOk = some true → initOk = some true)
    (unused : initOk = some true ∨ process.initOk ≠ some true)
    (entered : ∀ client, entry = some client → client.Idle ∨ client.Ready ∧ initOk = some true) :
    Sound { process.setClient id entry with initOk } where
  clients := by
    intro other client found
    change (process.setClient id entry).clients other = some client at found
    rw [setClient_clients] at found
    split at found
    · exact entered client found
    · exact (sound.clients found).imp_right fun ready => ⟨ready.1, known ready.2⟩
  unused absent := by
    rcases unused with present | untouched
    · exact absurd present absent
    · exact sound.unused untouched

/-- A step that is no client's construction, `Initialize`, `Shutdown` or destruction. -/
theorem Sound.share {shared : SharedManager} {exited : Bool} (sound : Sound process)
    (unused : process.initOk ≠ some true → shared = {}) : Sound { process with shared, exited } where
  clients := sound.clients
  unused := unused

theorem destroy_empty {order : AList fun _ : DevicePtr => UInt64} (replies : DevicePtr → Bool)
    (walks : Walks order ({} : GdsMemoryManager).registered) :
    ({} : GdsMemoryManager).destroy order replies = {} := by
  have none : order.entries = [] := by
    rw [List.eq_nil_iff_forall_not_mem]
    rintro ⟨ptr, size⟩ member
    have found := walks.mem_entries.mp member
    cases found
  simp only [GdsMemoryManager.destroy, none, List.foldl_nil]

theorem sound_step (sound : Sound before) (advanced : before.advance event = some after) :
    Sound after := by
  have settled : before.initOk = some true ∨ before.initOk ≠ some true := Classical.em _
  cases (moved advanced).2 with
  | creates id options endpoints =>
      refine sound.setClient (fun known => known) settled ?_
      rintro client ⟨⟩
      exact .inl (LiveClient.idle_create options endpoints)
  | initializes id inits connected client known initOk answers =>
      have kept : before.initOk = some true → initOk = some true := by
        intro connected
        simp [← answers, instance_, connected]
      refine sound.setClient kept (settled.imp_left kept) ?_
      rintro initialized ⟨⟩
      rcases sound.clients known with idle | ⟨ready, running⟩
      · apply (idle.initializeClient inits _).imp_right
        rintro ⟨asks, answer, ready⟩
        rw [asks, instance_, if_pos rfl] at answers
        refine ⟨ready, ?_⟩
        rw [← answers] at answer ⊢
        exact congrArg some answer
      · rw [ready.initializeClient]
        exact .inr ⟨ready, kept running⟩
  | invokes id method client shared known called =>
      apply sound.share
      intro absent
      rcases sound.clients known with idle | ⟨_, running⟩
      · rw [idle.invoke, Option.some.injEq] at called
        rw [← called, sound.unused absent]
      · exact absurd running absent
  | goes_on index replies shared stepped =>
      apply sound.share
      intro absent
      rw [sound.unused absent] at stepped
      cases stepped
  | stops id client known =>
      refine sound.setClient (fun known => known) settled ?_
      rintro stopped ⟨⟩
      exact .inl client.idle_shutdown
  | destroys id => exact sound.setClient (fun known => known) settled nofun
  | exits order replies idle walks =>
      apply sound.share
      intro absent
      rw [sound.unused absent] at walks ⊢
      rw [destroy_empty replies walks]

theorem sound_invariant : system.Invariant Sound where
  initial := by
    rintro process rfl
    exact ⟨nofun, fun _ => rfl⟩
  step := sound_step

/-- What `Instance` has answered once it answers for good. -/
theorem initOk_step {answer : Bool} (answered : before.initOk = some answer)
    (advanced : before.advance event = some after) : after.initOk = some answer := by
  cases (moved advanced).2 with
  | initializes id inits connected client known initOk answers =>
      simp [← answers, instance_, answered]
  | _ => exact answered

theorem initOk_run {answer : Bool} (answered : process.initOk = some answer)
    (run : system.Run process events later) : later.initOk = some answer := by
  induction run with
  | nil => exact answered
  | cons head _ ih => exact ih (initOk_step answered head)

/-- Every client is idle or wholly set up, with both channels open to its endpoints; no call goes
through a null pointer; and if the process has once been without RDMA, no client is ever set
up in it and nothing is ever registered. -/
theorem clients_whole (reachable : system.Reachable process)
    (run : system.Run process events later) (known : later.clients id = some client) :
    (client.Idle ∨ client.Ready) ∧
      (∀ method, ∃ shared, client.invoke later.shared method = some shared) ∧
      (process.initOk = some false → client.Idle ∧ later.shared = {}) := by
  have sound := sound_invariant.reachable (reachable.run run)
  refine ⟨(sound.clients known).imp_right (·.1), ?_, ?_⟩
  · intro method
    rcases sound.clients known with idle | ⟨ready, _⟩
    · exact ⟨later.shared, idle.invoke later.shared method⟩
    · rcases ready.invoke later.shared method with unmoved | calls
      · exact ⟨later.shared, unmoved⟩
      · rw [calls]
        exact LiveClient.call_advances later.shared method
  · intro refused
    have never : later.initOk ≠ some true := by
      rw [initOk_run refused run]
      decide
    refine ⟨?_, sound.unused never⟩
    exact (sound.clients known).resolve_right fun ready => never ready.2

end ClientProcess

/-! ## What stays pinned -/

namespace GdsMemoryManager

variable {manager : GdsMemoryManager} {ptr : DevicePtr} {replies : DevicePtr → Bool}
  {order : AList fun _ : DevicePtr => UInt64}

/-- The loop of the destructor puts one descriptor after the other. -/
theorem lookup_foldl (entries : List (Sigma fun _ : DevicePtr => UInt64))
    (descriptors : Finmap fun _ : DevicePtr => UInt64) :
    (entries.foldl (fun descriptors entry =>
      if replies entry.1 then descriptors.erase entry.1 else descriptors) descriptors).lookup ptr =
      if replies ptr = true ∧ ptr ∈ entries.keys then none else descriptors.lookup ptr := by
  induction entries generalizing descriptors with
  | nil => simp
  | cons entry entries ih =>
      rw [List.foldl_cons, ih, List.keys_cons]
      by_cases same : ptr = entry.1
      · subst same
        cases puts : replies entry.1 with
        | true => simp [Finmap.lookup_erase]
        | false => simp
      · have other : (if replies entry.1 = true then descriptors.erase entry.1
            else descriptors).lookup ptr = descriptors.lookup ptr := by
          split
          · exact Finmap.lookup_erase_ne same
          · rfl
        rw [other]
        simp [same]

/-- The destructor leaves the descriptors that are not in the table, and those that the library
does not let go of. -/
theorem destroy_descriptors (walks : Walks order manager.registered) :
    (manager.destroy order replies).descriptors.lookup ptr =
      if replies ptr = true ∧ ptr ∈ manager.registered then none
      else manager.descriptors.lookup ptr := by
  have entered : ptr ∈ order.entries.keys ↔ ptr ∈ manager.registered := by
    rw [← walks]
    exact Iff.rfl
  rw [destroy, lookup_foldl]
  simp only [entered]

end GdsMemoryManager

namespace SharedManager

variable {before after : SharedManager} {event : Event}

theorem agrees_step (agrees : before.manager.Agrees) (releases : event.releases = true)
    (advanced : before.advance event = some after) : after.manager.Agrees := by
  cases event with
  | registerBuffer ptr size replies =>
      cases advanced
      exact agrees.change (GdsMemoryManager.perform_change before.manager ⟨.registerBuffer ptr size, replies⟩)
        nofun
  | unregisterBuffer ptr replies =>
      cases advanced
      exact agrees.change (GdsMemoryManager.perform_change before.manager ⟨.unregisterBuffer ptr, replies⟩)
        (fun _ _ _ _ => releases)
  | acquireToken ptr size offset =>
      simp only [advance] at advanced
      split at advanced
      · cases advanced
        exact agrees
      · cases advanced
        exact agrees
  | step index replies =>
      obtain ⟨call, found, rfl⟩ := Option.map_eq_some_iff.mp advanced
      rw [proceed]
      split
      · exact (GdsMemoryManager.registerBufferUnderLock_registers replies call.ptr _ agrees).agrees
      · exact agrees

end SharedManager

namespace ClientProcess

variable {process before after : ClientProcess} {event : Event}

/-- No `cuMemObjPutDescriptor` fails. -/
def Event.releases : Event → Bool
  | .invoke _ method => (LiveClient.call method).releases
  | .exit order replies => order.keys.all replies
  | _ => true

def releasing : System ClientProcess Event :=
  system.restrict fun _ event _ => event.releases = true

structure Accounted (process : ClientProcess) : Prop where
  sound : Sound process
  running : process.exited = false → process.shared.manager.Agrees
  exited : process.exited = true → process.shared.manager.descriptors = ∅

theorem accounted_invariant : releasing.Invariant Accounted where
  initial := by
    rintro process rfl
    exact ⟨sound_invariant.initial rfl, fun _ => SharedManager.sound_start.agrees, nofun⟩
  step := by
    intro before event after accounted step
    obtain ⟨advanced, releases⟩ := step
    obtain ⟨running, moves⟩ := moved advanced
    have agrees := accounted.running running
    have sound := sound_step accounted.sound advanced
    cases moves with
    | invokes id method client shared known called =>
        refine ⟨sound, fun _ => ?_, fun exited => ?_⟩
        · rcases accounted.sound.clients known with idle | ⟨ready, _⟩
          · rw [idle.invoke, Option.some.injEq] at called
            rw [← called]
            exact agrees
          · rcases ready.invoke before.shared method with unmoved | calls
            · rw [unmoved, Option.some.injEq] at called
              rw [← called]
              exact agrees
            · rw [calls] at called
              exact SharedManager.agrees_step agrees releases called
        · rw [running] at exited
          cases exited
    | goes_on index replies shared stepped =>
        refine ⟨sound, fun _ => SharedManager.agrees_step agrees rfl stepped, fun exited => ?_⟩
        rw [running] at exited
        cases exited
    | exits order replies idle walks =>
        refine ⟨sound, nofun, fun _ => ?_⟩
        apply Finmap.ext_lookup
        intro ptr
        rw [GdsMemoryManager.destroy_descriptors walks, Finmap.lookup_empty]
        by_cases known : ptr ∈ before.shared.manager.registered
        · rw [← walks] at known
          have lets_go : replies ptr = true := List.all_eq_true.mp releases ptr known
          rw [if_pos ⟨lets_go, walks ▸ known⟩]
        · rw [if_neg fun both => known both.2]
          exact agrees.not_live known
    | _ => exact ⟨sound, accounted.running, accounted.exited⟩

/-- If the library lets go of all it is asked to, the process leaves nothing pinned, whatever its
clients have registered, or acquired a token for, and not unregistered. -/
theorem exit_unpins (reachable : releasing.Reachable process) (exited : process.exited = true) :
    process.shared.manager.descriptors = ∅ :=
  (accounted_invariant.reachable reachable).exited exited

/-! ## One client without RDMA, and one that forgets its buffer -/

def here : Endpoints where
  endpoint := "10.0.0.1:9100/"
  gdsDataEndpoint := "10.0.0.2:9200"

def refusing : List Event := [.create 0 {} here, .initializeClient 0 ⟨true, true⟩ false]

/-- RDMA is there when the second client asks. -/
def late : List Event := [.create 1 {} here, .initializeClient 1 ⟨true, true⟩ true]

theorem late_client_idle : ∃ process later client, system.Run process late later ∧
    later.clients 1 = some client ∧ client.Idle := by
  let refused := System.replay advance {} refusing
  let outcome := refused.bind fun process => System.replay advance process late
  obtain ⟨process, replayed⟩ : ∃ process, refused = some process := ⟨_, rfl⟩
  obtain ⟨later, replayed'⟩ : ∃ later, outcome = some later := ⟨_, rfl⟩
  have without : refused.map (·.initOk) = some (some false) := rfl
  have created : outcome.map (fun later => (later.clients 1).isSome) = some true := rfl
  rw [replayed, Option.map_some, Option.some.injEq] at without
  rw [replayed', Option.map_some, Option.some.injEq] at created
  have run : system.Run process late later := by
    apply System.Run.of_replay
    rw [← replayed']
    simp only [outcome, replayed, Option.bind_some]
  obtain ⟨client, known⟩ := Option.isSome_iff_exists.mp created
  have reachable : system.Reachable process := ⟨{}, refusing, rfl, .of_replay replayed⟩
  obtain ⟨_, _, never⟩ := clients_whole reachable run known
  exact ⟨process, later, client, run, known, (never without).1⟩

/-- A PUT has registered its buffer by the way, and nobody unregisters it. -/
def forgetting : List Event :=
  [.create 0 {} here, .initializeClient 0 ⟨true, true⟩ true,
    .invoke 0 (.putObject { data := 4096, size := 8 } true), .step 0 SharedManager.willing,
    .step 0 SharedManager.willing, .shutdown 0, .destroy 0,
    .exit ((∅ : AList fun _ : DevicePtr => UInt64).insert 4096 8) fun _ => true]

theorem forgotten_buffer_unpinned : ∃ process : ClientProcess, process.exited = true ∧
    process.shared.observed.length = 2 ∧ process.shared.manager.descriptors = ∅ := by
  let outcome := System.replay (System.guarded (fun _ event => event.releases) advance) {} forgetting
  obtain ⟨process, replayed⟩ : ∃ process, outcome = some process := ⟨_, rfl⟩
  have exited : outcome.map (·.exited) = some true := rfl
  have observed : outcome.map (·.shared.observed.length) = some 2 := rfl
  rw [replayed, Option.map_some, Option.some.injEq] at exited observed
  have reachable : releasing.Reachable process := ⟨{}, forgetting, rfl, .of_guarded replayed⟩
  exact ⟨process, exited, observed, exit_unpins reachable exited⟩

end ClientProcess

end Us3Turbo.Client
