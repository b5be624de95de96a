import Us3Turbo.Backend.Receives

/-! # One step of a `ReceiveAndDiscard` call -/

namespace Us3Turbo.Backend

open Us3Turbo.Data Us3Turbo.Transition

variable {computeCrc32c success : Bool} {operation : Operation} {progress : Progress}
  {lease : PinnedBufferLease} {channel : Nat} {bytes : UInt64} {answer : PutAnswer}
  {outcome : DiscardOutcome} {pool rest : PinnedBufferPool} {sink after : BackendGdsSink}
  {call moved : Receive}

/-! ## The two uses of the pool -/

def Operation.Acquires : Operation → Prop
  | .acquireLoad _ _ | .acquireReuse _ _ | .acquireAlloc _ _ => True
  | .acquireRegister _ _ _ | .acquireFree _ => True
  | _ => False

/-- Some `Acquire` goes on, or returns its lease. -/
def Progress.Acquires : Progress → Prop
  | .next operation => operation.Acquires
  | .returned leases => ∃ lease, leases = [lease]

def Operation.Releases : Operation → Prop
  | .releaseLoad _ _ next | .releasePush _ _ next => next = .destroyed
  | .disposeMr _ next | .disposeData _ next | .freeOnly _ next => next = .destroyed
  | _ => False

/-- The destructor of a lease goes on, or is done. -/
def Progress.Releases : Progress → Prop
  | .next operation => operation.Releases
  | .returned leases => leases = []

theorem PinnedBufferPool.acquire_acquires (size : UInt64) : (pool.acquire size).Acquires := by
  rw [acquire]
  split
  · exact ⟨{}, rfl⟩
  · split <;> exact trivial

theorem PinnedBufferPool.Performed.acquires
    (performed : Performed pool success operation rest progress) (acquires : operation.Acquires) :
    progress.Acquires := by
  cases performed with
  | reuses => exact ⟨_, rfl⟩
  | unallocated => exact ⟨{}, rfl⟩
  | registers => exact ⟨_, rfl⟩
  | frees => exact ⟨{}, rfl⟩
  | seesShut | seesOpen | misses | allocates | unregistered => exact trivial
  | _ => exact acquires.elim

theorem PinnedBufferLease.release_releases (lease : PinnedBufferLease) :
    (lease.release .destroyed).Releases := by
  rw [release]
  split
  · rfl
  · split <;> rfl

theorem PinnedBufferPool.Performed.releases
    (performed : Performed pool success operation rest progress) (releases : operation.Releases) :
    progress.Releases := by
  cases performed with
  | refuses => exact releases
  | accepts => exact releases
  | unbucketed => exact releases
  | overflows => exact releases
  | pushes | disposes | leaks =>
      cases releases
      rfl
  | deregisters => exact releases
  | _ => exact releases.elim

/-! ## What a call holds -/

def ReceiveStage.holdings : ReceiveStage → List Holding
  | .acquiring operation | .releasing operation _ => operation.holdings
  | .leased lease | .connected lease _ | .transferred lease _ _ => lease.holdings
  | .unwinding lease _ _ | .dropping lease _ => lease.holdings
  | _ => []

def ReceiveStage.channels : ReceiveStage → List Holding
  | .connected _ channel | .transferred _ channel _ | .unwinding _ channel _ => [⟨channel, none⟩]
  | _ => []

def ReceiveStage.Pooled : ReceiveStage → Prop
  | .acquiring operation | .releasing operation _ => operation.Pooled
  | .leased lease | .connected lease _ | .transferred lease _ _ => lease.Pooled
  | .unwinding lease _ _ | .dropping lease _ => lease.Pooled
  | _ => True

namespace Receive

/-- What the call was answered, as one `receiveAndDiscard` meets it. -/
def server (call : Receive) : Server where
  available := true
  lease := call.took.isSome
  channel := call.allocated.isSome
  handlePutObject _ :=
    match call.put with
    | none => ⟨0, [], ""⟩
    | some answer => ⟨answer.transferred, answer.bytes, answer.status⟩

def expected (computeCrc32c : Bool) (call : Receive) : DiscardOutcome :=
  receiveAndDiscard computeCrc32c call.server call.objectId call.rdmaToken call.length

/-- Nothing was taken yet. -/
structure Untouched (call : Receive) : Prop where
  took : call.took = none
  allocated : call.allocated = none
  put : call.put = none
  freed : call.freed = []

structure Admitted (length : UInt64) : Prop where
  bounded : length ≤ kMaxChunkBytes
  nonempty : length ≠ 0

/-- The call has taken `lease`, and nothing went back. -/
structure Leased (call : Receive) (lease : PinnedBufferLease) : Prop where
  admitted : Admitted call.length
  ok : lease.buffer.isSome
  took : call.took = lease.buffer
  freed : call.freed = []

/-- The call is on one of its returns. -/
structure Settled (sink : BackendGdsSink) (call : Receive) (outcome : DiscardOutcome) : Prop where
  outcome : outcome = call.expected sink.computeCrc32c
  put : call.allocated.isSome → call.put.isSome
  freed : ∀ channel ∈ call.freed, channel ∈ sink.channels.returned

/-- What the record of a call says, stage by stage. -/
def Valid (sink : BackendGdsSink) (call : Receive) : Prop :=
  match call.stage with
  | .entered => call.Untouched
  | .acquiring operation => operation.Acquires ∧ Admitted call.length ∧ call.Untouched
  | .leased lease => call.Leased lease ∧ call.allocated = none ∧ call.put = none
  | .connected lease channel => call.Leased lease ∧ call.allocated = some channel ∧ call.put = none
  | .transferred lease channel bytes =>
      call.Leased lease ∧ call.allocated = some channel ∧
        ∃ answer, call.put = some answer ∧ ¬ answer.transferred < 0 ∧
          bytes = answer.transferred.toUInt64 ∧
          ∀ record, lease.buffer = some record → sink.load record.data bytes.toNat = answer.bytes
  | .unwinding lease channel outcome =>
      call.took = lease.buffer ∧ call.allocated = some channel ∧ call.freed = [] ∧
        call.Settled sink outcome
  | .dropping lease outcome =>
      call.took = lease.buffer ∧ call.freed = call.allocated.toList ∧ call.Settled sink outcome
  | .releasing operation outcome =>
      operation.Releases ∧ call.freed = call.allocated.toList ∧ call.Settled sink outcome
  | .returned outcome =>
      call.freed = call.allocated.toList ∧ call.Settled sink outcome

theorem Settled.of_unfreed (expected : outcome = call.expected sink.computeCrc32c)
    (put : call.allocated.isSome → call.put.isSome) (unfreed : call.freed = []) :
    call.Settled sink outcome where
  outcome := expected
  put := put
  freed := by
    rw [unfreed]
    nofun

theorem Settled.frame (settled : call.Settled sink outcome)
    (computes : after.computeCrc32c = sink.computeCrc32c)
    (returned : ∀ channel ∈ sink.channels.returned, channel ∈ after.channels.returned) :
    call.Settled after outcome where
  outcome := by rw [computes, settled.outcome]
  put := settled.put
  freed channel member := returned channel (settled.freed channel member)

theorem expected_oversize (oversize : call.length > kMaxChunkBytes) :
    call.expected computeCrc32c = { error := "GDS PUT chunk exceeds 1 GiB cuObjServer limit" } := by
  rw [expected, receiveAndDiscard, if_pos oversize]

theorem expected_empty (empty : call.length = 0) : call.expected computeCrc32c = { ok := true } :=
  receiveAndDiscard_empty empty

theorem Admitted.not_oversize {length : UInt64} (admitted : Admitted length) :
    ¬ length > kMaxChunkBytes :=
  UInt64.not_lt.mpr admitted.bounded

theorem expected_no_lease (admitted : Admitted call.length) (took : call.took = none) :
    call.expected computeCrc32c = { error := "cuObjServer pinned buffer alloc failed" } := by
  have lease : call.server.lease = false := by simp [server, took]
  rw [expected, receiveAndDiscard, if_neg admitted.not_oversize, if_neg admitted.nonempty, lease]
  rfl

theorem expected_no_channel (leased : call.Leased lease) (allocated : call.allocated = none) :
    call.expected computeCrc32c = { error := "cuObjServer allocateChannelId failed" } := by
  have held : call.server.lease = true := by simpa [server, leased.took] using leased.ok
  have channel : call.server.channel = false := by simp [server, allocated]
  rw [expected, receiveAndDiscard, if_neg leased.admitted.not_oversize,
    if_neg leased.admitted.nonempty, held, channel]
  rfl

theorem expected_failed (leased : call.Leased lease) (allocated : call.allocated = some channel)
    (put : call.put = some answer) (failed : answer.transferred < 0) :
    call.expected computeCrc32c =
      { error := "cuObjServer handlePutObject failed: " ++ answer.status } := by
  have held : call.server.lease = true := by simpa [server, leased.took] using leased.ok
  have connected : call.server.channel = true := by simp [server, allocated]
  rw [expected, receiveAndDiscard, if_neg leased.admitted.not_oversize,
    if_neg leased.admitted.nonempty, held, connected]
  simp [server, put, failed]

theorem discard_answer (succeeded : ¬ answer.transferred < 0) :
    discard computeCrc32c ⟨answer.transferred, answer.bytes, answer.status⟩ =
      { ok := true
        bytesTransferred := answer.transferred.toUInt64
        crc32c := if computeCrc32c then crc32c answer.bytes else 0 } := by
  have whole : answer.bytes.take answer.transferred.toUInt64.toNat = answer.bytes := by
    rw [← answer.written succeeded, List.take_length]
  simp only [discard, whole]

theorem expected_transferred (leased : call.Leased lease)
    (allocated : call.allocated = some channel) (put : call.put = some answer)
    (succeeded : ¬ answer.transferred < 0) :
    call.expected computeCrc32c =
      { ok := true
        bytesTransferred := answer.transferred.toUInt64
        crc32c := if computeCrc32c then crc32c answer.bytes else 0 } := by
  have transfers : Transfers call.server call.length
      ⟨answer.transferred, answer.bytes, answer.status⟩ :=
    { bounded := leased.admitted.bounded
      nonempty := leased.admitted.nonempty
      lease := by simpa [server, leased.took] using leased.ok
      channel := by simp [server, allocated]
      received := succeeded }
  rw [expected, receiveAndDiscard_transfers (by simp [server, put]) transfers,
    discard_answer succeeded]

theorem Settled.transferred (settled : call.Settled sink outcome) (ok : outcome.ok = true)
    (nonempty : call.length ≠ 0) :
    ∃ answer, call.put = some answer ∧ outcome.bytesTransferred = answer.transferred.toUInt64 ∧
      (sink.computeCrc32c = true → outcome.crc32c = crc32c answer.bytes) := by
  have received := ok
  rw [settled.outcome] at received
  have transfers := (receiveAndDiscard_ok received).resolve_left nonempty
  obtain ⟨answer, put⟩ := Option.isSome_iff_exists.mp (settled.put transfers.channel)
  have reply : ∀ arguments, call.server.handlePutObject arguments =
      ⟨answer.transferred, answer.bytes, answer.status⟩ := by simp [server, put]
  rw [reply] at transfers
  refine ⟨answer, put, ?_, ?_⟩
  all_goals
    rw [settled.outcome, expected, receiveAndDiscard_transfers (reply _) transfers,
      discard_answer transfers.received]
  intro computes
  exact if_pos computes

/-! ## One step of a call -/

theorem takes_holdings : (call.takes lease).stage.holdings = lease.holdings := by
  rw [takes]
  dsimp only
  split <;> rfl

theorem takes_channels : (call.takes lease).stage.channels = [] := by
  rw [takes]
  dsimp only
  split <;> rfl

theorem takes_pooled (pooled : lease.Pooled) : (call.takes lease).stage.Pooled := by
  rw [takes]
  dsimp only
  split <;> exact pooled

theorem takes_valid (admitted : Admitted call.length) (untouched : call.Untouched) :
    (call.takes lease).Valid sink := by
  obtain ⟨took, allocated, put, freed⟩ := untouched
  rw [takes]
  dsimp only
  by_cases ok : lease.buffer.isSome
  · rw [if_pos ok]
    exact ⟨⟨admitted, ok, rfl, freed⟩, allocated, put⟩
  · rw [if_neg ok]
    have missing : lease.buffer = none := by simpa using ok
    refine ⟨rfl, ?_, ?_⟩
    · rw [freed, allocated]
      rfl
    · refine .of_unfreed (Eq.symm (expected_no_lease admitted missing)) ?_ freed
      rw [allocated]
      nofun

theorem transfers_holdings :
    (call.transfers lease channel answer).stage.holdings = lease.holdings := by
  rw [transfers]
  dsimp only
  split <;> rfl

theorem transfers_channels :
    (call.transfers lease channel answer).stage.channels = [⟨channel, none⟩] := by
  rw [transfers]
  dsimp only
  split <;> rfl

theorem transfers_pooled (pooled : lease.Pooled) :
    (call.transfers lease channel answer).stage.Pooled := by
  rw [transfers]
  dsimp only
  split <;> exact pooled

theorem acquires_holdings (acquires : progress.Acquires) :
    (call.acquires progress).stage.holdings = progress.holdings := by
  cases progress with
  | next operation => rfl
  | returned leases =>
      obtain ⟨lease, rfl⟩ := acquires
      simp [Receive.acquires, takes_holdings, Progress.holdings]

theorem acquires_channels : (call.acquires progress).stage.channels = [] := by
  cases progress with
  | next operation => rfl
  | returned leases => exact takes_channels

theorem acquires_pooled (acquires : progress.Acquires) (pooled : progress.Pooled) :
    (call.acquires progress).stage.Pooled := by
  cases progress with
  | next operation => exact pooled
  | returned leases =>
      obtain ⟨lease, rfl⟩ := acquires
      exact takes_pooled (pooled lease List.mem_cons_self)

theorem acquires_valid (acquires : progress.Acquires) (admitted : Admitted call.length)
    (untouched : call.Untouched) : (call.acquires progress).Valid sink := by
  cases progress with
  | next operation =>
      obtain ⟨took, allocated, put, freed⟩ := untouched
      exact ⟨acquires, admitted, took, allocated, put, freed⟩
  | returned leases => exact takes_valid admitted untouched

theorem releases_holdings (releases : progress.Releases) :
    (call.releases outcome progress).stage.holdings = progress.holdings := by
  cases progress with
  | next operation => rfl
  | returned leases =>
      cases releases
      rfl

theorem releases_channels : (call.releases outcome progress).stage.channels = [] := by
  cases progress <;> rfl

theorem releases_pooled (pooled : progress.Pooled) :
    (call.releases outcome progress).stage.Pooled := by
  cases progress with
  | next operation => exact pooled
  | returned leases => exact trivial

theorem releases_valid (releases : progress.Releases)
    (freed : call.freed = call.allocated.toList) (settled : call.Settled sink outcome) :
    (call.releases outcome progress).Valid sink := by
  cases progress with
  | next operation => exact ⟨releases, freed, settled.outcome, settled.put, settled.freed⟩
  | returned leases => exact ⟨freed, settled.outcome, settled.put, settled.freed⟩

end Receive

theorem PinnedBufferLease.mem_holdings {record : CachedBuffer} (buffer : lease.buffer = some record) :
    record.holding ∈ lease.holdings := by
  rw [holdings, buffer]
  exact List.mem_singleton.mpr rfl

/-- What one step of a call does, to what it holds itself and to the rest. -/
structure Stepped (sink : BackendGdsSink) (call : Receive) (after : BackendGdsSink)
    (moved : Receive) : Prop where
  pool : (sink.pool.custodyWith call.stage.holdings).Step
    (after.pool.custodyWith moved.stage.holdings)
  channels : Custody.Step { holdings := call.stage.channels, items := sink.channels }
    { holdings := moved.stage.channels, items := after.channels }
  leases : after.pool.leases = sink.pool.leases
  operations : after.pool.operations = sink.pool.operations
  pooled : moved.stage.Pooled
  computes : after.computeCrc32c = sink.computeCrc32c
  returned : ∀ channel ∈ sink.channels.returned, channel ∈ after.channels.returned
  elsewhere : ∀ data, (∀ holding ∈ call.stage.holdings, holding.item ≠ data) →
    after.memory data = sink.memory data
  valid : moved.Valid after

theorem Stepped.kept (stepped : Stepped sink call after moved) (pooled : sink.pool.Pooled) :
    after.pool.Pooled where
  leases := by
    rw [stepped.leases]
    exact pooled.leases
  operations := by
    rw [stepped.operations]
    exact pooled.operations

theorem Stepped.of_local (holdings : moved.stage.holdings = call.stage.holdings)
    (channels : moved.stage.channels = call.stage.channels) (pooled : moved.stage.Pooled)
    (valid : moved.Valid sink) : Stepped sink call sink moved where
  pool := .same _ (by rw [PinnedBufferPool.custodyWith, holdings])
  channels := .same _ (by rw [channels])
  leases := rfl
  operations := rfl
  pooled := pooled
  computes := rfl
  returned _ member := member
  elsewhere _ _ := rfl
  valid := valid

theorem Stepped.of_perform (owned : operation.Pooled)
    (before : call.stage.holdings = operation.holdings)
    (holdings : moved.stage.holdings = (sink.pool.perform success operation).2.holdings)
    (channels : moved.stage.channels = call.stage.channels) (pooled : moved.stage.Pooled)
    (valid : moved.Valid { sink with pool := (sink.pool.perform success operation).1 }) :
    Stepped sink call { sink with pool := (sink.pool.perform success operation).1 } moved where
  pool := by
    rw [before, holdings]
    exact (sink.pool.performed success operation).step owned
  channels := .same _ (by rw [channels])
  leases := (sink.pool.performed success operation).kept.1
  operations := (sink.pool.performed success operation).kept.2
  pooled := pooled
  computes := rfl
  returned _ member := member
  elsewhere _ _ := rfl
  valid := valid

theorem Stepped.of_channels {channels : Ledger}
    (holdings : moved.stage.holdings = call.stage.holdings)
    (step : Custody.Step { holdings := call.stage.channels, items := sink.channels }
      { holdings := moved.stage.channels, items := channels })
    (returned : ∀ channel ∈ sink.channels.returned, channel ∈ channels.returned)
    (pooled : moved.stage.Pooled) (valid : moved.Valid { sink with channels }) :
    Stepped sink call { sink with channels } moved where
  pool := .same _ (by rw [PinnedBufferPool.custodyWith, holdings])
  channels := step
  leases := rfl
  operations := rfl
  pooled := pooled
  computes := rfl
  returned := returned
  elsewhere _ _ := rfl
  valid := valid

namespace BackendGdsSink

theorem load_store (sink : BackendGdsSink) (data : Nat) (bytes : List UInt8) :
    (sink.store data bytes).load data bytes.length = bytes := by
  refine List.ext_getElem (by simp [load]) fun index _ bound => ?_
  simp [load, store, bound]

theorem enter_stepped (stage : call.stage = .entered) (untouched : call.Untouched) :
    Stepped sink call sink (call.enter sink.pool) := by
  have holdings : call.stage.holdings = [] := by rw [stage]; rfl
  have channels : call.stage.channels = [] := by rw [stage]; rfl
  have returns : ∀ outcome, outcome = call.expected sink.computeCrc32c →
      Stepped sink call sink (call.finish outcome) := by
    intro outcome expected
    obtain ⟨took, allocated, put, freed⟩ := untouched
    refine .of_local holdings.symm channels.symm trivial ⟨?_, .of_unfreed expected ?_ freed⟩
    · exact freed.trans (congrArg Option.toList allocated).symm
    · rw [Receive.finish, allocated]
      nofun
  rw [Receive.enter]
  split
  · rename_i oversize
    exact returns _ (Receive.expected_oversize oversize).symm
  · rename_i bounded
    split
    · rename_i empty
      exact returns _ (Receive.expected_empty empty).symm
    · rename_i nonempty
      have acquires : (sink.pool.acquire call.length).Acquires :=
        PinnedBufferPool.acquire_acquires call.length
      have pooled : (sink.pool.acquire call.length).Pooled :=
        PinnedBufferPool.acquire_pooled call.length
      refine .of_local ?_ ?_ (Receive.acquires_pooled acquires pooled)
        (Receive.acquires_valid acquires ⟨UInt64.not_lt.mp bounded, nonempty⟩ untouched)
      · rw [Receive.acquires_holdings acquires, PinnedBufferPool.acquire_holdings, holdings]
      · rw [Receive.acquires_channels, channels]

theorem acquiring_stepped (stage : call.stage = .acquiring operation) (pooled : operation.Pooled)
    (acquires : operation.Acquires) (admitted : Receive.Admitted call.length)
    (untouched : call.Untouched) :
    Stepped sink call { sink with pool := (sink.pool.perform success operation).1 }
      (call.acquires (sink.pool.perform success operation).2) := by
  have performed := sink.pool.performed success operation
  have goes_on : (sink.pool.perform success operation).2.Acquires := performed.acquires acquires
  refine .of_perform pooled (by rw [stage]; rfl) (Receive.acquires_holdings goes_on) ?_
    (Receive.acquires_pooled goes_on (performed.pooled pooled))
    (Receive.acquires_valid goes_on admitted untouched)
  rw [Receive.acquires_channels, stage]
  rfl

theorem allocated_stepped (stage : call.stage = .leased lease) (pooled : lease.Pooled)
    (leased : call.Leased lease) (put : call.put = none) :
    Stepped sink call { sink with channels := sink.channels.issue }
      { call with
        allocated := some sink.channels.issued
        stage := .connected lease sink.channels.issued } := by
  refine .of_channels (by rw [stage]; rfl) ?_ (fun _ member => member) pooled
    ⟨⟨leased.admitted, leased.ok, leased.took, leased.freed⟩, rfl, put⟩
  rw [stage]
  exact .obtain _ rfl

theorem unallocated_stepped (stage : call.stage = .leased lease) (pooled : lease.Pooled)
    (leased : call.Leased lease) (allocated : call.allocated = none) :
    Stepped sink call sink
      { call with stage := .dropping lease { error := "cuObjServer allocateChannelId failed" } } := by
  refine .of_local (by rw [stage]; rfl) (by rw [stage]; rfl) pooled
    ⟨leased.took, ?_, ?_⟩
  · exact leased.freed.trans (congrArg Option.toList allocated).symm
  · refine .of_unfreed (Receive.expected_no_channel leased allocated).symm ?_ leased.freed
    rw [allocated]
    nofun

/-- The scan finds in the buffer what the call's own transfer left there. -/
theorem scan_stepped (stage : call.stage = .transferred lease channel answer.transferred.toUInt64)
    (pooled : lease.Pooled) (leased : call.Leased lease) (allocated : call.allocated = some channel)
    (put : call.put = some answer) (succeeded : ¬ answer.transferred < 0)
    (loaded : ∀ record, lease.buffer = some record →
      sink.load record.data answer.transferred.toUInt64.toNat = answer.bytes) :
    Stepped sink call sink
      { call with
        stage := .unwinding lease channel (sink.scan lease answer.transferred.toUInt64) } := by
  refine .of_local (by rw [stage]; rfl) (by rw [stage]; rfl) pooled
    ⟨leased.took, allocated, leased.freed, .of_unfreed ?_ ?_ leased.freed⟩
  · refine Eq.trans ?_ (Receive.expected_transferred leased allocated put succeeded).symm
    obtain ⟨record, buffer⟩ := Option.isSome_iff_exists.mp leased.ok
    simp only [scan, buffer, loaded record buffer]
  · intro _
    exact Option.isSome_iff_exists.mpr ⟨answer, put⟩

theorem free_stepped (stage : call.stage = .unwinding lease channel outcome) (pooled : lease.Pooled)
    (took : call.took = lease.buffer) (allocated : call.allocated = some channel)
    (freed : call.freed = [])
    (settled : call.Settled sink outcome) :
    Stepped sink call { sink with channels := sink.channels.giveBack channel }
      { call with freed := call.freed ++ [channel], stage := .dropping lease outcome } := by
  refine .of_channels (by rw [stage]; rfl) ?_ (fun _ => Multiset.mem_cons_of_mem) pooled
    ⟨took, ?_, settled.outcome, settled.put, ?_⟩
  · rw [stage]
    exact .discard channel _ rfl
  · rw [freed, allocated]
    rfl
  · intro other member
    rw [freed] at member
    rw [List.mem_singleton.mp member]
    exact Multiset.mem_cons_self channel sink.channels.returned

theorem drop_stepped (stage : call.stage = .dropping lease outcome) (pooled : lease.Pooled)
    (freed : call.freed = call.allocated.toList) (settled : call.Settled sink outcome) :
    Stepped sink call sink (call.drop lease outcome) := by
  have releases := lease.release_releases
  refine .of_local ?_ ?_ (Receive.releases_pooled (PinnedBufferLease.Pooled.release pooled trivial))
    (Receive.releases_valid releases freed settled)
  · rw [Receive.drop, Receive.releases_holdings releases, lease.release_holdings, stage]
    exact List.append_nil _
  · rw [Receive.drop, Receive.releases_channels, stage]
    rfl

theorem releasing_stepped (stage : call.stage = .releasing operation outcome)
    (pooled : operation.Pooled) (releases : operation.Releases)
    (freed : call.freed = call.allocated.toList) (settled : call.Settled sink outcome) :
    Stepped sink call { sink with pool := (sink.pool.perform success operation).1 }
      (call.releases outcome (sink.pool.perform success operation).2) := by
  have performed := sink.pool.performed success operation
  have goes_on : (sink.pool.perform success operation).2.Releases := performed.releases releases
  refine .of_perform pooled (by rw [stage]; rfl) (Receive.releases_holdings goes_on) ?_
    (Receive.releases_pooled (performed.pooled pooled))
    (Receive.releases_valid goes_on freed (settled.frame rfl fun _ member => member))
  rw [Receive.releases_channels, stage]
  rfl

theorem perform_stepped (pooled : call.stage.Pooled) (valid : call.Valid sink)
    (performed : sink.perform success call = some (after, moved)) :
    Stepped sink call after moved := by
  cases stage : call.stage with
  | entered =>
      simp only [Receive.Valid, stage] at valid
      simp only [perform, stage] at performed
      cases performed
      exact enter_stepped stage valid
  | acquiring operation =>
      simp only [Receive.Valid, stage] at valid
      simp only [perform, stage] at performed
      cases performed
      rw [stage] at pooled
      obtain ⟨acquires, admitted, untouched⟩ := valid
      exact acquiring_stepped stage pooled acquires admitted untouched
  | leased lease =>
      simp only [Receive.Valid, stage] at valid
      simp only [perform, stage] at performed
      rw [stage] at pooled
      obtain ⟨leased, allocated, put⟩ := valid
      cases success with
      | false =>
          cases performed
          exact unallocated_stepped stage pooled leased allocated
      | true =>
          cases performed
          exact allocated_stepped stage pooled leased put
  | connected lease channel => simp [perform, stage] at performed
  | transferred lease channel bytes =>
      simp only [Receive.Valid, stage] at valid
      simp only [perform, stage] at performed
      cases performed
      rw [stage] at pooled
      obtain ⟨leased, allocated, answer, put, succeeded, rfl, loaded⟩ := valid
      exact scan_stepped stage pooled leased allocated put succeeded loaded
  | unwinding lease channel outcome =>
      simp only [Receive.Valid, stage] at valid
      simp only [perform, stage] at performed
      cases performed
      rw [stage] at pooled
      obtain ⟨took, allocated, freed, settled⟩ := valid
      exact free_stepped stage pooled took allocated freed settled
  | dropping lease outcome =>
      simp only [Receive.Valid, stage] at valid
      simp only [perform, stage] at performed
      cases performed
      rw [stage] at pooled
      obtain ⟨_, freed, settled⟩ := valid
      exact drop_stepped stage pooled freed settled
  | releasing operation outcome =>
      simp only [Receive.Valid, stage] at valid
      simp only [perform, stage] at performed
      cases performed
      rw [stage] at pooled
      obtain ⟨releases, freed, settled⟩ := valid
      exact releasing_stepped stage pooled releases freed settled
  | returned outcome => simp [perform, stage] at performed

theorem transfers_valid {record : CachedBuffer} (leased : call.Leased lease)
    (allocated : call.allocated = some channel) (buffer : lease.buffer = some record) :
    (call.transfers lease channel answer).Valid (sink.store record.data answer.bytes) := by
  have held : Receive.Leased { call with put := some answer } lease :=
    ⟨leased.admitted, leased.ok, leased.took, leased.freed⟩
  rw [Receive.transfers]
  dsimp only
  by_cases failed : answer.transferred < 0
  · rw [if_pos failed]
    exact ⟨leased.took, allocated, leased.freed,
      .of_unfreed (Receive.expected_failed held allocated rfl failed).symm (fun _ => rfl) leased.freed⟩
  · rw [if_neg failed]
    refine ⟨⟨leased.admitted, leased.ok, leased.took, leased.freed⟩, allocated,
      answer, rfl, failed, rfl, fun other same => ?_⟩
    rw [buffer] at same
    cases same
    rw [← answer.written failed]
    exact sink.load_store record.data answer.bytes

theorem transfer_stepped (pooled : call.stage.Pooled) (valid : call.Valid sink)
    (transferred : sink.transfer answer call = some (after, moved)) :
    Stepped sink call after moved := by
  rw [transfer] at transferred
  split at transferred
  · rename_i lease channel stage
    split at transferred
    · cases transferred
    · split at transferred
      · cases transferred
      · rename_i record buffer
        cases transferred
        simp only [Receive.Valid, stage] at valid
        obtain ⟨leased, allocated, put⟩ := valid
        rw [stage] at pooled
        refine
          { pool := .same _ ?_
            channels := .same _ ?_
            leases := rfl
            operations := rfl
            pooled := Receive.transfers_pooled pooled
            computes := rfl
            returned := fun _ member => member
            elsewhere := fun data apart => Function.update_of_ne ?_ _ _
            valid := transfers_valid leased allocated buffer }
        · rw [Receive.transfers_holdings, stage]
          rfl
        · rw [Receive.transfers_channels, stage]
          rfl
        · have mine : record.holding ∈ call.stage.holdings := by
            rw [stage]
            exact lease.mem_holdings buffer
          exact (apart _ mine).symm
  · cases transferred

end BackendGdsSink

end Us3Turbo.Backend
