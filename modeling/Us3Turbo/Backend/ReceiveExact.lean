import Us3Turbo.Backend.ReceiveIsolation
import Us3Turbo.Data.Load

/-! # Each call gives back what it took, once

What a call takes and gives back is read off the pool.  Each buffer comes back as often as the
pool let go of it, and the buffer of the lease in exactly one step, by which it is in a free
list again or has been freed.
-/

namespace Us3Turbo.Backend

open Us3Turbo.Data Us3Turbo.Transition

variable {success : Bool} {operation : Operation} {progress : Progress}
  {lease : PinnedBufferLease} {channel : Nat} {answer : PutAnswer} {outcome : DiscardOutcome}
  {pool rest : PinnedBufferPool} {sink after : BackendGdsSink} {call moved : Receive}
  {count : Nat → Nat}

/-! ## What the pool has to itself -/

namespace PinnedBufferPool

/-- How often a buffer is in the free lists, or among those that were freed. -/
def keeps (pool : PinnedBufferPool) (data : Nat) : Nat :=
  (pool.buckets.map (List.countP fun record => record.data = data)).sum +
    pool.buffers.returned.count data

theorem keeps_setBucket {index : Nat} {bucket : List CachedBuffer} (entries : List CachedBuffer)
    (found : pool.buckets[index]? = some bucket) (data : Nat) :
    (pool.setBucket index entries).keeps data + bucket.countP (fun record => record.data = data) =
      pool.keeps data + entries.countP fun record => record.data = data := by
  have cached := sum_map_set (List.countP fun record => record.data = data) entries found
  have freed : (pool.setBucket index entries).buffers = pool.buffers := rfl
  simp only [keeps, freed]
  simp only [setBucket]
  omega

theorem keeps_free (pool : PinnedBufferPool) (data other : Nat) :
    (pool.free data).keeps other = pool.keeps other + if other = data then 1 else 0 := by
  simp only [keeps, free, Ledger.giveBack, Multiset.count_cons]
  omega

theorem keeps_eq (pool : PinnedBufferPool) (data : Nat) :
    pool.keeps data =
      ((gathered (List.map CachedBuffer.holding) pool.buckets).map (·.item)).count data +
        pool.buffers.returned.count data := by
  rw [keeps, Nat.add_right_cancel_iff]
  induction pool.buckets with
  | nil => rfl
  | cons bucket buckets ih =>
      have here : (bucket.map CachedBuffer.holding).map (·.item) = bucket.map (·.data) :=
        List.map_map
      rw [List.map_cons, List.sum_cons, ih, gathered_cons, Multiset.map_add, Multiset.count_add,
        Multiset.map_coe, here, Multiset.coe_count, List.count_eq_countP, List.countP_map]
      rfl

/-- An `Acquire` brings nothing into the pool, but for a buffer that it could not register. -/
theorem Performed.takes_out (performed : Performed pool success operation rest progress)
    (acquires : operation.Acquires) :
    (∀ data, rest.keeps data ≤ pool.keeps data) ∨ progress = .returned [{}] := by
  cases performed with
  | reuses capacity sizeClass bucket record found last =>
      left
      intro data
      have cached := keeps_setBucket bucket.dropLast found data
      have fewer : bucket.dropLast.countP (fun record => record.data = data) ≤
          bucket.countP fun record => record.data = data := (List.dropLast_sublist bucket).countP_le
      omega
  | frees data => exact .inr rfl
  | unallocated => exact .inr rfl
  | seesShut | seesOpen | misses | allocates | unregistered | registers =>
      exact .inl fun data => Nat.le_refl _
  | _ => exact acquires.elim

/-- The buffer that a release is about goes with it until the pool has it. -/
theorem Performed.hands_in {data : Nat} (performed : Performed pool success operation rest progress)
    (releases : operation.Releases) (items : operation.holdings.map (·.item) = [data]) :
    (∃ next, progress = .next next ∧ next.holdings.map (·.item) = [data] ∧
      ∀ other, rest.keeps other = pool.keeps other) ∨
    progress = .returned [] ∧
      ∀ other, rest.keeps other = pool.keeps other + if other = data then 1 else 0 := by
  cases performed with
  | refuses | accepts | unbucketed | overflows | deregisters =>
      exact .inl ⟨_, rfl, items, fun _ => rfl⟩
  | pushes record sizeClass next bucket found room =>
      obtain rfl := releases
      have same : record.data = data := by
        simpa [Operation.holdings, CachedBuffer.holding, Resumption.holdings] using items
      refine .inr ⟨rfl, fun other => ?_⟩
      have cached := keeps_setBucket (bucket ++ [record]) found other
      rw [List.countP_append, List.countP_singleton, same] at cached
      simp only [decide_eq_true_eq, eq_comm (a := data)] at cached
      omega
  | disposes freed next =>
      obtain rfl := releases
      have same : freed = data := by simpa [Operation.holdings, Resumption.holdings] using items
      subst same
      exact .inr ⟨rfl, pool.keeps_free freed⟩
  | leaks record next =>
      obtain rfl := releases
      have same : record.data = data := by
        simpa [Operation.holdings, CachedBuffer.holding, Resumption.holdings] using items
      subst same
      exact .inr ⟨rfl, pool.keeps_free record.data⟩
  | _ => exact releases.elim

end PinnedBufferPool

theorem PinnedBufferLease.release_items {record : CachedBuffer} (buffer : lease.buffer = some record) :
    ∃ next, lease.release .destroyed = .next next ∧ next.holdings.map (·.item) = [record.data] := by
  simp only [release, buffer]
  split
  · exact ⟨_, rfl, rfl⟩
  · exact ⟨_, rfl, rfl⟩

/-! ## What one call has given back -/

namespace Receive

/-- `count` tells, for each buffer, how often the pool has got it back from the call. -/
def Tallied (count : Nat → Nat) (call : Receive) : Prop :=
  match call.stage with
  | .entered | .acquiring _ => ∀ data, count data = 0
  | .releasing operation _ => ∀ record, call.took = some record →
      count record.data = 0 ∧ operation.holdings.map (·.item) = [record.data]
  | .returned _ => ∀ record, call.took = some record → count record.data = 1
  | _ => ∀ record, call.took = some record → count record.data = 0

theorem takes_tallied (none : ∀ record, lease.buffer = some record → count record.data = 0) :
    (call.takes lease).Tallied count := by
  rw [takes]
  dsimp only
  split
  · exact none
  · exact none

theorem acquires_tallied (none : ∀ data, count data = 0) : (call.acquires progress).Tallied count := by
  cases progress with
  | next operation => exact none
  | returned leases => exact takes_tallied fun record _ => none record.data

end Receive

namespace BackendGdsSink

/-- How often the pool lets go of a buffer in a step from one sink to the next, out of a free list
or newly allocated. -/
def lends (before after : BackendGdsSink) (data : Nat) : Nat :=
  before.pool.keeps data - after.pool.keeps data +
    (after.pool.buffers.handedOut data - before.pool.buffers.handedOut data)

/-- How often the pool gets it back there. -/
def regains (before after : BackendGdsSink) (data : Nat) : Nat :=
  after.pool.keeps data - before.pool.keeps data

def opens (before after : BackendGdsSink) (channel : Nat) : Nat :=
  after.channels.handedOut channel - before.channels.handedOut channel

def closes (before after : BackendGdsSink) (channel : Nat) : Nat :=
  after.channels.returned.count channel - before.channels.returned.count channel

theorem tallied_same (same : after.pool = sink.pool) (tallied : moved.Tallied count) :
    moved.Tallied fun data => count data + regains sink after data := by
  have none : ∀ data, regains sink after data = 0 := by
    intro data
    rw [regains, same, Nat.sub_self]
  simpa only [none, Nat.add_zero] using tallied

theorem acquiring_tallied (acquires : operation.Acquires) (none : ∀ data, count data = 0) :
    (call.acquires (sink.pool.perform success operation).2).Tallied fun data =>
      count data + ((sink.pool.perform success operation).1.keeps data - sink.pool.keeps data) := by
  rcases (sink.pool.performed success operation).takes_out acquires with less | failed
  · apply Receive.acquires_tallied
    intro data
    rw [none data, Nat.zero_add, Nat.sub_eq_zero_of_le (less data)]
  · rw [failed]
    change (call.takes {}).Tallied _
    apply Receive.takes_tallied
    intro record buffer
    cases buffer

theorem releasing_tallied (releases : operation.Releases)
    (tallied : ∀ record, call.took = some record →
      count record.data = 0 ∧ operation.holdings.map (·.item) = [record.data]) :
    (call.releases outcome (sink.pool.perform success operation).2).Tallied fun data =>
      count data + ((sink.pool.perform success operation).1.keeps data - sink.pool.keeps data) := by
  have performed := sink.pool.performed success operation
  generalize sink.pool.perform success operation = result at performed
  cases took : call.took with
  | none =>
      cases result.2 with
      | next operation =>
          intro record held
          cases took.symm.trans held
      | returned leases =>
          intro record held
          cases took.symm.trans held
  | some record =>
      obtain ⟨none, items⟩ := tallied record took
      rcases performed.hands_in releases items with
        ⟨next, progress, still, same⟩ | ⟨progress, regained⟩
      · rw [progress]
        intro other held
        cases took.symm.trans held
        refine ⟨?_, still⟩
        simp only [same, none, Nat.sub_self]
      · rw [progress]
        intro other held
        cases took.symm.trans held
        simp only [regained, none, if_true]
        omega

theorem perform_tallied (valid : call.Valid sink) (tallied : call.Tallied count)
    (performed : sink.perform success call = some (after, moved)) :
    moved.Tallied fun data => count data + regains sink after data := by
  cases stage : call.stage with
  | entered =>
      simp only [Receive.Valid, stage] at valid
      simp only [Receive.Tallied, stage] at tallied
      simp only [perform, stage, Option.some.injEq, Prod.mk.injEq] at performed
      obtain ⟨rfl, rfl⟩ := performed
      apply tallied_same rfl
      have returns (outcome : DiscardOutcome) : (call.finish outcome).Tallied count := by
        intro record took
        rw [Receive.finish, valid.took] at took
        cases took
      rw [Receive.enter]
      split
      · exact returns _
      · split
        · exact returns _
        · exact Receive.acquires_tallied tallied
  | acquiring operation =>
      simp only [Receive.Valid, stage] at valid
      simp only [Receive.Tallied, stage] at tallied
      simp only [perform, stage, Option.some.injEq, Prod.mk.injEq] at performed
      obtain ⟨rfl, rfl⟩ := performed
      exact acquiring_tallied valid.1 tallied
  | leased lease =>
      simp only [Receive.Tallied, stage] at tallied
      simp only [perform, stage] at performed
      cases success with
      | true =>
          cases performed
          exact tallied_same rfl tallied
      | false =>
          cases performed
          exact tallied_same rfl tallied
  | connected lease channel => simp [perform, stage] at performed
  | transferred lease channel bytes =>
      simp only [Receive.Tallied, stage] at tallied
      simp only [perform, stage, Option.some.injEq, Prod.mk.injEq] at performed
      obtain ⟨rfl, rfl⟩ := performed
      exact tallied_same rfl tallied
  | unwinding lease channel outcome =>
      simp only [Receive.Tallied, stage] at tallied
      simp only [perform, stage, Option.some.injEq, Prod.mk.injEq] at performed
      obtain ⟨rfl, rfl⟩ := performed
      exact tallied_same rfl tallied
  | dropping lease outcome =>
      simp only [Receive.Valid, stage] at valid
      simp only [Receive.Tallied, stage] at tallied
      simp only [perform, stage, Option.some.injEq, Prod.mk.injEq] at performed
      obtain ⟨rfl, rfl⟩ := performed
      apply tallied_same rfl
      rw [Receive.drop]
      cases buffer : lease.buffer with
      | none =>
          simp only [PinnedBufferLease.release, buffer]
          intro record took
          cases (valid.1.trans buffer).symm.trans took
      | some record =>
          obtain ⟨next, released, items⟩ := lease.release_items buffer
          rw [released]
          intro other took
          cases (valid.1.trans buffer).symm.trans took
          exact ⟨tallied record (valid.1.trans buffer), items⟩
  | releasing operation outcome =>
      simp only [Receive.Valid, stage] at valid
      simp only [Receive.Tallied, stage] at tallied
      simp only [perform, stage, Option.some.injEq, Prod.mk.injEq] at performed
      obtain ⟨rfl, rfl⟩ := performed
      exact releasing_tallied valid.1 tallied
  | returned outcome => simp [perform, stage] at performed

theorem transfer_tallied (tallied : call.Tallied count)
    (transferred : sink.transfer answer call = some (after, moved)) :
    moved.Tallied fun data => count data + regains sink after data := by
  rw [transfer] at transferred
  split at transferred
  · rename_i lease channel stage
    simp only [Receive.Tallied, stage] at tallied
    split at transferred
    · cases transferred
    · split at transferred
      · cases transferred
      · cases transferred
        apply tallied_same rfl
        rw [Receive.transfers]
        split
        · exact tallied
        · exact tallied
  · cases transferred

end BackendGdsSink

/-! ## What a call has taken and given back in a run -/

namespace Receives

variable {start receives next : Receives} {event : Event} {events : List Event} {index : Nat}

/-- A step of the call at `index`. -/
def Event.isOf (index : Nat) : Event → Bool
  | .step other _ | .transfer other _ => other = index
  | _ => false

/-- What a step is to the call at `index`. -/
inductive Seen (index : Nat) (receives : Receives) (event : Event) (next : Receives) : Prop where
  | apart (other : event.isOf index = false) (same : next.calls[index]? = receives.calls[index]?)
  | arrives (call : Receive) (other : event.isOf index = false)
      (none : receives.calls[index]? = none) (found : next.calls[index]? = some call)
      (entered : call.stage = .entered)
  | own (call moved : Receive) (mine : event.isOf index = true)
      (found : receives.calls[index]? = some call) (placed : next.calls[index]? = some moved)
      (steps : (∃ success, receives.sink.perform success call = some (next.sink, moved)) ∨
        ∃ answer, receives.sink.transfer answer call = some (next.sink, moved))

theorem seen_settle {other : Nat} (isOf : event.isOf index = decide (other = index))
    (found : receives.calls[other]? = some call)
    (steps : (∃ success, receives.sink.perform success call = some (after, moved)) ∨
      ∃ answer, receives.sink.transfer answer call = some (after, moved)) :
    Seen index receives event (receives.settle other (after, moved)) := by
  by_cases same : other = index
  · subst same
    have inside := (List.getElem?_eq_some_iff.mp found).1
    exact .own call moved (by simpa using isOf) found (List.getElem?_set_self inside) steps
  · exact .apart (by simpa [same] using isOf) (List.getElem?_set_ne same)

theorem seen (advanced : receives.advance event = some next) (index : Nat) :
    Seen index receives event next := by
  cases event with
  | call objectId rdmaToken length =>
      cases advanced
      rcases Nat.lt_trichotomy index receives.calls.length with before | rfl | beyond
      · exact .apart rfl (List.getElem?_append_left before)
      · exact .arrives _ rfl (List.getElem?_eq_none (Nat.le_refl _)) List.getElem?_concat_length rfl
      · refine .apart rfl ?_
        rw [List.getElem?_eq_none (Nat.le_of_lt beyond), List.getElem?_eq_none]
        rw [List.length_append]
        exact beyond
  | step other success =>
      obtain ⟨call, found, stepped⟩ := Option.bind_eq_some_iff.mp advanced
      obtain ⟨⟨sink, moved⟩, performed, rfl⟩ := Option.map_eq_some_iff.mp stepped
      exact seen_settle rfl found (.inl ⟨success, performed⟩)
  | transfer other answer =>
      obtain ⟨call, found, stepped⟩ := Option.bind_eq_some_iff.mp advanced
      obtain ⟨⟨sink, moved⟩, transferred, rfl⟩ := Option.map_eq_some_iff.mp stepped
      exact seen_settle rfl found (.inr ⟨answer, transferred⟩)
  | pool event =>
      obtain ⟨pool, used, rfl⟩ := Option.map_eq_some_iff.mp advanced
      exact .apart rfl rfl

/-- The sum of what `counts` finds in the steps of the call at `index`. -/
def inSteps (index : Nat) (counts : BackendGdsSink → BackendGdsSink → Nat) :
    Receives → List Event → Nat
  | _, [] => 0
  | receives, event :: events =>
      match receives.advance event with
      | none => 0
      | some next =>
          (if event.isOf index then counts receives.sink next.sink else 0) +
            inSteps index counts next events

/-- How often the pool lets go of buffer `data` in the steps of the call at `index`. -/
def takenOut (index data : Nat) : Receives → List Event → Nat :=
  inSteps index fun before after => before.lends after data

/-- How often the pool gets it back there. -/
def givenBack (index data : Nat) : Receives → List Event → Nat :=
  inSteps index fun before after => before.regains after data

/-- How often the server gives out `channel` in the steps of the call at `index`. -/
def opened (index channel : Nat) : Receives → List Event → Nat :=
  inSteps index fun before after => before.opens after channel

def closed (index channel : Nat) : Receives → List Event → Nat :=
  inSteps index fun before after => before.closes after channel

def Tallied (count : Nat → Nat) (index : Nat) (receives : Receives) : Prop :=
  match receives.calls[index]? with
  | none => ∀ data, count data = 0
  | some call => call.Tallied count

theorem Tallied.step (tallied : receives.Tallied count index) (good : receives.Good)
    (advanced : receives.advance event = some next) :
    next.Tallied (fun data => count data +
      if event.isOf index then receives.sink.regains next.sink data else 0) index := by
  cases seen advanced index with
  | apart other same =>
      simp only [Tallied, same, other, Bool.false_eq_true, if_false, Nat.add_zero]
      exact tallied
  | arrives call other none found entered =>
      simp only [Tallied, none] at tallied
      simp only [Tallied, found, other, Bool.false_eq_true, if_false, Nat.add_zero, Receive.Tallied,
        entered]
      exact tallied
  | own call moved mine found placed steps =>
      simp only [Tallied, found] at tallied
      simp only [Tallied, placed, mine, if_true]
      rcases steps with ⟨success, performed⟩ | ⟨answer, transferred⟩
      · have valid := good.valid call (List.mem_of_getElem? found)
        exact BackendGdsSink.perform_tallied valid tallied performed
      · exact BackendGdsSink.transfer_tallied tallied transferred

theorem Tallied.run (good : start.Good) (run : system.Run start events receives)
    (tallied : start.Tallied count index) :
    receives.Tallied (fun data => count data + givenBack index data start events) index := by
  induction run generalizing count with
  | nil state =>
      simp only [givenBack, inSteps, Nat.add_zero]
      exact tallied
  | cons head tail ih =>
      have advanced : advance _ _ = some _ := head
      have rest := ih (good_invariant.step good head) (tallied.step good advanced)
      simp only [givenBack, inSteps, advanced] at rest ⊢
      simpa only [Nat.add_assoc] using rest

/-! ## What is out is held -/

section Flows

variable {lends regains : BackendGdsSink → BackendGdsSink → Nat} {holds : Receive → Nat}

/-- What is lent in a step of a call, the call holds until it is got back. -/
structure Flows (lends regains : BackendGdsSink → BackendGdsSink → Nat) (holds : Receive → Nat) :
    Prop where
  entered : ∀ call : Receive, call.stage = .entered → holds call = 0
  steps : ∀ {sink call after moved}, Stepped sink call after moved →
    lends sink after + holds call = regains sink after + holds moved
  returned : ∀ (call : Receive) {outcome}, call.stage = .returned outcome → holds call = 0

def held (holds : Receive → Nat) (receives : Receives) (index : Nat) : Nat :=
  (receives.calls[index]?).elim 0 holds

theorem Flows.step (flows : Flows lends regains holds) (good : receives.Good)
    (advanced : receives.advance event = some next) (index : Nat) :
    (if event.isOf index then lends receives.sink next.sink else 0) + held holds receives index =
      (if event.isOf index then regains receives.sink next.sink else 0) + held holds next index := by
  cases seen advanced index with
  | apart other same => simp only [held, same, other, Bool.false_eq_true, if_false]
  | arrives call other none found entered =>
      simp only [held, none, found, other, Bool.false_eq_true, if_false, Option.elim_none,
        Option.elim_some, flows.entered call entered]
  | own call moved mine found placed steps =>
      simp only [held, found, placed, mine, if_true, Option.elim_some]
      have member := List.mem_of_getElem? found
      rcases steps with ⟨success, performed⟩ | ⟨answer, transferred⟩
      · exact flows.steps (BackendGdsSink.perform_stepped (good.pooled call member)
          (good.valid call member) performed)
      · exact flows.steps (BackendGdsSink.transfer_stepped (good.pooled call member)
          (good.valid call member) transferred)

theorem Flows.run (flows : Flows lends regains holds) (good : start.Good)
    (run : system.Run start events receives) (index : Nat) :
    inSteps index lends start events + held holds start index =
      inSteps index regains start events + held holds receives index := by
  induction run with
  | nil state => rfl
  | cons head tail ih =>
      have advanced : advance _ _ = some _ := head
      have rest := ih (good_invariant.step good head)
      have first := flows.step good advanced index
      simp only [inSteps, advanced]
      omega

/-- From the start to the return of a call everything that it was lent is got back. -/
theorem Flows.settled (flows : Flows lends regains holds) (initial : system.initial start)
    (run : system.Run start events receives) (found : receives.calls[index]? = some call)
    (returned : call.stage = .returned outcome) :
    inSteps index lends start events = inSteps index regains start events := by
  have flow := flows.run (good_invariant.initial initial) run index
  have before : held holds start index = 0 := by
    rw [held, initial.1]
    rfl
  have now : held holds receives index = 0 := by
    rw [held, found, Option.elim_some, flows.returned call returned]
  omega

end Flows

theorem buffers_flow (data : Nat) :
    Flows (fun before after => before.lends after data) (fun before after => before.regains after data)
      fun call => (call.stage.holdings.map (·.item)).count data where
  entered call stage := by
    rw [stage]
    rfl
  steps stepped := by
    have items := stepped.pool.count data
    have more := stepped.pool.handedOut_le data
    simp only [PinnedBufferPool.custodyWith, PinnedBufferPool.holdings, stepped.leases,
      stepped.operations, Multiset.map_add, Multiset.count_add, Multiset.map_coe,
      Multiset.coe_count] at items more
    simp only [BackendGdsSink.lends, BackendGdsSink.regains, PinnedBufferPool.keeps_eq]
    omega
  returned call outcome stage := by
    rw [stage]
    rfl

theorem channels_flow (channel : Nat) :
    Flows (fun before after => before.opens after channel)
      (fun before after => before.closes after channel)
      fun call => (call.stage.channels.map (·.item)).count channel where
  entered call stage := by
    rw [stage]
    rfl
  steps stepped := by
    have items := stepped.channels.count channel
    have more := stepped.channels.handedOut_le channel
    have back := stepped.channels.returned_le channel
    simp only [Multiset.map_coe, Multiset.coe_count] at items more back
    simp only [BackendGdsSink.opens, BackendGdsSink.closes]
    omega
  returned call outcome stage := by
    rw [stage]
    rfl

/-- A call that has returned reports what its own transfer did, as if no other had run.  It has
freed its channel once, every channel and buffer that it was given has come back in its own
steps, and the buffer of its lease in exactly one of them. -/
theorem receive_exact (initial : system.initial start) (run : system.Run start events receives)
    (found : receives.calls[index]? = some call) (returned : call.stage = .returned outcome) :
    outcome = receiveAndDiscard receives.sink.computeCrc32c call.server call.objectId call.rdmaToken
      call.length ∧
    (outcome.ok = true → call.length ≠ 0 → ∃ answer, call.put = some answer ∧
      outcome.bytesTransferred = answer.transferred.toUInt64 ∧
      (receives.sink.computeCrc32c = true → outcome.crc32c = crc32c answer.bytes)) ∧
    call.freed = call.allocated.toList ∧
    (∀ channel ∈ call.freed, receives.sink.channels.returned.count channel = 1) ∧
    (∀ channel, opened index channel start events = closed index channel start events) ∧
    (∀ data, takenOut index data start events = givenBack index data start events) ∧
    ∀ record, call.took = some record → givenBack index record.data start events = 1 := by
  have good := good_invariant.run (good_invariant.initial initial) run
  have valid := good.valid call (List.mem_of_getElem? found)
  simp only [Receive.Valid, returned] at valid
  obtain ⟨freed, settled⟩ := valid
  have same : outcome = receiveAndDiscard receives.sink.computeCrc32c call.server call.objectId
    call.rdmaToken call.length := settled.outcome
  refine ⟨same, settled.transferred, freed, ?_, ?_, ?_, ?_⟩
  · intro channel freed_here
    exact Multiset.count_eq_one_of_mem good.channels.items.nodup_returned
      (settled.freed channel freed_here)
  · exact fun channel => (channels_flow channel).settled initial run found returned
  · exact fun data => (buffers_flow data).settled initial run found returned
  · have nothing : start.Tallied (fun _ => 0) index := by
      rw [Tallied, initial.1]
      exact fun _ => rfl
    have tallied := nothing.run (good_invariant.initial initial) run
    rw [Tallied, found] at tallied
    simp only [Receive.Tallied, returned, Nat.zero_add] at tallied
    exact tallied

def firstReceive : Receive where
  objectId := "a"
  rdmaToken := ""
  length := 3
  stage := .returned { ok := true, bytesTransferred := 3, crc32c := crc32c [1, 2, 3] }
  took := some ⟨0, 4, 0⟩
  allocated := some 0
  put := some threeBytes
  freed := [0]

/-- The buffer that the first call takes was in the pool, and is there again. -/
theorem first_call_not_mixed : ∃ receives : Receives, receives.calls[0]? = some firstReceive ∧
    firstReceive.freed = firstReceive.allocated.toList ∧
    (∀ channel ∈ firstReceive.freed, receives.sink.channels.returned.count channel = 1) ∧
    takenOut 0 0 ⟨staleSink, []⟩ overlapping = 1 ∧
    givenBack 0 0 ⟨staleSink, []⟩ overlapping = 1 := by
  have replayed : (System.replay advance ⟨staleSink, []⟩ overlapping).bind (·.calls[0]?) =
      some firstReceive := rfl
  obtain ⟨receives, run, found⟩ := Option.bind_eq_some_iff.mp replayed
  obtain ⟨_, _, freed, once, _, same, back⟩ :=
    receive_exact ⟨rfl, rfl, cachedPool_reachable⟩ (.of_replay run) found rfl
  have given := back ⟨0, 4, 0⟩ rfl
  exact ⟨receives, found, freed, once, (same 0).trans given, given⟩

end Receives

end Us3Turbo.Backend
