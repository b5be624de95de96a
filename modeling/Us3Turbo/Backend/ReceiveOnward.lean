import Us3Turbo.Backend.Process

/-! # What a step leaves of the calls of `ReceiveAndDiscard`

Whoever made a call finds it again at its place, with its arguments, and once it has
returned with its result.
-/

namespace Us3Turbo.Backend

variable {success : Bool} {progress : Progress} {lease : PinnedBufferLease} {channel : Nat}
  {outcome : DiscardOutcome} {pool : PinnedBufferPool} {sink result : BackendGdsSink}
  {call moved : Receive} {answer : PutAnswer} {receives next : Receives}

def Receive.arguments (call : Receive) : String × String × UInt64 :=
  (call.objectId, call.rdmaToken, call.length)

/-- The same call, at this point or another; once it has returned it does not change. -/
structure Kept (call moved : Receive) : Prop where
  arguments : moved.arguments = call.arguments
  returned : ∀ outcome, call.stage = .returned outcome → moved = call

theorem Kept.refl (call : Receive) : Kept call call :=
  ⟨rfl, fun _ _ => rfl⟩

theorem takes_arguments : (call.takes lease).arguments = call.arguments := by
  rw [Receive.takes]
  dsimp only
  split <;> rfl

theorem acquires_arguments : (call.acquires progress).arguments = call.arguments := by
  cases progress with
  | next operation => rfl
  | returned leases => exact takes_arguments

theorem releases_arguments : (call.releases outcome progress).arguments = call.arguments := by
  cases progress <;> rfl

theorem enter_arguments : (call.enter pool).arguments = call.arguments := by
  rw [Receive.enter]
  split
  · rfl
  · split
    · rfl
    · exact acquires_arguments

theorem drop_arguments : (call.drop lease outcome).arguments = call.arguments := by
  rw [Receive.drop, releases_arguments]

theorem transfers_arguments : (call.transfers lease channel answer).arguments = call.arguments := by
  rw [Receive.transfers]
  dsimp only
  split <;> rfl

theorem perform_kept (performed : sink.perform success call = some (result, moved)) :
    Kept call moved ∧ result.computeCrc32c = sink.computeCrc32c := by
  have going : ∀ outcome, call.stage ≠ .returned outcome := by
    intro outcome stage
    simp [BackendGdsSink.perform, stage] at performed
  suffices kept : moved.arguments = call.arguments ∧ result.computeCrc32c = sink.computeCrc32c from
    ⟨⟨kept.1, fun outcome stage => absurd stage (going outcome)⟩, kept.2⟩
  rw [BackendGdsSink.perform] at performed
  split at performed
  · cases performed
    exact ⟨enter_arguments, rfl⟩
  · cases performed
    exact ⟨acquires_arguments, rfl⟩
  · split at performed <;> cases performed <;> exact ⟨rfl, rfl⟩
  · cases performed
  · cases performed
    exact ⟨rfl, rfl⟩
  · cases performed
    exact ⟨rfl, rfl⟩
  · cases performed
    exact ⟨drop_arguments, rfl⟩
  · cases performed
    exact ⟨releases_arguments, rfl⟩
  · cases performed

theorem transfer_kept (transferred : sink.transfer answer call = some (result, moved)) :
    Kept call moved ∧ result.computeCrc32c = sink.computeCrc32c := by
  rw [BackendGdsSink.transfer] at transferred
  split at transferred
  · rename_i lease channel stage
    split at transferred
    · cases transferred
    · split at transferred
      · cases transferred
      · cases transferred
        refine ⟨⟨transfers_arguments, fun outcome returned => ?_⟩, rfl⟩
        rw [stage] at returned
        cases returned
  · cases transferred

/-- What a step of the process leaves of its calls. -/
structure Onward (receives next : Receives) : Prop where
  calls : ∀ {index : Nat} {call}, receives.calls[index]? = some call →
    ∃ moved, next.calls[index]? = some moved ∧ Kept call moved
  computes : next.sink.computeCrc32c = receives.sink.computeCrc32c

theorem settle_onward {index : Nat} (found : receives.calls[index]? = some call)
    (kept : Kept call moved ∧ result.computeCrc32c = receives.sink.computeCrc32c) :
    Onward receives (receives.settle index (result, moved)) where
  calls := by
    intro other old known
    by_cases same : index = other
    · subst same
      cases found.symm.trans known
      exact ⟨moved, List.getElem?_set_self (List.getElem?_eq_some_iff.mp found).1, kept.1⟩
    · exact ⟨old, (List.getElem?_set_ne same).trans known, .refl old⟩
  computes := kept.2

theorem receives_onward {event : Receives.Event}
    (own : (Process.opens event || Process.continues event) = true)
    (advanced : receives.advance event = some next) : Onward receives next := by
  cases event with
  | call objectId rdmaToken length =>
      cases advanced
      refine ⟨fun {index call} known => ⟨call, ?_, .refl call⟩, rfl⟩
      rw [List.getElem?_append_left (List.getElem?_eq_some_iff.mp known).1, known]
  | step index success =>
      obtain ⟨call, found, stepped⟩ := Option.bind_eq_some_iff.mp advanced
      obtain ⟨⟨sink, moved⟩, performed, rfl⟩ := Option.map_eq_some_iff.mp stepped
      exact settle_onward found (perform_kept performed)
  | transfer index answer =>
      obtain ⟨call, found, stepped⟩ := Option.bind_eq_some_iff.mp advanced
      obtain ⟨⟨sink, moved⟩, transferred, rfl⟩ := Option.map_eq_some_iff.mp stepped
      exact settle_onward found (transfer_kept transferred)
  | pool event => cases own

theorem process_onward {brpc : BrpcServer} {before after : Process} {event : Process.Event}
    (advanced : before.advance brpc event = some after) : Onward before.receives after.receives := by
  have still : Onward before.receives before.receives :=
    ⟨fun {index call} known => ⟨call, known, .refl call⟩, rfl⟩
  cases Process.moved advanced with
  | receives event next own running received => exact receives_onward own received
  | shuts operation destructing success stage => exact ⟨still.calls, rfl⟩
  | listens | refused | signalled | joined | resets => exact still

end Us3Turbo.Backend
