import Us3Turbo.Cluster.Replies

/-! # A result is published before it is reported

The backend answers a `GdsPut` only after the call of its `ReportGdsPut` is over, so an
attempt that succeeds finds its record completed, and nothing undoes it.
-/

namespace Us3Turbo.Cluster

open Us3Turbo.Data Us3Turbo.Proto Us3Turbo.Client Us3Turbo.Transition
open Us3Turbo.Backend (buildEtag reportGdsPutRequest)
open Us3Turbo.Proxy (ProxyControlPlaneService ticketOf completeUpload)

variable {before after world : World} {event : Event} {put : PutOnce} {key : String} {id : Nat}
  {execution : Execution}

/-! ## Reports -/

/-- The record of the session shows what the execution brought. -/
def Published (world : World) (id : Nat) : Prop :=
  ∃ execution served record, world.executions id = some execution ∧
    execution.served = some served ∧
    world.proxy.lookup execution.request.sessionId = some record ∧ record.status = .completed ∧
    record.etag = buildEtag served.outcome.crc32c ∧ record.crc32c = served.outcome.crc32c

structure Reports (world : World) : Prop where
  calls : ∀ {id report}, .reportGdsPut id report ∈ world.network →
    ∃ execution served, world.executions id = some execution ∧ execution.served = some served ∧
      report = reportGdsPutRequest execution.request served.outcome
  replies : ∀ {id response}, .reportGdsPutReply id response ∈ world.network →
    response.accepted = true ∧ Published world id

namespace Reports

theorem calls_effect (reports : Reports before) (consistent : Consistent before)
    (effect : Effect before event after) {report : ReportGdsPutRequest}
    (member : .reportGdsPut id report ∈ after.network) :
    ∃ execution served, after.executions id = some execution ∧ execution.served = some served ∧
      report = reportGdsPutRequest execution.request served.outcome := by
  rcases effect.issued member with old | new
  · obtain ⟨execution, served, known, brought, rfl⟩ := reports.calls old
    obtain ⟨next, known', proceeds⟩ := effect.executions known
    exact ⟨next, served, known', proceeds.served served brought, by rw [proceeds.request]⟩
  · cases new with
    | reportGdsPut id execution served report known brought notification =>
        obtain ⟨server, servedBy⟩ := consistent.servedBy_effect effect known brought
        exact ⟨execution, served, known, brought, servedBy.report_eq notification⟩

/-- A later report on the session is of the same execution, and the session is not opened
again. -/
theorem published_effect (reports : Reports before) (orderly : Orderly before)
    (consistent : Consistent before) (published : Published before id)
    (effect : Effect before event after) : Published after id := by
  obtain ⟨execution, served, record, known, brought, found, done, etag, crc32c⟩ := published
  obtain ⟨next, known', proceeds⟩ := effect.executions known
  suffices still : ∃ record, after.proxy.lookup execution.request.sessionId = some record ∧
      record.status = .completed ∧ record.etag = buildEtag served.outcome.crc32c ∧
      record.crc32c = served.outcome.crc32c by
    obtain ⟨record, found, done, etag, crc32c⟩ := still
    rw [← proceeds.request] at found
    exact ⟨next, served, record, known', proceeds.served served brought, found, done, etag, crc32c⟩
  rcases effect.proxy with same | ⟨request, now, pending, same⟩ | ⟨other, report, pending, same⟩
  · rw [same]
    exact ⟨record, found, done, etag, crc32c⟩
  · rw [same, ProxyControlPlaneService.lookup_openSession, if_neg]
    · exact ⟨record, found, done, etag, crc32c⟩
    · intro opens
      obtain ⟨_, picked⟩ := ProxyControlPlaneService.opens_eq_some.mp opens
      rw [consistent.own_id pending] at picked
      rw [← picked, orderly.unopened pending] at found
      cases found
  · rw [same, ProxyControlPlaneService.lookup_reportGdsPut, found]
    split
    · rename_i name
      obtain ⟨reported, values, known'', brought', rfl⟩ := reports.calls pending
      have one : id = other := orderly.single known known'' name
      subst one
      rw [known, Option.some.injEq] at known''
      subst known''
      rw [brought, Option.some.injEq] at brought'
      subst brought'
      exact ⟨_, rfl, rfl, rfl, rfl⟩
    · exact ⟨record, rfl, done, etag, crc32c⟩

theorem answered (reports : Reports before) (grants : Grants before) (attributed : Attributed before)
    (effect : Effect before event after) {report : ReportGdsPutRequest}
    (pending : .reportGdsPut id report ∈ before.network)
    (proxy : after.proxy = (before.proxy.reportGdsPut report).2) :
    (before.proxy.reportGdsPut report).1.accepted = true ∧ Published after id := by
  obtain ⟨execution, served, known, brought, rfl⟩ := reports.calls pending
  have recorded := grants.recorded (attributed.executions known)
  refine ⟨ProxyControlPlaneService.accepted_reportGdsPut.trans recorded, ?_⟩
  obtain ⟨record, found⟩ := Option.isSome_iff_exists.mp recorded
  obtain ⟨next, known', proceeds⟩ := effect.executions known
  refine ⟨next, served, record.complete (buildEtag served.outcome.crc32c) served.outcome.crc32c
    served.outcome.bytesTransferred, known', proceeds.served served brought, ?_, rfl, rfl, rfl⟩
  rw [proceeds.request, proxy, ProxyControlPlaneService.lookup_reportGdsPut]
  exact (if_pos rfl).trans (congrArg _ found)

theorem replies_passage (reports : Reports before) (grants : Grants before) (orderly : Orderly before)
    (attributed : Attributed before) (consistent : Consistent before)
    (passage : Passage before event after) {response : ReportGdsPutResponse}
    (member : .reportGdsPutReply id response ∈ after.network) :
    response.accepted = true ∧ Published after id := by
  rcases passage.replied member with old | new
  · obtain ⟨accepted, published⟩ := reports.replies old
    exact ⟨accepted, reports.published_effect orderly consistent published passage.effect⟩
  · generalize sent : (.reportGdsPutReply id response : Message) = message at new
    cases new with
    | asked message asks =>
        subst sent
        cases asks
    | openSession => cases sent
    | gdsPut => cases sent
    | reportGdsPut other report pending proxy =>
        rw [Message.reportGdsPutReply.injEq] at sent
        obtain ⟨rfl, rfl⟩ := sent
        exact reports.answered grants attributed passage.effect pending proxy

theorem passage (reports : Reports before) (grants : Grants before) (orderly : Orderly before)
    (attributed : Attributed before) (consistent : Consistent before)
    (passage : Passage before event after) : Reports after where
  calls := reports.calls_effect consistent passage.effect
  replies := reports.replies_passage grants orderly attributed consistent passage

end Reports

theorem reports_initial (initial : World.system.initial world) : Reports world where
  calls member := absurd member (initial_network initial)
  replies member := absurd member (initial_network initial)

/-! ## What the backend is told -/

/-- `answers` holds the reply that the `ReportGdsPut` call of an execution got. -/
structure Observed where
  world : World
  answers : Nat → Option ReportGdsPutResponse := fun _ => none

namespace Observed

variable {observed later : Observed} {events : List Event}

def waits (world : World) (id : Nat) : Bool :=
  match world.executions id with
  | some ⟨_, _, .notifying _⟩ => true
  | _ => false

/-- A reply that arrives while its execution still waits for it. -/
def heard (world : World) : Event → Option (Nat × ReportGdsPutResponse)
  | .deliver index _ _ =>
      match world.network[index]? with
      | some (.reportGdsPutReply id response) =>
          if waits world id then some (id, response) else none
      | _ => none
  | _ => none

def listen (observed : Observed) (event : Event) (id : Nat) : Option ReportGdsPutResponse :=
  match heard observed.world event with
  | some (other, response) => if other = id then some response else observed.answers id
  | none => observed.answers id

def advance (observed : Observed) (event : Event) : Option Observed :=
  (observed.world.advance event).map fun world => { world, answers := observed.listen event }

def system : System Observed Event :=
  .ofAdvance (fun observed => World.system.initial observed.world ∧
    observed.answers = fun _ => none) advance

/-- The runs in which every `GdsPut` is an attempt's own and no message arrives twice. -/
def atMostOnce : System Observed Event :=
  system.restrict fun _ event _ => event.own = true ∧ event.once = true

structure Sound (observed : Observed) : Prop where
  consistent : Consistent observed.world
  attributed : Attributed observed.world
  orderly : Orderly observed.world
  grants : Grants observed.world
  results : Results observed.world
  reports : Reports observed.world
  answers : ∀ {id response}, observed.answers id = some response →
    response.accepted = true ∧ Published observed.world id

theorem heard_pending {response : ReportGdsPutResponse}
    (hears : heard world event = some (id, response)) :
    .reportGdsPutReply id response ∈ world.network := by
  unfold heard at hears
  split at hears
  · split at hears
    · rename_i found
      simp only [Option.ite_none_right_eq_some, Option.some.injEq, Prod.mk.injEq] at hears
      obtain ⟨_, rfl, rfl⟩ := hears
      exact List.mem_of_getElem? found
    · cases hears
  · cases hears

theorem listen_origin {response : ReportGdsPutResponse}
    (hears : observed.listen event id = some response) :
    .reportGdsPutReply id response ∈ observed.world.network ∨
      observed.answers id = some response := by
  unfold listen at hears
  split at hears
  · rename_i other answer pending
    split at hears
    · rename_i same
      cases hears
      exact .inl (same ▸ heard_pending pending)
    · exact .inr hears
  · exact .inr hears

theorem listen_keeps (heard : (observed.answers id).isSome = true) :
    (observed.listen event id).isSome = true := by
  unfold listen
  split
  · split
    · rfl
    · exact heard
  · exact heard

theorem sound_invariant : atMostOnce.Invariant Sound where
  initial := by
    rintro observed ⟨initial, unheard⟩
    exact
      { consistent := consistent_invariant.initial initial
        attributed := attributed_invariant.initial initial
        orderly := orderly_initial initial
        grants := grants_initial initial
        results := results_initial initial
        reports := reports_initial initial
        answers := fun heard => by
          rw [unheard] at heard
          cases heard }
  step := by
    intro before event after sound step
    obtain ⟨advanced, own, once⟩ := step
    obtain ⟨world, moved, rfl⟩ := Option.map_eq_some_iff.mp advanced
    have passage := advance_passage moved
    exact
      { consistent := sound.consistent.effect passage.effect
        attributed := sound.attributed.effect passage.effect own
        orderly := sound.orderly.passage sound.consistent sound.attributed passage own once
        grants := sound.grants.passage sound.consistent passage
        results := sound.results.passage passage
        reports := sound.reports.passage sound.grants sound.orderly sound.attributed
          sound.consistent passage
        answers := fun heard => by
          obtain ⟨accepted, published⟩ := (listen_origin heard).elim sound.reports.replies sound.answers
          exact ⟨accepted, sound.reports.published_effect sound.orderly sound.consistent published
            passage.effect⟩ }

/-- The attempt of `key` has succeeded, and the report of its execution got a reply. -/
structure Succeeded (observed : Observed) (key : String) (put : PutOnce) (id : Nat) : Prop where
  known : observed.world.attempts key = some put
  returned : put.stage = .returned true
  begun : ∃ execution, observed.world.executions id = some execution ∧
    execution.request.sessionId = key
  heard : (observed.answers id).isSome = true

theorem Succeeded.run (succeeded : observed.Succeeded key put id)
    (run : atMostOnce.Run observed events later) : later.Succeeded key put id := by
  induction run with
  | nil => exact succeeded
  | cons head _ ih =>
      obtain ⟨world, moved, rfl⟩ := Option.map_eq_some_iff.mp head.1
      have effect := advance_effect moved
      obtain ⟨known, returned, ⟨execution, begun, name⟩, heard⟩ := succeeded
      obtain ⟨next, known', continues⟩ := effect.attempts known
      rw [continues.returned true returned] at known'
      obtain ⟨later, begun', proceeds⟩ := effect.executions begun
      exact ih ⟨known', returned, ⟨later, begun', by rw [proceeds.request, name]⟩,
        listen_keeps heard⟩

theorem Sound.published (sound : Sound observed) (succeeded : observed.Succeeded key put id) :
    ∃ record, observed.world.proxy.lookup key = some record ∧ record.status = .completed ∧
      put.grant.ticket = ticketOf key ∧ record.etag = put.out.etag ∧
      record.crc32c = put.out.crc32c ∧ record.bucket = put.attempt.bucket ∧
      record.objectKey = put.attempt.key := by
  obtain ⟨known, returned, ⟨execution, begun, name⟩, heard⟩ := succeeded
  obtain ⟨response, heard⟩ := Option.isSome_iff_exists.mp heard
  obtain ⟨_, reported, served, record, begun', brought, found, done, etag, crc32c⟩ :=
    sound.answers heard
  rw [begun, Option.some.injEq] at begun'
  subst begun'
  obtain ⟨result, answered⟩ := Option.isSome_iff_exists.mp (sound.results.answered known (.inr returned))
  obtain ⟨⟨other, execution', served', begun', name', brought', rfl⟩, out⟩ :=
    sound.results.outcomes known answered
  have one : id = other := sound.orderly.single begun begun' (name.trans name'.symm)
  subst one
  rw [begun, Option.some.injEq] at begun'
  subst begun'
  rw [brought, Option.some.injEq] at brought'
  subst brought'
  obtain ⟨server, servedBy⟩ := sound.consistent.servedBy begun brought
  rw [name] at found
  obtain ⟨opener, opened, bucket, objectKey, _⟩ := sound.consistent.records found
  rw [known, Option.some.injEq] at opened
  subst opened
  rw [servedBy.response] at out
  have ticket : put.grant.ticket = ticketOf key := by
    rcases sound.grants.attempts known with ⟨_, opening | failed⟩ | ⟨ticket, _⟩
    · rw [returned] at opening
      cases opening
    · rw [returned] at failed
      cases failed
    · exact ticket
  exact ⟨record, found, done, ticket, by rw [etag, out]; rfl, by rw [crc32c, out]; rfl, bucket,
    objectKey⟩

/-- Once an attempt has succeeded, and the `ReportGdsPut` of its execution has got a reply,
that reply was an acceptance, and from then on `CompleteUpload` with the ticket of the
attempt returns the etag that the attempt reports. -/
theorem success_published {response : ReportGdsPutResponse}
    (reachable : atMostOnce.Reachable observed) (known : observed.world.attempts key = some put)
    (returned : put.stage = .returned true) (begun : observed.world.executions id = some execution)
    (name : execution.request.sessionId = key) (heard : observed.answers id = some response)
    (run : atMostOnce.Run observed events later) :
    response.accepted = true ∧
    (∃ record, later.world.proxy.lookup key = some record ∧ record.crc32c = put.out.crc32c ∧
      record.bucket = put.attempt.bucket ∧ record.objectKey = put.attempt.key) ∧
    ∀ order, Walks order later.world.proxy.sessionMgr.sessions.entries →
      completeUpload order ⟨put.grant.ticket⟩ = .ok ⟨put.out.etag⟩ := by
  have accepted := ((sound_invariant.reachable reachable).answers heard).1
  have succeeded : observed.Succeeded key put id :=
    ⟨known, returned, ⟨execution, begun, name⟩, by rw [heard]; rfl⟩
  have sound := sound_invariant.reachable (reachable.run run)
  obtain ⟨record, found, done, ticket, etag, crc32c, bucket, objectKey⟩ :=
    sound.published (succeeded.run run)
  refine ⟨accepted, ⟨record, found, crc32c, bucket, objectKey⟩, fun order walks => ?_⟩
  rw [ticket, ← etag]
  exact ProxyControlPlaneService.completeUpload_completed walks found done

/-! ## A PUT of four bytes to its end -/

def unobserved : Observed := ⟨{ proxy := Proxy.defaultProxy }, fun _ => none⟩

def finishedEvents : List Event := putEvents 4 ++ [.deliver 0 0 0, .deliver 0 0 0]

def finishedPut : Observed := (System.replay advance unobserved finishedEvents).getD unobserved

theorem finishedPut_reachable : atMostOnce.Reachable finishedPut := by
  have possible : (System.replay advance unobserved finishedEvents).isSome = true := by decide
  obtain ⟨observed, replayed⟩ := Option.isSome_iff_exists.mp possible
  have here : finishedPut = observed := by rw [finishedPut, replayed, Option.getD_some]
  have admitted : finishedEvents.all (fun event => event.own && event.once) = true := by decide
  rw [here]
  refine ⟨unobserved, finishedEvents, ⟨started_initial, rfl⟩, ?_⟩
  refine System.Run.restrict_labels (System.Run.of_replay replayed) fun event member _ _ => ?_
  exact Bool.and_eq_true_iff.mp (List.all_eq_true.mp admitted event member)

theorem finished_put_published : ∃ put record,
    finishedPut.world.attempts sessionTwo = some put ∧
      finishedPut.world.proxy.lookup sessionTwo = some record ∧ record.crc32c = put.out.crc32c := by
  have stage : (finishedPut.world.attempts sessionTwo).map (·.stage) = some (.returned true) := by
    decide
  have execution : (finishedPut.world.executions 0).map (·.request.sessionId) = some sessionTwo := by
    decide
  have heard : (finishedPut.answers 0).isSome = true := by decide
  obtain ⟨put, known, returned⟩ := Option.map_eq_some_iff.mp stage
  obtain ⟨execution, begun, name⟩ := Option.map_eq_some_iff.mp execution
  obtain ⟨response, heard⟩ := Option.isSome_iff_exists.mp heard
  obtain ⟨_, ⟨record, found, crc32c, _⟩, _⟩ :=
    success_published finishedPut_reachable known returned begun name heard (.nil _)
  exact ⟨put, record, known, found, crc32c⟩

end Observed

end Us3Turbo.Cluster
