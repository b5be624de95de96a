import Us3Turbo.Proxy.Retention

/-! # The ticket scan as an index

`sessions_` is keyed by session id and searched by ticket.  In a reachable store
the scan is an exact index all the same: tickets name keys one to one, and the
etag of a completed record is the last one the backend reported for it.
-/

namespace Us3Turbo.Proxy

open Us3Turbo.Data Us3Turbo.Proto Us3Turbo.Transition

variable {service before after start : ProxyControlPlaneService} {exchange : Exchange}
  {exchanges : List Exchange} {request : OpenSessionRequest} {key etag : String} {session : Session}
  {now : Int} {crc32c : UInt32} {bytesTransferred : UInt64} {tag : Option String}

/-! ## Entries -/

/-- What the map may hold under `key`. -/
structure Entry (key : String) (session : Session) : Prop where
  named : session.sessionId = key
  keyed : key ≠ ""
  ticketed : session.ticket = ticketOf key
  bucketed : session.bucket ≠ ""
  objected : session.objectKey ≠ ""
  sized : 0 < session.expectedSize
  live : session.status = .pending ∨ session.status = .completed
  blank : session.status = .pending →
    session.etag = "" ∧ session.crc32c = 0 ∧ session.bytesTransferred = 0

def Entries (service : ProxyControlPlaneService) : Prop :=
  ∀ key session, service.lookup key = some session → Entry key session

theorem Entry.complete (entry : Entry key session) :
    Entry key (session.complete etag crc32c bytesTransferred) where
  named := entry.named
  keyed := entry.keyed
  ticketed := entry.ticketed
  bucketed := entry.bucketed
  objected := entry.objected
  sized := entry.sized
  live := .inr rfl
  blank pending := by cases pending

theorem pickSessionId_nonempty (manager : SessionManager) (hint : String) :
    manager.pickSessionId hint ≠ "" := by
  by_cases given : hint ≠ ""
  · rwa [SessionManager.pickSessionId_hint given]
  · rw [SessionManager.pickSessionId, if_neg given]
    intro empty
    have lengths := congrArg String.length empty
    simp [kSessionIdPrefix] at lengths

theorem openSessionError_none (checked : openSessionError request = none) :
    request.bucket ≠ "" ∧ request.objectKey ≠ "" ∧ request.expectedSize ≠ 0 := by
  simp only [openSessionError] at checked
  split at checked
  · cases checked
  split at checked
  · cases checked
  split at checked
  · cases checked
  split at checked
  · cases checked
  rename_i located
  split at checked
  · cases checked
  rename_i sized
  rw [not_or] at located
  exact ⟨located.1, located.2, sized⟩

theorem Entry.opened (lands : service.opens request = some key) :
    Entry key (service.opened now request) := by
  obtain ⟨checked, rfl⟩ := ProxyControlPlaneService.opens_eq_some.mp lands
  obtain ⟨bucketed, objected, sized⟩ := openSessionError_none checked
  exact {
    named := rfl
    keyed := pickSessionId_nonempty _ _
    ticketed := rfl
    bucketed := bucketed
    objected := objected
    sized := UInt64.pos_iff_ne_zero.mpr sized
    live := .inl rfl
    blank := fun _ => ⟨rfl, rfl, rfl⟩ }

theorem entries_handle (entries : Entries service) : Entries (service.handle exchange).2 := by
  intro key session found
  rw [service.lookup_handle] at found
  cases named : exchange.request with
  | openSession request =>
      simp only [named] at found
      split at found
      · rename_i lands
        rw [Option.some.injEq] at found
        exact found ▸ .opened lands
      · exact entries key session found
  | reportGdsPut report =>
      simp only [named] at found
      split at found
      · obtain ⟨earlier, stored, rfl⟩ := Option.map_eq_some_iff.mp found
        exact (entries key earlier stored).complete
      · exact entries key session found
  | completeUpload request =>
      simp only [named] at found
      exact entries key session found
  | abortSession request =>
      simp only [named] at found
      exact entries key session found
  | placeholder method =>
      simp only [named] at found
      exact entries key session found

theorem entries_invariant : proxySystem.Invariant Entries where
  initial := by
    intro service initial key session found
    rw [ProxyControlPlaneService.lookup, initial.2, SessionTable.lookup_empty] at found
    cases found
  step := by
    intro before exchange after entries step
    obtain ⟨_, rfl⟩ := step
    exact entries_handle entries

/-! ## The last reported etag -/

def Completed (service : ProxyControlPlaneService) (key : String) : Prop :=
  ∃ session, service.lookup key = some session ∧ session.status = .completed

/-- The etag on record for `key` once it is completed. -/
def recordedTag (service : ProxyControlPlaneService) (key : String) : Option String :=
  (service.lookup key).bind fun session =>
    if session.status = .completed then some session.etag else none

/-- How one exchange moves the last etag reported for `key`. -/
def tagAfter (service : ProxyControlPlaneService) (key : String) (exchange : Exchange)
    (tag : Option String) : Option String :=
  match exchange.request with
  | .openSession request => if service.opens request = some key then none else tag
  | .reportGdsPut report =>
      if report.sessionId = key ∧ (service.reportGdsPut report).1.accepted = true then some report.etag
      else tag
  | _ => tag

/-- The last etag reported and accepted for `key` since it was last opened. -/
def lastReportedTag (service : ProxyControlPlaneService) (key : String) :
    List Exchange → Option String → Option String
  | [], tag => tag
  | exchange :: rest, tag =>
      lastReportedTag (service.handle exchange).2 key rest (tagAfter service key exchange tag)

theorem recordedTag_completed (found : service.lookup key = some session)
    (done : session.status = .completed) : recordedTag service key = some session.etag := by
  simp only [recordedTag, found, Option.bind_some, if_pos done]

theorem recordedTag_handle : recordedTag (service.handle exchange).2 key =
    tagAfter service key exchange (recordedTag service key) := by
  rw [recordedTag, service.lookup_handle, tagAfter]
  cases exchange.request with
  | openSession request =>
      by_cases lands : service.opens request = some key
      · simp only [if_pos lands, Option.bind_some]
        rfl
      · simp only [if_neg lands]
        rfl
  | reportGdsPut report =>
      simp only [ProxyControlPlaneService.accepted_reportGdsPut]
      by_cases same : report.sessionId = key
      · subst same
        cases known : service.lookup report.sessionId with
        | none => simp [recordedTag, known]
        | some session => simp [Session.complete]
      · have other : key ≠ report.sessionId := Ne.symm same
        simp only [if_neg other, same, false_and, if_false]
        rfl
  | completeUpload request => rfl
  | abortSession request => rfl
  | placeholder method => rfl

theorem recordedTag_run (key : String) (run : proxySystem.Run before exchanges after) :
    recordedTag after key = lastReportedTag before key exchanges (recordedTag before key) := by
  induction run with
  | nil state => rfl
  | cons head _ ih =>
      obtain ⟨_, rfl⟩ := head
      rw [ih, recordedTag_handle, lastReportedTag]

/-! ## The scan -/

/-- The scan answers a ticket exactly as a table from tickets to completed
records would, whatever order it walks the store in. -/
structure ExactIndex (service : ProxyControlPlaneService) (tagOf : String → Option String) : Prop where
  entries : Entries service
  succeeds_iff : ∀ order ticket, Walks order service.sessionMgr.sessions.entries →
    ((∃ response, completeUpload order ⟨ticket⟩ = .ok response) ↔
      ∃! key, ticket = ticketOf key ∧ Completed service key)
  answers : ∀ order key, Walks order service.sessionMgr.sessions.entries → Completed service key →
    ∃ etag, tagOf key = some etag ∧ completeUpload order ⟨ticketOf key⟩ = .ok ⟨etag⟩

theorem completeUpload_found {order : AList fun _ : String => Session} {ticket : String}
    {response : CompleteUploadResponse} (walks : Walks order service.sessionMgr.sessions.entries)
    (answered : completeUpload order ⟨ticket⟩ = .ok response) :
    ∃ key, ticket = ticketOf key ∧ Completed service key := by
  cases found : getCompletedSession order ticket with
  | none => simp [completeUpload, found] at answered
  | some session =>
      obtain ⟨key, stored, accepted⟩ := walks.scan_sound found
      simp only [Bool.and_eq_true, beq_iff_eq] at accepted
      obtain ⟨named, done⟩ := accepted
      have ticket : session.ticket = ticketOf key := service.sessionMgr.sessions.lookup_ticket stored
      exact ⟨key, named.symm.trans ticket, session, stored, done⟩

theorem ticket_index_exact (initial : proxySystem.initial start)
    (run : proxySystem.Run start exchanges service) :
    ExactIndex service fun key => lastReportedTag start key exchanges none := by
  refine ⟨entries_invariant.run (entries_invariant.initial initial) run, ?_, ?_⟩
  · intro order ticket walks
    constructor
    · rintro ⟨response, answered⟩
      obtain ⟨key, named, done⟩ := completeUpload_found walks answered
      refine ⟨key, ⟨named, done⟩, ?_⟩
      intro other other_named
      exact ticketOf_injective (other_named.1.symm.trans named)
    · rintro ⟨key, ⟨rfl, session, stored, done⟩, _⟩
      exact ⟨⟨session.etag⟩, service.completeUpload_completed walks stored done⟩
  · intro order key walks completed
    obtain ⟨session, stored, done⟩ := completed
    have blank : recordedTag start key = none := by
      rw [recordedTag, ProxyControlPlaneService.lookup, initial.2, SessionTable.lookup_empty]
      rfl
    have reported := recordedTag_run key run
    rw [blank, recordedTag_completed stored done] at reported
    exact ⟨session.etag, reported.symm, service.completeUpload_completed walks stored done⟩

theorem completedProxy_index_exact : ∃ exchanges,
    ExactIndex completedProxy fun key => lastReportedTag defaultProxy key exchanges none := by
  obtain ⟨order, walks⟩ :=
    exists_walk (defaultProxy.openSession 0 (putOpening "ses-1")).2.sessionMgr.sessions.entries
  let opening : Exchange := ⟨0, ∅, .openSession (putOpening "ses-1")⟩
  let report : Exchange := ⟨0, order, .reportGdsPut (putReport "ses-1")⟩
  have opened : proxySystem.step defaultProxy opening (defaultProxy.handle opening).2 := ⟨rfl, rfl⟩
  have reported : proxySystem.step (defaultProxy.handle opening).2 report completedProxy := ⟨walks, rfl⟩
  exact ⟨[opening, report], ticket_index_exact ⟨rfl, rfl⟩ (.cons opened (.single reported))⟩

end Us3Turbo.Proxy
