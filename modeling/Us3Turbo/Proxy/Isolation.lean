import Us3Turbo.Proxy.Retention
import Mathlib.Data.Set.Lattice
import Mathlib.Order.CompletePartialOrder

/-! # Streams of requests do not interfere

Two streams of requests share one store, one counter and one scan over
everybody's sessions.  As long as they name different sessions, one stream gets
the answers and leaves the records that it would get and leave alone; only
`expire_at`, which is a clock reading, may tell the two runs apart.
-/

namespace Us3Turbo.Proxy

open Us3Turbo.Data Us3Turbo.Proto Us3Turbo.Transition

variable {service left right before after : ProxyControlPlaneService} {exchange paired : Exchange}
  {own others : Set String} {key : String} {blur : String → String} {session : Session}
  {stream : List Exchange} {mixed : List (Exchange ⊕ Exchange)}

/-! ## Streams -/

/-- The sessions a request names are among `ids`; a completion query names one by its ticket. -/
def Names (ids : Set String) : Request → Prop
  | .openSession request => request.sessionId ∈ ids
  | .reportGdsPut report => report.sessionId ∈ ids
  | .completeUpload completing => ∃ id ∈ ids, completing.uploadId = ticketOf id
  | .abortSession _ => True
  | .placeholder _ => True

def merged (mixed : List (Exchange ⊕ Exchange)) : List Exchange :=
  mixed.map (Sum.elim id id)

def firstStream (mixed : List (Exchange ⊕ Exchange)) : List Exchange :=
  mixed.filterMap Sum.getLeft?

/-- The answers to the left stream when the two are handled in the order of `mixed`. -/
def firstAnswers (service : ProxyControlPlaneService) : List (Exchange ⊕ Exchange) → List Response
  | [] => []
  | .inl exchange :: rest =>
      (service.handle exchange).1 :: firstAnswers (service.handle exchange).2 rest
  | .inr exchange :: rest => firstAnswers (service.handle exchange).2 rest

def answers (service : ProxyControlPlaneService) : List Exchange → List Response
  | [] => []
  | exchange :: rest => (service.handle exchange).1 :: answers (service.handle exchange).2 rest

/-! ## Values up to what `expire_at` shows -/

def Session.blurred (blur : String → String) (session : Session) : Session :=
  { session with expireAt := blur session.expireAt }

def Response.blurred (blur : String → String) : Response → Response
  | .openSession (.ok response) => .openSession (.ok { response with expireAt := blur response.expireAt })
  | response => response

def expiryText (manager : SessionManager) (now : Int) : String :=
  formatUtc ((manager.expireTime now).tdiv 1000000000)

/-- The same request, at clock readings that `blur` cannot tell apart. -/
def Alike (blur : String → String) (exchange paired : Exchange) : Prop :=
  exchange.request = paired.request ∧ ∀ manager : SessionManager,
    blur (expiryText manager exchange.now) = blur (expiryText manager paired.now)

/-- Two proxies that the sessions of `own` cannot tell apart. -/
structure Agree (own : Set String) (blur : String → String)
    (left right : ProxyControlPlaneService) : Prop where
  gateway : left.gatewayId = right.gatewayId
  endpoint : left.backendEndpoint = right.backendEndpoint
  ttl : left.sessionMgr.ttlSec = right.sessionMgr.ttlSec
  records : ∀ key ∈ own,
    (left.lookup key).map (Session.blurred blur) = (right.lookup key).map (Session.blurred blur)

theorem Agree.refl (service : ProxyControlPlaneService) : Agree own blur service service :=
  ⟨rfl, rfl, rfl, fun _ _ => rfl⟩

theorem handle_config (service : ProxyControlPlaneService) (exchange : Exchange) :
    (service.handle exchange).2.gatewayId = service.gatewayId ∧
    (service.handle exchange).2.backendEndpoint = service.backendEndpoint ∧
    (service.handle exchange).2.sessionMgr.ttlSec = service.sessionMgr.ttlSec := by
  cases named : exchange.request with
  | openSession request =>
      cases checked : openSessionError request with
      | some error =>
          simp [ProxyControlPlaneService.handle, named, ProxyControlPlaneService.openSession, checked]
      | none =>
          simp [ProxyControlPlaneService.handle, named, ProxyControlPlaneService.openSession, checked,
            SessionManager.createSession]
  | reportGdsPut report =>
      simp only [ProxyControlPlaneService.handle, named, ProxyControlPlaneService.reportGdsPut,
        SessionManager.completeSession, true_and]
      cases service.sessionMgr.sessions.lookup report.sessionId with
      | none => rfl
      | some session => rfl
  | completeUpload completing => simp [ProxyControlPlaneService.handle, named]
  | abortSession aborting => simp [ProxyControlPlaneService.handle, named]
  | placeholder method => simp [ProxyControlPlaneService.handle, named]

/-- A request that names other sessions leaves the records of `own` alone. -/
theorem lookup_other (apart : Disjoint own others) (given : "" ∉ others)
    (names : Names others exchange.request) (member : key ∈ own) :
    (service.handle exchange).2.lookup key = service.lookup key := by
  have foreign : ∀ {id}, id ∈ others → id ≠ key := by
    intro id named same
    exact Set.disjoint_left.mp apart member (same ▸ named)
  apply lookup_preserved
  · intro report request
    rw [request] at names
    exact foreign names
  · intro lands
    cases request : exchange.request with
    | openSession opening =>
        rw [request] at names
        simp only [ProxyControlPlaneService.openedBy, request,
          ProxyControlPlaneService.opens_eq_some] at lands
        have hinted : opening.sessionId ≠ "" := fun empty => given (empty ▸ names)
        rw [SessionManager.pickSessionId_hint hinted] at lands
        exact foreign names lands.2
    | _ => simp [ProxyControlPlaneService.openedBy, request] at lands

theorem Agree.foreign (agree : Agree own blur left right) (apart : Disjoint own others)
    (given : "" ∉ others) (names : Names others exchange.request) :
    Agree own blur (left.handle exchange).2 right := by
  obtain ⟨gateway, endpoint, ttl⟩ := handle_config left exchange
  refine ⟨gateway.trans agree.gateway, endpoint.trans agree.endpoint, ttl.trans agree.ttl, ?_⟩
  intro key member
  rw [lookup_other apart given names member]
  exact agree.records key member

section Own

variable (agree : Agree own blur left right) (alike : Alike blur exchange paired)

include agree

theorem Agree.expiryText (now : Int) :
    expiryText left.sessionMgr now = expiryText right.sessionMgr now := by
  simp only [Proxy.expiryText, SessionManager.expireTime, agree.ttl]

include alike

theorem Agree.opened {request : OpenSessionRequest} (hinted : request.sessionId ≠ "") :
    (left.opened exchange.now request).blurred blur =
      (right.opened paired.now request).blurred blur := by
  have clocks : blur (Proxy.expiryText left.sessionMgr exchange.now) =
      blur (Proxy.expiryText right.sessionMgr paired.now) :=
    (alike.2 left.sessionMgr).trans (congrArg blur (agree.expiryText paired.now))
  simp only [ProxyControlPlaneService.opened, SessionManager.mintSession, Session.blurred,
    SessionManager.pickSessionId_hint hinted, Session.mk.injEq, true_and, and_true]
  exact clocks

theorem Agree.answer_openSession {request : OpenSessionRequest} (hinted : request.sessionId ≠ "") :
    (Response.openSession (left.openSession exchange.now request).1).blurred blur =
      (Response.openSession (right.openSession paired.now request).1).blurred blur := by
  cases checked : openSessionError request with
  | some error => simp only [ProxyControlPlaneService.openSession, checked]
  | none =>
      have clocks := congrArg Session.expireAt (agree.opened alike hinted)
      simp only [ProxyControlPlaneService.openSession, checked, SessionManager.createSession,
        SessionManager.mintSession, SessionManager.pickSessionId_hint hinted, agree.gateway,
        agree.endpoint, Response.blurred]
      simp only [Session.blurred, ProxyControlPlaneService.opened, SessionManager.mintSession] at clocks
      rw [clocks]

omit alike in
theorem Agree.answer_reportGdsPut {report : ReportGdsPutRequest} (member : report.sessionId ∈ own) :
    (left.reportGdsPut report).1 = (right.reportGdsPut report).1 := by
  have known := congrArg Option.isSome (agree.records _ member)
  rw [Option.isSome_map, Option.isSome_map] at known
  have accepted : (left.reportGdsPut report).1.accepted = (right.reportGdsPut report).1.accepted := by
    rw [ProxyControlPlaneService.accepted_reportGdsPut, ProxyControlPlaneService.accepted_reportGdsPut,
      known]
  exact congrArg ReportGdsPutResponse.mk accepted

omit alike in
theorem Agree.answer_completeUpload {order pairedOrder : AList fun _ : String => Session}
    (walks : Walks order left.sessionMgr.sessions.entries)
    (pairedWalks : Walks pairedOrder right.sessionMgr.sessions.entries) (member : key ∈ own) :
    completeUpload order ⟨ticketOf key⟩ = completeUpload pairedOrder ⟨ticketOf key⟩ := by
  have records := agree.records key member
  cases stored : left.lookup key with
  | none =>
      rw [stored] at records
      have missing : right.lookup key = none := Option.map_eq_none_iff.mp records.symm
      rw [left.completeUpload_unfinished walks (by simp [stored]),
        right.completeUpload_unfinished pairedWalks (by simp [missing])]
  | some session =>
      rw [stored] at records
      obtain ⟨pairedSession, pairedStored, same⟩ := Option.map_eq_some_iff.mp records.symm
      have status : pairedSession.status = session.status := by
        simpa only [Session.blurred] using congrArg Session.status same
      have etag : pairedSession.etag = session.etag := by
        simpa only [Session.blurred] using congrArg Session.etag same
      by_cases done : session.status = .completed
      · rw [left.completeUpload_completed walks stored done,
          right.completeUpload_completed pairedWalks pairedStored (status.trans done), etag]
      · rw [left.completeUpload_unfinished walks (by simp [stored, done]),
          right.completeUpload_unfinished pairedWalks (by simp [pairedStored, status, done])]

theorem Agree.answer (given : "" ∉ own) (names : Names own exchange.request)
    (walks : Walks exchange.order left.sessionMgr.sessions.entries)
    (pairedWalks : Walks paired.order right.sessionMgr.sessions.entries) :
    (left.handle exchange).1.blurred blur = (right.handle paired).1.blurred blur := by
  have request := alike.1
  cases named : exchange.request with
  | openSession opening =>
      rw [named] at names request
      have hinted : opening.sessionId ≠ "" := fun empty => given (empty ▸ names)
      simpa only [ProxyControlPlaneService.handle, named, ← request] using
        agree.answer_openSession alike hinted
  | reportGdsPut report =>
      rw [named] at names request
      simp only [ProxyControlPlaneService.handle, named, ← request, agree.answer_reportGdsPut names]
  | completeUpload completing =>
      rw [named] at names request
      obtain ⟨id, member, ticket⟩ := names
      have same : completeUpload exchange.order completing = completeUpload paired.order completing := by
        rw [show completing = ⟨ticketOf id⟩ from congrArg CompleteUploadRequest.mk ticket]
        exact agree.answer_completeUpload walks pairedWalks member
      simp only [ProxyControlPlaneService.handle, named, ← request, same]
  | abortSession aborting =>
      rw [named] at request
      simp only [ProxyControlPlaneService.handle, named, ← request]
  | placeholder method =>
      rw [named] at request
      simp only [ProxyControlPlaneService.handle, named, ← request]

theorem Agree.handle (given : "" ∉ own) (names : Names own exchange.request) :
    Agree own blur (left.handle exchange).2 (right.handle paired).2 := by
  obtain ⟨gateway, endpoint, ttl⟩ := handle_config left exchange
  obtain ⟨pairedGateway, pairedEndpoint, pairedTtl⟩ := handle_config right paired
  refine ⟨?_, ?_, ?_, ?_⟩
  · rw [gateway, pairedGateway, agree.gateway]
  · rw [endpoint, pairedEndpoint, agree.endpoint]
  · rw [ttl, pairedTtl, agree.ttl]
  · intro key member
    rw [left.lookup_handle, right.lookup_handle, ← alike.1]
    cases named : exchange.request with
    | openSession opening =>
        rw [named] at names
        have hinted : opening.sessionId ≠ "" := fun empty => given (empty ▸ names)
        have lands : left.opens opening = right.opens opening := by
          simp only [ProxyControlPlaneService.opens, SessionManager.pickSessionId_hint hinted]
        simp only [lands]
        by_cases hit : right.opens opening = some key
        · simp only [if_pos hit, Option.map_some, agree.opened alike hinted]
        · simp only [if_neg hit]
          exact agree.records key member
    | reportGdsPut report =>
        simp only
        by_cases hit : key = report.sessionId
        · have finished := congrArg
            (Option.map fun session : Session =>
              session.complete report.etag report.crc32c report.bytesTransferred)
            (agree.records key member)
          simp only [Option.map_map] at finished
          simp only [if_pos hit, Option.map_map]
          exact finished
        · simp only [if_neg hit]
          exact agree.records key member
    | completeUpload completing => exact agree.records key member
    | abortSession aborting => exact agree.records key member
    | placeholder method => exact agree.records key member

end Own

/-! ## Two runs -/

/-- The left stream, handled among the requests of the right one or by itself
from the same store: same answers and same records, up to what `blur` hides. -/
theorem mixed_run_agrees (apart : Disjoint own others) (ownGiven : "" ∉ own) (othersGiven : "" ∉ others)
    (first : ∀ exchange, .inl exchange ∈ mixed → Names own exchange.request)
    (second : ∀ exchange, .inr exchange ∈ mixed → Names others exchange.request)
    (agree : Agree own blur left right) (run : proxySystem.Run left (merged mixed) before)
    (alone : proxySystem.Run right stream after)
    (alike : List.Forall₂ (Alike blur) (firstStream mixed) stream) :
    (firstAnswers left mixed).map (Response.blurred blur) =
        (answers right stream).map (Response.blurred blur) ∧
      Agree own blur before after := by
  induction mixed generalizing left right stream with
  | nil =>
      cases alike
      cases run
      cases alone
      exact ⟨rfl, agree⟩
  | cons head rest ih =>
      have firstRest := fun exchange member => first exchange (List.mem_cons_of_mem head member)
      have secondRest := fun exchange member => second exchange (List.mem_cons_of_mem head member)
      cases head with
      | inl exchange =>
          cases alike with
          | cons same alikeRest =>
              cases run with
              | cons step run =>
                  cases alone with
                  | cons pairedStep alone =>
                      obtain ⟨walks, rfl⟩ := step
                      obtain ⟨pairedWalks, rfl⟩ := pairedStep
                      have names := first exchange List.mem_cons_self
                      obtain ⟨tail, final⟩ := ih firstRest secondRest
                        (agree.handle same ownGiven names) run alone alikeRest
                      refine ⟨?_, final⟩
                      simp only [firstAnswers, answers, List.map_cons, tail,
                        agree.answer same ownGiven names walks pairedWalks]
      | inr exchange =>
          cases run with
          | cons step run =>
              obtain ⟨_, rfl⟩ := step
              exact ih firstRest secondRest
                (agree.foreign apart othersGiven (second exchange List.mem_cons_self)) run alone alike

def Response.undated : Response → Response := Response.blurred fun _ => ""

def Session.undated : Session → Session := Session.blurred fun _ => ""

theorem Response.blurred_id (response : Response) : response.blurred id = response := by
  cases response with
  | openSession result =>
      cases result with
      | error error => rfl
      | ok response => rfl
  | _ => rfl

theorem Session.blurred_id (session : Session) : session.blurred id = session := rfl

theorem alike_of_requests
    (same : (firstStream mixed).map (·.request) = stream.map (·.request)) :
    List.Forall₂ (Alike fun _ => "") (firstStream mixed) stream := by
  rw [← List.forall₂_eq_eq_eq, List.forall₂_map_left_iff, List.forall₂_map_right_iff] at same
  exact same.imp fun _ _ request => ⟨request, fun _ => rfl⟩

theorem alike_of_timed_requests
    (same : (firstStream mixed).map (fun exchange => (exchange.now, exchange.request)) =
      stream.map fun exchange => (exchange.now, exchange.request)) :
    List.Forall₂ (Alike id) (firstStream mixed) stream := by
  rw [← List.forall₂_eq_eq_eq, List.forall₂_map_left_iff, List.forall₂_map_right_iff] at same
  apply same.imp
  intro exchange paired equal
  rw [Prod.mk.injEq] at equal
  exact ⟨equal.2, fun manager => congrArg (fun now => id (expiryText manager now)) equal.1⟩

/-- Handled among requests that name other sessions, a stream gets the answers and
leaves the records it would alone, up to `expire_at`; and entirely the same ones
when its requests meet the same clock readings in both runs. -/
theorem streams_isolated {start after alone : ProxyControlPlaneService} (apart : Disjoint own others)
    (ownGiven : "" ∉ own) (othersGiven : "" ∉ others)
    (first : ∀ exchange, .inl exchange ∈ mixed → Names own exchange.request)
    (second : ∀ exchange, .inr exchange ∈ mixed → Names others exchange.request)
    (mixedRun : proxySystem.Run start (merged mixed) after)
    (aloneRun : proxySystem.Run start stream alone)
    (same : (firstStream mixed).map (·.request) = stream.map (·.request)) :
    ((firstAnswers start mixed).map Response.undated = (answers start stream).map Response.undated ∧
      ∀ key ∈ own, (after.lookup key).map Session.undated = (alone.lookup key).map Session.undated) ∧
    ((firstStream mixed).map (fun exchange => (exchange.now, exchange.request)) =
        stream.map (fun exchange => (exchange.now, exchange.request)) →
      firstAnswers start mixed = answers start stream ∧
        ∀ key ∈ own, after.lookup key = alone.lookup key) := by
  constructor
  · obtain ⟨replies, agree⟩ := mixed_run_agrees apart ownGiven othersGiven first second
      (.refl start) mixedRun aloneRun (alike_of_requests same)
    exact ⟨replies, agree.records⟩
  · intro timed
    obtain ⟨replies, agree⟩ := mixed_run_agrees apart ownGiven othersGiven first second
      (.refl start) mixedRun aloneRun (alike_of_timed_requests timed)
    have identity : Response.blurred id = id := funext Response.blurred_id
    rw [identity, List.map_id, List.map_id] at replies
    refine ⟨replies, ?_⟩
    intro key member
    have records := agree.records key member
    rwa [show Session.blurred id = id from funext Session.blurred_id, Option.map_id_fun, id_eq,
      id_eq] at records

theorem second_opening_isolated : ∃ order,
    (firstAnswers defaultProxy [.inr ⟨0, ∅, .openSession (putOpening "ses-2")⟩,
        .inl ⟨0, order, .openSession (putOpening "ses-1")⟩]).map Response.undated =
      (answers defaultProxy [⟨300, ∅, .openSession (putOpening "ses-1")⟩]).map Response.undated := by
  obtain ⟨order, walks⟩ :=
    exists_walk (defaultProxy.openSession 0 (putOpening "ses-2")).2.sessionMgr.sessions.entries
  let foreign : Exchange := ⟨0, ∅, .openSession (putOpening "ses-2")⟩
  let opening : Exchange := ⟨0, order, .openSession (putOpening "ses-1")⟩
  let later : Exchange := ⟨300, ∅, .openSession (putOpening "ses-1")⟩
  have opened : proxySystem.step defaultProxy foreign (defaultProxy.handle foreign).2 := ⟨rfl, rfl⟩
  have mixedRun : proxySystem.Run defaultProxy (merged [.inr foreign, .inl opening]) _ :=
    .cons opened (.single ⟨walks, rfl⟩)
  have aloneRun : proxySystem.Run defaultProxy [later] _ := .single ⟨rfl, rfl⟩
  have apart : Disjoint ({"ses-1"} : Set String) {"ses-2"} := by simp
  refine ⟨order, (streams_isolated apart ?_ ?_ ?_ ?_ mixedRun aloneRun rfl).1.1⟩
  · simp
  · simp
  · intro exchange member
    simp only [List.mem_cons, reduceCtorEq, Sum.inl.injEq, List.not_mem_nil, or_false,
      false_or] at member
    rw [member]
    rfl
  · intro exchange member
    simp only [List.mem_cons, reduceCtorEq, Sum.inr.injEq, List.not_mem_nil, or_false] at member
    rw [member]
    rfl

end Us3Turbo.Proxy
