import Us3Turbo.Proxy.Retention
import Std.Data.String.ToNat

/-! # Generated session ids

Ids chosen by clients and ids drawn from the counter share the keys of
`sessions_`.  The keys of a reachable store are exactly the ids assigned so far,
so a generated id is new unless some client has used it as a hint before.
-/

namespace Us3Turbo.Proxy

open Us3Turbo.Data Us3Turbo.Proto Us3Turbo.Transition

variable {service before after start : ProxyControlPlaneService} {exchange : Exchange}
  {exchanges earlier : List Exchange} {requests : List OpenSessionRequest}
  {request : OpenSessionRequest} {key : String} {now : Int} {counter number : Nat}

/-! ## Ids assigned along a history -/

def generatedId (number : Nat) : String := kSessionIdPrefix ++ toString number

theorem generatedId_injective : Function.Injective generatedId := by
  intro left right equal
  have digits : toString left = toString right := (String.append_right_inj _).mp equal
  exact Nat.repr_injective digits

/-- The `OpenSession` of the exchange, if it passes the checks. -/
def acceptedOpening (exchange : Exchange) : Option OpenSessionRequest :=
  match exchange.request with
  | .openSession request => if openSessionError request = none then some request else none
  | _ => none

def acceptedOpenings (exchanges : List Exchange) : List OpenSessionRequest :=
  exchanges.filterMap acceptedOpening

/-- The non-empty session ids that clients asked for. -/
def hints : List OpenSessionRequest → List String
  | [] => []
  | request :: rest => if request.sessionId = "" then hints rest else request.sessionId :: hints rest

/-- What an opening adds to the counter. -/
def draws (request : OpenSessionRequest) : Nat := if request.sessionId = "" then 1 else 0

def minted : List OpenSessionRequest → Nat
  | [] => 0
  | request :: rest => draws request + minted rest

def assignedId (counter : Nat) (request : OpenSessionRequest) : String :=
  if request.sessionId = "" then generatedId counter else request.sessionId

/-- The id given to each opening when the counter stands at `counter` before the first. -/
def assignedIds : Nat → List OpenSessionRequest → List String
  | _, [] => []
  | counter, request :: rest =>
      assignedId counter request :: assignedIds (counter + draws request) rest

theorem mem_assignedIds : key ∈ assignedIds counter requests ↔
    key ∈ hints requests ∨
      ∃ number, counter ≤ number ∧ number < counter + minted requests ∧ key = generatedId number := by
  induction requests generalizing counter with
  | nil =>
      simp only [assignedIds, hints, minted, List.not_mem_nil, false_or, false_iff]
      rintro ⟨number, lower, upper, _⟩
      omega
  | cons request rest ih =>
      by_cases unnamed : request.sessionId = ""
      · simp only [assignedIds, assignedId, draws, hints, minted, if_pos unnamed, List.mem_cons, ih]
        constructor
        · intro assigned
          obtain first | named | ⟨number, lower, upper, same⟩ := assigned
          · exact .inr ⟨counter, le_refl _, by omega, first⟩
          · exact .inl named
          · exact .inr ⟨number, by omega, by omega, same⟩
        · intro assigned
          obtain named | ⟨number, lower, upper, same⟩ := assigned
          · exact .inr (.inl named)
          · by_cases first : number = counter
            · exact .inl (first ▸ same)
            · exact .inr (.inr ⟨number, by omega, by omega, same⟩)
      · simp only [assignedIds, assignedId, draws, hints, minted, if_neg unnamed, List.mem_cons, ih,
          or_assoc, Nat.add_zero, Nat.zero_add]

/-- The next counter value has not been assigned unless a client asked for it. -/
theorem generatedId_assigned_iff :
    generatedId (minted requests) ∈ assignedIds 0 requests ↔
      generatedId (minted requests) ∈ hints requests := by
  rw [mem_assignedIds]
  constructor
  · intro assigned
    obtain named | ⟨number, _, upper, same⟩ := assigned
    · exact named
    · have equal := generatedId_injective same
      omega
  · exact .inl

/-! ## What the store and the clients have after a run -/

/-- The answers to the accepted `OpenSession`s of a run: what clients hold. -/
def grants (service : ProxyControlPlaneService) : List Exchange → List OpenSessionResponse
  | [] => []
  | exchange :: rest =>
      match (service.handle exchange).1 with
      | .openSession (.ok response) => response :: grants (service.handle exchange).2 rest
      | _ => grants (service.handle exchange).2 rest

def counterOf (service : ProxyControlPlaneService) : Nat := service.sessionMgr.seq.toNat

theorem acceptedOpening_eq_some : acceptedOpening exchange = some request ↔
    exchange.request = .openSession request ∧ openSessionError request = none := by
  cases named : exchange.request with
  | openSession opening =>
      simp only [acceptedOpening, named, Request.openSession.injEq]
      by_cases checked : openSessionError opening = none
      · simp only [if_pos checked, Option.some.injEq]
        constructor
        · intro same
          exact ⟨same, same ▸ checked⟩
        · exact And.left
      · simp only [if_neg checked, reduceCtorEq, false_iff]
        intro both
        exact checked (both.1 ▸ both.2)
  | reportGdsPut report => simp [acceptedOpening, named]
  | completeUpload completing => simp [acceptedOpening, named]
  | abortSession aborting => simp [acceptedOpening, named]
  | placeholder method => simp [acceptedOpening, named]

/-- What an accepted `OpenSession` answers, in the words of the request. -/
def ProxyControlPlaneService.grant (service : ProxyControlPlaneService) (now : Int)
    (request : OpenSessionRequest) : OpenSessionResponse where
  requestId := request.requestId
  sessionId := service.sessionMgr.pickSessionId request.sessionId
  ticket := ticketOf (service.sessionMgr.pickSessionId request.sessionId)
  gatewayId := service.gatewayId
  dataEndpoint := service.backendEndpoint
  expireAt := (service.opened now request).expireAt

theorem openSession_accepted (checked : openSessionError request = none) :
    (service.openSession now request).1 = .ok (service.grant now request) := by
  simp only [ProxyControlPlaneService.openSession, checked]
  rfl

theorem pickSessionId_eq : service.sessionMgr.pickSessionId request.sessionId =
    assignedId (counterOf service) request := by
  by_cases unnamed : request.sessionId = ""
  · rw [assignedId, if_pos unnamed, unnamed]
    rfl
  · rw [assignedId, if_neg unnamed, SessionManager.pickSessionId_hint unnamed]

theorem counterOf_openSession (checked : openSessionError request = none)
    (room : counterOf service + draws request < 2 ^ 64) :
    counterOf (service.openSession now request).2 = counterOf service + draws request := by
  simp only [ProxyControlPlaneService.openSession, checked, counterOf, SessionManager.createSession]
  by_cases unnamed : request.sessionId = ""
  · rw [draws, if_pos unnamed] at room ⊢
    rw [if_neg (not_not.mpr unnamed), UInt64.toNat_add]
    exact Nat.mod_eq_of_lt room
  · rw [draws, if_neg unnamed, if_pos unnamed, Nat.add_zero]

/-- An exchange that is no accepted `OpenSession` assigns no id. -/
theorem handle_unassigned (service : ProxyControlPlaneService)
    (none : acceptedOpening exchange = none) :
    (∀ rest, grants service (exchange :: rest) = grants (service.handle exchange).2 rest) ∧
      counterOf (service.handle exchange).2 = counterOf service ∧
      ∀ key, ((service.handle exchange).2.lookup key).isSome = (service.lookup key).isSome := by
  cases named : exchange.request with
  | openSession request =>
      simp only [acceptedOpening, named, ite_eq_right_iff, reduceCtorEq, imp_false] at none
      cases checked : openSessionError request with
      | none => exact absurd checked none
      | some error =>
          simp [grants, ProxyControlPlaneService.handle, named, ProxyControlPlaneService.openSession,
            checked]
  | reportGdsPut report =>
      refine ⟨by simp [grants, ProxyControlPlaneService.handle, named], ?_, ?_⟩
      · simp only [ProxyControlPlaneService.handle, named, ProxyControlPlaneService.reportGdsPut,
          counterOf, SessionManager.completeSession]
        cases service.sessionMgr.sessions.lookup report.sessionId with
        | none => rfl
        | some session => rfl
      · intro key
        rw [service.lookup_handle, named]
        by_cases same : key = report.sessionId
        · simp [same]
        · simp [same]
  | completeUpload completing => simp [grants, ProxyControlPlaneService.handle, named]
  | abortSession aborting => simp [grants, ProxyControlPlaneService.handle, named]
  | placeholder method => simp [grants, ProxyControlPlaneService.handle, named]

theorem handle_assigned (service : ProxyControlPlaneService)
    (accepted : acceptedOpening exchange = some request) :
    (service.handle exchange).2 = (service.openSession exchange.now request).2 ∧
      ∀ rest, grants service (exchange :: rest) =
        service.grant exchange.now request :: grants (service.handle exchange).2 rest := by
  obtain ⟨named, checked⟩ := acceptedOpening_eq_some.mp accepted
  constructor
  · simp only [ProxyControlPlaneService.handle, named]
  · intro rest
    rw [grants]
    simp only [ProxyControlPlaneService.handle, named, openSession_accepted checked]

/-- The ids handed out over a run are those assigned to its openings, and are
what the run adds to the keys of the store. -/
structure Assigns (before : ProxyControlPlaneService) (exchanges : List Exchange)
    (after : ProxyControlPlaneService) : Prop where
  granted : (grants before exchanges).map (·.sessionId) =
    assignedIds (counterOf before) (acceptedOpenings exchanges)
  counted : counterOf after = counterOf before + minted (acceptedOpenings exchanges)
  keys : ∀ key, (after.lookup key).isSome ↔ (before.lookup key).isSome ∨
    key ∈ assignedIds (counterOf before) (acceptedOpenings exchanges)

theorem isSome_openSession (checked : openSessionError request = none) :
    ((service.openSession now request).2.lookup key).isSome ↔
      (service.lookup key).isSome ∨ key = service.sessionMgr.pickSessionId request.sessionId := by
  rw [ProxyControlPlaneService.lookup_openSession]
  simp only [ProxyControlPlaneService.opens_eq_some, checked, true_and]
  by_cases lands : service.sessionMgr.pickSessionId request.sessionId = key
  · simp [lands]
  · simp [lands, eq_comm (a := key)]

theorem run_assigns (run : proxySystem.Run before exchanges after)
    (room : counterOf before + minted (acceptedOpenings exchanges) < 2 ^ 64) :
    Assigns before exchanges after := by
  induction run with
  | nil state => exact ⟨rfl, rfl, by simp [acceptedOpenings, assignedIds]⟩
  | @cons before middle after exchange exchanges head _ ih =>
      obtain ⟨_, rfl⟩ := head
      cases accepted : acceptedOpening exchange with
      | none =>
          obtain ⟨granted, counted, keys⟩ := handle_unassigned before accepted
          have skipped : acceptedOpenings (exchange :: exchanges) = acceptedOpenings exchanges :=
            List.filterMap_cons_none accepted
          rw [skipped] at room
          have later := ih (counted ▸ room)
          refine ⟨?_, ?_, ?_⟩
          · rw [granted, skipped, later.granted, counted]
          · rw [skipped, later.counted, counted]
          · intro key
            rw [skipped, later.keys, keys, counted]
      | some request =>
          obtain ⟨opened, granted⟩ := handle_assigned before accepted
          have checked := (acceptedOpening_eq_some.mp accepted).2
          have first : acceptedOpenings (exchange :: exchanges) =
              request :: acceptedOpenings exchanges :=
            List.filterMap_cons_some accepted
          rw [first] at room
          simp only [minted] at room
          have counted : counterOf (before.handle exchange).2 = counterOf before + draws request := by
            rw [opened, counterOf_openSession checked (by omega)]
          have later := ih (by omega)
          refine ⟨?_, ?_, ?_⟩
          · simp only [first, assignedIds, granted, List.map_cons, later.granted, counted,
              ProxyControlPlaneService.grant, pickSessionId_eq]
          · simp only [first, minted, later.counted, counted, Nat.add_assoc]
          · intro key
            rw [later.keys, opened, isSome_openSession checked, pickSessionId_eq, ← opened, counted]
            simp only [first, assignedIds, List.mem_cons, or_assoc]

theorem grants_ticket {grant : OpenSessionResponse} (held : grant ∈ grants service exchanges) :
    grant.ticket = ticketOf grant.sessionId := by
  induction exchanges generalizing service with
  | nil => cases held
  | cons exchange rest ih =>
      cases accepted : acceptedOpening exchange with
      | none =>
          rw [(handle_unassigned service accepted).1] at held
          exact ih held
      | some request =>
          rw [(handle_assigned service accepted).2] at held
          cases held with
          | head => rfl
          | tail _ held => exact ih held

/-! ## Freshness -/

/-- The client that let the proxy choose shares its session with no other client. -/
structure Fresh (held : List OpenSessionResponse) (before : ProxyControlPlaneService)
    (grant : OpenSessionResponse) (after : ProxyControlPlaneService) : Prop where
  unused : before.lookup grant.sessionId = none
  kept : ∀ {key session}, before.lookup key = some session → after.lookup key = some session
  unheld : ∀ other ∈ held, other.ticket ≠ grant.ticket

theorem Fresh.of_unassigned (assigns : Assigns start earlier before)
    (started : start.sessionMgr.sessions = .empty)
    (new : (before.grant now request).sessionId ∉
      assignedIds (counterOf start) (acceptedOpenings earlier)) :
    Fresh (grants start earlier) before (before.grant now request)
      (before.openSession now request).2 := by
  have blank : ∀ key, start.lookup key = none := by
    intro key
    rw [ProxyControlPlaneService.lookup, started, SessionTable.lookup_empty]
  have unused : before.lookup (before.grant now request).sessionId = none := by
    rw [← Option.not_isSome_iff_eq_none, assigns.keys, blank]
    simpa using new
  refine ⟨unused, ?_, ?_⟩
  · intro key session found
    have elsewhere : before.opens request ≠ some key := by
      intro lands
      rw [ProxyControlPlaneService.opens_eq_some] at lands
      rw [← lands.2] at found
      exact absurd (found.symm.trans unused) (by simp)
    rw [ProxyControlPlaneService.lookup_openSession, if_neg elsewhere, found]
  · intro other held equal
    rw [grants_ticket held] at equal
    have same : other.sessionId = (before.grant now request).sessionId := ticketOf_injective equal
    apply new
    rw [← assigns.granted, ← same]
    exact List.mem_map_of_mem held

/-- An accepted `OpenSession` without a session id gets one of its own exactly
when no client has asked, before it, for the id the counter comes to. -/
theorem generated_session_fresh_iff (initial : proxySystem.initial start)
    (run : proxySystem.Run start earlier before)
    (few : minted (acceptedOpenings earlier) < 2 ^ 64)
    (checked : openSessionError request = none) (unnamed : request.sessionId = "") :
    (∃ grant, (before.openSession now request).1 = .ok grant ∧
      Fresh (grants start earlier) before grant (before.openSession now request).2) ↔
    generatedId (minted (acceptedOpenings earlier)) ∉ hints (acceptedOpenings earlier) := by
  have zero : counterOf start = 0 := by
    rw [counterOf, initial.1]
    rfl
  have assigns := run_assigns run (by omega)
  have counted : counterOf before = minted (acceptedOpenings earlier) := by
    rw [assigns.counted, zero, Nat.zero_add]
  have picked : (before.grant now request).sessionId =
      generatedId (minted (acceptedOpenings earlier)) := by
    rw [ProxyControlPlaneService.grant, pickSessionId_eq, assignedId, if_pos unnamed, counted]
  rw [← generatedId_assigned_iff, ← zero, ← picked]
  constructor
  · rintro ⟨grant, answered, fresh⟩ assigned
    rw [openSession_accepted checked, Except.ok.injEq] at answered
    have known := (assigns.keys _).mpr (.inr assigned)
    rw [answered, fresh.unused] at known
    cases known
  · intro new
    exact ⟨_, openSession_accepted checked, .of_unassigned assigns initial.2 new⟩

/-! ## A client that asks for the next generated id -/

def openNow (sessionId : String) : Exchange := ⟨0, ∅, .openSession (putOpening sessionId)⟩

theorem defaultProxy_opens (sessionId : String) :
    proxySystem.Run defaultProxy [openNow sessionId] (defaultProxy.handle (openNow sessionId)).2 :=
  .single ⟨rfl, rfl⟩

/-- After an `OpenSession` with the session id `pxs-0`, one without an id is given `pxs-0` too. -/
theorem hinted_id_reissued :
    ¬ ∀ (start before : ProxyControlPlaneService) (earlier : List Exchange) (now : Int)
        (request : OpenSessionRequest),
      proxySystem.initial start → proxySystem.Run start earlier before →
      minted (acceptedOpenings earlier) < 2 ^ 64 →
      openSessionError request = none → request.sessionId = "" →
      ∃ grant, (before.openSession now request).1 = .ok grant ∧
        Fresh (grants start earlier) before grant (before.openSession now request).2 := by
  intro always
  obtain ⟨grant, answered, fresh⟩ := always _ _ _ 0 (putOpening "") ⟨rfl, rfl⟩
    (defaultProxy_opens "pxs-0") (by decide) (by decide) rfl
  rw [openSession_accepted (by decide), Except.ok.injEq] at answered
  have collides : defaultProxy.openedBy (openNow "pxs-0") = some grant.sessionId := by
    rw [← answered]
    decide
  obtain ⟨session, stored, _⟩ := defaultProxy.status_of_openedBy collides
  exact absurd (stored.symm.trans fresh.unused) (by simp)

theorem unhinted_id_fresh :
    ∃ grant, ((defaultProxy.handle (openNow "ses-1")).2.openSession 0 (putOpening "")).1 = .ok grant ∧
      Fresh (grants defaultProxy [openNow "ses-1"]) (defaultProxy.handle (openNow "ses-1")).2 grant
        ((defaultProxy.handle (openNow "ses-1")).2.openSession 0 (putOpening "")).2 :=
  (generated_session_fresh_iff ⟨rfl, rfl⟩ (defaultProxy_opens "ses-1") (by decide) (by decide) rfl).mpr
    (by decide)

end Us3Turbo.Proxy
