import Us3Turbo.Data.Scan

/-! # `proxy/src/session/session_manager.cpp` -/

namespace Us3Turbo.Proxy

open Us3Turbo.Data

/-! ## `gmtime_r` and `strftime` -/

/-- Year, month and day of a day count from 1970-01-01 in the Gregorian calendar. -/
def civilFromDays (days : Int) : Int × Int × Int :=
  let shifted := days + 719468
  let era := shifted / 146097
  let dayOfEra := shifted % 146097
  let yearOfEra := (dayOfEra - dayOfEra / 1460 + dayOfEra / 36524 - dayOfEra / 146096) / 365
  let dayOfYear := dayOfEra - (365 * yearOfEra + yearOfEra / 4 - yearOfEra / 100)
  let shiftedMonth := (5 * dayOfYear + 2) / 153
  let day := dayOfYear - (153 * shiftedMonth + 2) / 5 + 1
  let month := if shiftedMonth < 10 then shiftedMonth + 3 else shiftedMonth - 9
  (yearOfEra + era * 400 + (if month ≤ 2 then 1 else 0), month, day)

def twoDigits (number : Int) : String :=
  if number < 10 then "0" ++ toString number else toString number

/-- `gmtime_r` followed by `strftime` with `"%Y-%m-%dT%H:%M:%SZ"`. -/
def formatUtc (seconds : Int) : String :=
  let (year, month, day) := civilFromDays (seconds / 86400)
  let secondOfDay := seconds % 86400
  toString year ++ "-" ++ twoDigits month ++ "-" ++ twoDigits day ++ "T" ++
    twoDigits (secondOfDay / 3600) ++ ":" ++ twoDigits (secondOfDay / 60 % 60) ++ ":" ++
    twoDigits (secondOfDay % 60) ++ "Z"

example : formatUtc 1781773200 = "2026-06-18T09:00:00Z" := by decide

/-! ## Sessions -/

inductive Status where
  | pending
  | completed
  | failed
deriving DecidableEq, Repr

def ticketOf (sessionId : String) : String := "tkt-" ++ sessionId

theorem ticketOf_injective : Function.Injective ticketOf := by
  intro left right equal
  simpa [ticketOf] using equal

/-- A session is only ever built with the ticket of its own id, and nothing assigns
either field afterwards. -/
structure Session where
  sessionId : String
  ticket : String
  expireAt : String
  bucket : String
  objectKey : String
  expectedSize : UInt64
  status : Status := .pending
  etag : String := ""
  crc32c : UInt32 := 0
  bytesTransferred : UInt64 := 0
  ticketed : ticket = ticketOf sessionId
deriving DecidableEq, Repr

structure SessionTable where
  entries : Finmap fun _ : String => Session
  keyed : ∀ {key session}, entries.lookup key = some session → session.sessionId = key

namespace SessionTable

variable {table : SessionTable} {key : String} {session : Session}

def empty : SessionTable := ⟨∅, by simp⟩

def lookup (table : SessionTable) (key : String) : Option Session := table.entries.lookup key

/-- `sessions_[session.session_id] = session`: an existing record is replaced. -/
def assign (table : SessionTable) (session : Session) : SessionTable where
  entries := table.entries.insert session.sessionId session
  keyed := by
    intro key stored found
    by_cases same : key = session.sessionId
    · subst same
      rw [Finmap.lookup_insert, Option.some.injEq] at found
      rw [found]
    · rw [Finmap.lookup_insert_of_ne _ same] at found
      exact table.keyed found

@[simp] theorem lookup_empty : empty.lookup key = none := Finmap.lookup_empty key

theorem lookup_keyed (found : table.lookup key = some session) : session.sessionId = key :=
  table.keyed found

theorem lookup_ticket (table : SessionTable) (found : table.lookup key = some session) :
    session.ticket = ticketOf key := by
  rw [session.ticketed, lookup_keyed found]

@[simp] theorem lookup_assign_self : (table.assign session).lookup session.sessionId = some session :=
  Finmap.lookup_insert _

theorem lookup_assign_other (different : key ≠ session.sessionId) :
    (table.assign session).lookup key = table.lookup key :=
  Finmap.lookup_insert_of_ne _ different

theorem lookup_assign : (table.assign session).lookup key =
    if key = session.sessionId then some session else table.lookup key := by
  split
  · rename_i same
    rw [same, lookup_assign_self]
  · exact lookup_assign_other ‹_›

end SessionTable

/-! ## `SessionManager` -/

def Session.complete (session : Session) (etag : String) (crc32c : UInt32)
    (bytesTransferred : UInt64) : Session :=
  { session with status := .completed, etag, crc32c, bytesTransferred }

/-- `ttl_sec_`, `seq_` and `sessions_`; the mutex is the fact that each locked
section below is one function. -/
structure SessionManager where
  ttlSec : Int
  seq : UInt64 := 0
  sessions : SessionTable := .empty

def kSessionIdPrefix : String := "pxs-"

/-- `session_id` as `CreateSession` picks it: the hint, or the next counter value. -/
def SessionManager.pickSessionId (manager : SessionManager) (hint : String) : String :=
  if hint ≠ "" then hint else kSessionIdPrefix ++ toString manager.seq.toNat

/-- In nanoseconds of `system_clock`. -/
def SessionManager.expireTime (manager : SessionManager) (now : Int) : Int :=
  now + manager.ttlSec * 1000000000

/-- The part of `CreateSession` before its locked section: the id, the ticket
and the formatted deadline. -/
def SessionManager.mintSession (manager : SessionManager) (now : Int)
    (hint bucket objectKey : String) (expectedSize : UInt64) : Session where
  sessionId := manager.pickSessionId hint
  ticket := ticketOf (manager.pickSessionId hint)
  expireAt := formatUtc ((manager.expireTime now).tdiv 1000000000)
  bucket := bucket
  objectKey := objectKey
  expectedSize := expectedSize
  ticketed := rfl

/-- `SessionManager::CreateSession`.  The counter only moves when there is no
hint, and wraps like `fetch_add` on `uint64_t`. -/
def SessionManager.createSession (manager : SessionManager) (now : Int)
    (hint bucket objectKey : String) (expectedSize : UInt64) : Session × SessionManager :=
  let session := manager.mintSession now hint bucket objectKey expectedSize
  (session, { manager with
    seq := if hint ≠ "" then manager.seq else manager.seq + 1
    sessions := manager.sessions.assign session })

/-- `SessionManager::CompleteSession`.  `false` only when the id is unknown: the
deadline of the record is never consulted. -/
def SessionManager.completeSession (manager : SessionManager) (sessionId etag : String)
    (crc32c : UInt32) (bytesTransferred : UInt64) : Bool × SessionManager :=
  match manager.sessions.lookup sessionId with
  | none => (false, manager)
  | some session => (true, { manager with
      sessions := manager.sessions.assign (session.complete etag crc32c bytesTransferred) })

/-- `SessionManager::GetCompletedSession`: a linear scan over the records in the
order in which the hash map is walked. -/
def getCompletedSession (order : AList fun _ : String => Session) (ticket : String) :
    Option Session :=
  scan order fun session => session.ticket == ticket && session.status == .completed

section Lemmas

variable {manager : SessionManager} {now : Int} {hint bucket objectKey sessionId etag key : String}
  {expectedSize bytesTransferred : UInt64} {crc32c : UInt32} {session : Session}
  {order : AList fun _ : String => Session}

theorem SessionManager.pickSessionId_hint (given : hint ≠ "") :
    manager.pickSessionId hint = hint := if_pos given

theorem SessionManager.lookup_createSession :
    (manager.createSession now hint bucket objectKey expectedSize).2.sessions.lookup key =
      if key = manager.pickSessionId hint then
        some (manager.mintSession now hint bucket objectKey expectedSize)
      else manager.sessions.lookup key :=
  SessionTable.lookup_assign

theorem SessionManager.completeSession_unknown (unknown : manager.sessions.lookup sessionId = none) :
    manager.completeSession sessionId etag crc32c bytesTransferred = (false, manager) := by
  simp only [completeSession, unknown]

theorem SessionManager.completeSession_known (known : manager.sessions.lookup sessionId = some session) :
    (manager.completeSession sessionId etag crc32c bytesTransferred).1 = true ∧
      ∀ key, (manager.completeSession sessionId etag crc32c bytesTransferred).2.sessions.lookup key =
        if key = sessionId then some (session.complete etag crc32c bytesTransferred)
        else manager.sessions.lookup key := by
  have name := SessionTable.lookup_keyed known
  simp only [completeSession, known, true_and]
  intro key
  rw [SessionTable.lookup_assign, ← name]
  rfl

/-- Tickets name sessions, so at most one completed record answers a ticket and
the scan finds it whatever the walk. -/
theorem getCompletedSession_ticketOf (walks : Walks order manager.sessions.entries)
    (known : manager.sessions.lookup key = some session) (done : session.status = .completed) :
    getCompletedSession order (ticketOf key) = some session := by
  apply walks.scan_unique known
  · simp [manager.sessions.lookup_ticket known, done]
  · intro other found stored accepted
    have ticket : found.ticket = ticketOf other := manager.sessions.lookup_ticket stored
    simp only [Bool.and_eq_true, beq_iff_eq] at accepted
    exact ticketOf_injective (ticket.symm.trans accepted.1)

theorem getCompletedSession_absent (walks : Walks order manager.sessions.entries)
    (unfinished : ∀ session, manager.sessions.lookup key = some session → session.status ≠ .completed) :
    getCompletedSession order (ticketOf key) = none := by
  apply walks.scan_none
  intro other found stored
  have ticket : found.ticket = ticketOf other := manager.sessions.lookup_ticket stored
  by_cases same : other = key
  · subst other
    simp [unfinished found stored]
  · have differ : ticketOf other ≠ ticketOf key := fun equal => same (ticketOf_injective equal)
    simp [ticket, differ]

end Lemmas

end Us3Turbo.Proxy
