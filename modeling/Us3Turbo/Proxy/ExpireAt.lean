import Us3Turbo.Data.Calendar
import Us3Turbo.Data.FixedWidth
import Us3Turbo.Proxy.Expiry
import Us3Turbo.Proxy.Isolation

/-! # What `expire_at` says

The text has no consumer in the proxy.  To a client it is as good as the deadline, to the
second: its fields have fixed widths and stand from the year down.
-/

namespace Us3Turbo.Proxy

open Us3Turbo.Data Us3Turbo.Data.Calendar Us3Turbo.Proto Us3Turbo.Transition

/-- A `time_point` of `system_clock`: nanoseconds in `int64_t`. -/
def Representable (instant : Int) : Prop := -2 ^ 63 ≤ instant ∧ instant < 2 ^ 63

/-- `system_clock::to_time_t`. -/
def toTimeT (instant : Int) : Int := instant.tdiv 1000000000

/-! ## The fields -/

theorem toList_natCast (value : Nat) : (toString (value : Int)).toList = Nat.toDigits 10 value := by
  rw [Int.toString_eq_repr, Int.repr_eq_if, if_pos (Int.natCast_nonneg value), Int.toNat_natCast]
  exact Nat.toList_repr

theorem toList_twoDigits {number : Int} (fits : 0 ≤ number ∧ number < 100) :
    (twoDigits number).toList = fixedDigits 2 number.toNat := by
  obtain ⟨value, rfl⟩ := Int.eq_ofNat_of_zero_le fits.1
  rw [twoDigits, Int.toNat_natCast]
  by_cases short : value < 10
  · rw [if_pos (by omega), String.toList_append, toList_natCast, Nat.toDigits_of_lt_base short,
      fixedDigits, fixedDigits, fixedDigits, Nat.div_eq_of_lt short, Nat.mod_eq_of_lt short]
    rfl
  · rw [if_neg (by omega), toList_natCast]
    apply toDigits_eq_fixedDigits
    · omega
    · omega

theorem toList_year {year : Int} (fits : 1000 ≤ year ∧ year < 10000) :
    (toString year).toList = fixedDigits 4 year.toNat := by
  obtain ⟨value, rfl⟩ := Int.eq_ofNat_of_zero_le (show 0 ≤ year by omega)
  rw [toList_natCast, Int.toNat_natCast]
  apply toDigits_eq_fixedDigits
  · omega
  · omega

/-! ## The date -/

def civilDate (year month day : Int) : Int × Int × Int :=
  if month < 10 then (year, month + 3, day + 1) else (year + 1, month - 9, day + 1)

theorem civilFromDays_eq (days : Int) : ∃ year month day,
    IsDate (days + 719468) year month day ∧ civilFromDays days = civilDate year month day := by
  have date := isDate (days + 719468)
  refine ⟨_, _, _, date, ?_⟩
  obtain ⟨nonnegative, inEra, _⟩ := yearOfEra_spec
    (show 0 ≤ (days + 719468) % 146097 ∧ (days + 719468) % 146097 < 146097 by omega)
  -- no year of an era is the four hundredth
  have start : yearStart (yearOfEra ((days + 719468) % 146097)) =
      365 * yearOfEra ((days + 719468) % 146097) + yearOfEra ((days + 719468) % 146097) / 4 -
        yearOfEra ((days + 719468) % 146097) / 100 := by
    unfold yearStart
    omega
  have counted : civilFromDays days =
      let yearOfEra := yearOfEra ((days + 719468) % 146097)
      let dayOfYear := (days + 719468) % 146097 -
        (365 * yearOfEra + yearOfEra / 4 - yearOfEra / 100)
      let month := if monthOf dayOfYear < 10 then monthOf dayOfYear + 3 else monthOf dayOfYear - 9
      (yearOfEra + (days + 719468) / 146097 * 400 + (if month ≤ 2 then 1 else 0), month,
        dayOfYear - monthStart (monthOf dayOfYear) + 1) := rfl
  simp only [counted, ← start, civilDate]
  have months := date.months
  split
  · rw [if_neg (by omega), Int.add_zero]
  · rw [if_pos (by omega)]

theorem civilDate_lt_iff {year month day year' month' day' : Int} (months : 0 ≤ month ∧ month ≤ 11)
    (months' : 0 ≤ month' ∧ month' ≤ 11) :
    (civilDate year month day).1 < (civilDate year' month' day').1 ∨
        (civilDate year month day).1 = (civilDate year' month' day').1 ∧
          ((civilDate year month day).2.1 < (civilDate year' month' day').2.1 ∨
            (civilDate year month day).2.1 = (civilDate year' month' day').2.1 ∧
              (civilDate year month day).2.2 < (civilDate year' month' day').2.2) ↔
      year < year' ∨ year = year' ∧ (month < month' ∨ month = month' ∧ day < day') := by
  unfold civilDate
  split <;> split <;> simp only <;> omega

theorem civilFromDays_lt_iff (days later : Int) :
    (civilFromDays days).1 < (civilFromDays later).1 ∨
        (civilFromDays days).1 = (civilFromDays later).1 ∧
          ((civilFromDays days).2.1 < (civilFromDays later).2.1 ∨
            (civilFromDays days).2.1 = (civilFromDays later).2.1 ∧
              (civilFromDays days).2.2 < (civilFromDays later).2.2) ↔
      days < later := by
  obtain ⟨year, month, day, date, civil⟩ := civilFromDays_eq days
  obtain ⟨year', month', day', date', civil'⟩ := civilFromDays_eq later
  have ordered := date.lt_iff date'
  rw [civil, civil', civilDate_lt_iff date.months date'.months, ← ordered]
  omega

theorem civilFromDays_eq_iff (days later : Int) :
    (civilFromDays days).1 = (civilFromDays later).1 ∧
        (civilFromDays days).2.1 = (civilFromDays later).2.1 ∧
          (civilFromDays days).2.2 = (civilFromDays later).2.2 ↔
      days = later := by
  constructor
  · rintro ⟨year, month, day⟩
    have before := civilFromDays_lt_iff days later
    have after := civilFromDays_lt_iff later days
    rw [year, month, day] at before after
    omega
  · rintro rfl
    exact ⟨rfl, rfl, rfl⟩

/-! ## The text -/

/-- The seconds of a clock that counts nanoseconds in `int64_t`: the years 1677 to 2262. -/
def Expressible (seconds : Int) : Prop := -9223372036 ≤ seconds ∧ seconds ≤ 9223372036

theorem expressible_toTimeT {instant : Int} (fits : Representable instant) :
    Expressible (toTimeT instant) := by
  obtain ⟨low, high⟩ := fits
  unfold Expressible toTimeT
  rw [Int.tdiv_eq_ediv, show Int.sign 1000000000 = 1 from rfl]
  split <;> omega

structure FieldsFit (date : Int × Int × Int) : Prop where
  year : 1000 ≤ date.1 ∧ date.1 < 10 ^ 4
  month : 0 ≤ date.2.1 ∧ date.2.1 < 10 ^ 2
  day : 0 ≤ date.2.2 ∧ date.2.2 < 10 ^ 2

theorem fieldsFit_civilFromDays {seconds : Int} (fits : Expressible seconds) :
    FieldsFit (civilFromDays (seconds / 86400)) := by
  obtain ⟨low, high⟩ := fits
  obtain ⟨year, month, day, date, civil⟩ := civilFromDays_eq (seconds / 86400)
  have parts := date.parts
  have months := date.months
  have begun := date.begun
  have inMonth := date.inMonth
  have inYear := date.inYear
  unfold yearStart at parts inYear
  unfold monthStart at parts inMonth
  rw [civil, civilDate]
  split
  · refine ⟨?_, ?_, ?_⟩ <;> simp only <;> omega
  · refine ⟨?_, ?_, ?_⟩ <;> simp only <;> omega

theorem number_lt_iff {width : Nat} {number other : Int} (fits : 0 ≤ number ∧ number < 10 ^ width)
    (fits' : 0 ≤ other ∧ other < 10 ^ width) (separator : Char) (rest others : List Char) :
    fixedDigits width number.toNat ++ separator :: rest <
        fixedDigits width other.toNat ++ separator :: others ↔
      number < other ∨ number = other ∧ rest < others := by
  obtain ⟨value, rfl⟩ := Int.eq_ofNat_of_zero_le fits.1
  obtain ⟨value', rfl⟩ := Int.eq_ofNat_of_zero_le fits'.1
  rw [Int.toNat_natCast, Int.toNat_natCast, Int.ofNat_lt, Int.ofNat_inj]
  apply field_lt_iff
  · exact_mod_cast fits.2
  · exact_mod_cast fits'.2

/-- The characters of the text. -/
def stamp (date : Int × Int × Int) (secondOfDay : Int) : List Char :=
  fixedDigits 4 date.1.toNat ++ '-' ::
  (fixedDigits 2 date.2.1.toNat ++ '-' ::
  (fixedDigits 2 date.2.2.toNat ++ 'T' ::
  (fixedDigits 2 (secondOfDay / 3600).toNat ++ ':' ::
  (fixedDigits 2 (secondOfDay / 60 % 60).toNat ++ ':' ::
  (fixedDigits 2 (secondOfDay % 60).toNat ++ 'Z' :: [])))))

theorem length_stamp (date : Int × Int × Int) (secondOfDay : Int) :
    (stamp date secondOfDay).length = 20 := by
  simp only [stamp, List.length_append, List.length_cons, length_fixedDigits, List.length_nil]

theorem stamp_lt_iff {date date' : Int × Int × Int} {second second' : Int} (fits : FieldsFit date)
    (fits' : FieldsFit date') (inDay : 0 ≤ second ∧ second < 86400)
    (inDay' : 0 ≤ second' ∧ second' < 86400) :
    stamp date second < stamp date' second' ↔
      date.1 < date'.1 ∨ date.1 = date'.1 ∧
        (date.2.1 < date'.2.1 ∨ date.2.1 = date'.2.1 ∧
          (date.2.2 < date'.2.2 ∨ date.2.2 = date'.2.2 ∧ second < second')) := by
  obtain ⟨year, month, day⟩ := fits
  obtain ⟨year', month', day'⟩ := fits'
  have clock : second < second' ↔ second / 3600 < second' / 3600 ∨
      second / 3600 = second' / 3600 ∧
        (second / 60 % 60 < second' / 60 % 60 ∨ second / 60 % 60 = second' / 60 % 60 ∧
          second % 60 < second' % 60) := by
    omega
  rw [stamp, stamp, number_lt_iff ⟨by omega, year.2⟩ ⟨by omega, year'.2⟩,
    number_lt_iff month month', number_lt_iff day day', number_lt_iff (by omega) (by omega),
    number_lt_iff (by omega) (by omega), number_lt_iff (by omega) (by omega), clock]
  simp only [List.lt_irrefl, and_false, or_false]

theorem toList_formatUtc {seconds : Int} (fits : Expressible seconds) :
    (formatUtc seconds).toList = stamp (civilFromDays (seconds / 86400)) (seconds % 86400) := by
  obtain ⟨year, month, day⟩ := fieldsFit_civilFromDays fits
  simp only [formatUtc, stamp, String.toList_append, toList_year year, toList_twoDigits month,
    toList_twoDigits day,
    toList_twoDigits (show 0 ≤ seconds % 86400 / 3600 ∧ seconds % 86400 / 3600 < 100 by omega),
    toList_twoDigits (show 0 ≤ seconds % 86400 / 60 % 60 ∧ seconds % 86400 / 60 % 60 < 100 by omega),
    toList_twoDigits (show 0 ≤ seconds % 86400 % 60 ∧ seconds % 86400 % 60 < 100 by omega)]
  simp only [List.append_assoc]
  rfl

theorem formatUtc_lt_iff {seconds later : Int} (fits : Expressible seconds)
    (fits' : Expressible later) : formatUtc seconds < formatUtc later ↔ seconds < later := by
  have clock : seconds < later ↔ seconds / 86400 < later / 86400 ∨
      seconds / 86400 = later / 86400 ∧ seconds % 86400 < later % 86400 := by
    omega
  rw [String.lt_iff, toList_formatUtc fits, toList_formatUtc fits',
    stamp_lt_iff (fieldsFit_civilFromDays fits) (fieldsFit_civilFromDays fits') (by omega)
      (by omega),
    clock, ← civilFromDays_lt_iff (seconds / 86400), ← civilFromDays_eq_iff (seconds / 86400)]
  simp only [and_or_left, or_assoc, and_assoc]

theorem formatUtc_eq_iff {seconds later : Int} (fits : Expressible seconds)
    (fits' : Expressible later) : formatUtc seconds = formatUtc later ↔ seconds = later := by
  constructor
  · intro same
    rcases Int.lt_trichotomy seconds later with before | equal | after
    · have ordered := (formatUtc_lt_iff fits fits').mpr before
      rw [same] at ordered
      exact absurd ordered (String.lt_irrefl _)
    · exact equal
    · have ordered := (formatUtc_lt_iff fits' fits).mpr after
      rw [same] at ordered
      exact absurd ordered (String.lt_irrefl _)
  · exact congrArg formatUtc

theorem length_formatUtc {seconds : Int} (fits : Expressible seconds) :
    (formatUtc seconds).length = 20 := by
  rw [← String.length_toList, toList_formatUtc fits, length_stamp]

/-! ## Whole runs -/

namespace Timeline

variable {line : Timeline} {exchange : Exchange} {key other : String} {session recorded : Session}

/-- Every record still has the text it was opened with. -/
def Dated (line : Timeline) : Prop :=
  ∀ key session, line.service.lookup key = some session → ∃ deadline,
    line.deadline key = some deadline ∧ session.expireAt = formatUtc (toTimeT deadline)

theorem deadline_advance : (line.advance exchange).deadline key =
    if line.service.openedBy exchange = some key
      then some (line.service.sessionMgr.expireTime exchange.now) else line.deadline key := by
  have lives := (handle_config line.service exchange).2.2
  have expires : (line.advance exchange).service.sessionMgr.expireTime =
      line.service.sessionMgr.expireTime := by
    funext time
    simp only [SessionManager.expireTime, advance, lives]
  rw [deadline, expires]
  simp only [advance]
  split
  · rfl
  · rfl

theorem dated_advance (dated : line.Dated) : (line.advance exchange).Dated := by
  intro key session stored
  rw [deadline_advance]
  simp only [advance, ProxyControlPlaneService.lookup_handle] at stored
  unfold ProxyControlPlaneService.openedBy
  cases named : exchange.request with
  | openSession request =>
      simp only [named] at stored ⊢
      split at stored
      · rename_i opened
        rw [if_pos opened]
        cases stored
        exact ⟨_, rfl, rfl⟩
      · rename_i apart
        rw [if_neg apart]
        exact dated key session stored
  | reportGdsPut report =>
      simp only [named] at stored ⊢
      split at stored
      · obtain ⟨earlier, known, rfl⟩ := Option.map_eq_some_iff.mp stored
        exact dated key earlier known
      · exact dated key session stored
  | completeUpload request =>
      simp only [named] at stored
      exact dated key session stored
  | abortSession request =>
      simp only [named] at stored
      exact dated key session stored
  | placeholder method =>
      simp only [named] at stored
      exact dated key session stored

theorem dated_invariant : timeline.Invariant Dated where
  initial := by
    intro line initial key session stored
    rw [ProxyControlPlaneService.lookup, initial.1.2, SessionTable.lookup_empty] at stored
    cases stored
  step := by
    intro before exchange after dated step
    obtain ⟨_, _, rfl⟩ := step
    exact dated_advance dated

/-- The texts of two records are ordered as their deadlines are, to the second, and fill 20 of
the 32 bytes of the buffer. -/
theorem expireAt_orders (reachable : timeline.Reachable line)
    (stored : line.service.lookup key = some session)
    (stored' : line.service.lookup other = some recorded) :
    ∃ deadline expiry, line.deadline key = some deadline ∧ line.deadline other = some expiry ∧
      (Representable deadline → Representable expiry →
        session.expireAt.length = 20 ∧
        (session.expireAt < recorded.expireAt ↔ toTimeT deadline < toTimeT expiry) ∧
        (session.expireAt = recorded.expireAt ↔ toTimeT deadline = toTimeT expiry)) := by
  obtain ⟨deadline, due, text⟩ := dated_invariant.reachable reachable key session stored
  obtain ⟨expiry, due', text'⟩ := dated_invariant.reachable reachable other recorded stored'
  refine ⟨deadline, expiry, due, due', ?_⟩
  intro fits fits'
  have inside := expressible_toTimeT fits
  have inside' := expressible_toTimeT fits'
  rw [text, text']
  exact ⟨length_formatUtc inside, formatUtc_lt_iff inside inside', formatUtc_eq_iff inside inside'⟩

theorem second_session_later : ∃ line session recorded, timeline.Reachable line ∧
    line.service.lookup "ses-1" = some session ∧ line.service.lookup "ses-2" = some recorded ∧
    session.expireAt < recorded.expireAt := by
  obtain ⟨first, firstWalk⟩ := exists_walk fresh.service.sessionMgr.sessions.entries
  obtain ⟨second, secondWalk⟩ :=
    exists_walk (fresh.advance (openAt 0 first)).service.sessionMgr.sessions.entries
  let opening : Exchange := ⟨5000000000, second, .openSession (putOpening "ses-2")⟩
  let line := (fresh.advance (openAt 0 first)).advance opening
  have opened : timeline.step (fresh.advance (openAt 0 first)) opening line :=
    ⟨show (0 : Int) ≤ 5000000000 by decide, secondWalk, rfl⟩
  have reachable : timeline.Reachable line :=
    ((System.Reachable.of_initial fresh_initial).step (fresh_opens firstWalk)).step opened
  have stored : line.service.lookup "ses-1" =
      some (defaultProxy.opened 0 (putOpening "ses-1")) := by
    rfl
  have stored' : line.service.lookup "ses-2" =
      some (defaultProxy.opened 5000000000 (putOpening "ses-2")) := by
    rfl
  refine ⟨line, _, _, reachable, stored, stored', ?_⟩
  obtain ⟨deadline, expiry, due, due', ordered⟩ := expireAt_orders reachable stored stored'
  have first : line.deadline "ses-1" = some 300000000000 := by
    rfl
  have second : line.deadline "ses-2" = some 305000000000 := by
    rfl
  rw [first, Option.some.injEq] at due
  rw [second, Option.some.injEq] at due'
  subst due due'
  have texts := ordered ⟨by decide, by decide⟩ ⟨by decide, by decide⟩
  exact texts.2.1.mpr (by decide)

end Timeline

end Us3Turbo.Proxy
