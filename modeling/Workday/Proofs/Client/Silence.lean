import Workday.Proofs.Calculator.Outage
import Workday.Proofs.Client.Connection

/-!
# A server that never replies

A request to such a server ends when the time that is allowed for it has run out: that of a fetch after
the one timeout, and that of a probe after the other. To a service that is connected over settings the
server is a source that is down, and each request takes its whole timeout.
-/

set_option autoImplicit false

namespace Workday

open Cache (Room outage turns)

namespace Client

variable {c : Client} {network : Network} {url : Url}

/-- A request without a reply fails when its time is over. -/
theorem follow_of_silent {n : Nat} (h : network.answer n = some .silent) (timeout : Nat)
    (first url : Url) (left : Nat) :
    follow network timeout first left url n = ⟨.error (.timedOut first.format), timeout, n + 1⟩ := by
  cases left <;> simp only [follow, h]

/-- A request that is not replied to ends with its timeout. -/
theorem get_of_silent {n : Nat} (htarget : target c.endpoint = .ok url)
    (h : network.answer n = some .silent) (seconds : Nat) :
    c.get network seconds n =
      ⟨.error (.transport c.endpoint (.timedOut url.format)), seconds * 1000, n + 1⟩ := by
  simp only [get, htarget, follow_of_silent h]

/-- A fetch from a server that never replies is an outage: it fails when its time is over, and the
failure names the endpoint. -/
theorem fetch_of_silent (htarget : target c.endpoint = .ok url)
    (h : ∀ n, network.answer n = some .silent) :
    c.fetch network =
      outage (.transport c.endpoint (.timedOut url.format)) (c.timeoutSecs * 1000) := by
  funext n
  simp only [fetch, get_of_silent htarget (h n)]
  rfl

/-- A probe of a server that never replies fails when its own time is over. -/
theorem probe_of_silent (htarget : target c.endpoint = .ok url)
    (h : ∀ n, network.answer n = some .silent) :
    c.probe network = fun n =>
      ((some (.transport c.endpoint (.timedOut url.format)), c.healthTimeoutSecs * 1000), n + 1) := by
  funext n
  simp only [probe, get_of_silent htarget (h n)]

end Client

namespace Service

/-- A service that is connected to a silent server, with a store that holds no fresh calendar, is cut
off. -/
theorem cutOff_of_silent {settings : FeedSettings} {network : Network} {today : Date}
    {clock : Cache.Clock} {url : Url} {service : Service Nat} {store : CalendarStore Nat}
    (htarget : Client.target (Client.ofSettings settings).endpoint = .ok url)
    (hsilent : ∀ n, network.answer n = some .silent)
    (hconnected : connected settings network today clock = .ok service)
    (hstale : store.IsStale service.ttl) :
    (service.withStore store).CutOff
      (.transport (Client.ofSettings settings).endpoint (.timedOut url.format))
      (settings.timeoutSecs * 1000) (settings.healthTimeoutSecs * 1000) := by
  have hsource := (source_of_connected hconnected).trans (Client.fetch_of_silent htarget hsilent)
  have hprobe := (probe_of_connected hconnected).trans (Client.probe_of_silent htarget hsilent)
  refine ⟨hsource, hprobe, fun c hc => ?_, hstale⟩
  obtain ⟨ttl, rfl⟩ := eq_of_connected hconnected
  rw [List.mem_singleton.mp hc]
  rfl

/-- In front of a server that never replies, a fetch fails with a timeout of the transport after exactly
the seconds that the settings allow for it, and a probe after exactly those for a probe, whatever the
others are. So does a service that is connected over the settings and holds no fresh calendar: after any
steps a call for the calendar, and a question that needs it, fail after the seconds of a fetch. In a
batch with `m` questions that need the calendar each of them sends its own request, in the order of the
list and when the one before it has timed out; all fail; the batch takes `m` times the seconds of a
fetch; and the entry is as it was. The questions that need no calendar are put, and settled, while no
time has passed since the batch began. -/
theorem silent_server_is_waited_out (settings : FeedSettings) (network : Network) (today : Date)
    (clock : Cache.Clock) (url : Url) (service : Service Nat) (store : CalendarStore Nat)
    (hsecs : 1 ≤ settings.timeoutSecs)
    (htarget : Client.target (Client.ofSettings settings).endpoint = .ok url)
    (hsilent : ∀ n, network.answer n = some .silent)
    (hconnected : connected settings network today clock = .ok service)
    (hstale : store.IsStale service.ttl) (earlier later : List Step) (step : Step) :
    let client := Client.ofSettings settings
    let failure := FetchFailure.transport client.endpoint (.timedOut url.format)
    let wait := settings.timeoutSecs * 1000
    let probeWait := settings.healthTimeoutSecs * 1000
    let s := (service.withStore store).after earlier
    let shown := ((service.withStore store).run (earlier ++ step :: later))[earlier.length]?
    (∀ n, client.fetch network n = (⟨.error failure, wait⟩, n + 1) ∧
      client.probe network n = ((some failure, probeWait), n + 1)) ∧
    (step = .calendar →
      shown = some (.calendar (.error failure), s.withStore (s.store.outlasted wait 1))) ∧
    (step = .health → shown = some (.health (some failure),
      s.withStore ({ s.store with source := s.store.source + 1 }.advance probeWait))) ∧
    (∀ i q, step = .ask i q → q.needsCalendar = true →
      shown = some (.verdict (.error (.noCalendar failure)), s.withStore (s.store.outlasted wait 1))) ∧
    (∀ i q, step = .ask i q → q.needsCalendar = false → ∃ verdict,
      (s.calculator i).settle s.today q = some verdict ∧ shown = some (.verdict verdict, s)) ∧
    ∀ asked, step = .askTogether asked →
      let m := Calculator.callsAmong asked
      let room := Room.opened s.store (Calculator.callsOf s.source s.today (s.assigned asked))
      let r := Room.drain (2 * m) (s.desk asked asked.length).room
      let verdicts := Calculator.merge s.today (s.assigned asked) r.answers
      shown = some (.verdicts verdicts, s.withStore (s.store.outlasted wait m)) ∧
      (∃ moves, room.run moves = some r ∧
        room.timeline moves = turns s.store.clock.monotonic wait failure m) ∧
      ∀ p i q, asked[p]? = some (i, q) →
        (q.needsCalendar = true → verdicts[p]? = some (.error (.noCalendar failure))) ∧
        (q.needsCalendar = false → ∃ verdict, (s.calculator i).settle s.today q = some verdict ∧
          verdicts[p]? = some verdict ∧
          let d := s.desk asked p
          d.room.store.clock = s.store.clock ∧
            s.desk asked (p + 1) = { d with settled := d.settled ++ [some verdict] }) := by
  intro client failure wait probeWait s shown
  have hwait : 0 < wait := Nat.mul_pos hsecs (by decide)
  -- after any steps the service still has nothing fresh, as no fetch has succeeded since
  have hcut : s.CutOff failure wait probeWait :=
    (cutOff_of_silent htarget hsilent hconnected hstale).after hwait earlier
  have hshown : shown = some (s.step step) := run_getElem? earlier later step
  rw [hshown]
  refine ⟨fun n => ⟨?_, ?_⟩, ?_, ?_, ?_, ?_, ?_⟩
  · exact congrFun (Client.fetch_of_silent htarget hsilent) n
  · exact congrFun (Client.probe_of_silent htarget hsilent) n
  · rintro rfl
    rw [hcut.step_calendar]
  · rintro rfl
    rw [hcut.step_health]
  · rintro i q rfl hneeds
    rw [hcut.step_ask hneeds]
  · rintro i q rfl hfree
    obtain ⟨verdict, hsettle⟩ :=
      Calculator.settle_of_not_needsCalendar (s.calculator i) s.today hfree
    exact ⟨verdict, hsettle, congrArg some (step_ask_of_settled hsettle)⟩
  · rintro asked rfl m room r verdicts
    -- the calls of the batch take turns; the questions without a call are put before the first turn is
    -- over
    obtain ⟨hstep, -, hturns⟩ := hcut.step_askTogether hwait asked
    refine ⟨congrArg some hstep, hturns, fun p i q hp => ⟨fun hneeds => ?_, fun hfree => ?_⟩⟩
    · have hgiven := hcut.given_eq hwait hp hneeds
      rwa [hstep] at hgiven
    · obtain ⟨verdict, hsettle, hgiven, hdesk⟩ := given_at_once hp hfree
      rw [hstep] at hgiven
      exact ⟨verdict, hsettle, hgiven, hdesk⟩

/-- With three seconds for a fetch and two for a probe: a probe, and then a batch of which two questions
need the calendar. The batch takes six seconds, and the question between the two is settled. -/
theorem silent_server_is_waited_out_by_two :
    let settings : FeedSettings :=
      { url := "http://feed.test", timeoutSecs := 3, healthTimeoutSecs := 2 }
    let network : Network := .scripted [.silent]
    let failure := FetchFailure.transport "http://feed.test/bank-holidays.json"
      (.timedOut "http://feed.test/bank-holidays.json")
    let asked : List (Nat × Question) :=
      [(0, .isWorkingDay .first), (0, .deadline 0 .first), (0, .deadline 1 .first)]
    ∃ service, connected settings network .first ⟨0, 0⟩ = .ok service ∧
      ∃ verdicts after,
        (service.run [.health, .askTogether asked])[1]? = some (.verdicts verdicts, after) ∧
        after.store.clock = ⟨8000, 8000⟩ ∧ after.store.source = 3 ∧
        verdicts[0]? = some (.error (.noCalendar failure)) ∧
        verdicts[1]? = some (.ok (.date .first)) ∧
        verdicts[2]? = some (.error (.noCalendar failure)) := by
  intro settings network failure asked
  let url : Url := ⟨"http", "", "", some (.domain "feed.test"), none,
    .segments ["bank-holidays.json"], none, none⟩
  have htarget : Client.target (Client.ofSettings settings).endpoint = .ok url := by decide +kernel
  have hsilent : ∀ n, network.answer n = some .silent := fun n => by simp [network, Network.scripted]
  obtain ⟨service, hconnected⟩ :
      ∃ service, connected settings network .first ⟨0, 0⟩ = .ok service := by
    rw [connected_eq, FeedSettings.ttl_eq, if_pos (by decide)]
    exact ⟨_, rfl⟩
  have hempty : service.store = .empty ⟨0, 0⟩ 0 := by
    obtain ⟨ttl, rfl⟩ := eq_of_connected hconnected
    rfl
  have hstale : service.store.IsStale service.ttl := hempty ▸ nofun
  have hfailure : FetchFailure.transport (Client.ofSettings settings).endpoint (.timedOut url.format) =
      failure := by decide +kernel
  obtain ⟨-, -, hprobe, -⟩ := silent_server_is_waited_out settings network .first ⟨0, 0⟩ url service
    service.store (by decide) htarget hsilent hconnected hstale [] [] .health
  have hprobed : (service.after [.health]).store = ⟨none, ⟨2000, 2000⟩, 1, 0⟩ := by
    have hstep := Option.some.inj (hprobe rfl)
    show (service.step .health).2.store = _
    rw [show service.step .health = _ from hstep, hempty]
    simp [settings, withStore, after, Cache.Store.empty, Cache.Store.advance, Cache.Clock.advance]
  obtain ⟨-, -, -, -, -, hbatch⟩ := silent_server_is_waited_out settings network .first ⟨0, 0⟩ url
    service service.store (by decide) htarget hsilent hconnected hstale [.health] [] (.askTogether asked)
  obtain ⟨hshown, -, hverdicts⟩ := hbatch asked rfl
  rw [hfailure] at hverdicts
  obtain ⟨verdict, hsettle, hfree, -⟩ := (hverdicts 1 0 (.deadline 0 .first) rfl).2 rfl
  obtain rfl : verdict = .ok (.date .first) := (Option.some.inj hsettle).symm
  have hafter : ((service.after [.health]).store.outlasted (settings.timeoutSecs * 1000)
      (Calculator.callsAmong asked)) = ⟨none, ⟨8000, 8000⟩, 3, 2⟩ := by
    rw [hprobed, show Calculator.callsAmong asked = 2 by decide]
    simp [settings, Cache.Store.outlasted, Cache.Clock.advance]
  refine ⟨service, hconnected, _, _, hshown, ?_, ?_, ?_, hfree, ?_⟩
  · exact congrArg (·.clock) hafter
  · exact congrArg (·.source) hafter
  · exact (hverdicts 0 0 (.isWorkingDay .first) rfl).1 rfl
  · exact (hverdicts 2 0 (.deadline 1 .first) rfl).1 rfl

end Service

end Workday
