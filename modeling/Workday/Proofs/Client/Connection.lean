import Mathlib.Order.Basic
import Workday.Client
import Workday.Proofs.Cache.Store
import Workday.Proofs.Settings.Check

/-!
# How long a connected service keeps a calendar

The seconds that settings give become milliseconds, if a duration holds as many, and a service is connected
just if they do. The check of the settings has a bound of its own for the same seconds. Both bounds refuse
the same numbers in the same words, so settings that pass the check can be connected, and the number that
the entry's age is compared with is the number of seconds that was set.
-/

set_option autoImplicit false

namespace Workday

namespace Service

/-- A service is connected if the time to live is one that a duration holds, and over nothing else. -/
theorem connected_eq (s : FeedSettings) (network : Network) (today : Date) (clock : Cache.Clock) :
    connected s network today clock = s.ttl.map fun ttl =>
      ⟨(Client.ofSettings s).fetch network, (Client.ofSettings s).probe network, ttl, today,
        .empty clock 0, [Calculator.new ttl]⟩ := by
  unfold connected
  cases s.ttl <;> rfl

/-- What is connected: the client of the settings, for both ways to ask, and one calculator. -/
theorem eq_of_connected {s : FeedSettings} {network : Network} {today : Date} {clock : Cache.Clock}
    {service : Service Nat} (h : connected s network today clock = .ok service) :
    ∃ ttl, service = ⟨(Client.ofSettings s).fetch network, (Client.ofSettings s).probe network, ttl, today,
      .empty clock 0, [Calculator.new ttl]⟩ := by
  rw [connected_eq] at h
  cases httl : s.ttl with
  | error fault =>
    rw [httl] at h
    cases h
  | ok ttl =>
    rw [httl] at h
    exact ⟨ttl, (Except.ok.inj h).symm⟩

/-- A service that is connected over settings probes with the client of these settings. -/
theorem probe_of_connected {s : FeedSettings} {network : Network} {today : Date} {clock : Cache.Clock}
    {service : Service Nat} (h : connected s network today clock = .ok service) :
    service.probe = (Client.ofSettings s).probe network := by
  obtain ⟨ttl, rfl⟩ := eq_of_connected h
  rfl

/-- A service that is connected over settings fetches with the client of these settings. -/
theorem source_of_connected {s : FeedSettings} {network : Network} {today : Date} {clock : Cache.Clock}
    {service : Service Nat} (h : connected s network today clock = .ok service) :
    service.source = (Client.ofSettings s).fetch network := by
  obtain ⟨ttl, rfl⟩ := eq_of_connected h
  rfl

/-- The entry is what a service answers from the cache while it is younger than the time to live. -/
theorem getCalendar_eq_entry_iff {σ : Type} (s : Service σ) {e : Cache.Entry Calendar}
    (hentry : s.store.entry = some e) :
    s.getCalendar.1 = .ok ⟨e.value, .cache⟩ ↔ (e.age s.store.clock : Int) < s.ttl := by
  unfold getCalendar
  by_cases hage : (e.age s.store.clock : Int) < s.ttl
  · rw [Cache.Store.get_of_fresh _ (Cache.Store.fresh?_eq_some_iff.mpr ⟨e, hentry, hage, rfl⟩)]
    exact iff_of_true rfl hage
  · have hstale : s.store.IsStale s.ttl := by
      intro e' hentry'
      rw [Option.some.inj (hentry'.symm.trans hentry)]
      exact Int.not_lt.mp hage
    rw [(Cache.Store.get_of_stale ⟨s.ttl, s.source⟩ hstale).answer_eq]
    refine iff_of_false ?_ hage
    cases (s.source s.store.source).1.result <;> simp [Except.map]

/-- For every number of seconds to keep a calendar: it is a time to live just if it is at most the
milliseconds of 64 bits divided by a thousand; then the time is that many seconds to the millisecond, and
else the fault says how many would be the most. If the URL and the timeouts are sound, the check of the
settings passes just then, and finds the same fault. Settings that pass the check are connected, and the
service answers with an entry from the cache just while that is younger than so many seconds. -/
theorem configured_ttl_reaches_the_cache (settings : FeedSettings) :
    let secs := settings.ttlSecs
    ((∃ ttl, settings.ttl = .ok ttl) ↔ secs ≤ 9223372036854775807 / 1000) ∧
    (∀ ttl, settings.ttl = .ok ttl → ttl = (secs * 1000 : Nat)) ∧
    (∀ fault, settings.ttl = .error fault → fault.message =
      "bank_holidays.cache_ttl_secs must be at most 9223372036854775, got " ++ toString secs) ∧
    (∀ url, Url.read settings.url = .ok url → settings.timeoutSecs ≠ 0 →
      settings.healthTimeoutSecs ≠ 0 →
      (settings.check = .ok () ↔ ∃ ttl, settings.ttl = .ok ttl) ∧
        ∀ fault, settings.check = .error fault ↔ settings.ttl = .error fault) ∧
    (settings.check = .ok () → ∀ (network : Network) (today : Date) (clock : Cache.Clock),
      ∃ service, connected settings network today clock = .ok service ∧
        ∀ (store : CalendarStore Nat) (e : Cache.Entry Calendar), store.entry = some e →
          ((service.withStore store).getCalendar.1 = .ok ⟨e.value, .cache⟩ ↔
            e.age store.clock < secs * 1000)) := by
  intro secs
  refine ⟨FeedSettings.exists_ttl_iff, fun _ => FeedSettings.ttl_of_eq_ok, ?_, ?_, ?_⟩
  · intro fault hfault
    rw [FeedSettings.fault_of_ttl_eq_error hfault]
    rfl
  · intro url hurl htimeout hhealth
    rw [FeedSettings.check_eq_map_ttl hurl htimeout hhealth]
    cases settings.ttl <;> simp [Except.map]
  · intro hcheck network today clock
    -- the check has done the conversion before, so a service over checked settings has its time to live
    have httl : settings.ttl = .ok (secs * 1000 : Nat) :=
      Settings.ttl_of_check (s := { feed := settings }) hcheck
    rw [connected_eq, httl]
    refine ⟨_, rfl, fun store e hentry => ?_⟩
    rw [getCalendar_eq_entry_iff _ hentry]
    exact Int.ofNat_lt

/-- The longest time to live there is, a millisecond before it is over and then, and one second more than
the longest. -/
theorem configured_ttl_reaches_the_cache_at_the_bound :
    let longest : FeedSettings := { ttlSecs := 9223372036854775 }
    let longer : FeedSettings := { ttlSecs := 9223372036854776 }
    let held : CalendarStore Nat := ⟨some ⟨.empty, ⟨5, 0⟩⟩, ⟨5, 0⟩, 0, 1⟩
    let served (service : Service Nat) (store : CalendarStore Nat) : Prop :=
      (service.withStore store).getCalendar.1 = .ok ⟨.empty, .cache⟩
    longest.ttl = .ok 9223372036854775000 ∧
    (∃ service, connected longest .unreachable .last ⟨0, 0⟩ = .ok service ∧
      served service (held.advance 9223372036854774999) ∧
      ¬ served service (held.advance 9223372036854775000)) ∧
    longer.ttl = .error (.ttlTooLong 9223372036854776) ∧
    longer.check = .error (.ttlTooLong 9223372036854776) := by
  intro longest longer held served
  let url : Url :=
    ⟨"https", "", "", some (.domain "www.gov.uk"), none, .segments [""], none, none⟩
  have hread : Url.read "https://www.gov.uk" = .ok url := by decide +kernel
  obtain ⟨hbound, hmillis, -, hcheck, hconnected⟩ := configured_ttl_reaches_the_cache longest
  obtain ⟨ttl, httl⟩ := hbound.mpr (Nat.le_refl _)
  have hpasses : longest.check = .ok () :=
    (hcheck url hread (by decide) (by decide)).1.mpr ⟨ttl, httl⟩
  obtain ⟨service, hservice, hserved⟩ := hconnected hpasses .unreachable .last ⟨0, 0⟩
  have hrefused : longer.ttl = .error (.ttlTooLong 9223372036854776) :=
    (FeedSettings.ttl_eq longer).trans (if_neg (by decide))
  obtain ⟨-, -, -, hcheck', -⟩ := configured_ttl_reaches_the_cache longer
  have hlongest : ttl = 9223372036854775000 := (hmillis ttl httl).trans (by decide)
  refine ⟨hlongest ▸ httl, ⟨service, hservice, ?_, ?_⟩, hrefused,
    ((hcheck' url hread (by decide) (by decide)).2 _).mpr hrefused⟩
  · refine (hserved (held.advance 9223372036854774999) _ rfl).mpr ?_
    show 5 + 9223372036854774999 - 5 < 9223372036854775 * 1000
    omega
  · refine mt (hserved (held.advance 9223372036854775000) _ rfl).mp ?_
    show ¬ 5 + 9223372036854775000 - 5 < 9223372036854775 * 1000
    omega

end Service

end Workday
