import Workday.Settings

/-!
# What the check of settings asks for

Settings pass the check just if the URL can be read, both timeouts are more than nothing and the time
to live is one that a duration holds. The bound of the check and that of a duration refuse the same
numbers of seconds, and say the same of them.
-/

set_option autoImplicit false

namespace Workday

namespace FeedSettings

variable {s : FeedSettings} {url : Url}

/-- The bound of a duration, as one of seconds. -/
theorem ttl_eq (s : FeedSettings) :
    s.ttl = if s.ttlSecs ≤ Settings.maxTtlSecs then .ok (s.ttlSecs * 1000 : Nat)
      else .error (.ttlTooLong s.ttlSecs) := by
  have hbounds : s.ttlSecs * 1000 ≤ maxMillis ↔ s.ttlSecs ≤ Settings.maxTtlSecs := by
    unfold maxMillis Settings.maxTtlSecs
    omega
  unfold ttl millis?
  by_cases h : s.ttlSecs ≤ Settings.maxTtlSecs
  · simp only [hbounds.mpr h, h, if_true]
  · simp only [mt hbounds.mp h, h, if_false]

/-- There is a time to live exactly if its seconds are in their bound. -/
theorem exists_ttl_iff : (∃ ttl, s.ttl = .ok ttl) ↔ s.ttlSecs ≤ Settings.maxTtlSecs := by
  rw [ttl_eq]
  split
  next h => exact iff_of_true ⟨_, rfl⟩ h
  next h => exact iff_of_false (fun ⟨_, httl⟩ => by cases httl) h

/-- The time to live is that of its seconds, in milliseconds. -/
theorem ttl_of_eq_ok {ttl : Int} (h : s.ttl = .ok ttl) : ttl = (s.ttlSecs * 1000 : Nat) := by
  rw [ttl_eq] at h
  split at h
  · exact (Except.ok.inj h).symm
  · cases h

/-- A time to live can only be too long, and the fault names its seconds. -/
theorem fault_of_ttl_eq_error {fault : Settings.Fault} (h : s.ttl = .error fault) :
    fault = .ttlTooLong s.ttlSecs := by
  rw [ttl_eq] at h
  split at h
  · cases h
  · exact (Except.error.inj h).symm

/-- Past the URL and the timeouts, the check comes to what the time to live comes to. -/
theorem check_eq_map_ttl (hurl : Url.read s.url = .ok url) (htimeout : s.timeoutSecs ≠ 0)
    (hhealth : s.healthTimeoutSecs ≠ 0) : s.check = s.ttl.map fun _ => () := by
  rw [ttl_eq]
  unfold check
  by_cases httl : s.ttlSecs ≤ Settings.maxTtlSecs
  · simp [hurl, htimeout, hhealth, httl, Nat.not_lt.mpr httl, Except.map, pure, Except.pure]
  · simp [hurl, htimeout, hhealth, httl, Nat.lt_of_not_le httl, Except.map, throw, throwThe,
      MonadExceptOf.throw]

end FeedSettings

namespace Settings

variable {s : Settings}

/-- Settings pass the check exactly if their URL is one, neither time limit is zero, and the time to
live is in its bound. The order of the checks makes no difference to this. -/
theorem check_eq_ok_iff :
    s.check = .ok () ↔
      (∃ url, Url.read s.feed.url = .ok url) ∧ s.feed.timeoutSecs ≠ 0 ∧
        s.feed.healthTimeoutSecs ≠ 0 ∧ s.feed.ttlSecs ≤ maxTtlSecs := by
  unfold Settings.check FeedSettings.check
  cases hurl : Url.read s.feed.url with
  | error fault => simp [bind, Except.bind, throw, throwThe, MonadExceptOf.throw]
  | ok url =>
    by_cases htimeout : s.feed.timeoutSecs = 0
    · simp [htimeout, bind, Except.bind, throw, throwThe, MonadExceptOf.throw]
    · by_cases hhealth : s.feed.healthTimeoutSecs = 0
      · simp [htimeout, hhealth, bind, Except.bind, throw, throwThe, MonadExceptOf.throw]
      · by_cases httl : maxTtlSecs < s.feed.ttlSecs
        · simp [htimeout, hhealth, httl, throw, throwThe, MonadExceptOf.throw]
        · simpa [htimeout, hhealth, httl, pure, Except.pure] using Nat.le_of_not_lt httl

/-- Settings that pass the check keep a calendar for a time that a duration holds. -/
theorem ttl_of_check (h : s.check = .ok ()) : s.feed.ttl = .ok (s.feed.ttlSecs * 1000 : Nat) := by
  obtain ⟨-, -, -, httl⟩ := check_eq_ok_iff.mp h
  rw [FeedSettings.ttl_eq, if_pos httl]

end Settings

end Workday
