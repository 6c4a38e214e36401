import Workday.Proofs.Client.Classification
import Workday.Proofs.Client.Connection
import Workday.Proofs.Service.Command

/-!
# The probe

A probe asks for the feed as a fetch does, with a time of its own, and leaves out only the decoding. The
time that is allowed decides how long a request without a reply takes, and nothing else, so a probe fails
just where a fetch does before it decodes, and for the same reason. That reason may be the body, which no
probe looks at: a success whose body is cut short is a failure of both. The cache takes no part in a probe
and keeps what it holds.
-/

set_option autoImplicit false

namespace Workday

namespace Client

variable {c : Client} {network : Network} {n : Nat} {url : Url} {reply : Reply} {endpoint : String}

/-! ## What the time allowed decides -/

/-- A chain of requests comes to the same end, after as many requests, whatever time is allowed. A
request that is not answered in time takes longer, and fails alike. -/
theorem follow_timeout (network : Network) (timeout timeout' : Nat) (first : Url) (left : Nat) (url : Url)
    (n : Nat) :
    (follow network timeout first left url n).result =
        (follow network timeout' first left url n).result ∧
      (follow network timeout first left url n).requests =
        (follow network timeout' first left url n).requests := by
  induction left generalizing url n with
  | zero =>
    unfold follow
    split
    case h_4 reply _ => cases reply.redirection? url <;> exact ⟨rfl, rfl⟩
    all_goals exact ⟨rfl, rfl⟩
  | succ left ih =>
    unfold follow
    split
    case h_4 reply _ =>
      cases reply.redirection? url with
      | none => exact ⟨rfl, rfl⟩
      | some next =>
        cases hnext : isRequestable next with
        | true => simpa only [hnext, if_true] using ih next (n + 1)
        | false => simp only [hnext, Bool.false_eq_true, if_false, and_self]
    all_goals exact ⟨rfl, rfl⟩

/-- How long a request may take makes no difference to what it comes to, nor to how many requests
are sent. -/
theorem get_seconds (seconds seconds' : Nat) :
    (c.get network seconds n).result = (c.get network seconds' n).result ∧
      (c.get network seconds n).requests = (c.get network seconds' n).requests := by
  unfold get
  cases target c.endpoint with
  | error cause => exact ⟨rfl, rfl⟩
  | ok url =>
    obtain ⟨hresult, hrequests⟩ :=
      follow_timeout network (seconds * 1000) (seconds' * 1000) url maxRedirects url n
    exact ⟨by simp only [hresult], hrequests⟩

/-! ## What a body decides -/

/-- No reply is judged malformed before its body is decoded. -/
theorem judge_ne_malformed (message : String) : judge endpoint reply ≠ .error (.malformed message) := by
  unfold judge
  split
  · nofun
  · split <;> nofun

/-- A request never fails for what a body says. -/
theorem get_ne_malformed (seconds : Nat) (message : String) :
    (c.get network seconds n).result ≠ .error (.malformed message) := by
  unfold get
  cases target c.endpoint with
  | error cause => nofun
  | ok url =>
    cases hresult : (follow network (seconds * 1000) url maxRedirects url n).result with
    | error cause => simp only [hresult, ne_eq, Except.error.injEq, reduceCtorEq, not_false_eq_true]
    | ok reply => simpa only [hresult] using judge_ne_malformed message

/-- Decoding gives a calendar or says that the body is malformed. -/
theorem decode_cases (body : List UInt8) :
    (∃ calendar, decode body = .ok calendar) ∨ ∃ message, decode body = .error (.malformed message) := by
  unfold decode
  cases Feed.decode body with
  | ok calendar => exact .inl ⟨calendar, rfl⟩
  | error fault => exact .inr ⟨fault.message, rfl⟩

/-- A probe is the request of a fetch, and a fetch decodes the body that such a request gives. -/
theorem probe_eq (c : Client) (network : Network) (n : Nat) : ∃ result : Except FetchFailure (List UInt8),
    (∀ message, result ≠ .error (.malformed message)) ∧
      (c.fetch network n).1.result = result.bind decode ∧
      (c.probe network n).1.1 = (match result with
        | .ok _ => none
        | .error failure => some failure) := by
  refine ⟨(c.get network c.timeoutSecs n).result, get_ne_malformed c.timeoutSecs, rfl, ?_⟩
  rw [(get_seconds c.timeoutSecs c.healthTimeoutSecs).1]
  rfl

/-- A probe succeeds exactly if the fetch gives a calendar or fails by the body alone. -/
theorem probe_eq_none_iff :
    (c.probe network n).1.1 = none ↔
      (∃ calendar, (c.fetch network n).1.result = .ok calendar) ∨
        ∃ message, (c.fetch network n).1.result = .error (.malformed message) := by
  obtain ⟨result, hresult, hfetch, hprobe⟩ := probe_eq c network n
  rw [hfetch, hprobe]
  cases result with
  | ok body => exact iff_of_true rfl (decode_cases body)
  | error failure =>
    refine iff_of_false (Option.some_ne_none failure) ?_
    rintro (⟨calendar, h⟩ | ⟨message, h⟩)
    · cases h
    · exact hresult message (congrArg Except.error (Except.error.inj h))

/-- A probe fails exactly as the fetch does, unless that is by the body. It asks for the same URL and
judges the reply alike, and then it looks at nothing in the body. -/
theorem probe_eq_some_iff (failure : FetchFailure) :
    (c.probe network n).1.1 = some failure ↔
      (c.fetch network n).1.result = .error failure ∧ ∀ message, failure ≠ .malformed message := by
  obtain ⟨result, hresult, hfetch, hprobe⟩ := probe_eq c network n
  rw [hfetch, hprobe]
  cases result with
  | ok body =>
    refine iff_of_false (Option.some_ne_none failure).symm ?_
    rintro ⟨hfailure, hother⟩
    rcases decode_cases body with ⟨calendar, hdecode⟩ | ⟨message, hdecode⟩
    · cases hdecode.symm.trans hfailure
    · exact hother message (Except.error.inj (hfailure.symm.trans hdecode))
  | error failure' =>
    constructor
    · rintro h
      cases h
      exact ⟨rfl, fun message h => hresult message (congrArg Except.error h)⟩
    · rintro ⟨h, -⟩
      cases h
      rfl

/-- A probe sends as many requests as the fetch. -/
theorem probe_requests : (c.probe network n).2 = (c.fetch network n).2 :=
  (get_seconds c.healthTimeoutSecs c.timeoutSecs).2

end Client

/-! ## The probe of a service -/

/-- A probe and a fetch that stand at the same request agree, whatever the client and whatever the servers
do. The probe succeeds just if the fetch gives a calendar or finds the body malformed; any other failure of
the fetch is that of the probe, to the last detail, and the probe has no other; and both send as many
requests. A service that is connected over settings has this probe whatever its store holds: it answers
that the feed is reachable, or that there is no calendar and what the probe failed for, and the entry, with
the moment it was stored, and the count of fetches stay as they are. -/
theorem Client.probe_agrees_with_fetch (network : Network) :
    (∀ (client : Client) (n : Nat),
      ((client.probe network n).1.1 = none ↔
        (∃ calendar, (client.fetch network n).1.result = .ok calendar) ∨
          ∃ message, (client.fetch network n).1.result = .error (.malformed message)) ∧
      (∀ failure, (client.probe network n).1.1 = some failure ↔
        (client.fetch network n).1.result = .error failure ∧
          ∀ message, failure ≠ .malformed message) ∧
      (client.probe network n).2 = (client.fetch network n).2) ∧
    ∀ (settings : FeedSettings) (today : Date) (clock : Cache.Clock) (service : Service Nat)
      (store : CalendarStore Nat),
      Service.connected settings network today clock = .ok service →
      let probed := (Client.ofSettings settings).probe network store.source
      let health := (service.withStore store).checkHealth
      ((probed.1.1 = none ↔ ∃ text, health.1 = .ok text) ∧
        ∀ failure, probed.1.1 = some failure ↔ health.1 = .error (.noCalendar failure)) ∧
      health.2.store.entry = store.entry ∧ health.2.store.fetches = store.fetches ∧
        health.2.store.source = probed.2 := by
  refine ⟨fun client n => ⟨probe_eq_none_iff, probe_eq_some_iff, probe_requests⟩, ?_⟩
  intro settings today clock service store hconnected probed health
  have hprobed : (service.withStore store).probe (service.withStore store).store.source = probed :=
    congrFun (Service.probe_of_connected hconnected) store.source
  -- the command looks at the result of the probe alone
  have hhealth := Service.checkHealth_eq (service.withStore store)
  rw [hprobed] at hhealth
  clear_value probed
  simp only [health, hhealth]
  refine ⟨?_, rfl, rfl, rfl⟩
  cases probed.1.1 with
  | none => simp
  | some failure => simp

/-- A body that is no feed, and then a page in place of the feed, seen by a service that holds a calendar. -/
theorem Client.probe_agrees_with_fetch_while_one_is_held :
    let settings : FeedSettings := { url := "http://feed.test" }
    let network : Network :=
      .scripted [.reply { status := 200, body := Text.utf8 "x" }, .reply { status := 503 }]
    let unavailable := FetchFailure.status "http://feed.test/bank-holidays.json" 503
    let held : CalendarStore Nat := ⟨some ⟨.empty, ⟨5, 0⟩⟩, ⟨7, 0⟩, 1, 1⟩
    ((Client.ofSettings settings).probe network 0).1.1 = none ∧
      ((Client.ofSettings settings).fetch network 0).1.result =
        .error (.malformed "expected value at line 1 column 1") ∧
      ((Client.ofSettings settings).probe network held.source).1.1 = some unavailable ∧
      ∃ service, Service.connected settings network .first ⟨0, 0⟩ = .ok service ∧
        (service.withStore held).checkHealth.1 = .error (.noCalendar unavailable) ∧
        (service.withStore held).checkHealth.2.store.entry = some ⟨.empty, ⟨5, 0⟩⟩ := by
  intro settings network unavailable held
  obtain ⟨hclient, hservice⟩ := probe_agrees_with_fetch network
  have hmalformed : ((Client.ofSettings settings).fetch network 0).1.result =
      .error (.malformed "expected value at line 1 column 1") := by decide +kernel
  have hstatus : ((Client.ofSettings settings).fetch network held.source).1.result =
      .error unavailable := by decide +kernel
  have hprobe : ((Client.ofSettings settings).probe network held.source).1.1 = some unavailable :=
    ((hclient _ held.source).2.1 unavailable).mpr ⟨hstatus, nofun⟩
  obtain ⟨service, hconnected⟩ :
      ∃ service, Service.connected settings network .first ⟨0, 0⟩ = .ok service := by
    rw [Service.connected_eq, FeedSettings.ttl_eq, if_pos (by decide)]
    exact ⟨_, rfl⟩
  obtain ⟨⟨-, hanswer⟩, hentry, -⟩ := hservice settings .first ⟨0, 0⟩ service held hconnected
  exact ⟨(hclient _ 0).1.mpr (.inr ⟨_, hmalformed⟩), hmalformed, hprobe, service, hconnected,
    (hanswer unavailable).mp hprobe, hentry⟩

/-! ## What a probe looks at -/

namespace Client

/-- A probe that comes to a reply succeeds just if that is a success and its body is complete: it does not
look at the body, but it waits for it. A reply that is no success fails for its status, complete or not, and
a success whose body is cut short fails in transport. So a probe tells a success by the status alone just
if the body of a success arrives in full. -/
theorem probe_succeeds_iff_complete_success (client : Client) (network : Network) (n : Nat) {url : Url}
    {reply : Reply} (sent : target client.endpoint = .ok url)
    (comes : network.ComesTo 10 n url reply) :
    let failure := (client.probe network n).1.1
    let success := 200 ≤ reply.status ∧ reply.status ≤ 299
    (failure = none ↔ success ∧ reply.isCutShort = false) ∧
    (failure = some (.status client.endpoint reply.status) ↔ ¬ success) ∧
    (failure = some (.transport client.endpoint .bodyCutShort) ↔
      success ∧ reply.isCutShort = true) ∧
    ((failure = none ↔ success) ↔ (success → reply.isCutShort = false)) := by
  intro failure success
  have hfailure : failure = (match judge client.endpoint reply with
      | .ok _ => none
      | .error failure => some failure) := by
    rcases get_result network client.healthTimeoutSecs n sent with ⟨reply', hreply, hresult⟩ | ⟨hlost, -⟩
    · rw [← hreply.eq comes, ← hresult]
      rfl
    · exact absurd comes (Network.not_comesTo hlost reply)
  have hsuccess : reply.isSuccess = true ↔ success := Reply.isSuccess_iff
  rw [hfailure, ← hsuccess]
  unfold judge
  cases reply.isSuccess <;> cases reply.isCutShort <;> simp

/-- A redirect, and a body that is nothing like a feed. -/
theorem probe_succeeds_iff_complete_success_behind_a_redirect :
    let client : Client := ⟨"http://feed.test/bank-holidays.json", 30, 2⟩
    let network : Network := .scripted [.reply { status := 302, location := some "/moved" },
      .reply { status := 204, body := Text.utf8 "nothing" }]
    (client.probe network 0).1.1 = none := by
  intro client network
  let first : Url := ⟨"http", "", "", some (.domain "feed.test"), none,
    .segments ["bank-holidays.json"], none, none⟩
  let second : Url := { first with path := .segments ["moved"] }
  let moved : Reply := { status := 302, location := some "/moved" }
  let page : Reply := { status := 204, body := Text.utf8 "nothing" }
  have hmoved : network.Replies 0 first moved := ⟨by decide +kernel, rfl⟩
  have hpage : network.Replies (0 + 1) second page := ⟨by decide +kernel, rfl⟩
  have hrefers : moved.RefersTo first second := ⟨by decide, "/moved", rfl, by decide +kernel⟩
  have hlast : ∀ next, ¬ page.RefersTo second next := fun _ h =>
    absurd h.1 (show 204 ∉ [301, 302, 303, 307, 308] by decide)
  have hcomes : network.ComesTo 10 0 first page :=
    ⟨1, second, by decide, .on hmoved hrefers .nowhere, hpage, hlast⟩
  exact (probe_succeeds_iff_complete_success client network 0 (by decide +kernel) hcomes).1.mpr
    ⟨by decide, rfl⟩

/-- A success is what the request comes to, and the probe fails. -/
theorem probe_fails_on_a_success_cut_short :
    let client : Client := ⟨"http://feed.test/bank-holidays.json", 30, 2⟩
    let reply : Reply := { status := 200, body := Text.utf8 "ok", isCutShort := true }
    let network : Network := .scripted [.reply reply]
    ∃ url, target client.endpoint = .ok url ∧ network.ComesTo 10 0 url reply ∧
      ¬ ((client.probe network 0).1.1 = none ↔ 200 ≤ reply.status ∧ reply.status ≤ 299) := by
  intro client reply network
  let url : Url := ⟨"http", "", "", some (.domain "feed.test"), none,
    .segments ["bank-holidays.json"], none, none⟩
  have hreplies : network.Replies (0 + 0) url reply := ⟨by decide +kernel, rfl⟩
  have hlast : ∀ next, ¬ reply.RefersTo url next := fun _ h =>
    absurd h.1 (show 200 ∉ [301, 302, 303, 307, 308] by decide)
  have hfailure : (client.probe network 0).1.1 = some (.transport client.endpoint .bodyCutShort) := by
    decide +kernel
  refine ⟨url, by decide +kernel, ⟨0, url, by decide, .nowhere, hreplies, hlast⟩, ?_⟩
  rw [hfailure]
  exact fun h => Option.some_ne_none _ (h.mpr ⟨by decide, by decide⟩)

end Client

end Workday
