import Workday.Proofs.Client.Chain
import Workday.Proofs.Client.Reach

/-!
# How a fetch ends

A request comes to the reply at the end of its chain of redirects or to none, and what a fetch gives is
told by that alone: without a reply, or with a success whose body is cut short, the transport has failed;
a reply that is no success is refused for its status whatever its body; the body of a success is a feed
or is malformed. Failures name the endpoint, and the requests are counted by the redirects that are
followed.
-/

set_option autoImplicit false

namespace Workday

/-- A success is a status from 200 to 299. -/
theorem Reply.isSuccess_iff {r : Reply} : r.isSuccess = true ↔ 200 ≤ r.status ∧ r.status ≤ 299 := by
  simp only [isSuccess, Bool.and_eq_true, decide_eq_true_eq]

namespace Client

variable {c : Client} {network : Network} {n : Nat} {url : Url} {reply : Reply}

/-- The URL of an endpoint can be asked for. -/
theorem isRequestable_of_target (h : target c.endpoint = .ok url) : isRequestable url = true := by
  unfold target at h
  split at h
  · cases h
  · rename_i u _
    cases hhost : u.hasHost with
    | false => simp [hhost] at h
    | true =>
      cases hsend : isRequestable (requestUrl u) with
      | false => simp [hhost, hsend] at h
      | true =>
        simp only [hhost, hsend, Bool.not_true, Bool.false_eq_true, if_false, Except.ok.injEq] at h
        exact h ▸ hsend

/-! ## Requests -/

/-- A request comes to a reply, which is judged, or it comes to none and fails at the endpoint, whatever
time is allowed for it. -/
theorem get_result (network : Network) (seconds n : Nat) (htarget : target c.endpoint = .ok url) :
    (∃ reply, network.ComesTo 10 n url reply ∧
      (c.get network seconds n).result = judge c.endpoint reply) ∨
    ((network.GoesUnanswered 10 n url ∨ network.GoesTooFar 10 n url) ∧
      ∃ cause, (c.get network seconds n).result = .error (.transport c.endpoint cause)) := by
  have htells : (follow network (seconds * 1000) url maxRedirects url n).TellsOf network 10 n url :=
    follow_tellsOf (seconds * 1000) url (isRequestable_of_target htarget)
  simp only [get, htarget]
  cases hresult : (follow network (seconds * 1000) url maxRedirects url n).result with
  | error cause => exact .inr ⟨htells.noReply cause hresult, cause, rfl⟩
  | ok reply => exact .inl ⟨reply, htells.reply reply hresult, rfl⟩

/-- A request is one for the endpoint and one for each redirect that is followed. -/
theorem get_requests (network : Network) (seconds n : Nat) (htarget : target c.endpoint = .ok url) :
    ∃ k, network.Follows 10 n url k ∧ (c.get network seconds n).requests =
      n + k + if network.answer (n + k) = none then 0 else 1 := by
  simp only [get, htarget]
  exact (follow_tellsOf (seconds * 1000) url (isRequestable_of_target htarget)).requests

/-! ## Fetches -/

/-- The ways in which a fetch ends that asks for a URL with the n-th request. -/
inductive Ends (endpoint : String) (network : Network) (n : Nat) (url : Url) :
    Except FetchFailure Calendar → Prop
  | lost {cause : TransportCause}
      (lost : network.GoesUnanswered 10 n url ∨ network.GoesTooFar 10 n url) :
      Ends endpoint network n url (.error (.transport endpoint cause))
  | refused {reply : Reply} (comes : network.ComesTo 10 n url reply)
      (fails : reply.isSuccess = false) :
      Ends endpoint network n url (.error (.status endpoint reply.status))
  | cutShort {reply : Reply} (comes : network.ComesTo 10 n url reply)
      (succeeds : reply.isSuccess = true) (cut : reply.isCutShort = true) :
      Ends endpoint network n url (.error (.transport endpoint .bodyCutShort))
  | malformed {reply : Reply} {fault : Json.Fault} (comes : network.ComesTo 10 n url reply)
      (succeeds : reply.isSuccess = true) (complete : reply.isCutShort = false)
      (noFeed : Feed.decode reply.body = .error fault) :
      Ends endpoint network n url (.error (.malformed fault.message))
  | calendar {reply : Reply} {calendar : Calendar} (comes : network.ComesTo 10 n url reply)
      (succeeds : reply.isSuccess = true) (complete : reply.isCutShort = false)
      (feed : Feed.decode reply.body = .ok calendar) :
      Ends endpoint network n url (.ok calendar)

/-- A chain that comes to a reply ends with what the reply is judged to be: first by its status, then by
whether its body is whole, and last by whether the body is a feed. -/
theorem ends_of_comesTo (h : network.ComesTo 10 n url reply) :
    Ends c.endpoint network n url ((judge c.endpoint reply).bind decode) := by
  unfold judge
  cases hsuccess : reply.isSuccess with
  | false => exact .refused h hsuccess
  | true =>
    cases hcut : reply.isCutShort with
    | true => exact .cutShort h hsuccess hcut
    | false =>
      show Ends c.endpoint network n url (decode reply.body)
      unfold decode
      cases hfeed : Feed.decode reply.body with
      | error fault => exact .malformed h hsuccess hcut hfeed
      | ok calendar => exact .calendar h hsuccess hcut hfeed

/-- A fetch from an endpoint that can be asked ends in one of these ways. -/
theorem fetch_ends (htarget : target c.endpoint = .ok url) :
    Ends c.endpoint network n url (c.fetch network n).1.result := by
  show Ends c.endpoint network n url ((c.get network c.timeoutSecs n).result.bind decode)
  rcases get_result network c.timeoutSecs n htarget with ⟨reply, hreply, hresult⟩ | ⟨hlost, _, hresult⟩
  · rw [hresult]
    exact ends_of_comesTo hreply
  · rw [hresult]
    exact .lost hlost

namespace Ends

variable {endpoint : String} {result : Except FetchFailure Calendar}

/-- A fetch fails on its way exactly if the chain is left without a reply, goes too far, or comes to
a success whose body is cut short. -/
theorem transport_iff (h : Ends endpoint network n url result) :
    (∃ named cause, result = .error (.transport named cause)) ↔
      network.GoesUnanswered 10 n url ∨ network.GoesTooFar 10 n url ∨
        ∃ reply, network.ComesTo 10 n url reply ∧ reply.isSuccess = true ∧ reply.isCutShort = true := by
  cases h with
  | @lost cause hlost =>
    exact iff_of_true ⟨endpoint, cause, rfl⟩ (hlost.imp_right .inl)
  | refused hreply hfails =>
    simp [hreply.exists_and_iff, hreply.not_goesUnanswered, hreply.not_goesTooFar, hfails]
  | cutShort hreply hsuccess hcut =>
    simp [hreply.exists_and_iff, hsuccess, hcut]
  | malformed hreply _ hcomplete _ =>
    simp [hreply.exists_and_iff, hreply.not_goesUnanswered, hreply.not_goesTooFar, hcomplete]
  | calendar hreply _ hcomplete _ =>
    simp [hreply.exists_and_iff, hreply.not_goesUnanswered, hreply.not_goesTooFar, hcomplete]

/-- A fetch fails by a status exactly if the chain comes to a reply with this status, and it is no
success. -/
theorem status_iff (h : Ends endpoint network n url result) (status : Nat) :
    (∃ named, result = .error (.status named status)) ↔
      ∃ reply, network.ComesTo 10 n url reply ∧ reply.status = status ∧ reply.isSuccess = false := by
  cases h with
  | lost hlost => simp [Network.not_comesTo hlost]
  | refused hreply hfails => simp [hreply.exists_and_iff, hfails]
  | cutShort hreply hsuccess _ | malformed hreply hsuccess _ _ | calendar hreply hsuccess _ _ =>
    simp [hreply.exists_and_iff, hsuccess]

/-- A fetch finds the feed malformed exactly if the chain comes to a whole success whose body is not
decoded; the message is that of the fault. -/
theorem malformed_iff (h : Ends endpoint network n url result) (message : String) :
    result = .error (.malformed message) ↔
      ∃ reply, network.ComesTo 10 n url reply ∧ reply.isSuccess = true ∧ reply.isCutShort = false ∧
        ∃ fault, Feed.decode reply.body = .error fault ∧ fault.message = message := by
  cases h with
  | lost hlost => simp [Network.not_comesTo hlost]
  | refused hreply hfails => simp [hreply.exists_and_iff, hfails]
  | cutShort hreply _ hcut => simp [hreply.exists_and_iff, hcut]
  | malformed hreply hsuccess hcomplete hfeed | calendar hreply hsuccess hcomplete hfeed =>
    simp [hreply.exists_and_iff, hsuccess, hcomplete, hfeed]

/-- A fetch gives a calendar exactly if the chain comes to a whole success whose body is decoded to
it. -/
theorem calendar_iff (h : Ends endpoint network n url result) (calendar : Calendar) :
    result = .ok calendar ↔
      ∃ reply, network.ComesTo 10 n url reply ∧ reply.isSuccess = true ∧ reply.isCutShort = false ∧
        Feed.decode reply.body = .ok calendar := by
  cases h with
  | lost hlost => simp [Network.not_comesTo hlost]
  | refused hreply hfails => simp [hreply.exists_and_iff, hfails]
  | cutShort hreply _ hcut => simp [hreply.exists_and_iff, hcut]
  | malformed hreply hsuccess hcomplete hfeed | calendar hreply hsuccess hcomplete hfeed =>
    simp [hreply.exists_and_iff, hsuccess, hcomplete, hfeed]

/-- A failure on the way names the endpoint, and not where the chain has led. -/
theorem named_of_transport {named : String} {cause : TransportCause}
    (h : Ends endpoint network n url (.error (.transport named cause))) : named = endpoint := by
  cases h with
  | lost _ => rfl
  | cutShort _ _ _ => rfl

/-- A failure by a status names the endpoint, and not where the chain has led. -/
theorem named_of_status {named : String} {status : Nat}
    (h : Ends endpoint network n url (.error (.status named status))) : named = endpoint := by
  cases h with
  | refused _ _ => rfl

end Ends

/-- A fetch over a URL of the web that can be requested ends in one of four ways, told by the chain of
requests from the endpoint on. It fails in transport if a request gets no reply, if there are more than
ten redirects, or if the body of a success is cut short; for the status of the final reply if that is no
success, whatever the body; as malformed if the whole body of a success is no feed; and else it gives the
calendar in that body. A failure names the endpoint, if it names a URL, and servers receive one request and
one for each redirect that is followed, less the last if it reaches no server. -/
theorem fetch_ends_in_one_way (client : Client) (network : Network) (n : Nat) {u : Url}
    (read : Url.read client.endpoint = .ok u) (web : Url.IsWeb u.scheme)
    (sendable : isRequestable (requestUrl u) = true) :
    let url := requestUrl u
    let result := (client.fetch network n).1.result
    ((∃ named cause, result = .error (.transport named cause)) ↔
      network.GoesUnanswered 10 n url ∨ network.GoesTooFar 10 n url ∨
        ∃ reply, network.ComesTo 10 n url reply ∧
          (200 ≤ reply.status ∧ reply.status ≤ 299) ∧ reply.isCutShort = true) ∧
    (∀ status, (∃ named, result = .error (.status named status)) ↔
      ∃ reply, network.ComesTo 10 n url reply ∧
        reply.status = status ∧ ¬ (200 ≤ reply.status ∧ reply.status ≤ 299)) ∧
    (∀ message, result = .error (.malformed message) ↔
      ∃ reply, network.ComesTo 10 n url reply ∧
        (200 ≤ reply.status ∧ reply.status ≤ 299) ∧ reply.isCutShort = false ∧
        ∃ fault, Feed.decode reply.body = .error fault ∧ fault.message = message) ∧
    (∀ calendar, result = .ok calendar ↔
      ∃ reply, network.ComesTo 10 n url reply ∧
        (200 ≤ reply.status ∧ reply.status ≤ 299) ∧ reply.isCutShort = false ∧
        Feed.decode reply.body = .ok calendar) ∧
    (∀ named cause, result = .error (.transport named cause) → named = client.endpoint) ∧
    (∀ named status, result = .error (.status named status) → named = client.endpoint) ∧
    ∃ followed, network.Follows 10 n url followed ∧
      (client.fetch network n).2 =
        n + followed + if network.answer (n + followed) = none then 0 else 1 := by
  intro url result
  have htarget : target client.endpoint = .ok url :=
    target_of_read read (Url.hasHost_of_read read web) sendable
  -- the four ways exclude each other, so each is read off the one in which the fetch has ended
  have hends : Ends client.endpoint network n url result := fetch_ends htarget
  simp only [← Reply.isSuccess_iff, Bool.not_eq_true]
  exact ⟨hends.transport_iff, hends.status_iff, hends.malformed_iff, hends.calendar_iff,
    fun _ _ h => Ends.named_of_transport (h ▸ hends), fun _ _ h => Ends.named_of_status (h ▸ hends),
    get_requests network client.timeoutSecs n htarget⟩

/-- Two redirects, one of them to another host, lead to a page that is not found. The feed in it does not
count, and neither does that it is cut short. -/
theorem fetch_ends_in_one_way_behind_redirects :
    let endpoint := "http://feed.test/bank-holidays.json"
    let client : Client := ⟨endpoint, 30, 5⟩
    let body := Text.utf8 "[[[]],[[]],[[]]]"
    let network : Network := .scripted [.reply { status := 302, location := some "/moved" },
      .reply { status := 307, location := some "http://other.test/feed" },
      .reply { status := 404, body := body, isCutShort := true }]
    Feed.decode body = .ok .empty ∧
      (client.fetch network 0).1.result = .error (.status endpoint 404) ∧
      (client.fetch network 0).2 = 3 := by
  intro endpoint client body network
  let first : Url := ⟨"http", "", "", some (.domain "feed.test"), none,
    .segments ["bank-holidays.json"], none, none⟩
  let second : Url := { first with path := .segments ["moved"] }
  let third : Url := { first with host := some (.domain "other.test"), path := .segments ["feed"] }
  let moved : Reply := { status := 302, location := some "/moved" }
  let elsewhere : Reply := { status := 307, location := some "http://other.test/feed" }
  let page : Reply := { status := 404, body := body, isCutShort := true }
  have hread : Url.read client.endpoint = .ok first := by decide +kernel
  have hsendable : isRequestable (requestUrl first) = true := by decide +kernel
  have hsame : requestUrl first = first := by decide +kernel
  have hmoved : network.Replies 0 first moved := ⟨by decide +kernel, rfl⟩
  have helsewhere : network.Replies 1 second elsewhere := ⟨by decide +kernel, rfl⟩
  have hsecond : moved.RefersTo first second := ⟨by decide, "/moved", rfl, by decide +kernel⟩
  have hrefers : elsewhere.RefersTo second third :=
    ⟨by decide, "http://other.test/feed", rfl, by decide +kernel⟩
  have hleads : network.Leads 0 first 2 third := .on hmoved hsecond (.on helsewhere hrefers .nowhere)
  have hthird : isRequestable third = true := by decide +kernel
  have hreplies : network.Replies (0 + 2) third page := ⟨hthird, rfl⟩
  have hlast : ∀ next, ¬ page.RefersTo third next := fun _ h =>
    absurd h.1 (show 404 ∉ [301, 302, 303, 307, 308] by decide)
  have hfollows : network.Follows 10 0 first 2 :=
    ⟨⟨by decide, third, hleads, hthird⟩,
      fun _ ⟨_, _, h, _⟩ => hleads.le_of_stops (hreplies.stops hlast) h⟩
  obtain ⟨-, hstatus, -, -, -, hnamed, followed, hfollowed, hrequests⟩ :=
    fetch_ends_in_one_way client network 0 hread (.inl rfl) hsendable
  rw [hsame] at hstatus hfollowed
  obtain ⟨named, hnamed'⟩ :=
    (hstatus 404).mpr ⟨page, ⟨2, third, by decide, hleads, hreplies, hlast⟩, rfl, by decide⟩
  obtain rfl : followed = 2 := hfollowed.unique hfollows
  refine ⟨by decide +kernel, ?_, hrequests⟩
  rw [hnamed', hnamed named 404 hnamed']

end Client
end Workday
