import Workday.Proofs.Calculator.Pace
import Workday.Proofs.Calculator.Script
import Workday.Proofs.Client.Reach

/-!
# A connected service is a scripted one

A service over a plain base URL whose servers reply, and refer to no other URL, does what a service
over a script does that gives for each reply what the reply means. The client asks once for each fetch,
so the number of a fetch is that of its reply, and the last reply is repeated just as the last entry of
the script is. From there on the cache is the same, and it does not matter how fast the two sessions
go if no calendar is kept, or the calendar is kept for longer than either lasts.
-/

set_option autoImplicit false

namespace Workday

open Cache (Store Clock Call)

/-- A reply that is the end of a request: it does not lead to another URL, and its body is complete. -/
structure Reply.IsFinal (r : Reply) : Prop where
  noRedirect (url : Url) : r.redirection? url = none
  complete : r.isCutShort = false

/-- What a reply from an endpoint means: no calendar if it is no success or its body is no feed. -/
def Reply.outcome (endpoint : String) (r : Reply) : Except FetchFailure Calendar :=
  if r.isSuccess then
    match Feed.decode r.body with
    | .ok calendar => .ok calendar
    | .error fault => .error (.malformed fault.message)
  else .error (.status endpoint r.status)

namespace Client

variable {c : Client} {network : Network} {endpoint : String} {r : Reply} {t : Url} {n : Nat}

/-- A reply that refers nowhere ends a chain with one request. -/
theorem follow_of_final (timeout : Nat) (first : Url) (left : Nat) (hfinal : r.IsFinal)
    (hanswer : network.answer n = some (.reply r)) :
    follow network timeout first left t n = ⟨.ok r, 0, n + 1⟩ := by
  unfold follow
  simp only [hanswer, hfinal.noRedirect]

/-- A reply that refers nowhere is judged and decoded as the script tells. -/
theorem judge_bind_decode (hfinal : r.IsFinal) :
    (judge endpoint r).bind decode = r.outcome endpoint := by
  unfold judge Reply.outcome
  cases hsuccess : r.isSuccess with
  | false => rfl
  | true =>
    simp only [hfinal.complete, Bool.not_true, Bool.false_eq_true, if_false, if_true, Except.bind,
      decode]
    cases Feed.decode r.body <;> rfl

/-- A fetch that gets a final reply takes one request and comes to what the reply means. -/
theorem fetch_of_final (ht : target c.endpoint = .ok t) (hfinal : r.IsFinal)
    (hanswer : network.answer n = some (.reply r)) :
    c.fetch network n = (⟨r.outcome c.endpoint, 0⟩, n + 1) := by
  simp only [fetch, get, ht, follow_of_final _ _ _ hfinal hanswer, judge_bind_decode hfinal]

end Client

/-- A script of replies answers every request, the later ones with its last entry. -/
theorem Network.scripted_answer {replies : List Reply} (hne : replies ≠ []) (n : Nat) :
    ∃ r, replies[min n (replies.length - 1)]? = some r ∧
      (Network.scripted (replies.map .reply)).answer n = some (.reply r) := by
  have hpos := List.length_pos_of_ne_nil hne
  have hlt : min n (replies.length - 1) < replies.length := by omega
  refine ⟨replies[min n (replies.length - 1)], List.getElem?_eq_getElem hlt, ?_⟩
  simp only [Network.scripted, List.length_map, List.getElem?_map, List.getElem?_eq_getElem hlt,
    Option.map_some]

/-- The n-th fetch of a script is what the n-th reply means. -/
theorem scriptSource_result_of_replies {replies : List Reply} {stubs : List Scripted}
    {endpoint : String} {r : Reply} {n : Nat}
    (hstubs : stubs.map Scripted.result = replies.map (Reply.outcome endpoint))
    (hr : replies[min n (replies.length - 1)]? = some r) :
    (scriptSource stubs n).1.result = r.outcome endpoint := by
  have hlength : stubs.length = replies.length := by
    simpa only [List.length_map] using congrArg List.length hstubs
  have hentry := congrArg (·[min n (replies.length - 1)]?) hstubs
  simp only [List.getElem?_map, hr, Option.map_some] at hentry
  obtain ⟨stub, hstub, hresult⟩ := Option.map_eq_some_iff.mp hentry
  rw [← hlength] at hstub
  simp only [scriptSource, hstub]
  exact hresult

/-- A client of final replies asks once for each fetch, and gets what the script has for it. -/
theorem Client.fetch_eq_script {c : Client} {replies : List Reply} {stubs : List Scripted} {t : Url}
    (hne : replies ≠ []) (hfinal : ∀ r ∈ replies, r.IsFinal)
    (hstubs : stubs.map Scripted.result = replies.map (Reply.outcome c.endpoint))
    (ht : target c.endpoint = .ok t) (n : Nat) :
    c.fetch (.scripted (replies.map .reply)) n = (⟨(scriptSource stubs n).1.result, 0⟩, n + 1) := by
  obtain ⟨r, hr, hanswer⟩ := Network.scripted_answer hne n
  rw [fetch_of_final ht (hfinal r (List.mem_of_getElem? hr)) hanswer,
    scriptSource_result_of_replies hstubs hr]

namespace Service

variable {s : Settings} {u : Url} {replies : List Workday.Reply} {stubs : List Scripted}
  {steps steps' : List Step}

/-- New services whose fetches come to the same, those of the second in no time. -/
theorem still_new {source source' : CalendarSource Nat} {ttl : Int} (today : Date)
    (probe probe' : Nat → (Option FetchFailure × Nat) × Nat) (clock clock' : Clock)
    (hcall : (⟨ttl, source⟩ : Call Nat FetchFailure Calendar).Untimed ⟨ttl, source'⟩) :
    Still clock.monotonic ⟨source, probe, ttl, today, .empty clock 0, [Calculator.new ttl]⟩
      ⟨source', probe', ttl, today, .empty clock' 0, [Calculator.new ttl]⟩ := by
  refine ⟨hcall, rfl, rfl, fun c hc => ?_, Store.standstill_empty clock clock' 0⟩
  rw [List.mem_singleton.mp hc]
  rfl

/-- The service that settings describe once they have passed the check. -/
theorem connected_of_check (hcheck : s.check = .ok ()) (network : Network) (today : Date)
    (clock : Clock) :
    let client := Client.ofSettings s.feed
    let ttl : Nat := s.feed.ttlSecs * 1000
    Service.connected s.feed network today clock =
      .ok ⟨client.fetch network, client.probe network, ttl, today, .empty clock 0,
        [Calculator.new ttl]⟩ := by
  simp only [Service.connected, Settings.ttl_of_check hcheck]
  rfl

/-- A service over settings that pass the check and a plain base URL, whose servers make final
replies, gives every answer, every failure and every count of fetches that a service over a script gives,
where the entry of a fetch is what the reply of its number means, if both sessions have the same steps
other than probes, whatever time passes between the steps and in the fetches of the script, and the
time to live is nothing or longer than the sessions last. A fetch is always one request. A query is
answered from the calendar that a step replies with. -/
theorem connected_refines_scripted (today : Date) (clock clock' : Clock) (hcheck : s.check = .ok ())
    (hplain : Client.IsPlain s.feed.url u) (hne : replies ≠ []) (hfinal : ∀ r ∈ replies, r.IsFinal)
    (hstubs : stubs.map Scripted.result =
      replies.map (Workday.Reply.outcome (Client.ofSettings s.feed).endpoint))
    (hsteps : untimed steps = untimed steps') (hhealth : .health ∉ steps) :
    ∃ service : Service Nat,
      Service.connected s.feed (.scripted (replies.map .reply)) today clock = .ok service ∧
      (∀ n, (service.source n).2 = n + 1) ∧
      (∀ k, (service.after (steps.take k)).store.source =
        (service.after (steps.take k)).store.fetches) ∧
      let ttl := s.feed.ttlSecs * 1000
      let stub := Service.scripted stubs ttl .englandAndWales today clock'
      (ttl = 0 ∨ service.lasts steps < ttl ∧ stub.lasts steps' < ttl) →
        service.shown steps = stub.shown steps' := by
  let client := Client.ofSettings s.feed
  let network := Network.scripted (replies.map .reply)
  let ttl : Nat := s.feed.ttlSecs * 1000
  let service : Service Nat := ⟨client.fetch network, client.probe network, ttl, today,
    .empty clock 0, [Calculator.new ttl]⟩
  have hconnected : Service.connected s.feed network today clock = .ok service :=
    connected_of_check hcheck network today clock
  obtain ⟨t, ht⟩ := hplain.exists_target
  have hfetch := Client.fetch_eq_script hne hfinal hstubs ht
  have hsource : ∀ n, (client.fetch network n).2 = n + 1 := by
    intro n
    rw [hfetch]
  have hresult : ∀ n, (client.fetch network n).1.result = (scriptSource stubs n).1.result := by
    intro n
    rw [hfetch]
  have hdelay : ∀ n, (client.fetch network n).1.delay = 0 := by
    intro n
    rw [hfetch]
  have htaken : ∀ k, .health ∉ steps.take k := fun k h => hhealth (List.mem_of_mem_take h)
  refine ⟨service, hconnected, hsource,
    fun k => after_source_eq_fetches hsource rfl (htaken k), ?_⟩
  intro ttl' stub hlasts
  have hin : (service.after steps).store.InTime clock.monotonic service.ttl :=
    inTime_of_lasts (s := service) (by
      show (ttl : Int) = 0 ∨ (service.lasts steps : Int) < (ttl : Int)
      omega)
  have hin' : (stub.after steps').store.InTime clock'.monotonic stub.ttl :=
    inTime_of_lasts (s := stub) (by
      show (ttl : Int) = 0 ∨ (stub.lasts steps' : Int) < (ttl : Int)
      omega)
  -- both are compared with the connected service in a session in which no time passes
  have hstill : Still clock.monotonic service service :=
    still_new today _ _ clock clock ⟨rfl, fun _ => rfl, fun _ => rfl, hdelay⟩
  have hstill' : Still clock'.monotonic stub service :=
    still_new today _ _ clock' clock ⟨rfl, hresult,
      fun n => (hsource n).trans (scriptSource_source stubs n).symm, hdelay⟩
  exact shown_eq_of_still hstill hstill' hsteps hhealth hin hin'

/-- Two calls that overlap fail each for a reason of its own, a third fetch succeeds, and once its
calendar is dropped the last reply is repeated. The connected session takes its time between the steps,
the scripted one in its fetches. -/
theorem connected_refines_scripted_through_failures :
    let newYear : Date := ⟨738886, by decide, by decide⟩
    let s : Settings := { feed := { url := "http://feed.test:8080/uk/", ttlSecs := 1 } }
    let endpoint := "http://feed.test:8080/uk/bank-holidays.json"
    let bytes (text : String) := text.toList.map fun c => UInt8.ofNat c.toNat
    let holiday := "[[[[\"New Year\",\"2024-01-01\"]]],[[]],[[]]]"
    let calendar : Calendar := ⟨[⟨"New Year", newYear, "", false⟩], [], []⟩
    let replies : List Workday.Reply :=
      [{ status := 503 }, { status := 200, body := bytes "x" }, { status := 200, body := bytes holiday }]
    let status := FetchFailure.status endpoint 503
    let malformed := FetchFailure.malformed "expected value at line 1 column 1"
    let stubs : List Scripted := [⟨.error status, 100⟩, ⟨.error malformed, 200⟩, ⟨.ok calendar, 300⟩]
    let together : List (Nat × Question) := [(0, .isWorkingDay newYear), (0, .deadline 1 newYear)]
    let steps : List Step := [.askTogether together, .advance 500, .withRegion .scotland,
      .ask 1 (.isWorkingDay newYear), .advance 499, .calendar, .invalidate, .calendar]
    let steps' : List Step := [.askTogether together, .withRegion .scotland,
      .ask 1 (.isWorkingDay newYear), .calendar, .invalidate, .calendar]
    let stub := Service.scripted stubs (s.feed.ttlSecs * 1000 : Nat) .englandAndWales newYear ⟨7, 0⟩
    ∃ service : Service Nat,
      Service.connected s.feed (.scripted (replies.map .reply)) newYear ⟨0, 0⟩ = .ok service ∧
      service.shown steps = stub.shown steps' ∧
      ((stub.shown steps').map fun x => (x.1.given, x.2)) =
        [([.error (.noCalendar status), .error (.noCalendar malformed)], 2), ([], 2),
          ([.ok (.working true)], 3), ([], 3), ([], 3), ([], 4)] := by
  intro newYear s endpoint bytes holiday calendar replies status malformed stubs together steps steps' stub
  let u : Url :=
    ⟨"http", "", "", some (.domain "feed.test"), some 8080, .segments ["uk", ""], none, none⟩
  have hplain : Client.IsPlain s.feed.url u := by
    constructor <;> decide +kernel
  have hfinal : ∀ r ∈ replies, r.IsFinal := by
    intro r hr
    refine ⟨fun url => ?_, ?_⟩
    all_goals
      simp only [replies, List.mem_cons, List.not_mem_nil, or_false] at hr
      rcases hr with rfl | rfl | rfl <;> rfl
  have hstubs : stubs.map Scripted.result =
      replies.map (Workday.Reply.outcome (Client.ofSettings s.feed).endpoint) := by
    decide +kernel
  have hcheck : s.check = .ok () := by decide +kernel
  obtain ⟨service, hconnected, -, -, hshown⟩ := connected_refines_scripted newYear ⟨0, 0⟩ ⟨7, 0⟩
    hcheck hplain (List.cons_ne_nil _ _) hfinal hstubs
    (show untimed steps = untimed steps' from rfl) (by decide)
  refine ⟨service, hconnected, hshown (Or.inr ?_), by decide +kernel⟩
  rw [Except.ok.inj (hconnected.symm.trans (connected_of_check hcheck _ newYear ⟨0, 0⟩))]
  decide +kernel

end Service

end Workday
