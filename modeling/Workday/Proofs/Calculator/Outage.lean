import Workday.Proofs.Cache.Room.Turns
import Workday.Proofs.Calculator.Pace
import Workday.Proofs.Calculator.Traceless

/-!
# A service whose source is down

Every fetch fails after some time, and a probe after a time of its own. Nothing is stored, so once no
fresh calendar is held none will be (`CutOff`), and every question that needs one fetches for itself.
Questions that are asked together do so one after the other. Those that need no calendar are put while
no time has passed since the first of the batch.
-/

set_option autoImplicit false

namespace Workday

open Cache (Call Room Store outage turns)

namespace Service

variable {s : Service Nat} {failure : FetchFailure} {wait probeWait : Nat}

/-- The source is down, its probe fails too, and no calendar is held that is fresh for any calculator. -/
structure CutOff (s : Service Nat) (failure : FetchFailure) (wait probeWait : Nat) : Prop where
  source_eq : s.source = outage failure wait
  probe_eq : s.probe = fun n => ((some failure, probeWait), n + 1)
  sameTtl (c : Calculator) (h : c ∈ s.calculators) : c.ttl = s.ttl
  stale : s.store.IsStale s.ttl

namespace CutOff

/-- A service stays cut off as long as its store holds nothing fresh. -/
theorem withStore (h : s.CutOff failure wait probeWait) {store : CalendarStore Nat}
    (hstore : store.IsStale s.ttl) : (s.withStore store).CutOff failure wait probeWait :=
  ⟨h.source_eq, h.probe_eq, h.sameTtl, hstore⟩

/-- Another handle with the same time to live leaves a service cut off. -/
theorem addCalculator (h : s.CutOff failure wait probeWait) {c : Calculator} (hc : c.ttl = s.ttl) :
    (s.addCalculator c).2.CutOff failure wait probeWait := by
  refine ⟨h.source_eq, h.probe_eq, fun d hd => ?_, h.stale⟩
  rcases List.mem_append.mp hd with hd | hd
  · exact h.sameTtl d hd
  · rw [List.mem_singleton.mp hd]
    exact hc

/-! ## Steps -/

/-- A service that is cut off fetches, waits and fails. -/
theorem getCalendar_eq (h : s.CutOff failure wait probeWait) :
    s.getCalendar = (.error failure, s.store.outlasted wait 1) := by
  rw [getCalendar, h.source_eq, Store.get_outage h.stale]

/-- A call for the calendar fails when the wait is over. -/
theorem step_calendar (h : s.CutOff failure wait probeWait) :
    s.step .calendar =
      (.calendar (.error failure), s.withStore (s.store.outlasted wait 1)) := by
  rw [step, h.getCalendar_eq]
  rfl

/-- A probe waits for as long as a probe may, and finds the source down. -/
theorem step_health (h : s.CutOff failure wait probeWait) :
    s.step .health = (.health (some failure), s.withStore
      ({ s.store with source := s.store.source + 1 }.advance probeWait)) := by
  rw [step, h.probe_eq]

/-- The calculator that is asked fetches, and fails. -/
theorem step_ask (h : s.CutOff failure wait probeWait) {i : Nat} {q : Question}
    (hneeds : q.needsCalendar = true) :
    s.step (.ask i q) =
      (.verdict (.error (.noCalendar failure)), s.withStore (s.store.outlasted wait 1)) := by
  have hsettle : (s.calculator i).settle s.today q = none := Calculator.settle_eq_none_iff.mpr hneeds
  have hcall : (s.calculator i).call s.source = ⟨s.ttl, outage failure wait⟩ := by
    rw [Calculator.call, calculator_ttl h.sameTtl, h.source_eq]
  simp only [step, Calculator.ask, hsettle, hcall, Store.get_outage h.stale]
  rfl

/-- The calls of a batch are all the same. -/
theorem callsOf_eq (h : s.CutOff failure wait probeWait) (asked : List (Nat × Question)) :
    Calculator.callsOf s.source s.today (s.assigned asked) =
      Room.downCalls s.ttl failure wait (Calculator.callsAmong asked) := by
  refine List.eq_replicate_iff.mpr ⟨?_, fun call hcall => ?_⟩
  · rw [Calculator.length_callsOf, callsAmong_assigned]
  · obtain ⟨x, hx, rfl⟩ := List.mem_map.mp hcall
    obtain ⟨y, -, rfl⟩ := List.mem_map.mp (List.mem_filter.mp hx).1
    show (s.calculator y.1).call s.source = _
    rw [Calculator.call, calculator_ttl h.sameTtl, h.source_eq]

end CutOff

/-- When some questions of a batch have been put, the calls of those that need the calendar have
arrived. -/
theorem desk_room (s : Service Nat) (asked : List (Nat × Question)) (p : Nat) :
    (s.desk asked p).room =
      Room.arrivals s.store (Calculator.callsOf s.source s.today (s.assigned asked))
        (Calculator.callsBefore asked p) := by
  rw [desk, Calculator.Desk.before, Calculator.Desk.foldl_put_room, Room.arrivals,
    List.range_eq_range', ← Calculator.callsBefore_map s.calculator asked]
  rfl

/-- A question of a batch that needs no calendar is put, and settled, while no time has passed since the
batch began. -/
theorem given_at_once {asked : List (Nat × Question)} {p i : Nat} {q : Question}
    (hp : asked[p]? = some (i, q)) (hfree : q.needsCalendar = false) :
    ∃ verdict, (s.calculator i).settle s.today q = some verdict ∧
      (s.step (.askTogether asked)).1.given[p]? = some verdict ∧
      let d := s.desk asked p
      d.room.store.clock = s.store.clock ∧
        s.desk asked (p + 1) = { d with settled := d.settled ++ [some verdict] } := by
  obtain ⟨verdict, hsettle⟩ :=
    Calculator.settle_of_not_needsCalendar (s.calculator i) s.today hfree
  have hput : s.desk asked (p + 1) = (s.desk asked p).put s.today (s.calculator i, q) :=
    Calculator.Desk.before_succ (s.assigned_getElem? hp)
  refine ⟨verdict, hsettle, given_of_settled hp hsettle, ?_, ?_⟩
  · rw [desk_room, Room.arrivals_clock]
  · rw [hput, Calculator.Desk.put_of_settled hsettle]

namespace CutOff

/-- A batch is served in turn. The questions that need the calendar make the calls, the calls take their
turns in the room, and their answers go back to the questions. -/
theorem step_askTogether (h : s.CutOff failure wait probeWait) (hwait : 0 < wait)
    (asked : List (Nat × Question)) :
    let m := Calculator.callsAmong asked
    let room := Room.opened s.store (Calculator.callsOf s.source s.today (s.assigned asked))
    let r := Room.drain (2 * m) (s.desk asked asked.length).room
    s.step (.askTogether asked) = (.verdicts (Calculator.merge s.today (s.assigned asked) r.answers),
        s.withStore (s.store.outlasted wait m)) ∧
      r.answers = List.replicate m (.error failure) ∧
      ∃ moves, room.run moves = some r ∧
        room.timeline moves = turns s.store.clock.monotonic wait failure m := by
  intro m room r
  have hroom : (s.desk asked asked.length).room =
      Room.arrivals s.store (Room.downCalls s.ttl failure wait m) m := by
    rw [desk_room, h.callsOf_eq, Calculator.callsBefore, List.take_length]
  obtain ⟨moves, hrun, htimeline, hanswers, hstore⟩ :=
    Room.drain_outage s.store s.ttl failure m h.stale hwait
  rw [← hroom] at hrun hanswers hstore
  have hstep := s.step_askTogether asked
  have hdown : room = Room.opened s.store (Room.downCalls s.ttl failure wait m) :=
    congrArg (Room.opened s.store) (h.callsOf_eq asked)
  refine ⟨?_, hanswers, moves, hdown ▸ hrun, hdown ▸ htimeline⟩
  rw [hstep, hstore]

/-- Every question of a batch that needs the calendar fails. The answers of the calls are all alike, so
it does not matter which of them a question is given. -/
theorem given_eq (h : s.CutOff failure wait probeWait) (hwait : 0 < wait)
    {asked : List (Nat × Question)} {p i : Nat} {q : Question} (hp : asked[p]? = some (i, q))
    (hneeds : q.needsCalendar = true) :
    (s.step (.askTogether asked)).1.given[p]? = some (.error (.noCalendar failure)) := by
  obtain ⟨hstep, hanswers, -⟩ := h.step_askTogether hwait asked
  let answers : List (Except FetchFailure (Cache.Served Calendar)) :=
    List.replicate (Calculator.callsAmong asked) (.error failure)
  have hlength : answers.length = Calculator.callsAmong (s.assigned asked) := by
    rw [List.length_replicate, callsAmong_assigned]
  obtain ⟨verdict, hverdict, hsettled | ⟨-, answer, hanswer, rfl⟩⟩ :
      ∃ verdict, (Calculator.merge s.today (s.assigned asked) answers)[p]? = some verdict ∧ _ :=
    Calculator.merge_getElem? hlength (s.assigned_getElem? hp)
  · cases hsettled.symm.trans (Calculator.settle_eq_none_iff.mpr hneeds)
  · rw [List.eq_of_mem_replicate (List.mem_of_getElem? hanswer)] at hverdict
    rw [hstep, hanswers]
    exact hverdict

/-- What a step leaves is cut off as well: an entry that is too old does not get younger, and nothing
new is stored while fetches fail. -/
theorem step (h : s.CutOff failure wait probeWait) (hwait : 0 < wait) (next : Step) :
    (s.step next).2.CutOff failure wait probeWait := by
  cases next with
  | ask i q =>
    cases hneeds : q.needsCalendar with
    | true =>
      rw [h.step_ask hneeds]
      exact h.withStore h.stale.outlasted
    | false =>
      obtain ⟨verdict, hsettle⟩ :=
        Calculator.settle_of_not_needsCalendar (s.calculator i) s.today hneeds
      rw [step_ask_of_settled hsettle]
      exact h
  | askTogether asked =>
    rw [(h.step_askTogether hwait asked).1]
    exact h.withStore h.stale.outlasted
  | calendar =>
    rw [h.step_calendar]
    exact h.withStore h.stale.outlasted
  | health =>
    rw [h.step_health]
    exact h.withStore (h.stale.mono rfl (Nat.le_add_right _ _))
  | invalidate =>
    refine h.withStore fun entry hentry => ?_
    cases hentry
  | advance ms => exact h.withStore (h.stale.mono rfl (Nat.le_add_right _ _))
  | clone i => exact h.addCalculator (calculator_ttl h.sameTtl i)
  | withRegion region => exact h.addCalculator rfl

/-- A service that is cut off stays so, whatever is asked of it. -/
theorem after (h : s.CutOff failure wait probeWait) (hwait : 0 < wait) (steps : List Step) :
    (s.after steps).CutOff failure wait probeWait := by
  induction steps generalizing s with
  | nil => exact h
  | cons next steps ih => exact ih (h.step hwait next)

end CutOff

end Service

end Workday
