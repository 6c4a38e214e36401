import Workday.Proofs.Calculator.Snapshot

/-!
# Questions that leave no trace

A question that needs no calendar is settled by the calculator alone. Nothing of the shared store
enters its verdict, and nothing is changed by it: it makes no call, so it is not in line for the
refresh lock and waits for nobody. Two things are said of this.

* Questions that are asked together are put one after the other (`Desk`), and each of them finds the
  calls of those before it under way, a fetch of one of them included. Put in such a state, a
  question that needs no calendar gets its verdict there and then, and the room of the calls stays
  as it is (`Desk.put_of_settled`). `askTogether_eq_drain` ties the desk to `askTogether`.
* Leaving such questions out of a session, alone or out of a batch, leaves out their verdicts and
  changes nothing else: no other verdict, and no state after any step (`run_leaving`).
-/

set_option autoImplicit false

namespace Workday

open Cache (Room Served)

/-! ## Verdicts without the calendar -/

namespace Calculator

variable {σ : Type} {c : Calculator} {today : Date} {q : Question}

/-- A deadline is settled by its count and its start, whichever way it is asked for. -/
theorem settle_of_steps? {n : Int} {start : Date} (h : q.steps? today = some (n, start)) :
    c.settle today q = settleDeadline n start := by
  cases q with
  | deadline n' start' =>
    cases h
    rfl
  | deadlineFromToday n' =>
    cases h
    rfl
  | isWorkingDay _ | region => cases h

/-- Of no steps the date is the start, and a count that cannot be stepped is reported. -/
theorem settled_steps {n : Int} {start : Date} {verdict : Verdict}
    (hasked : q.steps? today = some (n, start)) (hsettle : c.settle today q = some verdict) :
    (n = 0 → verdict = .ok (.date start)) ∧
      (n < 0 ∨ maxCount < n → verdict = .error (.invalidCount n)) := by
  rw [settle_of_steps? hasked] at hsettle
  refine ⟨fun hzero => ?_, fun hinvalid => ?_⟩
  · subst hzero
    exact (Option.some.inj hsettle).symm
  · rw [settleDeadline, if_pos hinvalid] at hsettle
    exact (Option.some.inj hsettle).symm

/-- A question that is settled without a calendar leaves the store alone. -/
theorem ask_of_settled {verdict : Verdict} (source : CalendarSource σ) (s : CalendarStore σ)
    (h : c.settle today q = some verdict) : c.ask source today s q = (verdict, s) := by
  simp only [ask, h]

/-! ## Questions put in turn -/

/-- Questions that are being put one after the other: the room of their calls for the calendar, how
many calls have arrived there, and the verdict of each question that was settled when it was put. -/
structure Desk (σ : Type) where
  room : Room σ FetchFailure Calendar
  called : Nat
  settled : List (Option Verdict)

namespace Desk

/-- The desk before the first of some questions. -/
def opened (source : CalendarSource σ) (today : Date) (s : CalendarStore σ)
    (asked : List (Calculator × Question)) : Desk σ :=
  ⟨Room.opened s (callsOf source today asked), 0, []⟩

/-- Puts one question: it is settled, or its call arrives in the room. -/
def put (today : Date) (d : Desk σ) (x : Calculator × Question) : Desk σ :=
  match x.1.settle today x.2 with
  | some verdict => { d with settled := d.settled ++ [some verdict] }
  | none => ⟨d.room.welcome d.called, d.called + 1, d.settled ++ [none]⟩

/-- The desk when the first `p` of some questions have been put. -/
def before (source : CalendarSource σ) (today : Date) (s : CalendarStore σ)
    (asked : List (Calculator × Question)) (p : Nat) : Desk σ :=
  (asked.take p).foldl (put today) (opened source today s asked)

variable {source : CalendarSource σ} {s : CalendarStore σ} {d : Desk σ}
  {asked : List (Calculator × Question)} {p : Nat} {verdict : Verdict}

/-- A question that is settled leaves the room as it is. -/
theorem put_of_settled (h : c.settle today q = some verdict) :
    d.put today (c, q) = { d with settled := d.settled ++ [some verdict] } := by
  simp only [put, h]

/-- Before the next question of a batch stands what the one before it has left. -/
theorem before_succ (hp : asked[p]? = some (c, q)) :
    before source today s asked (p + 1) = (before source today s asked p).put today (c, q) := by
  rw [before, List.take_add_one, hp]
  simp only [Option.toList_some, List.foldl_append, List.foldl_cons, List.foldl_nil, before]

/-- The calls arrive in the order of the questions that need the calendar. The others leave the room as
it is, so the calls are numbered without a gap. -/
theorem foldl_put_room (today : Date) (asked : List (Calculator × Question)) (d : Desk σ) :
    (asked.foldl (put today) d).room =
      (List.range' d.called (callsAmong asked)).foldl Room.welcome d.room := by
  induction asked generalizing d with
  | nil => rfl
  | cons x asked ih =>
    rw [List.foldl_cons, ih, callsAmong_cons]
    cases hneeds : x.2.needsCalendar with
    | false =>
      obtain ⟨verdict, hsettle⟩ := settle_of_not_needsCalendar x.1 today hneeds
      rw [put_of_settled hsettle]
      rfl
    | true =>
      have hsettle : x.1.settle today x.2 = none := settle_eq_none_iff.mpr hneeds
      simp only [put, hsettle, if_true, List.range'_succ, List.foldl_cons]

end Desk

/-- Questions that are asked together are put one after the other, and then all that wait are
served. -/
theorem askTogether_eq_drain (source : CalendarSource σ) (today : Date) (s : CalendarStore σ)
    (asked : List (Calculator × Question)) :
    let put := Desk.before source today s asked asked.length
    let served := Room.drain (2 * callsAmong asked) put.room
    askTogether source today s asked = (merge today asked served.answers, served.store) := by
  intro put served
  have hroom : put.room = (List.range (callsAmong asked)).foldl Room.welcome
      (Room.opened s (callsOf source today asked)) := by
    simp only [put, Desk.before, List.take_length, Desk.foldl_put_room, List.range_eq_range']
    rfl
  have hbatch : s.batch (callsOf source today asked) = (served.answers, served.store) := by
    simp only [Cache.Store.batch, length_callsOf, served, hroom]
  rw [askTogether]
  exact congrArg (fun x => (merge today asked x.1, x.2)) hbatch

end Calculator

/-! ## Leaving questions out -/

/-- The items of a list but for those at some places. -/
def leaving {α : Type} (out : Nat → Bool) : List α → List α
  | [] => []
  | x :: xs =>
    if out 0 then leaving (fun p => out (p + 1)) xs else x :: leaving (fun p => out (p + 1)) xs

section Leaving

variable {α β : Type} {out : Nat → Bool}

/-- Leaving out places and changing what stands at the others may be done in either order. -/
theorem leaving_map (f : α → β) (xs : List α) : leaving out (xs.map f) = (leaving out xs).map f := by
  induction xs generalizing out with
  | nil => rfl
  | cons x xs ih =>
    simp only [List.map_cons, leaving, ih]
    cases out 0 <;> rfl

/-- What is left out and would not have been kept by a filter is not missed by it. -/
theorem filter_leaving {keep : α → Bool} {xs : List α}
    (h : ∀ p x, xs[p]? = some x → out p = true → keep x = false) :
    (leaving out xs).filter keep = xs.filter keep := by
  induction xs generalizing out with
  | nil => rfl
  | cons x xs ih =>
    have hrest : (leaving (fun p => out (p + 1)) xs).filter keep = xs.filter keep :=
      ih fun p y hy => h (p + 1) y hy
    rw [leaving]
    cases hout : out 0 with
    | false => simp only [Bool.false_eq_true, if_false, List.filter_cons, hrest]
    | true =>
      have hx := h 0 x rfl hout
      simp only [if_true, List.filter_cons, hx, Bool.false_eq_true, if_false, hrest]

end Leaving

namespace Calculator

variable {σ : Type} {today : Date} {out : Nat → Bool} {asked : List (Calculator × Question)}
  {answers : List (Except FetchFailure (Served Calendar))}

/-- Which of some questions are left out: only such as need no calendar. -/
def LeavesFree {ι : Type} (out : Nat → Bool) (asked : List (ι × Question)) : Prop :=
  ∀ p x, asked[p]? = some x → out p = true → x.2.needsCalendar = false

/-- What leaves out only free questions does so among the later ones. -/
theorem LeavesFree.tail {ι : Type} {x : ι × Question} {asked : List (ι × Question)}
    (h : LeavesFree out (x :: asked)) : LeavesFree (fun p => out (p + 1)) asked :=
  fun p y hy => h (p + 1) y hy

/-- Whether a question is free does not depend on which handle is asked. -/
theorem LeavesFree.map {ι κ : Type} {f : ι → κ} {asked : List (ι × Question)}
    (h : LeavesFree out asked) : LeavesFree out (asked.map fun x => (f x.1, x.2)) := by
  intro p y hy hout
  rw [List.getElem?_map] at hy
  obtain ⟨x, hx, rfl⟩ := Option.map_eq_some_iff.mp hy
  exact h p x hx hout

/-- A batch makes the same calls without its free questions. -/
theorem callsOf_leaving (source : CalendarSource σ) (h : LeavesFree out asked) :
    callsOf source today (leaving out asked) = callsOf source today asked := by
  unfold callsOf
  rw [filter_leaving]
  intro p x hx hout
  exact (settle_isNone x.1 today x.2).trans (h p x hx hout)

/-- The verdicts of the questions that are left are those that they get among all. A question that is
left out takes no answer, so every other question takes the same one. -/
theorem merge_leaving (hlength : answers.length = callsAmong asked) (h : LeavesFree out asked) :
    merge today (leaving out asked) answers = leaving out (merge today asked answers) := by
  induction asked generalizing out answers with
  | nil => rfl
  | cons x asked ih =>
    obtain ⟨c, q⟩ := x
    rcases @merge_cons c today q asked answers hlength with ⟨verdict, hsettle, hneeds, hrest, hmerge⟩ |
      ⟨answer, rest, rfl, hsettle, hneeds, hrest, hmerge⟩
    · rw [hmerge, leaving, leaving, ← ih hrest h.tail]
      cases out 0 with
      | true => rfl
      | false => simp only [Bool.false_eq_true, if_false, merge, hsettle]
    · have hkept : out 0 = false := by
        cases hout : out 0 with
        | false => rfl
        | true => exact hneeds.symm.trans (h 0 _ rfl hout)
      rw [hmerge, leaving, leaving, ← ih hrest h.tail, hkept]
      simp only [Bool.false_eq_true, if_false, merge, hsettle]

/-- Of questions asked together some that need no calendar are left out: the others get the verdicts
that they would get, and the store comes to the same state. -/
theorem askTogether_leaving (source : CalendarSource σ) (s : CalendarStore σ)
    (h : LeavesFree out asked) :
    askTogether source today s (leaving out asked) =
      (leaving out (askTogether source today s asked).1,
        (askTogether source today s asked).2) := by
  have hcalls : callsOf source today (leaving out asked) = callsOf source today asked :=
    callsOf_leaving source h
  have hlength : (s.batch (callsOf source today asked)).1.length = callsAmong asked :=
    (s.length_batch _).trans (length_callsOf source today asked)
  have hmerge : merge today (leaving out asked) _ = leaving out (merge today asked _) :=
    merge_leaving hlength h
  unfold callsOf at hcalls hmerge
  simp only [askTogether, hcalls, hmerge]

end Calculator

namespace Service

variable {σ : Type} {s : Service σ}

/-- A step without the questions at some places. A question that is asked alone goes with its
step. -/
def Step.leaving (out : Nat → Bool) : Step → Option Step
  | .ask i question => if out 0 then none else some (.ask i question)
  | .askTogether asked => some (.askTogether (Workday.leaving out asked))
  | step => some step

/-- A reply without the verdicts at some places. -/
def Reply.leaving (out : Nat → Bool) : Reply → Reply
  | .verdicts vs => .verdicts (Workday.leaving out vs)
  | reply => reply

/-- The steps of a session without some questions, each known by the number of its step and its
place there. -/
def stepsLeaving (out : Nat → Nat → Bool) : List Step → List Step
  | [] => []
  | step :: steps => (step.leaving (out 0)).toList ++ stepsLeaving (fun k => out (k + 1)) steps

/-- What a session shows, without the verdicts on some questions. -/
def repliesLeaving (out : Nat → Nat → Bool) :
    List Step → List (Reply × Service σ) → List (Reply × Service σ)
  | step :: steps, (reply, s) :: shown =>
    let rest := repliesLeaving (fun k => out (k + 1)) steps shown
    if (step.leaving (out 0)).isSome then (reply.leaving (out 0), s) :: rest else rest
  | _, _ => []

/-- A question that is settled at once leaves the service alone. -/
theorem step_ask_of_settled {i : Nat} {q : Question} {verdict : Verdict}
    (h : (s.calculator i).settle s.today q = some verdict) :
    s.step (.ask i q) = (.verdict verdict, s) := by
  simp only [Service.step, Calculator.ask_of_settled s.source s.store h]
  rfl

/-- A step goes the same way without questions that need no calendar. A step that asks nothing else is
left out as a whole, and the service is as if it had not been taken. -/
theorem step_leaving {out : Nat → Bool} {step : Step}
    (h : Calculator.LeavesFree out step.questions) :
    (step.leaving out = none ∧ (s.step step).2 = s) ∨
      ∃ left, step.leaving out = some left ∧
        s.step left = ((s.step step).1.leaving out, (s.step step).2) := by
  cases step with
  | ask i q =>
    cases hout : out 0 with
    | false => exact Or.inr ⟨.ask i q, by simp only [Step.leaving, hout]; rfl, rfl⟩
    | true =>
      obtain ⟨verdict, hsettle⟩ :=
        Calculator.settle_of_not_needsCalendar (s.calculator i) s.today (h 0 _ rfl hout)
      refine Or.inl ⟨by simp only [Step.leaving, hout, if_true], ?_⟩
      rw [step_ask_of_settled hsettle]
  | askTogether asked =>
    refine Or.inr ⟨.askTogether (leaving out asked), rfl, ?_⟩
    have htogether := @Calculator.askTogether_leaving σ s.today out
      (asked.map fun x => (s.calculator x.1, x.2)) s.source s.store h.map
    rw [leaving_map] at htogether
    exact congrArg (fun x => (Reply.verdicts x.1, s.withStore x.2)) htogether
  | calendar | health | invalidate | advance _ | clone _ | withRegion _ =>
    exact Or.inr ⟨_, rfl, rfl⟩

/-- A session goes the same way without questions that need no calendar: the replies are the same
without the verdicts of these questions. -/
theorem run_leaving {out : Nat → Nat → Bool} {steps : List Step}
    (h : ∀ k step, steps[k]? = some step → Calculator.LeavesFree (out k) step.questions) :
    s.run (stepsLeaving out steps) = repliesLeaving out steps (s.run steps) := by
  induction steps generalizing s out with
  | nil => rfl
  | cons step steps ih =>
    have hrest := @ih (s.step step).2 (fun k => out (k + 1)) fun k => h (k + 1)
    rcases s.step_leaving (h 0 step rfl) with ⟨hnone, hsame⟩ | ⟨left, hleft, hstep⟩
    · rw [hsame] at hrest
      simp only [stepsLeaving, run, repliesLeaving, hnone, hsame]
      exact hrest
    · simp only [stepsLeaving, run, repliesLeaving, hleft, ← hrest, Option.toList_some,
        List.singleton_append, hstep]
      rfl

/-- The questions of a batch, each with the calculator that it is put to. -/
def assigned (s : Service σ) (asked : List (Nat × Question)) : List (Calculator × Question) :=
  asked.map fun (i, question) => (s.calculator i, question)

/-- The desk of a batch when its first `p` questions have been put. -/
def desk (s : Service σ) (asked : List (Nat × Question)) (p : Nat) : Calculator.Desk σ :=
  Calculator.Desk.before s.source s.today s.store (s.assigned asked) p

/-- Which handle is asked does not change how many calls there are. -/
theorem callsAmong_assigned (asked : List (Nat × Question)) :
    Calculator.callsAmong (s.assigned asked) = Calculator.callsAmong asked := by
  rw [Calculator.callsAmong, assigned, List.countP_map]
  rfl

/-- A question of a batch goes to the handle it names. -/
theorem assigned_getElem? {asked : List (Nat × Question)} {p i : Nat} {q : Question}
    (hp : asked[p]? = some (i, q)) : (s.assigned asked)[p]? = some (s.calculator i, q) := by
  rw [assigned, List.getElem?_map, hp, Option.map_some]

/-- The questions of a batch are put one after the other, and then all that wait are served. -/
theorem step_askTogether (asked : List (Nat × Question)) :
    let served := Room.drain (2 * Calculator.callsAmong asked) (s.desk asked asked.length).room
    s.step (.askTogether asked) =
      (.verdicts (Calculator.merge s.today (s.assigned asked) served.answers),
        s.withStore served.store) := by
  intro served
  have hdrain := Calculator.askTogether_eq_drain s.source s.today s.store (s.assigned asked)
  have hlength : (s.assigned asked).length = asked.length := List.length_map _
  rw [callsAmong_assigned, hlength] at hdrain
  exact congrArg (fun x => (Reply.verdicts x.1, s.withStore x.2)) hdrain

/-- A question that needs no calendar gets, in any step, the verdict that it is settled with. -/
theorem given_of_settled {step : Step} {p i : Nat} {q : Question} {verdict : Verdict}
    (hp : step.questions[p]? = some (i, q))
    (hsettle : (s.calculator i).settle s.today q = some verdict) :
    (s.step step).1.given[p]? = some verdict := by
  cases step with
  | ask i' q' =>
    cases p with
    | succ p => cases hp
    | zero =>
      cases hp
      rw [step_ask_of_settled hsettle]
      rfl
  | askTogether asked =>
    obtain ⟨verdict', hgiven, hsettled | ⟨hwaits, _⟩⟩ :=
      Calculator.askTogether_getElem? s.source s.today s.store (s.assigned_getElem? hp)
    · cases hsettle.symm.trans hsettled
      exact hgiven
    · cases hsettle.symm.trans hwaits
  | calendar | health | invalidate | advance _ | clone _ | withRegion _ => cases hp

/-- A question that needs no calendar leaves no trace in a session, whatever the source gives,
whatever the cache holds, and whoever else asks at the same time. With a count of zero its verdict
is the start, and a count that cannot be stepped is reported. That is its verdict over every source
and every store, and the store stays as it is. In a batch it gets it when it is put, whichever
calls are under way then, and their room stays as it is, the entry and the line for the refresh lock
included. And of a session from which any such questions are left out, each known by its step and its
place there, every other verdict and the state after every step are those of the whole session. -/
theorem free_questions_leave_no_trace (s : Service σ) (steps : List Step) :
    (∀ earlier step later, steps = earlier ++ step :: later →
      let t := s.after earlier
      (s.run steps)[earlier.length]? = some (t.step step) ∧
      (∀ asked, step = .askTogether asked →
        let served := Room.drain (2 * Calculator.callsAmong asked) (t.desk asked asked.length).room
        t.step step = (.verdicts (Calculator.merge t.today (t.assigned asked) served.answers),
          t.withStore served.store)) ∧
      ∀ p i q, step.questions[p]? = some (i, q) → q.needsCalendar = false →
        ∃ verdict, (t.step step).1.given[p]? = some verdict ∧
          (∀ n start, q.steps? s.today = some (n, start) →
            (n = 0 → verdict = .ok (.date start)) ∧
            (n < 0 ∨ maxCount < n → verdict = .error (.invalidCount n))) ∧
          (∀ (source : CalendarSource σ) (store : CalendarStore σ),
            (t.calculator i).ask source s.today store q = (verdict, store)) ∧
          (step = .ask i q → (t.step step).2 = t) ∧
          (∀ asked, step = .askTogether asked →
            let d := t.desk asked p
            t.desk asked (p + 1) = { d with settled := d.settled ++ [some verdict] })) ∧
    ∀ out : Nat → Nat → Bool,
      (∀ k step, steps[k]? = some step → Calculator.LeavesFree (out k) step.questions) →
      s.run (stepsLeaving out steps) = repliesLeaving out steps (s.run steps) := by
  refine ⟨?_, fun out hfree => run_leaving hfree⟩
  rintro earlier step later rfl t
  refine ⟨run_getElem? earlier later step, ?_, fun p i q hp hfree => ?_⟩
  · rintro asked rfl
    exact t.step_askTogether asked
  have htoday : t.today = s.today := after_today earlier
  -- everything follows from the question being settled: no calculator asks a store for it
  obtain ⟨verdict, hsettle⟩ :=
    Calculator.settle_of_not_needsCalendar (t.calculator i) t.today hfree
  refine ⟨verdict, given_of_settled hp hsettle, ?_, ?_, ?_, ?_⟩
  · rw [← htoday]
    exact fun n start hasked => Calculator.settled_steps hasked hsettle
  · rw [← htoday]
    exact fun source store => Calculator.ask_of_settled source store hsettle
  · rintro rfl
    simp only [Service.step, Calculator.ask_of_settled t.source t.store hsettle]
    rfl
  · rintro asked rfl d
    exact (Calculator.Desk.before_succ (t.assigned_getElem? hp)).trans
      (Calculator.Desk.put_of_settled hsettle)

/-- While the first question of a batch has its fetch under way, and the fetch is going to fail, the
next two are settled. Without them, and without the one too many days that are asked for later, the
session shows the same failure and the same store. -/
theorem free_questions_leave_no_trace_during_a_fetch :
    let day : Date := ⟨738876, by decide, by decide⟩
    let down : FetchFailure := .malformed "down"
    let s := scripted [⟨.error down, 7⟩] 60 .englandAndWales day ⟨0, 0⟩
    let asked : List (Nat × Question) :=
      [(0, .isWorkingDay day), (0, .deadline 0 day), (0, .deadlineFromToday (-1)), (0, .deadline 1 day)]
    let steps : List Step := [.askTogether asked, .ask 0 (.deadline 4294967296 day)]
    let out (k p : Nat) : Bool := k == 1 || p == 1 || p == 2
    (s.desk asked 1).room.holder = some 0 ∧
      (s.desk asked 2).room = (s.desk asked 1).room ∧
      (s.step (.askTogether asked)).1.given[1]? = some (.ok (.date day)) ∧
      (s.step (.askTogether asked)).1.given[2]? = some (.error (.invalidCount (-1))) ∧
      stepsLeaving out steps =
        [.askTogether [(0, .isWorkingDay day), (0, .deadline 1 day)]] ∧
      s.run (stepsLeaving out steps) = repliesLeaving out steps (s.run steps) := by
  intro day down s asked steps out
  obtain ⟨hsteps, herased⟩ := free_questions_leave_no_trace s steps
  obtain ⟨_, _, hquestions⟩ := hsteps [] _ _ rfl
  obtain ⟨first, hfirst, hzero, _, _, hdesk⟩ := hquestions 1 0 (.deadline 0 day) rfl rfl
  obtain ⟨second, hsecond, hnegative, _⟩ := hquestions 2 0 (.deadlineFromToday (-1)) rfl rfl
  obtain rfl := (hzero 0 day rfl).1 rfl
  obtain rfl := (hnegative (-1) day rfl).2 (Or.inl (by decide))
  have hput : s.desk asked 2 = { s.desk asked 1 with
      settled := (s.desk asked 1).settled ++ [some (.ok (.date day))] } := hdesk asked rfl
  refine ⟨by decide +kernel, by rw [hput], hfirst, hsecond, rfl, herased out fun k step hk p x hx hout => ?_⟩
  -- the places that are left out, by step and place
  rcases k with _ | _ | k
  · cases hk
    rcases p with _ | _ | _ | _ | p
    · cases hout
    · cases hx
      rfl
    · cases hx
      rfl
    · cases hout
    · cases hx
  · cases hk
    rcases p with _ | p
    · cases hx
      rfl
    · cases hx
  · cases hk

end Service

end Workday
