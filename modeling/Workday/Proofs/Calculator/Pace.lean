import Workday.Proofs.Cache.Standstill
import Workday.Proofs.Calculator.Snapshot

/-!
# Sessions at any pace

How fast a session goes is told by the time that passes between its steps and by the time that its
fetches take. Where the calendar is kept for no time at all, or for longer than the session lasts, none
of it shows: replies and fetch counts are those of a session with the same steps in which no time
passes (`Still.shown`). Sessions that are compared with one such session are compared with each other.
-/

set_option autoImplicit false

namespace Workday.Service

open Cache (Store Clock Call)

variable {σ : Type} {s s' : Service σ} {start : Nat}

/-! ## The store along a session -/

/-- Time aside, a step other than a probe does to the store what calls for the calendar and a dropped
entry do. -/
theorem step_keeps {P : CalendarStore σ → Prop} {next : Step} (h : P s.store)
    (hget : ∀ store ttl, P store → P (store.get ⟨ttl, s.source⟩).2)
    (hinvalidate : ∀ store, P store → P store.invalidate)
    (hadvance : ∀ store ms, P store → P (store.advance ms)) (hhealth : next ≠ .health) :
    P (s.step next).2.store := by
  cases next with
  | ask i question =>
    simp only [step, Calculator.ask]
    cases (s.calculator i).settle s.today question with
    | some verdict => exact h
    | none => exact hget _ _ h
  | askTogether asked =>
    refine Store.batch_keeps h fun store call hcall hstore => ?_
    obtain ⟨x, -, rfl⟩ := List.mem_map.mp hcall
    exact hget _ _ hstore
  | calendar => exact hget _ _ h
  | health => exact absurd rfl hhealth
  | invalidate => exact hinvalidate _ h
  | advance ms => exact hadvance _ ms h
  | clone _ | withRegion _ => exact h

theorem step_source (s : Service σ) (next : Step) : (s.step next).2.source = s.source := by
  cases next <;> rfl

theorem step_ttl (s : Service σ) (next : Step) : (s.step next).2.ttl = s.ttl := by
  cases next <;> rfl

/-- What a call, an invalidation and the passing of time keep of a store is kept by all steps but a
probe. So an invariant of the store is proved for three operations, and not for every kind of step. -/
theorem after_keeps {P : CalendarStore σ → Prop} {steps : List Step} (h : P s.store)
    (hget : ∀ store ttl, P store → P (store.get ⟨ttl, s.source⟩).2)
    (hinvalidate : ∀ store, P store → P store.invalidate)
    (hadvance : ∀ store ms, P store → P (store.advance ms)) (hhealth : .health ∉ steps) :
    P (s.after steps).store := by
  induction steps generalizing s with
  | nil => exact h
  | cons next steps ih =>
    obtain ⟨hnext, hsteps⟩ := List.ne_and_not_mem_of_not_mem_cons hhealth
    refine ih (step_keeps h hget hinvalidate hadvance hnext.symm) ?_ hsteps
    rw [step_source]
    exact hget

/-- No time is given back. -/
theorem after_clock_le {steps : List Step} (hhealth : .health ∉ steps) :
    s.store.clock.monotonic ≤ (s.after steps).store.clock.monotonic := by
  refine after_keeps (P := fun store => s.store.clock.monotonic ≤ store.clock.monotonic)
    (Nat.le_refl _) (fun store ttl h => ?_) (fun store h => h) (fun store ms h => ?_) hhealth
  · exact Nat.le_trans h (store.get_clock_le _)
  · exact Nat.le_trans h (Nat.le_add_right _ _)

/-- Where each fetch moves the source on by one, the source counts the fetches. -/
theorem after_source_eq_fetches {s : Service Nat} {steps : List Step}
    (hsource : ∀ n, (s.source n).2 = n + 1) (h : s.store.source = s.store.fetches)
    (hhealth : .health ∉ steps) :
    (s.after steps).store.source = (s.after steps).store.fetches := by
  refine after_keeps (P := fun store => store.source = store.fetches) h (fun store ttl hstore => ?_)
    (fun store h => h) (fun store ms h => h) hhealth
  cases hfresh : store.fresh? ttl with
  | some calendar =>
    rw [Store.get_of_fresh ⟨ttl, s.source⟩ hfresh]
    exact hstore
  | none =>
    have hfetched := store.get_of_stale ⟨ttl, s.source⟩ (Store.fresh?_eq_none_iff.mp hfresh)
    rw [hfetched.source_eq, hfetched.fetches_eq, hsource, hstore]

/-! ## A session in which no time passes -/

/-- The call for the calendar that the service makes itself. -/
def call (s : Service σ) : Call σ FetchFailure Calendar := ⟨s.ttl, s.source⟩

/-- Where all calculators keep the calendar as long as the service does, so does one that is not known. -/
theorem calculator_ttl (h : ∀ c ∈ s.calculators, c.ttl = s.ttl) (i : Nat) :
    (s.calculator i).ttl = s.ttl := by
  unfold calculator
  cases hi : s.calculators[i]? with
  | some c => exact h c (List.mem_of_getElem? hi)
  | none =>
    cases hall : s.calculators with
    | nil => rfl
    | cons c cs => exact h c (hall ▸ List.mem_cons_self)

/-- A service, and the same service with fetches that take no time, both at the same point of a
session; all calculators keep the calendar as long as the service does. -/
structure Still (start : Nat) (s s' : Service σ) : Prop where
  call : s.call.Untimed s'.call
  today_eq : s'.today = s.today
  calculators_eq : s'.calculators = s.calculators
  sameTtl (c : Calculator) (h : c ∈ s.calculators) : c.ttl = s.ttl
  store : s.store.Standstill start s'.store

namespace Still

/-- Two services of which one is still have the same time to live. -/
theorem ttl_eq (h : s.Still start s') : s'.ttl = s.ttl := h.call.ttl_eq

/-- Two services of which one is still have the same handles. -/
theorem calculator_eq (h : s.Still start s') (i : Nat) : s'.calculator i = s.calculator i := by
  simp only [calculator, h.calculators_eq, h.ttl_eq]

/-- Every calculator makes the call that the service makes. -/
theorem call_eq (h : s.Still start s') (i : Nat) : (s.calculator i).call s.source = s.call := by
  rw [Calculator.call, calculator_ttl h.sameTtl]
  rfl

/-- A call by any handle of the one is the call of the other, which takes no time. -/
theorem call_eq' (h : s.Still start s') (i : Nat) : (s.calculator i).call s'.source = s'.call := by
  have hcall := h.call_eq i
  unfold Calculator.call Service.call at hcall ⊢
  rw [h.ttl_eq, (Call.mk.inj hcall).1]

/-- A standstill of the stores is one of the services. -/
theorem withStore (h : s.Still start s') {store store' : CalendarStore σ}
    (hstore : store.Standstill start store') : (s.withStore store).Still start (s'.withStore store') :=
  ⟨h.call, h.today_eq, h.calculators_eq, h.sameTtl, hstore⟩

/-- The same further handle keeps the standstill, and has the same number in both. -/
theorem addCalculator (h : s.Still start s') {c : Calculator} (hc : c.ttl = s.ttl) :
    (s'.addCalculator c).1 = (s.addCalculator c).1 ∧
      (s.addCalculator c).2.Still start (s'.addCalculator c).2 := by
  refine ⟨congrArg Reply.calculator (congrArg List.length h.calculators_eq), h.call, h.today_eq,
    congrArg (· ++ [c]) h.calculators_eq, fun d hd => ?_, h.store⟩
  rcases List.mem_append.mp hd with hd | hd
  · exact h.sameTtl d hd
  · rw [List.mem_singleton.mp hd]
    exact hc

/-- The calls of questions asked together are all the same. -/
theorem callsOf_eq (h : s.Still start s') (asked : List (Nat × Question)) :
    let assigned := asked.map fun (i, question) => (s.calculator i, question)
    Calculator.callsOf s.source s.today assigned =
        List.replicate (Calculator.callsAmong assigned) s.call ∧
      Calculator.callsOf s'.source s.today assigned =
        List.replicate (Calculator.callsAmong assigned) s'.call := by
  intro assigned
  constructor
  all_goals
    refine List.eq_replicate_iff.mpr ⟨Calculator.length_callsOf _ _ _, fun call hcall => ?_⟩
    obtain ⟨x, hx, rfl⟩ := List.mem_map.mp hcall
    obtain ⟨y, -, rfl⟩ := List.mem_map.mp (List.mem_filter.mp hx).1
  · exact h.call_eq y.1
  · exact h.call_eq' y.1

/-- A step that ends in time gets the same reply of both. In time means that nothing in the store can
have grown too old since the session began, so freshness is decided by whether there is an entry. -/
theorem step (h : s.Still start s') {next : Step} (hhealth : next ≠ .health)
    (htime : ∀ ms, next ≠ .advance ms) (hin : (s.step next).2.store.InTime start s.ttl) :
    (s'.step next).1 = (s.step next).1 ∧ (s.step next).2.Still start (s'.step next).2 := by
  cases next with
  | ask i question =>
    simp only [Service.step, Calculator.ask, h.calculator_eq, h.today_eq, h.call_eq, h.call_eq'] at hin ⊢
    cases hsettle : (s.calculator i).settle s.today question with
    | some verdict => exact ⟨rfl, h.withStore h.store⟩
    | none =>
      rw [hsettle] at hin
      obtain ⟨hanswer, hstore⟩ := h.store.get h.call hin
      refine ⟨?_, h.withStore hstore⟩
      simp only [hanswer]
  | askTogether asked =>
    obtain ⟨hcalls, hcalls'⟩ := h.callsOf_eq asked
    unfold Calculator.callsOf at hcalls hcalls'
    simp only [Service.step, Calculator.askTogether, h.calculator_eq, h.today_eq, hcalls, hcalls'] at hin ⊢
    obtain ⟨hanswers, hstore⟩ := h.store.batch h.call _ hin
    refine ⟨?_, h.withStore hstore⟩
    rw [hanswers]
  | calendar =>
    obtain ⟨hanswer, hstore⟩ := h.store.get h.call hin
    refine ⟨?_, h.withStore hstore⟩
    exact congrArg (fun answer => Reply.calendar (answer.map Cache.Served.value)) hanswer
  | health => exact absurd rfl hhealth
  | invalidate => exact ⟨rfl, h.withStore h.store.invalidate⟩
  | advance ms => exact absurd rfl (htime ms)
  | clone i =>
    simp only [Service.step, h.calculator_eq]
    exact h.addCalculator (Call.mk.inj (h.call_eq i)).1
  | withRegion region =>
    simp only [Service.step, h.ttl_eq]
    exact h.addCalculator rfl

/-- Time that passes is nothing to the session in which none does. -/
theorem advance (h : s.Still start s') (ms : Nat) : (s.step (.advance ms)).2.Still start s' :=
  h.withStore (h.store.advance ms)

end Still

/-! ## What a session shows -/

/-- Whether a step only lets time pass. -/
def Step.isAdvance : Step → Bool
  | .advance _ => true
  | _ => false

/-- The steps of a session without the time that passes. -/
def untimed (steps : List Step) : List Step := steps.filter fun next => !next.isAdvance

/-- What a session shows: the reply to each step and how many fetches have been started by then. Time
that passes shows nothing. -/
def shown (s : Service σ) (steps : List Step) : List (Reply × Nat) :=
  ((steps.zip (s.run steps)).filter fun x => !x.1.isAdvance).map fun x => (x.2.1, x.2.2.store.fetches)

/-- What is shown of steps is what is shown of the first, unless it only lets time pass, and then
that of the others. -/
theorem shown_cons (s : Service σ) (next : Step) (steps : List Step) :
    s.shown (next :: steps) = if next.isAdvance then (s.step next).2.shown steps
      else ((s.step next).1, (s.step next).2.store.fetches) :: (s.step next).2.shown steps := by
  unfold shown
  rw [run]
  cases hnext : next.isAdvance <;> simp [hnext]

/-- How long a session lasts, in milliseconds. -/
def lasts (s : Service σ) (steps : List Step) : Nat :=
  (s.after steps).store.clock.monotonic - s.store.clock.monotonic

/-- A session that ends in time shows what it shows when no time passes. The induction is on the steps;
those in which time passes are left out on one side and show nothing on the other. -/
theorem Still.shown {steps : List Step} (h : s.Still start s') (hhealth : .health ∉ steps)
    (hin : (s.after steps).store.InTime start s.ttl) : s'.shown (untimed steps) = s.shown steps := by
  induction steps generalizing s s' with
  | nil => rfl
  | cons next steps ih =>
    obtain ⟨hnext, hsteps⟩ := List.ne_and_not_mem_of_not_mem_cons hhealth
    have hrest : ((s.step next).2.after steps).store.InTime start (s.step next).2.ttl := by
      rw [step_ttl]
      exact hin
    rw [shown_cons, untimed, List.filter_cons]
    -- a step in which time passes is one side's only
    cases hadvance : next.isAdvance with
    | true =>
      obtain ⟨ms, rfl⟩ : ∃ ms, next = .advance ms := by
        cases next with
        | advance ms => exact ⟨ms, rfl⟩
        | _ => cases hadvance
      exact ih (h.advance ms) hsteps hrest
    | false =>
      have htime : ∀ ms, next ≠ .advance ms := by
        rintro ms rfl
        cases hadvance
      obtain ⟨hreply, hstill⟩ := h.step hnext.symm htime (hin.of_le (after_clock_le hsteps))
      have hshown := ih hstill hsteps hrest
      rw [untimed] at hshown
      simp only [Bool.not_false, if_true, Bool.false_eq_true, if_false, shown_cons, hadvance, hreply,
        hstill.store.fetches_eq, hshown]

/-- Services that are compared with the same one show the same in sessions that end in time and whose
steps are the same but for the time that passes. -/
theorem shown_eq_of_still {t : Service σ} {start' : Nat} {steps steps' : List Step}
    (h : s.Still start t) (h' : s'.Still start' t) (hsteps : untimed steps = untimed steps')
    (hhealth : .health ∉ steps) (hin : (s.after steps).store.InTime start s.ttl)
    (hin' : (s'.after steps').store.InTime start' s'.ttl) : s.shown steps = s'.shown steps' := by
  have hhealth' : .health ∉ steps' := by
    intro hmem
    have huntimed : Step.health ∈ untimed steps' := List.mem_filter.mpr ⟨hmem, rfl⟩
    rw [← hsteps] at huntimed
    exact hhealth (List.mem_filter.mp huntimed).1
  calc s.shown steps = t.shown (untimed steps) := (h.shown hhealth hin).symm
    _ = t.shown (untimed steps') := by rw [hsteps]
    _ = s'.shown steps' := h'.shown hhealth' hin'

/-- A session that lasts less than the time to live ends in time, and so does any without one. -/
theorem inTime_of_lasts {steps : List Step} (h : s.ttl = 0 ∨ (s.lasts steps : Int) < s.ttl) :
    (s.after steps).store.InTime s.store.clock.monotonic s.ttl := by
  unfold lasts at h
  unfold Store.InTime
  omega

end Workday.Service
