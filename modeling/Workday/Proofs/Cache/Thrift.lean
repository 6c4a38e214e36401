import Mathlib.Data.List.Forall2
import Workday.Proofs.Cache.History
import Workday.Proofs.Cache.Room.Batch

/-!
# A longer time to live saves fetches

One sequence of steps runs on two new caches, one with a longer time to live than the other. Every
fetch succeeds at once. The two refresh at different times, so that now and then it is the cache with
the longer time to live that finds its entry stale; it never fetches more often all the same.

The invariant is that the longer time to live stays ahead (`Ahead`): it has fetched no more often, and
where it has fetched as often its entry is at least as new. At a tie it is served whenever the other
one is, so that only the other one can fall behind.
-/

set_option autoImplicit false

namespace Workday.Cache

variable {σ ε α : Type}

/-- Every fetch succeeds at once, wherever the source stands. -/
def SucceedsAtOnce (fetch : σ → Fetched ε α × σ) : Prop :=
  ∀ source, ∃ value, (fetch source).1 = ⟨.ok value, 0⟩

/-- Every fetch of the step succeeds at once, and the step makes no handle with a time to live of its
own. -/
def Step.IsHealthy : Step σ ε α → Prop
  | .get request => SucceedsAtOnce request.fetch
  | .together requests => ∀ request ∈ requests, SucceedsAtOnce request.fetch
  | .withTtl _ => False
  | _ => True

namespace Store

variable {s s' short long : Store σ α} {brief lasting : Call σ ε α}

/-! ## A healthy call -/

/-- A stale entry is replaced by one that is stored now, with one more fetch. -/
structure Refreshed (s s' : Store σ α) : Prop where
  clock_eq : s'.clock = s.clock
  fetches_eq : s'.fetches = s.fetches + 1
  stored : ∃ e, s'.entry = some e ∧ e.storedAt = s.clock

/-- A call that finds nothing fresh and whose fetch succeeds at once refreshes the store. -/
theorem get_of_succeedsAtOnce {call : Call σ ε α} (hfetch : SucceedsAtOnce call.fetch)
    (hstale : s.IsStale call.ttl) : s.Refreshed (s.get call).2 := by
  obtain ⟨value, hvalue⟩ := hfetch s.source
  obtain ⟨-, hfetches, -, hclock, hentry⟩ := get_of_stale call hstale
  rw [hvalue] at hclock hentry
  have hnow : (s.get call).2.clock = s.clock := by
    rw [hclock, Clock.advance, Nat.add_zero, Int.natCast_zero, Int.add_zero]
  exact ⟨hnow, hfetches, _, hentry, hnow⟩

/-! ## Staying ahead -/

/-- The second cache has fetched no more often than the first, and where it has fetched as often its
entry is at least as new. -/
structure Ahead (short long : Store σ α) : Prop where
  clock_eq : long.clock = short.clock
  past : ∀ e, short.entry = some e → e.storedAt.monotonic ≤ short.clock.monotonic
  fetches_le : long.fetches ≤ short.fetches
  newer : long.fetches = short.fetches → ∀ e, short.entry = some e →
    ∃ e', long.entry = some e' ∧ e.storedAt.monotonic ≤ e'.storedAt.monotonic

theorem Ahead.empty (clock : Clock) (source source' : σ) :
    Ahead (.empty clock source : Store σ α) (.empty clock source') :=
  ⟨rfl, nofun, Nat.le_refl _, fun _ => nofun⟩

/-- Only the cache that is behind is served: then it is behind by a fetch. -/
theorem Ahead.fetches_lt {ttl ttl' : Int} {value : α} (h : Ahead short long) (hle : ttl ≤ ttl')
    (hfresh : short.fresh? ttl = some value) (hstale : long.IsStale ttl') :
    long.fetches < short.fetches := by
  refine Nat.lt_of_le_of_ne h.fetches_le fun htie => ?_
  obtain ⟨e, hentry, hage, -⟩ := fresh?_eq_some_iff.mp hfresh
  obtain ⟨e', hentry', hnewer⟩ := h.newer htie e hentry
  have hyounger : (e'.age long.clock : Int) ≤ e.age short.clock := by
    rw [h.clock_eq]
    exact Int.ofNat_le.mpr (Nat.sub_le_sub_left hnewer _)
  have hold : ttl' ≤ (e'.age long.clock : Int) := hstale e' hentry'
  omega

/-- What a refreshed store holds has been stored, at the latest, just now. -/
theorem Refreshed.past (h : s.Refreshed s') :
    ∀ e, s'.entry = some e → e.storedAt.monotonic ≤ s'.clock.monotonic := by
  intro e he
  obtain ⟨now, hnow, hstored⟩ := h.stored
  obtain rfl := Option.some.inj (hnow.symm.trans he)
  exact Nat.le_of_eq (by rw [hstored, h.clock_eq])

/-- An entry that is stored now is at least as new as any other. -/
theorem Ahead.newer_of_refreshed {long' : Store σ α} (h : Ahead short long)
    (hlong : long.Refreshed long') (e : Entry α)
    (hpast : e.storedAt.monotonic ≤ short.clock.monotonic) :
    ∃ e', long'.entry = some e' ∧ e.storedAt.monotonic ≤ e'.storedAt.monotonic := by
  obtain ⟨now, hnow, hstored⟩ := hlong.stored
  exact ⟨now, hnow, by rwa [hstored, h.clock_eq]⟩

/-- If only the longer time to live takes a fetch, it had fewer before, and it still has no more. -/
theorem Ahead.refresh_long {long' : Store σ α} (h : Ahead short long) (hlong : long.Refreshed long')
    (hlt : long.fetches < short.fetches) : Ahead short long' where
  clock_eq := hlong.clock_eq.trans h.clock_eq
  past := h.past
  fetches_le := hlong.fetches_eq ▸ hlt
  newer := fun _ e he => h.newer_of_refreshed hlong e (h.past e he)

/-- If only the shorter time to live takes a fetch, it falls behind, and what the other holds may be
older. -/
theorem Ahead.refresh_short {short' : Store σ α} (h : Ahead short long)
    (hshort : short.Refreshed short') : Ahead short' long where
  clock_eq := h.clock_eq.trans hshort.clock_eq.symm
  past := hshort.past
  fetches_le := Nat.le_trans h.fetches_le (hshort.fetches_eq ▸ Nat.le_succ _)
  newer := fun htie => by
    have hle := h.fetches_le
    have hmore := hshort.fetches_eq
    omega

/-- If both take a fetch they are as they were, with entries of the same age. -/
theorem Ahead.refresh_both {short' long' : Store σ α} (h : Ahead short long)
    (hshort : short.Refreshed short') (hlong : long.Refreshed long') : Ahead short' long' where
  clock_eq := by rw [hlong.clock_eq, hshort.clock_eq, h.clock_eq]
  past := hshort.past
  fetches_le := by
    rw [hlong.fetches_eq, hshort.fetches_eq]
    exact Nat.succ_le_succ h.fetches_le
  newer := fun _ e he => h.newer_of_refreshed hlong e (hshort.clock_eq ▸ hshort.past e he)

/-- A request keeps the longer time to live ahead. Whether either finds its entry fresh is told by
the ages; the one case that would turn the order, a fetch by the longer alone where both are even,
cannot come about. -/
theorem Ahead.get (h : Ahead short long) (hle : brief.ttl ≤ lasting.ttl)
    (hbrief : SucceedsAtOnce brief.fetch) (hlasting : SucceedsAtOnce lasting.fetch) :
    Ahead (short.get brief).2 (long.get lasting).2 := by
  cases hshort : short.fresh? brief.ttl with
  | some value =>
    rw [get_of_fresh brief hshort]
    cases hlong : long.fresh? lasting.ttl with
    | some value' => rwa [get_of_fresh lasting hlong]
    | none =>
      have hstale := fresh?_eq_none_iff.mp hlong
      exact h.refresh_long (get_of_succeedsAtOnce hlasting hstale) (h.fetches_lt hle hshort hstale)
  | none =>
    have hrefreshed := get_of_succeedsAtOnce hbrief (fresh?_eq_none_iff.mp hshort)
    cases hlong : long.fresh? lasting.ttl with
    | some value' =>
      rw [get_of_fresh lasting hlong]
      exact h.refresh_short hrefreshed
    | none => exact h.refresh_both hrefreshed (get_of_succeedsAtOnce hlasting (fresh?_eq_none_iff.mp hlong))

/-- Dropping both entries keeps the longer time to live ahead. -/
theorem Ahead.invalidate (h : Ahead short long) : Ahead short.invalidate long.invalidate :=
  ⟨h.clock_eq, nofun, h.fetches_le, fun _ => nofun⟩

/-- Time that passes keeps the longer time to live ahead. -/
theorem Ahead.advance (h : Ahead short long) (ms : Nat) :
    Ahead (short.advance ms) (long.advance ms) :=
  ⟨congrArg (·.advance ms) h.clock_eq, fun e he => Nat.le_add_right_of_le (h.past e he),
    h.fetches_le, h.newer⟩

/-! ## Calls that arrive together -/

/-- The store that calls leave which run one after the other. -/
def getAll (s : Store σ α) (calls : List (Call σ ε α)) : Store σ α :=
  calls.foldl (fun s call => (s.get call).2) s

/-- A series in the order of the list leaves the store that the calls leave one by one. The calls of a
longer list before its last are those of the list without it. -/
theorem series_range_store (calls : List (Call σ ε α)) :
    (s.series (numbered calls (List.range calls.length))).store = s.getAll calls := by
  induction calls using List.reverseRecOn with
  | nil => rfl
  | append_singleton calls call ih =>
    have hbefore : numbered (calls ++ [call]) (List.range calls.length) =
        numbered calls (List.range calls.length) := by
      refine List.filterMap_congr fun i hi => ?_
      rw [List.getElem?_append_left (List.mem_range.mp hi)]
    rw [List.length_append, List.length_singleton, List.range_succ,
      series_numbered_concat (List.getElem?_concat_length), hbefore, Series.call, ih, getAll, getAll,
      List.foldl_append]
    rfl

/-- With one time to live for all, calls that arrive together leave the store as one after the other. -/
theorem batch_store_eq_getAll {calls : List (Call σ ε α)}
    (h : ∀ a ∈ calls, ∀ b ∈ calls, a.ttl = b.ttl) : (s.batch calls).2 = s.getAll calls := by
  rw [(s.batch_eq_series calls).1, batchSeries, answerOrder_eq_range h, series_range_store]

/-- A list of requests keeps the longer time to live ahead. -/
theorem Ahead.getAll {requests : List (Request σ ε α)} {ttl ttl' : Int} (h : Ahead short long)
    (hle : ttl ≤ ttl') (hrequests : ∀ request ∈ requests, SucceedsAtOnce request.fetch) :
    Ahead (short.getAll (requests.map fun r => ⟨ttl, r.fetch⟩))
      (long.getAll (requests.map fun r => ⟨ttl', r.fetch⟩)) := by
  induction requests generalizing short long with
  | nil => exact h
  | cons request requests ih =>
    obtain ⟨hfirst, hrest⟩ := List.forall_mem_cons.mp hrequests
    exact ih (h.get hle hfirst hfirst) hrest

end Store

/-! ## Sessions -/

namespace Session

variable {s short long : Session σ α} {ttl ttl' : Int} {step : Step σ ε α} {steps : List (Step σ ε α)}

/-- Every handle has the same time to live. -/
def HasTtl (s : Session σ α) (ttl : Int) : Prop := ∃ n, s.handles = List.replicate (n + 1) ttl

/-- All handles of a session have the time to live that all have. -/
theorem HasTtl.ttlOf_eq (h : s.HasTtl ttl) (handle : Nat) : s.ttlOf handle = ttl := by
  obtain ⟨n, hhandles⟩ := h
  rw [ttlOf, hhandles, List.getElem?_replicate]
  split <;> rfl

/-- Every request of such a session is a call with that time to live. -/
theorem HasTtl.call_eq (h : s.HasTtl ttl) :
    s.call = fun request : Request σ ε α => ⟨ttl, request.fetch⟩ := by
  funext request
  rw [call, h.ttlOf_eq]

/-- Steps of this kind add no handle with another time to live. -/
theorem HasTtl.kept (h : s.HasTtl ttl) (hstep : step.IsHealthy) : (s.step step).2.HasTtl ttl := by
  cases step with
  | clone handle =>
    obtain ⟨n, hhandles⟩ := h
    refine ⟨n + 1, ?_⟩
    show s.handles ++ [s.ttlOf handle] = List.replicate (n + 2) ttl
    rw [HasTtl.ttlOf_eq ⟨n, hhandles⟩, hhandles]
    exact List.replicate_succ'.symm
  | withTtl _ => exact hstep.elim
  | _ => exact h

/-- One step keeps the longer time to live ahead. A batch does so call by call, since with one time to
live it leaves the store that its calls leave one by one. -/
theorem ahead_step (h : short.store.Ahead long.store) (hle : ttl ≤ ttl') (hshort : short.HasTtl ttl)
    (hlong : long.HasTtl ttl') (hstep : step.IsHealthy) :
    (short.step step).2.store.Ahead (long.step step).2.store := by
  cases step with
  | get request =>
    show Store.Ahead (short.store.get (short.call request)).2 (long.store.get (long.call request)).2
    rw [hshort.call_eq, hlong.call_eq]
    exact h.get hle hstep hstep
  | together requests =>
    show Store.Ahead (short.store.batch (requests.map short.call)).2
      (long.store.batch (requests.map long.call)).2
    rw [hshort.call_eq, hlong.call_eq, Store.batch_store_eq_getAll (by simp),
      Store.batch_store_eq_getAll (by simp)]
    exact h.getAll hle hstep
  | invalidate => exact h.invalidate
  | advance ms => exact h.advance ms
  | withTtl _ => exact hstep.elim
  | _ => exact h

/-- Any number of steps keep it ahead, at each of them. -/
theorem ahead_run (h : short.store.Ahead long.store) (hle : ttl ≤ ttl') (hshort : short.HasTtl ttl)
    (hlong : long.HasTtl ttl') (hsteps : ∀ step ∈ steps, step.IsHealthy) :
    List.Forall₂ (fun a b => a.2 ≤ b.2) (long.run steps) (short.run steps) := by
  induction steps generalizing short long with
  | nil => exact .nil
  | cons step steps ih =>
    obtain ⟨hstep, hrest⟩ := List.forall_mem_cons.mp hsteps
    have hnext := ahead_step h hle hshort hlong hstep
    exact .cons hnext.fetches_le (ih hnext (hshort.kept hstep) (hlong.kept hstep) hrest)

/-- A longer time to live costs no more fetches while all fetches succeed at once: after each step of
a sequence of calls, alone or together, clock advances and invalidations, the new cache with the
longer time to live has started at most as many fetches as the one with the shorter. -/
theorem longer_ttl_fetches_no_more (short long : Int) (hle : short ≤ long) (clock : Clock) (source : σ)
    (steps : List (Step σ ε α)) (hsteps : ∀ step ∈ steps, step.IsHealthy) :
    List.Forall₂ (fun longer shorter => longer.2 ≤ shorter.2)
      ((Session.new long clock source).run steps) ((Session.new short clock source).run steps) :=
  ahead_run (.empty clock source source) hle ⟨0, rfl⟩ ⟨0, rfl⟩ hsteps

/-- With two and three seconds to live. At three seconds only the cache with the longer time to live
fetches, as the other one did so at two; it has fetched no more often, there and after an
invalidation. -/
theorem longer_ttl_fetches_no_more_at_a_drift :
    let get : Step Unit String Nat := .get ⟨0, fun source => (⟨.ok 1, 0⟩, source)⟩
    let steps := [get, .advance 2000, get, .advance 1000, get, .invalidate, get]
    ((Session.new 2000 ⟨0, 0⟩ ()).run steps).map Prod.snd = [1, 1, 2, 2, 2, 2, 3] ∧
      ((Session.new 3000 ⟨0, 0⟩ ()).run steps).map Prod.snd = [1, 1, 1, 1, 2, 2, 3] ∧
      List.Forall₂ (fun longer shorter => longer.2 ≤ shorter.2)
        ((Session.new 3000 ⟨0, 0⟩ ()).run steps) ((Session.new 2000 ⟨0, 0⟩ ()).run steps) := by
  intro get steps
  have hget : get.IsHealthy := fun _ => ⟨1, rfl⟩
  have hsteps : ∀ step ∈ steps, step.IsHealthy := by
    simp only [steps, List.forall_mem_cons]
    exact ⟨hget, trivial, hget, trivial, hget, trivial, hget, nofun⟩
  exact ⟨rfl, rfl, longer_ttl_fetches_no_more 2000 3000 (by decide) _ _ steps hsteps⟩

end Session

end Workday.Cache
