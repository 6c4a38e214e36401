import Mathlib.Algebra.GroupWithZero.Nat
import Mathlib.Data.List.Induction
import Workday.Proofs.Cache.Store

/-!
# Calls that follow one another

A series is a number of calls, each run alone after the one before it: what every call is answered,
what the fetches come to of those that fetch, and the store that the last of them leaves. It is the
plain run that overlapping calls are compared with. A series grows by one call at its end, as the
answers of overlapping calls come in.
-/

set_option autoImplicit false

namespace Workday.Cache

variable {σ ε α : Type}

/-- What calls that follow one another come to. Every answer and every fetch stands with the number
of its call. -/
structure Series (σ ε α : Type) where
  answers : List (Nat × Except ε (Served α))
  launches : List (Nat × Fetched ε α)
  store : Store σ α

/-- What the fetch of a call that runs alone comes to, if the call makes one. -/
def Store.fetched? (s : Store σ α) (call : Call σ ε α) : Option (Fetched ε α) :=
  match s.fresh? call.ttl with
  | some _ => none
  | none => some (s.start call).1

/-- The calls with some numbers, each with its number. -/
def numbered (calls : List (Call σ ε α)) (order : List Nat) : List (Nat × Call σ ε α) :=
  order.filterMap fun i => calls[i]?.map (i, ·)

/-- One more number in the order is one more call at the end. -/
theorem numbered_concat {calls : List (Call σ ε α)} {order : List Nat} {i : Nat}
    {call : Call σ ε α} (h : calls[i]? = some call) :
    numbered calls (order ++ [i]) = numbered calls order ++ [(i, call)] := by
  simp [numbered, h]

/-- Calls that are numbered keep their numbers in the order that was given. -/
theorem numbered_numbers {calls : List (Call σ ε α)} {order : List Nat}
    (h : ∀ i ∈ order, i < calls.length) : (numbered calls order).map Prod.fst = order := by
  induction order with
  | nil => rfl
  | cons i order ih =>
    have hi := List.getElem?_eq_getElem (h i List.mem_cons_self)
    have hrest := ih fun j hj => h j (List.mem_cons_of_mem i hj)
    simp only [numbered, List.filterMap_cons, hi, Option.map_some, List.map_cons] at hrest ⊢
    rw [hrest]

namespace Series

/-- A series without calls. -/
def opened (s : Store σ α) : Series σ ε α := ⟨[], [], s⟩

/-- A series with one more call, which has a number. -/
def call (t : Series σ ε α) (i : Nat) (call : Call σ ε α) : Series σ ε α where
  answers := t.answers ++ [(i, (t.store.get call).1)]
  launches := t.launches ++ ((t.store.fetched? call).map (i, ·)).toList
  store := (t.store.get call).2

/-- How long the fetches of a series take together. -/
def delay (t : Series σ ε α) : Nat := (t.launches.map (·.2.delay)).sum

variable {t : Series σ ε α} {i : Nat} {call : Call σ ε α} {value : α}

/-- A call that finds a fresh entry adds its answer and nothing else. -/
theorem call_of_fresh (h : t.store.fresh? call.ttl = some value) :
    t.call i call = { t with answers := t.answers ++ [(i, .ok ⟨value, .cache⟩)] } := by
  simp [Series.call, Store.fetched?, Store.get_of_fresh call h, h]

/-- A call that finds the entry stale adds its fetch, and is answered as the fetch decides. -/
theorem call_of_stale (h : t.store.IsStale call.ttl) :
    let fetched := (t.store.start call).1
    let ended := ((t.store.start call).2.advance fetched.delay).finish fetched.result
    t.call i call =
      ⟨t.answers ++ [(i, ended.1)], t.launches ++ [(i, fetched)], ended.2⟩ := by
  have hfresh := Store.fresh?_eq_none_iff.mpr h
  simp [Series.call, Store.fetched?, Store.get, hfresh]

end Series

namespace Store

variable {s : Store σ α} {numbered : List (Nat × Call σ ε α)} {i : Nat} {call : Call σ ε α}

/-- Calls that follow one another, each with its number. -/
def series (s : Store σ α) (numbered : List (Nat × Call σ ε α)) : Series σ ε α :=
  numbered.foldl (fun t next => t.call next.1 next.2) (.opened s)

@[simp]
theorem series_nil : s.series ([] : List (Nat × Call σ ε α)) = .opened s := rfl

/-- A series with one more call at the end is the series, and then the call. -/
theorem series_concat : s.series (numbered ++ [(i, call)]) = (s.series numbered).call i call := by
  simp only [series, List.foldl_append, List.foldl_cons, List.foldl_nil]

/-- A series with one more number in its order is the series, and then the call of this number. -/
theorem series_numbered_concat {calls : List (Call σ ε α)} {order : List Nat}
    (h : calls[i]? = some call) :
    s.series (Cache.numbered calls (order ++ [i])) =
      (s.series (Cache.numbered calls order)).call i call := by
  rw [numbered_concat h, series_concat]

theorem finish_clock (result : Except ε α) : (s.finish result).2.clock = s.clock := by
  cases result <;> rfl

/-- The answers stand in the order of the calls. -/
theorem series_numbers : (s.series numbered).answers.map Prod.fst = numbered.map Prod.fst := by
  induction numbered using List.reverseRecOn with
  | nil => rfl
  | append_singleton numbered next ih =>
    rw [series_concat, List.map_append, ← ih]
    exact List.map_append

/-- Time passes while the fetches of a series run, and only then: a call that is served from the cache
takes none. -/
theorem series_clock :
    (s.series numbered).store.clock = s.clock.advance (s.series numbered).delay := by
  induction numbered using List.reverseRecOn with
  | nil => simp [Series.opened, Series.delay, Clock.advance]
  | append_singleton numbered next ih =>
    rw [series_concat]
    cases hfresh : (s.series numbered).store.fresh? next.2.ttl with
    | some value => rw [Series.call_of_fresh hfresh, ih, Series.delay, Series.delay]
    | none =>
      rw [Series.call_of_stale (fresh?_eq_none_iff.mp hfresh), finish_clock]
      simp only [advance, start, ih, Series.delay, Clock.advance, List.map_append, List.sum_append]
      simp [Nat.add_assoc, Int.add_assoc]

end Store

end Workday.Cache
