import Workday.Cache

/-!
# The store of a cache

What a check of the entry tells, and the two ways in which a call that runs alone can go: it is
served from the entry and changes nothing, or it fetches once and the fetch decides.
-/

set_option autoImplicit false

namespace Workday.Cache

variable {σ ε α : Type}

theorem Entry.age_self (value : α) (now : Clock) : Entry.age ⟨value, now⟩ now = 0 :=
  Nat.sub_self _

/-- An entry grows no younger. -/
theorem Entry.age_le {e : Entry α} {now later : Clock} (h : now.monotonic ≤ later.monotonic) :
    (e.age now : Int) ≤ e.age later :=
  Int.ofNat_le.mpr (Nat.sub_le_sub_right h _)

namespace Store

variable {s : Store σ α} {ttl : Int} {value : α}

/-- The entry is missing, or held for at least a time to live. -/
def IsStale (s : Store σ α) (ttl : Int) : Prop :=
  ∀ e, s.entry = some e → ttl ≤ (e.age s.clock : Int)

/-- A value is fresh if it is held and younger than the time to live; at that age it is stale. -/
theorem fresh?_eq_some_iff :
    s.fresh? ttl = some value ↔
      ∃ e, s.entry = some e ∧ (e.age s.clock : Int) < ttl ∧ e.value = value := by
  unfold fresh?
  cases s.entry with
  | none => simp
  | some e => simp [Entry.isFresh]

/-- A check finds nothing to serve exactly when the entry is stale. -/
theorem fresh?_eq_none_iff : s.fresh? ttl = none ↔ s.IsStale ttl := by
  unfold fresh? IsStale
  cases s.entry with
  | none => simp
  | some e => simp [Entry.isFresh]

/-- Under a time to live of zero or less every entry is stale. -/
theorem isStale_of_nonpos (h : ttl ≤ 0) : s.IsStale ttl :=
  fun e _ => Int.le_trans h (Int.natCast_nonneg (e.age s.clock))

/-! ## A call that runs alone -/

/-- A fresh value is served as it is. Nothing is fetched and no time passes. -/
theorem get_of_fresh (call : Call σ ε α) (h : s.fresh? call.ttl = some value) :
    s.get call = (.ok ⟨value, .cache⟩, s) := by
  simp only [get, h]

/-- A call fetched exactly once, from where the source stood, and its answer and the entry it left
are what the fetch came to. -/
structure FetchedOnce (s s' : Store σ α) (fetch : σ → Fetched ε α × σ)
    (answer : Except ε (Served α)) : Prop where
  answer_eq : answer = (fetch s.source).1.result.map (⟨·, .network⟩)
  fetches_eq : s'.fetches = s.fetches + 1
  source_eq : s'.source = (fetch s.source).2
  clock_eq : s'.clock = s.clock.advance (fetch s.source).1.delay
  entry_eq : s'.entry = match (fetch s.source).1.result with
    | .ok value => some ⟨value, s'.clock⟩
    | .error _ => s.entry

/-- A call that finds the entry stale ends with its own fetch. -/
theorem get_of_stale (call : Call σ ε α) (h : s.IsStale call.ttl) :
    s.FetchedOnce (s.get call).2 call.fetch (s.get call).1 := by
  have hget : s.get call = ((s.start call).2.advance (s.start call).1.delay).finish
      (s.start call).1.result := by
    simp only [get, fresh?_eq_none_iff.mpr h]
  rw [hget]
  constructor
  all_goals
    simp only [start, advance]
    cases (call.fetch s.source).1.result <;> rfl

end Store

end Workday.Cache
