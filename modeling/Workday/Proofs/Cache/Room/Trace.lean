import Workday.Proofs.Cache.Room.Moves

/-!
# What is seen along a run

The answers that a run gives and the fetches that it starts, in the order in which it does so, read
off the rooms that its moves lead to. `mem_answered_iff` says that nothing is missed: the calls that
have been answered at the end of a run are those whose answers were seen along it.
-/

set_option autoImplicit false

namespace Workday.Cache

variable {σ ε α β : Type}

/-- What the fetch that is running comes to. -/
def Phase.fetched? : Phase ε α → Option (Fetched ε α)
  | fetching fetched => some fetched
  | _ => none

namespace Room

variable {r r' : Room σ ε α} {m : Move} {moves more : List Move} {i : Nat} {p : Phase ε α}
  {look : Room σ ε α → Move → Option β} {what : Phase ε α → Option β}

/-- What is seen along a run by a look at the room after each of its moves. -/
def seen (look : Room σ ε α → Move → Option β) (r : Room σ ε α) : List Move → List β
  | [] => []
  | m :: moves =>
    match r.step m with
    | some r' => (look r' m).toList ++ r'.seen look moves
    | none => []

/-- What a move has brought its call to. -/
def broughtTo (what : Phase ε α → Option β) (r : Room σ ε α) (m : Move) : Option (Nat × β) :=
  m.call?.bind fun i => (r.phases[i]?.bind what).map (i, ·)

/-- The answers of a run, each with its call, in the order in which they are given. -/
def answered (r : Room σ ε α) (moves : List Move) : List (Nat × Except ε (Served α)) :=
  r.seen (broughtTo Phase.answer?) moves

/-- The fetches that a run starts, each with its call and what it comes to, in the order in which
they start. -/
def launches (r : Room σ ε α) (moves : List Move) : List (Nat × Fetched ε α) :=
  r.seen (broughtTo Phase.fetched?) moves

/-- The call that is answered with the move by which it arrives: its first check finds a fresh
entry. -/
def answeredAtOnce? (r : Room σ ε α) : Move → Option Nat
  | .arrive i => (r.broughtTo Phase.answer? (.arrive i)).map Prod.fst
  | _ => none

/-- The calls of a run that are served from the entry at their first check. -/
def servedAtOnce (r : Room σ ε α) (moves : List Move) : List Nat := r.seen answeredAtOnce? moves

/-- What a move has brought its call to is read off the phase of the call. -/
theorem broughtTo_eq (hm : m.call? = some i) (hp : r.phases[i]? = some p) :
    r.broughtTo what m = (what p).map (i, ·) := by
  simp only [broughtTo, hm, hp, Option.bind_some]

/-- A move that is no call's has brought no call to anything. -/
theorem broughtTo_of_no_call (hm : m.call? = none) : r.broughtTo what m = none := by
  simp only [broughtTo, hm, Option.bind_none]

/-- A run that goes on sees more. -/
theorem seen_append {a : Room σ ε α} (hrun : r.run moves = some a) :
    r.seen look (moves ++ more) = r.seen look moves ++ a.seen look more := by
  induction moves generalizing r with
  | nil =>
    obtain rfl := Option.some.inj hrun
    rfl
  | cons m moves ih =>
    obtain ⟨b, hmoved, hrest⟩ := run_cons_eq_some_iff.mp hrun
    simp only [List.cons_append, seen, hmoved.step, ih hrest, List.append_assoc]

/-- One more move adds what is seen after it. -/
theorem seen_concat {a : Room σ ε α} (hrun : r.run moves = some a) (hm : a.Moved m r') :
    r.seen look (moves ++ [m]) = r.seen look moves ++ (look r' m).toList := by
  simp only [seen_append hrun, seen, hm.step, List.append_nil]

/-- A call that was served at once stays so, whatever comes later. -/
theorem mem_servedAtOnce_append (more : List Move) (hrun : r.run moves = some r')
    (h : i ∈ r.servedAtOnce moves) : i ∈ r.servedAtOnce (moves ++ more) := by
  rw [servedAtOnce, seen_append hrun]
  exact List.mem_append_left _ h

/-- A move has brought a call to something exactly if it is the call's move and its phase tells so. -/
theorem mem_broughtTo_iff {x : β} :
    (i, x) ∈ (r.broughtTo what m).toList ↔
      m.call? = some i ∧ ∃ p, r.phases[i]? = some p ∧ what p = some x := by
  simp only [broughtTo, Option.mem_toList, Option.bind_eq_some_iff, Option.map_eq_some_iff,
    Prod.mk.injEq]
  constructor
  · rintro ⟨_, hm, _, hx, rfl, rfl⟩
    exact ⟨hm, hx⟩
  · rintro ⟨hm, hx⟩
    exact ⟨i, hm, x, hx, rfl, rfl⟩

/-- A move adds the answer that it brings its call to. -/
theorem Moved.done_iff {answer : Except ε (Served α)} (h : r.Moved m r') :
    r'.phases[i]? = some (.done answer) ↔
      r.phases[i]? = some (.done answer) ∨
        (i, answer) ∈ (r'.broughtTo Phase.answer? m).toList := by
  rw [mem_broughtTo_iff]
  by_cases hm : m.call? = some i
  · obtain ⟨q, p, hq, hp, hturn⟩ := h.turn hm
    -- the call was not answered before its own move, and has one phase after it
    rw [hq, hp]
    cases hturn <;> simp [hm, Phase.answer?]
  · rw [h.phase_of_other hm]
    exact (or_iff_left fun hbrought => hm hbrought.1).symm

/-- The answers seen along a run are those that its calls have at the end. -/
theorem mem_answered_iff {store : Store σ α} {calls : List (Call σ ε α)}
    {answer : Except ε (Served α)} (hrun : (opened store calls).run moves = some r) :
    (i, answer) ∈ (opened store calls).answered moves ↔ r.phases[i]? = some (.done answer) := by
  suffices (opened store calls).run moves = some r ∧
      ((i, answer) ∈ (opened store calls).answered moves ↔
        r.phases[i]? = some (.done answer)) from this.2
  refine run_traces (motive := fun made a => (opened store calls).run made = some a ∧
    ((i, answer) ∈ (opened store calls).answered made ↔ a.phases[i]? = some (.done answer)))
    ?_ ⟨rfl, iff_of_false List.not_mem_nil fun hdone => ?_⟩ hrun
  · rintro made a b m ⟨hmade, hseen⟩ hm
    refine ⟨run_concat_eq_some_iff.mpr ⟨a, hmade, hm⟩, ?_⟩
    rw [answered, seen_concat hmade hm, List.mem_append, ← answered, hseen, hm.done_iff]
  · cases eq_idle_of_opened hdone

end Room

end Workday.Cache
