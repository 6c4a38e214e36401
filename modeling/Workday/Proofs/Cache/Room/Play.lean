import Workday.Proofs.Cache.Room.Moves

/-!
# Moves that are played

A batch plays moves without asking whether the room allows them, and passes over those it does not.
What playing comes to: a call that is answered makes no further move, a call moves nobody but
itself, and a fetch that ends under the lock ends as it does for a call that runs alone.
-/

set_option autoImplicit false

namespace Workday.Cache

variable {σ ε α : Type}

namespace Room

variable {r r' : Room σ ε α} {m : Move} {i j : Nat} {call : Call σ ε α}
  {fetched : Fetched ε α} {value : α}

/-- A move that is possible is played. -/
theorem Moved.play (h : r.Moved m r') : r.play m = r' := by
  simp only [Room.play, h.step, Option.getD_some]

theorem play_advance_zero : r.play (.advance 0) = r := by
  rw [(Moved.advanced 0).play, Store.advance, Clock.advance, Nat.add_zero, Int.natCast_zero,
    Int.add_zero]

/-- What the other calls are doing stays as it is. -/
theorem play_phase_of_other (hm : m.call? ≠ some j) :
    (r.play m).phases[j]? = r.phases[j]? := by
  cases hstep : r.step m with
  | none => simp only [play, hstep, Option.getD_none]
  | some r' =>
    rw [(Moved.of_step hstep).play]
    exact (Moved.of_step hstep).phase_of_other hm

/-- A call that is answered makes no move. -/
theorem play_of_answered {answer : Except ε (Served α)} (h : r.phases[i]? = some (.done answer))
    (hm : m.call? = some i) : r.play m = r := by
  cases hstep : r.step m with
  | none => simp only [play, hstep, Option.getD_none]
  | some r' => exact absurd hm ((Moved.of_step hstep).call_ne_of_done h)

/-- The lock is held when a call has arrived: the call does no more. -/
theorem welcome_of_held (h : (r.play (.arrive i)).holder = some j) :
    r.welcome i = r.play (.arrive i) := by
  simp only [welcome, h]

/-- The lock is free when a call has arrived: the call goes on, to its end if its fetch takes no
time. -/
theorem welcome_of_free (h : (r.play (.arrive i)).holder = none) :
    r.welcome i =
      if ((r.play (.arrive i)).enter i).holderDelay = 0 then
        ((r.play (.arrive i)).enter i).leave i
      else (r.play (.arrive i)).enter i := by
  simp only [welcome, h]

/-- A call enters with two moves: it takes the lock, and it checks again. -/
theorem enter_eq {admitted : Room σ ε α} (htake : r.Moved (.take i) admitted)
    (hcheck : admitted.Moved (.check i) r') : r.enter i = r' := by
  rw [enter, htake.play, hcheck.play]

/-- When a call enters, the phases of the others stay as they are. -/
theorem enter_phase_of_other (h : j ≠ i) : (r.enter i).phases[j]? = r.phases[j]? := by
  have hcheck : (Move.check i).call? ≠ some j := fun heq => h (Option.some.inj heq).symm
  have htake : (Move.take i).call? ≠ some j := fun heq => h (Option.some.inj heq).symm
  exact (play_phase_of_other hcheck).trans (play_phase_of_other htake)

/-- When a call leaves, the phases of the others stay as they are. -/
theorem leave_phase_of_other (h : j ≠ i) : (r.leave i).phases[j]? = r.phases[j]? := by
  have hstore : (Move.store i).call? ≠ some j := fun heq => h (Option.some.inj heq).symm
  have hfinish : (Move.finish i).call? ≠ some j := fun heq => h (Option.some.inj heq).symm
  exact (play_phase_of_other hstore).trans (play_phase_of_other hfinish)

/-- When a call is welcomed, the phases of the others stay as they are. -/
theorem welcome_phase_of_other (h : j ≠ i) : (r.welcome i).phases[j]? = r.phases[j]? := by
  have harrive : (r.play (.arrive i)).phases[j]? = r.phases[j]? :=
    play_phase_of_other fun heq => h (Option.some.inj heq).symm
  cases hholder : (r.play (.arrive i)).holder with
  | some b => rw [welcome_of_held hholder, harrive]
  | none =>
    rw [welcome_of_free hholder]
    split
    · rw [leave_phase_of_other h, enter_phase_of_other h, harrive]
    · rw [enter_phase_of_other h, harrive]

/-- A fetch ends as it does for a call that runs alone, and the lock is given up. -/
theorem leave_eq (h : r.phases[i]? = some (.fetching fetched)) :
    r.leave i =
      { r.setPhase i (.done (r.store.finish fetched.result).1) with
        store := (r.store.finish fetched.result).2, holder := none } := by
  unfold leave
  cases hresult : fetched.result with
  | error e =>
    rw [(Moved.failed h hresult).play]
    exact play_of_answered (getElem?_set_phase_self h) rfl
  | ok value =>
    rw [(Moved.fetched h hresult).play, (Moved.stored (getElem?_set_phase_self h)).play]
    simp only [setPhase, List.set_set]
    rfl

/-- A call that is welcomed while the entry is fresh for it is answered at once. -/
theorem welcome_of_fresh (hidle : r.phases[i]? = some .idle) (hmade : r.calls[i]? = some call)
    (hfresh : r.store.fresh? call.ttl = some value) :
    r.welcome i = r.setPhase i (.done (.ok ⟨value, .cache⟩)) := by
  rw [← (Moved.servedAtOnce hidle hmade hfresh).play]
  have hdone : (r.play (.arrive i)).phases[i]? = some (.done (.ok ⟨value, .cache⟩)) := by
    rw [(Moved.servedAtOnce hidle hmade hfresh).play]
    exact getElem?_set_phase_self hidle
  cases hholder : (r.play (.arrive i)).holder with
  | some b => exact welcome_of_held hholder
  | none =>
    rw [welcome_of_free hholder, enter, leave]
    simp only [play_of_answered hdone (m := .take i) rfl,
      play_of_answered hdone (m := .check i) rfl, play_of_answered hdone (m := .finish i) rfl,
      play_of_answered hdone (m := .store i) rfl, ite_self]

end Room

end Workday.Cache
