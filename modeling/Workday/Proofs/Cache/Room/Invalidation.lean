import Workday.Proofs.Cache.Room.Moves
import Workday.Proofs.Latest

/-!
# Calls that begin after an invalidation

An invalidation drops the entry and leaves the fetches in flight alone. One of them may store its
value afterwards, and then a call that begins after the invalidation is served a value from before
it. `answers_after_invalidation` says when: every such answer is the value of the call that stored
last since the invalidation, it is from before exactly if that call was in flight then, and there
is a run to such an answer exactly if some call was in flight with a value that is not yet too old
for the handle of the later call.
-/

set_option autoImplicit false

namespace Workday.Cache

variable {σ ε α : Type}

/-- The call is past its second check, or is answered. -/
def Phase.isPastCheck : Phase ε α → Bool
  | fetching _ | storing _ | done _ => true
  | _ => false

/-- A call with a fetch in flight is past its second check. -/
theorem Phase.isPastCheck_of_isInFlight {p : Phase ε α} (h : p.isInFlight = true) :
    p.isPastCheck = true := by
  cases p with
  | fetching | storing => rfl
  | _ => cases h

namespace Room

variable {r r' : Room σ ε α} {m : Move} {moves made : List Move} {i j k : Nat} {p q : Phase ε α}

/-! ## Who has started a fetch -/

/-- A call that makes a move in a run was not answered before it, because an answered call makes no
move: there is no way on from being done. -/
theorem run_undone (hrun : r.run moves = some r') (hmem : m ∈ moves) (hm : m.call? = some j) :
    ∃ p, r.phases[j]? = some p ∧ ∀ answer, p ≠ .done answer := by
  induction moves generalizing r with
  | nil => cases hmem
  | cons first moves ih =>
    obtain ⟨a, hmoved, hrest⟩ := run_cons_eq_some_iff.mp hrun
    rcases List.mem_cons.mp hmem with rfl | hmem
    · obtain ⟨q, _, hq, _⟩ := hmoved.turn hm
      refine ⟨q, hq, ?_⟩
      rintro answer rfl
      exact hmoved.call_ne_of_done hq hm
    · obtain ⟨p, hp, hundone⟩ := ih hrest hmem
      rcases hmoved.phase_cases hp with ⟨_, hold⟩ | ⟨q, hq, hturn⟩
      · exact ⟨p, hold, hundone⟩
      · refine ⟨q, hq, ?_⟩
        rintro answer rfl
        cases hturn

/-- The second check of a call stands among the moves if it has a fetch in flight, and only if it
is past that check. -/
def ChecksAgree (moves : List Move) (r : Room σ ε α) : Prop :=
  ∀ (i : Nat) (p : Phase ε α), r.phases[i]? = some p →
    (p.isInFlight = true → .check i ∈ moves) ∧ (.check i ∈ moves → p.isPastCheck = true)

/-- In a room where no call has arrived no check has been made. -/
theorem checksAgree_opened (store : Store σ α) (calls : List (Call σ ε α)) :
    ChecksAgree [] (opened store calls) := by
  intro i p hi
  obtain rfl := eq_idle_of_opened hi
  exact ⟨nofun, nofun⟩

/-- A move keeps the record of checks in step with the phases of the calls. Only a check brings a call
past its check, and it is a check that puts a fetch in flight. -/
theorem Moved.checksAgree (h : r.Moved m r') (hr : ChecksAgree made r) :
    ChecksAgree (made ++ [m]) r' := by
  intro i p hp
  have hearlier : m ≠ .check i → .check i ∈ made ++ [m] → .check i ∈ made := by
    intro hne hmem
    rcases List.mem_append.mp hmem with hmem | hmem
    · exact hmem
    · exact absurd (List.mem_singleton.mp hmem).symm hne
  rcases h.phase_cases hp with ⟨hm, hold⟩ | ⟨q, hq, hturn⟩
  · obtain ⟨hflight, hpast⟩ := hr i p hold
    refine ⟨fun h => List.mem_append_left _ (hflight h), fun hmem => hpast (hearlier ?_ hmem)⟩
    rintro rfl
    exact hm rfl
  · obtain ⟨hflight, hpast⟩ := hr i q hq
    cases hturn with
    | queued | admitted =>
      exact ⟨nofun, fun hmem => hpast (hearlier nofun hmem)⟩
    | started => exact ⟨fun _ => List.mem_append_right made List.mem_cons_self, fun _ => rfl⟩
    | fetched => exact ⟨fun _ => List.mem_append_left _ (hflight rfl), fun _ => rfl⟩
    | _ => exact ⟨nofun, fun _ => rfl⟩

/-- Of the calls not yet answered, those that have made their second check have a fetch in
flight. -/
theorem check_mem_iff {store : Store σ α} {calls : List (Call σ ε α)}
    (hrun : (opened store calls).run moves = some r) (hp : r.phases[k]? = some p)
    (hundone : ∀ answer, p ≠ .done answer) : .check k ∈ moves ↔ r.InFlight k := by
  obtain ⟨hflight, hpast⟩ := run_traces (motive := ChecksAgree)
    (fun h hm => hm.checksAgree h) (checksAgree_opened store calls) hrun k p hp
  constructor
  · intro hmem
    refine ⟨p, hp, ?_⟩
    cases p with
    | fetching | storing => rfl
    | done answer => exact absurd rfl (hundone answer)
    | _ => cases hpast hmem
  · rintro ⟨p', hp', h⟩
    obtain rfl := Option.some.inj (hp.symm.trans hp')
    exact hflight h

/-! ## Whose value the entry is -/

/-- The entry was last touched by call `k`, which stored the value it had fetched. -/
def FetchedBy (r : Room σ ε α) (moves : List Move) (k : Nat) (value : α) : Prop :=
  IsLatest Move.TouchesEntry moves (.store k) ∧
    r.phases[k]? = some (.done (.ok ⟨value, .network⟩))

/-- A value stays the one that a call fetched as long as no move touches the entry. -/
theorem FetchedBy.keep {value : α} (hk : r.FetchedBy made k value) (h : r.Moved m r')
    (hm : ¬ m.TouchesEntry) : r'.FetchedBy (made ++ [m]) k value :=
  ⟨isLatest_concat.mpr (Or.inr ⟨hm, hk.1⟩), h.done_stays hk.2⟩

/-- The entry, if there is one, is the value that some call fetched. -/
def Supplied (moves : List Move) (r : Room σ ε α) : Prop :=
  ∀ e, r.store.entry = some e → ∃ k, r.FetchedBy moves k e.value

/-- A move keeps it so that the entry was fetched by some call: whoever stores had fetched what is
stored. -/
theorem Moved.supplied (h : r.Moved m r') (hr : Supplied made r) :
    Supplied (made ++ [m]) r' := by
  by_cases hm : m.TouchesEntry
  · cases h with
    | @stored i e storing =>
      intro e' he
      obtain rfl := Option.some.inj he
      exact ⟨i, isLatest_concat.mpr (Or.inl rfl), getElem?_set_phase_self storing⟩
    | dropped => exact nofun
    | _ => exact absurd hm id
  · intro e he
    rw [h.entry_eq hm] at he
    obtain ⟨k, hk⟩ := hr e he
    exact ⟨k, hk.keep h hm⟩

/-! ## What a fetch in flight may still store -/

/-- The entry that call `k` would store if its fetch ended now. -/
inductive WouldStore (r : Room σ ε α) (k : Nat) : Entry α → Prop where
  | fetching {fetched : Fetched ε α} {value : α} (fetching : r.phases[k]? = some (.fetching fetched))
      (result : fetched.result = .ok value) : WouldStore r k ⟨value, r.store.clock⟩
  | storing {e : Entry α} (storing : r.phases[k]? = some (.storing e)) : WouldStore r k e

/-- A call that would store something has a fetch in flight. -/
theorem WouldStore.inFlight {e : Entry α} (h : r.WouldStore k e) : r.InFlight k := by
  cases h with
  | fetching fetching => exact ⟨_, fetching, rfl⟩
  | storing storing => exact ⟨_, storing, rfl⟩

/-- What a call would store depends on its phase and on the clock alone. -/
theorem WouldStore.congr {e : Entry α} (h : r.WouldStore k e) (hphases : r'.phases = r.phases)
    (hclock : r'.store.clock = r.store.clock) : r'.WouldStore k e := by
  cases h with
  | fetching fetching result => exact hclock ▸ .fetching (hphases ▸ fetching) result
  | storing storing => exact .storing (hphases ▸ storing)

/-- Call `k` starts no further fetch, and what it may store or has stored is too old for a time to
live. -/
structure TooOld (ttl : Int) (k : Nat) (moves : List Move) (r : Room σ ε α) : Prop where
  past : ∃ p, r.phases[k]? = some p ∧ p.isPastCheck = true
  pending : ∀ e, r.WouldStore k e → ttl ≤ (e.age r.store.clock : Int)
  stored : IsLatest Move.TouchesEntry moves (.store k) → r.store.IsStale ttl

/-- A call that is past its second check stays past it. -/
theorem Moved.past (h : r.Moved m r') (hr : ∃ p, r.phases[k]? = some p ∧ p.isPastCheck = true) :
    ∃ p, r'.phases[k]? = some p ∧ p.isPastCheck = true := by
  obtain ⟨p, hp, hpast⟩ := hr
  by_cases hm : m.call? = some k
  · obtain ⟨q, p', hq, hp', hturn⟩ := h.turn hm
    obtain rfl := Option.some.inj (hp.symm.trans hq)
    refine ⟨p', hp', ?_⟩
    cases hturn with
    | failed | fetched | stored => rfl
    | _ => cases hpast
  · exact ⟨p, (h.phase_of_other hm).trans hp, hpast⟩

/-- What a call may store was there before the move, and no younger. A fetch that is still running
counts as being of this moment, so its end makes nothing younger. -/
theorem WouldStore.of_moved {e : Entry α} (he : r'.WouldStore k e) (h : r.Moved m r')
    (hpast : ∃ p, r.phases[k]? = some p ∧ p.isPastCheck = true) :
    ∃ e', r.WouldStore k e' ∧ (e'.age r.store.clock : Int) ≤ e.age r'.store.clock := by
  obtain ⟨p, hp, hpast⟩ := hpast
  cases he with
  | fetching fetching result =>
    rcases h.phase_cases fetching with ⟨_, hold⟩ | ⟨q, hq, hturn⟩
    · refine ⟨_, .fetching hold result, ?_⟩
      simp only [Entry.age_self, Int.le_refl]
    · cases hturn
      cases hp.symm.trans hq
      cases hpast
  | storing storing =>
    rcases h.phase_cases storing with ⟨_, hold⟩ | ⟨q, hq, hturn⟩
    · exact ⟨e, .storing hold, Entry.age_le h.clock_le⟩
    · cases hturn with
      | fetched result => exact ⟨_, .fetching hq result, Entry.age_le h.clock_le⟩

/-- What is too old for a time to live stays too old: time does not go back, and the call starts no
other fetch. -/
theorem Moved.tooOld {ttl : Int} (h : r.Moved m r') (hr : TooOld ttl k made r) :
    TooOld ttl k (made ++ [m]) r' where
  past := h.past hr.past
  pending := by
    intro e he
    obtain ⟨e', he', hage⟩ := he.of_moved h hr.past
    exact Int.le_trans (hr.pending e' he') hage
  stored := by
    intro hlatest
    rcases isLatest_concat.mp hlatest with hm | ⟨hm, hold⟩
    · cases h with
      | stored storing =>
        obtain rfl := Move.store.inj hm
        intro e he
        obtain rfl := Option.some.inj he
        exact hr.pending _ (.storing storing)
      | _ => cases hm
    · intro e he
      rw [h.entry_eq hm] at he
      exact Int.le_trans (hr.stored hold e he) (Entry.age_le h.clock_le)

/-! ## The answers of later calls -/

/-- With the last of the moves call `j` is answered with a value. -/
def AnswersLast (r : Room σ ε α) (moves : List Move) (j : Nat) (served : Served α)
    (r' : Room σ ε α) : Prop :=
  ∃ before m a, moves = before ++ [m] ∧ m.call? = some j ∧ r.run before = some a ∧
    a.step m = some r' ∧ r'.phases[j]? = some (.done (.ok served))

/-- Moves with the last of which a call is answered are a run. -/
theorem AnswersLast.run {served : Served α} (h : r.AnswersLast moves j served r') :
    r.run moves = some r' := by
  obtain ⟨before, m, a, rfl, _, hrun, hstep, _⟩ := h
  exact run_concat_eq_some_iff.mpr ⟨a, hrun, Moved.of_step hstep⟩

/-- A move in front does not change with which move a call is answered. -/
theorem AnswersLast.cons {r'' : Room σ ε α} {served : Served α}
    (h : r'.AnswersLast moves j served r'') (hmoved : r.Moved m r') :
    r.AnswersLast (m :: moves) j served r'' := by
  obtain ⟨before, last, a, rfl, hlast, hrun, hrest⟩ := h
  exact ⟨m :: before, last, a, rfl, hlast, run_cons_eq_some_iff.mpr ⟨r', hmoved, hrun⟩, hrest⟩

/-- A call is answered with the entry, which was fresh for it and stays as it is, or with the value
it stores. -/
theorem Moved.answered {served : Served α} (h : r.Moved m r') (hm : m.call? = some j)
    (hdone : r'.phases[j]? = some (.done (.ok served))) :
    (¬ m.TouchesEntry ∧ ∃ call, r.calls[j]? = some call ∧
        r.store.fresh? call.ttl = some served.value) ∨
      (m = .store j ∧ served.origin = .network) := by
  obtain ⟨q, p, _, hp, hturn⟩ := h.turn hm
  obtain rfl := Option.some.inj (hp.symm.trans hdone)
  cases hturn with
  | servedAtOnce made fresh => exact Or.inl ⟨id, _, made, fresh⟩
  | servedLate made fresh => exact Or.inl ⟨id, _, made, fresh⟩
  | stored => exact Or.inr ⟨rfl, rfl⟩

/-- Every answer in a run from a room with no entry is the value of the call that stored last: the
caller itself if the answer comes from the network, and else the one that the entry is from. -/
theorem AnswersLast.fetchedBy {served : Served α} (h : r.AnswersLast moves j served r')
    (hentry : r.store.entry = none) : ∃ k, r'.FetchedBy moves k served.value := by
  obtain ⟨before, m, a, rfl, hm, hrun, hstep, hdone⟩ := h
  have hmoved := Moved.of_step hstep
  rcases hmoved.answered hm hdone with ⟨htouch, call, _, hfresh⟩ | ⟨rfl, horigin⟩
  · obtain ⟨e, he, _, hvalue⟩ := Store.fresh?_eq_some_iff.mp hfresh
    have hnone : Supplied [] r := fun e he => by cases hentry.symm.trans he
    obtain ⟨k, hk⟩ := run_traces (motive := Supplied) (fun h hm => hm.supplied h) hnone hrun e he
    rw [hvalue] at hk
    exact ⟨k, hk.keep hmoved htouch⟩
  · obtain ⟨value, origin⟩ := served
    obtain rfl : origin = .network := horigin
    exact ⟨j, isLatest_concat.mpr (Or.inl rfl), hdone⟩

/-- A call is not served what another stored once that is too old for it: a check would have to find an
entry fresh that is too old. -/
theorem AnswersLast.not_tooOld {served : Served α} {call : Call σ ε α}
    (h : r.AnswersLast moves j served r') (hcall : r.calls[j]? = some call)
    (hk : IsLatest Move.TouchesEntry moves (.store k)) (hne : k ≠ j) :
    ¬ TooOld call.ttl k [] r := by
  intro hold
  obtain ⟨before, m, a, rfl, hm, hrun, hstep, hdone⟩ := h
  rcases (Moved.of_step hstep).answered hm hdone with ⟨htouch, call', hmade, hfresh⟩ | ⟨rfl, _⟩
  · obtain rfl : call' = call := by
      rw [run_calls_eq hrun, hcall] at hmade
      exact (Option.some.inj hmade).symm
    have hlatest : IsLatest Move.TouchesEntry before (.store k) := by
      rcases isLatest_concat.mp hk with rfl | ⟨_, hlatest⟩
      · exact absurd trivial htouch
      · exact hlatest
    have hstale := (run_traces (motive := TooOld call'.ttl k) (fun h hm => hm.tooOld h) hold
      hrun).stored hlatest
    cases hfresh.symm.trans (Store.fresh?_eq_none_iff.mpr hstale)
  · rcases isLatest_concat.mp hk with hstore | ⟨htouch, _⟩
    · exact hne (Move.store.inj hstore)
    · exact htouch trivial

/-- A value that waits to be stored can be stored before another call begins, which is served it if
it is fresh for that call. -/
theorem served_after_store {call : Call σ ε α} {e : Entry α}
    (hstoring : r.phases[k]? = some (.storing e)) (hidle : r.phases[j]? = some .idle)
    (hcall : r.calls[j]? = some call) (hyoung : (e.age r.store.clock : Int) < call.ttl) :
    ∃ later r', r.AnswersLast later j ⟨e.value, .cache⟩ r' ∧ r'.FetchedBy later k e.value := by
  have hne : j ≠ k := ne_of_phase hstoring hidle (by simp)
  have hput : r.Moved (.store k) _ := .stored hstoring
  have hidle' := (hput.phase_of_other fun h => hne (Option.some.inj h).symm).trans hidle
  have hserved := Moved.servedAtOnce hidle' hcall
    (Store.fresh?_eq_some_iff.mpr ⟨e, rfl, hyoung, rfl⟩)
  refine ⟨[.store k, .arrive j], _, ⟨[.store k], _, _, rfl, rfl, run_singleton.trans hput.step,
    hserved.step, getElem?_set_phase_self hidle'⟩, ?_⟩
  have hsupplied : IsLatest Move.TouchesEntry ([] ++ [.store k]) (.store k) :=
    isLatest_concat.mpr (Or.inl rfl)
  exact FetchedBy.keep ⟨hsupplied, getElem?_set_phase_self hstoring⟩ hserved id

/-- So can a value whose fetch still runs, once the fetch has ended. -/
theorem WouldStore.served {call : Call σ ε α} {e : Entry α} (h : r.WouldStore k e)
    (hidle : r.phases[j]? = some .idle) (hcall : r.calls[j]? = some call)
    (hyoung : (e.age r.store.clock : Int) < call.ttl) :
    ∃ later r', r.AnswersLast later j ⟨e.value, .cache⟩ r' ∧ r'.FetchedBy later k e.value := by
  cases h with
  | storing storing => exact served_after_store storing hidle hcall hyoung
  | fetching fetching result =>
    have hne : j ≠ k := ne_of_phase fetching hidle (by simp)
    have hend := Moved.fetched fetching result
    have hidle' := (hend.phase_of_other fun h => hne (Option.some.inj h).symm).trans hidle
    obtain ⟨later, r', hanswer, hk⟩ :=
      served_after_store (getElem?_set_phase_self fetching) hidle' hcall hyoung
    exact ⟨.finish k :: later, r', hanswer.cons hend, hk.1.cons, hk.2⟩

/-- What can come to a call that begins after an invalidation. Every value it is answered with was
fetched by the call that stored last since, and that fetch is from before the invalidation exactly
if its call was in flight at it. A run that ends with such an answer exists exactly if some call was
in flight with a value that could still be stored and is younger than the later call's time to
live. -/
theorem answers_after_invalidation (store : Store σ α) (calls : List (Call σ ε α))
    (moves : List Move) (r dropped : Room σ ε α) (j : Nat) (call : Call σ ε α)
    (hrun : (opened store calls).run moves = some r) (hdrop : r.step .invalidate = some dropped)
    (hidle : r.phases[j]? = some .idle) (hcall : calls[j]? = some call) :
    (∀ later served r', dropped.AnswersLast later j served r' →
      ∃ k, r'.FetchedBy later k served.value ∧ (.check k ∈ moves ↔ r.InFlight k)) ∧
    ((∃ later served r' k, dropped.AnswersLast later j served r' ∧
        r'.FetchedBy later k served.value ∧ .check k ∈ moves) ↔
      ∃ k e, r.WouldStore k e ∧ (e.age r.store.clock : Int) < call.ttl) := by
  obtain rfl : { r with store := r.store.invalidate } = dropped := Option.some.inj hdrop
  have hcall' : r.calls[j]? = some call := (run_calls_eq hrun).symm ▸ hcall
  -- whoever stores after the invalidation was not answered before it
  have hstorer : ∀ {k later served r'},
      AnswersLast { r with store := r.store.invalidate } later j served r' →
      IsLatest Move.TouchesEntry later (.store k) → (.check k ∈ moves ↔ r.InFlight k) := by
    intro k later served r' hanswer hk
    obtain ⟨p, hp, hundone⟩ := run_undone hanswer.run hk.mem rfl
    exact check_mem_iff hrun hp hundone
  refine ⟨?_, ?_, ?_⟩
  · intro later served r' hanswer
    obtain ⟨k, hk⟩ := hanswer.fetchedBy rfl
    exact ⟨k, hk, hstorer hanswer hk.1⟩
  · rintro ⟨later, served, r', k, hanswer, hk, hcheck⟩
    obtain ⟨p, hp, hflight⟩ := (hstorer hanswer hk.1).mp hcheck
    have hne : k ≠ j := by
      rintro rfl
      cases hidle.symm.trans hp
      cases hflight
    refine Classical.byContradiction fun hnone => ?_
    refine hanswer.not_tooOld hcall' hk.1 hne ⟨⟨p, hp, ?_⟩, fun e he => ?_, ?_⟩
    · exact Phase.isPastCheck_of_isInFlight hflight
    · exact Int.not_lt.mp fun hyoung => hnone ⟨k, e, he.congr rfl rfl, hyoung⟩
    · exact fun hlatest => absurd hlatest not_isLatest_nil
  · rintro ⟨k, e, hstore, hyoung⟩
    have hdropped : WouldStore { r with store := r.store.invalidate } k e := hstore.congr rfl rfl
    obtain ⟨later, r', hanswer, hk⟩ := hdropped.served hidle hcall' hyoung
    exact ⟨later, _, r', k, hanswer, hk, (hstorer hanswer hk.1).mpr hstore.inFlight⟩

/-- A value fetched at time 0 waits to be stored at time 5, when the entry is dropped. A later call
with a time to live of 60 can be served it, and one with a time to live of 5 never is. -/
theorem answers_after_invalidation_while_storing :
    let call (ttl : Int) (value : String) : Call Unit String String :=
      ⟨ttl, fun source => (⟨.ok value, 0⟩, source)⟩
    let calls := [call 60 "old", call 60 "new", call 5 "newer"]
    let moves : List Move := [.arrive 0, .take 0, .check 0, .finish 0, .advance 5]
    ∃ r dropped, (opened (.empty ⟨0, 0⟩ ()) calls).run moves = some r ∧
      r.step .invalidate = some dropped ∧
      (∃ later served r' k, dropped.AnswersLast later 1 served r' ∧
        r'.FetchedBy later k served.value ∧ .check k ∈ moves) ∧
      ¬ ∃ later served r' k, dropped.AnswersLast later 2 served r' ∧
        r'.FetchedBy later k served.value ∧ .check k ∈ moves := by
  intro call calls moves
  have law := fun j call hidle hcall => (answers_after_invalidation (.empty ⟨0, 0⟩ ()) calls moves
    _ _ j call rfl rfl hidle hcall).2
  refine ⟨_, _, rfl, rfl, ?_, ?_⟩
  · exact (law 1 (call 60 "new") rfl rfl).mpr ⟨0, ⟨"old", ⟨0, 0⟩⟩, .storing rfl, by decide⟩
  · intro h
    obtain ⟨k, e, hstore, hyoung⟩ := (law 2 (call 5 "newer") rfl rfl).mp h
    rcases hstore with ⟨hphase, _⟩ | hphase <;> rcases k with _ | _ | _ | k <;> cases hphase
    exact absurd hyoung (by decide)

/-- An invalidation does not keep a fetch in flight from being served to later calls. The first call
has started its fetch when the entry is dropped; it ends and stores, and the second call, which
begins only then, is served the old value. -/
theorem invalidation_undone_by_fetch_in_flight :
    ¬ ∀ (store : Store Unit String) (calls : List (Call Unit String String))
      (moves later : List Move) (r dropped r' : Room Unit String String) (j k : Nat)
      (served : Served String), (opened store calls).run moves = some r →
      r.step .invalidate = some dropped → r.phases[j]? = some .idle →
      dropped.AnswersLast later j served r' → r'.FetchedBy later k served.value →
      .check k ∉ moves := by
  intro h
  let call (value : String) : Call Unit String String :=
    ⟨60, fun source => (⟨.ok value, 5⟩, source)⟩
  refine h (.empty ⟨0, 0⟩ ()) [call "old", call "new"] [.arrive 0, .take 0, .check 0]
    [.finish 0, .store 0, .arrive 1] _ _ _ 1 0 ⟨"old", .cache⟩ rfl rfl rfl
    ⟨[.finish 0, .store 0], .arrive 1, _, rfl, rfl, rfl, rfl, rfl⟩
    ⟨⟨[.finish 0], [.arrive 1], rfl, ?_⟩, rfl⟩ (by decide)
  intro x hx
  obtain rfl := List.mem_singleton.mp hx
  exact id

end Room

end Workday.Cache
