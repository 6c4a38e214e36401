import Workday.Cache.Room

/-!
# The image of a cache under a function of its values

A cache hands values on and never looks at one. So a function of the values may be applied before a
call or after it: both give the same. The same holds of calls that overlap, as every move of a room
goes the same way in its image (`Room.step_map`). Two caches whose values have the same images are
therefore indistinguishable, up to what the function forgets.
-/

set_option autoImplicit false

namespace Workday.Cache

variable {σ ε α β : Type} {f : α → β}

def Served.map (f : α → β) (x : Served α) : Served β := ⟨f x.value, x.origin⟩

def Entry.map (f : α → β) (e : Entry α) : Entry β := ⟨f e.value, e.storedAt⟩

def Fetched.map (f : α → β) (x : Fetched ε α) : Fetched ε β := ⟨x.result.map f, x.delay⟩

/-- The fetch whose results are the images of the results of another. -/
def fetchImage (f : α → β) (fetch : σ → Fetched ε α × σ) (source : σ) : Fetched ε β × σ :=
  ((fetch source).1.map f, (fetch source).2)

def Call.map (f : α → β) (call : Call σ ε α) : Call σ ε β := ⟨call.ttl, fetchImage f call.fetch⟩

def Store.map (f : α → β) (s : Store σ α) : Store σ β :=
  ⟨s.entry.map (Entry.map f), s.clock, s.source, s.fetches⟩

def Phase.map (f : α → β) : Phase ε α → Phase ε β
  | idle => idle
  | waiting => waiting
  | admitted => admitted
  | fetching fetched => fetching (fetched.map f)
  | storing entry => storing (entry.map f)
  | done answer => done (answer.map (Served.map f))

def Room.map (f : α → β) (r : Room σ ε α) : Room σ ε β :=
  ⟨r.store.map f, r.calls.map (Call.map f), r.phases.map (Phase.map f), r.holder, r.line⟩

/-! ## A call that runs alone -/

namespace Store

/-- Whether a value is fresh does not depend on what it is. -/
theorem fresh?_map (s : Store σ α) (ttl : Int) : (s.map f).fresh? ttl = (s.fresh? ttl).map f := by
  obtain ⟨entry, clock, source, fetches⟩ := s
  cases entry with
  | none => rfl
  | some e =>
    have hsame : (e.map f).isFresh clock ttl = e.isFresh clock ttl := rfl
    simp only [fresh?, map, Option.map_some, hsame]
    cases e.isFresh clock ttl <;> rfl

/-- A call on the image of a store is the image of the call on the store: what is fetched and when
is told without a look at the values. -/
theorem get_map (s : Store σ α) (call : Call σ ε α) :
    (s.map f).get (call.map f) =
      ((s.get call).1.map (Served.map f), (s.get call).2.map f) := by
  have hfresh : (s.map f).fresh? (call.map f).ttl = (s.fresh? call.ttl).map f := fresh?_map s _
  unfold get
  rw [hfresh]
  cases s.fresh? call.ttl with
  | some value => rfl
  | none =>
    simp only [Option.map_none, start, Call.map, fetchImage, Store.map, Fetched.map, advance]
    cases (call.fetch s.source).1.result <;> rfl

end Store

/-! ## Calls that overlap -/

namespace Room

variable (r : Room σ ε α) (i : Nat)

theorem getElem?_phases_map : (r.map f).phases[i]? = (r.phases[i]?).map (Phase.map f) :=
  List.getElem?_map

theorem getElem?_calls_map : (r.map f).calls[i]? = (r.calls[i]?).map (Call.map f) :=
  List.getElem?_map

theorem setPhase_map (phase : Phase ε α) :
    (r.setPhase i phase).map f = (r.map f).setPhase i (phase.map f) := by
  simp only [setPhase, map, List.map_set]

/-- A call arrives in the image as it does in the room. -/
theorem arrive_map (call : Call σ ε α) :
    (r.map f).arrive i (call.map f) = (r.arrive i call).map f := by
  have hfresh : (r.map f).store.fresh? (call.map f).ttl = (r.store.fresh? call.ttl).map f :=
    Store.fresh?_map r.store _
  unfold arrive
  rw [hfresh]
  cases r.store.fresh? call.ttl with
  | some value => exact (r.setPhase_map i (.done (.ok ⟨value, .cache⟩))).symm
  | none => simp only [Option.map_none, map, setPhase, List.map_set, Phase.map]

/-- A call finds in the image the image of what it finds in the room. -/
theorem check_map (call : Call σ ε α) :
    (r.map f).check i (call.map f) = (r.check i call).map f := by
  have hfresh : (r.map f).store.fresh? (call.map f).ttl = (r.store.fresh? call.ttl).map f :=
    Store.fresh?_map r.store _
  unfold check
  rw [hfresh]
  cases r.store.fresh? call.ttl with
  | some value => simp only [Option.map_some, map, setPhase, List.map_set, Phase.map]; rfl
  | none => simp only [Option.map_none, map, setPhase, List.map_set, Phase.map]; rfl

/-- A fetch ends in the image with the image of its result. -/
theorem finish_map (result : Except ε α) :
    (r.map f).finish i (result.map f) = (r.finish i result).map f := by
  cases result with
  | ok value => exact (r.setPhase_map i (.storing ⟨value, r.store.clock⟩)).symm
  | error e => simp only [Except.map, finish, map, setPhase, List.map_set, Phase.map]

/-- The image of a room goes the way that the room goes. A move looks at phases, at the lock and at
ages, and none of these is changed by a function of the values, so each move is possible in the image
just if it is in the room. -/
theorem step_map (m : Move) : (r.map f).step m = (r.step m).map (map f) := by
  cases m with
  | arrive i =>
    simp only [step, getElem?_phases_map, getElem?_calls_map]
    cases hphase : r.phases[i]? with
    | none => rfl
    | some phase =>
      cases hcall : r.calls[i]? with
      | none => cases phase <;> rfl
      | some call =>
        cases phase with
        | idle => exact congrArg some (r.arrive_map i call)
        | waiting | admitted | fetching _ | storing _ | done _ => rfl
  | take i =>
    -- the lock is held by numbers of calls, which the image does not change
    have hholder : (r.map f).holder = r.holder := rfl
    simp only [step, getElem?_phases_map, hholder]
    cases r.phases[i]? with
    | none => rfl
    | some phase =>
      cases r.holder with
      | some _ => cases phase <;> rfl
      | none =>
        cases phase with
        | waiting => simp only [Option.map_some, Phase.map, take, setPhase, map, List.map_set]
        | idle | admitted | fetching _ | storing _ | done _ => rfl
  | check i =>
    simp only [step, getElem?_phases_map, getElem?_calls_map]
    cases hphase : r.phases[i]? with
    | none => rfl
    | some phase =>
      cases hcall : r.calls[i]? with
      | none => cases phase <;> rfl
      | some call =>
        cases phase with
        | admitted => exact congrArg some (r.check_map i call)
        | idle | waiting | fetching _ | storing _ | done _ => rfl
  | finish i =>
    simp only [step, getElem?_phases_map]
    cases r.phases[i]? with
    | none => rfl
    | some phase =>
      cases phase with
      | fetching fetched => exact congrArg some (r.finish_map i fetched.result)
      | idle | waiting | admitted | storing _ | done _ => rfl
  | store i =>
    simp only [step, getElem?_phases_map]
    cases r.phases[i]? with
    | none => rfl
    | some phase =>
      cases phase with
      | storing entry =>
        simp only [Option.map_some, Phase.map, put, setPhase, map, List.map_set]
        rfl
      | idle | waiting | admitted | fetching _ | done _ => rfl
  | advance ms => rfl
  | invalidate => rfl

/-- Every move is played in the image as it is in the room. -/
theorem play_map (m : Move) : (r.map f).play m = (r.play m).map f := by
  unfold play
  rw [step_map]
  cases r.step m <;> rfl

theorem enter_map : (r.map f).enter i = (r.enter i).map f := by
  simp only [enter, play_map]

theorem leave_map : (r.map f).leave i = (r.leave i).map f := by
  simp only [leave, play_map]

/-- How long a fetch in flight takes is the same in the image. -/
theorem holderDelay_map : (r.map f).holderDelay = r.holderDelay := by
  simp only [holderDelay, map, List.getElem?_map]
  cases hholder : r.holder with
  | none => rfl
  | some i =>
    simp only [Option.bind_some]
    cases r.phases[i]? with
    | none => rfl
    | some phase => cases phase <;> rfl

/-- A call is welcomed to the image as it is to the room. -/
theorem welcome_map : (r.map f).welcome i = (r.welcome i).map f := by
  simp only [welcome, play_map]
  have hholder : ((r.play (.arrive i)).map f).holder = (r.play (.arrive i)).holder := rfl
  rw [hholder]
  cases (r.play (.arrive i)).holder with
  | some _ => rfl
  | none =>
    simp only [enter_map, leave_map, holderDelay_map]
    split <;> rfl

/-- The image is drained as the room is. The induction is on the fuel, which is a bound on the calls
that are left. -/
theorem drain_map (fuel : Nat) : drain fuel (r.map f) = (drain fuel r).map f := by
  induction fuel generalizing r with
  | zero => rfl
  | succ fuel ih =>
    have hholder : (r.map f).holder = r.holder := rfl
    have hline : (r.map f).line = r.line := rfl
    unfold drain
    rw [hholder, hline]
    cases r.holder with
    | some i => simp only [holderDelay_map, play_map, leave_map, ih]
    | none =>
      cases r.line with
      | nil => rfl
      | cons i line => simp only [enter_map, ih]

/-- The answers of the image are the images of the answers. -/
theorem answers_map :
    (r.map f).answers = r.answers.map (Except.map (Served.map f)) := by
  simp only [answers, map, List.filterMap_map, List.map_filterMap]
  congr 1
  funext phase
  cases phase <;> rfl

end Room

/-- Calls that arrive together go the same way in the image, whatever their values are: no move looks at
a value, so the calls take their turns in the same order. -/
theorem Store.batch_map (s : Store σ α) (calls : List (Call σ ε α)) :
    (s.map f).batch (calls.map (Call.map f)) =
      ((s.batch calls).1.map (Except.map (Served.map f)), (s.batch calls).2.map f) := by
  have hopened : Room.opened (s.map f) (calls.map (Call.map f)) = (Room.opened s calls).map f := by
    simp only [Room.opened, Room.map, List.map_map]
    rfl
  have hwelcomed (numbers : List Nat) (r : Room σ ε α) :
      numbers.foldl Room.welcome (r.map f) = (numbers.foldl Room.welcome r).map f := by
    induction numbers generalizing r with
    | nil => rfl
    | cons i numbers ih => rw [List.foldl_cons, List.foldl_cons, Room.welcome_map, ih]
  simp only [batch, List.length_map, hopened, hwelcomed, Room.drain_map, Room.answers_map]
  rfl

/-! ## Caches with the same image -/

namespace Store

variable {s s' : Store σ α}

/-- Calls whose images are the same, on stores whose images are the same, have answers whose images
are the same, and so have the stores after them. -/
theorem get_image_eq {call call' : Call σ ε α} (hs : s.map f = s'.map f)
    (hcall : call.map f = call'.map f) :
    (s.get call).1.map (Served.map f) = (s'.get call').1.map (Served.map f) ∧
      (s.get call).2.map f = (s'.get call').2.map f := by
  have hget := s.get_map (f := f) call
  rw [hs, hcall, get_map] at hget
  obtain ⟨hanswer, hstore⟩ := Prod.mk.inj hget
  exact ⟨hanswer.symm, hstore.symm⟩

/-- Batches whose images are the same, on stores whose images are the same, have answers whose
images are the same, and so have the stores after them. -/
theorem batch_image_eq {calls calls' : List (Call σ ε α)} (hs : s.map f = s'.map f)
    (hcalls : calls.map (Call.map f) = calls'.map (Call.map f)) :
    (s.batch calls).1.map (Except.map (Served.map f)) =
        (s'.batch calls').1.map (Except.map (Served.map f)) ∧
      (s.batch calls).2.map f = (s'.batch calls').2.map f := by
  have hbatch := s.batch_map (f := f) calls
  rw [hs, hcalls, batch_map] at hbatch
  obtain ⟨hanswers, hstore⟩ := Prod.mk.inj hbatch
  exact ⟨hanswers.symm, hstore.symm⟩

end Store

end Workday.Cache
