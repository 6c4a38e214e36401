import Mathlib.Data.List.TakeWhile
import Workday.CommandLine.Reader

/-!
# The parts of a command line

The words of a level are read from the left, and reading goes on from where it stopped. So a command
line is read in two parts: the words in front of its verb (`IsFront`), which give the options that hold
for every verb, and the words after it, which are read by a grammar of their own. `read_of_isFront` puts
the two together.
-/

set_option autoImplicit false

namespace Workday.CommandLine

open Workday.Text (trim trimStart trimEnd isBlank IntegerFault readDigits readMagnitude readInteger)

variable {g : Grammar} {p q : Progress} {front rest : List String} {values : Values} {text : String}

namespace Progress

/-- Reading goes on from where it stopped. What has been read is in the progress, so the words behind
are read as if the front had not been there. -/
theorem read_append (h : read g p front = .ok (q, none)) (rest : List String) :
    read g p (front ++ rest) = read g q rest := by
  induction front generalizing p with
  | nil =>
    cases h
    rfl
  | cons word front ih =>
    rw [read] at h
    rw [List.cons_append, read]
    split at h
    · split at h <;> cases h
    · rename_i hverb
      rw [if_neg hverb]
      cases htake : p.take g word with
      | error stop =>
        rw [htake] at h
        cases h
      | ok next =>
        rw [htake] at h
        exact ih h

/-- A word that starts no level is taken. -/
theorem read_cons_of_not_verb {word : String} (h : g.isVerb word = false) (rest : List String) :
    read g p (word :: rest) = (p.take g word).bind fun q => read g q rest := by
  rw [read, h, Bool.and_false, if_neg Bool.false_ne_true]

/-- A word is taken if an option waits for its value. -/
theorem read_cons_of_awaiting (h : p.isAwaiting = true) (word : String) (rest : List String) :
    read g p (word :: rest) = (p.take g word).bind fun q => read g q rest := by
  rw [read, h, Bool.not_true, Bool.and_false, Bool.false_and, if_neg Bool.false_ne_true]

/-- Settling what is pending does not bring the reader behind the separator. -/
theorem settle_isBehindSeparator (h : p.settle = .ok q) :
    q.isBehindSeparator = p.isBehindSeparator := by
  unfold settle at h
  split at h
  · cases h
    rfl
  · cases h
  · rename_i slot value _
    cases hput : p.values.put slot value with
    | error fault =>
      rw [hput] at h
      cases h
    | ok values =>
      rw [hput] at h
      cases h
      rfl

/-- Nothing waits for its value where the last value can be read. -/
theorem isAwaiting_of_settle (h : p.settle = .ok q) : p.isAwaiting = false := by
  unfold settle at h
  unfold isAwaiting
  split at h
  · rename_i hnone
    rw [hnone]
  · cases h
  · rename_i hsome
    rw [hsome]

end Progress

/-! ## Options in front of a verb -/

/-- The words are options of the program with their values, and these are the values. -/
def IsFront (front : List String) (values : Values) : Prop :=
  ∃ p q, Progress.read .program (.start .program) front = .ok (p, none) ∧
    p.isBehindSeparator = false ∧ p.settle = .ok q ∧ q.values = values

/-- No words are options in front, which give no values. -/
theorem isFront_nil : IsFront [] {} :=
  ⟨_, _, rfl, rfl, rfl, rfl⟩

theorem isVerb_name (verb : Verb) : Grammar.program.isVerb verb.name = true := by
  cases verb <;> decide

theorem verb?_name (verb : Verb) : Grammar.program.verb? verb.name = some verb := by
  cases verb <;> decide

/-- Behind options the first word that is a verb is the verb, and all after it is the verb's. -/
theorem read_of_isFront (h : IsFront front values) (verb : Verb) (rest : List String) :
    read (front ++ verb.name :: rest) =
      (readCommand verb rest).map fun command =>
        ⟨values.config, values.region.getD default, command⟩ := by
  obtain ⟨p, q, hread, hseparator, hsettle, rfl⟩ := h
  have hawaiting := Progress.isAwaiting_of_settle hsettle
  have hverb : Progress.read .program p (verb.name :: rest) = .ok (p, some (verb, rest)) := by
    simp only [Progress.read, hseparator, hawaiting, isVerb_name, verb?_name, Bool.not_false,
      Bool.and_self, if_true]
  unfold read
  rw [Progress.read_append hread, hverb]
  simp only [bind, Except.bind, hsettle]
  cases readCommand verb rest <;> rfl

/-- A text that starts with no blank keeps its first character when it is trimmed. Blanks go from its
end, and none of them is the first. -/
theorem exists_trim_cons {c : Char} (h : isBlank c = false) (cs : List Char) :
    ∃ ds, trim (c :: cs) = c :: ds := by
  have hfront : trimStart (c :: cs) = c :: cs := by
    rw [trimStart, List.dropWhile_cons_of_neg]
    rw [h]
    exact Bool.false_ne_true
  have hlast : [c].dropWhile isBlank = [c] := by
    rw [List.dropWhile_cons_of_neg]
    rw [h]
    exact Bool.false_ne_true
  rw [trim, hfront, trimEnd, List.reverse_cons, List.dropWhile_append, hlast]
  split
  · exact ⟨[], rfl⟩
  · exact ⟨_, by rw [List.reverse_append]; rfl⟩

/-- A text that names a region is no option. Lower case leaves a hyphen as it is, and no region has a
name that begins with one. -/
theorem dashed?_of_region {region : Region} (h : Region.read text = .ok region) :
    dashed? text = none := by
  have hhead : ∀ cs, text.toList ≠ '-' :: cs := by
    intro cs hcs
    have hname : Region.ofString? text = some region := by
      unfold Region.read at h
      split at h
      · cases h
        assumption
      · cases h
    obtain ⟨ds, hds⟩ := exists_trim_cons (c := '-') (by decide) cs
    have hsame := List.find?_some hname
    have hlower : (Text.lowerCase ('-' :: ds)).map Region.hyphenated =
        '-' :: (Text.lowerFrom ['-'] ds).map Region.hyphenated := rfl
    rw [hcs, hds, beq_iff_eq, hlower] at hsame
    cases region <;> exact absurd hsame (by simp [Region.name])
  unfold dashed?
  split
  · exact absurd ‹_› (hhead _)
  · exact absurd ‹_› (hhead _)
  · exact absurd ‹_› (hhead _)
  · rfl

/-- The option for the region is a long one, with its value in the next word. -/
theorem dashed?_region : dashed? "--region" = some (.long "region" none) := by
  decide

/-- A region may be given behind other options, if none has been given yet. The option is settled only
when the next word comes, so the values before it may still be waiting for theirs to be read. -/
theorem IsFront.region {region : Region} (h : IsFront front values) (hnone : values.region = none)
    (htext : Region.read text = .ok region) :
    IsFront (front ++ ["--region", text]) { values with region := some region } := by
  obtain ⟨p, q, hread, hseparator, hsettle, rfl⟩ := h
  have hbefore : q.isBehindSeparator = false :=
    (Progress.settle_isBehindSeparator hsettle).trans hseparator
  -- the option is taken first and waits for its value; the region is read when that is settled
  let waiting : Progress := { q with pending := some ⟨.region, none⟩ }
  let given : Progress := { q with pending := some ⟨.region, some text⟩ }
  have htake : p.take .program "--region" = .ok waiting := by
    have hoption : Grammar.program.options.find? (·.long? == some "region") = some .region := by
      decide
    simp only [Progress.take, hseparator, Bool.false_eq_true, if_false, dashed?_region,
      Progress.takeLong, hoption, Progress.takeOption, hsettle, bind, Except.bind]
    rfl
  have hvalue : waiting.take .program text = .ok given := by
    simp only [Progress.take, waiting, given, hbefore, Bool.false_eq_true, if_false,
      dashed?_of_region htext, Progress.takeValue]
    rfl
  have hput : q.values.put .region text = .ok { q.values with region := some region } := by
    simp only [Values.put, Values.has, hnone, readRegion, htext]
    rfl
  refine ⟨given, ⟨{ q.values with region := some region }, none, q.places, q.isBehindSeparator⟩,
    ?_, hbefore, ?_, rfl⟩
  · rw [Progress.read_append hread, Progress.read_cons_of_not_verb (by decide), htake]
    show Progress.read .program waiting [text] = _
    rw [Progress.read_cons_of_awaiting rfl, hvalue]
    rfl
  · simp only [Progress.settle, given, hput]
    rfl

/-! ## The arguments of a verb -/

/-- A list of bank holidays is for the region in front of the verb: none is taken behind it. -/
theorem readCommand_region (words : List String) :
    readCommand .bankHolidays ("--region" :: words) = .error (.fault (.unexpected "--region")) := by
  have htake : (Progress.start (.ofVerb .bankHolidays)).take (.ofVerb .bankHolidays) "--region" =
      .error (.fault (.unexpected "--region")) := by
    simp only [Progress.take, dashed?_region]
    rfl
  have hverb : (Grammar.ofVerb .bankHolidays).isVerb "--region" = false := by decide
  unfold readCommand
  simp only [Progress.read_cons_of_not_verb hverb, htake]
  rfl

/-! ### A count and a start -/

/-- What is read as digits is digits. The induction is on the characters, with the number so far
carried along. -/
theorem isDigit_of_readDigits {most n m : Nat} {excess : IntegerFault} {cs : List Char}
    (h : readDigits most excess n cs = .ok m) : ∀ c ∈ cs, c.isDigit = true := by
  induction cs generalizing n with
  | nil => exact fun c hc => absurd hc List.not_mem_nil
  | cons c cs ih =>
    rw [readDigits] at h
    split at h
    · cases h
    · rename_i hdigit
      split at h
      · cases h
      · exact List.forall_mem_cons.mpr ⟨by simpa using hdigit, ih h⟩

/-- What is read as a number without a sign is digits, and at least one. -/
theorem isDigit_of_readMagnitude {most m : Nat} {excess : IntegerFault} {cs : List Char}
    (h : readMagnitude most excess cs = .ok m) : cs ≠ [] ∧ ∀ c ∈ cs, c.isDigit = true := by
  cases cs with
  | nil => cases h
  | cons c cs => exact ⟨List.cons_ne_nil c cs, isDigit_of_readDigits h⟩

/-- Digits look like a number, so a word of them is no option even behind a hyphen. -/
theorem looksNumeric_of_digits {cs : List Char} (h : ∀ c ∈ cs, c.isDigit = true) :
    looksNumeric cs = true := by
  have hrest : cs.dropWhile Char.isDigit = [] := List.dropWhile_eq_nil_iff.mpr h
  simp only [looksNumeric, hrest]

/-- A word that reads as a number is one, or no option at all. A negative number begins like an option
of letters, and looks numeric. -/
theorem dashed?_of_readWide {slot : Slot} {n : Int} (h : readWide slot text = .ok n) :
    dashed? text = none ∨ ∃ cs, dashed? text = some (.letters cs) ∧ looksNumeric cs = true := by
  obtain ⟨m, hm⟩ : ∃ m, readInteger wideBounds.1 wideBounds.2 text.toList = .ok m := by
    unfold readWide at h
    cases hm : readInteger wideBounds.1 wideBounds.2 text.toList with
    | error fault =>
      rw [hm] at h
      cases h
    | ok m => exact ⟨m, rfl⟩
  unfold dashed?
  split
  · rename_i heq
    rw [heq] at hm
    cases hm
  · rename_i cs heq
    rw [heq] at hm
    cases hm
  · rename_i cs _ _ heq
    rw [heq] at hm
    simp only [readInteger] at hm
    cases hread : readMagnitude wideBounds.1 .tooSmall cs with
    | error fault =>
      rw [hread] at hm
      cases hm
    | ok k => exact Or.inr ⟨cs, rfl, looksNumeric_of_digits (isDigit_of_readMagnitude hread).2⟩
  · exact Or.inl rfl

/-- The option for the start is a long one with its value behind the sign of equality, whatever the
value. -/
theorem dashed?_from (text : String) :
    dashed? ("--from=" ++ text) = some (.long "from" (some text)) := by
  unfold dashed?
  rw [String.toList_append]
  simp

/-- A count is followed by the start that an option gives. -/
theorem readCommand_deadline {count : String} {n : Int} {date : Date}
    (hcount : readWide .days count = .ok n) (htext : Date.read text = .ok date) :
    readCommand .nextWorkingDay [count, "--from=" ++ text] =
      .ok (.nextWorkingDay n (some date)) := by
  let g : Grammar := .ofVerb .nextWorkingDay
  let counted : Progress := { pending := some ⟨.days, some count⟩, places := [] }
  let started : Progress := { values := { days := some n, start := some date }, places := [] }
  -- a count below zero looks like an option, and is taken for a value as it looks numeric
  have htake : (Progress.start g).take g count = .ok counted := by
    rcases dashed?_of_readWide hcount with hnone | ⟨cs, hletters, hnumeric⟩
    · simp only [Progress.take, hnone]
      rfl
    · simp only [Progress.take, hletters, hnumeric]
      rfl
  -- the start settles the count, which has waited until now
  have hstart : counted.take g ("--from=" ++ text) = .ok started := by
    have hdays : ({} : Values).put .days count = .ok { days := some n } := by
      simp only [Values.put, Values.has, hcount]
      rfl
    have hdate : ({ days := some n } : Values).put .start text =
        .ok { days := some n, start := some date } := by
      simp only [Values.put, Values.has, readDate, htext]
      rfl
    have hoption : g.options.find? (·.long? == some "from") = some .start := by decide
    simp only [Progress.take, counted, dashed?_from, Progress.takeLong, hoption,
      Progress.takeOption, Progress.settle, hdays, Except.map, bind, Except.bind, hdate]
    rfl
  have hread : Progress.read g (.start g) [count, "--from=" ++ text] = .ok (started, none) := by
    rw [Progress.read_cons_of_not_verb rfl, htake]
    show Progress.read g counted ["--from=" ++ text] = _
    rw [Progress.read_cons_of_not_verb rfl, hstart]
    rfl
  unfold readCommand
  simp only [show Grammar.ofVerb .nextWorkingDay = g from rfl, hread]
  rfl

end Workday.CommandLine
