import IntentRollout.Proofs.ConstraintGrammar
import IntentRollout.Proofs.ValidConfigurations
import IntentRollout.Slo.Gate

/-! Waits as they are written: a number in decimal digits with a unit after it, and white space around both. A text
cannot be taken apart in two ways, since a number ends with a digit and no unit does. What is read is what was written
if it can be counted in 64 bits, and any other text is refused, but for one gap: the number of minutes is checked and
not that of the seconds they are counted as, so with too many of them the program breaks off. -/

namespace IntentRollout

namespace Wait

open Slo (Digits Trimmed)

inductive Numeral : List Char → Nat → Prop where
  | bare {digits : List Char} (filled : digits ≠ []) (all : Digits digits) :
      Numeral digits (Nat.ofDigitChars 10 digits 0)
  | plus {digits : List Char} (filled : digits ≠ []) (all : Digits digits) :
      Numeral ('+' :: digits) (Nat.ofDigitChars 10 digits 0)

/-- The units of waits. A number without one counts seconds. -/
inductive TimeUnit where
  | unnamed
  | second
  | millisecond
  | minute

namespace TimeUnit

def mark : TimeUnit → List Char
  | unnamed => []
  | second => ['s']
  | millisecond => ['m', 's']
  | minute => ['m']

def milliseconds : TimeUnit → Nat
  | unnamed => 1000
  | second => 1000
  | millisecond => 1
  | minute => 60000

/-- How much one unit adds to the count: minutes are counted as seconds, and all others as what they are. -/
def counts : TimeUnit → Nat
  | minute => 60
  | _ => 1

def Fits (unit : TimeUnit) (number : Nat) : Prop := number * unit.counts < UInt64.size

/-- The milliseconds that so many of the unit are counted as. -/
def counted : TimeUnit → Nat → Except Fault Nat
  | minute, number => (secondsOfMinutes number).map (· * 1000)
  | unit, number => .ok (number * unit.milliseconds)

end TimeUnit

inductive Written (text : String) : Nat → TimeUnit → Prop where
  | spelled {spelling : List Char} {number : Nat} {unit : TimeUnit} (numeral : Numeral spelling number)
      (trimmed : Trimmed text.toList (spelling ++ unit.mark)) : Written text number unit

/-- The milliseconds that a text asks for, if they can be counted. -/
def Asks (text : String) (milliseconds : Nat) : Prop :=
  ∃ number unit, Written text number unit ∧ unit.Fits number ∧ milliseconds = number * unit.milliseconds

/-- What is read is what the text asks for; one that asks for nothing is refused with an error that has it as it
stands. -/
structure Exact (text : String) : Prop where
  read : ∀ milliseconds, readWait text = .ok milliseconds ↔ Asks text milliseconds
  refused : (∀ milliseconds, ¬ Asks text milliseconds) → readWait text = .error (.invalidWait text)

/-- So many minutes can be written in 64 bits, and the seconds that they are counted as cannot. -/
structure Overlong (text : String) (minutes : Nat) : Prop where
  written : Written text minutes .minute
  small : minutes < UInt64.size
  exceeds : UInt64.size ≤ minutes * 60

def unsigned : List Char → List Char
  | '+' :: digits => digits
  | digits => digits

private theorem unsigned_of_bare {spelling : List Char} (bare : spelling.head? ≠ some '+') :
    unsigned spelling = spelling := by
  unfold unsigned
  split
  · exact absurd rfl bare
  · rfl

private theorem unsigned_of_digits {digits : List Char} (all : Digits digits) : unsigned digits = digits := by
  apply unsigned_of_bare
  intro signed
  cases all '+' (List.mem_of_head? signed)

private theorem numeral_iff {spelling : List Char} {number : Nat} : Numeral spelling number ↔
    unsigned spelling ≠ [] ∧ Digits (unsigned spelling) ∧ Nat.ofDigitChars 10 (unsigned spelling) 0 = number := by
  constructor
  · intro numeral
    cases numeral with
    | bare filled all =>
      rw [unsigned_of_digits all]
      exact ⟨filled, all, rfl⟩
    | plus filled all => exact ⟨filled, all, rfl⟩
  · rintro ⟨filled, all, rfl⟩
    by_cases bare : spelling.head? = some '+'
    · obtain ⟨digits, rfl⟩ := List.head?_eq_some_iff.mp bare
      exact .plus filled all
    · rw [unsigned_of_bare bare] at filled all ⊢
      exact .bare filled all

theorem Numeral.unique {spelling : List Char} {number other : Nat} (one : Numeral spelling number)
    (two : Numeral spelling other) : number = other :=
  (numeral_iff.mp one).2.2.symm.trans (numeral_iff.mp two).2.2

/-- The last character of a number is a digit. -/
theorem Numeral.ends {spelling : List Char} {number : Nat} (numeral : Numeral spelling number) :
    ∃ digit, spelling.getLast? = some digit ∧ digit.isDigit = true := by
  have last {digits : List Char} (filled : digits ≠ []) (all : Digits digits) :
      ∃ digit, digits.getLast? = some digit ∧ digit.isDigit = true :=
    ⟨digits.getLast filled, List.getLast?_eq_some_getLast filled, all _ (List.getLast_mem filled)⟩
  cases numeral with
  | bare filled all => exact last filled all
  | plus filled all =>
    obtain ⟨digit, found, decimal⟩ := last filled all
    exact ⟨digit, by rw [List.getLast?_cons, found]; rfl, decimal⟩

def readDigits? (digits : List Char) : Option Nat :=
  if digits.isEmpty || !digits.all Char.isDigit then none
  else if Nat.ofDigitChars 10 digits 0 < UInt64.size then some (Nat.ofDigitChars 10 digits 0) else none

private theorem readNatural?_eq (characters : List Char) :
    readNatural? characters = readDigits? (unsigned characters) := by
  simp only [readNatural?, readDigits?, Nat.ofDigitChars, Nat.mul_comm]
  rfl

private theorem readDigits?_eq_some {digits : List Char} {number : Nat} : readDigits? digits = some number ↔
    (digits ≠ [] ∧ Digits digits ∧ Nat.ofDigitChars 10 digits 0 = number) ∧ number < UInt64.size := by
  have accepted : (digits.isEmpty || !digits.all Char.isDigit) = false ↔ digits ≠ [] ∧ Digits digits := by
    rw [Bool.or_eq_false_iff, List.isEmpty_eq_false_iff, Bool.not_eq_false', List.all_eq_true]
    rfl
  rw [readDigits?, Option.ite_none_left_eq_some, Bool.not_eq_true, accepted, Option.ite_none_right_eq_some,
    Option.some_inj]
  constructor
  · rintro ⟨⟨filled, all⟩, small, rfl⟩
    exact ⟨⟨filled, all, rfl⟩, small⟩
  · rintro ⟨⟨filled, all, rfl⟩, small⟩
    exact ⟨⟨filled, all⟩, small, rfl⟩

private theorem readNatural?_eq_some {characters : List Char} {number : Nat} :
    readNatural? characters = some number ↔ Numeral characters number ∧ number < UInt64.size := by
  rw [readNatural?_eq, readDigits?_eq_some, numeral_iff]

private theorem beforeUnit?_append (front unit : List Char) : beforeUnit? unit (front ++ unit) = some front := by
  rw [beforeUnit?, if_pos (List.isSuffixOf_iff_suffix.mpr (List.suffix_append front unit))]
  simp

private theorem beforeUnit?_eq_some {unit characters front : List Char} :
    beforeUnit? unit characters = some front ↔ characters = front ++ unit := by
  constructor
  · intro found
    rw [beforeUnit?, Option.ite_none_right_eq_some] at found
    obtain ⟨before, rfl⟩ := List.isSuffixOf_iff_suffix.mp found.1
    simpa using found.2
  · rintro rfl
    exact beforeUnit?_append front unit

private theorem beforeUnit?_of_last {unit characters : List Char} {last : Char} (ends : unit.getLast? = some last)
    (other : characters.getLast? ≠ some last) : beforeUnit? unit characters = none := by
  apply Option.eq_none_iff_forall_ne_some.mpr
  intro front found
  apply other
  rw [beforeUnit?_eq_some.mp found, List.getLast?_append, ends]
  rfl

/-- What stands before the unit of a text, and the unit. -/
def divided (characters : List Char) : List Char × TimeUnit :=
  match beforeUnit? ['m', 's'] characters with
  | some front => (front, .millisecond)
  | none =>
    match beforeUnit? ['s'] characters with
    | some front => (front, .second)
    | none =>
      match beforeUnit? ['m'] characters with
      | some front => (front, .minute)
      | none => (characters, .unnamed)

private theorem read_eq (text : String) :
    read text = (readNumber (divided (trimBlank text.toList)).1).bind (divided (trimBlank text.toList)).2.counted := by
  have seconds : (readNumber · |>.map (· * 1000)) = (readNumber · |>.bind fun number => .ok (number * 1000)) := by
    funext characters
    cases readNumber characters <;> rfl
  rw [read, divided]
  cases beforeUnit? ['m', 's'] (trimBlank text.toList) with
  | some front =>
    change readNumber front = (readNumber front).bind fun number => .ok (number * 1)
    simp only [Nat.mul_one]
    cases readNumber front <;> rfl
  | none =>
    cases beforeUnit? ['s'] (trimBlank text.toList) with
    | some front => exact congrFun seconds front
    | none =>
      cases beforeUnit? ['m'] (trimBlank text.toList) with
      | some front =>
        change ((readNumber front).bind secondsOfMinutes).map _ = (readNumber front).bind _
        cases readNumber front <;> rfl
      | none => exact congrFun seconds _

private theorem divided_append (characters : List Char) :
    (divided characters).1 ++ (divided characters).2.mark = characters := by
  rw [divided]
  split
  next found => exact (beforeUnit?_eq_some.mp found).symm
  · split
    next found => exact (beforeUnit?_eq_some.mp found).symm
    · split
      next found => exact (beforeUnit?_eq_some.mp found).symm
      next => exact List.append_nil characters

/-- A number is not mistaken for a part of its unit. -/
theorem divided_spelled {spelling : List Char} {number : Nat} (numeral : Numeral spelling number) (unit : TimeUnit) :
    divided (spelling ++ unit.mark) = (spelling, unit) := by
  obtain ⟨digit, last, decimal⟩ := numeral.ends
  have other {mark : Char} (letter : mark.isDigit = false) : spelling.getLast? ≠ some mark := by
    intro same
    rw [last] at same
    cases same
    rw [decimal] at letter
    cases letter
  cases unit with
  | millisecond =>
    change divided (spelling ++ ['m', 's']) = _
    rw [divided, beforeUnit?_append]
  | second =>
    have longer : beforeUnit? ['m', 's'] (spelling ++ ['s']) = none := by
      apply Option.eq_none_iff_forall_ne_some.mpr
      intro front cut
      have same : spelling ++ ['s'] = (front ++ ['m']) ++ ['s'] := by simpa using beforeUnit?_eq_some.mp cut
      refine other (by rfl : 'm'.isDigit = false) ?_
      rw [List.append_cancel_right same, List.getLast?_append]
      rfl
    change divided (spelling ++ ['s']) = _
    rw [divided, longer, beforeUnit?_append]
  | minute =>
    have next : (spelling ++ ['m']).getLast? ≠ some 's' := by simp
    change divided (spelling ++ ['m']) = _
    rw [divided, beforeUnit?_of_last rfl next, beforeUnit?_of_last rfl next, beforeUnit?_append]
  | unnamed =>
    rw [TimeUnit.mark, List.append_nil, divided, beforeUnit?_of_last rfl (other rfl), beforeUnit?_of_last rfl (other rfl),
      beforeUnit?_of_last rfl (other rfl)]

private theorem readNumber_eq_ok {characters : List Char} {number : Nat} :
    readNumber characters = .ok number ↔ Numeral characters number ∧ number < UInt64.size := by
  rw [← readNatural?_eq_some, readNumber]
  cases readNatural? characters <;> simp

private theorem readNumber_eq_error {characters : List Char} {fault : Fault}
    (failed : readNumber characters = .error fault) :
    fault = .malformed := by
  rw [readNumber] at failed
  split at failed
  · cases failed
  · cases failed
    rfl

private theorem read_of_written {text : String} {number : Nat} {unit : TimeUnit} (written : Written text number unit)
    (small : number < UInt64.size) : read text = unit.counted number := by
  obtain ⟨numeral, trimmed⟩ := written
  rw [read_eq, trimmed.trimBlank_eq, divided_spelled numeral, readNumber_eq_ok.mpr ⟨numeral, small⟩]
  rfl

private theorem read_of_unwritten {text : String}
    (unwritten : ∀ number unit, Written text number unit → UInt64.size ≤ number) :
    read text = .error .malformed := by
  cases front : readNumber (divided (trimBlank text.toList)).1 with
  | error fault =>
    rw [read_eq, front, readNumber_eq_error front]
    rfl
  | ok number =>
    obtain ⟨numeral, small⟩ := readNumber_eq_ok.mp front
    have written : Written text number (divided (trimBlank text.toList)).2 := by
      refine .spelled numeral ?_
      rw [divided_append]
      exact Slo.trimmed_trimBlank _
    exact absurd small (Nat.not_lt_of_le (unwritten _ _ written))

theorem Written.unique {text : String} {number other : Nat} {unit unit' : TimeUnit} (one : Written text number unit)
    (two : Written text other unit') : number = other ∧ unit = unit' := by
  obtain ⟨numeral, trimmed⟩ := one
  obtain ⟨numeral', trimmed'⟩ := two
  have same := congrArg divided (trimmed.trimBlank_eq.symm.trans trimmed'.trimBlank_eq)
  rw [divided_spelled numeral, divided_spelled numeral'] at same
  cases same
  exact ⟨numeral.unique numeral', rfl⟩

private theorem secondsOfMinutes_eq_ok {minutes seconds : Nat} :
    secondsOfMinutes minutes = .ok seconds ↔ minutes * 60 < UInt64.size ∧ minutes * 60 = seconds := by
  rw [secondsOfMinutes]
  split
  next fits => simp [fits]
  next large => simp [large]

namespace TimeUnit

variable {unit : TimeUnit} {number milliseconds : Nat}

private theorem small_of_fits (fits : unit.Fits number) : number < UInt64.size := by
  cases unit <;> simp only [Fits, counts] at fits <;> omega

private theorem counted_eq_ok (small : number < UInt64.size) :
    unit.counted number = .ok milliseconds ↔ unit.Fits number ∧ milliseconds = number * unit.milliseconds := by
  have single : number * 1 < UInt64.size := (Nat.mul_one number).symm ▸ small
  have plain {length : Nat} : (Except.ok (number * length) : Except Fault Nat) = .ok milliseconds ↔
      number * 1 < UInt64.size ∧ milliseconds = number * length := by
    rw [Except.ok.injEq, eq_comm]
    exact (and_iff_right single).symm
  cases unit with
  | minute =>
    rw [counted, map_eq_ok]
    simp only [secondsOfMinutes_eq_ok]
    constructor
    · rintro ⟨seconds, ⟨fits, rfl⟩, rfl⟩
      exact ⟨fits, Nat.mul_assoc number 60 1000⟩
    · rintro ⟨fits, rfl⟩
      exact ⟨number * 60, ⟨fits, rfl⟩, Nat.mul_assoc number 60 1000⟩
  | unnamed => exact plain
  | second => exact plain
  | millisecond => exact plain

/-- Only minutes can be written and not be counted. -/
theorem counted_eq_error {fault : Fault} : unit.counted number = .error fault ↔
    unit = .minute ∧ UInt64.size ≤ number * 60 ∧ fault = .overflow := by
  cases unit with
  | minute =>
    rw [counted, secondsOfMinutes]
    split
    next fits =>
      have small := Nat.not_le_of_lt fits
      simp [Except.map, small]
    next large =>
      have exceeds := Nat.le_of_not_lt large
      simp [Except.map, exceeds, eq_comm]
  | unnamed => simp [counted]
  | second => simp [counted]
  | millisecond => simp [counted]

end TimeUnit

theorem readWait_eq_ok {text : String} {milliseconds : Nat} :
    readWait text = .ok milliseconds ↔ Asks text milliseconds := by
  rw [readWait, mapError_eq_ok]
  by_cases known : ∃ number unit, Written text number unit ∧ number < UInt64.size
  · obtain ⟨number, unit, written, small⟩ := known
    rw [read_of_written written small, TimeUnit.counted_eq_ok small]
    constructor
    · intro counted
      exact ⟨number, unit, written, counted⟩
    · rintro ⟨other, unit', written', counted⟩
      obtain ⟨rfl, rfl⟩ := written.unique written'
      exact counted
  · simp only [not_exists, not_and, Nat.not_lt] at known
    rw [read_of_unwritten known]
    constructor
    · intro impossible
      cases impossible
    · rintro ⟨number, unit, written, fits, -⟩
      exact absurd (TimeUnit.small_of_fits fits) (Nat.not_lt_of_le (known number unit written))

private theorem read_eq_overflow {text : String} : read text = .error .overflow ↔ ∃ minutes, Overlong text minutes := by
  constructor
  · intro failed
    by_cases known : ∃ number unit, Written text number unit ∧ number < UInt64.size
    · obtain ⟨number, unit, written, small⟩ := known
      rw [read_of_written written small] at failed
      obtain ⟨rfl, exceeds, -⟩ := TimeUnit.counted_eq_error.mp failed
      exact ⟨number, written, small, exceeds⟩
    · simp only [not_exists, not_and, Nat.not_lt] at known
      rw [read_of_unwritten known] at failed
      cases failed
  · rintro ⟨minutes, written, small, exceeds⟩
    rw [read_of_written written small]
    exact TimeUnit.counted_eq_error.mpr ⟨rfl, exceeds, rfl⟩

private theorem readWait_eq_overflow {text : String} :
    readWait text = .error .overflow ↔ ∃ minutes, Overlong text minutes := by
  rw [← read_eq_overflow, readWait]
  cases read text with
  | ok milliseconds => simp [Except.mapError]
  | error fault => cases fault <;> simp [Except.mapError]

private theorem Overlong.not_asks {text : String} {minutes : Nat} (overlong : Overlong text minutes)
    (milliseconds : Nat) :
    ¬ Asks text milliseconds := by
  rintro ⟨number, unit, written, fits, -⟩
  obtain ⟨rfl, rfl⟩ := overlong.written.unique written
  exact Nat.not_lt_of_le overlong.exceeds fits

private theorem exact_iff {text : String} : Exact text ↔ ∀ minutes, ¬ Overlong text minutes := by
  constructor
  · intro exact minutes overlong
    have refused := exact.refused overlong.not_asks
    rw [readWait_eq_overflow.mpr ⟨minutes, overlong⟩] at refused
    cases refused
  · intro counted
    refine ⟨fun _ => readWait_eq_ok, ?_⟩
    intro nothing
    cases found : read text with
    | ok milliseconds =>
      have read : readWait text = .ok milliseconds := by rw [readWait, found]; rfl
      exact absurd (readWait_eq_ok.mp read) (nothing milliseconds)
    | error fault =>
      cases fault with
      | malformed => rw [readWait, found]; rfl
      | overflow =>
        obtain ⟨minutes, overlong⟩ := read_eq_overflow.mp found
        exact absurd overlong (counted minutes)

end Wait

namespace Config

/-- The waits that an attempt is carried out with, in the order in which their texts are checked. -/
def runningWaits (options : Options) (metrics : MetricsSource) : List Nat :=
  [options.retry.initialPause, options.retry.longestPause, metrics.timeout, options.verify.gracePeriod,
    options.verify.pollInterval, options.verify.timeout]

/-- A configuration that passes its check is carried out with the waits that its texts are read as. -/
theorem Valid.exists_runningWaits {config : Config} (valid : Valid config) : ∃ options metrics,
    Options.ofConfig config = .ok options ∧ MetricsSource.ofConfig config = .ok metrics ∧
      metrics.retry = options.retry ∧
      List.Forall₂ (fun text wait => readWait text = .ok wait) config.waits (runningWaits options metrics) := by
  have read : ∀ text ∈ config.waits, ∃ wait, readWait text = .ok wait := valid.timed
  simp only [waits, List.forall_mem_cons, List.not_mem_nil, false_implies, implies_true, and_true] at read
  obtain ⟨⟨initialPause, initial⟩, ⟨longestPause, longest⟩, ⟨limit, limited⟩, ⟨gracePeriod, grace⟩,
    ⟨pollInterval, poll⟩, ⟨timeout, ends⟩⟩ := read
  let policy := RetryPolicy.ofAttempts config.rollout.retry.attempts.toNat initialPause longestPause
  have tried : config.rollout.retry.policy = .ok policy := by
    rw [RetryTexts.policy, initial, longest]
    rfl
  obtain ⟨options, made, verify, retry⟩ : ∃ options, Options.ofConfig config = .ok options ∧
      options.verify = ⟨gracePeriod, pollInterval, timeout⟩ ∧ options.retry = policy := by
    rw [Options.ofConfig, grace, poll, ends, tried]
    exact ⟨_, rfl, rfl, rfl⟩
  obtain ⟨metrics, asked, fetched, again⟩ : ∃ metrics, MetricsSource.ofConfig config = .ok metrics ∧
      metrics.timeout = limit ∧ metrics.retry = policy := by
    rw [MetricsSource.ofConfig, limited, tried]
    exact ⟨_, rfl, rfl, rfl⟩
  refine ⟨options, metrics, made, asked, again.trans retry.symm, ?_⟩
  rw [waits, runningWaits, verify, retry, fetched]
  exact .cons initial (.cons longest (.cons limited (.cons grace (.cons poll (.cons ends .nil)))))

/-- The check of a configuration breaks off at the first wait whose minutes cannot be counted, if no flaw and no text
that is refused comes before it. -/
theorem validate_eq_overflow {config : Config} : config.validate = .error .overflow ↔ config.flaw? = none ∧
    ∃ front text back, config.waits = front ++ text :: back ∧
      (∀ earlier ∈ front, ∃ milliseconds, Wait.Asks earlier milliseconds) ∧ ∃ minutes, Wait.Overlong text minutes := by
  rw [validate]
  cases config.flaw? with
  | some flaw => simp
  | none =>
    have unread {text : String} : (readWait text >>= fun _ => pure ()) = (.error .overflow : Except ConfigError Unit) ↔
        ∃ minutes, Wait.Overlong text minutes := by
      rw [← Wait.readWait_eq_overflow]
      cases readWait text <;> simp [bind, Except.bind, pure, Except.pure]
    simp only [forM_eq_error, bind_eq_ok, pure, Except.pure, and_true, Wait.readWait_eq_ok, true_and]
    simp only [← unread]
    rfl

open Wait in
/-- What is read is what a text asks for, and a text that asks for nothing is refused unless it has so many minutes that
their seconds cannot be counted. There the program breaks off, and so does the check of a configuration; one that passes
its check is carried out with the waits that its texts ask for. -/
theorem waits_exact_iff (text : String) (config : Config) :
    (Exact text ↔ ∀ minutes, ¬ Overlong text minutes) ∧
    (∀ milliseconds, readWait text = .ok milliseconds ↔ Asks text milliseconds) ∧
    (readWait text = .error .overflow ↔ ∃ minutes, Overlong text minutes) ∧
    (config.validate = .error .overflow ↔ config.flaw? = none ∧
      ∃ front text back, config.waits = front ++ text :: back ∧
        (∀ earlier ∈ front, ∃ milliseconds, Asks earlier milliseconds) ∧ ∃ minutes, Overlong text minutes) ∧
    (config.validate = .ok () → ∃ options metrics,
      Options.ofConfig config = .ok options ∧ MetricsSource.ofConfig config = .ok metrics ∧
      metrics.retry = options.retry ∧ List.Forall₂ Asks config.waits (runningWaits options metrics)) := by
  refine ⟨exact_iff, fun _ => readWait_eq_ok, readWait_eq_overflow, validate_eq_overflow, ?_⟩
  intro accepted
  obtain ⟨options, metrics, made, asked, same, read⟩ := (validate_eq_ok.mp accepted).exists_runningWaits
  exact ⟨options, metrics, made, asked, same, read.imp fun _ _ => readWait_eq_ok.mp⟩

/-- White space stands around a wait, and a sign in front of its number. -/
example : readWait " +90s" = .ok 90000 := by decide +kernel

/-- The least number of minutes whose seconds cannot be counted. -/
def endlessText : String := "307445734561825861m"

private theorem endless_overlong : Wait.Overlong endlessText 307445734561825861 where
  written := by
    have digits : Slo.Digits "307445734561825861".toList := List.all_eq_true.mp (by decide)
    exact .spelled (.bare (by decide) digits) (Slo.trimBlank_eq.mp (by decide +kernel))
  small := by decide
  exceeds := by decide

def patientLaboratory : Config :=
  { laboratory with rollout := { verify := { gracePeriod := endlessText } } }

theorem waits_of_laboratory : laboratory.validate = .ok () ∧ (∃ options metrics,
      Options.ofConfig laboratory = .ok options ∧ MetricsSource.ofConfig laboratory = .ok metrics ∧
      List.Forall₂ Wait.Asks laboratory.waits (runningWaits options metrics)) ∧
    Wait.Overlong endlessText 307445734561825861 ∧ ¬ Wait.Exact endlessText := by
  obtain ⟨exact_iff, -, -, -, kept⟩ := waits_exact_iff endlessText laboratory
  have accepted : laboratory.validate = .ok () := by decide +kernel
  obtain ⟨options, metrics, made, asked, -, waited⟩ := kept accepted
  have inexact : ¬ Wait.Exact endlessText := fun exact => exact_iff.mp exact _ endless_overlong
  exact ⟨accepted, ⟨options, metrics, made, asked, waited⟩, endless_overlong, inexact⟩

/-- The text asks for nothing that can be counted, but it is not refused as such a text: the program breaks off, and with
it the check of a configuration that has the text. -/
theorem endless_wait_unrefused : (∀ milliseconds, ¬ Wait.Asks endlessText milliseconds) ∧
    readWait endlessText = .error .overflow ∧ readWait endlessText ≠ .error (.invalidWait endlessText) ∧
    endlessText ∈ patientLaboratory.waits ∧ patientLaboratory.validate = .error .overflow := by
  have broken : readWait endlessText = .error .overflow := Wait.readWait_eq_overflow.mpr ⟨_, endless_overlong⟩
  refine ⟨endless_overlong.not_asks, broken, ?_, by decide, by decide +kernel⟩
  rw [broken]
  decide

end Config

end IntentRollout
