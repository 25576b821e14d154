import Sidereon.Distribution.Provenance
import Sidereon.Foundation.Calendar

/-!
# Shared timestamps

A shared record states its retrieval times in one form: the time to the second, six digits of a
fraction only when it is not zero, and the offset from UTC. Such a time is read by the rules of
`DateTime`, whose syntax of an offset is left open, and restated at the offset `+00:00`.
-/

namespace Sidereon.MergeReport

open Foundation Distribution
open Distribution.Date (digit two four number?)

section Model

/-- A date and a time of the day, to the second. -/
structure LocalTime where
  date : Date
  hour : Nat
  minute : Nat
  second : Nat
  hours : hour < 24
  minutes : minute < 60
  seconds : second < 60
  deriving DecidableEq

namespace LocalTime

/-- The seconds since the first of January of the year 0. -/
def total (time : LocalTime) : Int :=
  Calendar.dayNumber time.date.year time.date.month time.date.day * 86400 +
    (time.hour * 3600 + time.minute * 60 + time.second : Nat)

theorem hour_lt (total : Int) : (total % 86400).toNat / 3600 < 24 := by omega

theorem minute_lt (seconds : Nat) : seconds % 3600 / 60 < 60 := by omega

theorem second_lt (seconds : Nat) : seconds % 60 < 60 := by omega

/-- The time after some seconds, unless its year has more than four digits. -/
def ofTotal? (total : Int) : Option LocalTime :=
  let (year, month, day) := Calendar.civil (total / 86400)
  let rest := (total % 86400).toNat
  (Date.new? year month day).map fun date =>
    { date
      hour := rest / 3600
      minute := rest % 3600 / 60
      second := rest % 60
      hours := hour_lt total
      minutes := minute_lt rest
      seconds := second_lt rest }

/-- `NaiveDateTime.add`, in seconds. -/
def add? (time : LocalTime) (seconds : Int) : Option LocalTime := ofTotal? (time.total + seconds)

/-- `NaiveDateTime.to_iso8601`. -/
def toIso8601 (time : LocalTime) : Binary :=
  time.date.toIso8601 ++ 84 :: two time.hour ++ 58 :: two time.minute ++ 58 :: two time.second

end LocalTime

/-- A syntax of offsets. Versions of `DateTime` differ in whether an offset has seconds. -/
structure OffsetSyntax where
  read : Binary → Option Int
  utc : read (ascii "+00:00") = some 0
  bounded : ∀ text offset, read text = some offset → -86400 < offset ∧ offset < 86400

/-- The fraction of a second, in microseconds, and what follows it. Further digits are dropped. -/
def parseMicrosecond : Binary → Option (Nat × Binary)
  | byte :: rest =>
    if byte = 46 ∨ byte = 44 then
      let digits := rest.takeWhile isDigit
      if digits = [] then none
      else some (Uri.ofDigits ((digits ++ [48, 48, 48, 48, 48, 48]).take 6), rest.dropWhile isDigit)
    else some (0, byte :: rest)
  | [] => some (0, [])

/-- What a text states: a local time, the microseconds, and the offset of the local time. -/
structure Stated where
  time : LocalTime
  microsecond : Nat
  offset : Int
  deriving DecidableEq

/-- A text without the sign of its year. -/
def unsignedStated? (offsets : OffsetSyntax) (sign : Int) (text : Binary) : Option Stated :=
  match text.drop 10 with
  | separator :: h₁ :: h₂ :: 58 :: m₁ :: m₂ :: 58 :: s₁ :: s₂ :: rest =>
    if separator = 84 ∨ separator = 32 then do
      let date ← Date.unsigned? sign (text.take 10)
      let hour ← number? [h₁, h₂]
      let minute ← number? [m₁, m₂]
      let second ← number? [s₁, s₂]
      let (microsecond, rest) ← parseMicrosecond rest
      let offset ← offsets.read rest
      if bounds : hour < 24 ∧ minute < 60 ∧ second < 60 then
        some ⟨⟨date, hour, minute, second, bounds.1, bounds.2.1, bounds.2.2⟩, microsecond, offset⟩
      else none
    else none
  | _ => none

/-- What a text in the form of ISO 8601 states. -/
def stated? (offsets : OffsetSyntax) (text : Binary) : Option Stated :=
  match text with
  | 45 :: rest => unsignedStated? offsets (-1) rest
  | 43 :: rest => unsignedStated? offsets 1 rest
  | _ => unsignedStated? offsets 1 text

/-- `DateTime`, in UTC. -/
structure DateTime where
  time : LocalTime
  microsecond : Nat
  deriving DecidableEq

/-- The time in UTC, unless its year has more than four digits. -/
def Stated.utc? (stated : Stated) : Option LocalTime :=
  if stated.offset = 0 then some stated.time else stated.time.add? (-stated.offset)

/-- `DateTime.from_iso8601`, with the offset. A time in UTC that is out of range raises there, and
is not accepted. -/
def fromIso8601 (offsets : OffsetSyntax) (text : Binary) : Option (DateTime × Int) :=
  (stated? offsets text).bind fun stated =>
    stated.utc?.map fun time => (⟨time, stated.microsecond⟩, stated.offset)

/-- Six digits. -/
def six (n : Nat) : Binary := two (n / 10000) ++ two (n / 100) ++ two n

/-- The fraction of a second, unless it is zero. -/
def fraction (microsecond : Nat) : Binary := if microsecond = 0 then [] else 46 :: six microsecond

/-- `shared_timestamp` of a text. -/
def sharedTimestamp (offsets : OffsetSyntax) (value : Binary) : Binary :=
  match fromIso8601 offsets value with
  | some (datetime, _) =>
    datetime.time.toIso8601 ++ fraction datetime.microsecond ++ ascii "+00:00"
  | none => value

/-- `canonical_timestamp`. -/
def canonicalTimestamp (time : LocalTime) (microsecond : Nat) (offset : Int) : Binary :=
  let magnitude := offset.natAbs
  time.toIso8601 ++ fraction microsecond ++ (if offset < 0 then [45] else [43]) ++
    two (magnitude / 3600) ++ 58 :: two (magnitude % 3600 / 60) ++
    (if magnitude % 60 = 0 then [] else 58 :: two (magnitude % 60))

/-- `shared_timestamp_form` of a text: whether it is in the form. -/
def sharedTimestampForm (offsets : OffsetSyntax) (value : Binary) : Bool :=
  match fromIso8601 offsets value with
  | some (datetime, offset) =>
    match datetime.time.add? offset with
    | some time => canonicalTimestamp time datetime.microsecond offset == value
    | none => false
  | none => false

/-- The instant, in microseconds since the first of January of the year 0. -/
def DateTime.instant (datetime : DateTime) : Int :=
  datetime.time.total * 1000000 + datetime.microsecond

/-- The instant that is stated, in microseconds since the first of January of the year 0. -/
def Stated.instant (stated : Stated) : Int :=
  (stated.time.total - stated.offset) * 1000000 + stated.microsecond

/-- The instant that a text denotes. -/
def instant? (offsets : OffsetSyntax) (text : Binary) : Option Int :=
  (stated? offsets text).map Stated.instant

/-- An offset of hours and minutes. -/
def offset? (sign : UInt8) (hours minutes : Binary) : Option Int := do
  let hour ← number? hours
  let minute ← number? minutes
  if hour < 24 ∧ minute < 60 then
    if sign = 43 then some ((hour * 60 + minute) * 60 : Nat)
    else if sign = 45 then some (-((hour * 60 + minute) * 60 : Nat))
    else none
  else none

/-- The offsets of `Calendar.ISO`: `Z`, `±HH:MM`, `±HHMM` and `±HH`. -/
def parseOffset (text : Binary) : Option Int :=
  if text = ascii "Z" then some 0
  else if text = ascii "-00:00" then none
  else match text with
    | [sign, h₁, h₂, 58, m₁, m₂] => offset? sign [h₁, h₂] [m₁, m₂]
    | [sign, h₁, h₂, m₁, m₂] => offset? sign [h₁, h₂] [m₁, m₂]
    | [sign, h₁, h₂] => offset? sign [h₁, h₂] [48, 48]
    | _ => none

/-- An offset of hours and minutes is less than a day. -/
theorem offset_bounded {sign : UInt8} {hours minutes : Binary} {offset : Int}
    (read : offset? sign hours minutes = some offset) : -86400 < offset ∧ offset < 86400 := by
  unfold offset? at read
  obtain ⟨hour, _, rest⟩ := Option.bind_eq_some_iff.mp read
  obtain ⟨minute, _, signed⟩ := Option.bind_eq_some_iff.mp rest
  split at signed
  · split at signed
    · cases signed
      omega
    · split at signed
      · cases signed
        omega
      · cases signed
  · cases signed

theorem parseOffset_utc : parseOffset (ascii "+00:00") = some 0 := by decide +kernel

/-- An offset that is read is less than a day. -/
theorem parseOffset_bounded {text : Binary} {offset : Int} (read : parseOffset text = some offset) :
    -86400 < offset ∧ offset < 86400 := by
  unfold parseOffset at read
  split at read
  · cases read
    omega
  · split at read
    · cases read
    · split at read
      · exact offset_bounded read
      · exact offset_bounded read
      · exact offset_bounded read
      · cases read

/-- The syntax of `Calendar.ISO`. -/
def calendarOffsets : OffsetSyntax where
  read := parseOffset
  utc := parseOffset_utc
  bounded _ _ read := parseOffset_bounded read

end Model

section Calendar

/-- A month of the model's dates is one of the calendar's. -/
theorem daysInMonth_eq (year : Int) (month : Nat) :
    daysInMonth year month = Calendar.monthLength year month := by
  unfold daysInMonth Calendar.monthLength Calendar.IsLeap
  rfl

/-- A time is that after its seconds. -/
theorem ofTotal_total (time : LocalTime) : LocalTime.ofTotal? time.total = some time := by
  obtain ⟨date, hour, minute, second, hours, minutes, seconds⟩ := time
  have dayNumber : (LocalTime.total ⟨date, hour, minute, second, hours, minutes, seconds⟩) / 86400 =
      Calendar.dayNumber date.year date.month date.day := by
    unfold LocalTime.total
    dsimp only
    omega
  have rest : ((LocalTime.total ⟨date, hour, minute, second, hours, minutes, seconds⟩) %
      86400).toNat = hour * 3600 + minute * 60 + second := by
    unfold LocalTime.total
    dsimp only
    omega
  have civil := Calendar.civil_dayNumber date.months (daysInMonth_eq date.year date.month ▸ date.days)
  have date_eq : Date.new? date.year date.month date.day = some date := by
    rw [Date.new?, dif_pos date.years, dif_pos date.months, dif_pos date.days]
  unfold LocalTime.ofTotal?
  simp only [dayNumber, civil, date_eq, rest, Option.map_some, Option.some.injEq,
    LocalTime.mk.injEq, true_and]
  omega

/-- A time has the seconds it is after. -/
theorem total_ofTotal {n : Int} {time : LocalTime} (found : LocalTime.ofTotal? n = some time) :
    time.total = n := by
  unfold LocalTime.ofTotal? at found
  obtain ⟨date, created, rfl⟩ := Option.map_eq_some_iff.mp found
  have fields : date.year = (Calendar.civil (n / 86400)).1 ∧
      date.month = (Calendar.civil (n / 86400)).2.1 ∧
      date.day = (Calendar.civil (n / 86400)).2.2 := by
    unfold Date.new? at created
    split at created
    · split at created
      · split at created
        · cases created
          exact ⟨rfl, rfl, rfl⟩
        · cases created
      · cases created
    · cases created
  have number := Calendar.dayNumber_civil (n / 86400)
  unfold LocalTime.total
  dsimp only
  rw [fields.1, fields.2.1, fields.2.2, number]
  omega

/-- What a time is after a shift, it is before the shift back. -/
theorem add_back {time shifted : LocalTime} {seconds : Int}
    (moved : time.add? (-seconds) = some shifted) :
    shifted.total = time.total - seconds ∧ shifted.add? seconds = some time := by
  have total := total_ofTotal moved
  have back : shifted.total + seconds = time.total := by omega
  constructor
  · omega
  · rw [LocalTime.add?, back]
    exact ofTotal_total time

end Calendar

section Reading

variable {offsets : OffsetSyntax}

/-- An accepted text states a local time, and the instant is that time without the offset. -/
theorem fromIso8601_stated {text : Binary} {datetime : DateTime} {offset : Int}
    (accepted : fromIso8601 offsets text = some (datetime, offset)) :
    ∃ time, stated? offsets text = some ⟨time, datetime.microsecond, offset⟩ ∧
      datetime.time.total = time.total - offset ∧ datetime.time.add? offset = some time := by
  obtain ⟨stated, read, rest⟩ := Option.bind_eq_some_iff.mp accepted
  obtain ⟨time, shifted, same⟩ := Option.map_eq_some_iff.mp rest
  cases same
  refine ⟨stated.time, read, ?_⟩
  unfold Stated.utc? at shifted
  split at shifted
  · next zero =>
    cases shifted
    rw [zero, LocalTime.add?, Int.add_zero]
    exact ⟨(Int.sub_zero _).symm, ofTotal_total _⟩
  · exact add_back shifted

/-- Digits have no greater value than their number allows. -/
theorem ofDigits_lt {digits : Binary} (all : ∀ byte ∈ digits, isDigit byte = true) :
    Uri.ofDigits digits < 10 ^ digits.length := by
  have value : ∀ byte, isDigit byte = true → byte.toNat - 48 ≤ 9 := by
    intro byte digit
    simp only [isDigit, Bool.and_eq_true, decide_eq_true_eq] at digit
    have upper : byte.toNat ≤ 57 := UInt8.le_iff_toNat_le.mp digit.2
    omega
  have from_ : ∀ start, digits.foldl (fun n digit => 10 * n + (digit.toNat - 48)) start <
      (start + 1) * 10 ^ digits.length := by
    induction digits with
    | nil =>
      intro start
      simp
    | cons first digits ih =>
      intro start
      have small := value first (all first List.mem_cons_self)
      have later := ih (fun byte member => all byte (List.mem_cons_of_mem first member))
        (10 * start + (first.toNat - 48))
      rw [List.foldl_cons, List.length_cons]
      calc digits.foldl (fun n digit => 10 * n + (digit.toNat - 48))
            (10 * start + (first.toNat - 48))
          < (10 * start + (first.toNat - 48) + 1) * 10 ^ digits.length := later
        _ ≤ (start + 1) * 10 * 10 ^ digits.length := Nat.mul_le_mul_right _ (by omega)
        _ = (start + 1) * 10 ^ (digits.length + 1) := by rw [Nat.pow_succ', Nat.mul_assoc]
  have whole := from_ 0
  rwa [Nat.zero_add, Nat.one_mul] at whole

/-- The microseconds that are read are less than a second. -/
theorem parseMicrosecond_lt {text rest : Binary} {microsecond : Nat}
    (parsed : parseMicrosecond text = some (microsecond, rest)) : microsecond < 1000000 := by
  unfold parseMicrosecond at parsed
  split at parsed
  · next byte after =>
    split at parsed
    · dsimp only at parsed
      split at parsed
      · cases parsed
      · cases parsed
        have all : ∀ byte ∈ (after.takeWhile isDigit ++ [48, 48, 48, 48, 48, 48]).take 6,
            isDigit byte = true := by
          intro byte member
          cases List.mem_append.mp (List.mem_of_mem_take member) with
          | inl written => exact List.mem_takeWhile_imp written
          | inr padded =>
            have zero : byte = 48 := by simpa using padded
            rw [zero]
            rfl
        have six : ((after.takeWhile isDigit ++ [48, 48, 48, 48, 48, 48]).take 6).length = 6 := by
          simp
        have bound := ofDigits_lt all
        rw [six] at bound
        exact bound
    · cases parsed
      decide
  · cases parsed
    decide

/-- A stated time has less than a second of microseconds. -/
theorem stated_microsecond {text : Binary} {stated : Stated}
    (read : stated? offsets text = some stated) : stated.microsecond < 1000000 := by
  have unsigned {sign : Int} {text : Binary} (read : unsignedStated? offsets sign text =
      some stated) : stated.microsecond < 1000000 := by
    unfold unsignedStated? at read
    split at read
    · split at read
      · simp only [Option.bind_eq_bind, Option.bind_eq_some_iff] at read
        obtain ⟨date, _, hour, _, minute, _, second, _, ⟨microsecond, rest⟩, parsed, offset, _,
          created⟩ := read
        dsimp only at created
        split at created
        · cases created
          exact parseMicrosecond_lt parsed
        · cases created
      · cases read
    · cases read
  unfold stated? at read
  split at read
  · exact unsigned read
  · exact unsigned read
  · exact unsigned read

/-- Six digits are read back. -/
theorem number_six {n : Nat} (small : n < 1000000) : number? (six n) = some n := by
  have read := Date.number_digits [n / 10000 / 10, n / 10000, n / 100 / 10, n / 100, n / 10, n]
  simp only [List.map_cons, List.map_nil, List.foldl_cons, List.foldl_nil] at read
  simp only [six, two, List.cons_append, List.nil_append]
  rw [read]
  congr
  omega

/-- A restated fraction is read back, before an offset. -/
theorem parseMicrosecond_fraction {microsecond : Nat} (small : microsecond < 1000000)
    {rest : Binary} (signed : ∀ byte, rest.head? = some byte → byte = 43 ∨ byte = 45)
    (nonempty : rest ≠ []) :
    parseMicrosecond (fraction microsecond ++ rest) = some (microsecond, rest) := by
  unfold fraction
  split
  · next zero =>
    cases rest with
    | nil => exact absurd rfl nonempty
    | cons sign rest =>
      have other : ¬ (sign = 46 ∨ sign = 44) := by
        cases signed sign rfl with
        | inl plus => rw [plus]; decide
        | inr minus => rw [minus]; decide
      rw [List.nil_append, parseMicrosecond, if_neg other, zero]
  · have read := number_six small
    have length : (six microsecond).length = 6 := rfl
    have all : (six microsecond).all isDigit = true := by
      unfold number? at read
      split at read
      · assumption
      · cases read
    have value : Uri.ofDigits (six microsecond) = microsecond := by
      rw [number?, if_pos all] at read
      exact Option.some.inj read
    have parts : (six microsecond ++ rest).takeWhile isDigit = six microsecond ∧
        (six microsecond ++ rest).dropWhile isDigit = rest := by
      refine Uri.takeWhile_exact (List.all_eq_true.mp all) fun byte first => ?_
      cases signed byte first with
      | inl plus => rw [plus]; rfl
      | inr minus => rw [minus]; rfl
    have some_digits : six microsecond ≠ [] := List.ne_nil_of_length_pos (by omega)
    rw [List.cons_append, parseMicrosecond, if_pos (.inl rfl)]
    dsimp only
    rw [parts.1, parts.2, if_neg some_digits, List.take_left' length, value]

/-- A time that is written behind the sign of its year is what the text states. -/
theorem unsignedStated_printed (time : LocalTime) (sign : Int)
    (signed : sign * time.date.year.natAbs = time.date.year) {microsecond : Nat} {offset : Int}
    {tail rest : Binary} (parsed : parseMicrosecond tail = some (microsecond, rest))
    (read : offsets.read rest = some offset) :
    unsignedStated? offsets sign
      ((four time.date.year.natAbs ++ 45 :: two time.date.month ++ 45 :: two time.date.day) ++
        (84 :: two time.hour ++ 58 :: two time.minute ++ 58 :: two time.second ++ tail)) =
      some ⟨time, microsecond, offset⟩ := by
  have ten : (four time.date.year.natAbs ++ 45 :: two time.date.month ++
      45 :: two time.date.day).length = 10 := rfl
  have date := Date.unsigned_printed time.date sign signed
  have hour := Date.number_two (n := time.hour) (by have := time.hours; omega)
  have minute := Date.number_two (n := time.minute) (by have := time.minutes; omega)
  have second := Date.number_two (n := time.second) (by have := time.seconds; omega)
  rw [two] at hour minute second
  have clock : 84 :: two time.hour ++ 58 :: two time.minute ++ 58 :: two time.second ++ tail =
      84 :: digit (time.hour / 10) :: digit time.hour :: 58 :: digit (time.minute / 10) ::
        digit time.minute :: 58 :: digit (time.second / 10) :: digit time.second :: tail := rfl
  unfold unsignedStated?
  rw [List.drop_left' ten, List.take_left' ten, clock]
  simp only [date, hour, minute, second, parsed, read, true_or, if_true, Option.bind_eq_bind,
    Option.bind_some, time.hours, time.minutes, time.seconds, and_self, dite_true]

/-- A text that begins with no sign is read as it is. -/
theorem stated_unsigned {first : UInt8} {text : Binary} (minus : first ≠ 45) (plus : first ≠ 43) :
    stated? offsets (first :: text) = unsignedStated? offsets 1 (first :: text) := by
  unfold stated?
  split
  · next same => exact absurd (List.cons.inj same).1 minus
  · next same => exact absurd (List.cons.inj same).1 plus
  · rfl

/-- A time that is written with a fraction and an offset is what the text states. -/
theorem stated_printed (time : LocalTime) {microsecond : Nat} (small : microsecond < 1000000)
    {rest : Binary} (signed : ∀ byte, rest.head? = some byte → byte = 43 ∨ byte = 45)
    (nonempty : rest ≠ []) {offset : Int} (read : offsets.read rest = some offset) :
    stated? offsets (time.toIso8601 ++ fraction microsecond ++ rest) =
      some ⟨time, microsecond, offset⟩ := by
  have parsed := parseMicrosecond_fraction small signed nonempty
  have plain : ∀ n, digit n ≠ 45 ∧ digit n ≠ 43 := by
    intro n
    have small : ∀ r < 10, UInt8.ofNat (48 + r) ≠ 45 ∧ UInt8.ofNat (48 + r) ≠ 43 := by decide
    exact small (n % 10) (Nat.mod_lt _ (by decide))
  by_cases negative : time.date.year < 0
  · have printed := unsignedStated_printed time (-1) (by omega) parsed read
    rw [LocalTime.toIso8601, Date.toIso8601, if_pos negative, ← printed]
    simp only [stated?, List.cons_append, List.nil_append, List.append_assoc]
  · have printed := unsignedStated_printed time 1 (by omega) parsed read
    rw [LocalTime.toIso8601, Date.toIso8601, if_neg negative, ← printed]
    simp only [four, two, List.cons_append, List.nil_append]
    exact stated_unsigned (plain _).1 (plain _).2

/-- A signed offset of `DateTime`. -/
theorem utc_signed (byte : UInt8) (first : (ascii "+00:00").head? = some byte) :
    byte = 43 ∨ byte = 45 := by
  have plus : (ascii "+00:00").head? = some 43 := by decide +kernel
  rw [plus] at first
  exact .inl (Option.some.inj first).symm

/-- A restated time states the same time, at the offset of UTC. -/
theorem shared_stated {text : Binary} {datetime : DateTime} {offset : Int}
    (accepted : fromIso8601 offsets text = some (datetime, offset)) :
    stated? offsets (sharedTimestamp offsets text) =
      some ⟨datetime.time, datetime.microsecond, 0⟩ := by
  obtain ⟨time, read, _, _⟩ := fromIso8601_stated accepted
  have small : datetime.microsecond < 1000000 := stated_microsecond read
  unfold sharedTimestamp
  rw [accepted]
  exact stated_printed datetime.time small utc_signed (by decide +kernel) offsets.utc

/-- A restated time is accepted, as the same time. -/
theorem shared_accepted {text : Binary} {datetime : DateTime} {offset : Int}
    (accepted : fromIso8601 offsets text = some (datetime, offset)) :
    fromIso8601 offsets (sharedTimestamp offsets text) = some (datetime, 0) := by
  unfold fromIso8601
  rw [shared_stated accepted]
  rfl

/-- The instant that an accepted text denotes is that of its time in UTC. -/
theorem instant_accepted {text : Binary} {datetime : DateTime} {offset : Int}
    (accepted : fromIso8601 offsets text = some (datetime, offset)) :
    instant? offsets text = some datetime.instant := by
  obtain ⟨time, read, total, _⟩ := fromIso8601_stated accepted
  unfold instant? Stated.instant DateTime.instant
  rw [read, total]
  rfl

/-- A text is in the form when its local time, microseconds and offset print it. -/
theorem sharedTimestampForm_accepted {text : Binary} {datetime : DateTime} {offset : Int}
    (accepted : fromIso8601 offsets text = some (datetime, offset)) {time : LocalTime}
    (moved : datetime.time.add? offset = some time) :
    sharedTimestampForm offsets text =
      (canonicalTimestamp time datetime.microsecond offset == text) := by
  unfold sharedTimestampForm
  rw [accepted]
  dsimp only
  rw [moved]

/-- A restated time is in the form. -/
theorem sharedTimestampForm_shared {text : Binary} {datetime : DateTime} {offset : Int}
    (accepted : fromIso8601 offsets text = some (datetime, offset)) :
    sharedTimestampForm offsets (sharedTimestamp offsets text) = true := by
  have unmoved : datetime.time.add? 0 = some datetime.time := by
    rw [LocalTime.add?, Int.add_zero]
    exact ofTotal_total datetime.time
  have zero : ascii "+00:00" = [43] ++ two 0 ++ 58 :: two 0 ++ [] := by decide +kernel
  rw [sharedTimestampForm_accepted (shared_accepted accepted) unmoved, beq_iff_eq]
  unfold sharedTimestamp
  rw [accepted, zero]
  simp only [canonicalTimestamp, List.append_assoc, List.cons_append, List.append_nil]
  rfl

/-- What is in the form is what its local time, microseconds and offset print. -/
theorem sharedTimestampForm_iff {text : Binary} :
    sharedTimestampForm offsets text = true ↔
      ∃ time microsecond offset, (fromIso8601 offsets text).isSome = true ∧
        stated? offsets text = some ⟨time, microsecond, offset⟩ ∧
        canonicalTimestamp time microsecond offset = text := by
  constructor
  · intro form
    cases accepted : fromIso8601 offsets text with
    | none =>
      rw [sharedTimestampForm, accepted] at form
      cases form
    | some found =>
      obtain ⟨time, read, _, moved⟩ := fromIso8601_stated accepted
      rw [sharedTimestampForm_accepted accepted moved] at form
      exact ⟨time, found.1.microsecond, found.2, rfl, read, beq_iff_eq.mp form⟩
  · intro ⟨time, microsecond, offset, some_found, stated, printed⟩
    obtain ⟨found, accepted⟩ := Option.isSome_iff_exists.mp some_found
    obtain ⟨ownTime, read, _, moved⟩ := fromIso8601_stated accepted
    have same : (⟨ownTime, found.1.microsecond, found.2⟩ : Stated) =
        ⟨time, microsecond, offset⟩ := Option.some.inj (read.symm.trans stated)
    injection same with times microseconds offset_eq
    rw [sharedTimestampForm_accepted accepted moved, beq_iff_eq, times, microseconds, offset_eq,
      printed]

/-- The restated time of an accepted text denotes the same instant, is in the form, and is restated
as itself; and what is in the form is what its own parts print. -/
theorem sharedTimestamp_restates (offsets : OffsetSyntax) :
    (∀ text datetime offset, fromIso8601 offsets text = some (datetime, offset) →
      instant? offsets text = some datetime.instant ∧
      instant? offsets (sharedTimestamp offsets text) = some datetime.instant ∧
      sharedTimestampForm offsets (sharedTimestamp offsets text) = true ∧
      sharedTimestamp offsets (sharedTimestamp offsets text) = sharedTimestamp offsets text) ∧
    ∀ text, sharedTimestampForm offsets text = true ↔
      ∃ time microsecond offset, (fromIso8601 offsets text).isSome = true ∧
        stated? offsets text = some ⟨time, microsecond, offset⟩ ∧
        canonicalTimestamp time microsecond offset = text := by
  constructor
  · intro text datetime offset accepted
    have again := shared_accepted accepted
    have fixed : sharedTimestamp offsets (sharedTimestamp offsets text) =
        sharedTimestamp offsets text := by
      calc sharedTimestamp offsets (sharedTimestamp offsets text)
          = datetime.time.toIso8601 ++ fraction datetime.microsecond ++ ascii "+00:00" := by
            rw [sharedTimestamp, again]
        _ = sharedTimestamp offsets text := by rw [sharedTimestamp, accepted]
    exact ⟨instant_accepted accepted, instant_accepted again, sharedTimestampForm_shared accepted,
      fixed⟩
  · intro text
    exact sharedTimestampForm_iff

example : sharedTimestamp calendarOffsets (ascii "2026-12-31T23:02:03.1234567-05:30") =
    ascii "2027-01-01T04:32:03.123456+00:00" := by decide +kernel

/-- A text of seven digits and a negative offset. -/
theorem sharedTimestamp_restates_negative :
    sharedTimestampForm calendarOffsets
      (sharedTimestamp calendarOffsets (ascii "2026-12-31T23:02:03.1234567-05:30")) = true :=
  ((sharedTimestamp_restates calendarOffsets).1 (ascii "2026-12-31T23:02:03.1234567-05:30")
    ⟨⟨⟨2027, 1, 1, by decide, by decide, by decide⟩, 4, 32, 3, by decide, by decide, by decide⟩,
      123456⟩ (-19800) (by decide +kernel)).2.2.1

end Reading

end Sidereon.MergeReport
