import Mathlib.Data.List.Chain
import Sidereon.Distribution.Json
import Sidereon.Distribution.World
import Sidereon.MergeReport.Timestamps

/-!
# The cadence of an IONEX product

An IONEX product is validated against its identity by a scan of its text, apart from the parser that
accepts it. The scan reads the date, the hour and the minute of every map epoch line that states
five integers. It compares the first of them with the identity, and the second with the first.
-/

namespace Sidereon.Distribution

open Foundation
open Sidereon.MergeReport (LocalTime)
open Json (integerText_head ofDigits_decimal decimal_ne_nil)

/-- What `String` does with a text: dropping the blanks at its end, taking its first characters, and
splitting it into words. -/
structure TextLibrary where
  trimTrailing : Binary → Binary
  trim : Binary → Binary
  take : Binary → Nat → Binary
  split : Binary → List Binary

/-- The integers of a map epoch line. -/
structure MapEpoch where
  year : Int
  month : Int
  day : Int
  hour : Int
  minute : Int
  deriving DecidableEq

section Model

variable (text : TextLibrary)

/-- The label of a map epoch line. -/
def mapEpochLabel : Binary := ascii "EPOCH OF CURRENT MAP"

/-- The epoch of a line, if it is a map epoch line that states five integers. -/
def lineEpoch (line : Binary) : Option MapEpoch :=
  if mapEpochLabel <:+ text.trimTrailing line then
    match ((text.split (text.take line 36)).take 5).map wholeInteger? with
    | [some year, some month, some day, some hour, some minute] =>
      some ⟨year, month, day, hour, minute⟩
    | _ => none
  else none

/-- The epochs that the scan reads. -/
def scannedEpochs (bytes : Binary) : List MapEpoch :=
  (bytes.splitOn 10).filterMap (lineEpoch text)

/-- `Date.new`, of integers. -/
def dateOf (year month day : Int) : Option Date :=
  if 0 ≤ month ∧ 0 ≤ day then Date.new? year month.toNat day.toNat else none

/-- `tuple_datetime`. -/
def tupleDatetime (epoch : MapEpoch) : Option LocalTime := do
  let date ← dateOf epoch.year epoch.month epoch.day
  if within : (0 ≤ epoch.hour ∧ epoch.hour < 24) ∧ 0 ≤ epoch.minute ∧ epoch.minute < 60 then
    some ⟨date, epoch.hour.toNat, epoch.minute.toNat, 0, by omega, by omega, by omega⟩
  else none

/-- `sample_seconds`. -/
def sampleSeconds : Binary → Option Int
  | [tens, ones, unit] => do
    let value ← wholeInteger? [tens, ones]
    if unit = 83 then some value
    else if unit = 77 then some (value * 60)
    else if unit = 72 then some (value * 3600)
    else if unit = 68 then some (value * 86400)
    else none
  | _ => none

/-- `pad2`. -/
def pad2 (value : Int) : Binary :=
  if (integerText value).length < 2 then 48 :: integerText value else integerText value

/-- `validate_ionex_cadence`, of at least one epoch. -/
def validateIonexCadence (sample : Binary) : List MapEpoch → Bool
  | first :: second :: _ =>
    match tupleDatetime first, tupleDatetime second, sampleSeconds sample with
    | some first, some second, some expected => second.total - first.total == expected
    | _, _, _ => false
  | _ => true

/-- `validate_ionex_metadata`. -/
def validateIonexMetadata (identity : ProductIdentity) (bytes : Binary) : Bool :=
  match scannedEpochs text bytes with
  | first :: rest =>
    dateOf first.year first.month first.day == some identity.date &&
      (some (pad2 first.hour ++ pad2 first.minute) == identity.issue &&
        validateIonexCadence identity.sample (first :: rest))
  | [] => false

/-- `ionex_version`. -/
def ionexVersion (bytes : Binary) : Option Binary :=
  let first := bytes.takeWhile (· != 10)
  let version := text.trim (text.take first 20)
  if ascii "IONEX VERSION / TYPE" <:+: first ∧ version ≠ [] then some version else none

/-- What `validate_product` reads of an IONEX product that a parser accepts: its version. -/
def readIonexProduct (parse : Binary → Except Binary (List LocalTime)) (identity : ProductIdentity)
    (bytes : Binary) : Except Binary Binary :=
  match parse bytes, ionexVersion text bytes with
  | .error detail, _ => .error detail
  | .ok _, none => .error (ascii "ionex_version")
  | .ok _, some version =>
    if validateIonexMetadata text identity bytes then .ok version
    else .error (ascii "ionex_identity_metadata")

end Model

section Cadence

/-- Two epochs differ by a sample. -/
def Spaced (sample : Binary) (earlier later : LocalTime) : Prop :=
  sampleSeconds sample = some (later.total - earlier.total)

/-- What is promised of a product: its first map epoch is the date and the issue of its identity,
every two consecutive ones differ by the sample, and the scan passed over none of them. -/
structure CadenceHolds (text : TextLibrary) (identity : ProductIdentity) (bytes : Binary)
    (epochs : List LocalTime) : Prop where
  first : ∃ first, epochs.head? = some first ∧ first.date = identity.date ∧
    identity.issue = some (pad2 first.hour ++ pad2 first.minute) ∧ first.second = 0
  spaced : epochs.IsChain (Spaced identity.sample)
  scanned : (epochs.map some).Sublist ((scannedEpochs text bytes).map tupleDatetime)

/-- What the validation leaves open: that the scan passed over no epoch, the first two not even by
reading others in their places, and that those from the second on differ by the sample. -/
structure CadenceOpen (text : TextLibrary) (identity : ProductIdentity) (bytes : Binary)
    (epochs : List LocalTime) : Prop where
  nonempty : epochs ≠ []
  front : ((epochs.take 2).map some).IsPrefix ((scannedEpochs text bytes).map tupleDatetime)
  scanned : (epochs.map some).Sublist ((scannedEpochs text bytes).map tupleDatetime)
  later : epochs.tail.IsChain (Spaced identity.sample)

end Cadence

section Padding

/-- A number of at most two digits is printed with two. -/
theorem pad2_length {n : Nat} (small : n < 100) : (pad2 n).length = 2 := by
  have each : ∀ n < 100, (pad2 (n : Nat)).length = 2 := by decide +kernel
  exact each n small

theorem two_le_pad2 (value : Int) : 2 ≤ (pad2 value).length := by
  unfold pad2
  obtain ⟨byte, rest, shape, -⟩ := integerText_head value
  split
  · rw [List.length_cons, shape, List.length_cons]
    omega
  · omega

/-- The printed digits have the value of the number. -/
theorem ofDigits_pad2 (n : Nat) : Uri.ofDigits (pad2 n) = n := by
  have text : integerText (n : Int) = decimal n := by simp [integerText]
  unfold pad2
  rw [text]
  split
  · exact ofDigits_decimal n
  · exact ofDigits_decimal n

/-- A printed number is a natural number when what it is printed as starts with a digit. -/
theorem pad2_nonneg {value : Int} {byte : UInt8} {rest : Binary}
    (printed : pad2 value = byte :: rest) (digit : isDigit byte = true) : 0 ≤ value := by
  by_contra negative
  have text : integerText value = 45 :: decimal value.natAbs := by
    rw [integerText, if_pos (by omega)]
  have long : ¬ (45 :: decimal value.natAbs).length < 2 := by
    have := List.length_pos_of_ne_nil (decimal_ne_nil value.natAbs)
    rw [List.length_cons]
    omega
  rw [pad2, text, if_neg long] at printed
  cases printed
  cases digit

/-- The first byte of a printed natural number is a digit. -/
theorem pad2_head (n : Nat) : ∃ byte rest, pad2 n = byte :: rest ∧ isDigit byte = true := by
  have text : integerText (n : Int) = decimal n := by simp [integerText]
  unfold pad2
  rw [text]
  split
  · exact ⟨48, _, rfl, rfl⟩
  · cases shape : decimal n with
    | nil => exact absurd shape (decimal_ne_nil n)
    | cons byte rest =>
      have member : byte ∈ decimal n := by simp [shape]
      exact ⟨byte, rest, rfl, Uri.isDigit_of_mem_decimal member⟩

/-- A number is known from its two digits. -/
theorem pad2_inj {value : Int} {n : Nat} (same : pad2 value = pad2 n) : value = n := by
  obtain ⟨byte, rest, shape, digit⟩ := pad2_head n
  have natural := pad2_nonneg (same.trans shape) digit
  obtain ⟨m, rfl⟩ := Int.eq_ofNat_of_zero_le natural
  have values := congrArg Uri.ofDigits same
  rw [ofDigits_pad2, ofDigits_pad2] at values
  rw [values]

/-- An hour and a minute are known from an issue. -/
theorem issue_inj {hour minute : Int} {hour' minute' : Nat} (hours : hour' < 24)
    (minutes : minute' < 60)
    (same : pad2 hour ++ pad2 minute = pad2 hour' ++ pad2 minute') :
    hour = hour' ∧ minute = minute' := by
  have lengths := congrArg List.length same
  have hourLength : (pad2 hour').length = 2 := pad2_length (by omega)
  have minuteLength : (pad2 minute').length = 2 := pad2_length (by omega)
  have := two_le_pad2 hour
  have := two_le_pad2 minute
  rw [List.length_append, List.length_append, hourLength, minuteLength] at lengths
  obtain ⟨own, rest⟩ := List.append_inj same (by omega)
  exact ⟨pad2_inj own, pad2_inj rest⟩

end Padding

section Validation

variable {text : TextLibrary} {identity : ProductIdentity} {bytes : Binary}

/-- Times of the same number of seconds are the same. -/
theorem total_inj {first second : LocalTime} (same : first.total = second.total) :
    first = second := by
  have one := MergeReport.ofTotal_total first
  rw [same, MergeReport.ofTotal_total second] at one
  exact (Option.some.inj one).symm

/-- The scan of a product that passes: a first epoch of the identity, and a second one a sample
later, if it read a second one. -/
structure Passes (identity : ProductIdentity) (scanned : List MapEpoch) : Prop where
  first : ∃ first, scanned.head? = some first ∧
    dateOf first.year first.month first.day = some identity.date ∧
      identity.issue = some (pad2 first.hour ++ pad2 first.minute)
  second : ∀ first second rest, scanned = first :: second :: rest →
    ∃ start next, tupleDatetime first = some start ∧ tupleDatetime second = some next ∧
      Spaced identity.sample start next

/-- The validation of the text, in what it checks. -/
theorem passes_of_metadata (valid : validateIonexMetadata text identity bytes = true) :
    Passes identity (scannedEpochs text bytes) := by
  unfold validateIonexMetadata at valid
  cases scanned : scannedEpochs text bytes with
  | nil => rw [scanned] at valid; cases valid
  | cons first rest =>
    rw [scanned] at valid
    simp only [Bool.and_eq_true, beq_iff_eq] at valid
    obtain ⟨date, issue, cadence⟩ := valid
    refine ⟨⟨first, rfl, date, issue.symm⟩, ?_⟩
    rintro first second rest same
    cases same
    unfold validateIonexCadence at cadence
    cases begun : tupleDatetime first with
    | none => simp [begun] at cadence
    | some start =>
      cases made : tupleDatetime second with
      | none => simp [made] at cadence
      | some next =>
        cases sampled : sampleSeconds identity.sample with
        | none => simp [sampled] at cadence
        | some expected =>
          simp only [begun, made, sampled, beq_iff_eq] at cadence
          exact ⟨start, next, rfl, rfl, sampled.trans (congrArg some cadence.symm)⟩

/-- The time of the first epoch of a scan, from the time of a map that has its date and issue. -/
theorem tupleDatetime_first {first : MapEpoch} {start : LocalTime}
    (date : dateOf first.year first.month first.day = some start.date)
    (hour : first.hour = start.hour) (minute : first.minute = start.minute)
    (second : start.second = 0) : tupleDatetime first = some start := by
  have within : (0 ≤ first.hour ∧ first.hour < 24) ∧ 0 ≤ first.minute ∧ first.minute < 60 := by
    have := start.hours
    have := start.minutes
    omega
  obtain ⟨date', hour', minute', second', hours, minutes, seconds⟩ := start
  simp only at hour minute second
  subst second
  rw [tupleDatetime, date, Option.bind_eq_bind, Option.bind_some, dif_pos within]
  simp [hour, minute]

/-- The fields of the first epoch of a scan, from its time. -/
theorem first_of_tupleDatetime {first : MapEpoch} {start : LocalTime}
    (made : tupleDatetime first = some start) :
    dateOf first.year first.month first.day = some start.date ∧ first.hour = start.hour ∧
      first.minute = start.minute ∧ start.second = 0 := by
  rw [tupleDatetime, Option.bind_eq_bind, Option.bind_eq_some_iff] at made
  obtain ⟨date, dated, made⟩ := made
  by_cases within : (0 ≤ first.hour ∧ first.hour < 24) ∧ 0 ≤ first.minute ∧ first.minute < 60
  · rw [dif_pos within] at made
    cases made
    exact ⟨dated, (Int.toNat_of_nonneg within.1.1).symm, (Int.toNat_of_nonneg within.2.1).symm, rfl⟩
  · rw [dif_neg within] at made
    cases made

/-- A time is that of the first epoch of a scan that passes exactly when it is the date and the
issue of the identity. -/
theorem begins_iff {head : MapEpoch} {start : LocalTime}
    (date : dateOf head.year head.month head.day = some identity.date)
    (issue : identity.issue = some (pad2 head.hour ++ pad2 head.minute)) :
    tupleDatetime head = some start ↔ start.date = identity.date ∧
      identity.issue = some (pad2 start.hour ++ pad2 start.minute) ∧ start.second = 0 := by
  constructor
  · intro begun
    obtain ⟨dated, hour, minute, whole⟩ := first_of_tupleDatetime begun
    refine ⟨Option.some.inj (dated.symm.trans date), ?_, whole⟩
    rw [issue, hour, minute]
  · rintro ⟨dated, issued, whole⟩
    have digits : pad2 head.hour ++ pad2 head.minute = pad2 start.hour ++ pad2 start.minute :=
      Option.some.inj (issue.symm.trans issued)
    obtain ⟨hour, minute⟩ := issue_inj start.hours start.minutes digits
    exact tupleDatetime_first (date.trans (congrArg some dated.symm)) hour minute whole

/-- The first two maps are the first two of a scan exactly when their epochs are a sample apart,
where the scan has a second epoch, a sample after its first. -/
theorem second_iff {second : MapEpoch} {start next : LocalTime}
    (passed : ∃ after, tupleDatetime second = some after ∧ Spaced identity.sample start after) :
    tupleDatetime second = some next ↔ Spaced identity.sample start next := by
  obtain ⟨after, made, apart⟩ := passed
  constructor
  · intro same
    obtain rfl := Option.some.inj (made.symm.trans same)
    exact apart
  · intro spaced
    have same : after.total - start.total = next.total - start.total :=
      Option.some.inj (apart.symm.trans spaced)
    have equal : after = next := total_inj (by omega)
    rw [made, equal]

/-- Of a scan that passes, the promise is what the validation leaves open. -/
theorem cadence_of_passes {epochs : List LocalTime}
    (passes : Passes identity (scannedEpochs text bytes)) :
    CadenceHolds text identity bytes epochs ↔ CadenceOpen text identity bytes epochs := by
  obtain ⟨head, begins, date, issue⟩ := passes.first
  obtain ⟨rest, shape⟩ := List.head?_eq_some_iff.mp begins
  match epochs with
  | [] =>
    constructor
    · rintro ⟨⟨_, heads, -⟩, -, -⟩
      cases heads
    · exact fun left => absurd rfl left.nonempty
  | [start] =>
    have begun : tupleDatetime head = some start ↔ _ := begins_iff date issue
    constructor
    · rintro ⟨⟨_, heads, own⟩, -, scanned⟩
      cases heads
      refine ⟨by simp, ?_, scanned, .nil⟩
      rw [shape]
      exact ⟨rest.map tupleDatetime, by simp [begun.mpr own]⟩
    · rintro ⟨-, ⟨more, front⟩, scanned, -⟩
      rw [shape] at front
      have same : some start = tupleDatetime head := (List.cons.inj front).1
      exact ⟨⟨start, rfl, begun.mp same.symm⟩, .singleton start, scanned⟩
  | start :: next :: others =>
    have begun : tupleDatetime head = some start ↔ _ := begins_iff date issue
    constructor
    · rintro ⟨⟨_, heads, own⟩, spaced, scanned⟩
      cases heads
      obtain ⟨apart, later⟩ := List.isChain_cons_cons.mp spaced
      cases rest with
      | nil =>
        have short := scanned.length_le
        simp [shape] at short
      | cons second rest =>
        obtain ⟨first, after, made, made', passed⟩ := passes.second head second rest shape
        obtain rfl := Option.some.inj ((begun.mpr own).symm.trans made)
        have same := (second_iff ⟨after, made', passed⟩).mpr apart
        refine ⟨by simp, ?_, scanned, later⟩
        rw [shape]
        exact ⟨rest.map tupleDatetime, by simp [begun.mpr own, same]⟩
    · rintro ⟨-, ⟨more, front⟩, scanned, later⟩
      rw [shape] at front
      have same : some start = tupleDatetime head := (List.cons.inj front).1
      cases rest with
      | nil => simp at front
      | cons second rest =>
        have same' : some next = tupleDatetime second := (List.cons.inj (List.cons.inj front).2).1
        obtain ⟨first, after, made, made', passed⟩ := passes.second head second rest shape
        obtain rfl := Option.some.inj (same.trans made)
        have apart := (second_iff ⟨after, made', passed⟩).mp same'.symm
        exact ⟨⟨start, rfl, begun.mp same.symm⟩, List.isChain_cons_cons.mpr ⟨apart, later⟩, scanned⟩

/-- An IONEX product whose validation passed was read. -/
theorem readIonex_of_validateProduct {library : Library} {resolved : ProductIdentity}
    (family : identity.family = ascii "ionex")
    (valid : validateProduct library identity bytes = .ok resolved) :
    ∃ version, library.readIonex identity bytes = .ok version := by
  have other : ascii "ionex" ≠ ascii "sp3" := by decide +kernel
  unfold validateProduct at valid
  rw [family, if_neg other, if_pos rfl] at valid
  cases read : library.readIonex identity bytes with
  | error detail => rw [read] at valid; cases valid
  | ok version => exact ⟨version, rfl⟩

/-- An IONEX product that was read was accepted by the parser, and its scan passed. -/
theorem passes_of_readIonexProduct {parse : Binary → Except Binary (List LocalTime)}
    {version : Binary} (read : readIonexProduct text parse identity bytes = .ok version) :
    (∃ epochs, parse bytes = .ok epochs) ∧ Passes identity (scannedEpochs text bytes) := by
  unfold readIonexProduct at read
  cases parsed : parse bytes with
  | error detail => simp [parsed] at read
  | ok epochs =>
    cases named : ionexVersion text bytes with
    | none => simp [parsed, named] at read
    | some own =>
      cases checked : validateIonexMetadata text identity bytes with
      | false => simp [parsed, named, checked] at read
      | true => exact ⟨⟨epochs, rfl⟩, passes_of_metadata checked⟩

/-- A product that is validated was accepted by the parser, and what is promised of its map epochs
holds exactly when what the validation leaves open does. -/
theorem ionex_cadence (text : TextLibrary) (library : Library)
    (parse : Binary → Except Binary (List LocalTime)) {identity resolved : ProductIdentity}
    {bytes : Binary} (family : identity.family = ascii "ionex")
    (valid : validateProduct { library with readIonex := readIonexProduct text parse } identity
      bytes = .ok resolved) :
    ∃ epochs, parse bytes = .ok epochs ∧
      (CadenceHolds text identity bytes epochs ↔ CadenceOpen text identity bytes epochs) := by
  obtain ⟨version, read⟩ := readIonex_of_validateProduct family valid
  obtain ⟨⟨epochs, parsed⟩, passes⟩ := passes_of_readIonexProduct read
  exact ⟨epochs, parsed, cadence_of_passes passes⟩

end Validation

section Samples

/-- A blank. -/
def isBlank (byte : UInt8) : Bool := byte == 32 || byte == 10 || byte == 13 || byte == 9

/-- The texts that are all ASCII. -/
def asciiText : TextLibrary where
  trimTrailing text := (text.reverse.dropWhile isBlank).reverse
  trim text := ((text.dropWhile isBlank).reverse.dropWhile isBlank).reverse
  take text count := text.take count
  split text := (text.splitOnP isBlank).filter (· ≠ [])

/-- A line of an IONEX file. -/
def ionexRow (data label : String) : Binary :=
  ascii data ++ List.replicate (60 - data.length) 32 ++ ascii label ++ [10]

/-- A map of two rows of two values. -/
def ionexMap (number epoch : String) : Binary :=
  ionexRow number "START OF TEC MAP" ++ ionexRow epoch "EPOCH OF CURRENT MAP" ++
    ionexRow "    90.0-180.0 180.0 360.0 450.0" "LAT/LON1/LON2/DLON/H" ++ ascii "  100  101\n" ++
    ionexRow "   -90.0-180.0 180.0 360.0 450.0" "LAT/LON1/LON2/DLON/H" ++ ascii "  110  111\n" ++
    ionexRow number "END OF TEC MAP"

/-- A file of three maps, the first two an hour apart. -/
def ionexSample (third : String) : Binary :=
  ionexRow "     1.1" "IONEX VERSION / TYPE" ++ ionexRow "     3" "# OF MAPS IN FILE" ++
    ionexRow "   450.0 450.0   0.0" "HGT1 / HGT2 / DHGT" ++
    ionexRow "    90.0 -90.0-180.0" "LAT1 / LAT2 / DLAT" ++
    ionexRow "  -180.0 180.0 360.0" "LON1 / LON2 / DLON" ++ ionexRow "    -1" "EXPONENT" ++
    ionexRow "  6371.0" "BASE RADIUS" ++ ionexRow "     2" "MAP DIMENSION" ++
    ionexRow "" "END OF HEADER" ++
    ionexMap "     1" "  2024     1     2     0     0     0" ++
    ionexMap "     2" "  2024     1     2     1     0     0" ++ ionexMap "     3" third

/-- An hour of the day of the sample. -/
def sampleHour (hour : Nat) (hours : hour < 24) : LocalTime :=
  ⟨plainIdentity.date, hour, 0, 0, hours, by decide, by decide⟩

/-- The identity of the sample. -/
def ionexIdentity : ProductIdentity :=
  { plainIdentity with
    family := ascii "ionex"
    issue := some (ascii "0000")
    sample := ascii "01H"
    format := ascii "IONEX" }

/-- The maps of the sample, as a parser reads them. -/
def sampleMaps (third : Nat) (hours : third < 24) : List LocalTime :=
  [sampleHour 0 (by decide), sampleHour 1 (by decide), sampleHour third hours]

/-- The validation of the sample. -/
def validateSample (third : String) (maps : List LocalTime) : Except Reason ProductIdentity :=
  validateProduct { plainLibrary with readIonex := readIonexProduct asciiText fun _ => .ok maps }
    ionexIdentity (ionexSample third)

theorem exists_of_isOk {ε α : Type} {result : Except ε α} (passed : result.isOk = true) :
    ∃ value, result = .ok value := by
  cases result with
  | error reason => cases passed
  | ok value => exact ⟨value, rfl⟩

/-- With its third map an hour after the second, the sample keeps what is promised. -/
theorem ionex_cadence_regular :
    CadenceHolds asciiText ionexIdentity (ionexSample "  2024     1     2     2     0     0")
      (sampleMaps 2 (by decide)) := by
  have valid : (validateSample "  2024     1     2     2     0     0"
      (sampleMaps 2 (by decide))).isOk = true := by decide +kernel
  obtain ⟨resolved, valid⟩ := exists_of_isOk valid
  obtain ⟨epochs, parsed, iff⟩ := ionex_cadence asciiText plainLibrary _ rfl valid
  cases parsed
  have apart : Spaced ionexIdentity.sample (sampleHour 1 (by decide))
      (sampleHour 2 (by decide)) := by
    unfold Spaced
    decide +kernel
  exact iff.mpr ⟨by decide, by decide +kernel, by decide +kernel, .cons_cons apart (.singleton _)⟩

/-- With its third map four hours after the second, the sample is validated all the same. -/
theorem ionex_cadence_fails :
    (∃ resolved, validateSample "  2024     1     2     5     0     0"
        (sampleMaps 5 (by decide)) = .ok resolved) ∧
      ¬ CadenceHolds asciiText ionexIdentity (ionexSample "  2024     1     2     5     0     0")
        (sampleMaps 5 (by decide)) := by
  have valid : (validateSample "  2024     1     2     5     0     0"
      (sampleMaps 5 (by decide))).isOk = true := by decide +kernel
  refine ⟨exists_of_isOk valid, ?_⟩
  intro holds
  have apart := (List.isChain_cons_cons.mp (List.isChain_cons_cons.mp holds.spaced).2).1
  have wider : ¬ Spaced ionexIdentity.sample (sampleHour 1 (by decide))
      (sampleHour 5 (by decide)) := by
    unfold Spaced
    decide +kernel
  exact wider apart

end Samples

end Sidereon.Distribution
