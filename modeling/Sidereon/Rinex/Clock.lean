import Sidereon.Foundation.PositionMap
import Sidereon.MergeReport.Values

/-!
# RINEX clock products

A product is a native clock beside a map of the trailing text its records were read with. The
native clock is a crate: its operations are a parameter here, and the functions that carry them
across the boundary are not. An edit of the product edits the native clock and moves the texts.
-/

namespace Sidereon.Rinex

open Foundation Foundation.Beam
open MergeReport (Value fetchAtom)

/-- The text after the columns of a record, and the column it starts in. -/
abbrev Suffix := Binary × Nat

/-- A failing call: `{:error, reason}`, or an exception that is not an `ErlangError`. -/
inductive Failure where
  | refused (reason : Value)
  | raised

/-- `{:error, {tag, field, value}}`. -/
def invalid {α : Type} (tag field : String) (value : Value) : Except Failure α :=
  .error (.refused (.tuple [.atom tag, .atom field, value]))

section Terms

/-- The largest finite double. -/
def floatMaxInteger : Int := (2 ^ 53 - 1) * 2 ^ 971

/-- `@usize_limit`, on a machine of 64 bits. -/
def usizeLimit : Int := 18446744073709551616

/-- `double`: `Numeric.float`, with the refusals of this module. -/
def double (value : Value) (field : String) : Except Failure Float :=
  match value with
  | .number (.float x _) => .ok x
  | .number (.int n) =>
    if -floatMaxInteger ≤ n ∧ n ≤ floatMaxInteger then .ok (Float.ofModel (.ofInt n))
    else invalid "value_out_of_range" field value
  | _ => invalid "invalid_argument" field value

/-- `doubles`. -/
def doubles (values : Value) (field : String) : Except Failure (List Float) :=
  match values with
  | .list items => items.mapM fun item => double item field
  | _ => invalid "invalid_argument" field values

/-- `index`. -/
def checkIndex (index : Value) : Except Failure Nat :=
  match index with
  | .number (.int n) =>
    if 0 ≤ n ∧ n < usizeLimit then .ok n.toNat else invalid "invalid_argument" "index" index
  | _ => invalid "invalid_argument" "index" index

/-- `i32`. -/
def i32 (value : Value) (field : String) : Except Failure Int :=
  match value with
  | .number (.int n) =>
    if -2147483648 ≤ n ∧ n ≤ 2147483647 then .ok n else invalid "value_out_of_range" field value
  | _ => invalid "invalid_epoch_field" field value

/-- `u8`. -/
def u8 (value : Value) (field : String) : Except Failure Nat :=
  match value with
  | .number (.int n) =>
    if 0 ≤ n ∧ n ≤ 255 then .ok n.toNat else invalid "value_out_of_range" field value
  | _ => invalid "invalid_epoch_field" field value

/-- `epoch_second`. -/
def epochSecond (value : Value) : Except Failure Float :=
  match value with
  | .number (.float x _) => .ok x
  | .number (.int n) =>
    if -floatMaxInteger ≤ n ∧ n ≤ floatMaxInteger then .ok (Float.ofModel (.ofInt n))
    else invalid "value_out_of_range" "second" value
  | _ => invalid "invalid_epoch_field" "second" value

/-- A civil epoch, as the fields the boundary carries. -/
structure CivilEpoch where
  year : Int
  month : Nat
  day : Nat
  hour : Nat
  minute : Nat
  second : Float

/-- `civil_term` of the fields of an epoch. -/
def civilFields (year month day hour minute second : Value) : Except Failure CivilEpoch := do
  let year ← i32 year "year"
  let month ← u8 month "month"
  let day ← u8 day "day"
  let hour ← u8 hour "hour"
  let minute ← u8 minute "minute"
  let second ← epochSecond second
  .ok { year, month, day, hour, minute, second }

/-- The second of a `NaiveDateTime`, read as the nearest double of its decimals. -/
def naiveSecond (second microsecond : Value) : Value :=
  match second, microsecond with
  | .number (.int s), .tuple [.number (.int micros), _] =>
    let x := Float.ofScientific (s.toNat * 1000000 + micros.toNat) true 6
    if finite : x.isFinite = true then .number (.float x finite) else second
  | _, _ => second

/-- `civil_term`. A struct is a map that names its module. -/
def civilTerm (epoch : Value) : Except Failure CivilEpoch :=
  match epoch with
  | .tuple [.tuple [year, month, day], .tuple [hour, minute, second]] =>
    civilFields year month day hour minute second
  | .map entries =>
    let field (name : String) := (fetchAtom entries name).getD .nil
    if (field "__struct__").isAtom "Elixir.NaiveDateTime" then
      civilFields (field "year") (field "month") (field "day") (field "hour") (field "minute")
        (naiveSecond (field "second") (field "microsecond"))
    else if (field "__struct__").isAtom "Elixir.Sidereon.GNSS.RINEX.Clock.CivilEpoch" then
      civilFields (field "year") (field "month") (field "day") (field "hour") (field "minute")
        (field "second")
    else invalid "invalid_argument" "epoch" epoch
  | _ => invalid "invalid_argument" "epoch" epoch

end Terms

section Native

/-- `@record_types`. -/
inductive RecordType where
  | ar | as | cr | dr | ms
  deriving DecidableEq

/-- `ClockLayout`. -/
inductive Layout where
  | v300 | v304
  deriving DecidableEq

/-- `ClockRecordReading`. -/
inductive Reading where
  | columns (layout : Layout)
  | columnsTrailingText (layout : Layout)
  | whitespace
  | edited

/-- `ClockRecord`. -/
structure ClockRecord where
  recordType : RecordType
  name : Binary
  civilEpoch : CivilEpoch
  values : List Float
  line : Option Nat
  reading : Reading

/-- The samples of the satellites. -/
abbrev Series := List (Binary × List (Float × Float))

/-- The operations of the crate, on clocks of a type. -/
structure Core (Clock : Type) where
  records : Clock → List ClockRecord
  recordCount : Clock → Nat
  sourceLine : Clock → Nat → Option Binary
  seriesRows : Clock → Series
  fromSeriesRows : Series → Except Failure Clock
  setTimeSystem : Clock → String → Except Failure Clock
  setRecordValues : Clock → Nat → List Float → Except Failure Clock
  newRecord : RecordType → Binary → CivilEpoch → List Float → Except Failure ClockRecord
  insertRecord : Clock → Nat → ClockRecord → Except Failure Clock
  removeRecord : Clock → Nat → Except Failure (Clock × ClockRecord)
  retainRecords : Clock → List Bool → Clock × Nat
  editRecords : Clock → List (Option (List Float)) → Except Failure (Clock × Nat)

/-- A record as the boundary carries it, and as a product shows it. -/
structure Record where
  recordType : RecordType
  name : Binary
  civilEpoch : CivilEpoch
  values : List Float
  line : Option Nat
  reading : Reading
  trailingTextBytes : Option Binary
  trailingTextColumn : Option Nat

variable {Clock : Type} (core : Core Clock)

/-- The column after the last of a layout. -/
def Layout.column : Layout → Nat
  | .v300 => 80
  | .v304 => 85

/-- `is_ascii_whitespace`. -/
def isAsciiWhitespace (byte : UInt8) : Bool :=
  byte == 32 || byte == 9 || byte == 10 || byte == 12 || byte == 13

/-- `bytes.get(column..)`, unless it is blank. -/
def textAfter (column : Nat) (line : Binary) : Option Binary :=
  if column ≤ line.length ∧ (line.drop column).any (fun byte => !isAsciiWhitespace byte) then
    some (line.drop column)
  else none

/-- The suffix of a record, from the line of the source it was read from. -/
def Core.suffix (clock : Clock) (record : ClockRecord) : Option Suffix :=
  match record.reading with
  | .columnsTrailingText layout => do
    let number ← record.line
    let line ← core.sourceLine clock number
    let bytes ← textAfter layout.column line
    some (bytes, layout.column)
  | _ => none

/-- `record_term`. -/
def Core.recordTerm (clock : Clock) (record : ClockRecord) : Record where
  recordType := record.recordType
  name := record.name
  civilEpoch := record.civilEpoch
  values := record.values
  line := record.line
  reading := record.reading
  trailingTextBytes := (core.suffix clock record).map (·.1)
  trailingTextColumn := (core.suffix clock record).map (·.2)

/-- `rinex_clock_records`. -/
def Core.rinexClockRecords (clock : Clock) : List Record :=
  (core.records clock).map (core.recordTerm clock)

/-- `rinex_clock_insert_record`. -/
def Core.rinexClockInsertRecord (clock : Clock) (index : Nat) (recordType : RecordType)
    (name : Binary) (epoch : CivilEpoch) (values : List Float) : Except Failure Clock := do
  let record ← core.newRecord recordType name epoch values
  core.insertRecord clock index record

/-- `rinex_clock_remove_record`. -/
def Core.rinexClockRemoveRecord (clock : Clock) (index : Nat) :
    Except Failure (Clock × Record) := do
  let (clock, record) ← core.removeRecord clock index
  .ok (clock, core.recordTerm clock record)

/-- `{:invalid_input, %{field, reason}}`. -/
def invalidInput {α : Type} (field reason : String) : Except Failure α :=
  .error (.refused (.tuple [.atom "invalid_input",
    .map [(.atom "field", .text (ascii field)), (.atom "reason", .text (ascii reason))]]))

/-- `rinex_clock_retain_records`. -/
def Core.rinexClockRetainRecords (clock : Clock) (keep : List Bool) :
    Except Failure (Clock × Nat) :=
  if keep.length ≠ core.recordCount clock then invalidInput "keep" "one flag for each record"
  else .ok (core.retainRecords clock keep)

/-- `rinex_clock_edit_records`. -/
def Core.rinexClockEditRecords (clock : Clock) (edits : List (Option (List Float))) :
    Except Failure (Clock × Nat) :=
  if edits.length ≠ core.recordCount clock then invalidInput "edits" "one entry for each record"
  else core.editRecords clock edits

end Native

section Products

variable {Clock : Type} (core : Core Clock)

/-- A product: a native clock, or only the samples a clock is built from. -/
structure Product (Clock : Type) where
  handle : Option Clock
  trailingSuffixes : PositionMap Suffix
  series : Series

/-- The text of a record, when the record has both parts of it. -/
def Record.suffix (fields : Record) : Option Suffix := do
  let bytes ← fields.trailingTextBytes
  let column ← fields.trailingTextColumn
  some (bytes, column)

/-- `from_handle`. Without a map the texts are those of the native records. -/
def Core.fromHandle (clock : Clock) (suffixes : Option (PositionMap Suffix)) : Product Clock where
  handle := some clock
  trailingSuffixes :=
    match suffixes with
    | some own => own
    | none => PositionMap.collect ((core.rinexClockRecords clock).map Record.suffix)
  series := core.seriesRows clock

/-- `handle`: the native clock of a product, built from the samples when there is none. -/
def Core.handle (product : Product Clock) : Except Failure Clock :=
  match product.handle with
  | some clock => .ok clock
  | none => core.fromSeriesRows product.series

/-- `view`: samples that build no clock raise. -/
def Core.view {α : Type} (product : Product Clock) (read : Clock → α) : Except Failure α :=
  match core.handle product with
  | .ok clock => .ok (read clock)
  | .error _ => .error .raised

/-- `record`, with the text the product keeps, if it keeps one. -/
def record (fields : Record) (suffixOverride : Option Suffix) : Record :=
  match suffixOverride with
  | some (bytes, column) =>
    { fields with trailingTextBytes := some bytes, trailingTextColumn := some column }
  | none => fields

/-- The records of a native clock, as a product with some texts shows them. -/
def Core.shown (clock : Clock) (suffixes : PositionMap Suffix) : List Record :=
  (core.rinexClockRecords clock).zipIdx.map fun fields => record fields.1 (suffixes.lookup fields.2)

/-- `records`. -/
def Core.productRecords (product : Product Clock) : Except Failure (List Record) :=
  core.view product fun clock => core.shown clock product.trailingSuffixes

/-- `shift_suffixes`. -/
abbrev shiftSuffixes (suffixes : PositionMap Suffix) (index delta : Nat) : PositionMap Suffix :=
  suffixes.shift index delta

/-- `remove_suffix_index`. -/
abbrev removeSuffixIndex (suffixes : PositionMap Suffix) (index : Nat) : PositionMap Suffix :=
  suffixes.drop index

/-- `retain_suffixes`. -/
abbrev retainSuffixes (suffixes : PositionMap Suffix) (flags : List Bool) : PositionMap Suffix :=
  suffixes.retain flags

/-- `@time_systems`. -/
def timeSystems : List String := ["gps", "glo", "gal", "qzs", "bds", "irn", "utc", "tai"]

/-- `set_time_system`. -/
def Core.productSetTimeSystem (product : Product Clock) (system : Value) :
    Except Failure (Product Clock) :=
  match timeSystems.find? system.isAtom with
  | some name => do
    let clock ← core.handle product
    let clock ← core.setTimeSystem clock name
    .ok (core.fromHandle clock (some product.trailingSuffixes))
  | none => invalid "invalid_argument" "time_system" system

/-- `set_record_values`. -/
def Core.productSetRecordValues (product : Product Clock) (index values : Value) :
    Except Failure (Product Clock) := do
  let index ← checkIndex index
  let values ← doubles values "values"
  let clock ← core.handle product
  let clock ← core.setRecordValues clock index values
  .ok (core.fromHandle clock (some product.trailingSuffixes))

/-- A record type of the boundary. -/
def recordType? (term : Value) : Option RecordType :=
  if term.isAtom "ar" then some .ar
  else if term.isAtom "as" then some .as
  else if term.isAtom "cr" then some .cr
  else if term.isAtom "dr" then some .dr
  else if term.isAtom "ms" then some .ms
  else none

/-- The arguments of `insert_record`: a record type, a name, an epoch and values. -/
def newRecordFields (record : Value) : Option (RecordType × Binary × Value × Value) :=
  match record with
  | .map entries => do
    let recordType ← (fetchAtom entries "record_type").bind recordType?
    let name ← (fetchAtom entries "name").bind Value.text?
    let epoch ← fetchAtom entries "epoch"
    let values ← fetchAtom entries "values"
    some (recordType, name, epoch, values)
  | _ => none

/-- `insert_record`. -/
def Core.productInsertRecord (product : Product Clock) (index record : Value) :
    Except Failure (Product Clock) :=
  match newRecordFields record with
  | some (recordType, name, epoch, values) => do
    let index ← checkIndex index
    let civil ← civilTerm epoch
    let values ← doubles values "values"
    let clock ← core.handle product
    let clock ← core.rinexClockInsertRecord clock index recordType name civil values
    .ok (core.fromHandle clock (some (shiftSuffixes product.trailingSuffixes index 1)))
  | none => invalid "invalid_argument" "record" record

/-- `remove_record`. The removed record is shown as the native clock has it. -/
def Core.productRemoveRecord (product : Product Clock) (index : Value) :
    Except Failure (Product Clock × Record) := do
  let index ← checkIndex index
  let clock ← core.handle product
  let (clock, removed) ← core.rinexClockRemoveRecord clock index
  .ok (core.fromHandle clock (some (removeSuffixIndex product.trailingSuffixes index)),
    record removed none)

/-- `keep.(record) not in [nil, false]`. -/
def truthy (term : Value) : Bool := !(term.isAtom "nil" || term.isAtom "false")

/-- `retain_records`. -/
def Core.productRetainRecords (product : Product Clock) (keep : Record → Value) :
    Except Failure (Product Clock × Nat) := do
  let records ← core.productRecords product
  let flags := records.map fun record => truthy (keep record)
  let clock ← core.handle product
  let (clock, removed) ← core.rinexClockRetainRecords clock flags
  .ok (core.fromHandle clock (some (retainSuffixes product.trailingSuffixes flags)), removed)

/-- An entry of `edit_entries`. -/
def editEntry (edit : Record → Value) (record : Record) : Except Failure (Option (List Float)) :=
  if (edit record).isAtom "nil" then .ok none
  else (doubles (edit record) "values").map some

/-- `edit_records`. -/
def Core.productEditRecords (product : Product Clock) (edit : Record → Value) :
    Except Failure (Product Clock × Nat) := do
  let records ← core.productRecords product
  let entries ← records.mapM (editEntry edit)
  let clock ← core.handle product
  let (clock, count) ← core.rinexClockEditRecords clock entries
  .ok (core.fromHandle clock (some product.trailingSuffixes), count)

end Products

end Sidereon.Rinex
