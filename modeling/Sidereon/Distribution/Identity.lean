import Sidereon.Distribution.Json
import Sidereon.Distribution.Merge
import Sidereon.Foundation.Coding

/-!
# Identities at the boundary of the core

An exact identity crosses to the native core as sixteen texts, of which the core reads types of its
own, and comes back as sixteen texts. What the core has accepted comes back as the same identity,
a request is built of what the core derives for a product, and the path of a cache entry tells
identities apart.
-/

namespace Sidereon.Distribution

open Foundation
open Json (readDigits readInteger readInteger_integerText integerText_head Ends decimal_ne_nil)

section Integers

/-- `Integer.parse`. -/
def parseInteger : Binary → Option (Int × Binary)
  | 43 :: rest => readDigits rest
  | text => readInteger text

/-- `{n, ""} <- Integer.parse(text)`. -/
def wholeInteger (text : Binary) : Option Int :=
  match parseInteger text with
  | some (n, []) => some n
  | _ => none

/-- `str::parse::<u8>`: an integer that has no minus sign. -/
def parseU8 : Binary → Option UInt8
  | 45 :: _ => none
  | text => (wholeInteger text).bind fun n => if n < 256 then some (UInt8.ofNat n.toNat) else none

/-- `str::parse::<i32>`. -/
def parseI32 (text : Binary) : Option Int :=
  (wholeInteger text).filter fun n => -2147483648 ≤ n ∧ n < 2147483648

/-- An integer that is no negative one. -/
def natural? : Int → Option Nat
  | .ofNat n => some n
  | .negSucc _ => none

/-- An integer is read back. -/
@[simp] theorem wholeInteger_integerText (n : Int) : wholeInteger (integerText n) = some n := by
  have unsigned : parseInteger (integerText n) = readInteger (integerText n) := by
    obtain ⟨byte, rest, shape, among⟩ := integerText_head n
    unfold parseInteger
    split
    · next after same =>
      rw [shape] at same
      cases same
      exact absurd among (by decide)
    · rfl
  have ends : Ends [] := by
    intro byte
    simp
  have read := readInteger_integerText n ends
  rw [List.append_nil] at read
  rw [wholeInteger, unsigned, read]

/-- A number is read back. -/
@[simp] theorem wholeInteger_decimal (n : Nat) : wholeInteger (decimal n) = some (n : Int) := by
  have text : integerText (n : Int) = decimal n := by simp [integerText]
  rw [← text, wholeInteger_integerText]

/-- A number is in range, or it is no byte. -/
theorem parseU8_decimal (n : Nat) :
    parseU8 (decimal n) = if n < 256 then some (UInt8.ofNat n) else none := by
  have unsigned : ∀ rest, decimal n ≠ 45 :: rest := by
    intro rest same
    have signed : (45 : UInt8) ∈ decimal n := by simp [same]
    exact absurd (Uri.isDigit_of_mem_decimal signed) (by decide)
  unfold parseU8
  split
  · next rest same => exact absurd same (unsigned rest)
  · rw [wholeInteger_decimal, Option.bind_some, Int.toNat_natCast]
    have same : ((n : Int) < 256) = (n < 256) := by simp only [eq_iff_iff]; omega
    simp only [same]

/-- A byte is read of the number that it is. -/
theorem parseU8_decimal_iff {n : Nat} {byte : UInt8} :
    parseU8 (decimal n) = some byte ↔ byte.toNat = n := by
  rw [parseU8_decimal]
  constructor
  · intro read
    split at read
    · next small =>
      cases read
      exact UInt8.toNat_ofNat_of_lt' small
    · cases read
  · rintro rfl
    rw [if_pos byte.toNat_lt, UInt8.ofNat_toNat]

end Integers

section Core

/-- `ProductPublisher`. -/
inductive Publisher where
  | igs
  | code
  | esa
  | gfz
  | whu
  deriving DecidableEq, Repr

/-- `SolutionClass`. -/
inductive SolutionClass where
  | final
  | rapid
  | ultraRapid
  | predicted
  | broadcast
  | nearRealTime
  deriving DecidableEq, Repr

/-- `ProductCampaign`. -/
inductive ProductCampaign where
  | operational
  | multiGnss
  | multiGnssExperiment
  | broadcast
  deriving DecidableEq, Repr

/-- `ProductFormat`. -/
inductive ProductFormat where
  | sp3
  | ionex
  | rinexClock
  | rinexNavigation
  deriving DecidableEq, Repr

/-- The publishers that `product_identity` reads. -/
def publishers : Coding Binary Publisher where
  rows := [(ascii "IGS", .igs), (ascii "COD", .code), (ascii "ESA", .esa), (ascii "GFZ", .gfz),
    (ascii "WUM", .whu)]
  distinct := by decide

/-- The solution classes that `product_identity` reads. -/
def solutionClasses : Coding Binary SolutionClass where
  rows := [(ascii "final", .final), (ascii "rapid", .rapid), (ascii "ultra_rapid", .ultraRapid),
    (ascii "predicted", .predicted), (ascii "broadcast", .broadcast),
    (ascii "near_real_time", .nearRealTime)]
  distinct := by decide

/-- The campaigns that `product_identity` reads. -/
def campaigns : Coding Binary ProductCampaign where
  rows := [(ascii "OPS", .operational), (ascii "MGN", .multiGnss),
    (ascii "MGX", .multiGnssExperiment), (ascii "BRD", .broadcast)]
  distinct := by decide

/-- The formats that `product_identity` reads. -/
def formats : Coding Binary ProductFormat where
  rows := [(ascii "SP3", .sp3), (ascii "IONEX", .ionex), (ascii "RINEX_CLK", .rinexClock),
    (ascii "RINEX_NAV", .rinexNavigation)]
  distinct := by decide

/-- `DataCatalogError`, as far as identity validation tells its kinds apart. -/
inductive CatalogError where
  | unknownCenter (code : Binary)
  | unsupportedProduct (combination : Binary)
  | inconsistentProductIdentity (field : Binary)
  | other (inspected : Binary)
  deriving DecidableEq, Repr

/-- `ProductDate` of the core. -/
structure ProductDate where
  year : Int
  month : UInt8
  day : UInt8
  deriving DecidableEq, Repr

/-- `ProductIdentity` of the core. -/
structure CoreIdentity (Family Center : Type) where
  family : Family
  analysisCenter : Center
  publisher : Publisher
  solution : SolutionClass
  campaign : ProductCampaign
  version : UInt8
  date : ProductDate
  issue : Option Binary
  span : Binary
  sample : Binary
  officialFilename : Binary
  format : ProductFormat
  formatVersion : Option Binary
  predictionHorizonDays : Option UInt8
  deriving DecidableEq

/-- The catalog of the core, as far as identities cross its boundary: the families and centers with
their codes, the codes of the other types, `ProductDate::new`, `validate` of an identity, the
comparison of product sets, and the identity that it derives for a product. -/
structure Catalog where
  Family : Type
  Center : Type
  parseFamily : Binary → Except CatalogError Family
  parseCenter : Binary → Except CatalogError Center
  familyCode : Family → Binary
  centerCode : Center → Binary
  publisherCode : Publisher → Binary
  solutionCode : SolutionClass → Binary
  campaignCode : ProductCampaign → Binary
  formatCode : ProductFormat → Binary
  dateNew : Int → UInt8 → UInt8 → Except CatalogError ProductDate
  validate : CoreIdentity Family Center → Except CatalogError Unit
  validateExactProductSet : List (CoreIdentity Family Center) →
    List (CoreIdentity Family Center) → Except Binary Unit
  productIdentity : Center → Family → ProductDate → Binary → Option Binary →
    Except CatalogError (CoreIdentity Family Center)

namespace Catalog

variable (core : Catalog)

/-- An identity as the core has it. -/
abbrev Identity : Type := CoreIdentity core.Family core.Center

/-- A field that is read, or `identity_field_error`. -/
def field {α : Type} (name : String) : Option α → Except CatalogError α
  | some value => .ok value
  | none => .error (.inconsistentProductIdentity (ascii name))

/-- The prediction horizon, of which a blank text is none. -/
def readHorizon (text : Binary) : Except CatalogError (Option UInt8) :=
  if text = [] then .ok none
  else field "prediction_horizon_days" ((parseU8 text).map some)

/-- `product_identity`. -/
def readIdentity : List Binary → Except CatalogError core.Identity
  | [family, center, publisher, solution, campaign, version, year, month, day, issue, span, sample,
      officialFilename, format, formatVersion, horizon] => do
    let family ← core.parseFamily family
    let analysisCenter ← core.parseCenter center
    let publisher ← field "publisher" (publishers.read publisher)
    let solution ← field "solution_class" (solutionClasses.read solution)
    let campaign ← field "campaign" (campaigns.read campaign)
    let version ← field "filename_version" (parseU8 version)
    let year ← field "date" (parseI32 year)
    let month ← field "date" (parseU8 month)
    let day ← field "date" (parseU8 day)
    let format ← field "format" (formats.read format)
    let predictionHorizonDays ← readHorizon horizon
    let date ← core.dateNew year month day
    let identity : core.Identity := {
      family, analysisCenter, publisher, solution, campaign, version, date
      issue := nillify issue
      span, sample, officialFilename, format
      formatVersion := nillify formatVersion
      predictionHorizonDays }
    core.validate identity
    return identity
  | _ => .error (.inconsistentProductIdentity (ascii "field_count"))

/-- `product_identity_fields`. -/
def identityFields (identity : core.Identity) : List Binary := [
  core.familyCode identity.family, core.centerCode identity.analysisCenter,
  core.publisherCode identity.publisher, core.solutionCode identity.solution,
  core.campaignCode identity.campaign, decimal identity.version.toNat,
  integerText identity.date.year, decimal identity.date.month.toNat,
  decimal identity.date.day.toNat, identity.issue.getD [], identity.span, identity.sample,
  identity.officialFilename, core.formatCode identity.format, identity.formatVersion.getD [],
  identity.predictionHorizonDays.elim [] fun days => decimal days.toNat]

/-- What is documented of the core: its codes are read as what they are codes of, and a date is the
one that was asked for. -/
structure Coded : Prop where
  family : ∀ family, core.parseFamily (core.familyCode family) = .ok family
  center : ∀ center, core.parseCenter (core.centerCode center) = .ok center
  publisher : ∀ publisher, publishers.read (core.publisherCode publisher) = some publisher
  solution : ∀ solution, solutionClasses.read (core.solutionCode solution) = some solution
  campaign : ∀ campaign, campaigns.read (core.campaignCode campaign) = some campaign
  format : ∀ format, formats.read (core.formatCode format) = some format
  date : ∀ year month day date, core.dateNew year month day = .ok date → date = ⟨year, month, day⟩

/-- How the core reads an identity, field by field. -/
structure Reads (identity : ProductIdentity) (read : core.Identity) : Prop where
  family : core.parseFamily identity.family = .ok read.family
  analysisCenter : core.parseCenter identity.analysisCenter = .ok read.analysisCenter
  publisher : publishers.read identity.publisher = some read.publisher
  solution : solutionClasses.read identity.solutionClass = some read.solution
  campaign : campaigns.read identity.campaign = some read.campaign
  version : read.version.toNat = identity.filenameVersion
  year : read.date.year = identity.date.year
  month : read.date.month.toNat = identity.date.month
  day : read.date.day.toNat = identity.date.day
  date : core.dateNew read.date.year read.date.month read.date.day = .ok read.date
  issue : read.issue = identity.issue.bind nillify
  span : read.span = identity.span
  sample : read.sample = identity.sample
  officialFilename : read.officialFilename = identity.officialFilename
  format : formats.read identity.format = some read.format
  formatVersion : read.formatVersion = identity.formatVersion.bind nillify
  horizon : read.predictionHorizonDays.map UInt8.toNat = identity.predictionHorizonDays
  valid : core.validate read = .ok ()

variable {core}

/-- A field that is read. -/
@[simp] theorem field_ok {α : Type} {name : String} {read : Option α} {value : α} :
    field name read = .ok value ↔ read = some value := by
  cases read <;> simp [field]

/-- A year of the calendar fits 32 bits. -/
theorem parseI32_year (date : Date) : parseI32 (integerText date.year) = some date.year := by
  have years := date.years
  rw [parseI32, wholeInteger_integerText, Option.filter_eq_some_iff]
  refine ⟨rfl, ?_⟩
  simp only [decide_eq_true_eq]
  omega

/-- A blank text is no text. -/
theorem nillify_getD (text : Option Binary) : nillify (text.getD []) = text.bind nillify := by
  cases text with
  | none => rfl
  | some text => rfl

/-- The horizon is read of the number of its days. -/
theorem readHorizon_iff {days : Option Nat} {read : Option UInt8} :
    readHorizon (days.elim [] decimal) = .ok read ↔ read.map UInt8.toNat = days := by
  cases days with
  | none =>
    have same : readHorizon ((none : Option Nat).elim [] decimal) = .ok none := rfl
    rw [same, Except.ok.injEq, Option.map_eq_none_iff]
    exact eq_comm
  | some n =>
    have filled : (some n : Option Nat).elim [] decimal = decimal n := rfl
    rw [filled, readHorizon, if_neg (decimal_ne_nil n), field_ok, Option.map_eq_some_iff]
    cases read with
    | none => simp
    | some byte => simp [parseU8_decimal_iff]

/-- What is read of the texts of an identity. -/
theorem readIdentity_iff (coded : core.Coded) {identity : ProductIdentity} {read : core.Identity} :
    core.readIdentity (Distribution.identityFields identity) = .ok read ↔
      core.Reads identity read := by
  unfold readIdentity Distribution.identityFields
  simp only [passes_bind, field_ok, parseI32_year, Option.some.injEq, parseU8_decimal_iff,
    readHorizon_iff, nillify_getD]
  constructor
  · rintro ⟨_, family, _, center, _, publisher, _, solution, _, campaign, version, sameVersion, _,
      rfl, month, sameMonth, day, sameDay, _, format, _, horizon, date, dated, _, valid, same⟩
    cases same
    cases coded.date _ _ _ _ dated
    exact {
      family, analysisCenter := center, publisher, solution, campaign, version := sameVersion
      year := rfl, month := sameMonth, day := sameDay, date := dated
      issue := rfl, span := rfl, sample := rfl, officialFilename := rfl
      format, formatVersion := rfl, horizon, valid }
  · intro reads
    have whole : ({
        family := read.family, analysisCenter := read.analysisCenter
        publisher := read.publisher, solution := read.solution, campaign := read.campaign
        version := read.version, date := read.date, issue := identity.issue.bind nillify
        span := identity.span, sample := identity.sample
        officialFilename := identity.officialFilename, format := read.format
        formatVersion := identity.formatVersion.bind nillify
        predictionHorizonDays := read.predictionHorizonDays } : core.Identity) = read := by
      rw [← reads.issue, ← reads.span, ← reads.sample, ← reads.officialFilename,
        ← reads.formatVersion]
    refine ⟨_, reads.family, _, reads.analysisCenter, _, reads.publisher, _, reads.solution, _,
      reads.campaign, _, reads.version, _, reads.year.symm, _, reads.month, _, reads.day, _,
      reads.format, _, reads.horizon, _, reads.date, (), ?_⟩
    rw [whole]
    exact ⟨reads.valid, rfl⟩

end Catalog

end Core

section Crossing

/-- `decode_optional_integer` of a horizon, of which a blank text is none. -/
def decodeOptionalInteger (text : Binary) : Option (Option Nat) :=
  if text = [] then some none
  else ((wholeInteger text).bind natural?).map some

/-- `decode_core_product_identity`, in which a negative count, as no `u8` prints it, is an integer
of no identity. -/
def decodeCoreProductIdentity : List Binary → Option ProductIdentity
  | [family, analysisCenter, publisher, solutionClass, campaign, version, year, month, day, issue,
      span, sample, officialFilename, format, formatVersion, horizon] => do
    let filenameVersion ← (← wholeInteger version) |> natural?
    let year ← wholeInteger year
    let month ← (← wholeInteger month) |> natural?
    let day ← (← wholeInteger day) |> natural?
    let date ← Date.new? year month day
    let predictionHorizonDays ← decodeOptionalInteger horizon
    return {
      family, analysisCenter, publisher, solutionClass, campaign, filenameVersion, date
      issue := nillify issue
      span, sample, officialFilename, format
      formatVersion := nillify formatVersion
      predictionHorizonDays }
  | _ => none

/-- An identity whose blank texts are none. -/
def ProductIdentity.unblanked (identity : ProductIdentity) : ProductIdentity :=
  { identity with
    issue := identity.issue.bind nillify
    formatVersion := identity.formatVersion.bind nillify }

/-- A date is made of its parts. -/
theorem Date.new?_parts (date : Date) : Date.new? date.year date.month date.day = some date := by
  rw [Date.new?, dif_pos date.years, dif_pos date.months, dif_pos date.days]

/-- A horizon is decoded. -/
theorem decodeOptionalInteger_decimal (days : Option Nat) :
    decodeOptionalInteger (days.elim [] decimal) = some days := by
  cases days with
  | none => rfl
  | some n =>
    have filled : (some n : Option Nat).elim [] decimal = decimal n := rfl
    rw [filled, decodeOptionalInteger, if_neg (decimal_ne_nil n), wholeInteger_decimal]
    rfl

/-- The texts of an identity are decoded to it, but for its blank texts. -/
theorem decode_identityFields (identity : ProductIdentity) :
    decodeCoreProductIdentity (identityFields identity) = some identity.unblanked := by
  have counted (n : Nat) : natural? (n : Int) = some n := rfl
  unfold identityFields decodeCoreProductIdentity
  simp only [wholeInteger_decimal, wholeInteger_integerText, counted, Date.new?_parts,
    decodeOptionalInteger_decimal, Catalog.nillify_getD, Option.bind_eq_bind, Option.bind_some]
  rfl

/-- Blank texts are none once and for all. -/
theorem unblanked_idem (text : Option Binary) :
    (text.bind nillify).bind nillify = text.bind nillify := by
  cases text with
  | none => rfl
  | some text =>
    by_cases blank : text = []
    · simp [nillify, blank]
    · simp [nillify, blank]

variable {core : Catalog}

/-- An identity that was read, as it comes back: blank texts are none, and the family and the center
have the codes of the core. -/
def Catalog.returned (core : Catalog) (read : core.Identity) (identity : ProductIdentity) :
    ProductIdentity :=
  { identity.unblanked with
    family := core.familyCode read.family
    analysisCenter := core.centerCode read.analysisCenter }

/-- Two identities that differ only in the texts by which they name the family and the center, and
in whether an absent text is blank. -/
structure Catalog.SameProduct (core : Catalog) (identity other : ProductIdentity) : Prop where
  family : core.parseFamily other.family = core.parseFamily identity.family
  analysisCenter : core.parseCenter other.analysisCenter = core.parseCenter identity.analysisCenter
  rest : { other.unblanked with
    family := identity.family
    analysisCenter := identity.analysisCenter } = identity.unblanked

/-- The texts that the core prints are those of the identity as it comes back. -/
theorem identityFields_returned (coded : core.Coded) {identity : ProductIdentity}
    {read : core.Identity} (reads : core.Reads identity read) :
    core.identityFields read = identityFields (core.returned read identity) := by
  have publisher := Coding.read_unique (coded.publisher read.publisher) reads.publisher
  have solution := Coding.read_unique (coded.solution read.solution) reads.solution
  have campaign := Coding.read_unique (coded.campaign read.campaign) reads.campaign
  have format := Coding.read_unique (coded.format read.format) reads.format
  have horizon : (read.predictionHorizonDays.elim [] fun days => decimal days.toNat) =
      identity.predictionHorizonDays.elim [] decimal := by
    rw [← reads.horizon]
    cases read.predictionHorizonDays <;> rfl
  simp only [Catalog.identityFields, identityFields, Catalog.returned, ProductIdentity.unblanked,
    publisher, solution, campaign, format, horizon, reads.version, reads.year, reads.month,
    reads.day, reads.issue, reads.span, reads.sample, reads.officialFilename, reads.formatVersion]

/-- What comes back is read as what was read. -/
theorem reads_returned (coded : core.Coded) {identity : ProductIdentity} {read : core.Identity}
    (reads : core.Reads identity read) : core.Reads (core.returned read identity) read := by
  have blanks : ∀ text : Option Binary, (text.bind nillify).bind nillify = text.bind nillify :=
    unblanked_idem
  exact { reads with
    family := coded.family read.family
    analysisCenter := coded.center read.analysisCenter
    issue := reads.issue.trans (blanks _).symm
    formatVersion := reads.formatVersion.trans (blanks _).symm }

/-- An identity that comes back has no blank text. -/
theorem returned_unblanked (read : core.Identity) (identity : ProductIdentity) :
    (core.returned read identity).unblanked = core.returned read identity := by
  simp only [Catalog.returned, ProductIdentity.unblanked, unblanked_idem]

/-- The identity that comes back is a matter of what was read. -/
theorem decode_read (coded : core.Coded) {identity : ProductIdentity} {read : core.Identity}
    (reads : core.Reads identity read) :
    decodeCoreProductIdentity (core.identityFields read) = some (core.returned read identity) := by
  rw [identityFields_returned coded reads, decode_identityFields, returned_unblanked]

/-- Two identities are read as one when they are the same product. -/
theorem reads_same (coded : core.Coded) {identity other : ProductIdentity} {read : core.Identity}
    (reads : core.Reads identity read) :
    core.Reads other read ↔ core.SameProduct identity other := by
  constructor
  · intro reads'
    have back := (decode_read coded reads').symm.trans (decode_read coded reads)
    have same := congrArg (fun back : ProductIdentity =>
      { back with family := identity.family, analysisCenter := identity.analysisCenter })
      (Option.some.inj back)
    exact ⟨reads'.family.trans reads.family.symm,
      reads'.analysisCenter.trans reads.analysisCenter.symm, same⟩
  · intro same
    have each := same.rest
    simp only [ProductIdentity.unblanked, ProductIdentity.mk.injEq] at each
    obtain ⟨-, -, publisher, solution, campaign, version, date, issue, span, sample, filename,
      format, formatVersion, horizon⟩ := each
    exact {
      family := same.family.trans reads.family
      analysisCenter := same.analysisCenter.trans reads.analysisCenter
      publisher := publisher ▸ reads.publisher
      solution := solution ▸ reads.solution
      campaign := campaign ▸ reads.campaign
      version := version ▸ reads.version
      year := date ▸ reads.year
      month := date ▸ reads.month
      day := date ▸ reads.day
      date := reads.date
      issue := issue ▸ reads.issue
      span := span ▸ reads.span
      sample := sample ▸ reads.sample
      officialFilename := filename ▸ reads.officialFilename
      format := format ▸ reads.format
      formatVersion := formatVersion ▸ reads.formatVersion
      horizon := horizon ▸ reads.horizon
      valid := reads.valid }

/-- An identity that the core accepts comes back as itself, but for blank texts and the codes of its
family and center, and is accepted again as the same. The core reads no other product as it. -/
theorem identity_crosses (coded : core.Coded) {identity : ProductIdentity} {read : core.Identity}
    (accepted : core.readIdentity (identityFields identity) = .ok read) :
    decodeCoreProductIdentity (core.identityFields read) = some (core.returned read identity) ∧
      identityFields (core.returned read identity) = core.identityFields read ∧
      core.readIdentity (identityFields (core.returned read identity)) = .ok read ∧
      ∀ other, core.readIdentity (identityFields other) = .ok read ↔
        core.SameProduct identity other := by
  have reads := (Catalog.readIdentity_iff coded).mp accepted
  refine ⟨decode_read coded reads, (identityFields_returned coded reads).symm,
    (Catalog.readIdentity_iff coded).mpr (reads_returned coded reads), fun other => ?_⟩
  rw [Catalog.readIdentity_iff coded, reads_same coded reads]

/-- Two families and two centers of the core. -/
inductive SampleFamily where
  | sp3
  | ionex
  deriving DecidableEq

inductive SampleCenter where
  | cod
  | esa
  deriving DecidableEq

/-- A catalog with these, whose identities are of a product of a day. -/
def sampleCatalog : Catalog where
  Family := SampleFamily
  Center := SampleCenter
  parseFamily text :=
    if text = ascii "sp3" then .ok .sp3
    else if text = ascii "ionex" then .ok .ionex
    else .error (.other text)
  parseCenter text :=
    if text = ascii "cod" then .ok .cod
    else if text = ascii "esa" then .ok .esa
    else .error (.unknownCenter text)
  familyCode
    | .sp3 => ascii "sp3"
    | .ionex => ascii "ionex"
  centerCode
    | .cod => ascii "cod"
    | .esa => ascii "esa"
  publisherCode
    | .igs => ascii "IGS"
    | .code => ascii "COD"
    | .esa => ascii "ESA"
    | .gfz => ascii "GFZ"
    | .whu => ascii "WUM"
  solutionCode
    | .final => ascii "final"
    | .rapid => ascii "rapid"
    | .ultraRapid => ascii "ultra_rapid"
    | .predicted => ascii "predicted"
    | .broadcast => ascii "broadcast"
    | .nearRealTime => ascii "near_real_time"
  campaignCode
    | .operational => ascii "OPS"
    | .multiGnss => ascii "MGN"
    | .multiGnssExperiment => ascii "MGX"
    | .broadcast => ascii "BRD"
  formatCode
    | .sp3 => ascii "SP3"
    | .ionex => ascii "IONEX"
    | .rinexClock => ascii "RINEX_CLK"
    | .rinexNavigation => ascii "RINEX_NAV"
  dateNew year month day :=
    if 1 ≤ month ∧ month ≤ 12 ∧ 1 ≤ day ∧ day.toNat ≤ daysInMonth year month.toNat then
      .ok ⟨year, month, day⟩
    else .error (.other (ascii "date_out_of_range"))
  validate identity :=
    if identity.span = ascii "01D" then .ok ()
    else .error (.inconsistentProductIdentity (ascii "span"))
  validateExactProductSet expected available :=
    if expected = available then .ok () else .error (ascii "product sets differ")
  productIdentity center family date sample issue := .ok {
    family, analysisCenter := center, publisher := .code, solution := .final
    campaign := .multiGnssExperiment, version := 0, date, issue, span := ascii "01D", sample
    officialFilename := ascii "COD0MGXFIN_20261930000_01D_05M_ORB.SP3", format := .sp3
    formatVersion := none, predictionHorizonDays := none }

/-- It is as documented. -/
theorem sampleCatalog_coded : sampleCatalog.Coded where
  family family := by cases family <;> rfl
  center center := by cases center <;> rfl
  publisher publisher := by cases publisher <;> decide
  solution solution := by cases solution <;> decide
  campaign campaign := by cases campaign <;> decide
  format format := by cases format <;> decide
  date year month day date dated := by
    simp only [sampleCatalog] at dated
    split at dated
    · exact (Except.ok.inj dated).symm
    · cases dated

/-- The final orbits of a day, with a blank format version. -/
def dayOrbits : ProductIdentity where
  family := ascii "sp3"
  analysisCenter := ascii "cod"
  publisher := ascii "COD"
  solutionClass := ascii "final"
  campaign := ascii "MGX"
  filenameVersion := 0
  date := ⟨2026, 7, 12, by decide, by decide, by decide⟩
  issue := some (ascii "0000")
  span := ascii "01D"
  sample := ascii "05M"
  officialFilename := ascii "COD0MGXFIN_20261930000_01D_05M_ORB.SP3"
  format := ascii "SP3"
  formatVersion := some []
  predictionHorizonDays := none

/-- The same orbits without a format version. -/
def plainOrbits : ProductIdentity := { dayOrbits with formatVersion := none }

/-- They cross as orbits without a format version. -/
theorem identity_crosses_day : ∃ read,
    sampleCatalog.returned read dayOrbits = plainOrbits ∧
      decodeCoreProductIdentity (sampleCatalog.identityFields read) =
        some (sampleCatalog.returned read dayOrbits) ∧
      identityFields (sampleCatalog.returned read dayOrbits) = sampleCatalog.identityFields read ∧
      sampleCatalog.readIdentity (identityFields (sampleCatalog.returned read dayOrbits)) =
        .ok read ∧
      ∀ other, sampleCatalog.readIdentity (identityFields other) = .ok read ↔
        sampleCatalog.SameProduct dayOrbits other := by
  have accepted : sampleCatalog.readIdentity (identityFields dayOrbits) = .ok {
      family := SampleFamily.sp3, analysisCenter := SampleCenter.cod, publisher := .code
      solution := .final, campaign := .multiGnssExperiment, version := 0, date := ⟨2026, 7, 12⟩
      issue := some (ascii "0000"), span := ascii "01D", sample := ascii "05M"
      officialFilename := ascii "COD0MGXFIN_20261930000_01D_05M_ORB.SP3", format := .sp3
      formatVersion := none, predictionHorizonDays := none } := by rfl
  exact ⟨_, by rfl, identity_crosses sampleCatalog_coded accepted⟩

end Crossing

variable {core : Catalog}

section Requests

/-- `encode_catalog_error`, as `validate_core_identity` tells its terms apart. -/
def CatalogError.coreError : CatalogError → CoreError
  | .unknownCenter code => .unknownCenter code
  | .unsupportedProduct combination => .unsupportedProduct combination
  | .inconsistentProductIdentity _ => .other
  | .other _ => .other

/-- `encode_catalog_error`, over any `inspect` of the other terms. -/
def CatalogError.reason (inspect : CatalogError → Binary) : CatalogError → Reason
  | .unknownCenter code => .unknownCenter code
  | .unsupportedProduct combination => .unsupportedProduct combination
  | error => .catalog (inspect error)

/-- Why two product sets are not accepted: an identity that cannot be read, or their difference. -/
inductive SetError where
  | catalog (error : CatalogError)
  | exactProductSet (detail : Binary)
  deriving DecidableEq, Repr

namespace Catalog

variable (core : Catalog)

/-- An error of reading as one of the comparison. -/
def setError {α : Type} : Except CatalogError α → Except SetError α
  | .ok value => .ok value
  | .error error => .error (.catalog error)

/-- `data_validate_exact_product_set`. -/
def validateSets (expected available : List (List Binary)) : Except SetError Unit := do
  let expected ← setError (expected.mapM core.readIdentity)
  let available ← setError (available.mapM core.readIdentity)
  match core.validateExactProductSet expected available with
  | .ok () => .ok ()
  | .error detail => .error (.exactProductSet detail)

/-- `product_date` of a date of the calendar, whose month and day fit a byte. -/
def productDate (date : Date) : Except CatalogError ProductDate :=
  core.dateNew date.year (UInt8.ofNat date.month) (UInt8.ofNat date.day)

/-- `data_product_identity`. -/
def deriveIdentity (product : Product) : Except CatalogError core.Identity := do
  let center ← core.parseCenter product.center
  let family ← core.parseFamily product.productType
  let date ← core.productDate product.date
  core.productIdentity center family date product.sample product.issue

/-- `identity` of a product without a filename. -/
def identityOfBare (inspect : CatalogError → Binary) (product : Product) :
    Except Reason ProductIdentity :=
  match core.deriveIdentity product with
  | .error error => .error (error.reason inspect)
  | .ok identity =>
    match decodeCoreProductIdentity (core.identityFields identity) with
    | some identity => .ok identity
    | none => .error (.catalog (ascii "invalid_core_product_identity"))

/-- `identity` of a product. -/
def identity (inspect : CatalogError → Binary) (product : Product) :
    Except Reason ProductIdentity :=
  match product.filename with
  | none => core.identityOfBare inspect product
  | some declared => do
    validateFilename declared
    let identity ← core.identityOfBare inspect { product with filename := none }
    if declared = identity.officialFilename then return identity
    else .error (.productValidationFailed (ascii "official_filename"))

/-- `request`. -/
def request (library : Library) (inspect : CatalogError → Binary) (product : Product)
    (sources : List SourceInput) : Except Reason Request := do
  let identity ← core.identity inspect product
  validateRequestIdentity library identity
  let normalized ← normalizeSources sources
  if normalized ≠ [] then return { identity, sources := normalized.map .source }
  else .error (.unsupportedDistribution (ascii "none") (ascii "source list is empty"))

/-- The library that calls this catalog to validate an identity. -/
def Serves (library : Library) : Prop :=
  ∀ fields, library.validateExactProductSet fields =
    match core.validateSets [fields] [fields] with
    | .ok () => .ok ()
    | .error (.catalog error) => .error error.coreError
    | .error (.exactProductSet _) => .error .other

/-- What is documented of the identities that the core derives: they are valid, of a date of the
calendar and without blank texts, and a set of one is itself. -/
structure Derives : Prop where
  valid : ∀ {product identity}, core.deriveIdentity product = .ok identity →
    core.validate identity = .ok ()
  date : ∀ {product identity}, core.deriveIdentity product = .ok identity →
    core.dateNew identity.date.year identity.date.month identity.date.day = .ok identity.date ∧
      ∃ date : Date, date.year = identity.date.year ∧ date.month = identity.date.month.toNat ∧
        date.day = identity.date.day.toNat
  issue : ∀ {product identity}, core.deriveIdentity product = .ok identity →
    identity.issue.bind nillify = identity.issue
  formatVersion : ∀ {product identity}, core.deriveIdentity product = .ok identity →
    identity.formatVersion.bind nillify = identity.formatVersion
  itself : ∀ identity, core.validateExactProductSet [identity] [identity] = .ok ()

/-- An identity of the core on a date, as it comes back. -/
def printed (identity : core.Identity) (date : Date) : ProductIdentity where
  family := core.familyCode identity.family
  analysisCenter := core.centerCode identity.analysisCenter
  publisher := core.publisherCode identity.publisher
  solutionClass := core.solutionCode identity.solution
  campaign := core.campaignCode identity.campaign
  filenameVersion := identity.version.toNat
  date
  issue := identity.issue
  span := identity.span
  sample := identity.sample
  officialFilename := identity.officialFilename
  format := core.formatCode identity.format
  formatVersion := identity.formatVersion
  predictionHorizonDays := identity.predictionHorizonDays.map UInt8.toNat

end Catalog

/-- What the core derives is read back from what is printed of it. -/
theorem reads_printed (coded : core.Coded) (derives : core.Derives) {product : Product}
    {read : core.Identity} (derived : core.deriveIdentity product = .ok read) :
    ∃ date, core.Reads (core.printed read date) read ∧
      core.returned read (core.printed read date) = core.printed read date := by
  obtain ⟨made, date, year, month, day⟩ := derives.date derived
  refine ⟨date, ?_, ?_⟩
  · exact {
      family := coded.family _
      analysisCenter := coded.center _
      publisher := coded.publisher _
      solution := coded.solution _
      campaign := coded.campaign _
      version := rfl
      year := year.symm
      month := month.symm
      day := day.symm
      date := made
      issue := (derives.issue derived).symm
      span := rfl
      sample := rfl
      officialFilename := rfl
      format := coded.format _
      formatVersion := (derives.formatVersion derived).symm
      horizon := rfl
      valid := derives.valid derived }
  · simp only [Catalog.returned, ProductIdentity.unblanked, Catalog.printed,
      derives.issue derived, derives.formatVersion derived]

/-- What comes back of an identity that the core derived is read as that identity. -/
theorem decoded_printed (coded : core.Coded) (derives : core.Derives) {product : Product}
    {read : core.Identity} (derived : core.deriveIdentity product = .ok read)
    {identity : ProductIdentity}
    (decoded : decodeCoreProductIdentity (core.identityFields read) = some identity) :
    ∃ date, identity = core.printed read date ∧ core.Reads identity read := by
  obtain ⟨date, reads, back⟩ := reads_printed coded derives derived
  rw [decode_read coded reads, back] at decoded
  obtain rfl := Option.some.inj decoded
  exact ⟨date, rfl, reads⟩

/-- A normalized source is normalized. -/
theorem normalizeSource_again {input : SourceInput} {source : Source}
    (normal : normalizeSource input = .ok source) :
    normalizeSource (.source source) = .ok source := by
  cases input with
  | source given =>
    have same : given = source := by
      -- only whether the fields fit the type of the source matters, not how that is decided
      change (if _ then Except.ok given else _) = _ at normal
      split_ifs at normal
      exact Except.ok.inj normal
    rw [← same] at normal ⊢
    exact normal
  | direct =>
    cases normal
    rfl
  | nasaCddis =>
    cases normal
    rfl
  | other inspected => cases normal

/-- A normalized list of sources is normalized. -/
theorem normalizeSources_again {sources : List SourceInput} {normalized : List Source}
    (normal : normalizeSources sources = .ok normalized) :
    normalizeSources (normalized.map .source) = .ok normalized := by
  unfold normalizeSources at normal ⊢
  induction sources generalizing normalized with
  | nil =>
    cases normal
    rfl
  | cons input sources ih =>
    rw [List.mapM_cons] at normal
    obtain ⟨source, first, normal⟩ := passes_bind.mp normal
    obtain ⟨rest, later, normal⟩ := passes_bind.mp normal
    cases normal
    rw [List.map_cons, List.mapM_cons, normalizeSource_again first, ih later]
    rfl

/-- The core accepts what it reads of the texts of an identity. -/
theorem serves_reads {library : Library} (coded : core.Coded) (serves : core.Serves library)
    (derives : core.Derives) {identity : ProductIdentity} {read : core.Identity}
    (reads : core.Reads identity read) :
    library.validateExactProductSet (identityFields identity) = .ok () := by
  have accepted := (Catalog.readIdentity_iff coded).mpr reads
  have alone : [identityFields identity].mapM core.readIdentity = .ok [read] := by
    rw [List.mapM_cons, accepted]
    rfl
  have validated : core.validateSets [identityFields identity] [identityFields identity] =
      .ok () := by
    simp only [Catalog.validateSets, alone, Catalog.setError]
    change (match core.validateExactProductSet [read] [read] with
      | .ok () => (.ok () : Except SetError Unit)
      | .error detail => .error (.exactProductSet detail)) = _
    rw [derives.itself]
  rw [serves, validated]

/-- A product may be requested when its family is one that is acquired, its filename is plain and
the core accepts its texts. -/
theorem validateRequestIdentity_iff {library : Library} {identity : ProductIdentity} :
    validateRequestIdentity library identity = .ok () ↔
      identity.family ∈ [ascii "sp3", ascii "ionex"] ∧
        validateFilename identity.officialFilename = .ok () ∧
        library.validateExactProductSet (identityFields identity) = .ok () := by
  unfold validateRequestIdentity
  by_cases family : identity.family ∈ [ascii "sp3", ascii "ionex"]
  · rw [if_pos family]
    unfold validateCoreIdentity
    constructor
    · intro checked
      obtain ⟨_, named, accepted⟩ := passes_bind.mp checked
      refine ⟨family, named, ?_⟩
      cases answer : library.validateExactProductSet (identityFields identity) with
      | ok _ => rfl
      | error error =>
        rw [answer] at accepted
        cases error with
        | unknownCenter code => cases accepted
        | unsupportedProduct combination =>
          simp only at accepted
          split_ifs at accepted
        | other => cases accepted
    · rintro ⟨-, named, accepted⟩
      rw [accepted]
      exact passes_bind.mpr ⟨(), named, rfl⟩
  · rw [if_neg family]
    constructor
    · intro checked
      cases checked
    · intro checked
      exact absurd checked.1 family

/-- The identity of a product without a filename is what comes back of the one the core derives. -/
theorem identityOfBare_iff {inspect : CatalogError → Binary} {product : Product}
    {identity : ProductIdentity} :
    core.identityOfBare inspect product = .ok identity ↔
      ∃ read, core.deriveIdentity product = .ok read ∧
        decodeCoreProductIdentity (core.identityFields read) = some identity := by
  unfold Catalog.identityOfBare
  cases derived : core.deriveIdentity product with
  | error error => simp
  | ok read =>
    cases decoded : decodeCoreProductIdentity (core.identityFields read) with
    | none => simp [decoded]
    | some found => simp [decoded]

/-- The identity of a product is that one too, when a filename that it declares is the official
one. -/
theorem identity_iff {inspect : CatalogError → Binary} {product : Product}
    {identity : ProductIdentity} :
    core.identity inspect product = .ok identity ↔
      (∃ read, core.deriveIdentity product = .ok read ∧
        decodeCoreProductIdentity (core.identityFields read) = some identity) ∧
      ∀ declared, product.filename = some declared →
        validateFilename declared = .ok () ∧ declared = identity.officialFilename := by
  rw [← @identityOfBare_iff core inspect]
  unfold Catalog.identity
  cases product.filename with
  | none => simp
  | some declared =>
    -- the core is not asked for the filename, so without it the product has the same identity
    constructor
    · intro found
      obtain ⟨_, named, found⟩ := passes_bind.mp found
      obtain ⟨bare, derived, found⟩ := passes_bind.mp found
      split at found
      · next same =>
        cases found
        refine ⟨derived, fun filename given => ?_⟩
        cases given
        exact ⟨named, same⟩
      · cases found
    · rintro ⟨derived, official⟩
      obtain ⟨named, same⟩ := official declared rfl
      refine passes_bind.mpr ⟨(), named, passes_bind.mpr ⟨identity, derived, ?_⟩⟩
      exact if_pos same

/-- What makes a request of a product and sources: the core derives an identity for the product, of
a family that is acquired and of a plain filename, which is the one that the product declares if it
declares one, and the sources are some and each is well formed. -/
structure Catalog.Requested (core : Catalog) (product : Product) (sources : List SourceInput)
    (read : core.Identity) (normalized : List Source) : Prop where
  derived : core.deriveIdentity product = .ok read
  declared : ∀ filename, product.filename = some filename → filename = read.officialFilename
  family : core.familyCode read.family ∈ [ascii "sp3", ascii "ionex"]
  named : validateFilename read.officialFilename = .ok ()
  normal : normalizeSources sources = .ok normalized
  given : normalized ≠ []

/-- The steps of `request`, one after the other. -/
theorem request_steps {library : Library} {inspect : CatalogError → Binary} {product : Product}
    {sources : List SourceInput} {request : Request} :
    core.request library inspect product sources = .ok request ↔
      core.identity inspect product = .ok request.identity ∧
        validateRequestIdentity library request.identity = .ok () ∧
        ∃ normalized, normalizeSources sources = .ok normalized ∧ normalized ≠ [] ∧
          request.sources = normalized.map .source := by
  constructor
  · intro built
    obtain ⟨identity, identified, built⟩ := passes_bind.mp built
    obtain ⟨_, validated, built⟩ := passes_bind.mp built
    obtain ⟨normalized, normal, built⟩ := passes_bind.mp built
    split at built
    · next given =>
      cases built
      exact ⟨identified, validated, normalized, normal, given, rfl⟩
    · cases built
  · rintro ⟨identified, validated, normalized, normal, given, listed⟩
    refine passes_bind.mpr ⟨_, identified, passes_bind.mpr ⟨(), validated, ?_⟩⟩
    refine passes_bind.mpr ⟨normalized, normal, ?_⟩
    rw [if_pos given, ← listed]
    rfl

/-- `request` builds a request exactly of a product and sources that make one, and then it is for
what comes back of the derived identity, from the normalized sources. -/
theorem request_iff {library : Library} (coded : core.Coded) (serves : core.Serves library)
    (derives : core.Derives) {inspect : CatalogError → Binary} {product : Product}
    {sources : List SourceInput} {request : Request} :
    core.request library inspect product sources = .ok request ↔
      ∃ read normalized, core.Requested product sources read normalized ∧
        decodeCoreProductIdentity (core.identityFields read) = some request.identity ∧
        request.sources = normalized.map .source := by
  rw [request_steps]
  constructor
  · rintro ⟨identified, validated, normalized, normal, given, listed⟩
    obtain ⟨⟨read, derived, decoded⟩, declared⟩ := identity_iff.mp identified
    obtain ⟨family, named, -⟩ := validateRequestIdentity_iff.mp validated
    obtain ⟨date, same, -⟩ := decoded_printed coded derives derived decoded
    rw [same] at family named declared
    refine ⟨read, normalized, ?_, decoded, listed⟩
    exact {
      derived
      declared := fun filename official => (declared filename official).2
      family
      named
      normal
      given }
  · rintro ⟨read, normalized, requested, decoded, listed⟩
    obtain ⟨date, same, reads⟩ := decoded_printed coded derives requested.derived decoded
    have accepted := serves_reads coded serves derives reads
    have identified : core.identity inspect product = .ok request.identity := by
      refine identity_iff.mpr ⟨⟨read, requested.derived, decoded⟩, fun filename official => ?_⟩
      obtain rfl := requested.declared filename official
      rw [same]
      exact ⟨requested.named, rfl⟩
    have validated : validateRequestIdentity library request.identity = .ok () := by
      rw [validateRequestIdentity_iff]
      refine ⟨?_, ?_, accepted⟩
      · rw [same]
        exact requested.family
      · rw [same]
        exact requested.named
    exact ⟨identified, validated, normalized, requested.normal, requested.given, listed⟩

/-- The catalog of the sample, which derives the identities of the days of its dates. -/
def dayCatalog : Catalog :=
  { sampleCatalog with
    productIdentity := fun center family date sample issue =>
      sampleCatalog.productIdentity center family date sample (issue.bind nillify) }

/-- Its codes are as documented. -/
theorem dayCatalog_coded : dayCatalog.Coded := by
  obtain ⟨family, center, publisher, solution, campaign, format, date⟩ := sampleCatalog_coded
  exact ⟨family, center, publisher, solution, campaign, format, date⟩

/-- What it derives is made for a date of the calendar. -/
theorem dayCatalog_derived {product : Product} {identity : dayCatalog.Identity}
    (derived : dayCatalog.deriveIdentity product = .ok identity) :
    ∃ center family date, dayCatalog.productDate product.date = .ok date ∧
      dayCatalog.productIdentity center family date product.sample product.issue =
        .ok identity := by
  obtain ⟨center, -, derived⟩ := passes_bind.mp derived
  obtain ⟨family, -, derived⟩ := passes_bind.mp derived
  obtain ⟨date, dated, made⟩ := passes_bind.mp derived
  exact ⟨center, family, date, dated, made⟩

/-- The identities that it derives are as documented. -/
theorem dayCatalog_derives : dayCatalog.Derives := by
  constructor
  · intro product identity derived
    obtain ⟨center, family, date, -, made⟩ := dayCatalog_derived derived
    cases made
    rfl
  · intro product identity derived
    obtain ⟨center, family, date, dated, made⟩ := dayCatalog_derived derived
    have same := dayCatalog_coded.date _ _ _ _ dated
    have months := product.date.months
    have days := product.date.days
    have month : daysInMonth product.date.year product.date.month ≤ 31 := by
      unfold daysInMonth
      split_ifs <;> omega
    cases made
    refine ⟨same ▸ dated, product.date, ?_⟩
    simp only [same, UInt8.toNat_ofNat', true_and]
    omega
  · intro product identity derived
    obtain ⟨center, family, date, -, made⟩ := dayCatalog_derived derived
    cases made
    exact unblanked_idem product.issue
  · intro product identity derived
    obtain ⟨center, family, date, -, made⟩ := dayCatalog_derived derived
    cases made
    rfl
  · intro identity
    exact if_pos rfl

/-- A library that asks it. -/
def dayServer : Library :=
  { plainLibrary with
    validateExactProductSet := fun fields =>
      match dayCatalog.validateSets [fields] [fields] with
      | .ok () => .ok ()
      | .error (.catalog error) => .error error.coreError
      | .error (.exactProductSet _) => .error .other }

/-- The orbits of a day, asked for by their filename. -/
def dayProduct : Product where
  center := ascii "cod"
  date := dayOrbits.date
  sample := ascii "05M"
  issue := dayOrbits.issue
  filename := some (ascii "COD0MGXFIN_20261930000_01D_05M_ORB.SP3")

/-- A request for them, from the archive of the center and then from the one of NASA. -/
def dayRequest : Request where
  identity := plainOrbits
  sources := [.source { type := .direct },
    .source { type := .nasaCddis, compression := some .gzip }]

/-- It is built. -/
theorem dayRequest_built : dayCatalog.request dayServer (fun _ => []) dayProduct
    [.direct, .nasaCddis] = .ok dayRequest := by
  rfl

/-- The request is what its product and sources make. -/
theorem request_iff_day : ∃ read normalized,
    dayCatalog.Requested dayProduct [.direct, .nasaCddis] read normalized ∧
      decodeCoreProductIdentity (dayCatalog.identityFields read) = some dayRequest.identity ∧
      dayRequest.sources = normalized.map .source :=
  (request_iff dayCatalog_coded (fun _ => rfl) dayCatalog_derives).mp dayRequest_built

/-- The checks of `acquire` find nothing wrong with a request that `request` built, but with the
options. -/
theorem checkRequest_built {library : Library} {inspect : CatalogError → Binary} {product : Product}
    {sources : List SourceInput} {request : Request}
    (built : core.request library inspect product sources = .ok request) :
    ∃ normalized, normalizeSources sources = .ok normalized ∧
      ∀ opts, checkRequest library request opts = do
        validateSizeLimits opts
        validateCacheLockTimeout opts
        return normalized := by
  obtain ⟨-, validated, normalized, normal, given, listed⟩ := request_steps.mp built
  have again := normalizeSources_again normal
  refine ⟨normalized, normal, fun opts => ?_⟩
  unfold checkRequest
  simp only [validated, listed, again]
  cases validateSizeLimits opts with
  | error reason => rfl
  | ok _ =>
    cases validateCacheLockTimeout opts with
    | error reason => rfl
    | ok _ => exact if_pos given

end Requests

section CacheKeys

/-- What `identity_key` digests. -/
def identityPayload (identity : ProductIdentity) : Binary :=
  [0].intercalate [
    identity.family, identity.analysisCenter, identity.publisher, identity.solutionClass,
    identity.campaign, decimal identity.filenameVersion, identity.date.toIso8601,
    identity.issue.getD [], identity.span, identity.sample, identity.officialFilename,
    identity.format, identity.formatVersion.getD [],
    identity.predictionHorizonDays.elim [] decimal]

/-- No text of an identity has a NUL byte. -/
def ProductIdentity.Printable (identity : ProductIdentity) : Prop :=
  ∀ text ∈ [identity.family, identity.analysisCenter, identity.publisher, identity.solutionClass,
    identity.campaign, identity.issue.getD [], identity.span, identity.sample,
    identity.officialFilename, identity.format, identity.formatVersion.getD []], 0 ∉ text

instance (identity : ProductIdentity) : Decidable identity.Printable :=
  inferInstanceAs (Decidable (∀ text ∈ _, 0 ∉ text))

/-- Digits are no separator. -/
theorem decimal_plain {separator : UInt8} (n : Nat) (other : isDigit separator = false) :
    separator ∉ decimal n := by
  intro member
  rw [Uri.isDigit_of_mem_decimal member] at other
  cases other

/-- A number has one decimal text. -/
theorem decimal_inj {n n' : Nat} (same : decimal n = decimal n') : n = n' := by
  have values := congrArg Uri.ofDigits same
  rwa [Json.ofDigits_decimal, Json.ofDigits_decimal] at values

/-- A date has one text. -/
theorem toIso8601_inj {date date' : Date} (same : date.toIso8601 = date'.toIso8601) :
    date = date' := by
  have read := congrArg Date.fromIso8601 same
  rw [Date.fromIso8601_toIso8601, Date.fromIso8601_toIso8601] at read
  exact Option.some.inj read

/-- The text of a date has no NUL byte. -/
theorem toIso8601_plain (date : Date) : (0 : UInt8) ∉ date.toIso8601 := by
  have digit (n : Nat) : (0 : UInt8) ≠ Date.digit n := by
    intro same
    have value := congrArg UInt8.toNat same
    rw [Date.digit, UInt8.toNat_ofNat_of_lt' (show 48 + n % 10 < 256 by omega)] at value
    have none : (0 : UInt8).toNat = 0 := rfl
    omega
  have digits (n : Nat) : (0 : UInt8) ∉ Date.two n := by simp [Date.two, digit]
  unfold Date.toIso8601 Date.four
  simp [digits]

/-- A horizon has one text. -/
theorem horizon_inj {days days' : Option Nat}
    (same : days.elim [] decimal = days'.elim [] decimal) : days = days' := by
  have read := congrArg decodeOptionalInteger same
  rw [decodeOptionalInteger_decimal, decodeOptionalInteger_decimal] at read
  exact Option.some.inj read

/-- The payload of an identity is of no other, but for blank texts. -/
theorem identityPayload_inj {identity other : ProductIdentity} (printable : identity.Printable)
    (printable' : other.Printable) (same : identityPayload identity = identityPayload other) :
    identity.unblanked = other.unblanked := by
  have plain {identity : ProductIdentity} (printable : identity.Printable) :
      ∀ text ∈ [identity.family, identity.analysisCenter, identity.publisher,
        identity.solutionClass, identity.campaign, decimal identity.filenameVersion,
        identity.date.toIso8601, identity.issue.getD [], identity.span, identity.sample,
        identity.officialFilename, identity.format, identity.formatVersion.getD [],
        identity.predictionHorizonDays.elim [] decimal], 0 ∉ text := by
    have horizon : (0 : UInt8) ∉ identity.predictionHorizonDays.elim [] decimal := by
      cases identity.predictionHorizonDays with
      | none => exact List.not_mem_nil
      | some days => exact decimal_plain days (by decide)
    have version : (0 : UInt8) ∉ decimal identity.filenameVersion := decimal_plain _ (by decide)
    have date := toIso8601_plain identity.date
    simp only [ProductIdentity.Printable, List.forall_mem_cons] at printable
    simp only [List.forall_mem_cons]
    tauto
  have texts := intercalate_inj (plain printable) (plain printable') (by simp) (by simp) same
  simp only [List.cons.injEq, and_true] at texts
  obtain ⟨family, center, publisher, solution, campaign, version, date, issue, span, sample,
    filename, format, formatVersion, horizon⟩ := texts
  have blank {text text' : Option Binary} (same : text.getD [] = text'.getD []) :
      text.bind nillify = text'.bind nillify := by
    rw [← Catalog.nillify_getD, ← Catalog.nillify_getD, same]
  simp only [ProductIdentity.unblanked, ProductIdentity.mk.injEq]
  exact ⟨family, center, publisher, solution, campaign, decimal_inj version, toIso8601_inj date,
    blank issue, span, sample, filename, format, blank formatVersion, horizon_inj horizon⟩

/-- The path of a cache entry, from its last common part on. -/
theorem cachePath_eq (library : Library) (opts : Options) :
    ∃ front, ∀ identity source, cachePath library identity source opts =
      front ++ (source.name ++ 47 :: (identity.family ++
        47 :: (identityKey library identity ++ 47 :: identity.officialFilename))) := by
  refine ⟨(opts.cacheDir.reverse.dropWhile (· == 47)).reverse ++ 47 :: ascii "products" ++
    47 :: ascii "v1" ++ [47], fun identity source => ?_⟩
  simp [cachePath, joinPath, List.intercalate]

/-- The family of an identity that may be requested is one name, and so is its filename. -/
theorem requestable {library : Library} {identity : ProductIdentity}
    (checked : validateRequestIdentity library identity = .ok ()) :
    47 ∉ identity.family ∧ 47 ∉ identity.officialFilename := by
  obtain ⟨family, named, -⟩ := validateRequestIdentity_iff.mp checked
  unfold validateFilename at named
  split at named
  · next plain =>
    refine ⟨?_, plain.2.1⟩
    simp only [List.mem_cons, List.not_mem_nil, or_false] at family
    rcases family with same | same <;> rw [same] <;> decide
  · cases named

/-- Two products that may be requested have one path in the cache only from one source, and only
when they are one identity but for blank texts, or when the digests of their payloads begin
alike. -/
theorem cachePath_binds {library : Library} {opts : Options} {identity other : ProductIdentity}
    {source source' : SourceType}
    (digits : ∀ bytes, (library.sha256 bytes).length = 64)
    (checked : validateRequestIdentity library identity = .ok ())
    (checked' : validateRequestIdentity library other = .ok ())
    (printable : identity.Printable) (printable' : other.Printable)
    (same : cachePath library identity source opts = cachePath library other source' opts) :
    source = source' ∧ (identity.unblanked = other.unblanked ∨
      identityPayload identity ≠ identityPayload other ∧
        (library.sha256 (identityPayload identity)).take 20 =
          (library.sha256 (identityPayload other)).take 20) := by
  obtain ⟨front, path⟩ := cachePath_eq library opts
  obtain ⟨family, filename⟩ := requestable checked
  obtain ⟨family', filename'⟩ := requestable checked'
  have named (source : SourceType) : 47 ∉ source.name := by cases source <;> decide
  rw [path, path, List.append_cancel_left_eq] at same
  obtain ⟨sources, rest⟩ := append_separator_inj (named source) (named source') same
  obtain ⟨-, rest⟩ := append_separator_inj family family' rest
  obtain ⟨keys, -⟩ := append_separator_inj_last filename filename' rest
  have digests : (library.sha256 (identityPayload identity)).take 20 =
      (library.sha256 (identityPayload other)).take 20 := by
    refine List.append_inj_right' keys ?_
    simp only [List.length_take]
    rw [digits, digits]
  constructor
  · revert sources
    cases source <;> cases source' <;> decide
  · by_cases payloads : identityPayload identity = identityPayload other
    · exact Or.inl (identityPayload_inj printable printable' payloads)
    · exact Or.inr ⟨payloads, digests⟩

/-- A library with the digest of the orbits of the day. -/
def dayLibrary : Library :=
  { plainLibrary with
    sha256 _ := ascii "a91258c21fa4860c34cee39033fc8f5c011dc05d0e942b4916756256ca4cf65b" }

example : identityKey dayLibrary dayOrbits = ascii "cod-final-a91258c21fa4860c34ce" := by
  decide +kernel

/-- The orbits with a blank format version and without one have one path. -/
theorem cachePath_binds_blank : SourceType.direct = .direct ∧
    (dayOrbits.unblanked = plainOrbits.unblanked ∨
      identityPayload dayOrbits ≠ identityPayload plainOrbits ∧
        (dayLibrary.sha256 (identityPayload dayOrbits)).take 20 =
          (dayLibrary.sha256 (identityPayload plainOrbits)).take 20) := by
  have digits : ∀ bytes, (dayLibrary.sha256 bytes).length = 64 := fun _ => by
    simp only [dayLibrary]
    decide +kernel
  have path : cachePath dayLibrary dayOrbits .direct plainOptions =
      cachePath dayLibrary plainOrbits .direct plainOptions := rfl
  exact cachePath_binds digits rfl rfl (by decide +kernel) (by decide +kernel) path

end CacheKeys

end Sidereon.Distribution
