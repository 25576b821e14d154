import Sidereon.Rinex.Clock
import Sidereon.Foundation.Run

/-!
# The trailing texts of an edited product

Every record of a product has an origin: it was read, with a trailing text or without one, or it
was inserted. An edit moves the origins as the documentation of the native clock says it moves the
records. The native clock may drop a text when it rewrites a line; the product shows it all the
same. Only the record that `remove_record` returns is shown without the product's text.
-/

namespace Sidereon.Rinex

open Foundation
open MergeReport (Value)

/-- What stays the same of a record in every edit. -/
structure Key where
  recordType : RecordType
  name : Binary
  civilEpoch : CivilEpoch

/-- Where a record comes from: the position it was read at, if it was read, and the text it was
read with. -/
structure Origin where
  key : Key
  readAt : Option Nat
  suffix : Option Suffix

/-- The key of a native record. -/
def ClockRecord.key (record : ClockRecord) : Key :=
  ⟨record.recordType, record.name, record.civilEpoch⟩

/-- The key of a record that is shown. -/
def Record.key (record : Record) : Key := ⟨record.recordType, record.name, record.civilEpoch⟩

section Assumptions

variable {Clock : Type} (core : Core Clock)

/-- A record of a clock stays in an edited clock. Its text may be dropped. -/
structure Core.Survives (clock edited : Clock) (old new : ClockRecord) : Prop where
  key : new.key = old.key
  suffix : core.suffix edited new = core.suffix clock old ∨ core.suffix edited new = none

/-- The records of a clock stay in an edited clock, in order. -/
abbrev Core.AllSurvive (clock edited : Clock) : List ClockRecord → List ClockRecord → Prop :=
  List.Forall₂ (core.Survives clock edited)

/-- The edits of the native clock act on its records at the index they are given. -/
structure Core.Documented : Prop where
  count : ∀ clock, core.recordCount clock = (core.records clock).length
  built : ∀ series clock, core.fromSeriesRows series = .ok clock →
    ∀ record ∈ core.records clock, core.suffix clock record = none
  setTimeSystem : ∀ clock edited system, core.setTimeSystem clock system = .ok edited →
    core.AllSurvive clock edited (core.records clock) (core.records edited)
  setRecordValues : ∀ clock edited index values,
    core.setRecordValues clock index values = .ok edited →
      core.AllSurvive clock edited (core.records clock) (core.records edited)
  newRecord : ∀ recordType name epoch values record,
    core.newRecord recordType name epoch values = .ok record →
      record.key = ⟨recordType, name, epoch⟩
  insertRecord : ∀ clock edited index record, core.insertRecord clock index record = .ok edited →
    index ≤ (core.records clock).length ∧ ∃ others inserted,
      core.AllSurvive clock edited (core.records clock) others ∧
        core.records edited = others.insertIdx index inserted ∧
          inserted.key = record.key ∧ core.suffix edited inserted = none
  removeRecord : ∀ clock edited index removed,
    core.removeRecord clock index = .ok (edited, removed) →
      (∃ old, (core.records clock)[index]? = some old ∧ removed.key = old.key ∧
        core.suffix edited removed = core.suffix clock old) ∧
      core.AllSurvive clock edited ((core.records clock).eraseIdx index) (core.records edited)
  retainRecords : ∀ clock edited flags removed, flags.length = (core.records clock).length →
    core.retainRecords clock flags = (edited, removed) →
      core.AllSurvive clock edited (keptBy flags (core.records clock)) (core.records edited)
  editRecords : ∀ clock edited edits count, core.editRecords clock edits = .ok (edited, count) →
    core.AllSurvive clock edited (core.records clock) (core.records edited)

end Assumptions

section Requests

/-- A call of one of the edits. -/
inductive Request where
  | setTimeSystem (system : Value)
  | setRecordValues (index values : Value)
  | insertRecord (index record : Value)
  | removeRecord (index : Value)
  | retainRecords (keep : Record → Value)
  | editRecords (edit : Record → Value)

variable {Clock : Type} (core : Core Clock)

/-- The call of an edit: the edited product, and the removed record if the call returns one. -/
def Core.perform (product : Product Clock) :
    Request → Except Failure (Product Clock × Option Record)
  | .setTimeSystem system => (core.productSetTimeSystem product system).map (·, none)
  | .setRecordValues index values =>
    (core.productSetRecordValues product index values).map (·, none)
  | .insertRecord index record => (core.productInsertRecord product index record).map (·, none)
  | .removeRecord index =>
    (core.productRemoveRecord product index).map fun edited => (edited.1, some edited.2)
  | .retainRecords keep =>
    (core.productRetainRecords product keep).map fun edited => (edited.1, none)
  | .editRecords edit => (core.productEditRecords product edit).map fun edited => (edited.1, none)

/-- The origin of a record that a call inserts. -/
def insertedOrigin (record : Value) : Option Origin :=
  match newRecordFields record with
  | some (recordType, name, epoch, _) =>
    match civilTerm epoch with
    | .ok civil => some ⟨⟨recordType, name, civil⟩, none, none⟩
    | .error _ => none
  | none => none

/-- What an edit does to the origins of the records, where `records` are those of the product. -/
def moveOrigins (records : List Record) (origins : List Origin) : Request → List Origin
  | .setTimeSystem _ => origins
  | .setRecordValues _ _ => origins
  | .insertRecord index record =>
    match checkIndex index, insertedOrigin record with
    | .ok index, some origin => origins.insertIdx index origin
    | _, _ => origins
  | .removeRecord index =>
    match checkIndex index with
    | .ok index => origins.eraseIdx index
    | .error _ => origins
  | .retainRecords keep => keptBy (records.map fun record => truthy (keep record)) origins
  | .editRecords _ => origins

/-- A product, and the origins of its records. -/
structure Edited (Clock : Type) where
  product : Product Clock
  origins : List Origin

/-- The records a product shows; none when there is no native clock to show. -/
def Core.recordsOf (product : Product Clock) : List Record :=
  match core.productRecords product with
  | .ok records => records
  | .error _ => []

/-- A call and what follows from it: a failing call leaves the product as it was. -/
def Core.step (state : Edited Clock) (request : Request) : Edited Clock :=
  match core.perform state.product request with
  | .ok (product, _) => ⟨product, moveOrigins (core.recordsOf state.product) state.origins request⟩
  | .error _ => state

/-- A record shows an origin: its key, and its text and column exactly. -/
structure Record.Shows (record : Record) (origin : Origin) : Prop where
  key : record.key = origin.key
  bytes : record.trailingTextBytes = origin.suffix.map (·.1)
  column : record.trailingTextColumn = origin.suffix.map (·.2)

/-- Every record of a product shows its origin. -/
def Core.ShowsOrigins (state : Edited Clock) : Prop :=
  ∀ records, core.productRecords state.product = .ok records →
    List.Forall₂ Record.Shows records state.origins

/-- A removal returns the record at its index, with its own text. -/
def Core.ReturnsRemoved (state : Edited Clock) (request : Request) : Prop :=
  ∀ index product removed, request = .removeRecord index →
    core.perform state.product request = .ok (product, some removed) →
      ∃ position origin, checkIndex index = .ok position ∧
        state.origins[position]? = some origin ∧ removed.Shows origin

/-- The origins of the records of a native clock. -/
def Core.readOrigins (clock : Clock) : List Origin :=
  (core.records clock).zipIdx.map fun record =>
    ⟨record.1.key, some record.2, core.suffix clock record.1⟩

/-- A product as it is opened, with the origins of its records. -/
def Core.opened (product : Product Clock) : Edited Clock where
  product := product
  origins :=
    match core.handle product with
    | .ok clock => core.readOrigins clock
    | .error _ => []

/-- A product that was not edited: read from a text, or a struct of samples. -/
def Core.Unedited (product : Product Clock) : Prop :=
  (∃ clock, product = core.fromHandle clock none) ∨ ∃ series, product = ⟨none, ∅, series⟩

/-- The steps of a run of calls. -/
def Core.Steps (state : Edited Clock) (request : Request) (next : Edited Clock) : Prop :=
  core.step state request = next

/-- The native clock still has the text of a record that a call removes. -/
def Core.Intact (state : Edited Clock) (request : Request) : Prop :=
  ∀ index position clock edited record,
    request = .removeRecord index → checkIndex index = .ok position →
      core.handle state.product = .ok clock → core.removeRecord clock position = .ok edited →
        (core.records clock)[position]? = some record →
          ∀ suffix, state.product.trailingSuffixes.lookup position = some suffix →
            core.suffix clock record = some suffix

end Requests

section Invariant

variable {Clock : Type} {core : Core Clock}

/-- A native record carries an origin: its key, and its text or no text. -/
structure Core.Carries (core : Core Clock) (clock : Clock) (record : ClockRecord)
    (origin : Origin) : Prop where
  key : record.key = origin.key
  suffix : core.suffix clock record = origin.suffix ∨ core.suffix clock record = none

/-- The texts of a product are those of the origins, and the native records carry the origins. -/
structure Core.Tracks (core : Core Clock) (state : Edited Clock) : Prop where
  marks : state.product.trailingSuffixes.Marks (state.origins.map (·.suffix))
  records : ∀ clock, core.handle state.product = .ok clock →
    List.Forall₂ (core.Carries clock) (core.records clock) state.origins

/-- A record that survives an edit carries the origin it carried. -/
theorem carries_survivor {clock edited : Clock} {old new : ClockRecord} {origin : Origin}
    (carries : core.Carries clock old origin) (survives : core.Survives clock edited old new) :
    core.Carries edited new origin where
  key := survives.key.trans carries.key
  suffix := by
    rcases survives.suffix with kept | dropped
    · rw [kept]; exact carries.suffix
    · exact .inr dropped

/-- Records that survive an edit carry the origins they carried. -/
theorem carry_survivors {clock edited : Clock} {old new : List ClockRecord} {origins : List Origin}
    (carry : List.Forall₂ (core.Carries clock) old origins)
    (survive : core.AllSurvive clock edited old new) :
    List.Forall₂ (core.Carries edited) new origins := by
  have through : ∀ record origin survivor, core.Carries clock record origin →
      core.Survives clock edited record survivor → core.Carries edited survivor origin :=
    fun _ _ _ => carries_survivor
  exact forall₂_through through carry survive

/-- A native clock and the texts kept beside it track the origins. -/
theorem tracks_fromHandle {clock : Clock} {suffixes : PositionMap Suffix} {origins : List Origin}
    (marks : suffixes.Marks (origins.map (·.suffix)))
    (carry : List.Forall₂ (core.Carries clock) (core.records clock) origins) :
    core.Tracks ⟨core.fromHandle clock (some suffixes), origins⟩ where
  marks := marks
  records := by
    intro own found
    cases found
    exact carry

/-- The native records carry the origins they are read with. -/
theorem carry_readOrigins (clock : Clock) :
    List.Forall₂ (core.Carries clock) (core.records clock) (core.readOrigins clock) := by
  have same : List.Forall₂ Eq (core.records clock) (core.records clock) :=
    List.forall₂_same.mpr fun _ _ => rfl
  have read : List.Forall₂ (fun origin record => core.Carries clock record origin)
      (core.readOrigins clock) (core.records clock) := by
    refine forall₂_zipIdx same 0 ?_
    intro position record own _ _ equal
    subst equal
    exact ⟨rfl, .inl rfl⟩
  exact read.flip

theorem readOrigins_suffix (clock : Clock) :
    (core.readOrigins clock).map (·.suffix) = (core.records clock).map (core.suffix clock) := by
  rw [Core.readOrigins, List.map_map]
  have parts : ((fun origin : Origin => origin.suffix) ∘ fun record : ClockRecord × Nat =>
      ⟨record.1.key, some record.2, core.suffix clock record.1⟩) =
        core.suffix clock ∘ Prod.fst := rfl
  rw [parts, ← List.map_map, List.zipIdx_map_fst]

/-- The boundary carries both parts of a text, or neither. -/
theorem recordTerm_suffix (clock : Clock) (record : ClockRecord) :
    (core.recordTerm clock record).suffix = core.suffix clock record := by
  cases own : core.suffix clock record <;> simp [Core.recordTerm, Record.suffix, own]

theorem fromHandle_suffixes (clock : Clock) :
    (core.fromHandle clock none).trailingSuffixes =
      PositionMap.collect ((core.records clock).map (core.suffix clock)) := by
  have texts : (core.rinexClockRecords clock).map Record.suffix =
      (core.records clock).map (core.suffix clock) := by
    rw [Core.rinexClockRecords, List.map_map]
    exact List.map_congr_left fun record _ => recordTerm_suffix clock record
  rw [← texts]
  rfl

/-- A product that was not edited keeps the texts of the records it was read with. -/
theorem tracks_opened (documented : core.Documented) {product : Product Clock}
    (unedited : core.Unedited product) : core.Tracks (core.opened product) := by
  rcases unedited with ⟨clock, rfl⟩ | ⟨series, rfl⟩
  · have marks := PositionMap.marks_collect ((core.records clock).map (core.suffix clock))
    rw [← fromHandle_suffixes, ← readOrigins_suffix] at marks
    refine ⟨marks, ?_⟩
    intro own found
    cases found
    exact carry_readOrigins clock
  · cases built : core.fromSeriesRows series with
    | error failure =>
      refine ⟨?_, ?_⟩
      · apply PositionMap.marks_empty
        simp [Core.opened, Core.handle, built]
      · intro clock found
        cases built.symm.trans found
    | ok clock =>
      have origins : (core.opened ⟨none, ∅, series⟩).origins = core.readOrigins clock := by
        simp [Core.opened, Core.handle, built]
      refine ⟨?_, ?_⟩
      · apply PositionMap.marks_empty
        rw [origins, readOrigins_suffix]
        intro mark member
        obtain ⟨record, own, rfl⟩ := List.mem_map.mp member
        exact documented.built series clock built record own
      · intro own found
        cases built.symm.trans found
        rw [origins]
        exact carry_readOrigins clock

/-- A record with the text of its origin over its own shows the origin. -/
theorem record_shows {clock : Clock} {native : ClockRecord} {origin : Origin}
    (own : core.Carries clock native origin) :
    (record (core.recordTerm clock native) origin.suffix).Shows origin := by
  cases text : origin.suffix with
  | some suffix => exact ⟨own.key, by rw [text]; rfl, by rw [text]; rfl⟩
  | none =>
    have none : core.suffix clock native = none := by
      rcases own.suffix with kept | dropped
      · rw [kept, text]
      · exact dropped
    exact ⟨own.key, by rw [text, record, Core.recordTerm, none],
      by rw [text, record, Core.recordTerm, none]⟩

/-- Every record of a product whose texts track the origins shows its origin. -/
theorem shows_of_tracks {state : Edited Clock} (tracks : core.Tracks state) :
    core.ShowsOrigins state := by
  intro records shown
  unfold Core.productRecords Core.view at shown
  cases found : core.handle state.product with
  | error failure => rw [found] at shown; cases shown
  | ok clock =>
    rw [found] at shown
    cases shown
    have carry : List.Forall₂ (fun term origin => ∃ native, core.Carries clock native origin ∧
        term = core.recordTerm clock native) (core.rinexClockRecords clock) state.origins := by
      rw [Core.rinexClockRecords, List.forall₂_map_left_iff]
      exact (tracks.records clock found).imp fun _ _ own => ⟨_, own, rfl⟩
    refine forall₂_zipIdx carry 0 ?_
    intro position term origin _ there own
    obtain ⟨native, own, rfl⟩ := own
    have mark := tracks.marks position
    rw [List.getElem?_map, there] at mark
    rw [Nat.zero_add, mark]
    exact record_shows own

end Invariant

section Calls

variable {Clock : Type} {core : Core Clock} {product edited : Product Clock}

theorem bind_ok {α β : Type} {first : Except Failure α} {next : α → Except Failure β} {result : β}
    (ended : first >>= next = .ok result) :
    ∃ value, first = .ok value ∧ next value = .ok result := by
  cases first with
  | error failure => cases ended
  | ok value => exact ⟨value, rfl, ended⟩

theorem map_ok {α β : Type} {first : Except Failure α} {f : α → β} {result : β}
    (ended : first.map f = .ok result) : ∃ value, first = .ok value ∧ f value = result := by
  cases first with
  | error failure => cases ended
  | ok value => exact ⟨value, rfl, Except.ok.inj ended⟩

/-- What a successful `set_time_system` did. -/
theorem setTimeSystem_ok {system : Value}
    (called : core.productSetTimeSystem product system = .ok edited) :
    ∃ name clock clock', core.handle product = .ok clock ∧
      core.setTimeSystem clock name = .ok clock' ∧
        edited = core.fromHandle clock' (some product.trailingSuffixes) := by
  unfold Core.productSetTimeSystem at called
  cases named : timeSystems.find? system.isAtom with
  | none => rw [named] at called; cases called
  | some name =>
    rw [named] at called
    obtain ⟨clock, found, called⟩ := bind_ok called
    obtain ⟨clock', set, called⟩ := bind_ok called
    exact ⟨name, clock, clock', found, set, (Except.ok.inj called).symm⟩

/-- What a successful `set_record_values` did. -/
theorem setRecordValues_ok {index values : Value}
    (called : core.productSetRecordValues product index values = .ok edited) :
    ∃ position own clock clock', core.handle product = .ok clock ∧
      core.setRecordValues clock position own = .ok clock' ∧
        edited = core.fromHandle clock' (some product.trailingSuffixes) := by
  obtain ⟨position, _, called⟩ := bind_ok called
  obtain ⟨own, _, called⟩ := bind_ok called
  obtain ⟨clock, found, called⟩ := bind_ok called
  obtain ⟨clock', set, called⟩ := bind_ok called
  exact ⟨position, own, clock, clock', found, set, (Except.ok.inj called).symm⟩

/-- What a successful `insert_record` did. -/
theorem insertRecord_ok {index record : Value}
    (called : core.productInsertRecord product index record = .ok edited) :
    ∃ position origin clock clock' own, checkIndex index = .ok position ∧
      insertedOrigin record = some origin ∧ origin.readAt = none ∧ origin.suffix = none ∧
        core.handle product = .ok clock ∧ core.insertRecord clock position own = .ok clock' ∧
          (core.Documented → own.key = origin.key) ∧
            edited = core.fromHandle clock' (some (product.trailingSuffixes.shift position 1)) := by
  unfold Core.productInsertRecord at called
  cases fields : newRecordFields record with
  | none => rw [fields] at called; cases called
  | some own =>
    obtain ⟨recordType, name, epoch, values⟩ := own
    rw [fields] at called
    obtain ⟨position, checked, called⟩ := bind_ok called
    obtain ⟨civil, dated, called⟩ := bind_ok called
    obtain ⟨floats, _, called⟩ := bind_ok called
    obtain ⟨clock, found, called⟩ := bind_ok called
    obtain ⟨clock', inserted, called⟩ := bind_ok called
    obtain ⟨own, made, inserted⟩ := bind_ok inserted
    refine ⟨position, ⟨⟨recordType, name, civil⟩, none, none⟩, clock, clock', own, checked, ?_, rfl,
      rfl, found, inserted, ?_, (Except.ok.inj called).symm⟩
    · simp [insertedOrigin, fields, dated]
    · intro documented
      exact documented.newRecord _ _ _ _ _ made

/-- What a successful `remove_record` did. -/
theorem removeRecord_ok {index : Value} {shown : Record}
    (called : core.productRemoveRecord product index = .ok (edited, shown)) :
    ∃ position clock clock' removed, checkIndex index = .ok position ∧
      core.handle product = .ok clock ∧ core.removeRecord clock position = .ok (clock', removed) ∧
        shown = core.recordTerm clock' removed ∧
          edited = core.fromHandle clock' (some (product.trailingSuffixes.drop position)) := by
  obtain ⟨position, checked, called⟩ := bind_ok called
  obtain ⟨clock, found, called⟩ := bind_ok called
  obtain ⟨⟨clock', term⟩, removal, called⟩ := bind_ok called
  obtain ⟨⟨own, removed⟩, taken, removal⟩ := bind_ok removal
  cases removal
  cases called
  exact ⟨position, clock, clock', removed, checked, found, taken, rfl, rfl⟩

/-- What a successful `retain_records` did. -/
theorem retainRecords_ok {keep : Record → Value} {count : Nat}
    (called : core.productRetainRecords product keep = .ok (edited, count)) :
    ∃ records clock clock', core.productRecords product = .ok records ∧
      core.handle product = .ok clock ∧ records.length = core.recordCount clock ∧
        core.retainRecords clock (records.map fun record => truthy (keep record)) =
            (clock', count) ∧
          edited = core.fromHandle clock' (some (product.trailingSuffixes.retain
            (records.map fun record => truthy (keep record)))) := by
  obtain ⟨records, shown, called⟩ := bind_ok called
  obtain ⟨clock, found, called⟩ := bind_ok called
  obtain ⟨⟨clock', removed⟩, retained, called⟩ := bind_ok called
  unfold Core.rinexClockRetainRecords at retained
  by_cases counted :
      (records.map fun record => truthy (keep record)).length ≠ core.recordCount clock
  · rw [if_pos counted] at retained
    cases retained
  · rw [if_neg counted] at retained
    cases called
    rw [not_not, List.length_map] at counted
    exact ⟨records, clock, clock', shown, found, counted, Except.ok.inj retained, rfl⟩

/-- What a successful `edit_records` did. -/
theorem editRecords_ok {edit : Record → Value} {count : Nat}
    (called : core.productEditRecords product edit = .ok (edited, count)) :
    ∃ entries clock clock', core.handle product = .ok clock ∧
      core.editRecords clock entries = .ok (clock', count) ∧
        edited = core.fromHandle clock' (some product.trailingSuffixes) := by
  obtain ⟨records, _, called⟩ := bind_ok called
  obtain ⟨entries, _, called⟩ := bind_ok called
  obtain ⟨clock, found, called⟩ := bind_ok called
  obtain ⟨⟨clock', own⟩, set, called⟩ := bind_ok called
  unfold Core.rinexClockEditRecords at set
  by_cases counted : entries.length ≠ core.recordCount clock
  · rw [if_pos counted] at set
    cases set
  · rw [if_neg counted] at set
    cases called
    exact ⟨entries, clock, clock', found, set, rfl⟩

end Calls

section Runs

variable {Clock : Type} {core : Core Clock} {state : Edited Clock}

/-- A call that edits a product moves the texts with the records. -/
theorem tracks_perform (documented : core.Documented) (tracks : core.Tracks state)
    {request : Request} {product : Product Clock} {removed : Option Record}
    (called : core.perform state.product request = .ok (product, removed)) :
    core.Tracks
      ⟨product, moveOrigins (core.recordsOf state.product) state.origins request⟩ := by
  cases request with
  | setTimeSystem system =>
    obtain ⟨own, called, same⟩ := map_ok called
    obtain ⟨name, clock, clock', found, set, rfl⟩ := setTimeSystem_ok called
    cases same
    exact tracks_fromHandle tracks.marks
      (carry_survivors (tracks.records clock found) (documented.setTimeSystem _ _ _ set))
  | setRecordValues index values =>
    obtain ⟨own, called, same⟩ := map_ok called
    obtain ⟨position, floats, clock, clock', found, set, rfl⟩ := setRecordValues_ok called
    cases same
    exact tracks_fromHandle tracks.marks
      (carry_survivors (tracks.records clock found) (documented.setRecordValues _ _ _ _ set))
  | insertRecord index record =>
    obtain ⟨own, called, same⟩ := map_ok called
    obtain ⟨position, origin, clock, clock', native, checked, made, -, textless, found, inserted,
      keyed, rfl⟩ := insertRecord_ok called
    cases same
    obtain ⟨inside, others, new, survive, edited, key, text⟩ :=
      documented.insertRecord _ _ _ _ inserted
    have carry := tracks.records clock found
    have moved : moveOrigins (core.recordsOf state.product) state.origins
        (.insertRecord index record) = state.origins.insertIdx position origin := by
      simp [moveOrigins, checked, made]
    rw [moved]
    apply tracks_fromHandle
    · rw [List.map_insertIdx, textless]
      apply tracks.marks.shift
      rw [List.length_map, ← carry.length_eq]
      exact inside
    · rw [edited]
      apply forall₂_insertIdx _ (carry_survivors carry survive)
      exact ⟨key.trans (keyed documented), .inr text⟩
  | removeRecord index =>
    obtain ⟨⟨own, shown⟩, called, same⟩ := map_ok called
    obtain ⟨position, clock, clock', native, checked, found, taken, -, rfl⟩ :=
      removeRecord_ok called
    cases same
    have moved : moveOrigins (core.recordsOf state.product) state.origins
        (.removeRecord index) = state.origins.eraseIdx position := by
      simp [moveOrigins, checked]
    rw [moved]
    apply tracks_fromHandle
    · rw [← List.eraseIdx_map]
      exact tracks.marks.drop
    · exact carry_survivors (forall₂_eraseIdx (tracks.records clock found) position)
        (documented.removeRecord _ _ _ _ taken).2
  | retainRecords keep =>
    obtain ⟨⟨own, count⟩, called, same⟩ := map_ok called
    obtain ⟨records, clock, clock', shown, found, counted, retained, rfl⟩ :=
      retainRecords_ok called
    cases same
    have carry := tracks.records clock found
    rw [documented.count] at counted
    have moved : moveOrigins (core.recordsOf state.product) state.origins (.retainRecords keep) =
        keptBy (records.map fun record => truthy (keep record)) state.origins := by
      simp [moveOrigins, Core.recordsOf, shown]
    rw [moved]
    apply tracks_fromHandle
    · rw [map_keptBy]
      apply tracks.marks.retain
      rw [List.length_map, List.length_map, counted, carry.length_eq]
    · exact carry_survivors (forall₂_keptBy carry _)
        (documented.retainRecords _ _ _ _ (by rw [List.length_map, counted]) retained)
  | editRecords edit =>
    obtain ⟨⟨own, count⟩, called, same⟩ := map_ok called
    obtain ⟨entries, clock, clock', found, set, rfl⟩ := editRecords_ok called
    cases same
    exact tracks_fromHandle tracks.marks
      (carry_survivors (tracks.records clock found) (documented.editRecords _ _ _ _ set))

/-- Every call keeps the texts with their records. -/
theorem tracks_step (documented : core.Documented) (tracks : core.Tracks state)
    (request : Request) : core.Tracks (core.step state request) := by
  unfold Core.step
  cases called : core.perform state.product request with
  | error failure => exact tracks
  | ok result => exact tracks_perform documented tracks called

/-- The steps of some calls, one after the other, and the product they end with. -/
def Core.play (core : Core Clock) :
    Edited Clock → List Request → List (Taken (Edited Clock) Request) × Edited Clock
  | state, [] => ([], state)
  | state, request :: requests =>
    let rest := Core.play core (core.step state request) requests
    (⟨state, request, core.step state request⟩ :: rest.1, rest.2)

/-- Any calls, one after the other, are a run. -/
theorem run_play (core : Core Clock) (requests : List Request) :
    ∀ state, Run core.Steps state (core.play state requests).1 (core.play state requests).2 := by
  induction requests with
  | nil => exact fun state => Run.nil
  | cons request requests ih => exact fun state => (ih (core.step state request)).cons rfl

/-- A native record shows an origin of its key exactly when it has the text of the origin. -/
theorem recordTerm_shows {clock : Clock} {native : ClockRecord} {origin : Origin}
    (key : native.key = origin.key) :
    (core.recordTerm clock native).Shows origin ↔ core.suffix clock native = origin.suffix := by
  constructor
  · intro shows
    have bytes : (core.suffix clock native).map (·.1) = origin.suffix.map (·.1) := shows.bytes
    have column : (core.suffix clock native).map (·.2) = origin.suffix.map (·.2) := shows.column
    cases own : core.suffix clock native <;> cases text : origin.suffix <;>
      simp_all [Prod.ext_iff]
  · intro same
    refine ⟨key, ?_, ?_⟩
    · rw [← same]; rfl
    · rw [← same]; rfl

/-- A removal returns the record with its own text exactly when the native clock still has it. -/
theorem returnsRemoved_iff (documented : core.Documented) (tracks : core.Tracks state)
    (request : Request) : core.ReturnsRemoved state request ↔ core.Intact state request := by
  constructor
  · rintro returns index position clock ⟨clock', native⟩ old rfl checked found taken here suffix
      kept
    have called : core.perform state.product (.removeRecord index) = .ok
        (core.fromHandle clock' (some (state.product.trailingSuffixes.drop position)),
          some (core.recordTerm clock' native)) := by
      simp [Core.perform, Core.productRemoveRecord, Core.rinexClockRemoveRecord, checked, found,
        taken, bind, Except.bind, Except.map, record]
    obtain ⟨own, origin, same, there, shows⟩ := returns _ _ _ rfl called
    obtain rfl := Except.ok.inj (checked.symm.trans same)
    obtain ⟨⟨earlier, before, key, text⟩, -⟩ := documented.removeRecord _ _ _ _ taken
    obtain rfl := Option.some.inj (here.symm.trans before)
    have mark := tracks.marks position
    rw [List.getElem?_map, there, kept] at mark
    have own := (recordTerm_shows shows.key).mp shows
    rw [← text, own]
    exact mark.symm
  · rintro intact index product removed rfl called
    obtain ⟨⟨edited, shown⟩, called, same⟩ := map_ok called
    obtain ⟨position, clock, clock', native, checked, found, taken, rfl, rfl⟩ :=
      removeRecord_ok called
    cases same
    obtain ⟨⟨old, here, key, text⟩, -⟩ := documented.removeRecord _ _ _ _ taken
    have carry := tracks.records clock found
    have inside : position < state.origins.length := by
      rw [← carry.length_eq]
      exact (List.getElem?_eq_some_iff.mp here).1
    have there : state.origins[position]? = some state.origins[position] :=
      List.getElem?_eq_getElem inside
    have own : core.Carries clock old state.origins[position] := by
      obtain ⟨within, rfl⟩ := List.getElem?_eq_some_iff.mp here
      exact List.Forall₂.get carry within inside
    refine ⟨position, state.origins[position], checked, there, ?_⟩
    rw [recordTerm_shows (key.trans own.key), text]
    have mark := tracks.marks position
    rw [List.getElem?_map, there] at mark
    cases kept : state.origins[position].suffix with
    | some suffix =>
      exact intact _ _ _ _ _ rfl checked found taken here suffix (by rw [mark]; exact kept)
    | none =>
      rcases own.suffix with same | dropped
      · exact same.trans kept
      · exact dropped

/-- The origins that were read, each once, in order, and the others without text. -/
structure OriginsOf (opened : List Origin) (origins : List Origin) : Prop where
  read : (origins.filter (·.readAt.isSome)).Sublist opened
  inserted : ∀ origin ∈ origins, origin.readAt = none → origin.suffix = none

/-- Fewer origins are still origins. -/
theorem OriginsOf.sublist {opened origins fewer : List Origin} (own : OriginsOf opened origins)
    (sublist : fewer.Sublist origins) : OriginsOf opened fewer where
  read := (sublist.filter _).trans own.read
  inserted origin member := own.inserted origin (sublist.mem member)

/-- No call makes up an origin that was read, repeats one or reorders them. -/
theorem originsOf_step {opened : List Origin} (own : OriginsOf opened state.origins)
    (request : Request) : OriginsOf opened (core.step state request).origins := by
  unfold Core.step
  cases called : core.perform state.product request with
  | error failure => exact own
  | ok result =>
    cases request with
    | setTimeSystem system => exact own
    | setRecordValues index values => exact own
    | editRecords edit => exact own
    | retainRecords keep => exact own.sublist (keptBy_sublist _ _)
    | removeRecord index =>
      simp only [moveOrigins]
      cases checkIndex index with
      | error failure => exact own
      | ok position => exact own.sublist (List.eraseIdx_sublist _ _)
    | insertRecord index record =>
      obtain ⟨edited, called, -⟩ := map_ok called
      obtain ⟨position, origin, -, -, -, checked, made, unread, textless, -⟩ :=
        insertRecord_ok called
      simp only [moveOrigins, checked, made]
      refine ⟨?_, ?_⟩
      · rw [filter_insertIdx (by rw [unread]; rfl)]
        exact own.read
      · intro other member
        rcases List.eq_or_mem_of_mem_insertIdx member with rfl | member
        · exact fun _ => textless
        · exact own.inserted other member

/-- The origins of a product that was not edited were all read. -/
theorem originsOf_opened (product : Product Clock) :
    OriginsOf (core.opened product).origins (core.opened product).origins := by
  have read : ∀ origin ∈ (core.opened product).origins, origin.readAt ≠ none := by
    intro origin member
    cases found : core.handle product with
    | error failure => simp [Core.opened, found] at member
    | ok clock =>
      simp only [Core.opened, found, Core.readOrigins, List.mem_map] at member
      obtain ⟨record, -, rfl⟩ := member
      exact Option.some_ne_none _
  exact ⟨List.filter_sublist, fun origin member unread => absurd unread (read origin member)⟩

/-- What is promised of a run: before and after every call, each record shows the text and the
column it was read with, and an inserted record none; and each removal returns the record with its
own. -/
structure Core.KeepsSuffixes (core : Core Clock) (opened : List Origin)
    (steps : List (Taken (Edited Clock) Request)) (last : Edited Clock) : Prop where
  origins : ∀ visited ∈ last :: steps.map (·.before), OriginsOf opened visited.origins
  shows : ∀ visited ∈ last :: steps.map (·.before), core.ShowsOrigins visited
  returns : ∀ taken ∈ steps, core.ReturnsRemoved taken.before taken.label

/-- Over every run of calls on a product that was not edited, the records keep their texts. What a
removal returns keeps it exactly when the native clock still has the text of that record. -/
theorem edits_keep_suffixes (documented : core.Documented) {product : Product Clock}
    (unedited : core.Unedited product) {steps : List (Taken (Edited Clock) Request)}
    {last : Edited Clock} (run : Run core.Steps (core.opened product) steps last) :
    core.KeepsSuffixes (core.opened product).origins steps last ↔
      ∀ taken ∈ steps, core.Intact taken.before taken.label := by
  let Inv (state : Edited Clock) : Prop :=
    core.Tracks state ∧ OriginsOf (core.opened product).origins state.origins
  have initial : Inv (core.opened product) :=
    ⟨tracks_opened documented unedited, originsOf_opened product⟩
  have preserved : ∀ state request next, Inv state → core.Steps state request next → Inv next := by
    rintro state request _ ⟨tracks, own⟩ rfl
    exact ⟨tracks_step documented tracks request, originsOf_step own request⟩
  have before : ∀ taken ∈ steps, Inv taken.before :=
    fun taken member => (run.taken Inv initial preserved taken member).1
  have visited : ∀ state ∈ last :: steps.map (·.before), Inv state := by
    intro state member
    rcases List.mem_cons.mp member with rfl | member
    · exact run.invariant Inv initial preserved
    · obtain ⟨taken, own, rfl⟩ := List.mem_map.mp member
      exact before taken own
  constructor
  · intro keeps taken member
    exact (returnsRemoved_iff documented (before taken member).1 _).mp (keeps.returns taken member)
  · intro intact
    exact {
      origins := fun state member => (visited state member).2
      shows := fun state member => shows_of_tracks (visited state member).1
      returns := fun taken member =>
        (returnsRemoved_iff documented (before taken member).1 _).mpr (intact taken member) }

end Runs

section Sheets

/-- A clock that is its records and the lines they were read from. -/
structure Sheet where
  records : List ClockRecord
  lines : List Binary

/-- A record with values of a caller. Its line is written anew, without the text after it. -/
def rewritten (record : ClockRecord) (values : List Float) : ClockRecord :=
  { record with values := values, line := none, reading := .edited }

/-- The records with the values of the entries that have some. -/
def editAll : List (Option (List Float)) → List ClockRecord → List ClockRecord
  | some values :: entries, record :: records => rewritten record values :: editAll entries records
  | none :: entries, record :: records => record :: editAll entries records
  | [], records => records
  | _, [] => []

/-- The edits of a sheet. -/
def sheetCore : Core Sheet where
  records := Sheet.records
  recordCount sheet := sheet.records.length
  sourceLine sheet line := sheet.lines[line - 1]?
  seriesRows _ := []
  fromSeriesRows _ := .ok ⟨[], []⟩
  setTimeSystem sheet _ := .ok sheet
  setRecordValues sheet index values :=
    if index < sheet.records.length then
      .ok { sheet with
        records := editAll (List.replicate index none ++ [some values]) sheet.records }
    else invalid "invalid_input" "index" (.int index)
  newRecord recordType name epoch values := .ok ⟨recordType, name, epoch, values, none, .edited⟩
  insertRecord sheet index record :=
    if index ≤ sheet.records.length then
      .ok { sheet with
        records := sheet.records.insertIdx index { record with line := none, reading := .edited } }
    else invalid "invalid_input" "index" (.int index)
  removeRecord sheet index :=
    match sheet.records[index]? with
    | some record => .ok ({ sheet with records := sheet.records.eraseIdx index }, record)
    | none => invalid "invalid_input" "index" (.int index)
  retainRecords sheet flags :=
    ({ sheet with records := keptBy flags sheet.records },
      sheet.records.length - (keptBy flags sheet.records).length)
  editRecords sheet entries :=
    .ok ({ sheet with records := editAll entries sheet.records }, (entries.filterMap id).length)

section Survival

variable (sheet : Sheet) (records : List ClockRecord)

/-- A sheet with other records reads the same texts. -/
theorem sheet_suffix (record : ClockRecord) :
    sheetCore.suffix { sheet with records := records } record = sheetCore.suffix sheet record := rfl

theorem sheet_survives (record : ClockRecord) :
    sheetCore.Survives sheet { sheet with records := records } record record :=
  ⟨rfl, .inl (sheet_suffix sheet records record)⟩

theorem sheet_allSurvive (survivors : List ClockRecord) :
    sheetCore.AllSurvive sheet { sheet with records := records } survivors survivors :=
  List.forall₂_same.mpr fun record _ => sheet_survives sheet records record

/-- Records that are edited survive; those that are rewritten lose their texts. -/
theorem sheet_editAll (entries : List (Option (List Float))) :
    ∀ survivors, sheetCore.AllSurvive sheet { sheet with records := records } survivors
      (editAll entries survivors) := by
  induction entries with
  | nil => exact fun survivors => sheet_allSurvive sheet records survivors
  | cons entry entries ih =>
    intro survivors
    cases survivors with
    | nil => cases entry <;> exact .nil
    | cons record survivors =>
      cases entry with
      | none => exact .cons (sheet_survives sheet records record) (ih survivors)
      | some values => exact .cons ⟨rfl, .inr rfl⟩ (ih survivors)

end Survival

/-- The edits of a sheet act on its records at the index they are given. -/
theorem sheet_documented : sheetCore.Documented where
  count _ := rfl
  built := by
    intro series sheet built record member
    cases built
    cases member
  setTimeSystem := by
    intro sheet edited system set
    cases set
    exact sheet_allSurvive sheet sheet.records _
  setRecordValues := by
    intro sheet edited index values set
    simp only [sheetCore] at set
    split at set
    · cases set
      exact sheet_editAll sheet _ _ _
    · cases set
  newRecord := by
    intro recordType name epoch values record made
    cases made
    rfl
  insertRecord := by
    intro sheet edited index record set
    simp only [sheetCore] at set
    split at set
    · rename_i inside
      cases set
      exact ⟨inside, sheet.records, _, sheet_allSurvive sheet _ _, rfl, rfl, rfl⟩
    · cases set
  removeRecord := by
    intro sheet edited index removed set
    simp only [sheetCore] at set
    split at set
    · rename_i record here
      cases set
      exact ⟨⟨removed, here, rfl, sheet_suffix sheet _ removed⟩, sheet_allSurvive sheet _ _⟩
    · cases set
  retainRecords := by
    intro sheet edited flags removed _ set
    cases set
    exact sheet_allSurvive sheet _ _
  editRecords := by
    intro sheet edited entries count set
    cases set
    exact sheet_editAll sheet _ _ _

/-- A clock of one record, with an `X` in the column after the last. -/
def markedSheet : Sheet where
  records := [{
    recordType := .as
    name := ascii "G01"
    civilEpoch := ⟨2026, 5, 13, 0, 0, 0.0⟩
    values := [1.0e-9]
    line := some 1
    reading := .columnsTrailingText .v300 }]
  lines := [ascii "AS G01  2026  5 13  0  0  0.000000  1    1.000000000000e-09" ++
    List.replicate 21 32 ++ [88]]

/-- The marked sheet, as it is read. -/
def markedProduct : Edited Sheet := sheetCore.opened (sheetCore.fromHandle markedSheet none)

/-- A record of a receiver, to insert. -/
def receiverRecord : Value :=
  .map [(.atom "record_type", .atom "ar"), (.atom "name", .text (ascii "ONSA")),
    (.atom "epoch", .tuple [.tuple [.int 2026, .int 5, .int 13],
      .tuple [.int 0, .int 0, .number (Beam.double 0.0)]]),
    (.atom "values", .list [.number (Beam.double 0.0)])]

theorem markedSheet_suffix :
    sheetCore.suffix markedSheet markedSheet.records[0] = some ([88], 80) := by decide +kernel

/-- A record is inserted before the marked one, and then the marked one is removed. -/
theorem edits_keep_suffixes_marked :
    let run := sheetCore.play markedProduct
      [.insertRecord (.int 0) receiverRecord, .removeRecord (.int 1)]
    sheetCore.KeepsSuffixes markedProduct.origins run.1 run.2 := by
  apply (edits_keep_suffixes sheet_documented (.inl ⟨markedSheet, rfl⟩) (run_play ..)).mpr
  intro taken member
  rcases List.mem_pair.mp member with rfl | rfl
  · intro index position clock edited record same
    cases same
  · intro index position clock edited record same checked found _ here suffix kept
    cases same
    cases checked
    cases found
    cases here
    cases kept
    decide +kernel

/-- The values of the marked record are set, and then it is removed. The record that is returned
has no text. -/
theorem edits_keep_suffixes_fails :
    sheetCore.Documented ∧ sheetCore.Unedited markedProduct.product ∧
      let run := sheetCore.play markedProduct
        [.setRecordValues (.int 0) (.list [.number (Beam.double 2.0e-9)]), .removeRecord (.int 0)]
      Run sheetCore.Steps markedProduct run.1 run.2 ∧
        ¬ sheetCore.KeepsSuffixes markedProduct.origins run.1 run.2 := by
  have unedited : sheetCore.Unedited markedProduct.product := .inl ⟨markedSheet, rfl⟩
  refine ⟨sheet_documented, unedited, run_play .., ?_⟩
  intro keeps
  have tracks := tracks_step sheet_documented (tracks_opened sheet_documented unedited)
    (.setRecordValues (.int 0) (.list [.number (Beam.double 2.0e-9)]))
  have returns := keeps.returns _ (List.mem_cons_of_mem _ (List.mem_singleton_self _))
  have intact := (returnsRemoved_iff sheet_documented tracks _).mp returns
  have text := intact _ 0 _ _ _ rfl rfl rfl rfl rfl _ rfl
  cases text

end Sheets

end Sidereon.Rinex
