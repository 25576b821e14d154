import Sidereon.MergeReport.Report
import Sidereon.MergeReport.RespelledResult

/-!
# Records that are spelled otherwise

The records of reconciliations, contributors and policies are read alike in every spelling: names of
values may be atoms or texts, and what is compared afterwards is spelled in one way.
-/

namespace Sidereon.MergeReport

open Foundation Sidereon.Distribution
open MergePolicy (Count Double Failure Label LabelSet Named Policy persistedLabel? persistedLabelSet?
  persistedNamed refusal)

section Names

variable {related : Value → Value → Prop} (spelling : Respelling related) {value value' : Value}

/-- A value that an atom names is named by the text of the atom. -/
theorem ofEither?_text {α : Type} [Named α] {name : String} {item : α}
    (found : Named.ofEither? (.atom name) = some item) :
    Named.ofEither? (.text (ascii name)) = some item := by
  have either := List.find?_some found
  have same : name = Named.name item := beq_iff_eq.mp ((Bool.or_false _).symm.trans either)
  rw [same]
  exact Named.ofEither?_toText item

include spelling

theorem Respelling.persistedNamed {α : Type} [Named α] (relates : related value value')
    (reason : Refusal) :
    Follows Eq (persistedNamed (α := α) value reason) (MergePolicy.persistedNamed value' reason) := by
  intro item passed
  unfold MergePolicy.persistedNamed at passed
  split at passed
  · next found =>
    cases passed
    refine ⟨item, ?_, rfl⟩
    unfold MergePolicy.persistedNamed
    cases spelling.layer relates with
    | atom | number | text => rw [found]
    | named name other => rw [ofEither?_text found]
    | list | map => cases List.find?_some found
  · cases passed

end Names

section Rigid

theorem persistedLabel?_rigid {value : Value} {label : Label}
    (read : persistedLabel? value = some label) : value.Rigid := by
  cases value with
  | text => trivial
  | atom | number | list | map | tuple => cases read

/-- Items that are all read are each read. -/
theorem mapM_each {α β : Type} {read : α → Option β} {items : List α} {results : List β}
    (found : items.mapM read = some results) : ∀ item ∈ items, ∃ result, read item = some result := by
  induction items generalizing results with
  | nil => nofun
  | cons first items ih =>
    rw [List.mapM_cons] at found
    obtain ⟨head, here, later⟩ := Option.bind_eq_some_iff.mp found
    obtain ⟨rest, others, _⟩ := Option.bind_eq_some_iff.mp later
    intro item member
    rcases List.mem_cons.mp member with rfl | inside
    · exact ⟨head, here⟩
    · exact ih others item inside

/-- The items of a list that is read. -/
theorem mapM_bind_each {α β γ : Type} {read : α → Option β} {rest : List β → Option γ}
    {items : List α} {result : γ} (found : (items.mapM read).bind rest = some result) :
    ∀ item ∈ items, ∃ result, read item = some result := by
  obtain ⟨results, each, _⟩ := Option.bind_eq_some_iff.mp found
  exact mapM_each each

theorem persistedLabelSet?_labels {value : Value} {set : LabelSet}
    (read : persistedLabelSet? value = some set) :
    ∃ items, value = .list items ∧ ∀ item ∈ items, item.Rigid := by
  cases value with
  | list items =>
    refine ⟨items, rfl, fun item member => ?_⟩
    obtain ⟨label, found⟩ := mapM_bind_each read item member
    exact persistedLabel?_rigid found
  | atom | number | text | map | tuple => cases read

theorem frame_rigid {value : Value} {frame : Frame} (read : Frame.ofText? value = some frame) :
    value.Rigid := by
  have text := List.find?_some read
  cases value with
  | text => trivial
  | atom | number | list | map | tuple => cases text

theorem finiteFloat_rigid {value field : Value} {x : Double}
    (read : finiteFloat value field = .ok x) : value.Rigid := by
  rw [finiteFloat_value read]
  exact rigid_number _

end Rigid

section Frames

variable {related : Value → Value → Prop} (spelling : Respelling related) {value value' : Value}
variable (relates : related value value')
include spelling relates

theorem Respelling.optionalTerrestrialFrame (field : Value) :
    Follows Eq (optionalTerrestrialFrame value field) (optionalTerrestrialFrame value' field) := by
  refine spelling.rigid (MergeReport.optionalTerrestrialFrame · field) relates fun _ passed => ?_
  unfold MergeReport.optionalTerrestrialFrame at passed
  split at passed
  · exact rigid_nil
  · split at passed
    · next found => exact frame_rigid found
    · cases passed

theorem Respelling.trimmedNonemptyBinary (field : Value) :
    Follows Eq (trimmedNonemptyBinary value field) (trimmedNonemptyBinary value' field) := by
  refine spelling.rigid (MergeReport.trimmedNonemptyBinary · field) relates fun _ passed => ?_
  unfold MergeReport.trimmedNonemptyBinary at passed
  split at passed
  · next found => exact persistedLabel?_rigid found
  · cases passed

theorem Respelling.persistedLabelSet? {set : LabelSet} (read : persistedLabelSet? value = some set) :
    value' = value := by
  obtain ⟨items, rfl, rigid⟩ := persistedLabelSet?_labels read
  exact spelling.list_eq rigid relates

theorem Respelling.optionalLabelSet (field : Value) :
    Follows Eq (optionalLabelSet value field) (optionalLabelSet value' field) := by
  refine .of_ok fun _ passed => ?_
  have kept : value' = value := by
    unfold MergeReport.optionalLabelSet at passed
    split at passed
    · exact spelling.rigid_eq rigid_nil relates
    · split at passed
      · next found => exact spelling.persistedLabelSet? relates found
      · cases passed
  rw [kept]
  exact passed

theorem Respelling.nonreferenceSourceIndex (n : Nat) (field : Value) :
    Follows Eq (nonreferenceSourceIndex n value field) (nonreferenceSourceIndex n value' field) := by
  refine spelling.rigid (MergeReport.nonreferenceSourceIndex n · field) relates fun _ passed => ?_
  unfold MergeReport.nonreferenceSourceIndex at passed
  split at passed
  · next found =>
    rw [sourceIndex?_int found]
    exact rigid_number _
  · cases passed

theorem Respelling.floatVector (field : Value) :
    Follows Eq (floatVector value field) (floatVector value' field) := by
  refine .of_ok fun vector passed => ?_
  have kept : value' = value := by
    unfold MergeReport.floatVector at passed
    split at passed
    · obtain ⟨_, x, rest⟩ := bind_ok.mp passed
      obtain ⟨_, y, rest⟩ := bind_ok.mp rest
      obtain ⟨_, z, _⟩ := bind_ok.mp rest
      refine spelling.list_eq ?_ relates
      simp only [List.forall_mem_cons, List.not_mem_nil, false_implies, implies_true, and_true]
      exact ⟨finiteFloat_rigid x, finiteFloat_rigid y, finiteFloat_rigid z⟩
    · cases passed
  rw [kept]
  exact passed

theorem Respelling.optionalEpochSpan (field : Value) :
    Follows Eq (optionalEpochSpan value field) (optionalEpochSpan value' field) := by
  refine .of_ok fun span passed => ?_
  have kept : value' = value := by
    unfold MergeReport.optionalEpochSpan at passed
    split at passed
    · exact spelling.rigid_eq rigid_nil relates
    · obtain ⟨_, first, rest⟩ := bind_ok.mp passed
      obtain ⟨_, last, _⟩ := bind_ok.mp rest
      refine spelling.list_eq ?_ relates
      simp only [List.forall_mem_cons, List.not_mem_nil, false_implies, implies_true, and_true]
      exact ⟨finiteFloat_rigid first, finiteFloat_rigid last⟩
    · cases passed
  rw [kept]
  exact passed

theorem Respelling.persistedTransform (kind : TransformKind) (context : Value) :
    Follows Eq (persistedTransform value kind context) (persistedTransform value' kind context) := by
  cases spelling.layer relates with
  | atom | number | text => exact .refl _
  | list => exact .error
  | map =>
    refine (spelling.exactFields relates _ _).bind fun values values' same => ?_
    refine (spelling.floatVector (spelling.get same _) _).andThen fun _ => ?_
    refine (spelling.finiteFloat (spelling.get same _) _).andThen fun _ => ?_
    exact (spelling.floatVector (spelling.get same _) _).andThen fun _ => .refl _
  | named name other =>
    intro transform passed
    unfold MergeReport.persistedTransform at passed
    dsimp only at passed
    split at passed
    · next stated =>
      cases stated
      exact absurd List.mem_cons_self other
    · next stated => cases stated
    · cases passed

theorem Respelling.verifyFrameReconciliation (n index : Nat) :
    Follows Eq (verifyFrameReconciliation n index value)
      (verifyFrameReconciliation n index value') := by
  refine (spelling.exactFields relates _ _).bind fun values values' same => ?_
  refine (spelling.nonreferenceSourceIndex (spelling.get same _) n _).andThen fun _ => ?_
  refine (spelling.trimmedNonemptyBinary (spelling.get same _) _).andThen fun source => ?_
  refine (spelling.trimmedNonemptyBinary (spelling.get same _) _).andThen fun target => ?_
  by_cases labels : source ≠ target
  · rw [dif_pos labels, dif_pos labels]
    refine (spelling.persistedNamed (spelling.get same _) _).andThen fun _ => ?_
    refine (spelling.optionalLabelSet (spelling.get same _) _).andThen fun _ => ?_
    refine (spelling.optionalTerrestrialFrame (spelling.get same _) _).andThen fun _ => ?_
    refine (spelling.optionalTerrestrialFrame (spelling.get same _) _).andThen fun _ => ?_
    refine (spelling.optionalTerrestrialFrame (spelling.get same _) _).andThen fun _ => ?_
    refine (spelling.optionalTerrestrialFrame (spelling.get same _) _).andThen fun _ => ?_
    refine (spelling.booleanField (spelling.get same _) _).andThen fun _ => ?_
    refine (spelling.optionalFiniteFloat (spelling.get same _) _).andThen fun _ => ?_
    refine (spelling.persistedTransform (spelling.get same _) _ _).andThen fun _ => ?_
    refine (spelling.persistedTransform (spelling.get same _) _ _).andThen fun _ => ?_
    refine (spelling.optionalBinary (spelling.get same _) _).andThen fun _ => ?_
    refine (spelling.optionalEpochSpan (spelling.get same _) _).andThen fun _ => ?_
    refine (spelling.nonnegativeInteger (spelling.get same _) _).andThen fun _ => ?_
    exact (spelling.booleanField (spelling.get same _) _).andThen fun _ => .refl _
  · rw [dif_neg labels]
    exact .error

theorem Respelling.verifyFrames (catalog : Frame → Frame → Except Refusal CatalogEntry) (n : Nat)
    (policy : Policy) :
    Follows Eq (verifyFrames catalog n value policy) (verifyFrames catalog n value' policy) := by
  refine Follows.andThen ?_ fun _ => .refl _
  cases spelling.layer relates with
  | atom | number | text | named | map => exact .error
  | list each =>
    refine (checkEach_same each (fun index item item' relates => ?_) 0).andThen fun _ => .refl _
    exact spelling.verifyFrameReconciliation relates n index

end Frames

section Artifacts

variable {related : Value → Value → Prop} (spelling : Respelling related) {value value' : Value}
variable (relates : related value value')
include spelling relates

theorem Respelling.persistedCompression :
    Follows Eq (persistedCompression value) (persistedCompression value') := by
  unfold MergeReport.persistedCompression
  rw [spelling.isEither relates, spelling.isEither relates]
  exact .refl _

theorem Respelling.validDigest (field : Value) :
    Follows Eq (validDigest value field) (validDigest value' field) := by
  refine spelling.rigid (MergeReport.validDigest · field) relates fun _ passed => ?_
  unfold MergeReport.validDigest at passed
  split at passed
  · trivial
  · cases passed

theorem Respelling.positiveCount (field : Value) :
    Follows Eq (positiveCount value field) (positiveCount value' field) := by
  refine spelling.rigid (MergeReport.positiveCount · field) relates fun _ passed => ?_
  unfold MergeReport.positiveCount at passed
  split at passed
  · trivial
  · cases passed

theorem Respelling.optionalNonnegativeInteger (field : Value) :
    Follows Eq (optionalNonnegativeInteger value field)
      (optionalNonnegativeInteger value' field) := by
  refine spelling.rigid (MergeReport.optionalNonnegativeInteger · field) relates fun _ passed => ?_
  unfold MergeReport.optionalNonnegativeInteger at passed
  split at passed
  · exact rigid_nil
  · obtain ⟨_, found, _⟩ := mapped_ok passed
    rw [(nonnegativeInteger_int found).1]
    exact rigid_number _

theorem Respelling.persistedProductIdentity (context : Value) :
    Follows Eq (persistedProductIdentity value context)
      (persistedProductIdentity value' context) := by
  refine (spelling.exactFields relates _ _).bind fun values values' same => ?_
  refine (spelling.nonemptyBinary (spelling.get same _) _).andThen fun _ => ?_
  refine (spelling.nonemptyBinary (spelling.get same _) _).andThen fun _ => ?_
  refine (spelling.nonemptyBinary (spelling.get same _) _).andThen fun _ => ?_
  refine (spelling.nonemptyBinary (spelling.get same _) _).andThen fun _ => ?_
  refine (spelling.nonemptyBinary (spelling.get same _) _).andThen fun _ => ?_
  refine (spelling.nonnegativeInteger (spelling.get same _) _).andThen fun _ => ?_
  refine (spelling.persistedDate (spelling.get same _)).andThen fun _ => ?_
  refine (spelling.optionalBinary (spelling.get same _) _).andThen fun _ => ?_
  refine (spelling.nonemptyBinary (spelling.get same _) _).andThen fun _ => ?_
  refine (spelling.nonemptyBinary (spelling.get same _) _).andThen fun _ => ?_
  refine (spelling.nonemptyBinary (spelling.get same _) _).andThen fun _ => ?_
  refine (spelling.nonemptyBinary (spelling.get same _) _).andThen fun _ => ?_
  refine (spelling.optionalBinary (spelling.get same _) _).andThen fun _ => ?_
  exact (spelling.optionalNonnegativeInteger (spelling.get same _) _).andThen fun _ => .refl _

theorem Respelling.persistedArtifact (index : Nat) :
    Follows Eq (persistedArtifact value index) (persistedArtifact value' index) := by
  refine (spelling.exactFields relates _ _).bind fun values values' same => ?_
  refine (spelling.persistedProductIdentity (spelling.get same _) _).andThen fun _ => ?_
  refine (spelling.persistedProductIdentity (spelling.get same _) _).andThen fun _ => ?_
  refine (spelling.persistedNamed (spelling.get same _) _).andThen fun _ => ?_
  refine (spelling.nonemptyBinary (spelling.get same _) _).andThen fun _ => ?_
  refine (spelling.validDigest (spelling.get same _) _).andThen fun _ => ?_
  refine (spelling.positiveCount (spelling.get same _) _).andThen fun _ => ?_
  refine (spelling.validDigest (spelling.get same _) _).andThen fun _ => ?_
  refine (spelling.positiveCount (spelling.get same _) _).andThen fun _ => ?_
  exact (spelling.persistedCompression (spelling.get same _)).andThen fun _ => .refl _

end Artifacts

section Acquisitions

variable {related : Value → Value → Prop} (spelling : Respelling related) {value value' : Value}
variable (relates : related value value') (offsets : OffsetSyntax)
include spelling relates

theorem Respelling.failureType (types : List String) (context : Value) :
    Follows Eq (failureType value types context) (failureType value' types context) := by
  unfold MergeReport.failureType
  rw [spelling.labelString relates]
  exact .refl _

theorem Respelling.isInteger : value'.isInteger = value.isInteger := by
  cases spelling.layer relates <;> rfl

theorem Respelling.persistedAttempt (index schemaVersion attemptIndex : Nat) :
    Follows Eq (persistedAttempt index schemaVersion attemptIndex value)
      (persistedAttempt index schemaVersion attemptIndex value') := by
  unfold MergeReport.persistedAttempt
  dsimp only
  rw [spelling.labelString (spelling.mapValue relates "error_type")]
  refine (spelling.exactFields relates _ _).bind fun values values' same => ?_
  have detail : ∀ unclassified context, Follows Eq (attemptDetail unclassified values context)
      (attemptDetail unclassified values' context) := fun _ _ =>
    .ite Iff.rfl ((spelling.nonemptyBinary (spelling.get same _) _).map fun _ _ => congrArg some)
      (.refl _)
  refine (detail _ _).andThen fun _ => ?_
  refine (spelling.persistedNamed (spelling.get same _) _).andThen fun _ => ?_
  refine (spelling.failureType (spelling.get same _) _ _).andThen fun _ => ?_
  rw [spelling.isInteger (spelling.get same "status")]
  refine (Follows.refl _).andThen fun _ => ?_
  refine (spelling.nonemptyBinary (spelling.get same _) _).andThen fun _ => ?_
  refine (spelling.publicUrl (spelling.get same _) _).andThen fun _ => ?_
  exact (spelling.optionalHttpStatus (spelling.get same _) _).andThen fun _ => .refl _

theorem Respelling.persistedAttempts (index schemaVersion : Nat) :
    Follows Eq (persistedAttempts value index schemaVersion)
      (persistedAttempts value' index schemaVersion) := by
  cases spelling.layer relates with
  | atom | number | text | named | map => exact .error
  | list each =>
    refine checkEach_same each (fun attemptIndex item item' relates => ?_) 0
    exact spelling.persistedAttempt relates index schemaVersion attemptIndex

theorem Respelling.validTimestamp (field : Value) :
    Follows Eq (validTimestamp offsets value field) (validTimestamp offsets value' field) := by
  refine spelling.rigid (MergeReport.validTimestamp offsets · field) relates fun _ passed => ?_
  unfold MergeReport.validTimestamp at passed
  split at passed
  · trivial
  · cases passed

theorem Respelling.persistedAcquisition (index schemaVersion : Nat) :
    Follows Eq (persistedAcquisition offsets value index schemaVersion)
      (persistedAcquisition offsets value' index schemaVersion) := by
  refine (spelling.exactFields relates _ _).bind fun values values' same => ?_
  refine (spelling.validTimestamp (spelling.get same _) offsets _).andThen fun _ => ?_
  refine (spelling.booleanField (spelling.get same _) _).andThen fun _ => ?_
  refine (spelling.publicUrl (spelling.get same _) _).andThen fun _ => ?_
  refine (spelling.publicUrl (spelling.get same _) _).andThen fun _ => ?_
  refine (spelling.optionalBinary (spelling.get same _) _).andThen fun _ => ?_
  refine (spelling.optionalBinary (spelling.get same _) _).andThen fun _ => ?_
  exact (spelling.persistedAttempts (spelling.get same _) _ _).andThen fun _ => .refl _

end Acquisitions

section Policies

/-- A check that does not raise follows as it does. -/
theorem refusal_follows {α β : Type} {related : α → β → Prop} {first : Except Refusal α}
    {second : Except Refusal β} (follows : Follows related first second) :
    Follows related (refusal first) (refusal second) := by
  intro result passed
  cases first with
  | error reason => cases passed
  | ok found =>
    cases passed
    obtain ⟨found', rfl, relates⟩ := follows _ rfl
    exact ⟨found', rfl, relates⟩

/-- A check that is rescued follows as it does. -/
theorem rescued_follows {α β : Type} {related : α → β → Prop} {first : Except Failure α}
    {second : Except Failure β} (follows : Follows related first second) :
    Follows related (rescued first) (rescued second) := by
  intro result passed
  cases first with
  | error failure => cases failure <;> cases passed
  | ok found =>
    cases passed
    obtain ⟨found', rfl, relates⟩ := follows _ rfl
    exact ⟨found', rfl, relates⟩

theorem system_rigid {value : Value} {system : MergePolicy.System}
    (read : MergePolicy.systemOfLetter? value = some system) : value.Rigid := by
  cases value with
  | text => trivial
  | atom | number | list | map | tuple => cases read

theorem digestValue_rigid {value : Value} (digest : MergePolicy.validDigestValue value = true) :
    value.Rigid := by
  cases value with
  | text => trivial
  | atom | number | list | map | tuple => cases digest

variable {related : Value → Value → Prop} (spelling : Respelling related) {value value' : Value}

section

variable (relates : related value value')
include spelling relates

/-- A named value, or `nil`. -/
theorem Respelling.optionalNamed {α : Type} [Named α] (reason : Refusal)
    {check : Value → Except Refusal (Option α)} (other : ∀ value, value ≠ .nil →
      check value = (MergePolicy.persistedNamed value reason).map some) :
    Follows Eq (check value) (check value') := by
  by_cases empty : value = .nil
  · have kept : value' = value := spelling.rigid_eq (empty ▸ rigid_nil) relates
    rw [kept]
    exact .refl _
  · have nonempty : value' ≠ .nil := by
      intro same
      cases spelling.layer relates with
      | atom => exact empty same
      | number | text | named | list | map => cases same
    rw [other value empty, other value' nonempty]
    exact (spelling.persistedNamed relates reason).map fun _ _ => congrArg some

theorem Respelling.persistedNonnegativeFloat (field : String) :
    Follows Eq (MergePolicy.persistedNonnegativeFloat value field)
      (MergePolicy.persistedNonnegativeFloat value' field) := by
  refine spelling.rigid (MergePolicy.persistedNonnegativeFloat · field) relates fun _ passed => ?_
  unfold MergePolicy.persistedNonnegativeFloat at passed
  split at passed
  · next x read =>
    cases value with
    | number => trivial
    | atom | text | list | map | tuple => cases read
  · cases passed

theorem Respelling.positiveInteger (field : String) :
    Follows Eq (MergePolicy.positiveInteger value field)
      (MergePolicy.positiveInteger value' field) := by
  refine spelling.rigid (MergePolicy.positiveInteger · field) relates fun _ passed => ?_
  unfold MergePolicy.positiveInteger at passed
  split at passed
  · trivial
  · cases passed

theorem Respelling.persistedOutlierReject :
    Follows Eq (MergePolicy.persistedOutlierReject value)
      (MergePolicy.persistedOutlierReject value') := by
  cases spelling.layer relates with
  | atom | number | text => exact .refl _
  | list => exact .error
  | map =>
    refine (spelling.exactFields relates _ _).bind fun values values' same => ?_
    refine (spelling.persistedNonnegativeFloat (spelling.get same _) _).andThen fun _ => ?_
    exact (spelling.persistedNonnegativeFloat (spelling.get same _) _).andThen fun _ => .refl _
  | named name other =>
    intro tolerances passed
    unfold MergePolicy.persistedOutlierReject at passed
    split at passed
    · next stated =>
      cases stated
      exact absurd List.mem_cons_self other
    · next stated => cases stated
    · cases passed

theorem Respelling.persistedEpochInterval :
    Follows Eq (MergePolicy.persistedEpochInterval value)
      (MergePolicy.persistedEpochInterval value') := by
  refine .of_ok fun interval passed => ?_
  have rigid : value.Rigid := by
    unfold MergePolicy.persistedEpochInterval at passed
    split at passed
    · exact rigid_nil
    · exact rigid_number _
    · cases passed
  rw [spelling.rigid_eq rigid relates]
  exact passed

theorem Respelling.persistedSystems :
    Follows Eq (MergePolicy.persistedSystems value) (MergePolicy.persistedSystems value') := by
  refine .of_ok fun systems passed => ?_
  have kept : value' = value := by
    unfold MergePolicy.persistedSystems at passed
    split at passed
    · split at passed
      · next items _ _ found =>
        refine spelling.list_eq (fun item member => ?_) relates
        obtain ⟨system, read⟩ := mapM_bind_each found item member
        exact system_rigid read
      · cases passed
    · cases passed
  rw [kept]
  exact passed

theorem Respelling.persistedLabelSets :
    Follows Eq (MergePolicy.persistedLabelSets value) (MergePolicy.persistedLabelSets value') := by
  cases spelling.layer relates with
  | atom | number | text | named | map => exact .error
  | @list items items' each =>
    intro sets passed
    refine ⟨sets, ?_, rfl⟩
    unfold MergePolicy.persistedLabelSets at passed
    dsimp only at passed
    split at passed
    · next found =>
      have kept : items' = items := by
        have sets := mapM_bind_each found
        clear passed relates found
        induction each with
        | nil => rfl
        | cons relates _ ih =>
          obtain ⟨set, read⟩ := sets _ List.mem_cons_self
          rw [spelling.persistedLabelSet? relates read,
            ih fun item member => sets item (List.mem_cons_of_mem _ member)]
      rw [kept]
      unfold MergePolicy.persistedLabelSets
      dsimp only
      rw [found]
      exact passed
    · cases passed

theorem Respelling.persistedBoolean :
    Follows Eq (MergePolicy.persistedBoolean value) (MergePolicy.persistedBoolean value') := by
  refine spelling.rigid MergePolicy.persistedBoolean relates fun _ passed => ?_
  unfold MergePolicy.persistedBoolean at passed
  split at passed
  · exact List.mem_cons_of_mem _ List.mem_cons_self
  · exact List.mem_cons_of_mem _ (List.mem_cons_of_mem _ List.mem_cons_self)
  · cases passed

/-- A precedence that is read is kept as it is. -/
theorem Respelling.precedence_eq {found : Unit}
    (passed : MergePolicy.persistedPrecedenceList value = .ok found) : value' = value := by
  unfold MergePolicy.persistedPrecedenceList at passed
  split at passed
  · exact spelling.rigid_eq rigid_nil relates
  · refine spelling.list_eq (fun item member => ?_) relates
    exact digestValue_rigid (List.all_eq_true.mp (ensure_ok.mp passed) item member)
  · cases passed

theorem Respelling.persistedPrecedenceList :
    Follows Eq (MergePolicy.persistedPrecedenceList value)
      (MergePolicy.persistedPrecedenceList value') := by
  refine .of_ok fun _ passed => ?_
  rw [spelling.precedence_eq relates passed]
  exact passed

theorem Respelling.persistedOrbitClass :
    Follows Eq (MergePolicy.persistedOrbitClass value) (MergePolicy.persistedOrbitClass value') := by
  refine spelling.optionalNamed relates (MergePolicy.invalidContinuityField "orbit_class") ?_
  intro value nonempty
  unfold MergePolicy.persistedOrbitClass
  split
  · exact absurd rfl nonempty
  · rfl

theorem Respelling.persistedProvenance :
    Follows Eq (MergePolicy.persistedProvenance value) (MergePolicy.persistedProvenance value') := by
  refine spelling.optionalNamed relates (MergePolicy.invalidPolicyField "provenance") ?_
  intro value nonempty
  unfold MergePolicy.persistedProvenance
  split
  · exact absurd rfl nonempty
  · rfl

theorem Respelling.persistedResidual :
    Follows Eq (MergePolicy.persistedResidual value) (MergePolicy.persistedResidual value') := by
  refine spelling.rigid MergePolicy.persistedResidual relates fun _ passed => ?_
  unfold MergePolicy.persistedResidual at passed
  split at passed
  · exact rigid_nil
  · trivial
  · cases passed

theorem Respelling.persistedGapThresholdFactor :
    Follows Eq (MergePolicy.persistedGapThresholdFactor value)
      (MergePolicy.persistedGapThresholdFactor value') := by
  refine spelling.rigid MergePolicy.persistedGapThresholdFactor relates fun _ passed => ?_
  unfold MergePolicy.persistedGapThresholdFactor at passed
  split at passed
  · exact rigid_nil
  · trivial
  · cases passed

theorem Respelling.persistedVerifyContinuity :
    Follows Eq (MergePolicy.persistedVerifyContinuity value)
      (MergePolicy.persistedVerifyContinuity value') := by
  cases spelling.layer relates with
  | atom | number | text => exact .refl _
  | list => exact .error
  | map =>
    refine (spelling.exactFields relates _ _).bind fun values values' same => ?_
    refine (spelling.persistedOrbitClass (spelling.get same _)).andThen fun _ => ?_
    refine (spelling.persistedResidual (spelling.get same _)).andThen fun _ => ?_
    exact (spelling.persistedGapThresholdFactor (spelling.get same _)).andThen fun _ => .refl _
  | named name other =>
    intro continuity passed
    unfold MergePolicy.persistedVerifyContinuity at passed
    split at passed
    · next stated =>
      cases stated
      exact absurd List.mem_cons_self other
    · next stated => cases stated
    · cases passed

end

variable {values values' : Record} (same : SameRecord related values values') (schemaVersion : Nat)
include spelling same

theorem Respelling.readReporting :
    Follows Eq (MergePolicy.readReporting values schemaVersion)
      (MergePolicy.readReporting values' schemaVersion) := by
  refine .ite Iff.rfl (.refl _) ?_
  refine (spelling.persistedVerifyContinuity (spelling.get same _)).andThen fun _ => ?_
  exact (spelling.persistedProvenance (spelling.get same _)).andThen fun _ => .refl _

/-- The policy is read, with its precedence. -/
theorem Respelling.readPolicy :
    Follows (fun policy policy' => policy = policy' ∧
        values'.get "precedence_artifact_sha256" = values.get "precedence_artifact_sha256")
      (MergePolicy.readPolicy values schemaVersion)
      (MergePolicy.readPolicy values' schemaVersion) := by
  have get := spelling.get same
  refine (refusal_follows (spelling.persistedNonnegativeFloat (get _) _)).andThen fun _ => ?_
  refine (refusal_follows (spelling.persistedNonnegativeFloat (get _) _)).andThen fun _ => ?_
  refine (refusal_follows (spelling.positiveInteger (get _) _)).andThen fun _ => ?_
  refine (refusal_follows (spelling.positiveInteger (get _) _)).andThen fun _ => ?_
  refine (refusal_follows (spelling.persistedNamed (get _) _)).andThen fun _ => ?_
  refine (refusal_follows (spelling.persistedNamed (get _) _)).andThen fun _ => ?_
  refine (refusal_follows (spelling.persistedOutlierReject (get _))).andThen fun _ => ?_
  refine (spelling.persistedEpochInterval (get _)).andThen fun _ => ?_
  refine (refusal_follows (spelling.persistedSystems (get _))).andThen fun _ => ?_
  refine (refusal_follows (spelling.persistedLabelSets (get _))).andThen fun _ => ?_
  refine (refusal_follows (spelling.persistedBoolean (get _))).andThen fun _ => ?_
  refine (refusal_follows (spelling.persistedPrecedenceList (get _))).andThen_of
    fun _ precedence => ?_
  have kept := MergePolicy.refusal_ok precedence
  refine (refusal_follows (spelling.readReporting same schemaVersion)).andThen fun _ => ?_
  exact .ok ⟨rfl, spelling.precedence_eq (get _) kept⟩

end Policies

end Sidereon.MergeReport
