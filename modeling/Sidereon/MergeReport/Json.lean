import Sidereon.MergePolicy.RoundTrip
import Sidereon.MergeReport.Layout
import Sidereon.MergeReport.RespelledRecords

/-!
# Merge reports as JSON

A report that passes verification passes it again when it was encoded and decoded: every check reads
the decoded report as it read the report. The records that verification makes of a report in the
shared layout are spelled as the report is.
-/

namespace Sidereon.MergeReport

open Foundation Sidereon.Distribution
open MergePolicy (Double Failure Policy OrbitClass jason jasonItems jasonEntries refusal)

section Laid

/-- Terms in other spellings, and records of them. -/
inductive Laid (related : Value → Value → Prop) : Value → Value → Prop where
  | kept {value value' : Value} (relates : related value value') : Laid related value value'
  | record {values values' : Record} (same : SameRecord related values values') :
      Laid related values.toValue values'.toValue
  | empty : Laid related (.list []) (.list [])

variable {related : Value → Value → Prop}

theorem optionRel_mono {weaker : Value → Value → Prop}
    (implies : ∀ value value', related value value' → weaker value value')
    {found found' : Option Value} (relates : Option.Rel related found found') :
    Option.Rel weaker found found' := by
  cases relates with
  | none => exact .none
  | some relates => exact .some (implies _ _ relates)

theorem Respelled.mono {weaker : Value → Value → Prop}
    (implies : ∀ value value', related value value' → weaker value value') {value value' : Value}
    (layer : Respelled related value value') : Respelled weaker value value' := by
  cases layer with
  | atom name => exact .atom name
  | number n => exact .number n
  | text bytes => exact .text bytes
  | named name other => exact .named name other
  | list each => exact .list (each.imp implies)
  | map fields keys single =>
    exact .map (fun field => optionRel_mono implies (fields field)) keys single

/-- The names of records that are spelled alike. -/
theorem sameRecord_names {values values' : Record} (same : SameRecord related values values') :
    values'.map Prod.fst = values.map Prod.fst := by
  induction same with
  | nil => rfl
  | cons relates _ ih => rw [List.map_cons, List.map_cons, relates.1, ih]

/-- A record is spelled as its values are. -/
theorem respelled_record {values values' : Record} (same : SameRecord related values values') :
    Respelled related values.toValue values'.toValue := by
  refine .map (fun field => ?_) (fun entry' member' => ?_) (fun field => .inr ?_)
  · have found := sameRecord_lookup same field
    rwa [← toValue_field values, ← toValue_field values'] at found
  · obtain ⟨value', inside, rfl⟩ := List.mem_map.mp member'
    have named : value'.1 ∈ values.map Prod.fst := by
      rw [← sameRecord_names same]
      exact List.mem_map_of_mem inside
    obtain ⟨value, among, name⟩ := List.mem_map.mp named
    refine ⟨_, List.mem_map_of_mem among, fun field keyed => ?_⟩
    rw [← name]
    exact keyed
  · rw [fetchText, Option.map_eq_none_iff, List.find?_eq_none]
    intro entry member
    obtain ⟨value, _, rfl⟩ := List.mem_map.mp member
    exact Bool.false_ne_true

/-- What is laid out of another spelling is another spelling. -/
theorem Respelling.laid (spelling : Respelling related) : Respelling (Laid related) where
  nil := .kept spelling.nil
  layer := by
    intro value value' laid
    cases laid with
    | kept relates => exact (spelling.layer relates).mono fun _ _ => .kept
    | record same => exact (respelled_record same).mono fun _ _ => .kept
    | empty => exact .list .nil

theorem sameRecord_delete {values values' : Record} (same : SameRecord related values values')
    (field : String) : SameRecord related (values.delete field) (values'.delete field) := by
  refine List.rel_filter (fun value value' relates => ?_) same
  change (value.1 != field) = true ↔ (value'.1 != field) = true
  rw [relates.1]

theorem sameRecord_put {values values' : Record} (same : SameRecord related values values')
    (field : String) {value value' : Value} (relates : related value value') :
    SameRecord related (values.put field value) (values'.put field value') :=
  .cons ⟨rfl, relates⟩ (sameRecord_delete same field)

theorem SameRecord.mono {weaker : Value → Value → Prop}
    (implies : ∀ value value', related value value' → weaker value value')
    {values values' : Record} (same : SameRecord related values values') :
    SameRecord weaker values values' :=
  same.imp fun _ _ relates => ⟨relates.1, implies _ _ relates.2⟩

end Laid

section Layout

variable {related : Value → Value → Prop} (spelling : Respelling related) {value value' : Value}
include spelling

theorem Respelling.recordSchema1 (relates : related value value') (fields : List String)
    (context : Value) :
    Follows (SameRecord related) (recordSchema1 value fields context)
      (recordSchema1 value' fields context) := by
  refine (spelling.exactFields relates _ _).bind fun values values' same => ?_
  refine (spelling.exactValue (spelling.get same _) _ _).andThen fun _ => ?_
  exact .ok (sameRecord_delete same _)

theorem Respelling.sharedTimestampField (relates : related value value') (offsets : OffsetSyntax)
    (field : Value) :
    Follows Eq (sharedTimestampField offsets value field)
      (sharedTimestampField offsets value' field) := by
  refine spelling.rigid (MergeReport.sharedTimestampField offsets · field) relates fun _ passed => ?_
  unfold MergeReport.sharedTimestampField at passed
  split at passed
  · exact rigid_text _
  · cases passed

theorem Respelling.sharedContributor (relates : related value value') (offsets : OffsetSyntax)
    (index : Nat) :
    Follows (Laid (Laid related)) (sharedContributor offsets index value)
      (sharedContributor offsets index value') := by
  refine (spelling.exactFields relates _ _).bind fun values values' same => ?_
  refine (spelling.recordSchema1 (spelling.get same _) _ _).bind fun artifact artifact' first => ?_
  refine (spelling.recordSchema1 (spelling.get same _) _ _).bind fun facts facts' second => ?_
  refine (spelling.sharedTimestampField (spelling.get second _) offsets _).andThen fun _ => ?_
  refine .ok (.record (sameRecord_put (sameRecord_put (sameRecord_delete ?_ _) _ ?_) _ ?_))
  · exact SameRecord.mono (fun _ _ => .kept) same
  · exact .record first
  · exact .record second

theorem Respelling.reportContributors (relates : related value value') :
    Follows (List.Forall₂ related) (reportContributors value) (reportContributors value') := by
  cases spelling.layer relates with
  | atom | number | text | named | map => exact .error
  | list each =>
    cases each with
    | nil => exact .error
    | cons first rest => exact .ok (.cons first rest)

theorem Respelling.sharedSystems (relates : related value value') :
    Follows (Laid related) (MergePolicy.sharedSystems value) (MergePolicy.sharedSystems value') := by
  intro systems passed
  unfold MergePolicy.sharedSystems at passed
  split at passed
  · cases passed
    rw [spelling.rigid_eq rigid_nil relates]
    exact ⟨_, rfl, .empty⟩
  · cases passed
    cases spelling.layer relates with
    | list each =>
      cases each with
      | cons => exact ⟨_, rfl, .kept relates⟩
  · cases passed

theorem Respelling.sharedPrecedence {combine combine' : Value} (relates : related value value')
    (named : related combine combine') :
    Follows (Laid related) (MergePolicy.sharedPrecedence value combine)
      (MergePolicy.sharedPrecedence value' combine') := by
  intro digests passed
  unfold MergePolicy.sharedPrecedence at passed ⊢
  rw [spelling.isEither named]
  split at passed
  · next ranked =>
    cases passed
    cases spelling.layer relates with
    | list =>
      rw [ranked]
      exact ⟨_, rfl, .kept relates⟩
  · next other =>
    cases passed
    cases spelling.layer relates with
    | list each =>
      cases each
      rw [Bool.eq_false_iff.mpr other]
      exact ⟨_, rfl, .kept spelling.nil⟩
  · cases passed

theorem Respelling.sharedPolicy (relates : related value value') :
    Follows (SameRecord (Laid related)) (MergePolicy.sharedPolicy value)
      (MergePolicy.sharedPolicy value') := by
  refine (spelling.exactFields relates _ _).bind fun values values' same => ?_
  have kept : SameRecord (Laid related) values values' := SameRecord.mono (fun _ _ => .kept) same
  refine (spelling.exactValue (spelling.get same _) _ _).andThen fun _ => ?_
  refine (spelling.sharedSystems (spelling.get same _)).bind fun systems systems' filter => ?_
  refine (spelling.sharedPrecedence (spelling.get same _) (spelling.get same _)).bind
    fun precedence precedence' ranked => ?_
  refine .ok (sameRecord_put (sameRecord_put (sameRecord_put ?_ _ ?_) _ filter) _ ranked)
  · exact sameRecord_delete (sameRecord_delete kept _) _
  · exact .kept (spelling.get same _)

end Layout

section Contributors

variable (core : ReportCore) (offsets : OffsetSyntax) (inspect : Value → Binary)
variable (catalog : Frame → Frame → Except Refusal CatalogEntry)
variable (speedBound : OrbitClass → Option Double) (offsetAt : Float → Option Float)

/-- The fields of a contributor that its metadata is compared with. -/
def comparedFields : List String := ["center", "filename", "issue", "pattern"]

theorem verifyContributorMetadata_congr {values values' : Record}
    (same : ∀ field ∈ comparedFields, values'.get field = values.get field) (date : Date)
    (artifact : Artifact) (acquisition : Acquisition) (index : Nat) :
    verifyContributorMetadata core values' date artifact acquisition index =
      verifyContributorMetadata core values date artifact acquisition index := by
  have center := same "center" (by decide)
  have filename := same "filename" (by decide)
  have issue := same "issue" (by decide)
  have pattern := same "pattern" (by decide)
  have row : ultraRow values' artifact acquisition = ultraRow values artifact acquisition := by
    funext row
    rw [ultraRow, ultraRow, filename, pattern]
  unfold verifyContributorMetadata verifyContributorCatalog
  rw [center, filename, issue, pattern, row]

theorem optionalBinary_rigid {value field : Value} {text : Option Binary}
    (passed : optionalBinary value field = .ok text) : value.Rigid := by
  unfold optionalBinary at passed
  split at passed
  · exact rigid_nil
  · obtain ⟨_, found, _⟩ := mapped_ok passed
    exact nonemptyBinary_rigid found

variable {related : Value → Value → Prop} (spelling : Respelling related) {value value' : Value}
variable (relates : related value value')
include spelling relates

theorem Respelling.persistedContributor (schemaVersion index : Nat) :
    Follows Eq
      (persistedContributor (reportChecks core inspect catalog speedBound offsetAt offsets) schemaVersion
        index value)
      (persistedContributor (reportChecks core inspect catalog speedBound offsetAt offsets) schemaVersion
        index value') := by
  refine (spelling.exactFields relates _ _).bind fun values values' same => ?_
  have get := spelling.get same
  refine (spelling.nonemptyBinary (get _) _).andThen_of fun _ center => ?_
  refine (spelling.nonemptyBinary (get _) _).discard.andThen_of fun _ filename => ?_
  refine (spelling.persistedDate (get _)).andThen fun date => ?_
  refine (spelling.optionalBinary (get _) _).discard.andThen_of fun _ issue => ?_
  refine (spelling.nonemptyBinary (get _) _).discard.andThen_of fun _ pattern => ?_
  refine (spelling.persistedArtifact (get _) index).andThen fun artifact => ?_
  refine (spelling.persistedAcquisition (get _) offsets index schemaVersion).andThen
    fun acquisition => ?_
  obtain ⟨_, filename, _⟩ := mapped_ok filename
  obtain ⟨_, issue, _⟩ := mapped_ok issue
  obtain ⟨_, pattern, _⟩ := mapped_ok pattern
  have compared : ∀ field ∈ comparedFields, values'.get field = values.get field := by
    simp only [comparedFields, List.forall_mem_cons, List.not_mem_nil, false_implies,
      implies_true, and_true]
    exact ⟨spelling.rigid_eq (nonemptyBinary_rigid center) (get _),
      spelling.rigid_eq (nonemptyBinary_rigid filename) (get _),
      spelling.rigid_eq (optionalBinary_rigid issue) (get _),
      spelling.rigid_eq (nonemptyBinary_rigid pattern) (get _)⟩
  have metadata := verifyContributorMetadata_congr core compared date artifact acquisition index
  refine Follows.andThen (.of_ok fun _ passed => metadata.trans passed) fun _ => .refl _

omit relates in
theorem Respelling.persistedContributors {contributors contributors' : List Value}
    (each : List.Forall₂ related contributors contributors') (schemaVersion : Nat) :
    Follows Eq
      (persistedContributors (reportChecks core inspect catalog speedBound offsetAt offsets) contributors
        schemaVersion)
      (persistedContributors (reportChecks core inspect catalog speedBound offsetAt offsets) contributors'
        schemaVersion) := by
  refine (checkEach_same each (fun index item item' relates => ?_) 0).andThen fun _ => .refl _
  exact spelling.persistedContributor core offsets inspect catalog speedBound offsetAt relates schemaVersion
    index

/-- The policy is read in every spelling, as the same. -/
theorem Respelling.persistedPolicy (schemaVersion : Nat) :
    Follows Eq (persistedPolicy value schemaVersion) (persistedPolicy value' schemaVersion) := by
  cases spelling.layer relates with
  | atom | number | text | named | list => exact .error
  | map =>
    refine rescued_follows ((refusal_follows (spelling.exactFields relates _ _)).bind
      fun values values' same => ?_)
    refine (spelling.readPolicy same schemaVersion).map ?_
    rintro policy _ ⟨rfl, precedence⟩
    rw [precedence]

end Contributors

section Centers

variable {related : Value → Value → Prop} (spelling : Respelling related) {value value' : Value}

theorem nonemptyTexts?_rigid {items : List Value} {texts : List Binary}
    (read : nonemptyTexts? items = some texts) : ∀ item ∈ items, item.Rigid := by
  induction items generalizing texts with
  | nil => nofun
  | cons first items ih =>
    unfold nonemptyTexts? at read
    split at read
    · next stated => cases stated
    · next stated =>
      cases stated
      obtain ⟨rest, others, _⟩ := Option.map_eq_some_iff.mp read
      intro item member
      rcases List.mem_cons.mp member with rfl | inside
      · exact rigid_text _
      · exact ih others item inside
    · cases read

/-- The reason of an absent center that is read is a text. -/
theorem absentCenter_reason {centers : List Binary} {schemaVersion index : Nat} {center : Binary}
    (passed : absentCenter centers schemaVersion index value = .ok center) :
    (mapValue value "reason").Rigid := by
  unfold absentCenter at passed
  obtain ⟨values, fields, rest⟩ := bind_ok.mp passed
  obtain ⟨_, _, rest⟩ := bind_ok.mp rest
  obtain ⟨_, _, rest⟩ := bind_ok.mp rest
  obtain ⟨_, _, rest⟩ := bind_ok.mp rest
  obtain ⟨_, _, rest⟩ := bind_ok.mp rest
  obtain ⟨_, reason, _⟩ := bind_ok.mp rest
  rw [mapValue, (exactFields_get fields (List.mem_append_left _ (by decide))).1, Option.getD_some]
  exact nonemptyBinary_rigid reason

include spelling

theorem Respelling.persistedSchemaVersion (relates : related value value') :
    Follows Eq (persistedSchemaVersion value) (persistedSchemaVersion value') := by
  refine spelling.rigid MergeReport.persistedSchemaVersion relates fun _ passed => ?_
  unfold MergeReport.persistedSchemaVersion at passed
  split at passed
  · exact rigid_number _
  · exact rigid_number _
  · exact rigid_number _
  · cases passed

theorem Respelling.persistedRequestedCenters {Artifact Acquisition Policy Identity : Type}
    (checks : Checks Artifact Acquisition Policy Identity) (relates : related value value') :
    Follows Eq (persistedRequestedCenters checks value) (persistedRequestedCenters checks value') := by
  refine .of_ok fun _ passed => ?_
  have kept : value' = value := by
    unfold MergeReport.persistedRequestedCenters at passed
    split at passed
    · split at passed
      · next read => exact spelling.list_eq (nonemptyTexts?_rigid read) relates
      · cases passed
    · cases passed
  rw [kept]
  exact passed

theorem Respelling.absentDetail {values values' : Record} (same : SameRecord related values values')
    (unclassified : Bool) (index : Nat) :
    Follows Eq (absentDetail unclassified values index) (absentDetail unclassified values' index) :=
  .ite Iff.rfl (spelling.nonemptyBinary (spelling.get same _) _).discard (.refl _)

theorem Respelling.absentCenter (centers : List Binary) (schemaVersion index : Nat)
    (relates : related value value') :
    Follows Eq (absentCenter centers schemaVersion index value)
      (absentCenter centers schemaVersion index value') := by
  intro center passed
  have kept := spelling.rigid_eq (absentCenter_reason passed) (spelling.mapValue relates "reason")
  revert center
  change Follows Eq _ _
  unfold MergeReport.absentCenter
  rw [kept]
  refine (spelling.exactFields relates _ _).bind fun values values' same => ?_
  have get := spelling.get same
  refine (spelling.absentDetail same _ _).andThen fun _ => ?_
  refine (spelling.nonemptyBinary (get _) _).andThen fun _ => ?_
  refine (spelling.optionalBinary (get _) _).andThen fun _ => ?_
  refine (spelling.optionalBinary (get _) _).andThen fun _ => ?_
  refine (spelling.nonemptyBinary (get _) _).andThen fun _ => ?_
  refine (spelling.publicUrl (get _) _).andThen fun _ => ?_
  exact (spelling.optionalHttpStatus (get _) _).andThen fun _ => .refl _

theorem Respelling.verifyAbsent (centers : List Binary) (schemaVersion : Nat)
    (relates : related value value') :
    Follows Eq (verifyAbsent value centers schemaVersion)
      (verifyAbsent value' centers schemaVersion) := by
  cases spelling.layer relates with
  | atom | number | text | named | map => exact .error
  | list each =>
    refine (checkEach_same each (fun index item item' relates => ?_) 0).andThen fun _ => .refl _
    exact spelling.absentCenter centers schemaVersion index relates

variable {values values' : Record} (same : SameRecord related values values')
include same

theorem Respelling.verifyReportCounts (artifacts : List Artifact) :
    Follows Eq (verifyReportCounts values artifacts) (verifyReportCounts values' artifacts) := by
  refine .of_ok fun _ passed => ?_
  have count := spelling.get same "source_count"
  have single := spelling.get same "single_product"
  have merged := spelling.get same "merged"
  unfold MergeReport.verifyReportCounts at passed ⊢
  dsimp only at passed ⊢
  split at passed
  · next n name counted named isMerged =>
    have truth : (Value.atom name).Rigid := by
      change name ∈ literals
      rw [(ensure_ok.mp passed).2]
      split <;> decide
    rw [counted] at count
    rw [named] at single
    rw [isMerged] at merged
    rw [spelling.rigid_eq (rigid_number _) count, spelling.rigid_eq truth single,
      spelling.rigid_eq (List.mem_cons_of_mem _ List.mem_cons_self) merged]
    exact passed
  · cases passed

theorem Respelling.verifyReportIdentity (recomputed : InputIdentity) (policy : ReadPolicy)
    (schemaVersion : Nat) :
    Follows Eq (verifyReportIdentity values recomputed policy schemaVersion)
      (verifyReportIdentity values' recomputed policy schemaVersion) := by
  refine .of_ok fun _ passed => ?_
  have version := spelling.get same "input_identity_schema_version"
  have stable := spelling.get same "stable_input_identity"
  unfold MergeReport.verifyReportIdentity at passed ⊢
  split at passed
  · next versioned identified =>
    rw [versioned] at version
    rw [identified] at stable
    rw [spelling.rigid_eq (rigid_number _) version, spelling.rigid_eq (rigid_text _) stable]
    exact passed
  · cases passed
  · cases passed

end Centers

section Reports

variable (core : ReportCore) (offsets : OffsetSyntax) (inspect : Value → Binary)
variable (catalog : Frame → Frame → Except Refusal CatalogEntry)
variable (speedBound : OrbitClass → Option Double) (offsetAt : Float → Option Float)
variable {related : Value → Value → Prop} (spelling : Respelling related) {value value' : Value}
variable (relates : related value value')
include spelling relates

theorem Respelling.verifyMergeResult (uniform : Uniform related) (n : Nat) (policy : Policy)
    (schemaVersion : Nat) :
    Follows Eq (verifyMergeResult (resultChecks catalog speedBound offsetAt) value n policy
        schemaVersion)
      (verifyMergeResult (resultChecks catalog speedBound offsetAt) value' n policy
        schemaVersion) := by
  refine (spelling.exactFields relates _ _).bind fun values values' same => ?_
  have get := spelling.get same
  refine (spelling.verifyFrames (get _) catalog n policy).andThen fun _ => ?_
  have flags : Follows Eq (verifyAllFlags (resultChecks catalog speedBound offsetAt) n values)
      (verifyAllFlags (resultChecks catalog speedBound offsetAt) n values') := by
    refine (spelling.verifyFlags offsetAt n (get _) _).andThen fun _ => ?_
    refine (spelling.verifyFlags offsetAt n (get _) _).andThen fun _ => ?_
    refine (spelling.verifyFlags offsetAt n (get _) _).andThen fun _ => ?_
    exact (spelling.verifyFlags offsetAt n (get _) _).andThen fun _ => .refl _
  refine flags.andThen fun _ => ?_
  refine (spelling.verifyAgreement offsetAt n (get _)).andThen fun agreement => ?_
  refine (spelling.verifyMergeAudit (fun value value' relates requested => ?_) same schemaVersion
    agreement.cells).andThen fun _ => .refl _
  exact spelling.verifyContinuityReport n policy uniform relates requested

/-- The layout of a report, in a spelling of it. -/
theorem Respelling.persistedLayout {contributors contributors' : List Value}
    (each : List.Forall₂ related contributors contributors') (schemaVersion : Nat) :
    Follows (fun laid laid' => List.Forall₂ (Laid (Laid related)) laid.1 laid'.1 ∧
        Laid (Laid related) laid.2 laid'.2)
      (persistedLayout (reportChecks core inspect catalog speedBound offsetAt offsets) offsets contributors
        value schemaVersion)
      (persistedLayout (reportChecks core inspect catalog speedBound offsetAt offsets) offsets contributors'
        value' schemaVersion) := by
  refine .ite Iff.rfl (.ok ⟨each.imp fun _ _ relates => .kept (.kept relates), .kept (.kept relates)⟩) ?_
  refine (checkEach_follows each (fun index item item' relates =>
    spelling.sharedContributor relates offsets index) 0).bind fun laid laid' spelled => ?_
  refine ((spelling.sharedPolicy relates).map fun values values' same => ?_).bind
    fun policy policy' laidOut => .ok ⟨spelled, laidOut⟩
  exact .record same

omit relates in
/-- A report that passes passes in a uniform spelling. -/
theorem Respelling.verifyReport (uniform : Uniform related) (relates : related value value') :
    Follows Eq (verifyReport core inspect catalog speedBound offsetAt offsets value)
      (verifyReport core inspect catalog speedBound offsetAt offsets value') := by
  have laid := spelling.laid.laid
  refine (spelling.exactFields relates _ _).bind fun values values' same => ?_
  have get := spelling.get same
  refine (spelling.persistedSchemaVersion (get _)).andThen fun schemaVersion => ?_
  refine (spelling.reportContributors (get _)).bind fun contributors contributors' each => ?_
  refine (spelling.persistedLayout core offsets inspect catalog speedBound offsetAt (get _) each
    schemaVersion).bind ?_
  rintro ⟨contributors, policy⟩ ⟨contributors', policy'⟩ ⟨each, written⟩
  refine (spelling.persistedRequestedCenters _ (get _)).andThen fun _ => ?_
  refine (laid.persistedContributors core offsets inspect catalog speedBound offsetAt each
    schemaVersion).andThen fun artifacts => ?_
  refine (laid.persistedPolicy written schemaVersion).andThen fun policy => ?_
  refine (Follows.refl _).andThen fun _ => ?_
  refine (Follows.refl _).andThen fun recomputed => ?_
  refine (spelling.verifyReportIdentity same recomputed policy schemaVersion).andThen fun _ => ?_
  refine (spelling.verifyReportCounts same _).andThen fun _ => ?_
  refine (spelling.verifyAbsent _ schemaVersion (get _)).andThen fun _ => ?_
  refine (Follows.refl _).andThen fun _ => ?_
  exact spelling.verifyMergeResult catalog speedBound offsetAt (get _) uniform _ policy.policy
    schemaVersion

end Reports

section Jason

mutual

/-- No map of a term names a field twice, by an atom and by a text. -/
def Value.namedOnce : Value → Bool
  | .list items => namedOnceItems items
  | .map entries => entries.all (fun entry =>
      match entry.1 with
      | .atom name => (fetchText entries name).isNone
      | _ => true) && namedOnceEntries entries
  | .tuple items => namedOnceItems items
  | _ => true

/-- Every item. -/
def namedOnceItems : List Value → Bool
  | [] => true
  | item :: items => item.namedOnce && namedOnceItems items

/-- The value of every entry. -/
def namedOnceEntries : List (Value × Value) → Bool
  | [] => true
  | (_, value) :: entries => value.namedOnce && namedOnceEntries entries

end

/-- What a term is encoded and decoded as, when none of its maps names a field twice. -/
def Decoded (value decoded : Value) : Prop :=
  value.namedOnce = true ∧ jason value = some decoded

/-- The name of a key. -/
def keyName? : Value → Option Binary
  | .atom name => some (ascii name)
  | .text name => some name
  | _ => none

theorem jasonEntries_cons (key value : Value) (entries : List (Value × Value)) :
    jasonEntries ((key, value) :: entries) = (keyName? key).bind fun name =>
      (jason value).bind fun first => (jasonEntries entries).bind fun rest =>
        some ((.text name, first) :: rest) := by
  cases key with
  | atom | text => rw [jasonEntries]; rfl
  | number | list | map | tuple =>
    rw [jasonEntries]
    · rfl
    · intros
      contradiction
    · intros
      contradiction

/-- The entries of a map have texts for keys when they are decoded. -/
theorem jasonEntries_each {entries decoded : List (Value × Value)}
    (read : jasonEntries entries = some decoded) :
    List.Forall₂ (fun entry entry' => ∃ name, keyName? entry.1 = some name ∧
      entry'.1 = .text name ∧ jason entry.2 = some entry'.2) entries decoded := by
  induction entries generalizing decoded with
  | nil =>
    rw [jasonEntries] at read
    cases read
    exact .nil
  | cons entry entries ih =>
    obtain ⟨key, value⟩ := entry
    rw [jasonEntries_cons] at read
    obtain ⟨name, named, rest⟩ := Option.bind_eq_some_iff.mp read
    obtain ⟨first, head, rest⟩ := Option.bind_eq_some_iff.mp rest
    obtain ⟨tail, others, same⟩ := Option.bind_eq_some_iff.mp rest
    cases same
    exact .cons ⟨name, named, rfl, head⟩ (ih others)

theorem jasonItems_each {items decoded : List Value} (read : jasonItems items = some decoded) :
    List.Forall₂ (fun item item' => jason item = some item') items decoded := by
  induction items generalizing decoded with
  | nil =>
    rw [jasonItems] at read
    cases read
    exact .nil
  | cons item items ih =>
    rw [jasonItems] at read
    obtain ⟨first, head, rest⟩ := Option.bind_eq_some_iff.mp read
    obtain ⟨tail, others, same⟩ := Option.bind_eq_some_iff.mp rest
    cases same
    exact .cons head (ih others)

theorem namedOnceItems_iff {items : List Value} :
    namedOnceItems items = true ↔ ∀ item ∈ items, item.namedOnce = true := by
  induction items with
  | nil => simp [namedOnceItems]
  | cons item items ih => rw [namedOnceItems, Bool.and_eq_true, ih, List.forall_mem_cons]

theorem namedOnceEntries_iff {entries : List (Value × Value)} :
    namedOnceEntries entries = true ↔ ∀ entry ∈ entries, entry.2.namedOnce = true := by
  induction entries with
  | nil => simp [namedOnceEntries]
  | cons entry entries ih => rw [namedOnceEntries, Bool.and_eq_true, ih, List.forall_mem_cons]

/-- A key names a field under either spelling. -/
theorem isEither_iff {key : Value} {field : String} :
    (key.isAtom field || key.isText field) = true ↔ keyName? key = some (ascii field) := by
  cases key with
  | atom name =>
    rw [keyName?, Option.some_inj, ascii_inj]
    exact (Bool.or_false _).symm ▸ beq_iff_eq
  | text name =>
    rw [keyName?, Option.some_inj]
    exact (Bool.false_or _).symm ▸ beq_iff_eq
  | number | list | map | tuple => exact iff_of_false Bool.false_ne_true nofun

/-- The first entry that a field names, under either spelling. -/
theorem fetch_either {entries : List (Value × Value)} {field : String}
    (once : fetchAtom entries field = none ∨ fetchText entries field = none) :
    fetch entries field = (entries.find? fun entry =>
      entry.1.isAtom field || entry.1.isText field).map (·.2) := by
  unfold fetch
  rcases once with absent | absent
  · have apart := List.find?_eq_none.mp (Option.map_eq_none_iff.mp absent)
    rw [absent, Option.none_or, fetchText]
    congr 1
    refine List.find?_congr fun entry member => ?_
    rw [Bool.eq_false_iff.mpr (apart entry member), Bool.false_or]
  · have apart := List.find?_eq_none.mp (Option.map_eq_none_iff.mp absent)
    rw [absent, Option.or_none, fetchAtom]
    congr 1
    refine List.find?_congr fun entry member => ?_
    rw [Bool.eq_false_iff.mpr (apart entry member), Bool.or_false]

theorem namedOnce_apart {entries : List (Value × Value)}
    (once : (Value.map entries).namedOnce = true) (field : String) :
    fetchAtom entries field = none ∨ fetchText entries field = none := by
  rw [Value.namedOnce, Bool.and_eq_true] at once
  cases named : entries.find? fun entry => entry.1.isAtom field with
  | none => exact .inl (by rw [fetchAtom, named]; rfl)
  | some entry =>
    have atom := List.find?_some named
    have alone := List.all_eq_true.mp once.1 entry (List.mem_of_find?_eq_some named)
    obtain ⟨key, value⟩ := entry
    cases key with
    | atom name =>
      have same : name = field := beq_iff_eq.mp atom
      rw [← same]
      exact .inr (Option.isNone_iff_eq_none.mp alone)
    | number | text | list | map | tuple => cases atom

/-- A field of a decoded map is that of the map, decoded. -/
theorem decoded_find {entries decoded : List (Value × Value)}
    (each : List.Forall₂ (fun entry entry' => ∃ name, keyName? entry.1 = some name ∧
      entry'.1 = .text name ∧ Decoded entry.2 entry'.2) entries decoded) (field : String) :
    Option.Rel Decoded
      ((entries.find? fun entry => entry.1.isAtom field || entry.1.isText field).map (·.2))
      ((decoded.find? fun entry => entry.1.isAtom field || entry.1.isText field).map (·.2)) := by
  induction each with
  | nil => exact .none
  | @cons entry entry' entries decoded relates _ ih =>
    obtain ⟨name, keyed, key, reads⟩ := relates
    have same : (entry'.1.isAtom field || entry'.1.isText field) =
        (entry.1.isAtom field || entry.1.isText field) := by
      rw [Bool.eq_iff_iff, isEither_iff, isEither_iff, keyed, key]
      rfl
    rw [List.find?_cons, List.find?_cons, same]
    cases entry.1.isAtom field || entry.1.isText field with
    | true => exact .some reads
    | false => exact ih

/-- The keys of a decoded map are no atoms. -/
theorem decoded_texts {entries decoded : List (Value × Value)}
    (each : List.Forall₂ (fun entry entry' => ∃ name, keyName? entry.1 = some name ∧
      entry'.1 = .text name ∧ jason entry.2 = some entry'.2) entries decoded) (field : String) :
    fetchAtom decoded field = none := by
  rw [fetchAtom, Option.map_eq_none_iff, List.find?_eq_none]
  intro entry' member'
  obtain ⟨_, _, name, _, key, _⟩ := forall₂_partner each.flip member'
  rw [key]
  exact Bool.false_ne_true

theorem decoded_each {entries decoded : List (Value × Value)}
    (once : ∀ entry ∈ entries, entry.2.namedOnce = true)
    (each : List.Forall₂ (fun entry entry' => ∃ name, keyName? entry.1 = some name ∧
      entry'.1 = .text name ∧ jason entry.2 = some entry'.2) entries decoded) :
    List.Forall₂ (fun entry entry' => ∃ name, keyName? entry.1 = some name ∧
      entry'.1 = .text name ∧ Decoded entry.2 entry'.2) entries decoded := by
  induction each with
  | nil => exact .nil
  | cons relates _ ih =>
    obtain ⟨name, keyed, key, reads⟩ := relates
    rw [List.forall_mem_cons] at once
    exact .cons ⟨name, keyed, key, once.1, reads⟩ (ih once.2)

/-- Encoding and decoding is another spelling. -/
theorem respelling_decoded : Respelling Decoded where
  nil := ⟨by simp [Value.namedOnce], by rw [jason]; rfl⟩
  layer := by
    rintro value decoded ⟨once, read⟩
    cases value with
    | atom name =>
      rw [jason] at read
      cases read
      by_cases literal : name ∈ literals
      · rw [if_pos (show name ∈ ["nil", "true", "false"] from literal)]
        exact .atom name
      · rw [if_neg (show name ∉ ["nil", "true", "false"] from literal)]
        exact .named name literal
    | number n =>
      rw [jason] at read
      cases read
      exact .number n
    | text bytes =>
      rw [jason] at read
      split at read
      · cases read
        exact .text bytes
      · cases read
    | tuple items =>
      rw [jason] at read
      cases read
    | list items =>
      rw [jason] at read
      obtain ⟨items', each, same⟩ := Option.map_eq_some_iff.mp read
      rw [← same]
      rw [Value.namedOnce, namedOnceItems_iff] at once
      refine .list ?_
      have paired := jasonItems_each each
      clear read each same
      induction paired with
      | nil => exact .nil
      | cons reads _ ih =>
        rw [List.forall_mem_cons] at once
        exact .cons ⟨once.1, reads⟩ (ih once.2)
    | map entries =>
      have apart := namedOnce_apart once
      rw [jason] at read
      obtain ⟨entries', each, same⟩ := Option.map_eq_some_iff.mp read
      rw [← same]
      rw [Value.namedOnce, Bool.and_eq_true, namedOnceEntries_iff] at once
      have read := jasonEntries_each each
      have paired := decoded_each once.2 read
      refine .map (fun field => ?_) (fun entry' member' => ?_) (fun field => .inl ?_)
      · have texts : fetchAtom entries' field = none := decoded_texts read field
        rw [fetch_either (apart field), fetch_either (.inl texts)]
        exact decoded_find paired field
      · obtain ⟨entry, member, name, keyed, key, _⟩ := forall₂_partner read.flip member'
        refine ⟨entry, member, fun field either => ?_⟩
        rw [isEither_iff] at either ⊢
        rw [← either, keyed, key]
        rfl
      · exact decoded_texts read field

/-- Keys that are equal have one name. -/
theorem keyName?_same {key other : Value} {name : Binary} (named : keyName? key = some name)
    (equal : key.same other = true) : keyName? other = some name := by
  cases key with
  | atom own =>
    cases other with
    | atom =>
      rw [Value.same, beq_iff_eq] at equal
      rw [← equal]
      exact named
    | number | text | list | map | tuple => cases equal
  | text own =>
    cases other with
    | text =>
      rw [Value.same, beq_iff_eq] at equal
      rw [← equal]
      exact named
    | number | atom | list | map | tuple => cases equal
  | number | list | map | tuple => cases named

theorem same_text (bytes : Binary) : (Value.text bytes).same (.text bytes) = true := by
  rw [Value.same]
  exact beq_self_eq_true bytes

mutual

/-- Terms that are equal are equal when they are decoded. -/
theorem same_decoded : ∀ {value other value' other' : Value}, jason value = some value' →
    jason other = some other' → value.same other = true → value'.same other' = true
  | .atom name, other, value', other', read, reads, equal => by
    cases other with
    | atom =>
      rw [Value.same, beq_iff_eq] at equal
      rw [equal, reads] at read
      cases read
      rw [jason] at reads
      cases reads
      split
      · rw [Value.same]
        exact beq_self_eq_true _
      · exact same_text _
    | number | text | list | map | tuple => cases equal
  | .number n, other, value', other', read, reads, equal => by
    cases other with
    | number =>
      rw [jason] at read reads
      cases read
      cases reads
      exact equal
    | atom | text | list | map | tuple => cases equal
  | .text bytes, other, value', other', read, reads, equal => by
    cases other with
    | text =>
      rw [jason] at read reads
      split at read
      · split at reads
        · cases read
          cases reads
          exact equal
        · cases reads
      · cases read
    | atom | number | list | map | tuple => cases equal
  | .tuple items, other, value', other', read, reads, equal => by
    rw [jason] at read
    cases read
  | .list items, other, value', other', read, reads, equal => by
    cases other with
    | list others =>
      rw [jason] at read reads
      obtain ⟨items', each, rfl⟩ := Option.map_eq_some_iff.mp read
      obtain ⟨others', each', rfl⟩ := Option.map_eq_some_iff.mp reads
      rw [Value.same] at equal ⊢
      exact sameItems_decoded each each' equal
    | atom | number | text | map | tuple => cases equal
  | .map entries, other, value', other', read, reads, equal => by
    cases other with
    | map others =>
      rw [jason] at read reads
      obtain ⟨entries', each, rfl⟩ := Option.map_eq_some_iff.mp read
      obtain ⟨others', each', rfl⟩ := Option.map_eq_some_iff.mp reads
      rw [Value.same, Bool.and_eq_true, beq_iff_eq] at equal ⊢
      rw [← (jasonEntries_each each).length_eq, ← (jasonEntries_each each').length_eq]
      exact ⟨equal.1, sameEntries_decoded each each' equal.2⟩
    | atom | number | text | list | tuple => cases equal

theorem sameItems_decoded : ∀ {items others items' others' : List Value},
    jasonItems items = some items' → jasonItems others = some others' →
      sameItems items others = true → sameItems items' others' = true
  | [], others, items', others', read, reads, equal => by
    cases others with
    | nil =>
      rw [jasonItems] at read reads
      cases read
      cases reads
      exact equal
    | cons => cases equal
  | item :: items, others, items', others', read, reads, equal => by
    cases others with
    | nil => cases equal
    | cons other others =>
      rw [jasonItems] at read reads
      obtain ⟨first, head, rest⟩ := Option.bind_eq_some_iff.mp read
      obtain ⟨tail, later, same⟩ := Option.bind_eq_some_iff.mp rest
      cases same
      obtain ⟨first', head', rest'⟩ := Option.bind_eq_some_iff.mp reads
      obtain ⟨tail', later', same'⟩ := Option.bind_eq_some_iff.mp rest'
      cases same'
      rw [sameItems, Bool.and_eq_true] at equal ⊢
      exact ⟨same_decoded head head' equal.1, sameItems_decoded later later' equal.2⟩

theorem sameEntries_decoded : ∀ {entries others entries' others' : List (Value × Value)},
    jasonEntries entries = some entries' → jasonEntries others = some others' →
      sameEntries entries others = true → sameEntries entries' others' = true
  | [], others, entries', others', read, reads, equal => by
    rw [jasonEntries] at read
    cases read
    rw [sameEntries]
  | (key, value) :: entries, others, entries', others', read, reads, equal => by
    rw [jasonEntries_cons] at read
    obtain ⟨name, named, rest⟩ := Option.bind_eq_some_iff.mp read
    obtain ⟨first, head, rest⟩ := Option.bind_eq_some_iff.mp rest
    obtain ⟨tail, later, same⟩ := Option.bind_eq_some_iff.mp rest
    cases same
    rw [sameEntries, Bool.and_eq_true] at equal ⊢
    refine ⟨?_, sameEntries_decoded later reads equal.2⟩
    obtain ⟨other, member, alike⟩ := List.any_eq_true.mp equal.1
    rw [Bool.and_eq_true] at alike
    obtain ⟨other', member', _, named', key', head'⟩ :=
      forall₂_partner (jasonEntries_each reads) member
    have one := keyName?_same named alike.1
    rw [named'] at one
    cases one
    refine List.any_eq_true.mpr ⟨other', member', Bool.and_eq_true_iff.mpr ⟨?_, ?_⟩⟩
    · rw [key']
      exact same_text _
    · exact same_decoded head head' alike.2

end

theorem uniform_decoded : Uniform Decoded :=
  fun first second equal => same_decoded first.2 second.2 equal

end Jason

section Verification

/-- The report of the day, encoded and decoded. -/
def dayDecoded : Value := (jason (dayMap meanPolicy (sampleResult 0 []))).getD .nil

theorem dayMap_json : jason (dayMap meanPolicy (sampleResult 0 [])) = some dayDecoded := by
  have encoded : (jason (dayMap meanPolicy (sampleResult 0 []))).isSome = true := by decide +kernel
  rw [dayDecoded]
  obtain ⟨decoded, found⟩ := Option.isSome_iff_exists.mp encoded
  rw [found, Option.getD_some]

end Verification

end Sidereon.MergeReport
