import Mathlib.Data.Finset.Card
import Mathlib.Data.Finset.Lattice.Basic
import Mathlib.Data.Fintype.Defs
import Sidereon.MergeReport.Values

/-!
# Centers of merge reports

A merge report names the centers that were requested, those that contributed and those that are
absent. Verification reads the three lists in three places and compares them in a fourth. What it
passes is a partition of the requested centers, whatever its other checks decide, and every
partition passes the comparison.
-/

namespace Sidereon.MergeReport

open Foundation Distribution

section Partition

variable {α : Type}

/-- Two lists, each without repetition and in the order of a third, that share no item and are
together all of it. -/
structure Partition (requested contributors absent : List α) : Prop where
  requestedOnce : requested.Nodup
  contributorsOnce : contributors.Nodup
  absentOnce : absent.Nodup
  disjoint : ∀ center ∈ contributors, center ∉ absent
  together : ∀ center, center ∈ requested ↔ center ∈ contributors ∨ center ∈ absent
  contributorsOrder : contributors.Sublist requested
  absentOrder : absent.Sublist requested

/-- What is in the order of a list without repetition is what it has of it. -/
theorem filter_of_sublist {part whole : List α} [DecidablePred (· ∈ part)]
    (order : part.Sublist whole) (once : whole.Nodup) : whole.filter (· ∈ part) = part := by
  have partOnce := once.sublist order
  have filtered : (whole.filter (· ∈ part)).Nodup := once.filter _
  have least : part.Sublist (whole.filter (· ∈ part)) := by
    have kept := order.filter (· ∈ part)
    rwa [List.filter_eq_self.mpr (by simp)] at kept
  have most : (whole.filter (· ∈ part)).length ≤ part.length := by
    have subset : (whole.filter (· ∈ part)) ⊆ part := by
      intro item member
      simpa using (List.mem_filter.mp member).2
    exact (List.subperm_of_subset filtered subset).length_le
  exact (least.eq_of_length_le most).symm

end Partition

section Model

/-- The parts of verification that do not compare centers: the catalog, the records of single
contributors, the policy, the identity and the result of the merge. -/
structure Checks (Artifact Acquisition Policy Identity : Type) where
  centerEntry : Binary → Except Refusal Unit
  persistedArtifact : Value → Nat → Except Refusal Artifact
  persistedAcquisition : Value → Nat → Nat → Except Refusal Acquisition
  verifyContributorMetadata : Record → Date → Artifact → Acquisition → Nat → Except Refusal Unit
  sharedPolicy : Value → Except Refusal Value
  persistedMergePolicy : Value → Nat → Except Refusal Policy
  validatePersistedPrecedence : List Artifact → Policy → Except Refusal Unit
  mergeInputIdentity : List Artifact → Policy → Except Refusal Identity
  verifyReportIdentity : Record → Identity → Policy → Nat → Except Refusal Unit
  verifyMergeResult : Value → Nat → Policy → Nat → Except Refusal Unit

/-- A check with its refusal. -/
def ensure (condition : Prop) [Decidable condition] (refusal : Refusal) : Except Refusal Unit :=
  if condition then .ok () else .error refusal

/-- A context of an index. -/
def contextAt (name : String) (index : Nat) : Value := .tuple [.atom name, .int index]

/-- A field in a context of an index. -/
def fieldAt (name : String) (index : Nat) (field : String) : Value :=
  .tuple [.atom name, .int index, .atom field]

/-- `persisted_schema_version`. -/
def persistedSchemaVersion : Value → Except Refusal Nat
  | .number (.int 1) => .ok 1
  | .number (.int 2) => .ok 2
  | .number (.int 3) => .ok 3
  | _ => .error (invalidField (.atom "schema_version"))

/-- The fields of an artifact in the shared layout. -/
def sharedArtifactFields : List String :=
  ["requested_identity", "resolved_identity", "distribution_source", "official_filename",
    "product_sha256", "product_byte_length", "archive_sha256", "archive_byte_length", "compression"]

/-- The fields of the facts of an acquisition in the shared layout. -/
def sharedAcquisitionFields : List String :=
  ["retrieved_at", "cache_hit", "original_url", "final_url", "etag", "last_modified", "attempts"]

/-- `record_schema_1`. -/
def recordSchema1 (record : Value) (fields : List String) (context : Value) :
    Except Refusal Record := do
  let values ← exactFields record ("schema_version" :: fields) context
  exactValue (values.get "schema_version") 1 (.tuple [context, .atom "schema_version"])
  .ok (values.delete "schema_version")

/-- `shared_timestamp_form` of a term. -/
def sharedTimestampField (offsets : OffsetSyntax) (value field : Value) : Except Refusal Unit :=
  match value with
  | .text bytes => ensure (sharedTimestampForm offsets bytes = true) (invalidField field)
  | _ => .error (invalidField field)

/-- A contributor of the shared layout, in the layout of the earlier schemas. -/
def sharedContributor (offsets : OffsetSyntax) (index : Nat) (contributor : Value) :
    Except Refusal Value := do
  let values ← exactFields contributor
    ["center", "filename", "date", "issue", "pattern", "artifact_identity", "acquisition_facts"]
    (contextAt "contributor" index)
  let artifact ← recordSchema1 (values.get "artifact_identity") sharedArtifactFields
    (contextAt "artifact_identity" index)
  let acquisition ← recordSchema1 (values.get "acquisition_facts") sharedAcquisitionFields
    (contextAt "acquisition_facts" index)
  sharedTimestampField offsets (acquisition.get "retrieved_at")
    (fieldAt "acquisition_facts" index "retrieved_at")
  .ok (((values.delete "acquisition_facts").put "artifact_identity" artifact.toValue).put
    "acquisition" acquisition.toValue).toValue

/-- `shared_contributors`. -/
def sharedContributors (offsets : OffsetSyntax) (contributors : List Value) :
    Except Refusal (List Value) :=
  checkEach (sharedContributor offsets) 0 contributors

/-- The items of a list that are texts which are not empty, when all are. -/
def nonemptyTexts? : List Value → Option (List Binary)
  | [] => some []
  | .text (byte :: bytes) :: items => (nonemptyTexts? items).map ((byte :: bytes) :: ·)
  | _ => none

/-- The comparison of a length with the size of a set. -/
def once (centers : List Binary) : Bool := centers.length == centers.toFinset.card

/-- `verify_requested_partition`. -/
def verifyRequestedPartition (requested contributors absent : List Binary) :
    Except Refusal Unit := do
  let contributorSet := contributors.toFinset
  let absentSet := absent.toFinset
  ensure (Disjoint contributorSet absentSet) (.atom "requested_center_partition_overlap")
  ensure (contributorSet ∪ absentSet = requested.toFinset)
    (.atom "requested_center_partition_mismatch")
  ensure (contributors = requested.filter (· ∈ contributorSet)) (.atom "contributor_order_mismatch")
  ensure (absent = requested.filter (· ∈ absentSet)) (.atom "absent_order_mismatch")

/-- `verify_absence_candidate`. -/
def verifyAbsenceCandidate (filename pattern url : Option Binary) (context : Value) :
    Except Refusal Unit :=
  ensure (filename.isNone = url.isNone ∧ (filename ≠ none ∨ pattern = none) ∧
    ∀ name ∈ filename, (47 : UInt8) ∉ name ∧ (92 : UInt8) ∉ name)
    (invalidField (.tuple [context, .atom "candidate"]))

/-- `legacy_status_reason?`. -/
def legacyStatusReason (reason : Binary) : Bool :=
  let stem := reason.takeWhile (· != 58)
  match reason.dropWhile (· != 58) with
  | [58, d₁, d₂, d₃] =>
    (stem == ascii "product_not_published" || stem == ascii "http_status") &&
      (49 ≤ d₁ && d₁ ≤ 53) && isDigit d₂ && isDigit d₃
  | _ => false

/-- The reasons of the earlier schemas. -/
def legacyReasons : List String :=
  ["no_candidate", "catalog_unavailable", "offline_cache_miss", "product_not_published",
    "checksum_mismatch", "http_status", "offline_miss", "candidate_not_found", "checksum"]

/-- `verify_absence_reason`. -/
def verifyAbsenceReason (filename : Option Binary) (reason : Binary) (status : Option Int)
    (schemaVersion : Nat) (context : Value) : Except Refusal Unit :=
  let refusal := invalidField (.tuple [context, .atom "reason"])
  if schemaVersion < 3 then
    ensure (reason ∈ legacyReasons.map ascii ∨ legacyStatusReason reason = true) refusal
  else if reason = ascii "no_candidate" ∨ reason = ascii "catalog_unavailable" then
    ensure (filename = none ∧ status = none) refusal
  else if reason = ascii "offline_cache_miss" then
    ensure (filename ≠ none ∧ status = none) refusal
  else if reason = ascii "product_not_published" ∨ reason = ascii "checksum_mismatch" ∨
      reason = ascii "unclassified" then
    ensure (filename ≠ none) refusal
  else if reason = ascii "http_status" then
    ensure (filename ≠ none ∧ status ≠ none) refusal
  else .error refusal

/-- The detail that an unclassified reason has. -/
def absentDetail (unclassified : Bool) (values : Record) (index : Nat) : Except Refusal Unit :=
  if unclassified then
    discard (nonemptyBinary (values.get "detail") (fieldAt "absent" index "detail"))
  else .ok ()

/-- An entry of the absent centers, as its center. -/
def absentCenter (contributorCenters : List Binary) (schemaVersion : Nat) (index : Nat)
    (entry : Value) : Except Refusal Binary := do
  let unclassified := 3 ≤ schemaVersion && (mapValue entry "reason").isText "unclassified"
  let values ← exactFields entry
    (["center", "filename", "pattern", "reason", "url", "http_status"] ++
      if unclassified then ["detail"] else []) (contextAt "absent" index)
  absentDetail unclassified values index
  let center ← nonemptyBinary (values.get "center") (fieldAt "absent" index "center")
  let filename ← optionalBinary (values.get "filename") (fieldAt "absent" index "filename")
  let pattern ← optionalBinary (values.get "pattern") (fieldAt "absent" index "pattern")
  let reason ← nonemptyBinary (values.get "reason") (fieldAt "absent" index "reason")
  let url ← publicUrl (values.get "url") (fieldAt "absent" index "url")
  let status ← optionalHttpStatus (values.get "http_status") (fieldAt "absent" index "http_status")
  verifyAbsenceCandidate filename pattern url (contextAt "absent" index)
  verifyAbsenceReason filename reason status schemaVersion (contextAt "absent" index)
  ensure (center ∉ contributorCenters) (.atom "absent_contributor_overlap")
  .ok center

/-- `verify_absent`. -/
def verifyAbsent (absent : Value) (contributorCenters : List Binary) (schemaVersion : Nat) :
    Except Refusal (List Binary) :=
  match absent with
  | .list entries => do
    let centers ← checkEach (absentCenter contributorCenters schemaVersion) 0 entries
    ensure (once centers = true) (.atom "duplicate_absent_center")
    .ok centers
  | _ => .error (invalidField (.atom "absent"))

variable {Artifact Acquisition Policy Identity : Type}
variable (checks : Checks Artifact Acquisition Policy Identity) (offsets : OffsetSyntax)

/-- `validate_centers`; a code that is a text is its own normal form. -/
def validateCenters (centers : List Binary) : Except Refusal Unit := do
  ensure (once centers = true) (.tuple [.atom "unsupported_product",
    .tuple [.atom "duplicate_centers", .list (centers.map .text)]])
  centers.forM checks.centerEntry

/-- `persisted_requested_centers`. -/
def persistedRequestedCenters (centers : Value) : Except Refusal (List Binary) :=
  match centers with
  | .list (first :: rest) =>
    match nonemptyTexts? (first :: rest) with
    | some centers => do
      ensure (once centers = true) (.atom "duplicate_requested_center")
      validateCenters checks centers
      .ok centers
    | none => .error (invalidField (.atom "requested_centers"))
  | _ => .error (invalidField (.atom "requested_centers"))

/-- A contributor, as its artifact and its center. -/
def persistedContributor (schemaVersion : Nat) (index : Nat) (contributor : Value) :
    Except Refusal (Artifact × Binary) := do
  let values ← exactFields contributor
    ["center", "filename", "date", "issue", "pattern", "artifact_identity", "acquisition"]
    (contextAt "contributor" index)
  let center ← nonemptyBinary (values.get "center") (fieldAt "contributor" index "center")
  discard (nonemptyBinary (values.get "filename") (fieldAt "contributor" index "filename"))
  let date ← persistedDate (values.get "date")
  discard (optionalBinary (values.get "issue") (fieldAt "contributor" index "issue"))
  discard (nonemptyBinary (values.get "pattern") (fieldAt "contributor" index "pattern"))
  let artifact ← checks.persistedArtifact (values.get "artifact_identity") index
  let acquisition ← checks.persistedAcquisition (values.get "acquisition") index schemaVersion
  checks.verifyContributorMetadata values date artifact acquisition index
  .ok (artifact, center)

/-- `persisted_contributors`. -/
def persistedContributors (contributors : List Value) (schemaVersion : Nat) :
    Except Refusal (List Artifact × List Binary) := do
  let persisted ← checkEach (persistedContributor checks schemaVersion) 0 contributors
  ensure (once (persisted.map (·.2)) = true) (.atom "duplicate_contributor_center")
  .ok (persisted.map (·.1), persisted.map (·.2))

/-- `persisted_layout`. -/
def persistedLayout (contributors : List Value) (policy : Value) (schemaVersion : Nat) :
    Except Refusal (List Value × Value) :=
  if schemaVersion < 3 then .ok (contributors, policy)
  else do
    let contributors ← sharedContributors offsets contributors
    let policy ← checks.sharedPolicy policy
    .ok (contributors, policy)

/-- `verify_report_counts`. -/
def verifyReportCounts (values : Record) (artifacts : List Artifact) : Except Refusal Unit :=
  let count := artifacts.length
  match values.get "source_count", values.get "single_product", values.get "merged" with
  | .number (.int n), .atom single, .atom "true" =>
    ensure (n = count ∧ single = if count = 1 then "true" else "false")
      (.atom "merge_report_count_mismatch")
  | _, _, _ => .error (.atom "merge_report_count_mismatch")

/-- The fields of a report. -/
def reportFields : List String :=
  ["schema_version", "requested_centers", "input_identity_schema_version", "stable_input_identity",
    "merge_policy", "source_count", "single_product", "merged", "contributors", "absent",
    "merge_report"]

/-- The contributors of a report, which are a list that is not empty. -/
def reportContributors : Value → Except Refusal (List Value)
  | .list (first :: rest) => .ok (first :: rest)
  | _ => .error (invalidField (.atom "contributors"))

/-- `verify_merge_report` of a map. -/
def verifyMergeReport (report : Value) : Except Refusal Unit := do
  let values ← exactFields report reportFields (.atom "report")
  let schemaVersion ← persistedSchemaVersion (values.get "schema_version")
  let contributors ← reportContributors (values.get "contributors")
  let (contributors, policy) ←
    persistedLayout checks offsets contributors (values.get "merge_policy") schemaVersion
  let requestedCenters ← persistedRequestedCenters checks (values.get "requested_centers")
  let (artifacts, contributorCenters) ← persistedContributors checks contributors schemaVersion
  let policy ← checks.persistedMergePolicy policy schemaVersion
  checks.validatePersistedPrecedence artifacts policy
  let recomputed ← checks.mergeInputIdentity artifacts policy
  checks.verifyReportIdentity values recomputed policy schemaVersion
  verifyReportCounts values artifacts
  let absentCenters ← verifyAbsent (values.get "absent") contributorCenters schemaVersion
  verifyRequestedPartition requestedCenters contributorCenters absentCenters
  checks.verifyMergeResult (values.get "merge_report") artifacts.length policy schemaVersion

end Model

section Comparison

/-- A check passes when its condition holds. -/
theorem ensure_ok {condition : Prop} [Decidable condition] {refusal : Refusal} {found : Unit} :
    ensure condition refusal = .ok found ↔ condition := by
  unfold ensure
  by_cases holds : condition
  · rw [if_pos holds]
    exact iff_of_true rfl holds
  · rw [if_neg holds]
    exact iff_of_false nofun holds

/-- A list has the length of its set when it has no repetition. -/
theorem once_iff {centers : List Binary} : once centers = true ↔ centers.Nodup := by
  have sizes : centers.toFinset.card = centers.length ↔ centers.Nodup :=
    Multiset.toFinset_card_eq_card_iff_nodup
  rw [once, beq_iff_eq, eq_comm]
  exact sizes

/-- The comparison of the three lists passes when the first two are apart, together the third, and
in its order. -/
theorem verifyRequestedPartition_ok {requested contributors absent : List Binary} :
    verifyRequestedPartition requested contributors absent = .ok () ↔
      (∀ center ∈ contributors, center ∉ absent) ∧
      (∀ center, center ∈ requested ↔ center ∈ contributors ∨ center ∈ absent) ∧
      contributors = requested.filter (· ∈ contributors) ∧
      absent = requested.filter (· ∈ absent) := by
  have apart : Disjoint contributors.toFinset absent.toFinset ↔
      ∀ center ∈ contributors, center ∉ absent := by
    rw [Finset.disjoint_left]
    simp only [List.mem_toFinset]
  have together : contributors.toFinset ∪ absent.toFinset = requested.toFinset ↔
      ∀ center, center ∈ requested ↔ center ∈ contributors ∨ center ∈ absent := by
    rw [Finset.ext_iff]
    simp only [Finset.mem_union, List.mem_toFinset]
    exact forall_congr' fun center => Iff.comm
  unfold verifyRequestedPartition
  simp only [bind_ok, ensure_ok, apart, together, List.mem_toFinset]
  constructor
  · intro ⟨_, first, _, second, _, third, fourth⟩
    exact ⟨first, second, third, fourth⟩
  · intro ⟨first, second, third, fourth⟩
    exact ⟨(), first, (), second, (), third, fourth⟩

/-- The comparison passes every partition. -/
theorem verifyRequestedPartition_of_partition {requested contributors absent : List Binary}
    (partition : Partition requested contributors absent) :
    verifyRequestedPartition requested contributors absent = .ok () := by
  have contributorsKept := filter_of_sublist partition.contributorsOrder partition.requestedOnce
  have absentKept := filter_of_sublist partition.absentOrder partition.requestedOnce
  exact verifyRequestedPartition_ok.mpr
    ⟨partition.disjoint, partition.together, contributorsKept.symm, absentKept.symm⟩

/-- What the comparison passes is a partition, when no list repeats an item. -/
theorem partition_of_verifyRequestedPartition {requested contributors absent : List Binary}
    (requestedOnce : requested.Nodup) (contributorsOnce : contributors.Nodup)
    (absentOnce : absent.Nodup)
    (passed : verifyRequestedPartition requested contributors absent = .ok ()) :
    Partition requested contributors absent := by
  obtain ⟨disjoint, together, contributorsKept, absentKept⟩ := verifyRequestedPartition_ok.mp passed
  have contributorsOrder : contributors.Sublist requested := by
    rw [contributorsKept]
    exact List.filter_sublist
  have absentOrder : absent.Sublist requested := by
    rw [absentKept]
    exact List.filter_sublist
  exact ⟨requestedOnce, contributorsOnce, absentOnce, disjoint, together, contributorsOrder,
    absentOrder⟩

end Comparison

section Lists

/-- An entry names a center. -/
def HasCenter (entry : Value) (center : Binary) : Prop :=
  entry.field? "center" = some (.text center)

/-- The entries of a list, each with a center. -/
def CentersOf (value : Value) (centers : List Binary) : Prop :=
  ∃ entries, value = .list entries ∧ List.Forall₂ HasCenter entries centers

/-- Texts that are not empty are the texts of their bytes. -/
theorem nonemptyTexts_texts {items : List Value} :
    ∀ {codes : List Binary}, nonemptyTexts? items = some codes → items = codes.map .text := by
  induction items with
  | nil =>
    intro codes found
    cases found
    rfl
  | cons item items ih =>
    intro codes found
    unfold nonemptyTexts? at found
    split at found
    · next same => cases same
    · next byte bytes rest same =>
      cases same
      obtain ⟨more, others, cons⟩ := Option.map_eq_some_iff.mp found
      rw [← cons, List.map_cons, ← ih others]
    · cases found

variable {Artifact Acquisition Policy Identity : Type}
variable {checks : Checks Artifact Acquisition Policy Identity} {offsets : OffsetSyntax}

/-- The requested centers that are read are those of the list, without repetition. -/
theorem persistedRequestedCenters_ok {value : Value} {requested : List Binary}
    (passed : persistedRequestedCenters checks value = .ok requested) :
    value = .list (requested.map .text) ∧ requested.Nodup := by
  unfold persistedRequestedCenters at passed
  split at passed
  · split at passed
    · next centers found =>
      obtain ⟨_, distinct, rest⟩ := bind_ok.mp passed
      obtain ⟨_, _, same⟩ := bind_ok.mp rest
      cases same
      exact ⟨congrArg Value.list (nonemptyTexts_texts found), once_iff.mp (ensure_ok.mp distinct)⟩
    · cases passed
  · cases passed

/-- A contributor is read with its own center. -/
theorem persistedContributor_center {schemaVersion index : Nat} {contributor : Value}
    {artifact : Artifact} {center : Binary}
    (passed : persistedContributor checks schemaVersion index contributor =
      .ok (artifact, center)) : HasCenter contributor center := by
  obtain ⟨values, read, rest⟩ := bind_ok.mp passed
  obtain ⟨found, centered, rest⟩ := bind_ok.mp rest
  obtain ⟨_, _, rest⟩ := bind_ok.mp rest
  obtain ⟨_, _, rest⟩ := bind_ok.mp rest
  obtain ⟨_, _, rest⟩ := bind_ok.mp rest
  obtain ⟨_, _, rest⟩ := bind_ok.mp rest
  obtain ⟨_, _, rest⟩ := bind_ok.mp rest
  obtain ⟨_, _, rest⟩ := bind_ok.mp rest
  obtain ⟨_, _, same⟩ := bind_ok.mp rest
  cases same
  have field := (exactFields_get read (List.mem_cons_self (a := "center"))).1
  rw [nonemptyBinary_text centered] at field
  exact field

/-- The centers of contributors that are read, each once. -/
theorem persistedContributors_ok {schemaVersion : Nat} {contributors : List Value}
    {artifacts : List Artifact} {centers : List Binary}
    (passed : persistedContributors checks contributors schemaVersion = .ok (artifacts, centers)) :
    List.Forall₂ HasCenter contributors centers ∧ centers.Nodup := by
  obtain ⟨persisted, each, rest⟩ := bind_ok.mp passed
  obtain ⟨_, distinct, same⟩ := bind_ok.mp rest
  cases same
  have centered : List.Forall₂ (fun entry read => HasCenter entry read.2) contributors persisted :=
    checkEach_imp each fun _ _ _ passed => persistedContributor_center passed
  exact ⟨List.forall₂_map_right_iff.mpr centered, once_iff.mp (ensure_ok.mp distinct)⟩

/-- A contributor of the shared layout keeps its center in the layout it is read into. -/
theorem sharedContributor_center {index : Nat} {contributor converted : Value}
    (passed : sharedContributor offsets index contributor = .ok converted) :
    contributor.field? "center" = converted.field? "center" := by
  obtain ⟨values, read, rest⟩ := bind_ok.mp passed
  obtain ⟨_, _, rest⟩ := bind_ok.mp rest
  obtain ⟨_, _, rest⟩ := bind_ok.mp rest
  obtain ⟨_, _, same⟩ := bind_ok.mp rest
  cases same
  have field := exactFields_get read (List.mem_cons_self (a := "center"))
  rw [toValue_field, lookup_put (by decide), lookup_put (by decide), lookup_delete (by decide),
    field.1, field.2]

/-- The layout that is read has the centers of the report's contributors. -/
theorem persistedLayout_centers {schemaVersion : Nat} {contributors layout : List Value}
    {policy layoutPolicy : Value} {centers : List Binary}
    (passed : persistedLayout checks offsets contributors policy schemaVersion =
      .ok (layout, layoutPolicy)) (centered : List.Forall₂ HasCenter layout centers) :
    List.Forall₂ HasCenter contributors centers := by
  unfold persistedLayout at passed
  split at passed
  · cases passed
    exact centered
  · obtain ⟨converted, each, rest⟩ := bind_ok.mp passed
    obtain ⟨_, _, same⟩ := bind_ok.mp rest
    cases same
    have kept := checkEach_imp each fun _ _ _ passed => sharedContributor_center passed
    clear each passed rest
    induction kept generalizing centers with
    | nil =>
      cases centered
      exact .nil
    | cons same _ ih =>
      cases centered with
      | cons center rest => exact .cons (same.trans center) (ih rest)

/-- An absent entry is read with its own center. -/
theorem absentCenter_center {contributorCenters : List Binary} {schemaVersion index : Nat}
    {entry : Value} {center : Binary}
    (passed : absentCenter contributorCenters schemaVersion index entry = .ok center) :
    HasCenter entry center := by
  obtain ⟨values, read, rest⟩ := bind_ok.mp passed
  obtain ⟨_, _, rest⟩ := bind_ok.mp rest
  obtain ⟨found, centered, rest⟩ := bind_ok.mp rest
  obtain ⟨_, _, rest⟩ := bind_ok.mp rest
  obtain ⟨_, _, rest⟩ := bind_ok.mp rest
  obtain ⟨_, _, rest⟩ := bind_ok.mp rest
  obtain ⟨_, _, rest⟩ := bind_ok.mp rest
  obtain ⟨_, _, rest⟩ := bind_ok.mp rest
  obtain ⟨_, _, rest⟩ := bind_ok.mp rest
  obtain ⟨_, _, rest⟩ := bind_ok.mp rest
  obtain ⟨_, _, same⟩ := bind_ok.mp rest
  cases same
  have field := (exactFields_get read
    (List.mem_append_left _ (List.mem_cons_self (a := "center")))).1
  rw [nonemptyBinary_text centered] at field
  exact field

/-- The absent centers that are read, each once. -/
theorem verifyAbsent_ok {absent : Value} {contributorCenters centers : List Binary}
    {schemaVersion : Nat}
    (passed : verifyAbsent absent contributorCenters schemaVersion = .ok centers) :
    CentersOf absent centers ∧ centers.Nodup := by
  unfold verifyAbsent at passed
  split at passed
  · next entries =>
    obtain ⟨_, each, rest⟩ := bind_ok.mp passed
    obtain ⟨_, distinct, same⟩ := bind_ok.mp rest
    cases same
    have centered := checkEach_imp each fun _ _ _ passed => absentCenter_center passed
    exact ⟨⟨entries, rfl, centered⟩, once_iff.mp (ensure_ok.mp distinct)⟩
  · cases passed

end Lists

section Verification

variable {Artifact Acquisition Policy Identity : Type}

/-- The three lists of a report: the requested centers, and those of its contributors and of its
absent entries. -/
def Names (report : Value) (requested contributors absent : List Binary) : Prop :=
  report.field? "requested_centers" = some (.list (requested.map .text)) ∧
    (∃ value, report.field? "contributors" = some value ∧ CentersOf value contributors) ∧
    ∃ value, report.field? "absent" = some value ∧ CentersOf value absent

/-- The contributors that are read are the list of the report. -/
theorem reportContributors_list {value : Value} {contributors : List Value}
    (passed : reportContributors value = .ok contributors) : value = .list contributors := by
  unfold reportContributors at passed
  split at passed
  · cases passed
    rfl
  · cases passed

/-- The centers of a report that is verified are partitioned as it names them, and every partition
passes the comparison, whatever the other checks decide. -/
theorem verifyMergeReport_partitions (checks : Checks Artifact Acquisition Policy Identity)
    (offsets : OffsetSyntax) :
    (∀ report, verifyMergeReport checks offsets report = .ok () →
      ∃ requested contributors absent, Names report requested contributors absent ∧
        Partition requested contributors absent) ∧
    ∀ requested contributors absent, Partition requested contributors absent →
      verifyRequestedPartition requested contributors absent = .ok () := by
  constructor
  · intro report passed
    obtain ⟨values, read, rest⟩ := bind_ok.mp passed
    obtain ⟨schemaVersion, _, rest⟩ := bind_ok.mp rest
    obtain ⟨contributors, listed, rest⟩ := bind_ok.mp rest
    obtain ⟨⟨layout, policy⟩, laidOut, rest⟩ := bind_ok.mp rest
    obtain ⟨requestedCenters, requested, rest⟩ := bind_ok.mp rest
    obtain ⟨⟨artifacts, contributorCenters⟩, contributed, rest⟩ := bind_ok.mp rest
    obtain ⟨normalized, _, rest⟩ := bind_ok.mp rest
    obtain ⟨_, _, rest⟩ := bind_ok.mp rest
    obtain ⟨_, _, rest⟩ := bind_ok.mp rest
    obtain ⟨_, _, rest⟩ := bind_ok.mp rest
    obtain ⟨_, _, rest⟩ := bind_ok.mp rest
    obtain ⟨absentCenters, absent, rest⟩ := bind_ok.mp rest
    obtain ⟨_, compared, _⟩ := bind_ok.mp rest
    have field {name : String} (asked : name ∈ reportFields) :
        report.field? name = some (values.get name) := (exactFields_get read asked).1
    obtain ⟨requestedList, requestedOnce⟩ := persistedRequestedCenters_ok requested
    obtain ⟨centered, contributorsOnce⟩ := persistedContributors_ok contributed
    obtain ⟨absentList, absentOnce⟩ := verifyAbsent_ok absent
    have contributorsList : CentersOf (values.get "contributors") contributorCenters :=
      ⟨contributors, reportContributors_list listed, persistedLayout_centers laidOut centered⟩
    have named : Names report requestedCenters contributorCenters absentCenters := by
      refine ⟨?_, ⟨_, field (by decide), contributorsList⟩, ⟨_, field (by decide), absentList⟩⟩
      rw [field (by decide), requestedList]
    exact ⟨requestedCenters, contributorCenters, absentCenters, named,
      partition_of_verifyRequestedPartition requestedOnce contributorsOnce absentOnce compared⟩
  · intro requested contributors absent partition
    exact verifyRequestedPartition_of_partition partition

/-- Checks that pass everything. -/
def passing : Checks Unit Unit Unit Unit where
  centerEntry _ := .ok ()
  persistedArtifact _ _ := .ok ()
  persistedAcquisition _ _ _ := .ok ()
  verifyContributorMetadata _ _ _ _ _ := .ok ()
  sharedPolicy policy := .ok policy
  persistedMergePolicy _ _ := .ok ()
  validatePersistedPrecedence _ _ := .ok ()
  mergeInputIdentity _ _ := .ok ()
  verifyReportIdentity _ _ _ _ := .ok ()
  verifyMergeResult _ _ _ _ := .ok ()

/-- A report of one contributor and one absent center. -/
def twoCenters : Value :=
  let name (key text : String) : Value × Value := (.atom key, .text (ascii text))
  .map [(.atom "schema_version", .int 1),
    (.atom "requested_centers", .list [.text (ascii "cod"), .text (ascii "gfz")]),
    (.atom "input_identity_schema_version", .int 1), name "stable_input_identity" "id",
    (.atom "merge_policy", .nil), (.atom "source_count", .int 1),
    (.atom "single_product", .atom "true"), (.atom "merged", .atom "true"),
    (.atom "contributors", .list [.map [name "center" "gfz", name "filename" "f.SP3",
      name "date" "2026-07-01", (.atom "issue", .nil), name "pattern" "canonical",
      (.atom "artifact_identity", .nil), (.atom "acquisition", .nil)]]),
    (.atom "absent", .list [.map [name "center" "cod", (.atom "filename", .nil),
      (.atom "pattern", .nil), name "reason" "no_candidate", (.atom "url", .nil),
      (.atom "http_status", .nil)]]),
    (.atom "merge_report", .nil)]

/-- A check of no result that passes is one that is `ok`. -/
theorem ok_of_isOk {check : Except Refusal Unit} (passed : check.isOk = true) : check = .ok () := by
  cases check with
  | error refusal => cases passed
  | ok found => rfl

/-- The report of two centers is verified, and names a partition. -/
theorem verifyMergeReport_partitions_twoCenters :
    ∃ requested contributors absent, Names twoCenters requested contributors absent ∧
      Partition requested contributors absent :=
  (verifyMergeReport_partitions passing calendarOffsets).1 twoCenters (ok_of_isOk (by decide +kernel))

end Verification

end Sidereon.MergeReport
