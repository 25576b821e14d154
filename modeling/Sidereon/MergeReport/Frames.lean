import Sidereon.MergePolicy.Recorded
import Sidereon.MergeReport.Continuity

/-!
# Frame reconciliations

A merge result states how the products that are labelled otherwise than the first were brought to its
frame: two labels were asserted to be equivalent, or a transform of the catalog was applied. Each
reconciliation is read as a record, and the records are compared with the policy, the catalog and one
another.
-/

namespace Sidereon.MergeReport

open Foundation Sidereon.Distribution
open MergePolicy (Double Policy Label LabelSet Named persistedLabel? persistedLabelSet? persistedNamed)

section Frames

/-- The frames of the catalog that products are written in. -/
inductive Frame where
  | itrf2020
  | itrf2014
  | itrf2008
  deriving DecidableEq

/-- Their names. -/
def Frame.name : Frame → String
  | itrf2020 => "ITRF2020"
  | itrf2014 => "ITRF2014"
  | itrf2008 => "ITRF2008"

instance : Named Frame where
  all := [.itrf2020, .itrf2014, .itrf2008]
  name := Frame.name
  found := by rintro ⟨⟩ <;> rfl
  foundText := by rintro ⟨⟩ <;> rfl

/-- The labels that name a frame. -/
def Frame.labels : Frame → List String
  | itrf2020 => ["ITRF2020", "ITRF20", "IGS20", "IGc20"]
  | itrf2014 => ["ITRF2014", "ITRF14", "IGS14", "IGb14"]
  | itrf2008 => ["ITRF2008", "ITRF08", "IGS08", "IGb08"]

/-- `sp3_frame_for_label`. -/
def sp3FrameForLabel (label : Label) : Option Frame :=
  Named.all.find? fun frame : Frame => label.text ∈ frame.labels.map ascii

/-- The frame of a text. -/
def Frame.ofText? (value : Value) : Option Frame :=
  Named.all.find? fun frame : Frame => value.isText frame.name

/-- `optional_terrestrial_frame`, with the frame. -/
def optionalTerrestrialFrame (value field : Value) : Except Refusal (Option Frame) :=
  match value with
  | .atom "nil" => .ok none
  | value =>
    match Frame.ofText? value with
    | some frame => .ok (some frame)
    | none => .error (invalidField field)

/-- How a product was brought to the frame of the first. -/
inductive ReconciliationMethod where
  | assertedEquivalence
  | helmert
  deriving DecidableEq

/-- Their names. -/
def ReconciliationMethod.name : ReconciliationMethod → String
  | assertedEquivalence => "asserted_equivalence"
  | helmert => "helmert"

instance : Named ReconciliationMethod where
  all := [.assertedEquivalence, .helmert]
  name := ReconciliationMethod.name
  found := by rintro ⟨⟩ <;> rfl
  foundText := by rintro ⟨⟩ <;> rfl

/-- `reconciliation_method`. -/
def reconciliationMethod (value field : Value) : Except Refusal ReconciliationMethod :=
  persistedNamed value (invalidField field)

end Frames

section Transforms

/-- Three doubles. -/
structure FloatVector where
  x : Double
  y : Double
  z : Double

/-- A translation, a scale and a rotation, or their rates. -/
structure Transform where
  translation : FloatVector
  scale : Double
  rotation : FloatVector

/-- `==` of doubles. -/
def sameDouble (x y : Double) : Bool := x.exact_ == y.exact_

/-- `==` of lists of three doubles. -/
def FloatVector.same (own other : FloatVector) : Bool :=
  sameDouble own.x other.x && sameDouble own.y other.y && sameDouble own.z other.z

/-- `==` of transforms. -/
def Transform.same (own other : Transform) : Bool :=
  own.translation.same other.translation && sameDouble own.scale other.scale &&
    own.rotation.same other.rotation

/-- What a transform is of. -/
inductive TransformKind where
  | parameters
  | rates

/-- The name of a kind, and those of its fields. -/
def TransformKind.names : TransformKind → String × String × String × String
  | parameters => ("parameters", "translation_mm", "scale_ppb", "rotation_mas")
  | rates => ("rates", "translation_mm_per_year", "scale_ppb_per_year", "rotation_mas_per_year")

/-- `float_vector`, with the vector. -/
def floatVector (value field : Value) : Except Refusal FloatVector :=
  match value with
  | .list [x, y, z] => do
    let x ← finiteFloat x field
    let y ← finiteFloat y field
    let z ← finiteFloat z field
    .ok ⟨x, y, z⟩
  | _ => .error (invalidField field)

/-- `persisted_transform`. -/
def persistedTransform (value : Value) (kind : TransformKind) (context : Value) :
    Except Refusal (Option Transform) :=
  let (name, translation, scale, rotation) := kind.names
  let field := fun part => Value.tuple [context, .atom name, .atom part]
  match value with
  | .atom "nil" => .ok none
  | .map entries => do
    let values ← exactFields (.map entries) [translation, scale, rotation] (inside context name)
    let moved ← floatVector (values.get translation) (field translation)
    let scaled ← finiteFloat (values.get scale) (field scale)
    let turned ← floatVector (values.get rotation) (field rotation)
    .ok (some ⟨moved, scaled, turned⟩)
  | _ => .error (invalidField (inside context name))

/-- The years between the first and the last epoch of a product. -/
structure EpochSpan where
  first : Double
  last : Double
  nonneg : 0 ≤ first.exact_
  ordered : first.exact_ ≤ last.exact_
  bounded : last.exact_ < 10000

/-- `optional_epoch_span`, with the span. -/
def optionalEpochSpan (value field : Value) : Except Refusal (Option EpochSpan) :=
  match value with
  | .atom "nil" => .ok none
  | .list [first, last] => do
    let first ← finiteFloat first field
    let last ← finiteFloat last field
    if within : (0 ≤ first.exact_ ∧ first.exact_ < 10000 ∧ 0 ≤ last.exact_ ∧ last.exact_ < 10000) ∧
        first.exact_ ≤ last.exact_ then
      .ok (some ⟨first, last, within.1.1, within.2, within.1.2.2.2⟩)
    else .error (invalidField field)
  | _ => .error (invalidField field)

end Transforms

section Model

/-- A reconciliation: a source but the first, the two labels, and what its method states. -/
structure Reconciliation (n : Nat) where
  source : Fin n
  nonreference : 0 < source.val
  sourceLabel : Label
  targetLabel : Label
  labels : sourceLabel ≠ targetLabel
  method : ReconciliationMethod
  assertedLabelSet : Option LabelSet
  sourceFrame : Option Frame
  targetFrame : Option Frame
  catalogSourceFrame : Option Frame
  catalogTargetFrame : Option Frame
  catalogInverse : Bool
  referenceEpochYear : Option Double
  parameters : Option Transform
  rates : Option Transform
  provenance : Option Binary
  epochYearSpan : Option EpochSpan
  recordsAffected : Int
  identity : Bool

/-- A transform of the catalog. -/
structure CatalogEntry where
  referenceEpochYear : Double
  parameters : Transform
  rates : Transform
  provenance : Binary

/-- `nonreference_source_index`, with the index. -/
def nonreferenceSourceIndex (n : Nat) (value field : Value) :
    Except Refusal {source : Fin n // 0 < source.val} :=
  match sourceIndex? n value with
  | some source => if other : 0 < source.val then .ok ⟨source, other⟩ else .error (invalidField field)
  | none => .error (invalidField field)

/-- `trimmed_nonempty_binary`, with the label. -/
def trimmedNonemptyBinary (value field : Value) : Except Refusal Label :=
  match persistedLabel? value with
  | some label => .ok label
  | none => .error (invalidField field)

/-- `optional_label_set`, with the set. -/
def optionalLabelSet (value field : Value) : Except Refusal (Option LabelSet) :=
  match value with
  | .atom "nil" => .ok none
  | value =>
    match persistedLabelSet? value with
    | some set => .ok (some set)
    | none => .error (invalidField field)

/-- The fields of a reconciliation. -/
def reconciliationFields : List String :=
  ["source_index", "source_label", "target_label", "method", "asserted_label_set", "source_frame",
    "target_frame", "catalog_source_frame", "catalog_target_frame", "catalog_inverse",
    "reference_epoch_year", "parameters", "rates", "provenance", "epoch_year_span",
    "records_affected", "identity"]

/-- `verify_frame_reconciliation`. -/
def verifyFrameReconciliation (n index : Nat) (reconciliation : Value) :
    Except Refusal (Reconciliation n) := do
  let context := contextAt "frame_reconciliation" index
  let field := inside context
  let values ← exactFields reconciliation reconciliationFields context
  let source ← nonreferenceSourceIndex n (values.get "source_index") (field "source_index")
  let sourceLabel ← trimmedNonemptyBinary (values.get "source_label") (field "source_label")
  let targetLabel ← trimmedNonemptyBinary (values.get "target_label") (field "target_label")
  if labels : sourceLabel ≠ targetLabel then
    let method ← reconciliationMethod (values.get "method") (field "method")
    let assertedLabelSet ←
      optionalLabelSet (values.get "asserted_label_set") (field "asserted_label_set")
    let frame := fun name => optionalTerrestrialFrame (values.get name) (field name)
    let sourceFrame ← frame "source_frame"
    let targetFrame ← frame "target_frame"
    let catalogSourceFrame ← frame "catalog_source_frame"
    let catalogTargetFrame ← frame "catalog_target_frame"
    let catalogInverse ← booleanField (values.get "catalog_inverse") (field "catalog_inverse")
    let referenceEpochYear ←
      optionalFiniteFloat (values.get "reference_epoch_year") (field "reference_epoch_year")
    let parameters ← persistedTransform (values.get "parameters") .parameters context
    let rates ← persistedTransform (values.get "rates") .rates context
    let provenance ← optionalBinary (values.get "provenance") (field "provenance")
    let epochYearSpan ← optionalEpochSpan (values.get "epoch_year_span") (field "epoch_year_span")
    let recordsAffected ←
      nonnegativeInteger (values.get "records_affected") (field "records_affected")
    let identity ← booleanField (values.get "identity") (field "identity")
    .ok { source, nonreference := source.property, sourceLabel, targetLabel, labels, method,
          assertedLabelSet, sourceFrame, targetFrame, catalogSourceFrame, catalogTargetFrame,
          catalogInverse, referenceEpochYear, parameters, rates, provenance, epochYearSpan,
          recordsAffected, identity }
  else .error (invalidField (field "labels"))

/-- `verify_frame_reconciliations`. -/
def verifyFrameReconciliations (n : Nat) (reconciliations : Value) :
    Except Refusal (List (Reconciliation n)) :=
  match reconciliations with
  | .list items => do
    let verified ← checkEach (verifyFrameReconciliation n) 0 items
    ensure (strictlyAscending (verified.map fun value => value.source.val) = true)
      (invalidField (.atom "frame_reconciliations"))
    .ok verified
  | _ => .error (invalidField (.atom "frame_reconciliations"))

variable {n : Nat} (policy : Policy) (catalog : Frame → Frame → Except Refusal CatalogEntry)

/-- A set that has both labels. -/
def Reconciliation.assertedBy (value : Reconciliation n) (set : LabelSet) : Bool :=
  decide (value.sourceLabel ∈ set.labels ∧ value.targetLabel ∈ set.labels)

/-- What only a transform states is left out. -/
def Reconciliation.plain (value : Reconciliation n) : Bool :=
  value.sourceFrame.isNone && value.targetFrame.isNone && value.catalogSourceFrame.isNone &&
    value.catalogTargetFrame.isNone && value.referenceEpochYear.isNone &&
    value.parameters.isNone && value.rates.isNone && value.provenance.isNone &&
    value.epochYearSpan.isNone

/-- What only the catalog states is left out. -/
def Reconciliation.uncataloged (value : Reconciliation n) : Bool :=
  value.catalogSourceFrame.isNone && value.catalogTargetFrame.isNone &&
    value.referenceEpochYear.isNone && value.parameters.isNone && value.rates.isNone &&
    value.provenance.isNone

/-- `verify_frame_reconciliation_method` of an equivalence that was asserted. -/
def verifyAssertedEquivalence (value : Reconciliation n) : Except Refusal Unit :=
  ensure (∃ set ∈ value.assertedLabelSet, value.assertedBy set = true ∧
      policy.assertedFrameLabelSets.sets.find? value.assertedBy = some set ∧ value.plain = true ∧
      value.catalogInverse = false ∧ value.identity = true)
    (.atom "invalid_asserted_frame_reconciliation")

/-- A part of what the catalog has that a reconciliation states. -/
def stated {α : Type} (same : α → α → Bool) (given : Option α) (cataloged : α) : Bool :=
  match given with
  | some value => same value cataloged
  | none => false

/-- `verify_helmert_catalog`. -/
def verifyHelmertCatalog (value : Reconciliation n) (source target : Frame) :
    Except Refusal Unit :=
  if value.identity = true then
    ensure (value.catalogInverse = false ∧ value.uncataloged = true)
      (.atom "invalid_identity_helmert_catalog")
  else do
    let (first, second) := if value.catalogInverse then (target, source) else (source, target)
    ensure (value.catalogSourceFrame = some first ∧ value.catalogTargetFrame = some second)
      (.atom "invalid_helmert_catalog_orientation")
    let entry ← catalog first second
    ensure (stated sameDouble value.referenceEpochYear entry.referenceEpochYear = true ∧
        stated Transform.same value.parameters entry.parameters = true ∧
        stated Transform.same value.rates entry.rates = true ∧
        value.provenance = some entry.provenance) (.atom "invalid_helmert_catalog")

/-- `verify_frame_reconciliation_method` of a transform. -/
def verifyHelmert (value : Reconciliation n) : Except Refusal Unit := do
  ensure (policy.helmert = true) (.atom "helmert_frame_reconciliation_not_enabled")
  ensure (policy.assertedFrameLabelSets.sets.any value.assertedBy = false)
    (.atom "helmert_frame_reconciliation_preempted")
  match sp3FrameForLabel value.sourceLabel, sp3FrameForLabel value.targetLabel with
  | none, _ => .error (.atom "invalid_source_frame")
  | some source, target => do
    ensure (value.sourceFrame = some source) (.atom "invalid_source_frame")
    match target with
    | none => .error (.atom "invalid_target_frame")
    | some target => do
      ensure (value.targetFrame = some target) (.atom "invalid_target_frame")
      ensure (value.assertedLabelSet = none) (.atom "invalid_helmert_frame_reconciliation")
      ensure (value.identity = decide (source = target)) (.atom "invalid_helmert_identity")
      ensure (value.recordsAffected = 0 ∨ value.epochYearSpan.isSome = true)
        (.atom "missing_helmert_epoch_span")
      verifyHelmertCatalog catalog value source target

/-- `verify_frame_reconciliation_method`. -/
def verifyFrameReconciliationMethod (value : Reconciliation n) : Except Refusal Unit :=
  match value.method with
  | .assertedEquivalence => verifyAssertedEquivalence policy value
  | .helmert => verifyHelmert policy catalog value

/-- `verify_frame_reconciliation_consistency`. -/
def verifyFrameReconciliationConsistency (reconciliations : List (Reconciliation n)) :
    Except Refusal Unit := do
  ensure ((uniq (reconciliations.map Reconciliation.targetLabel)).length ≤ 1)
    (.atom "frame_reconciliation_target_mismatch")
  reconciliations.forM (verifyFrameReconciliationMethod policy catalog)

/-- The checks of reconciliations in a merge result. -/
def verifyFrames (n : Nat) (reconciliations : Value) (policy : Policy) : Except Refusal Unit := do
  let reconciliations ← verifyFrameReconciliations n reconciliations
  verifyFrameReconciliationConsistency policy catalog reconciliations

/-- The checks of a merge result, with those of its frame reconciliations. -/
def ResultChecks.withFrames (result : ResultChecks) : ResultChecks :=
  { result with frames := verifyFrames catalog }

end Model

end Sidereon.MergeReport
