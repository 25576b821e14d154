import Sidereon.MergeReport.Layout

/-!
# Coherence of frame reconciliations

The reconciliations of a report that passes are coherent. They bring different sources to one label,
which no source but the first has to begin with; whether two labels were asserted to be equivalent or
a transform was applied is decided by the policy alone; and a transform is the one that the catalog
has of the frames that the labels name. So the sources of one label were all treated alike.
-/

namespace Sidereon.MergeReport

open Foundation Sidereon.Distribution
open MergePolicy (Double Failure OrbitClass Policy LabelSet Label Named ofBool optional)

section Statements

variable {n : Nat}

/-- What an item of a report states of a reconciliation. -/
structure StatesReconciliation (item : Value) (value : Reconciliation n) : Prop where
  source : item.field? "source_index" = some (.int value.source)
  sourceLabel : item.field? "source_label" = some value.sourceLabel.toValue
  targetLabel : item.field? "target_label" = some value.targetLabel.toValue
  method : ∃ named, item.field? "method" = some named ∧
    labelString named = some (ascii value.method.name)
  catalogInverse : item.field? "catalog_inverse" = some (ofBool value.catalogInverse)
  parameters : ∃ stated context, item.field? "parameters" = some stated ∧
    persistedTransform stated .parameters context = .ok value.parameters
  rates : ∃ stated context, item.field? "rates" = some stated ∧
    persistedTransform stated .rates context = .ok value.rates
  identity : item.field? "identity" = some (ofBool value.identity)

variable (policy : Policy) (catalog : Frame → Frame → Except Refusal CatalogEntry)

/-- The first set of the policy that has both labels of a reconciliation. -/
def Reconciliation.set? (value : Reconciliation n) : Option LabelSet :=
  policy.assertedFrameLabelSets.sets.find? value.assertedBy

/-- Two transforms, or none, are one. -/
def sameTransform (own other : Option Transform) : Prop :=
  Option.Rel (fun own other => own.same other = true) own other

/-- A transform between the frames of two labels: of one frame it is none, of two frames it is the
one that the catalog has of them, in the order of the catalog. -/
structure Transforms (value : Reconciliation n) (source target : Frame) : Prop where
  sourceFrame : sp3FrameForLabel value.sourceLabel = some source
  targetFrame : sp3FrameForLabel value.targetLabel = some target
  stated : value.sourceFrame = some source ∧ value.targetFrame = some target
  unasserted : value.assertedLabelSet = none
  identity : value.identity = decide (source = target)
  plain : source = target → value.parameters = none ∧ value.rates = none ∧
    value.provenance = none ∧ value.catalogInverse = false
  cataloged : source ≠ target → ∃ entry,
    (if value.catalogInverse then catalog target source else catalog source target) = .ok entry ∧
      sameTransform value.parameters (some entry.parameters) ∧
      sameTransform value.rates (some entry.rates) ∧ value.provenance = some entry.provenance

/-- A reconciliation is what the policy asks for. -/
inductive Reconciled (value : Reconciliation n) : Prop where
  | asserted (set : LabelSet) (method : value.method = .assertedEquivalence)
      (first : value.set? policy = some set) (stated : value.assertedLabelSet = some set)
      (plain : value.plain = true) (identity : value.identity = true)
      (forward : value.catalogInverse = false)
  | transformed (source target : Frame) (method : value.method = .helmert)
      (enabled : policy.helmert = true) (unasserted : value.set? policy = none)
      (transforms : Transforms catalog value source target)

/-- Two reconciliations of a label treat it alike. -/
structure TreatedAlike (first second : Reconciliation n) : Prop where
  method : first.method = second.method
  assertedLabelSet : first.assertedLabelSet = second.assertedLabelSet
  sourceFrame : first.sourceFrame = second.sourceFrame
  targetFrame : first.targetFrame = second.targetFrame
  identity : first.identity = second.identity
  transform : first.catalogInverse = second.catalogInverse →
    sameTransform first.parameters second.parameters ∧ sameTransform first.rates second.rates ∧
      first.provenance = second.provenance

/-- Reconciliations are coherent: they are of different sources but the first, in order, and of one
target; each is what the policy asks for, and those of one label are alike. -/
structure Coherent (values : List (Reconciliation n)) : Prop where
  ascending : values.Pairwise fun first second => first.source < second.source
  nonreference : ∀ value ∈ values, 0 < value.source.val
  oneTarget : ∀ first ∈ values, ∀ second ∈ values, first.targetLabel = second.targetLabel
  moved : ∀ value ∈ values, ∀ other ∈ values, value.sourceLabel ≠ other.targetLabel
  reconciled : ∀ value ∈ values, Reconciled policy catalog value
  alike : ∀ first ∈ values, ∀ second ∈ values, first.sourceLabel = second.sourceLabel →
    TreatedAlike first second

end Statements

section Reading

variable {n : Nat}

theorem booleanField_ofBool {value field : Value} {read : Bool}
    (passed : booleanField value field = .ok read) : value = ofBool read := by
  unfold booleanField at passed
  split at passed
  · cases passed
    rfl
  · cases passed
    rfl
  · cases passed

theorem trimmedNonemptyBinary_toValue {value field : Value} {label : Label}
    (passed : trimmedNonemptyBinary value field = .ok label) : value = label.toValue := by
  unfold trimmedNonemptyBinary MergePolicy.persistedLabel? at passed
  split at passed
  · next found =>
    split at found
    · split at found
      · cases found
        cases passed
        rfl
      · cases found
    · cases found
  · cases passed

theorem nonreferenceSourceIndex_int {value field : Value} {source : {source : Fin n // 0 < source.val}}
    (passed : nonreferenceSourceIndex n value field = .ok source) : value = .int source.val := by
  unfold nonreferenceSourceIndex at passed
  split at passed
  · next found =>
    split at passed
    · cases passed
      exact sourceIndex?_int found
    · cases passed
  · cases passed

theorem reconciliationMethod_named {value field : Value} {method : ReconciliationMethod}
    (passed : reconciliationMethod value field = .ok method) :
    labelString value = some (ascii method.name) := by
  unfold reconciliationMethod MergePolicy.persistedNamed at passed
  split at passed
  · next found =>
    cases passed
    have either := List.find?_some found
    cases value with
    | atom name =>
      have same : name = Named.name method := by simpa [Value.isAtom, Value.isText] using either
      rw [labelString, same]
      cases method <;> rfl
    | text bytes =>
      have same : bytes = ascii (Named.name method) := by
        simpa [Value.isAtom, Value.isText] using either
      rw [labelString, same]
      rfl
    | number | list | map | tuple => cases either
  · cases passed

theorem verifyFrameReconciliation_stated {index : Nat} {item : Value} {value : Reconciliation n}
    (read : verifyFrameReconciliation n index item = .ok value) :
    StatesReconciliation item value := by
  obtain ⟨values, fields, rest⟩ := bind_ok.mp read
  obtain ⟨source, sourced, rest⟩ := bind_ok.mp rest
  obtain ⟨sourceLabel, labeled, rest⟩ := bind_ok.mp rest
  obtain ⟨targetLabel, targeted, rest⟩ := bind_ok.mp rest
  have field : ∀ {name}, name ∈ reconciliationFields → item.field? name = some (values.get name) :=
    fun asked => (exactFields_get fields asked).1
  split at rest
  · obtain ⟨method, named, rest⟩ := bind_ok.mp rest
    obtain ⟨_, _, rest⟩ := bind_ok.mp rest
    obtain ⟨_, _, rest⟩ := bind_ok.mp rest
    obtain ⟨_, _, rest⟩ := bind_ok.mp rest
    obtain ⟨_, _, rest⟩ := bind_ok.mp rest
    obtain ⟨_, _, rest⟩ := bind_ok.mp rest
    obtain ⟨inverse, inverted, rest⟩ := bind_ok.mp rest
    obtain ⟨_, _, rest⟩ := bind_ok.mp rest
    obtain ⟨_, moved, rest⟩ := bind_ok.mp rest
    obtain ⟨_, rated, rest⟩ := bind_ok.mp rest
    obtain ⟨_, _, rest⟩ := bind_ok.mp rest
    obtain ⟨_, _, rest⟩ := bind_ok.mp rest
    obtain ⟨_, _, rest⟩ := bind_ok.mp rest
    obtain ⟨identity, identified, same⟩ := bind_ok.mp rest
    cases same
    constructor
    · rw [field (by decide), nonreferenceSourceIndex_int sourced]
    · rw [field (by decide), trimmedNonemptyBinary_toValue labeled]
    · rw [field (by decide), trimmedNonemptyBinary_toValue targeted]
    · exact ⟨_, field (by decide), reconciliationMethod_named named⟩
    · rw [field (by decide), booleanField_ofBool inverted]
    · exact ⟨_, _, field (by decide), moved⟩
    · exact ⟨_, _, field (by decide), rated⟩
    · rw [field (by decide), booleanField_ofBool identified]
  · cases rest

theorem verifyFrameReconciliations_stated {reconciliations : Value}
    {values : List (Reconciliation n)}
    (read : verifyFrameReconciliations n reconciliations = .ok values) :
    ∃ items, reconciliations = .list items ∧ List.Forall₂ StatesReconciliation items values ∧
      values.Pairwise fun first second => first.source < second.source := by
  unfold verifyFrameReconciliations at read
  split at read
  · next items =>
    obtain ⟨verified, checked, rest⟩ := bind_ok.mp read
    obtain ⟨_, ascending, same⟩ := bind_ok.mp rest
    cases same
    have ordered := List.pairwise_map.mp (pairwise_of_strictlyAscending (ensure_ok.mp ascending))
    exact ⟨items, rfl, checkEach_imp checked fun _ _ _ => verifyFrameReconciliation_stated, ordered⟩
  · cases read

end Reading

section Methods

variable {n : Nat} {policy : Policy} {catalog : Frame → Frame → Except Refusal CatalogEntry}
variable {value : Reconciliation n}

theorem verifyAssertedEquivalence_reconciled (method : value.method = .assertedEquivalence)
    (passed : verifyAssertedEquivalence policy value = .ok ()) :
    Reconciled policy catalog value := by
  obtain ⟨set, stated, _, first, plain, forward, identity⟩ := ensure_ok.mp passed
  exact .asserted set method first stated plain identity forward

/-- What the catalog is stated to have is what it has. -/
theorem sameTransform_of_stated {given : Option Transform} {cataloged : Transform}
    (same : stated Transform.same given cataloged = true) :
    sameTransform given (some cataloged) := by
  cases given with
  | none => cases same
  | some own => exact .some same

/-- A transform of one frame into itself states nothing of the catalog, and one of two frames states
what the catalog has. -/
theorem verifyHelmertCatalog_ok {source target : Frame}
    (identity : value.identity = decide (source = target))
    (passed : verifyHelmertCatalog catalog value source target = .ok ()) :
    (source = target → value.parameters = none ∧ value.rates = none ∧ value.provenance = none ∧
      value.catalogInverse = false) ∧
    (source ≠ target → ∃ entry,
      (if value.catalogInverse then catalog target source else catalog source target) = .ok entry ∧
        sameTransform value.parameters (some entry.parameters) ∧
        sameTransform value.rates (some entry.rates) ∧
        value.provenance = some entry.provenance) := by
  unfold verifyHelmertCatalog at passed
  by_cases same : source = target
  · rw [if_pos (by rw [identity, decide_eq_true same])] at passed
    obtain ⟨forward, uncataloged⟩ := ensure_ok.mp passed
    simp only [Reconciliation.uncataloged, Bool.and_eq_true, Option.isNone_iff_eq_none]
      at uncataloged
    obtain ⟨⟨⟨⟨_, _⟩, parameters⟩, rates⟩, provenance⟩ := uncataloged
    exact ⟨fun _ => ⟨parameters, rates, provenance, forward⟩, fun other => absurd same other⟩
  · rw [if_neg (by rw [identity, decide_eq_false same]; exact Bool.false_ne_true)] at passed
    refine ⟨fun equal => absurd equal same, fun _ => ?_⟩
    obtain ⟨_, _, rest⟩ := bind_ok.mp passed
    obtain ⟨entry, listed, rest⟩ := bind_ok.mp rest
    obtain ⟨_, parameters, rates, provenance⟩ := ensure_ok.mp rest
    refine ⟨entry, ?_, sameTransform_of_stated parameters, sameTransform_of_stated rates, provenance⟩
    cases inverse : value.catalogInverse with
    | false =>
      rw [inverse] at listed
      exact listed
    | true =>
      rw [inverse] at listed
      exact listed

theorem verifyHelmert_reconciled (method : value.method = .helmert)
    (passed : verifyHelmert policy catalog value = .ok ()) : Reconciled policy catalog value := by
  obtain ⟨_, enabled, rest⟩ := bind_ok.mp passed
  obtain ⟨_, preempted, rest⟩ := bind_ok.mp rest
  have unasserted : value.set? policy = none := by
    rw [Reconciliation.set?, List.find?_eq_none]
    intro set member has
    have none := ensure_ok.mp preempted
    rw [List.any_eq_false] at none
    exact none set member has
  split at rest
  · cases rest
  · next source framed =>
    obtain ⟨_, sourceFrame, rest⟩ := bind_ok.mp rest
    split at rest
    · cases rest
    · next target targeted =>
      obtain ⟨_, targetFrame, rest⟩ := bind_ok.mp rest
      obtain ⟨_, unstated, rest⟩ := bind_ok.mp rest
      obtain ⟨_, identified, rest⟩ := bind_ok.mp rest
      obtain ⟨_, _, rest⟩ := bind_ok.mp rest
      have identity := ensure_ok.mp identified
      obtain ⟨plain, cataloged⟩ := verifyHelmertCatalog_ok identity rest
      exact .transformed source target method (ensure_ok.mp enabled) unasserted
        { sourceFrame := framed
          targetFrame := targeted
          stated := ⟨ensure_ok.mp sourceFrame, ensure_ok.mp targetFrame⟩
          unasserted := ensure_ok.mp unstated
          identity, plain, cataloged }

theorem verifyFrameReconciliationMethod_reconciled
    (passed : verifyFrameReconciliationMethod policy catalog value = .ok ()) :
    Reconciled policy catalog value := by
  unfold verifyFrameReconciliationMethod at passed
  split at passed
  · next method => exact verifyAssertedEquivalence_reconciled method passed
  · next method => exact verifyHelmert_reconciled method passed

end Methods

section Alike

variable {n : Nat} {policy : Policy} {catalog : Frame → Frame → Except Refusal CatalogEntry}
variable {first second : Reconciliation n}

theorem Transform.same_of_both {own other cataloged : Transform}
    (left : own.same cataloged = true) (right : other.same cataloged = true) :
    own.same other = true := by
  simp only [Transform.same, FloatVector.same, sameDouble, Bool.and_eq_true, beq_iff_eq]
    at left right ⊢
  simp only [left, right, and_self]

theorem sameTransform_of_both {own other : Option Transform} {cataloged : Transform}
    (left : sameTransform own (some cataloged)) (right : sameTransform other (some cataloged)) :
    sameTransform own other := by
  cases left with
  | some left =>
    cases right with
    | some right => exact .some (Transform.same_of_both left right)

/-- The first set of the policy is that of the labels. -/
theorem set?_congr (sources : first.sourceLabel = second.sourceLabel)
    (targets : first.targetLabel = second.targetLabel) :
    first.set? policy = second.set? policy := by
  have asserts : first.assertedBy = second.assertedBy := by
    funext set
    rw [Reconciliation.assertedBy, sources, targets]
    rfl
  rw [Reconciliation.set?, asserts]
  rfl

/-- A plain reconciliation has no frames and no transform. -/
theorem plain_nothing {value : Reconciliation n} (plain : value.plain = true) :
    value.sourceFrame = none ∧ value.targetFrame = none ∧ value.parameters = none ∧
      value.rates = none ∧ value.provenance = none := by
  simp only [Reconciliation.plain, Bool.and_eq_true, Option.isNone_iff_eq_none] at plain
  obtain ⟨⟨⟨⟨⟨⟨⟨⟨source, target⟩, _⟩, _⟩, _⟩, parameters⟩, rates⟩, provenance⟩, _⟩ := plain
  exact ⟨source, target, parameters, rates, provenance⟩

/-- Transforms between the same frames, read in the same order, are one. -/
theorem Transforms.alike {source target : Frame} (own : Transforms catalog first source target)
    (other : Transforms catalog second source target)
    (order : first.catalogInverse = second.catalogInverse) :
    sameTransform first.parameters second.parameters ∧ sameTransform first.rates second.rates ∧
      first.provenance = second.provenance := by
  by_cases same : source = target
  · obtain ⟨parameters, rates, provenance, _⟩ := own.plain same
    obtain ⟨parameters', rates', provenance', _⟩ := other.plain same
    rw [parameters, rates, provenance, parameters', rates', provenance']
    exact ⟨.none, .none, rfl⟩
  · obtain ⟨entry, listed, parameters, rates, provenance⟩ := own.cataloged same
    obtain ⟨entry', listed', parameters', rates', provenance'⟩ := other.cataloged same
    rw [order, listed', Except.ok.injEq] at listed
    subst listed
    exact ⟨sameTransform_of_both parameters parameters', sameTransform_of_both rates rates',
      provenance.trans provenance'.symm⟩

/-- What the policy asks for is decided by the labels. -/
theorem Reconciled.alike (own : Reconciled policy catalog first)
    (other : Reconciled policy catalog second) (sources : first.sourceLabel = second.sourceLabel)
    (targets : first.targetLabel = second.targetLabel) : TreatedAlike first second := by
  have sets : first.set? policy = second.set? policy := set?_congr sources targets
  cases own with
  | asserted set method found stated plain identity _ =>
    cases other with
    | asserted set' method' found' stated' plain' identity' _ =>
      have same : set = set' := Option.some_inj.mp (found.symm.trans (sets.trans found'))
      obtain ⟨source, target, parameters, rates, provenance⟩ := plain_nothing plain
      obtain ⟨source', target', parameters', rates', provenance'⟩ := plain_nothing plain'
      constructor
      · rw [method, method']
      · rw [stated, stated', same]
      · rw [source, source']
      · rw [target, target']
      · rw [identity, identity']
      · rw [parameters, rates, provenance, parameters', rates', provenance']
        exact fun _ => ⟨.none, .none, rfl⟩
    | transformed _ _ _ _ unasserted _ =>
      rw [sets, unasserted] at found
      cases found
  | transformed source target method _ unasserted transforms =>
    cases other with
    | asserted _ _ found _ _ _ _ =>
      rw [sets, found] at unasserted
      cases unasserted
    | transformed source' target' method' _ _ transforms' =>
      have oneSource : source = source' := Option.some_inj.mp
        (transforms.sourceFrame.symm.trans (sources ▸ transforms'.sourceFrame))
      have oneTarget : target = target' := Option.some_inj.mp
        (transforms.targetFrame.symm.trans (targets ▸ transforms'.targetFrame))
      subst oneSource oneTarget
      constructor
      · rw [method, method']
      · rw [transforms.unasserted, transforms'.unasserted]
      · rw [transforms.stated.1, transforms'.stated.1]
      · rw [transforms.stated.2, transforms'.stated.2]
      · rw [transforms.identity, transforms'.identity]
      · exact transforms.alike transforms'

/-- A list of one item at most has no two. -/
theorem eq_of_short {α : Type} {items : List α} {x y : α} (short : items.length ≤ 1)
    (member : x ∈ items) (member' : y ∈ items) : x = y := by
  match items, short with
  | [item], _ => rw [List.mem_singleton.mp member, List.mem_singleton.mp member']

/-- Reconciliations that pass are coherent. -/
theorem verifyFrames_coherent {reconciliations : Value}
    (verified : verifyFrames catalog n reconciliations policy = .ok ()) :
    ∃ items values, reconciliations = .list items ∧
      List.Forall₂ StatesReconciliation items values ∧ Coherent (n := n) policy catalog values := by
  obtain ⟨values, read, rest⟩ := bind_ok.mp verified
  obtain ⟨_, targets, methods⟩ := bind_ok.mp rest
  obtain ⟨items, listed, stated, ascending⟩ := verifyFrameReconciliations_stated read
  have oneTarget : ∀ first ∈ values, ∀ second ∈ values,
      first.targetLabel = second.targetLabel := by
    intro first member second member'
    exact eq_of_short (ensure_ok.mp targets)
      (mem_uniq.mpr (List.mem_map.mpr ⟨first, member, rfl⟩))
      (mem_uniq.mpr (List.mem_map.mpr ⟨second, member', rfl⟩))
  have reconciled : ∀ value ∈ values, Reconciled policy catalog value :=
    fun value member => verifyFrameReconciliationMethod_reconciled (forM_ok methods value member)
  exact ⟨items, values, listed, stated,
    { ascending
      nonreference := fun value _ => value.nonreference
      oneTarget
      moved := fun value member other member' same =>
        value.labels (same.trans (oneTarget other member' value member))
      reconciled
      alike := fun first member second member' sources =>
        (reconciled first member).alike (reconciled second member') sources
          (oneTarget first member second member') }⟩

end Alike

section Verification

/-- The policy that verification reads in a report. -/
def ReadsPolicy (report : Value) (policy : Policy) : Prop :=
  ∃ (schemaVersion : Nat) (written laid : Value) (read : ReadPolicy),
    report.field? "schema_version" = some (.int schemaVersion) ∧
      report.field? "merge_policy" = some written ∧
      (if schemaVersion < 3 then .ok written
        else (MergePolicy.sharedPolicy written).map Record.toValue) = .ok laid ∧
      persistedPolicy laid schemaVersion = .ok read ∧ read.policy = policy

/-- A report states its sources, its policy and its reconciliations. -/
structure StatesFrames {n : Nat} (report : Value) (policy : Policy)
    (values : List (Reconciliation n)) : Prop where
  sources : report.path? ["source_count"] = some (.int n)
  policy : ReadsPolicy report policy
  reconciliations : ∃ items,
    report.path? ["merge_report", "frame_reconciliations"] = some (.list items) ∧
      List.Forall₂ StatesReconciliation items values

variable {core : ReportCore} {inspect : Value → Binary}
variable {catalog : Frame → Frame → Except Refusal CatalogEntry}
variable {speedBound : OrbitClass → Option Double} {offsetAt : Float → Option Float}
variable {offsets : OffsetSyntax}

/-- The policy that is read from the layout of a report is the one it states. -/
theorem readsPolicy_of_layout {report : Value} {values : Record} {schemaVersion : Nat}
    {contributors layout : List Value} {laid : Value} {policy : ReadPolicy}
    (fields : exactFields report reportFields (.atom "report") = .ok values)
    (version : persistedSchemaVersion (values.get "schema_version") = .ok schemaVersion)
    (laidOut : persistedLayout (reportChecks core inspect catalog speedBound offsetAt offsets) offsets
      contributors (values.get "merge_policy") schemaVersion = .ok (layout, laid))
    (read : persistedPolicy laid schemaVersion = .ok policy) : ReadsPolicy report policy.policy := by
  refine ⟨schemaVersion, _, laid, policy, ?_, (exactFields_get fields (by decide)).1, ?_, read, rfl⟩
  · rw [(exactFields_get fields (by decide)).1, persistedSchemaVersion_int version]
  · unfold persistedLayout at laidOut
    split at laidOut
    · next early =>
      cases laidOut
      rw [if_pos early]
    · next late =>
      obtain ⟨_, _, rest⟩ := bind_ok.mp laidOut
      obtain ⟨_, shared, same⟩ := bind_ok.mp rest
      cases same
      rw [if_neg late]
      exact shared

/-- A report that is verified has the policy and the merge result that are. -/
theorem verifyReport_result {report : Value}
    (verified : verifyReport core inspect catalog speedBound offsetAt offsets report = .ok ()) :
    ∃ merged n policy schemaVersion, report.field? "merge_report" = some merged ∧
      report.field? "source_count" = some (.int (n : Nat)) ∧ ReadsPolicy report policy ∧
      verifyMergeResult (resultChecks catalog speedBound offsetAt) merged n policy schemaVersion =
        .ok () := by
  obtain ⟨values, fields, rest⟩ := bind_ok.mp verified
  obtain ⟨schemaVersion, version, rest⟩ := bind_ok.mp rest
  obtain ⟨_, _, rest⟩ := bind_ok.mp rest
  obtain ⟨⟨_, laid⟩, layout, rest⟩ := bind_ok.mp rest
  obtain ⟨_, _, rest⟩ := bind_ok.mp rest
  obtain ⟨⟨artifacts, _⟩, _, rest⟩ := bind_ok.mp rest
  obtain ⟨policy, read, rest⟩ := bind_ok.mp rest
  obtain ⟨_, _, rest⟩ := bind_ok.mp rest
  obtain ⟨_, _, rest⟩ := bind_ok.mp rest
  obtain ⟨_, _, rest⟩ := bind_ok.mp rest
  obtain ⟨_, counts, rest⟩ := bind_ok.mp rest
  obtain ⟨_, _, rest⟩ := bind_ok.mp rest
  obtain ⟨_, _, merged⟩ := bind_ok.mp rest
  refine ⟨values.get "merge_report", artifacts.length, policy.policy, schemaVersion, ?_, ?_,
    readsPolicy_of_layout fields version layout read, merged⟩
  · exact (exactFields_get fields (by decide)).1
  · rw [(exactFields_get fields (by decide)).1, verifyReportCounts_sources counts]

/-- A policy that allows transforms. -/
def helmertPolicy : Policy := { meanPolicy with helmert := true }

/-- A transform that moves nothing. -/
def stillTransform : Transform := ⟨⟨zero, zero, zero⟩, zero, ⟨zero, zero, zero⟩⟩

/-- A catalog of one transform. -/
def oneCatalog (source target : Frame) : Except Refusal CatalogEntry :=
  if source = .itrf2014 ∧ target = .itrf2020 then
    .ok ⟨zero, stillTransform, stillTransform, ascii "catalog"⟩
  else .error (.atom "unsupported_frame")

/-- A reconciliation of the second source. -/
def helmertReconciliation : Value :=
  let zeros := Value.list [zero.toValue, zero.toValue, zero.toValue]
  Record.toValue
    [("source_index", .int 1), ("source_label", sampleText "IGb14"),
      ("target_label", sampleText "IGS20"), ("method", .atom "helmert"),
      ("asserted_label_set", .nil), ("source_frame", sampleText "ITRF2014"),
      ("target_frame", sampleText "ITRF2020"), ("catalog_source_frame", sampleText "ITRF2014"),
      ("catalog_target_frame", sampleText "ITRF2020"), ("catalog_inverse", .atom "false"),
      ("reference_epoch_year", zero.toValue),
      ("parameters", Record.toValue
        [("translation_mm", zeros), ("scale_ppb", zero.toValue), ("rotation_mas", zeros)]),
      ("rates", Record.toValue
        [("translation_mm_per_year", zeros), ("scale_ppb_per_year", zero.toValue),
          ("rotation_mas_per_year", zeros)]),
      ("provenance", sampleText "catalog"),
      ("epoch_year_span", .tuple [zero.toValue, zero.toValue]), ("records_affected", .int 1),
      ("identity", .atom "false")]

/-- The result of the sample, with that reconciliation. -/
def reconciledResult : Value :=
  match sampleResult 0 [] with
  | .map entries => .map ((.atom "frame_reconciliations", .list [helmertReconciliation]) ::
      deleteField "frame_reconciliations" entries)
  | result => result

end Verification

end Sidereon.MergeReport
