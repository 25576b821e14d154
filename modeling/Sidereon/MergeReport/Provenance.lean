import Sidereon.Foundation.Ascending
import Sidereon.Foundation.Keyed
import Sidereon.MergeReport.Agreement

/-!
# Provenance of merge results

A full provenance has an entry for each accepted cell. Verification recomputes what each source
covers and where the source of a satellite changes, in one pass over the entries of all satellites,
and compares both with what the report states. What it passes is so for each source and each
satellite by itself, however the satellites are mixed.
-/

namespace Sidereon.MergeReport

open Foundation Sidereon.Distribution
open Foundation.Beam (Number)

section Model

/-- The provenance of a cell: the selections of its position and of its clock, at least one. -/
structure Cell (n : Nat) where
  satellite : Satellite
  epoch : Split
  position : Option (Selection n)
  clock : Option (Selection n)
  stated : (position.or clock).isSome = true

namespace Cell

variable {n : Nat}

/-- `cell.position || cell.clock`. -/
def current (cell : Cell n) : Selection n := (cell.position.or cell.clock).get cell.stated

/-- The members of its position or its clock, once each. -/
def members (cell : Cell n) : List (Fin n) :=
  uniq ([cell.position, cell.clock].reduceOption.flatMap Selection.members)

theorem nodup_members (cell : Cell n) : cell.members.Nodup := nodup_uniq _

end Cell

/-- A stated transition of a satellite between sources. -/
structure Transition (n : Nat) where
  satellite : Satellite
  epoch : Split
  fromSource : Option (Fin n)
  toSource : Option (Fin n)
  reason : Binary

/-- A transition that the cells imply, with the reasons it admits. -/
structure ImpliedTransition (n : Nat) where
  satellite : Satellite
  epoch : Split
  fromSource : Option (Fin n)
  toSource : Option (Fin n)
  reasons : List String

/-- What a source covers. -/
structure Tally where
  contributed : Nat
  selected : Nat
  span : Option (Split × Split)

variable (offsetAt : Float → Option Float) (n : Nat) (combine : Value)

/-- `verify_provenance_cell`. -/
def verifyProvenanceCell (cell context : Value) : Except Refusal (Cell n) := do
  let values ← exactFields cell ["epoch", "satellite", "position", "clock"] context
  let epoch ← mergeEpochSplit offsetAt (values.get "epoch") (inside context "epoch")
  let satellite ← satelliteId (values.get "satellite") (inside context "satellite")
  let position ←
    verifyOptionalSelection n combine (values.get "position") (inside context "position")
  let clock ← verifyOptionalSelection n combine (values.get "clock") (inside context "clock")
  if stated : (position.or clock).isSome = true then .ok ⟨satellite, epoch, position, clock, stated⟩
  else .error (invalidField (inside context "selection"))

/-- The reasons of transitions. -/
def transitionReasons : List String :=
  ["sole_availability", "precedence", "outlier_rejection", "consensus_change"]

/-- `verify_provenance_transition`. -/
def verifyProvenanceTransition (transition context : Value) : Except Refusal (Transition n) := do
  let values ← exactFields transition
    ["satellite", "epoch", "from_source", "to_source", "reason"] context
  let satellite ← satelliteId (values.get "satellite") (inside context "satellite")
  let epoch ← mergeEpochSplit offsetAt (values.get "epoch") (inside context "epoch")
  let fromSource ←
    optionalSourceIndex n (values.get "from_source") (inside context "from_source")
  let toSource ← optionalSourceIndex n (values.get "to_source") (inside context "to_source")
  let reason ← omissionReason transitionReasons (values.get "reason") (inside context "reason")
  .ok ⟨satellite, epoch, fromSource, toSource, reason⟩

variable {n}

/-- The number of members of a selection, none for none. -/
def memberCount (selection : Option (Selection n)) : Nat :=
  (selection.map fun selection => selection.members.length).getD 0

/-- A cell has the satellite, the epoch and the counts of the agreement's. -/
def Cell.agrees (cell : Cell n) (agreement : AgreementCell n) : Bool :=
  cell.satellite == agreement.satellite && cell.epoch.key == agreement.epoch.key &&
    memberCount cell.position == agreement.position.members &&
    memberCount cell.clock == agreement.clock.members

/-- `verify_provenance_cells`. -/
def verifyProvenanceCells (mode : Binary) (cells : List (Cell n))
    (agreement : List (AgreementCell n)) : Except Refusal Unit :=
  let refusal : Refusal := .atom "provenance_agreement_mismatch"
  if mode = ascii "summary" ∧ cells = [] then .ok ()
  else if mode = ascii "full" ∧ cells.length = agreement.length then
    ensure ((cells.zip agreement).all (fun pair => pair.1.agrees pair.2) = true) refusal
  else .error refusal

/-- `verify_provenance_transition_cells`. -/
def verifyProvenanceTransitionCells (transitions : List (Transition n))
    (agreement : List (AgreementCell n)) : Except Refusal Unit :=
  ensure (∀ transition ∈ transitions, ∃ cell ∈ agreement,
    cell.satellite = transition.satellite ∧ cell.epoch = transition.epoch)
    (.atom "provenance_transition_mismatch")

/-- The reasons that a change admits. -/
def changeReasons (before current : Selection n) : List String :=
  match before.selected with
  | none => ["consensus_change"]
  | some source =>
    if source ∉ current.members then ["sole_availability", "outlier_rejection"]
    else if before.kind ≠ current.kind then ["consensus_change"]
    else ["precedence"]

/-- The transition at a cell, after another selection or none. -/
def transitionAt (before : Option (Selection n)) (cell : Cell n) : ImpliedTransition n :=
  ⟨cell.satellite, cell.epoch, before.bind Selection.selected, cell.current.selected,
    (before.map fun before => changeReasons before cell.current).getD ["sole_availability"]⟩

/-- Whether the source or the kind of a selection is another one. -/
def changed (before current : Selection n) : Bool :=
  before.selected != current.selected || before.kind != current.kind

/-- A step of `implied_transitions`. -/
def impliedStep (state : List (ImpliedTransition n) × (Satellite → Option (Selection n)))
    (cell : Cell n) : List (ImpliedTransition n) × (Satellite → Option (Selection n)) :=
  let (implied, previous) := state
  let before := previous cell.satellite
  let implied :=
    if before.all (fun before => changed before cell.current) = true then
      transitionAt before cell :: implied
    else implied
  (implied, Function.update previous cell.satellite (some cell.current))

/-- `implied_transitions`. -/
def impliedTransitions (cells : List (Cell n)) : List (ImpliedTransition n) :=
  (cells.foldl impliedStep ([], fun _ => none)).1.reverse

/-- A transition is as implied. -/
def Transition.restates (transition : Transition n) (implied : ImpliedTransition n) : Bool :=
  transition.satellite == implied.satellite && transition.epoch.key == implied.epoch.key &&
    transition.fromSource == implied.fromSource && transition.toSource == implied.toSource &&
    (implied.reasons.map ascii).contains transition.reason

/-- `verify_provenance_transitions`. -/
def verifyProvenanceTransitions (mode : Binary) (transitions : List (Transition n))
    (cells : List (Cell n)) : Except Refusal Unit :=
  let implied := impliedTransitions cells
  if mode = ascii "summary" then .ok ()
  else
    ensure (transitions.length = implied.length ∧
      (transitions.zip implied).all (fun pair => pair.1.restates pair.2) = true)
      (.atom "provenance_transition_mismatch")

/-- A source is a member of one more cell. -/
def Tally.contribute (epoch : Split) (tally : Tally) : Tally :=
  { tally with
    contributed := tally.contributed + 1
    span := widen Split.key tally.span epoch }

/-- A source alone supplied one more cell. -/
def Tally.select (tally : Tally) : Tally := { tally with selected := tally.selected + 1 }

/-- A step of `accumulate_coverage`. -/
def accumulateCell (tallies : Fin n → Tally) (cell : Cell n) : Fin n → Tally :=
  let tallies := cell.members.foldl (fun tallies source =>
    Function.update tallies source ((tallies source).contribute cell.epoch)) tallies
  match cell.current.selected with
  | none => tallies
  | some source => Function.update tallies source (tallies source).select

/-- `accumulate_coverage`. -/
def accumulateCoverage (cells : List (Cell n)) : Fin n → Tally :=
  cells.foldl accumulateCell fun _ => ⟨0, 0, none⟩

/-- `==` of spans. -/
def sameSpan : Option (Split × Split) → Option (Split × Split) → Bool
  | none, none => true
  | some (first, last), some (first', last') =>
    first.key == first'.key && last.key == last'.key
  | _, _ => false

/-- `==` of tallies. -/
def Tally.same (left right : Tally) : Bool :=
  left.contributed == right.contributed && left.selected == right.selected &&
    sameSpan left.span right.span

/-- `coverage_span`. -/
def coverageSpan (contributed : Nat) (values : Record) (context : Value) :
    Except Refusal (Option (Split × Split)) :=
  match contributed, values.get "first_epoch", values.get "last_epoch" with
  | 0, .atom "nil", .atom "nil" => .ok none
  | 0, _, _ => .error (invalidField (inside context "span"))
  | _, first, last => do
    let first ← mergeEpochSplit offsetAt first (inside context "first_epoch")
    let last ← mergeEpochSplit offsetAt last (inside context "last_epoch")
    ensure (first.key ≤ last.key) (invalidField (inside context "span"))
    .ok (some (first, last))

/-- `verify_coverage_entry`. -/
def verifyCoverageEntry (accepted : List Split) (acceptedCells : Nat) (index : Nat)
    (entry context : Value) : Except Refusal Tally := do
  let values ← exactFields entry
    ["source", "cells_contributed", "cells_selected", "first_epoch", "last_epoch", "cells_absent"]
    context
  exactValue (values.get "source") index (inside context "source")
  let count := fun field => nonnegativeInteger (values.get field) (inside context field)
  let contributed ← count "cells_contributed"
  let selected ← count "cells_selected"
  let absent ← count "cells_absent"
  ensure (contributed + absent = acceptedCells ∧ selected ≤ contributed)
    (invalidField (inside context "counts"))
  let span ← coverageSpan offsetAt contributed.toNat values context
  ensure (∀ ends ∈ span, ends.1 ∈ accepted ∧ ends.2 ∈ accepted)
    (invalidField (inside context "span"))
  .ok ⟨contributed.toNat, selected.toNat, span⟩

/-- The entry of a source, and under "full" its comparison. -/
def verifyCoverageOf (mode : Binary) (accepted : List Split) (acceptedCells : Nat)
    (accumulated : Fin n → Tally) (source : Fin n) (entry : Value) : Except Refusal Tally := do
  let context := contextAt "provenance_coverage" source
  let stated ← verifyCoverageEntry offsetAt accepted acceptedCells source entry context
  ensure (mode = ascii "full" → stated.same (accumulated source) = true)
    (invalidField (inside context "accumulated"))
  .ok stated

/-- `verify_provenance_coverage`. -/
def verifyProvenanceCoverage (coverage : Value) (mode : Binary) (cells : List (Cell n))
    (acceptedCells : Nat) (accepted : List Split) : Except Refusal Unit :=
  match coverage with
  | .list entries =>
    if entries.length = n then
      ((List.finRange n).zip entries).forM fun entry => discard
        (verifyCoverageOf offsetAt mode accepted acceptedCells (accumulateCoverage cells) entry.1
          entry.2)
    else .error (invalidField (.atom "provenance_coverage"))
  | _ => .error (invalidField (.atom "provenance_coverage"))

/-- `verify_merge_provenance` of what was requested. -/
def verifyProvenance (provenance : Value) (requested : Binary)
    (agreement : List (AgreementCell n)) : Except Refusal (List Split) := do
  let values ← exactFields provenance ["mode", "cells", "transitions", "coverage"]
    (.atom "provenance")
  ensure (labelString (values.get "mode") = some requested)
    (invalidField (inside (.atom "provenance") "mode"))
  let cells ← verifyList (values.get "cells") (.atom "provenance_cells")
    (verifyProvenanceCell offsetAt n combine)
  verifyProvenanceCells requested cells agreement
  let transitions ← verifyList (values.get "transitions") (.atom "provenance_transitions")
    (verifyProvenanceTransition offsetAt n)
  verifyProvenanceTransitionCells transitions agreement
  verifyProvenanceTransitions requested transitions cells
  verifyProvenanceCoverage offsetAt (values.get "coverage") requested cells agreement.length
    (agreement.map AgreementCell.epoch)
  .ok (cells.map Cell.epoch ++ transitions.map Transition.epoch)

/-- `verify_merge_provenance`. -/
def verifyMergeProvenance (provenance requested : Value) (agreement : List (AgreementCell n)) :
    Except Refusal (List Split) :=
  match provenance, requested with
  | .atom "nil", .atom "nil" => .ok []
  | .map entries, .text requested =>
    verifyProvenance offsetAt combine (.map entries) requested agreement
  | _, _ => .error (invalidField (.atom "provenance"))

end Model

section Transitions

variable {n : Nat}

/-- The source and the kind that a cell's value is from. -/
def Cell.course (cell : Cell n) : Option (Fin n) × SelectionKind :=
  (cell.current.selected, cell.current.kind)

theorem changed_iff {before current : Selection n} : changed before current = true ↔
    (before.selected, before.kind) ≠ (current.selected, current.kind) := by
  have differ : (before.selected, before.kind) ≠ (current.selected, current.kind) ↔
      before.selected ≠ current.selected ∨ before.kind ≠ current.kind := by
    rw [ne_eq, Prod.mk_inj, not_and_or]
  rw [changed, Bool.or_eq_true, bne_iff_ne, bne_iff_ne, differ]

/-- A pass over the cells implies a transition for each change of a satellite's source. -/
theorem foldl_impliedStep (cells : List (Cell n)) :
    ∀ (implied : List (ImpliedTransition n)) (latest : Satellite → Option (Cell n)),
      (cells.foldl impliedStep (implied, fun satellite => (latest satellite).map Cell.current)).1 =
        ((keyedChanges Cell.satellite Cell.course latest cells).map fun change =>
          transitionAt (change.1.map Cell.current) change.2).reverse ++ implied := by
  induction cells with
  | nil => exact fun _ _ => rfl
  | cons cell cells ih =>
    intro implied latest
    have moved : Function.update (fun satellite => (latest satellite).map Cell.current)
        cell.satellite (some cell.current) = fun satellite =>
          (Function.update latest cell.satellite (some cell) satellite).map Cell.current := by
      funext satellite
      by_cases same : satellite = cell.satellite
      · rw [same, Function.update_self, Function.update_self]
        rfl
      · rw [Function.update_of_ne same, Function.update_of_ne same]
    have opens : ((latest cell.satellite).map Cell.current).all
        (fun before => changed before cell.current) = true ↔
          ¬(latest cell.satellite).map Cell.course = some cell.course := by
      cases latest cell.satellite with
      | none => exact iff_of_true rfl nofun
      | some before =>
        rw [Option.map_some, Option.all_some, changed_iff, Option.map_some, Option.some_inj]
        exact Iff.rfl
    rw [List.foldl_cons, impliedStep, moved, ih, keyedChanges]
    by_cases same : (latest cell.satellite).map Cell.course = some cell.course
    · rw [if_pos same, if_neg (mt opens.mp (not_not.mpr same))]
    · rw [if_neg same, if_pos (opens.mpr same), List.map_cons, List.reverse_cons,
        List.append_assoc]
      rfl

theorem impliedTransitions_eq (cells : List (Cell n)) :
    impliedTransitions cells = (keyedChanges Cell.satellite Cell.course (fun _ => none) cells).map
      fun change => transitionAt (change.1.map Cell.current) change.2 := by
  have folded := foldl_impliedStep cells [] fun _ => none
  rw [List.append_nil] at folded
  have start : (fun satellite => ((fun _ : Satellite => (none : Option (Cell n))) satellite).map
      Cell.current) = fun _ => none := rfl
  rw [start] at folded
  rw [impliedTransitions, folded, List.reverse_reverse]

end Transitions

section Coverage

variable {n : Nat}

/-- What a cell adds to the tally of a source. -/
def addTo (source : Fin n) (tally : Tally) (cell : Cell n) : Tally :=
  let tally := if source ∈ cell.members then tally.contribute cell.epoch else tally
  if cell.current.selected = some source then tally.select else tally

theorem accumulateCell_apply (tallies : Fin n → Tally) (cell : Cell n) (source : Fin n) :
    accumulateCell tallies cell source = addTo source (tallies source) cell := by
  have members := foldl_update (fun tally : Tally => tally.contribute cell.epoch)
    cell.nodup_members tallies
  unfold accumulateCell addTo
  cases picked : cell.current.selected with
  | none =>
    rw [if_neg (by nofun)]
    exact members source
  | some other =>
    by_cases same : source = other
    · rw [if_pos (congrArg some same.symm), same]
      dsimp only
      rw [Function.update_self, members]
    · have differs : some other ≠ some source := fun equal => same (Option.some_inj.mp equal).symm
      rw [if_neg differs]
      dsimp only
      rw [Function.update_of_ne same, members]

/-- What all cells add to the tally of a source: a count of the cells it is a member of, their span,
and a count of the cells it alone supplied. -/
theorem foldl_addTo (source : Fin n) (cells : List (Cell n)) :
    ∀ tally : Tally, cells.foldl (addTo source) tally =
      { contributed := tally.contributed + (cells.filter (source ∈ ·.members)).length
        selected := tally.selected + (cells.filter (·.current.selected = some source)).length
        span := ((cells.filter (source ∈ ·.members)).map Cell.epoch).foldl (widen Split.key)
          tally.span } := by
  induction cells with
  | nil => exact fun _ => rfl
  | cons cell cells ih =>
    intro tally
    rw [List.foldl_cons, ih, addTo]
    by_cases member : source ∈ cell.members
    · by_cases picked : cell.current.selected = some source
      · simp [member, picked, Tally.contribute, Tally.select]
        omega
      · simp [member, picked, Tally.contribute]
        omega
    · by_cases picked : cell.current.selected = some source
      · simp [member, picked, Tally.select]
        omega
      · simp [member, picked]

theorem accumulateCoverage_apply (cells : List (Cell n)) (source : Fin n) :
    accumulateCoverage cells source =
      { contributed := (cells.filter (source ∈ ·.members)).length
        selected := (cells.filter (·.current.selected = some source)).length
        span := ((cells.filter (source ∈ ·.members)).map Cell.epoch).foldl (widen Split.key)
          none } := by
  rw [accumulateCoverage, foldl_apply accumulateCell_apply, foldl_addTo]
  simp

end Coverage

section Soundness

variable {n : Nat}

/-- What a tally and a count of absent cells say of a source is so: how many cells it is a member
of, the earliest and the latest of these, how many it alone supplied, and how many are left. -/
structure Covers (cells : List (Cell n)) (source : Fin n) (tally : Tally) (absent : Int) : Prop where
  contributed : tally.contributed = (cells.filter (source ∈ ·.members)).length
  selected : tally.selected = (cells.filter (·.current.selected = some source)).length
  absent : tally.contributed + absent = cells.length
  spanless : tally.span = none ↔ ∀ cell ∈ cells, source ∉ cell.members
  first : ∀ ends ∈ tally.span,
    IsLeast {epoch | ∃ cell ∈ cells, source ∈ cell.members ∧ cell.epoch.key = epoch} ends.1.key
  last : ∀ ends ∈ tally.span,
    IsGreatest {epoch | ∃ cell ∈ cells, source ∈ cell.members ∧ cell.epoch.key = epoch} ends.2.key

/-- A transition states a change of a satellite from one cell, or none, to another. -/
structure Restates (transition : Transition n) (change : Option (Cell n) × Cell n) : Prop where
  satellite : transition.satellite = change.2.satellite
  epoch : transition.epoch.key = change.2.epoch.key
  fromSource : transition.fromSource = change.1.bind fun before => before.current.selected
  toSource : transition.toSource = change.2.current.selected

/-- The transitions stand in the order of the cells, and those of each satellite state the changes
along its own cells: its first cell, and each later one of another source or kind. -/
structure Moves (cells : List (Cell n)) (transitions : List (Transition n)) : Prop where
  order : ∃ opened : List (Cell n), opened.Sublist cells ∧
    List.Forall₂ (fun transition cell => transition.satellite = cell.satellite ∧
      transition.epoch.key = cell.epoch.key) transitions opened
  each : ∀ satellite, List.Forall₂ Restates
    (transitions.filter fun transition => transition.satellite = satellite)
    (changes Cell.course none (cells.filter fun cell => cell.satellite = satellite))

theorem sameSpan_iff {left right : Option (Split × Split)} : sameSpan left right = true ↔
    left.map (Prod.map Split.key Split.key) = right.map (Prod.map Split.key Split.key) := by
  cases left with
  | none =>
    cases right with
    | none => exact iff_of_true rfl rfl
    | some ends => exact iff_of_false Bool.false_ne_true nofun
  | some ends =>
    cases right with
    | none => exact iff_of_false Bool.false_ne_true nofun
    | some ends' =>
      rw [sameSpan, Bool.and_eq_true, beq_iff_eq, beq_iff_eq, Option.map_some, Option.map_some,
        Option.some_inj, Prod.map_apply', Prod.map_apply', Prod.mk_inj]

/-- A tally that is compared with the accumulated one says what is so. -/
theorem covers_of_same {cells : List (Cell n)} {source : Fin n} {tally : Tally} {absent : Int}
    (same : tally.same (accumulateCoverage cells source) = true)
    (total : tally.contributed + absent = cells.length) : Covers cells source tally absent := by
  rw [Tally.same, accumulateCoverage_apply, Bool.and_eq_true, Bool.and_eq_true, beq_iff_eq,
    beq_iff_eq, sameSpan_iff] at same
  obtain ⟨⟨contributed, selected⟩, span⟩ := same
  have spans := spans_foldl Split.key ((cells.filter (source ∈ ·.members)).map Cell.epoch)
  generalize ((cells.filter (source ∈ ·.members)).map Cell.epoch).foldl (widen Split.key) none =
    found at span spans
  have inside {epoch : Split} :
      epoch ∈ (cells.filter (source ∈ ·.members)).map Cell.epoch ↔
        ∃ cell ∈ cells, source ∈ cell.members ∧ cell.epoch = epoch := by
    simp only [List.mem_map, List.mem_filter, decide_eq_true_eq, and_assoc]
  have ends {stated : Split × Split} (given : stated ∈ tally.span) : ∃ first last,
      found = some (first, last) ∧ stated.1.key = first.key ∧ stated.2.key = last.key := by
    rw [Option.mem_def.mp given, Option.map_some] at span
    obtain ⟨⟨first, last⟩, rfl, equal⟩ := Option.map_eq_some_iff.mp span.symm
    rw [Prod.map_apply, Prod.map_apply, Prod.mk_inj] at equal
    exact ⟨first, last, rfl, equal.1.symm, equal.2.symm⟩
  constructor
  · exact contributed
  · exact selected
  · exact total
  · have none_iff : tally.span = none ↔ found = none := by
      rw [← Option.map_eq_none_iff (f := Prod.map Split.key Split.key), span,
        Option.map_eq_none_iff]
    rw [none_iff]
    constructor
    · intro empty cell member takesPart
      rw [empty] at spans
      have listed := inside.mpr ⟨cell, member, takesPart, rfl⟩
      rw [spans] at listed
      cases listed
    · intro nowhere
      cases found with
      | none => rfl
      | some ends =>
        obtain ⟨cell, member, takesPart, _⟩ := inside.mp spans.1
        exact absurd takesPart (nowhere cell member)
  · intro stated given
    obtain ⟨first, last, rfl, same, _⟩ := ends given
    obtain ⟨cell, member, takesPart, equal⟩ := inside.mp spans.1
    rw [same]
    refine ⟨⟨cell, member, takesPart, congrArg Split.key equal⟩, ?_⟩
    intro epoch ⟨other, among, joins, key⟩
    rw [← key]
    exact (spans.2.2 other.epoch (inside.mpr ⟨other, among, joins, rfl⟩)).1
  · intro stated given
    obtain ⟨first, last, rfl, _, same⟩ := ends given
    obtain ⟨cell, member, takesPart, equal⟩ := inside.mp spans.2.1
    rw [same]
    refine ⟨⟨cell, member, takesPart, congrArg Split.key equal⟩, ?_⟩
    intro epoch ⟨other, among, joins, key⟩
    rw [← key]
    exact (spans.2.2 other.epoch (inside.mpr ⟨other, among, joins, rfl⟩)).2

theorem restates_of_transition {transition : Transition n} {change : Option (Cell n) × Cell n}
    (restates : transition.restates
      (transitionAt (change.1.map Cell.current) change.2) = true) : Restates transition change := by
  simp only [Transition.restates, Bool.and_eq_true, beq_iff_eq] at restates
  obtain ⟨⟨⟨⟨satellite, epoch⟩, fromSource⟩, toSource⟩, _⟩ := restates
  refine ⟨satellite, epoch, ?_, toSource⟩
  rw [fromSource, transitionAt, Option.bind_map]
  rfl

/-- Transitions that are compared with the implied ones state the changes. -/
theorem moves_of_verified {cells : List (Cell n)} {transitions : List (Transition n)}
    {mode : Binary} (full : mode = ascii "full")
    (verified : verifyProvenanceTransitions mode transitions cells = .ok ()) :
    Moves cells transitions := by
  have differs : mode ≠ ascii "summary" := by rw [full]; decide
  unfold verifyProvenanceTransitions at verified
  dsimp only at verified
  rw [if_neg differs, ensure_ok, impliedTransitions_eq] at verified
  obtain ⟨length, all⟩ := verified
  have restated : List.Forall₂ Restates transitions
      (keyedChanges Cell.satellite Cell.course (fun _ => none) cells) := by
    rw [List.forall₂_iff_zip]
    rw [List.length_map] at length
    refine ⟨length, fun {transition change} member => restates_of_transition ?_⟩
    rw [List.zip_map_right, List.all_map, List.all_eq_true] at all
    exact all (transition, change) member
  constructor
  · refine ⟨_, keyedChanges_sublist Cell.satellite Cell.course cells fun _ => none, ?_⟩
    rw [List.forall₂_map_right_iff]
    exact restated.imp fun _ _ restates => ⟨restates.satellite, restates.epoch⟩
  · intro satellite
    rw [← keyedChanges_filter Cell.satellite Cell.course satellite cells fun _ => none]
    refine List.rel_filter (fun transition change restates => ?_) restated
    change decide (transition.satellite = satellite) = true ↔
      decide (change.2.satellite = satellite) = true
    rw [restates.satellite]

end Soundness

section Reading

variable {n : Nat} {offsetAt : Float → Option Float}

variable (offsetAt) in
/-- A field of a map is read as an epoch. -/
def StatesEpochAt (value : Value) (field : String) (epoch : Split) : Prop :=
  ∃ stated, value.field? field = some stated ∧ StatesEpoch offsetAt stated epoch

variable (offsetAt) in
/-- A map states the provenance of a cell. -/
structure StatesCell (value : Value) (cell : Cell n) : Prop where
  satellite : value.field? "satellite" = some (.text cell.satellite.text)
  epoch : StatesEpochAt offsetAt value "epoch" cell.epoch
  position : ∃ stated, value.field? "position" = some stated ∧ StatesSelection stated cell.position
  clock : ∃ stated, value.field? "clock" = some stated ∧ StatesSelection stated cell.clock

variable (offsetAt) in
/-- A map states a transition. -/
structure StatesTransition (value : Value) (transition : Transition n) : Prop where
  satellite : value.field? "satellite" = some (.text transition.satellite.text)
  epoch : StatesEpochAt offsetAt value "epoch" transition.epoch
  fromSource : value.field? "from_source" = some (sourceValue transition.fromSource)
  toSource : value.field? "to_source" = some (sourceValue transition.toSource)

variable (offsetAt) in
/-- A map states the first and the last epoch of a span, or `nil` for both. -/
def StatesSpan (value : Value) : Option (Split × Split) → Prop
  | none => value.field? "first_epoch" = some .nil ∧ value.field? "last_epoch" = some .nil
  | some (first, last) =>
    StatesEpochAt offsetAt value "first_epoch" first ∧ StatesEpochAt offsetAt value "last_epoch" last

variable (offsetAt) in
/-- A map states what a source covers. -/
structure StatesCoverage (value : Value) (source : Nat) (tally : Tally) (absent : Int) : Prop where
  source : value.field? "source" = some (.int source)
  contributed : value.field? "cells_contributed" = some (.int tally.contributed)
  selected : value.field? "cells_selected" = some (.int tally.selected)
  absent : value.field? "cells_absent" = some (.int absent)
  span : StatesSpan offsetAt value tally.span

/-- A cell that is read is the one that the map states. -/
theorem verifyProvenanceCell_stated {combine value context : Value} {cell : Cell n}
    (read : verifyProvenanceCell offsetAt n combine value context = .ok cell) :
    StatesCell offsetAt value cell := by
  obtain ⟨values, fields, rest⟩ := bind_ok.mp read
  obtain ⟨epoch, split, rest⟩ := bind_ok.mp rest
  obtain ⟨satellite, identified, rest⟩ := bind_ok.mp rest
  obtain ⟨position, positioned, rest⟩ := bind_ok.mp rest
  obtain ⟨clock, clocked, rest⟩ := bind_ok.mp rest
  split at rest
  · cases rest
    constructor
    · rw [(exactFields_get fields (by decide)).1, satelliteId_text identified]
    · exact ⟨_, (exactFields_get fields (by decide)).1, _, split⟩
    · exact ⟨_, (exactFields_get fields (by decide)).1, verifyOptionalSelection_stated positioned⟩
    · exact ⟨_, (exactFields_get fields (by decide)).1, verifyOptionalSelection_stated clocked⟩
  · cases rest

/-- A transition that is read is the one that the map states. -/
theorem verifyProvenanceTransition_stated {value context : Value} {transition : Transition n}
    (read : verifyProvenanceTransition offsetAt n value context = .ok transition) :
    StatesTransition offsetAt value transition := by
  obtain ⟨values, fields, rest⟩ := bind_ok.mp read
  obtain ⟨satellite, identified, rest⟩ := bind_ok.mp rest
  obtain ⟨epoch, split, rest⟩ := bind_ok.mp rest
  obtain ⟨fromSource, left, rest⟩ := bind_ok.mp rest
  obtain ⟨toSource, right, rest⟩ := bind_ok.mp rest
  obtain ⟨_, _, same⟩ := bind_ok.mp rest
  cases same
  constructor
  · rw [(exactFields_get fields (by decide)).1, satelliteId_text identified]
  · exact ⟨_, (exactFields_get fields (by decide)).1, _, split⟩
  · rw [(exactFields_get fields (by decide)).1, optionalSourceIndex_value left]
  · rw [(exactFields_get fields (by decide)).1, optionalSourceIndex_value right]

theorem nonnegativeInteger_int {value field : Value} {count : Int}
    (read : nonnegativeInteger value field = .ok count) : value = .int count ∧ 0 ≤ count := by
  unfold nonnegativeInteger at read
  split at read
  · split at read
    · next nonneg =>
      cases read
      exact ⟨rfl, nonneg⟩
    · cases read
  · cases read

theorem exactValue_int {value field : Value} {expected : Int} {found : Unit}
    (read : exactValue value expected field = .ok found) : value = .int expected := by
  unfold exactValue at read
  split at read
  · split at read
    · next same => rw [same, Value.int]
    · cases read
  · cases read

/-- A span that is read is the one that the map states. -/
theorem coverageSpan_stated {contributed : Nat} {value context : Value} {values : Record}
    {span : Option (Split × Split)}
    (first : value.field? "first_epoch" = some (values.get "first_epoch"))
    (last : value.field? "last_epoch" = some (values.get "last_epoch"))
    (read : coverageSpan offsetAt contributed values context = .ok span) :
    StatesSpan offsetAt value span := by
  unfold coverageSpan at read
  split at read
  · next noFirst noLast =>
    cases read
    exact ⟨first.trans (congrArg some noFirst), last.trans (congrArg some noLast)⟩
  · cases read
  · obtain ⟨earliest, left, rest⟩ := bind_ok.mp read
    obtain ⟨latest, right, rest⟩ := bind_ok.mp rest
    obtain ⟨_, _, same⟩ := bind_ok.mp rest
    cases same
    exact ⟨⟨_, first, _, left⟩, ⟨_, last, _, right⟩⟩

/-- An entry that is read is the one that the map states, and is of all accepted cells. -/
theorem verifyCoverageEntry_stated {accepted : List Split} {acceptedCells index : Nat}
    {value context : Value} {tally : Tally}
    (read : verifyCoverageEntry offsetAt accepted acceptedCells index value context = .ok tally) :
    ∃ absent, StatesCoverage offsetAt value index tally absent ∧
      tally.contributed + absent = acceptedCells := by
  obtain ⟨values, fields, rest⟩ := bind_ok.mp read
  obtain ⟨_, source, rest⟩ := bind_ok.mp rest
  obtain ⟨contributed, first, rest⟩ := bind_ok.mp rest
  obtain ⟨selected, second, rest⟩ := bind_ok.mp rest
  obtain ⟨absent, third, rest⟩ := bind_ok.mp rest
  obtain ⟨_, total, rest⟩ := bind_ok.mp rest
  obtain ⟨span, spanned, rest⟩ := bind_ok.mp rest
  obtain ⟨_, _, same⟩ := bind_ok.mp rest
  cases same
  have counts := ensure_ok.mp total
  obtain ⟨firstCount, firstNonneg⟩ := nonnegativeInteger_int first
  obtain ⟨secondCount, secondNonneg⟩ := nonnegativeInteger_int second
  obtain ⟨thirdCount, _⟩ := nonnegativeInteger_int third
  refine ⟨absent, ⟨?_, ?_, ?_, ?_, ?_⟩, ?_⟩
  · rw [(exactFields_get fields (by decide)).1, exactValue_int source]
  · rw [(exactFields_get fields (by decide)).1, firstCount, Int.toNat_of_nonneg firstNonneg]
  · rw [(exactFields_get fields (by decide)).1, secondCount, Int.toNat_of_nonneg secondNonneg]
  · rw [(exactFields_get fields (by decide)).1, thirdCount]
  · exact coverageSpan_stated (exactFields_get fields (by decide)).1
      (exactFields_get fields (by decide)).1 spanned
  · rw [Int.toNat_of_nonneg firstNonneg]
    exact counts.1

/-- Checks of the items of a list pass when all do. -/
theorem forM_ok {α : Type} {check : α → Except Refusal Unit} {items : List α}
    (passed : items.forM check = .ok ()) : ∀ item ∈ items, check item = .ok () := by
  induction items with
  | nil => nofun
  | cons first items ih =>
    obtain ⟨_, here, later⟩ := bind_ok.mp passed
    intro item member
    rcases List.mem_cons.mp member with rfl | inside
    · exact here
    · exact ih later item inside

/-- Under "full" the coverage has an entry for each source, and what it states is so. -/
theorem verifyProvenanceCoverage_covers {coverage : Value} {mode : Binary} {cells : List (Cell n)}
    {accepted : List Split} (full : mode = ascii "full")
    (verified : verifyProvenanceCoverage offsetAt coverage mode cells cells.length accepted =
      .ok ()) :
    ∃ entries, coverage = .list entries ∧ entries.length = n ∧
      ∀ source : Fin n, ∃ entry tally absent, entries[source.val]? = some entry ∧
        StatesCoverage offsetAt entry source tally absent ∧ Covers cells source tally absent := by
  unfold verifyProvenanceCoverage at verified
  split at verified
  · next entries =>
    split at verified
    · next length =>
      refine ⟨entries, rfl, length, fun source => ?_⟩
      have bound : source.val < entries.length := by omega
      have member : (source, entries[source.val]) ∈ (List.finRange n).zip entries := by
        rw [List.mem_iff_getElem]
        refine ⟨source.val, by simp [length], ?_⟩
        rw [List.getElem_zip, List.getElem_finRange]
        rfl
      have checked := forM_ok verified _ member
      cases found : verifyCoverageOf offsetAt mode accepted cells.length (accumulateCoverage cells)
          source entries[source.val] with
      | error refusal =>
        rw [found] at checked
        cases checked
      | ok tally =>
        obtain ⟨stated, read, rest⟩ := bind_ok.mp found
        obtain ⟨_, compared, same⟩ := bind_ok.mp rest
        cases same
        obtain ⟨absent, states, total⟩ := verifyCoverageEntry_stated read
        exact ⟨_, tally, absent, List.getElem?_eq_getElem bound, states,
          covers_of_same (ensure_ok.mp compared full) total⟩
    · cases verified
  · cases verified

end Reading

end Sidereon.MergeReport
