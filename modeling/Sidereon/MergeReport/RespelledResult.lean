import Sidereon.MergeReport.Continuity
import Sidereon.MergeReport.Rejections
import Sidereon.MergeReport.Respelling

/-!
# Merge results that are spelled otherwise

What `verify_merge_result` passes it passes in another spelling too: each list is read as the same
items, so that what is joined afterwards is the same. Where terms are compared with one another (the
defects of a continuity report, the time scales of epochs) the spellings have to agree.
-/

namespace Sidereon.MergeReport

open Foundation Sidereon.Distribution
open MergePolicy (Double Policy OrbitClass)

section Agreement

variable {related : Value → Value → Prop} (spelling : Respelling related) {value value' : Value}
variable (relates : related value value') (offsetAt : Float → Option Float) (n : Nat)
include spelling

theorem Respelling.optionalNonnegativeFloat (relates : related value value') (field : Value) :
    Follows Eq (optionalNonnegativeFloat value field) (optionalNonnegativeFloat value' field) := by
  refine spelling.rigid (MergeReport.optionalNonnegativeFloat · field) relates fun _ passed => ?_
  unfold MergeReport.optionalNonnegativeFloat at passed
  split at passed
  · exact rigid_nil
  · obtain ⟨_, found, _⟩ := bind_ok.mp passed
    rw [finiteFloat_value found]
    trivial

theorem Respelling.boundedCount (relates : related value value') (field : Value) :
    Follows Eq (boundedCount n value field) (boundedCount n value' field) := by
  refine spelling.rigid (MergeReport.boundedCount n · field) relates fun _ passed => ?_
  unfold MergeReport.boundedCount at passed
  split at passed
  · trivial
  · cases passed

theorem Respelling.nonnegativeInteger (relates : related value value') (field : Value) :
    Follows Eq (nonnegativeInteger value field) (nonnegativeInteger value' field) := by
  refine spelling.rigid (MergeReport.nonnegativeInteger · field) relates fun _ passed => ?_
  rw [(nonnegativeInteger_int passed).1]
  trivial

theorem Respelling.agreedFields {values values' : Record} (same : SameRecord related values values')
    (members rms max : String) (context : Value) :
    Follows Eq (agreedFields n values members rms max context)
      (agreedFields n values' members rms max context) := by
  refine (spelling.boundedCount n (spelling.get same _) _).andThen fun _ => ?_
  refine (spelling.optionalNonnegativeFloat (spelling.get same _) _).andThen fun _ => ?_
  exact (spelling.optionalNonnegativeFloat (spelling.get same _) _).andThen fun _ => .refl _

theorem Respelling.verifyAgreementCell (relates : related value value') (context : Value) :
    Follows Eq (verifyAgreementCell offsetAt n value context)
      (verifyAgreementCell offsetAt n value' context) := by
  refine (spelling.exactFields relates _ context).bind fun values values' same => ?_
  refine (spelling.satelliteId (spelling.get same _) _).andThen fun _ => ?_
  refine (spelling.canonicalSplit offsetAt (spelling.get same _) (spelling.get same _) _).andThen
    fun _ => ?_
  refine (spelling.agreedFields n same _ _ _ context).andThen fun _ => ?_
  exact (spelling.agreedFields n same _ _ _ context).andThen fun _ => .refl _

theorem Respelling.verifyAgreementCells (relates : related value value') :
    Follows Eq (verifyAgreementCells offsetAt n value) (verifyAgreementCells offsetAt n value') := by
  cases spelling.layer relates with
  | atom | number | text | named | map => exact .error
  | list each =>
    refine (checkEach_same each (fun index item item' relates => ?_) 0).andThen fun _ => .refl _
    exact spelling.verifyAgreementCell offsetAt n relates _

theorem Respelling.verifyAgreementEpoch (relates : related value value') (context : Value) :
    Follows Eq (verifyAgreementEpoch offsetAt value context)
      (verifyAgreementEpoch offsetAt value' context) := by
  refine (spelling.exactFields relates _ context).bind fun values values' same => ?_
  refine (spelling.canonicalSplit offsetAt (spelling.get same _) (spelling.get same _) _).andThen
    fun _ => ?_
  refine (spelling.nonnegativeInteger (spelling.get same _) _).andThen fun _ => ?_
  refine (spelling.optionalNonnegativeFloat (spelling.get same _) _).andThen fun _ => ?_
  refine (spelling.optionalNonnegativeFloat (spelling.get same _) _).andThen fun _ => ?_
  refine (spelling.optionalNonnegativeFloat (spelling.get same _) _).andThen fun _ => ?_
  exact (spelling.optionalNonnegativeFloat (spelling.get same _) _).andThen fun _ => .refl _

theorem Respelling.verifyAgreementEpochs (relates : related value value') :
    Follows Eq (verifyAgreementEpochs offsetAt value) (verifyAgreementEpochs offsetAt value') := by
  cases spelling.layer relates with
  | atom | number | text | named | map => exact .error
  | list each =>
    refine (checkEach_same each (fun index item item' relates => ?_) 0).andThen fun _ => .refl _
    exact spelling.verifyAgreementEpoch offsetAt relates _

theorem Respelling.verifyAgreement (relates : related value value') :
    Follows Eq (verifyAgreement offsetAt n value) (verifyAgreement offsetAt n value') := by
  refine (spelling.exactFields relates _ _).bind fun values values' same => ?_
  refine (spelling.optionalNonnegativeFloat (spelling.get same _) _).andThen fun _ => ?_
  refine (spelling.optionalNonnegativeFloat (spelling.get same _) _).andThen fun _ => ?_
  refine (spelling.optionalNonnegativeFloat (spelling.get same _) _).andThen fun _ => ?_
  refine (spelling.optionalNonnegativeFloat (spelling.get same _) _).andThen fun _ => ?_
  refine (spelling.verifyAgreementCells offsetAt n (spelling.get same _)).andThen fun _ => ?_
  exact (spelling.verifyAgreementEpochs offsetAt (spelling.get same _)).andThen fun _ => .refl _

end Agreement

section Flags

variable {related : Value → Value → Prop} (spelling : Respelling related) {value value' : Value}
variable (offsetAt : Float → Option Float) (n : Nat)
include spelling

theorem Respelling.verifyFlag (relates : related value value') (context : Value) :
    Follows Eq (verifyFlag offsetAt n value context) (verifyFlag offsetAt n value' context) := by
  refine (spelling.exactFields relates _ context).bind fun values values' same => ?_
  refine (spelling.satelliteId (spelling.get same _) _).andThen fun _ => ?_
  refine (spelling.canonicalSplit offsetAt (spelling.get same _) (spelling.get same _) _).andThen
    fun _ => ?_
  exact (spelling.sourceIndices (spelling.get same _) n _).andThen fun _ => .refl _

theorem Respelling.verifyFlags (relates : related value value') (kind : String) :
    Follows Eq (verifyFlags offsetAt n value kind) (verifyFlags offsetAt n value' kind) := by
  cases spelling.layer relates with
  | atom | number | text | named | map => exact .error
  | list each =>
    refine (checkEach_same each (fun index item item' relates => ?_) 0).andThen fun _ => .refl _
    exact spelling.verifyFlag offsetAt n relates _

end Flags

section Provenance

theorem forall₂_zip {ι α β : Type} {related : α → β → Prop} {items : List α} {items' : List β}
    (each : List.Forall₂ related items items') : ∀ {keys : List ι},
      List.Forall₂ (fun pair pair' => pair.1 = pair'.1 ∧ related pair.2 pair'.2) (keys.zip items)
        (keys.zip items') := by
  induction each with
  | nil => intro keys; simp
  | cons relates _ ih =>
    intro keys
    cases keys with
    | nil => exact .nil
    | cons key keys => exact .cons ⟨rfl, relates⟩ ih

variable {related : Value → Value → Prop} (spelling : Respelling related) {value value' : Value}
variable (offsetAt : Float → Option Float) {n : Nat} (combine : Value)
include spelling

theorem Respelling.verifyProvenanceCell (relates : related value value') (context : Value) :
    Follows Eq (verifyProvenanceCell offsetAt n combine value context)
      (verifyProvenanceCell offsetAt n combine value' context) := by
  refine (spelling.exactFields relates _ context).bind fun values values' same => ?_
  refine (spelling.mergeEpochSplit offsetAt (spelling.get same _) _).andThen fun _ => ?_
  refine (spelling.satelliteId (spelling.get same _) _).andThen fun _ => ?_
  refine (spelling.verifyOptionalSelection (spelling.get same _) n combine _).andThen fun _ => ?_
  exact (spelling.verifyOptionalSelection (spelling.get same _) n combine _).andThen
    fun _ => .refl _

theorem Respelling.verifyProvenanceTransition (relates : related value value') (context : Value) :
    Follows Eq (verifyProvenanceTransition offsetAt n value context)
      (verifyProvenanceTransition offsetAt n value' context) := by
  refine (spelling.exactFields relates _ context).bind fun values values' same => ?_
  refine (spelling.satelliteId (spelling.get same _) _).andThen fun _ => ?_
  refine (spelling.mergeEpochSplit offsetAt (spelling.get same _) _).andThen fun _ => ?_
  refine (spelling.optionalSourceIndex (spelling.get same _) n _).andThen fun _ => ?_
  refine (spelling.optionalSourceIndex (spelling.get same _) n _).andThen fun _ => ?_
  exact (spelling.omissionReason (spelling.get same _) _ _).andThen fun _ => .refl _

theorem Respelling.coverageSpan {values values' : Record} (same : SameRecord related values values')
    (contributed : Nat) (context : Value) :
    Follows Eq (coverageSpan offsetAt contributed values context)
      (coverageSpan offsetAt contributed values' context) := by
  have first := spelling.get same "first_epoch"
  have last := spelling.get same "last_epoch"
  cases contributed with
  | zero =>
    intro span passed
    unfold MergeReport.coverageSpan at passed
    split at passed
    · next _ noFirst noLast =>
      rw [noFirst] at first
      rw [noLast] at last
      refine ⟨span, ?_, rfl⟩
      unfold MergeReport.coverageSpan
      rw [spelling.rigid_eq rigid_nil first, spelling.rigid_eq rigid_nil last]
      exact passed
    · cases passed
    · next nonzero _ => exact absurd rfl nonzero
  | succ count =>
    refine (spelling.mergeEpochSplit offsetAt first _).andThen fun _ => ?_
    exact (spelling.mergeEpochSplit offsetAt last _).andThen fun _ => .refl _

theorem Respelling.verifyCoverageEntry (relates : related value value') (accepted : List Split)
    (acceptedCells index : Nat) (context : Value) :
    Follows Eq (verifyCoverageEntry offsetAt accepted acceptedCells index value context)
      (verifyCoverageEntry offsetAt accepted acceptedCells index value' context) := by
  refine (spelling.exactFields relates _ context).bind fun values values' same => ?_
  refine (spelling.exactValue (spelling.get same _) _ _).andThen fun _ => ?_
  refine (spelling.nonnegativeInteger (spelling.get same _) _).andThen fun _ => ?_
  refine (spelling.nonnegativeInteger (spelling.get same _) _).andThen fun _ => ?_
  refine (spelling.nonnegativeInteger (spelling.get same _) _).andThen fun _ => ?_
  refine (Follows.refl _).andThen fun _ => ?_
  exact (spelling.coverageSpan offsetAt same _ context).andThen fun _ => .refl _

theorem Respelling.verifyProvenanceCoverage (relates : related value value') (mode : Binary)
    (cells : List (Cell n)) (acceptedCells : Nat) (accepted : List Split) :
    Follows Eq (verifyProvenanceCoverage offsetAt value mode cells acceptedCells accepted)
      (verifyProvenanceCoverage offsetAt value' mode cells acceptedCells accepted) := by
  cases spelling.layer relates with
  | atom | number | text | named | map => exact .error
  | list each =>
    refine .ite (by rw [each.length_eq]) ?_ .error
    refine .forM (forall₂_zip each) ?_
    rintro ⟨source, entry⟩ ⟨_, entry'⟩ ⟨rfl, relates⟩
    refine ((spelling.verifyCoverageEntry offsetAt relates _ _ _ _).andThen fun _ => ?_).discard
    exact .refl _

theorem Respelling.verifyProvenance (relates : related value value') (requested : Binary)
    (agreement : List (AgreementCell n)) :
    Follows Eq (verifyProvenance offsetAt combine value requested agreement)
      (verifyProvenance offsetAt combine value' requested agreement) := by
  refine (spelling.exactFields relates _ _).bind fun values values' same => ?_
  rw [spelling.labelString (spelling.get same "mode")]
  refine (Follows.refl _).andThen fun _ => ?_
  refine (spelling.verifyList (spelling.get same _) _ fun item item' context relates =>
    spelling.verifyProvenanceCell offsetAt combine relates context).andThen fun _ => ?_
  refine (Follows.refl _).andThen fun _ => ?_
  refine (spelling.verifyList (spelling.get same _) _ fun item item' context relates =>
    spelling.verifyProvenanceTransition offsetAt relates context).andThen fun _ => ?_
  refine (Follows.refl _).andThen fun _ => ?_
  refine (Follows.refl _).andThen fun _ => ?_
  exact (spelling.verifyProvenanceCoverage offsetAt (spelling.get same _) _ _ _ _).andThen
    fun _ => .refl _

theorem Respelling.verifyMergeProvenance (relates : related value value') (requested : Value)
    (agreement : List (AgreementCell n)) :
    Follows Eq (verifyMergeProvenance offsetAt combine value requested agreement)
      (verifyMergeProvenance offsetAt combine value' requested agreement) := by
  intro epochs passed
  unfold MergeReport.verifyMergeProvenance at passed
  split at passed
  · rw [spelling.rigid_eq rigid_nil relates]
    exact ⟨epochs, passed, rfl⟩
  · next entries text =>
    have follows := spelling.verifyProvenance offsetAt combine relates text agreement
    cases spelling.layer relates with
    | map => exact follows epochs passed
  · cases passed

end Provenance

section Audit

variable {related : Value → Value → Prop} (spelling : Respelling related) {value value' : Value}
variable (offsetAt : Float → Option Float) (n : Nat) (policy : Policy)
include spelling

theorem Respelling.booleanField (relates : related value value') (field : Value) :
    Follows Eq (booleanField value field) (booleanField value' field) := by
  refine spelling.rigid (MergeReport.booleanField · field) relates fun _ passed => ?_
  unfold MergeReport.booleanField at passed
  split at passed
  · exact List.mem_cons_of_mem _ List.mem_cons_self
  · exact List.mem_cons_of_mem _ (List.mem_cons_of_mem _ List.mem_cons_self)
  · cases passed

theorem Respelling.verifyDroppedInputEpochs (relates : related value value') :
    Follows Eq (verifyDroppedInputEpochs offsetAt n policy value)
      (verifyDroppedInputEpochs offsetAt n policy value') := by
  refine (spelling.verifyList relates _ fun item item' context relates => ?_).andThen
    fun _ => .refl _
  refine (spelling.exactFields relates _ context).bind fun values values' same => ?_
  refine (spelling.sourceIndex (spelling.get same _) n _).andThen fun _ => ?_
  refine (spelling.nonnegativeInteger (spelling.get same _) _).andThen fun _ => ?_
  refine (spelling.mergeEpochSplit offsetAt (spelling.get same _) _).discard.andThen fun _ => ?_
  exact (spelling.omissionReason (spelling.get same _) _ _).andThen fun _ => .refl _

theorem Respelling.verifyOmittedEpochs (relates : related value value') (accepted : List Split) :
    Follows Eq (verifyOmittedEpochs offsetAt value accepted)
      (verifyOmittedEpochs offsetAt value' accepted) := by
  refine (spelling.verifyList relates _ fun item item' context relates => ?_).andThen
    fun _ => .refl _
  exact spelling.mergeEpochSplit offsetAt relates context

theorem Respelling.verifyArcWithheld (relates : related value value')
    (cells : List (AgreementCell n)) :
    Follows Eq (verifyArcWithheld offsetAt n policy value cells)
      (verifyArcWithheld offsetAt n policy value' cells) := by
  refine (spelling.verifyList relates _ fun item item' context relates => ?_).andThen
    fun _ => .refl _
  refine (spelling.exactFields relates _ context).bind fun values values' same => ?_
  refine (spelling.satelliteId (spelling.get same _) _).andThen fun _ => ?_
  refine (spelling.mergeEpochSplit offsetAt (spelling.get same _) _).andThen fun _ => ?_
  exact (spelling.sourceIndices (spelling.get same _) n _).andThen fun _ => .refl _

theorem Respelling.verifyClockOmissions (relates : related value value')
    (cells : List (AgreementCell n)) :
    Follows Eq (verifyClockOmissions offsetAt n policy value cells)
      (verifyClockOmissions offsetAt n policy value' cells) := by
  refine (spelling.verifyList relates _ fun item item' context relates => ?_).andThen
    fun _ => .refl _
  refine (spelling.exactFields relates _ context).bind fun values values' same => ?_
  refine (spelling.mergeEpochSplit offsetAt (spelling.get same _) _).andThen fun _ => ?_
  refine (spelling.satelliteId (spelling.get same _) _).andThen fun _ => ?_
  refine (spelling.sourceIndex (spelling.get same _) n _).andThen fun _ => ?_
  refine (spelling.omissionReason (spelling.get same _) _ _).andThen fun _ => ?_
  refine (spelling.optionalSourceIndex (spelling.get same _) n _).andThen fun _ => ?_
  exact (spelling.booleanField (spelling.get same _) _).andThen fun _ => .refl _

end Audit

section TimeScales

/-- A term has a time scale, which is a text. -/
def Timed (epoch : Value) : Prop := ∃ scale, (mapValue epoch "time_scale").text? = some scale

variable {offsetAt : Float → Option Float} {n : Nat} {policy : Policy}

theorem mergeEpochSplit_timed {epoch context : Value} {split : Split}
    (read : mergeEpochSplit offsetAt epoch context = .ok split) : Timed epoch := by
  unfold mergeEpochSplit at read
  split at read
  · next entries =>
    obtain ⟨values, fields, rest⟩ := bind_ok.mp read
    obtain ⟨_, known, _⟩ := bind_ok.mp rest
    obtain ⟨name, _, text⟩ := List.any_eq_true.mp (ensure_ok.mp known)
    have asked : "time_scale" ∈ (if (fetch entries "nanos_since_j2000").isSome
        then ["time_scale", "nanos_since_j2000"] else ["time_scale", "jd_whole", "jd_fraction"]) := by
      split <;> exact List.mem_cons_self
    rw [Timed, mapValue, (exactFields_get fields asked).1, Option.getD_some]
    cases stated : values.get "time_scale" with
    | text bytes => exact ⟨bytes, rfl⟩
    | atom | number | list | map | tuple =>
      rw [stated] at text
      cases text
  · cases read

/-- Every item of a list that is read passes its check. -/
theorem verifyList_each {α : Type} {value kind : Value} {verify : Value → Value → Except Refusal α}
    {results : List α} (read : verifyList value kind verify = .ok results) :
    ∀ item ∈ listItems value, ∃ context result, verify item context = .ok result := by
  have each : ∃ items, value = .list items ∧ List.Forall₂ (fun item _ =>
      ∃ context result, verify item context = .ok result) items results :=
    verifyList_ok read fun item context result passed => ⟨context, result, passed⟩
  obtain ⟨items, rfl, each⟩ := each
  intro item member
  obtain ⟨_, _, checked⟩ := forall₂_partner each member
  exact checked

theorem field_timed {value context : Value} {fields : List String} {values : Record}
    (read : exactFields value fields context = .ok values) {field : String} (asked : field ∈ fields)
    {inner : Value} {split : Split}
    (epoch : mergeEpochSplit offsetAt (values.get field) inner = .ok split) :
    Timed (mapValue value field) := by
  rw [mapValue, (exactFields_get read asked).1, Option.getD_some]
  exact mergeEpochSplit_timed epoch

theorem droppedInputEpochs_timed {value : Value}
    (read : verifyDroppedInputEpochs offsetAt n policy value = .ok ()) :
    ∀ item ∈ listItems value, Timed (mapValue item "epoch") := by
  intro item member
  obtain ⟨_, listed, _⟩ := bind_ok.mp read
  obtain ⟨context, _, passed⟩ := verifyList_each listed item member
  obtain ⟨values, fields, rest⟩ := bind_ok.mp passed
  obtain ⟨_, _, rest⟩ := bind_ok.mp rest
  obtain ⟨_, _, rest⟩ := bind_ok.mp rest
  obtain ⟨_, epoch, _⟩ := bind_ok.mp rest
  obtain ⟨_, epoch, _⟩ := mapped_ok epoch
  exact field_timed fields (by decide) epoch

theorem omittedEpochs_timed {value : Value} {accepted epochs : List Split}
    (read : verifyOmittedEpochs offsetAt value accepted = .ok epochs) :
    ∀ item ∈ listItems value, Timed item := by
  intro item member
  obtain ⟨_, listed, _⟩ := bind_ok.mp read
  obtain ⟨context, _, passed⟩ := verifyList_each listed item member
  exact mergeEpochSplit_timed passed

theorem arcWithheld_timed {value : Value} {cells : List (AgreementCell n)}
    {withheld : List (Withheld n)}
    (read : verifyArcWithheld offsetAt n policy value cells = .ok withheld) :
    ∀ item ∈ listItems value, Timed (mapValue item "epoch") := by
  intro item member
  obtain ⟨_, listed, _⟩ := bind_ok.mp read
  obtain ⟨context, _, passed⟩ := verifyList_each listed item member
  obtain ⟨values, fields, rest⟩ := bind_ok.mp passed
  obtain ⟨_, _, rest⟩ := bind_ok.mp rest
  obtain ⟨_, epoch, _⟩ := bind_ok.mp rest
  exact field_timed fields (by decide) epoch

theorem clockOmissions_timed {value : Value} {cells : List (AgreementCell n)}
    {omissions : List (ClockOmission n)}
    (read : verifyClockOmissions offsetAt n policy value cells = .ok omissions) :
    ∀ item ∈ listItems value, Timed (mapValue item "epoch") := by
  intro item member
  obtain ⟨_, listed, _⟩ := bind_ok.mp read
  obtain ⟨context, _, passed⟩ := verifyList_each listed item member
  obtain ⟨values, fields, rest⟩ := bind_ok.mp passed
  obtain ⟨_, epoch, _⟩ := bind_ok.mp rest
  exact field_timed fields (by decide) epoch

theorem coverageSpan_timed {contributed : Nat} {values : Record} {context : Value}
    {span : Option (Split × Split)}
    (read : coverageSpan offsetAt contributed values context = .ok span) :
    ∀ epoch ∈ [values.get "first_epoch", values.get "last_epoch"], epoch = .nil ∨ Timed epoch := by
  rw [List.forall_mem_cons, List.forall_mem_singleton]
  unfold coverageSpan at read
  split at read
  · next first last => exact ⟨.inl first, .inl last⟩
  · cases read
  · obtain ⟨_, first, rest⟩ := bind_ok.mp read
    obtain ⟨_, last, _⟩ := bind_ok.mp rest
    exact ⟨.inr (mergeEpochSplit_timed first), .inr (mergeEpochSplit_timed last)⟩

/-- The epochs of an entry of coverage. -/
def coverageEpochs (coverage : Value) : List Value :=
  [mapValue coverage "first_epoch", mapValue coverage "last_epoch"].filter
    fun epoch => !epoch.isAtom "nil"

theorem coverageEntry_timed {value context : Value} {accepted : List Split}
    {acceptedCells index : Nat} {tally : Tally}
    (read : verifyCoverageEntry offsetAt accepted acceptedCells index value context = .ok tally) :
    ∀ epoch ∈ coverageEpochs value, Timed epoch := by
  obtain ⟨values, fields, rest⟩ := bind_ok.mp read
  obtain ⟨_, _, rest⟩ := bind_ok.mp rest
  obtain ⟨_, _, rest⟩ := bind_ok.mp rest
  obtain ⟨_, _, rest⟩ := bind_ok.mp rest
  obtain ⟨_, _, rest⟩ := bind_ok.mp rest
  obtain ⟨_, _, rest⟩ := bind_ok.mp rest
  obtain ⟨_, spanned, _⟩ := bind_ok.mp rest
  intro epoch member
  rw [coverageEpochs, mapValue, mapValue, (exactFields_get fields (by decide)).1,
    (exactFields_get fields (by decide)).1] at member
  obtain ⟨stated, written⟩ := List.mem_filter.mp member
  rcases coverageSpan_timed spanned epoch stated with rfl | timed
  · cases written
  · exact timed

theorem provenanceCoverage_timed {coverage : Value} {mode : Binary} {cells : List (Cell n)}
    {acceptedCells : Nat} {accepted : List Split}
    (read : verifyProvenanceCoverage offsetAt coverage mode cells acceptedCells accepted = .ok ()) :
    ∀ epoch ∈ (listItems coverage).flatMap coverageEpochs, Timed epoch := by
  unfold verifyProvenanceCoverage at read
  split at read
  · next entries =>
    split at read
    · next length =>
      intro epoch member
      obtain ⟨entry, listed, stated⟩ := List.mem_flatMap.mp member
      obtain ⟨index, bound, rfl⟩ := List.getElem_of_mem (l := entries) listed
      have paired : (⟨index, length ▸ bound⟩, entries[index]) ∈ (List.finRange n).zip entries := by
        rw [List.mem_iff_getElem]
        refine ⟨index, by simp [length, length ▸ bound], ?_⟩
        rw [List.getElem_zip, List.getElem_finRange]
        rfl
      obtain ⟨_, checked, _⟩ := mapped_ok (forM_ok read _ paired)
      obtain ⟨_, passed, _⟩ := bind_ok.mp checked
      exact coverageEntry_timed passed epoch stated
    · cases read
  · cases read

theorem provenanceCells_timed {combine value context : Value} {cell : Cell n}
    (read : verifyProvenanceCell offsetAt n combine value context = .ok cell) :
    Timed (mapValue value "epoch") := by
  obtain ⟨values, fields, rest⟩ := bind_ok.mp read
  obtain ⟨_, epoch, _⟩ := bind_ok.mp rest
  exact field_timed fields (by decide) epoch

theorem provenanceTransition_timed {value context : Value} {transition : Transition n}
    (read : verifyProvenanceTransition offsetAt n value context = .ok transition) :
    Timed (mapValue value "epoch") := by
  obtain ⟨values, fields, rest⟩ := bind_ok.mp read
  obtain ⟨_, _, rest⟩ := bind_ok.mp rest
  obtain ⟨_, epoch, _⟩ := bind_ok.mp rest
  exact field_timed fields (by decide) epoch

/-- The epochs of a provenance. -/
def provenanceEpochs (provenance : Value) : List Value :=
  let items := fun field => listItems (mapValue provenance field)
  (items "cells" ++ items "transitions").map (fun item => mapValue item "epoch") ++
    (items "coverage").flatMap coverageEpochs

theorem provenance_timed {combine provenance : Value} {requested : Binary}
    {agreement : List (AgreementCell n)} {epochs : List Split}
    (read : verifyProvenance offsetAt combine provenance requested agreement = .ok epochs) :
    ∀ epoch ∈ provenanceEpochs provenance, Timed epoch := by
  obtain ⟨values, fields, rest⟩ := bind_ok.mp read
  obtain ⟨_, _, rest⟩ := bind_ok.mp rest
  obtain ⟨_, cells, rest⟩ := bind_ok.mp rest
  obtain ⟨_, _, rest⟩ := bind_ok.mp rest
  obtain ⟨_, transitions, rest⟩ := bind_ok.mp rest
  obtain ⟨_, _, rest⟩ := bind_ok.mp rest
  obtain ⟨_, _, rest⟩ := bind_ok.mp rest
  obtain ⟨_, coverage, _⟩ := bind_ok.mp rest
  intro epoch member
  have get : ∀ field ∈ ["mode", "cells", "transitions", "coverage"],
      mapValue provenance field = values.get field := fun field asked => by
    rw [mapValue, (exactFields_get fields asked).1, Option.getD_some]
  unfold provenanceEpochs at member
  dsimp only at member
  rw [get "cells" (by decide), get "transitions" (by decide), get "coverage" (by decide)] at member
  rcases List.mem_append.mp member with listed | covered
  · obtain ⟨item, among, rfl⟩ := List.mem_map.mp listed
    rcases List.mem_append.mp among with cell | transition
    · obtain ⟨_, _, passed⟩ := verifyList_each cells item cell
      exact provenanceCells_timed passed
    · obtain ⟨_, _, passed⟩ := verifyList_each transitions item transition
      exact provenanceTransition_timed passed
  · exact provenanceCoverage_timed coverage epoch covered

theorem mergeReporting_timed {continuityCheck : ContinuityCheck} {values : Record}
    {schemaVersion : Nat} {cells : List (AgreementCell n)} {epochs : List Split}
    (read : verifyMergeReporting offsetAt n policy continuityCheck values schemaVersion cells =
      .ok epochs) (reporting : ¬schemaVersion < 3) :
    ∀ epoch ∈ provenanceEpochs (values.get "provenance"), Timed epoch := by
  unfold verifyMergeReporting at read
  rw [if_neg reporting] at read
  obtain ⟨_, _, passed⟩ := bind_ok.mp read
  unfold verifyMergeProvenance at passed
  split at passed
  · next stated _ =>
    rw [stated]
    nofun
  · next stated _ =>
    rw [stated]
    exact provenance_timed passed
  · cases passed

/-- The epochs whose time scales are compared are those of lists that are read. -/
theorem auditEpochs_timed {values : Record} {schemaVersion : Nat}
    (dropped : ∀ item ∈ listItems (values.get "dropped_input_epochs"),
      Timed (mapValue item "epoch"))
    (omitted : ∀ item ∈ listItems (values.get "omitted_epochs"), Timed item)
    (withheld : ∀ item ∈ listItems (values.get "arc_withheld"), Timed (mapValue item "epoch"))
    (clocks : ∀ item ∈ listItems (values.get "clock_omissions"), Timed (mapValue item "epoch"))
    (provenance : ¬schemaVersion < 3 → ∀ epoch ∈ provenanceEpochs (values.get "provenance"),
      Timed epoch) :
    ∀ epoch ∈ auditEpochs values schemaVersion, Timed epoch := by
  have mapped : ∀ {items : List Value}, (∀ item ∈ items, Timed (mapValue item "epoch")) →
      ∀ epoch ∈ items.map (fun item => mapValue item "epoch"), Timed epoch := by
    intro items timed epoch member
    obtain ⟨item, listed, rfl⟩ := List.mem_map.mp member
    exact timed item listed
  have listed := List.forall_mem_append.mpr
    ⟨List.forall_mem_append.mpr ⟨mapped dropped, omitted⟩,
      List.forall_mem_append.mpr ⟨mapped withheld, mapped clocks⟩⟩
  unfold auditEpochs
  dsimp only
  by_cases early : schemaVersion < 3
  · rw [if_pos early]
    exact listed
  · rw [if_neg early]
    have stated := provenance early
    split
    · next entries same =>
      rw [same] at stated
      rw [List.append_assoc]
      exact List.forall_mem_append.mpr ⟨listed, stated⟩
    · exact listed

end TimeScales

section Audited

variable {related : Value → Value → Prop} (spelling : Respelling related) {value value' : Value}
include spelling

theorem Respelling.listItems (relates : related value value') :
    List.Forall₂ related (listItems value) (listItems value') := by
  cases spelling.layer relates with
  | atom | number | text | named | map => exact .nil
  | list each => exact each

theorem Respelling.fieldOfEach (relates : related value value') (field : String) :
    List.Forall₂ related ((MergeReport.listItems value).map fun item => MergeReport.mapValue item field)
      ((MergeReport.listItems value').map fun item => MergeReport.mapValue item field) := by
  rw [List.forall₂_map_left_iff, List.forall₂_map_right_iff]
  exact (spelling.listItems relates).imp fun item item' relates => spelling.mapValue relates field

theorem Respelling.isNil (relates : related value value') :
    value'.isAtom "nil" = value.isAtom "nil" := by
  cases spelling.layer relates with
  | atom | number | text | list | map => rfl
  | named name other =>
    have named : (name == "nil") = false :=
      beq_eq_false_iff_ne.mpr fun same => other (same ▸ List.mem_cons_self)
    exact named.symm

theorem Respelling.auditEpochs {values values' : Record} (same : SameRecord related values values')
    (schemaVersion : Nat) :
    List.Forall₂ related (auditEpochs values schemaVersion) (auditEpochs values' schemaVersion) := by
  have listed := List.rel_append
    (List.rel_append (spelling.fieldOfEach (spelling.get same "dropped_input_epochs") "epoch")
      (spelling.listItems (spelling.get same "omitted_epochs")))
    (List.rel_append (spelling.fieldOfEach (spelling.get same "arc_withheld") "epoch")
      (spelling.fieldOfEach (spelling.get same "clock_omissions") "epoch"))
  unfold MergeReport.auditEpochs
  dsimp only
  by_cases early : schemaVersion < 3
  · rw [if_pos early, if_pos early]
    exact listed
  · rw [if_neg early, if_neg early]
    have provenance := spelling.get same "provenance"
    generalize values.get "provenance" = stated, values'.get "provenance" = stated' at provenance ⊢
    have cells := spelling.listItems (spelling.mapValue provenance "cells")
    have transitions := spelling.listItems (spelling.mapValue provenance "transitions")
    have coverage := spelling.listItems (spelling.mapValue provenance "coverage")
    have moved := (List.rel_append cells transitions).imp fun item item' relates =>
      spelling.mapValue relates "epoch"
    cases spelling.layer provenance with
    | atom | number | text | named | list => exact listed
    | map =>
      refine List.rel_append (List.rel_append listed ?_) (List.rel_flatMap coverage ?_)
      · exact List.forall₂_map_left_iff.mpr (List.forall₂_map_right_iff.mpr moved)
      · intro item item' relates
        have ends := List.Forall₂.cons (spelling.mapValue relates "first_epoch")
          (.cons (spelling.mapValue relates "last_epoch") .nil)
        refine List.rel_filter (q := fun epoch => !epoch.isAtom "nil") (fun epoch epoch' relates => ?_)
          ends
        change _ ↔ (!epoch'.isAtom "nil") = true
        rw [spelling.isNil relates]

/-- A text is a text in every spelling. -/
theorem Respelling.timeScale (relates : related value value') (timed : Timed value) :
    (MergeReport.mapValue value' "time_scale").text? =
      (MergeReport.mapValue value "time_scale").text? := by
  obtain ⟨scale, text⟩ := timed
  have inner := spelling.mapValue relates "time_scale"
  generalize MergeReport.mapValue value "time_scale" = stated at text inner ⊢
  cases stated with
  | text bytes => rw [spelling.rigid_eq (rigid_text bytes) inner]
  | atom | number | list | map | tuple => cases text

theorem Respelling.verifyAuditTimeScale {values values' : Record}
    (same : SameRecord related values values') (schemaVersion : Nat)
    (timed : ∀ epoch ∈ MergeReport.auditEpochs values schemaVersion, Timed epoch) :
    Follows Eq (verifyAuditTimeScale values schemaVersion)
      (verifyAuditTimeScale values' schemaVersion) := by
  have scales : ∀ {epochs epochs' : List Value}, List.Forall₂ related epochs epochs' →
      (∀ epoch ∈ epochs, Timed epoch) →
        epochs'.map (fun epoch => (MergeReport.mapValue epoch "time_scale").text?) =
          epochs.map fun epoch => (MergeReport.mapValue epoch "time_scale").text? := by
    intro epochs epochs' each
    induction each with
    | nil => exact fun _ => rfl
    | cons relates _ ih =>
      intro timed
      rw [List.map_cons, List.map_cons, spelling.timeScale relates (timed _ List.mem_cons_self),
        ih fun epoch member => timed epoch (List.mem_cons_of_mem _ member)]
  unfold MergeReport.verifyAuditTimeScale
  rw [scales (spelling.auditEpochs same schemaVersion) timed]
  exact .refl _

variable {offsetAt : Float → Option Float} {n : Nat} {policy : Policy}

theorem Respelling.verifyMergeReporting {continuityCheck : ContinuityCheck}
    (continuity : ∀ value value', related value value' → ∀ requested,
      Follows Eq (continuityCheck n value requested policy)
        (continuityCheck n value' requested policy))
    {values values' : Record} (same : SameRecord related values values') (schemaVersion : Nat)
    (cells : List (AgreementCell n)) :
    Follows Eq (verifyMergeReporting offsetAt n policy continuityCheck values schemaVersion cells)
      (verifyMergeReporting offsetAt n policy continuityCheck values' schemaVersion cells) := by
  refine .ite Iff.rfl (.refl _) ?_
  have report := spelling.get same "continuity"
  refine Follows.andThen ?_ fun _ =>
    spelling.verifyMergeProvenance offsetAt _ (spelling.get same _) _ cells
  generalize values.get "continuity" = stated, values'.get "continuity" = stated' at report ⊢
  intro found passed
  unfold verifyMergeContinuity at passed
  split at passed
  · next none =>
    refine ⟨found, ?_, rfl⟩
    rw [spelling.rigid_eq rigid_nil report]
    unfold verifyMergeContinuity
    rw [none]
    exact passed
  · next entries requested asked =>
    obtain ⟨_, again, rfl⟩ := continuity _ _ report requested found passed
    cases spelling.layer report with
    | map =>
      refine ⟨found, ?_, rfl⟩
      unfold verifyMergeContinuity
      rw [asked]
      exact again
  · cases passed

theorem Respelling.verifyMergeAudit {continuityCheck : ContinuityCheck}
    (continuity : ∀ value value', related value value' → ∀ requested,
      Follows Eq (continuityCheck n value requested policy)
        (continuityCheck n value' requested policy))
    {values values' : Record} (same : SameRecord related values values') (schemaVersion : Nat)
    (cells : List (AgreementCell n)) :
    Follows Eq (verifyMergeAudit offsetAt n policy continuityCheck values schemaVersion cells)
      (verifyMergeAudit offsetAt n policy continuityCheck values' schemaVersion cells) := by
  refine .ite Iff.rfl (.refl _) ?_
  refine (spelling.verifyDroppedInputEpochs offsetAt n policy (spelling.get same _)).andThen_of
    fun _ dropped => ?_
  refine (spelling.verifyOmittedEpochs offsetAt (spelling.get same _) _).andThen_of
    fun _ omitted => ?_
  refine (spelling.verifyArcWithheld offsetAt n policy (spelling.get same _) cells).andThen_of
    fun _ withheld => ?_
  refine (spelling.verifyClockOmissions offsetAt n policy (spelling.get same _) cells).andThen_of
    fun _ clocks => ?_
  refine (spelling.verifyMergeReporting continuity same schemaVersion cells).andThen_of
    fun _ reporting => ?_
  refine (spelling.verifyAuditTimeScale same schemaVersion ?_).andThen fun _ => .refl _
  exact auditEpochs_timed (droppedInputEpochs_timed dropped) (omittedEpochs_timed omitted)
    (arcWithheld_timed withheld) (clockOmissions_timed clocks) (mergeReporting_timed reporting)

end Audited

section Continuity

variable {related : Value → Value → Prop} (spelling : Respelling related) {value value' : Value}
include spelling

theorem Respelling.isExactly (relates : related value value') {expected : Option Double}
    (exactly : value.isExactly expected = true) : value'.isExactly expected = true := by
  have rigid : value.Rigid := by
    unfold Value.isExactly at exactly
    split at exactly
    · trivial
    · next name =>
      rw [beq_iff_eq.mp exactly]
      exact rigid_nil
    · cases exactly
  rw [spelling.rigid_eq rigid relates]
  exact exactly

theorem Respelling.optionalFiniteFloat (relates : related value value') (field : Value) :
    Follows Eq (optionalFiniteFloat value field) (optionalFiniteFloat value' field) := by
  refine spelling.rigid (MergeReport.optionalFiniteFloat · field) relates fun _ passed => ?_
  unfold MergeReport.optionalFiniteFloat at passed
  split at passed
  · exact rigid_nil
  · obtain ⟨_, found, _⟩ := mapped_ok passed
    rw [finiteFloat_value found]
    trivial

theorem Respelling.nonnegativeFloat (relates : related value value') (field : Value) :
    Follows Eq (nonnegativeFloat value field) (nonnegativeFloat value' field) :=
  (spelling.finiteFloat relates field).andThen fun _ => .refl _

theorem Respelling.ascendingEpochs (relates : related value value') (field : Value) :
    Follows Eq (ascendingEpochs value field) (ascendingEpochs value' field) := by
  cases spelling.layer relates with
  | atom | number | text | named | map => exact .error
  | list each =>
    refine (checkEach_same each (fun index item item' relates => ?_) 0).andThen fun _ => .refl _
    exact spelling.finiteFloat relates field

variable {values values' : Record} (same : SameRecord related values values') (context : Value)
include same

theorem Respelling.verifySummary (first last magnitude bound : Option Double) :
    Follows Eq (verifySummary values context first last magnitude bound)
      (verifySummary values' context first last magnitude bound) := by
  refine .of_ok fun _ passed => ensure_ok.mpr ?_
  obtain ⟨start, stop, size, limit⟩ := ensure_ok.mp passed
  exact ⟨spelling.isExactly (spelling.get same _) start,
    spelling.isExactly (spelling.get same _) stop, spelling.isExactly (spelling.get same _) size,
    spelling.isExactly (spelling.get same _) limit⟩

theorem Respelling.verifyDuplicateEpoch :
    Follows Eq (verifyDuplicateEpoch values context) (verifyDuplicateEpoch values' context) := by
  refine (spelling.finiteFloat (spelling.get same _) _).andThen fun epoch => ?_
  have occurrences := spelling.get same "occurrences"
  generalize values.get "occurrences" = stated, values'.get "occurrences" = stated' at occurrences ⊢
  cases spelling.layer occurrences with
  | atom | text | named | list | map => exact .error
  | number n =>
    cases n with
    | float => exact .error
    | int count =>
      refine (Follows.refl _).andThen fun _ => (Follows.refl _).andThen fun _ => ?_
      exact (spelling.verifySummary same context _ _ _ _).andThen fun _ => .refl _

theorem Respelling.verifyUnusableSample :
    Follows Eq (verifyUnusableSample values context) (verifyUnusableSample values' context) := by
  refine (spelling.optionalFiniteFloat (spelling.get same _) _).andThen fun _ => ?_
  refine (spelling.nonnegativeInteger (spelling.get same _) _).discard.andThen fun _ => ?_
  refine (spelling.omissionReason (spelling.get same _) _ _).andThen fun _ => ?_
  refine (Follows.refl _).andThen fun _ => ?_
  exact (spelling.verifySummary same context _ _ _ _).andThen fun _ => .refl _

theorem Respelling.verifySpeedBound :
    Follows Eq (verifySpeedBound values context) (verifySpeedBound values' context) := by
  refine (spelling.finiteFloat (spelling.get same _) _).andThen fun _ => ?_
  refine (spelling.finiteFloat (spelling.get same _) _).andThen fun _ => ?_
  refine (spelling.finiteFloat (spelling.get same _) _).andThen fun _ => ?_
  refine (spelling.nonnegativeFloat (spelling.get same _) _).andThen fun _ => ?_
  refine (spelling.finiteFloat (spelling.get same _) _).andThen fun _ => ?_
  refine (spelling.nonnegativeFloat (spelling.get same _) _).andThen fun _ => ?_
  refine (Follows.refl _).andThen fun _ => (Follows.refl _).andThen fun _ => ?_
  exact (spelling.verifySummary same context _ _ _ _).andThen fun _ => .refl _

theorem Respelling.verifyHoldOutResidual :
    Follows Eq (verifyHoldOutResidual values context) (verifyHoldOutResidual values' context) := by
  refine (spelling.finiteFloat (spelling.get same _) _).andThen fun _ => ?_
  refine (spelling.finiteFloat (spelling.get same _) _).andThen fun _ => ?_
  refine (spelling.nonnegativeFloat (spelling.get same _) _).andThen fun _ => ?_
  refine (spelling.finiteFloat (spelling.get same _) _).andThen fun _ => ?_
  refine (spelling.ascendingEpochs (spelling.get same _) _).andThen fun _ => ?_
  refine (Follows.refl _).andThen fun _ => ?_
  exact (spelling.verifySummary same context _ _ _ _).andThen fun _ => .refl _

omit same values values' in
/-- The fields of every kind of defect. -/
theorem Respelling.defectKinds {kind : String × List String × (Record → Value → Except Refusal Finding)}
    (known : kind ∈ MergeReport.defectKinds) {values values' : Record}
    (same : SameRecord related values values') :
    Follows Eq (kind.2.2 values context) (kind.2.2 values' context) := by
  simp only [MergeReport.defectKinds, List.mem_cons, List.not_mem_nil, or_false] at known
  rcases known with rfl | rfl | rfl | rfl | rfl
  · exact spelling.verifyDuplicateEpoch same context
  · exact (spelling.verifySummary same context _ _ _ _).andThen fun _ => .refl _
  · exact spelling.verifyUnusableSample same context
  · exact spelling.verifySpeedBound same context
  · exact spelling.verifyHoldOutResidual same context

omit same values values' in
theorem Respelling.verifyContinuityDefect (relates : related value value') :
    Follows Eq (verifyContinuityDefect value context) (verifyContinuityDefect value' context) := by
  have kind := spelling.labelString (spelling.mapValue relates "kind")
  cases spelling.layer relates with
  | atom | number | text | named | list => exact .error
  | map =>
    unfold MergeReport.verifyContinuityDefect
    dsimp only
    rw [kind]
    cases found : MergeReport.defectKinds.find? fun known =>
        MergeReport.labelString (MergeReport.mapValue (.map _) "kind") = some (ascii known.1) with
    | none => exact .error
    | some known =>
      refine (spelling.exactFields relates _ context).bind fun values values' same => ?_
      refine (spelling.satelliteId (spelling.get same _) _).andThen fun _ => ?_
      refine Follows.andThen ?_ fun _ => .refl _
      exact spelling.defectKinds context (List.mem_of_find?_eq_some found) same

end Continuity

section Violations

/-- Terms that are equal are equal in the other spelling. -/
def Uniform (related : Value → Value → Prop) : Prop :=
  ∀ {value value' other other'}, related value value' → related other other' →
    value.same other = true → value'.same other' = true

variable {related : Value → Value → Prop} (spelling : Respelling related) {value value' : Value}
variable (n : Nat) (policy : Policy) (context : Value)

/-- Violations that restate related defects, and are the same otherwise. -/
structure SameViolation {n : Nat} (related : Value → Value → Prop)
    (violation violation' : Violation n) : Prop where
  stated : related violation.stated violation'.stated
  satellite : violation.satellite = violation'.satellite
  cells : violation.cells = violation'.cells
  crosses : violation.crosses = violation'.crosses

section

include spelling

theorem Respelling.optionalSourceIndices (relates : related value value') (field : Value) :
    Follows Eq (optionalSourceIndices n value field) (optionalSourceIndices n value' field) := by
  cases spelling.layer relates with
  | atom | number | text | named | map => exact .error
  | list each =>
    cases each with
    | nil => exact .refl _
    | cons => exact (spelling.sourceIndices relates n field).map fun _ _ => congrArg Sources.indices

theorem Respelling.verifyContinuityCell (relates : related value value') :
    Follows Eq (verifyContinuityCell n policy value context)
      (verifyContinuityCell n policy value' context) := by
  refine (spelling.exactFields relates _ context).bind fun values values' same => ?_
  refine (spelling.finiteFloat (spelling.get same _) _).andThen fun _ => ?_
  refine (spelling.omissionReason (spelling.get same _) _ _).andThen fun _ => ?_
  exact (spelling.verifyOptionalSelection (spelling.get same _) n _ _).andThen fun _ => .refl _

theorem Respelling.verifyContinuityViolation (relates : related value value') :
    Follows (SameViolation related) (verifyContinuityViolation n policy value context)
      (verifyContinuityViolation n policy value' context) := by
  refine (spelling.exactFields relates _ context).bind fun values values' same => ?_
  refine (spelling.verifyContinuityDefect _ (spelling.get same _)).andThen fun defect => ?_
  refine (spelling.optionalSourceIndices n (spelling.get same _) _).andThen fun first => ?_
  refine (spelling.optionalSourceIndices n (spelling.get same _) _).andThen fun last => ?_
  refine (spelling.optionalSourceIndices n (spelling.get same _) _).andThen fun sources => ?_
  refine (spelling.verifyList (spelling.get same _) _ fun item item' context relates =>
    spelling.verifyContinuityCell n policy context relates).andThen fun cells => ?_
  refine (Follows.refl _).andThen fun _ => ?_
  refine (spelling.booleanField (spelling.get same _) _).andThen fun crosses => ?_
  refine (Follows.refl _).andThen fun _ => (Follows.refl _).andThen fun _ => ?_
  exact (Follows.refl _).andThen fun _ => .ok ⟨spelling.get same _, rfl, rfl, rfl⟩

theorem Respelling.violations (relates : related value value') (kind : Value) :
    Follows (List.Forall₂ (SameViolation related))
      (MergeReport.verifyList value kind (MergeReport.verifyContinuityViolation n policy))
      (MergeReport.verifyList value' kind (MergeReport.verifyContinuityViolation n policy)) := by
  cases spelling.layer relates with
  | atom | number | text | named | map => exact .error
  | list each =>
    refine checkEach_follows each (fun index item item' relates => ?_) 0
    exact spelling.verifyContinuityViolation n policy _ relates

end

theorem Uniform.sameItems (uniform : Uniform related) {items items' others others' : List Value}
    (each : List.Forall₂ related items items') (each' : List.Forall₂ related others others')
    (equal : sameItems items others = true) : sameItems items' others' = true := by
  induction each generalizing others others' with
  | nil =>
    cases each' with
    | nil => exact equal
    | cons => cases equal
  | cons relates _ ih =>
    cases each' with
    | nil => cases equal
    | cons relates' rest =>
      rw [MergeReport.sameItems, Bool.and_eq_true] at equal ⊢
      exact ⟨uniform relates relates' equal.1, ih rest equal.2⟩

variable {speedBound : OrbitClass → Option Double}

theorem crossing_related {stated stated' : List Value} {violations violations' : List (Violation n)}
    (each : List.Forall₂ related stated stated')
    (same : List.Forall₂ (SameViolation related) violations violations') :
    List.Forall₂ related
      ((stated.zip violations).filterMap fun pair => if pair.2.crosses then some pair.1 else none)
      ((stated'.zip violations').filterMap fun pair =>
        if pair.2.crosses then some pair.1 else none) := by
  induction each generalizing violations violations' with
  | nil => exact .nil
  | cons relates _ ih =>
    cases same with
    | nil => exact .nil
    | @cons violation violation' _ _ alike rest =>
      rw [List.zip_cons_cons, List.zip_cons_cons, List.filterMap_cons, List.filterMap_cons]
      dsimp only
      rw [alike.crosses]
      cases violation'.crosses with
      | true => exact .cons relates (ih rest)
      | false => exact ih rest

include spelling

/-- A continuity report that passes passes in a uniform spelling. -/
theorem Respelling.verifyContinuityReport (uniform : Uniform related)
    (relates : related value value') (requested : MergePolicy.Continuity) :
    Follows Eq (verifyContinuityReport speedBound n value requested policy)
      (verifyContinuityReport speedBound n value' requested policy) := by
  refine (spelling.exactFields relates _ _).bind fun values values' same => ?_
  have listed := spelling.listItems (spelling.get same "defects")
  have stated := spelling.listItems (spelling.get same "violations")
  refine (spelling.verifyList (spelling.get same _) _ fun item item' context relates =>
    spelling.verifyContinuityDefect context relates).andThen fun defects => ?_
  have attested : ∀ value : Bool, toString value ∈ literals := by decide
  refine Follows.andThen (.of_ok fun _ passed => ensure_ok.mpr
    (spelling.isAtom (spelling.get same _) (attested _) (ensure_ok.mp passed))) fun _ => ?_
  refine (spelling.nonnegativeInteger (spelling.get same _) _).andThen fun _ => ?_
  refine (spelling.nonnegativeInteger (spelling.get same _) _).andThen fun _ => ?_
  refine (spelling.nonnegativeInteger (spelling.get same _) _).andThen fun _ => ?_
  refine (spelling.violations n policy (spelling.get same _) _).bind
    fun violations violations' alike => ?_
  have restated : List.Forall₂ related (violations.map Violation.stated)
      (violations'.map Violation.stated) := by
    rw [List.forall₂_map_left_iff, List.forall₂_map_right_iff]
    exact alike.imp fun _ _ same => same.stated
  refine Follows.andThen (.of_ok fun _ passed => ensure_ok.mpr
    (uniform.sameItems restated listed (ensure_ok.mp passed))) fun _ => ?_
  refine (Follows.refl _).andThen fun _ => ?_
  have splices := spelling.get same "splices"
  generalize values.get "splices" = written, values'.get "splices" = written' at splices ⊢
  cases spelling.layer splices with
  | atom | number | text | named | map => exact .error
  | list each =>
    exact .of_ok fun _ passed => ensure_ok.mpr
      (uniform.sameItems each (crossing_related n stated alike) (ensure_ok.mp passed))

end Violations

end Sidereon.MergeReport
