import Sidereon.Foundation.Following
import Sidereon.MergeReport.Selections

/-!
# Terms that are spelled otherwise

A term that is encoded and decoded has texts where it had atoms, and its maps have texts for keys. The
checks of single fields read both: what they pass they pass in the other spelling too, with the same
result. Nothing is said of what they refuse, since a text may pass where an atom is refused.
-/

namespace Sidereon.MergeReport

open Foundation Sidereon.Distribution
open Foundation.Beam (Number)
open MergePolicy (Double)

section Relation

/-- The atoms that are spelled in one way. -/
def literals : List String := ["nil", "true", "false"]

/-- A key names the fields that another key names. -/
def SameKey (key key' : Value) : Prop :=
  ∀ field, (key.isAtom field || key.isText field) = true →
    (key'.isAtom field || key'.isText field) = true

/-- One layer of another spelling: atoms may be texts, and what is inside lists and maps is related. -/
inductive Respelled (related : Value → Value → Prop) : Value → Value → Prop where
  | atom (name : String) : Respelled related (.atom name) (.atom name)
  | number (n : Number) : Respelled related (.number n) (.number n)
  | text (bytes : Binary) : Respelled related (.text bytes) (.text bytes)
  | named (name : String) (other : name ∉ literals) :
      Respelled related (.atom name) (.text (ascii name))
  | list {items items' : List Value} (each : List.Forall₂ related items items') :
      Respelled related (.list items) (.list items')
  | map {entries entries' : List (Value × Value)}
      (fields : ∀ field, Option.Rel related (fetch entries field) (fetch entries' field))
      (keys : ∀ entry' ∈ entries', ∃ entry ∈ entries, SameKey entry.1 entry'.1)
      (single : ∀ field, fetchAtom entries' field = none ∨ fetchText entries' field = none) :
      Respelled related (.map entries) (.map entries')

/-- A relation of terms to other spellings of them. -/
structure Respelling (related : Value → Value → Prop) : Prop where
  nil : related .nil .nil
  layer : ∀ {value value'}, related value value' → Respelled related value value'

/-- A term that is spelled in one way, and holds no others. -/
def Value.Rigid : Value → Prop
  | .atom name => name ∈ literals
  | .number _ => True
  | .text _ => True
  | _ => False

theorem rigid_nil : Value.nil.Rigid := List.mem_cons_self

theorem rigid_text (bytes : Binary) : (Value.text bytes).Rigid := trivial

theorem rigid_number (n : Number) : (Value.number n).Rigid := trivial

/-- Records with the same names and related values. -/
def SameRecord (related : Value → Value → Prop) : Record → Record → Prop :=
  List.Forall₂ fun value value' => value.1 = value'.1 ∧ related value.2 value'.2

end Relation

section Layers

variable {related : Value → Value → Prop} (spelling : Respelling related)
include spelling

/-- A term of one spelling is kept. -/
theorem Respelling.rigid_eq {value value' : Value} (rigid : value.Rigid)
    (relates : related value value') : value' = value := by
  cases spelling.layer relates with
  | atom | number | text => rfl
  | named name other => exact absurd rigid other
  | list | map => exact rigid.elim

theorem Respelling.items_eq {items items' : List Value} (rigid : ∀ item ∈ items, item.Rigid)
    (each : List.Forall₂ related items items') : items' = items := by
  induction each with
  | nil => rfl
  | @cons item item' items items' relates _ ih =>
    rw [spelling.rigid_eq (rigid item List.mem_cons_self) relates,
      ih fun item member => rigid item (List.mem_cons_of_mem _ member)]

/-- A list of terms of one spelling is kept. -/
theorem Respelling.list_eq {items : List Value} {value' : Value}
    (rigid : ∀ item ∈ items, item.Rigid) (relates : related (.list items) value') :
    value' = .list items := by
  cases spelling.layer relates with
  | list each => rw [spelling.items_eq rigid each]

/-- A check that passes only terms of one spelling. -/
theorem Respelling.rigid {α : Type} (check : Value → Except Refusal α) {value value' : Value}
    (relates : related value value') (rigid : ∀ result, check value = .ok result → value.Rigid) :
    Follows Eq (check value) (check value') := by
  refine .of_ok fun result passed => ?_
  rw [spelling.rigid_eq (rigid result passed) relates]
  exact passed

/-- The fields of a term. -/
theorem Respelling.field {value value' : Value} (relates : related value value') (field : String) :
    Option.Rel related (value.field? field) (value'.field? field) := by
  cases spelling.layer relates with
  | atom | number | text | named | list => exact .none
  | map fields => exact fields field

theorem Respelling.getD {value value' : Option Value} (relates : Option.Rel related value value') :
    related (value.getD .nil) (value'.getD .nil) := by
  cases relates with
  | none => exact spelling.nil
  | some relates => exact relates

/-- A field of a term, or `nil`. -/
theorem Respelling.mapValue {value value' : Value} (relates : related value value')
    (field : String) : related (mapValue value field) (mapValue value' field) :=
  spelling.getD (spelling.field relates field)

omit spelling in
/-- The fields of a record. -/
theorem sameRecord_lookup {values values' : Record} (same : SameRecord related values values')
    (field : String) : Option.Rel related (values.lookup field) (values'.lookup field) := by
  induction same with
  | nil => exact .none
  | @cons value value' values values' relates _ ih =>
    obtain ⟨name, item⟩ := value
    obtain ⟨name', item'⟩ := value'
    obtain ⟨rfl, relates⟩ := relates
    rw [List.lookup_cons, List.lookup_cons]
    cases field == name with
    | true => exact .some relates
    | false => exact ih

/-- The values of a record. -/
theorem Respelling.get {values values' : Record} (same : SameRecord related values values')
    (field : String) : related (values.get field) (values'.get field) :=
  spelling.getD (sameRecord_lookup same field)

/-- The text or the name of an atom, as `label_string` has it. -/
theorem Respelling.labelString {value value' : Value} (relates : related value value') :
    labelString value' = labelString value := by
  cases spelling.layer relates with
  | atom | number | text | list | map => rfl
  | named name other =>
    have named : name ≠ "nil" := fun same => other (same ▸ List.mem_cons_self)
    rw [MergeReport.labelString, MergeReport.labelString, if_neg named]

theorem Respelling.isText {value value' : Value} (relates : related value value') {name : String}
    (text : value.isText name = true) : value'.isText name = true := by
  cases value with
  | text bytes =>
    rw [spelling.rigid_eq (rigid_text bytes) relates]
    exact text
  | atom | number | list | map | tuple => cases text

theorem Respelling.isAtom {value value' : Value} (relates : related value value') {name : String}
    (literal : name ∈ literals) (atom : value.isAtom name = true) : value'.isAtom name = true := by
  cases value with
  | atom own =>
    have same : own = name := beq_iff_eq.mp atom
    have kept : (Value.atom own).Rigid := same ▸ literal
    rw [spelling.rigid_eq kept relates]
    exact atom
  | text | number | list | map | tuple => cases atom

/-- Either spelling of a name. -/
theorem Respelling.isEither {value value' : Value} (relates : related value value') (name : String) :
    (value'.isAtom name || value'.isText name) = (value.isAtom name || value.isText name) := by
  cases spelling.layer relates with
  | atom | number | text | list | map => rfl
  | named own other =>
    change (false || ascii own == ascii name) = (own == name || false)
    rw [Bool.false_or, Bool.or_false, Bool.eq_iff_iff, beq_iff_eq, beq_iff_eq]
    exact ascii_inj

end Layers

section Fields

variable {related : Value → Value → Prop} (spelling : Respelling related)

/-- The rule of a list of checks. -/
theorem checkEach_follows {ι ι' α β : Type} {alike : ι → ι' → Prop} {related : α → β → Prop}
    {check : Nat → ι → Except Refusal α} {check' : Nat → ι' → Except Refusal β}
    {items : List ι} {items' : List ι'} (each : List.Forall₂ alike items items')
    (follows : ∀ index item item', alike item item' →
      Follows related (check index item) (check' index item')) :
    ∀ index, Follows (List.Forall₂ related) (checkEach check index items)
      (checkEach check' index items') := by
  induction each with
  | nil => exact fun _ => .ok .nil
  | cons relates _ ih =>
    intro index
    refine (follows index _ _ relates).bind fun first first' head => ?_
    exact (ih (index + 1)).bind fun rest rest' tail => .ok (.cons head tail)

/-- The rule of a list of checks with equal results. -/
theorem checkEach_same {ι ι' α : Type} {alike : ι → ι' → Prop}
    {check : Nat → ι → Except Refusal α} {check' : Nat → ι' → Except Refusal α}
    {items : List ι} {items' : List ι'} (each : List.Forall₂ alike items items')
    (follows : ∀ index item item', alike item item' →
      Follows Eq (check index item) (check' index item')) (index : Nat) :
    Follows Eq (checkEach check index items) (checkEach check' index items') :=
  (checkEach_follows each follows index).mono fun _ _ same => by rwa [List.forall₂_eq_eq_eq] at same

theorem isSome_of_rel {α β : Type} {related : α → β → Prop} {found : Option α} {found' : Option β}
    (relates : Option.Rel related found found') : found.isSome = found'.isSome := by
  cases relates <;> rfl

/-- A field that is found is found in the other spelling. -/
theorem fetchField_follows {related : Value → Value → Prop} {entries entries' : List (Value × Value)}
    {field : String} (relates : Option.Rel related (fetch entries field) (fetch entries' field))
    (context : Value) :
    Follows (fun value value' => value.1 = value'.1 ∧ related value.2 value'.2)
      (fetchField entries context field) (fetchField entries' context field) := by
  unfold fetchField
  cases found : fetch entries field with
  | none => exact .error
  | some value =>
    rw [found] at relates
    cases found' : fetch entries' field with
    | none =>
      rw [found'] at relates
      cases relates
    | some value' =>
      rw [found'] at relates
      cases relates with
      | some relates => exact .ok ⟨rfl, relates⟩

include spelling

/-- A record that is read is read in the other spelling too. -/
theorem Respelling.exactFields {value value' : Value} (relates : related value value')
    (fields : List String) (context : Value) :
    Follows (SameRecord related) (exactFields value fields context)
      (exactFields value' fields context) := by
  intro values read
  unfold MergeReport.exactFields at read
  cases spelling.layer relates with
  | atom | number | text | named | list => cases read
  | @map entries entries' same keys single =>
    dsimp only at read
    split at read
    · next known _ =>
      have unknown : (entries'.find? fun entry =>
          !fields.any fun field => entry.1.isAtom field || entry.1.isText field) = none := by
        rw [List.find?_eq_none] at known ⊢
        intro entry' member'
        obtain ⟨entry, member, key⟩ := keys entry' member'
        have named := known entry member
        rw [Bool.not_eq_true, Bool.not_eq_false', List.any_eq_true] at named ⊢
        obtain ⟨field, asked, names⟩ := named
        exact ⟨field, asked, key field names⟩
      have duplicate : (fields.find? fun field =>
          (fetchAtom entries' field).isSome && (fetchText entries' field).isSome) = none := by
        rw [List.find?_eq_none]
        intro field _
        rcases single field with none | none <;> simp [none]
      unfold MergeReport.exactFields
      dsimp only
      rw [unknown, duplicate]
      have each : List.Forall₂ Eq fields fields := List.forall₂_eq_eq_eq ▸ rfl
      refine checkEach_follows each ?_ 0 values read
      rintro _ field _ rfl
      exact fetchField_follows (same field) context
    · cases read
    · cases read

end Fields

section Readers

theorem nonemptyBinary_rigid {value field : Value} {bytes : Binary}
    (passed : nonemptyBinary value field = .ok bytes) : value.Rigid := by
  rw [nonemptyBinary_text passed]
  trivial

variable {related : Value → Value → Prop} (spelling : Respelling related) {value value' : Value}
variable (relates : related value value')
include spelling relates

theorem Respelling.nonemptyBinary (field : Value) :
    Follows Eq (nonemptyBinary value field) (nonemptyBinary value' field) :=
  spelling.rigid (MergeReport.nonemptyBinary · field) relates fun _ passed => nonemptyBinary_rigid passed

theorem Respelling.optionalBinary (field : Value) :
    Follows Eq (optionalBinary value field) (optionalBinary value' field) := by
  refine spelling.rigid (MergeReport.optionalBinary · field) relates fun _ passed => ?_
  unfold MergeReport.optionalBinary at passed
  split at passed
  · exact rigid_nil
  · obtain ⟨_, found, _⟩ := mapped_ok passed
    exact nonemptyBinary_rigid found

theorem Respelling.exactValue (expected : Int) (field : Value) :
    Follows Eq (exactValue value expected field) (exactValue value' expected field) := by
  refine spelling.rigid (MergeReport.exactValue · expected field) relates fun _ passed => ?_
  unfold MergeReport.exactValue at passed
  split at passed
  · trivial
  · cases passed

theorem Respelling.publicUrl (field : Value) :
    Follows Eq (publicUrl value field) (publicUrl value' field) := by
  refine spelling.rigid (MergeReport.publicUrl · field) relates fun _ passed => ?_
  unfold MergeReport.publicUrl at passed
  split at passed
  · exact rigid_nil
  · trivial
  · cases passed

theorem Respelling.optionalHttpStatus (field : Value) :
    Follows Eq (optionalHttpStatus value field) (optionalHttpStatus value' field) := by
  refine spelling.rigid (MergeReport.optionalHttpStatus · field) relates fun _ passed => ?_
  unfold MergeReport.optionalHttpStatus at passed
  split at passed
  · exact rigid_nil
  · trivial
  · cases passed

theorem Respelling.persistedDate :
    Follows Eq (persistedDate value) (persistedDate value') := by
  refine spelling.rigid MergeReport.persistedDate relates fun _ passed => ?_
  unfold MergeReport.persistedDate at passed
  split at passed
  · trivial
  · cases passed

theorem Respelling.finiteFloat (field : Value) :
    Follows Eq (finiteFloat value field) (finiteFloat value' field) := by
  refine spelling.rigid (MergeReport.finiteFloat · field) relates fun _ passed => ?_
  rw [finiteFloat_value passed]
  trivial

theorem Respelling.satelliteId (field : Value) :
    Follows Eq (satelliteId value field) (satelliteId value' field) := by
  refine spelling.rigid (MergeReport.satelliteId · field) relates fun _ passed => ?_
  rw [satelliteId_text passed]
  trivial

theorem Respelling.sourceIndex (n : Nat) (field : Value) :
    Follows Eq (sourceIndex n value field) (sourceIndex n value' field) := by
  refine spelling.rigid (MergeReport.sourceIndex n · field) relates fun _ passed => ?_
  rw [sourceIndex_int passed]
  trivial

theorem Respelling.optionalSourceIndex (n : Nat) (field : Value) :
    Follows Eq (optionalSourceIndex n value field) (optionalSourceIndex n value' field) := by
  refine spelling.rigid (MergeReport.optionalSourceIndex n · field) relates fun source passed => ?_
  rw [optionalSourceIndex_value passed]
  cases source with
  | none => exact rigid_nil
  | some => trivial

theorem Respelling.sourceIndices (n : Nat) (field : Value) :
    Follows Eq (sourceIndices n value field) (sourceIndices n value' field) := by
  refine .of_ok fun sources passed => ?_
  have stated := sourceIndices_value passed
  have kept : value' = value := by
    rw [stated, Sources.toValue] at relates ⊢
    refine spelling.list_eq (fun item member => ?_) relates
    obtain ⟨source, _, rfl⟩ := List.mem_map.mp member
    trivial
  rw [kept]
  exact passed

/-- A reason is an atom or a text of the same name. -/
theorem Respelling.omissionReason (allowed : List String) (field : Value) :
    Follows Eq (omissionReason allowed value field) (omissionReason allowed value' field) := by
  cases spelling.layer relates with
  | atom | number | text => exact .refl _
  | list | map => exact .error
  | named name other =>
    intro reason passed
    unfold MergeReport.omissionReason at passed
    dsimp only at passed
    split at passed
    · next known =>
      cases passed
      exact ⟨_, if_pos (List.mem_map_of_mem known), rfl⟩
    · cases passed

/-- The rule of a list. -/
theorem Respelling.verifyList {α : Type} (kind : Value)
    {verify : Value → Value → Except Refusal α}
    (follows : ∀ item item' context, related item item' →
      Follows Eq (verify item context) (verify item' context)) :
    Follows Eq (verifyList value kind verify) (verifyList value' kind verify) := by
  cases spelling.layer relates with
  | atom | number | text | named | map => exact .error
  | list each =>
    refine checkEach_same each (fun index item item' relates => ?_) 0
    exact follows item item' _ relates

end Readers

section Epochs

variable {related : Value → Value → Prop} (spelling : Respelling related)
variable (offsetAt : Float → Option Float)
include spelling

theorem Respelling.canonicalSplit {whole whole' fraction fraction' : Value}
    (first : related whole whole') (second : related fraction fraction') (context : Value) :
    Follows Eq (canonicalSplit offsetAt whole fraction context)
      (canonicalSplit offsetAt whole' fraction' context) := by
  refine (spelling.finiteFloat first _).andThen fun _ => ?_
  refine (Follows.refl _).andThen fun _ => ?_
  exact (spelling.finiteFloat second _).andThen fun _ => .refl _

theorem Respelling.epochSplit {values values' : Record} (same : SameRecord related values values')
    (nanosForm : Bool) (context : Value) :
    Follows (fun parts parts' => parts' = parts ∨
        related parts.1 parts'.1 ∧ related parts.2 parts'.2)
      (epochSplit nanosForm values context) (epochSplit nanosForm values' context) := by
  unfold MergeReport.epochSplit
  refine .ite Iff.rfl ?_ (.ok (.inr ⟨spelling.get same _, spelling.get same _⟩))
  have relates := spelling.get same "nanos_since_j2000"
  intro parts passed
  split at passed
  · next nanos stated =>
    rw [stated] at relates
    rw [spelling.rigid_eq (rigid_number _) relates]
    exact ⟨parts, passed, .inl rfl⟩
  · cases passed

theorem Respelling.mergeEpochSplit {epoch epoch' : Value} (relates : related epoch epoch')
    (context : Value) :
    Follows Eq (mergeEpochSplit offsetAt epoch context)
      (mergeEpochSplit offsetAt epoch' context) := by
  cases spelling.layer relates with
  | atom | number | text | named | list => exact .error
  | @map entries entries' fields keys single =>
    have form : (fetch entries' "nanos_since_j2000").isSome =
        (fetch entries "nanos_since_j2000").isSome := by
      exact (isSome_of_rel (fields "nanos_since_j2000")).symm
    unfold MergeReport.mergeEpochSplit
    dsimp only
    rw [form]
    refine (spelling.exactFields relates _ context).bind fun values values' same => ?_
    have scale : Follows Eq
        (ensure (mergeTimeScales.any (values.get "time_scale").isText = true)
          (invalidField (inside context "time_scale")))
        (ensure (mergeTimeScales.any (values'.get "time_scale").isText = true)
          (invalidField (inside context "time_scale"))) := by
      refine .of_ok fun _ passed => ensure_ok.mpr ?_
      obtain ⟨name, known, text⟩ := List.any_eq_true.mp (ensure_ok.mp passed)
      exact List.any_eq_true.mpr ⟨name, known, spelling.isText (spelling.get same _) text⟩
    refine scale.andThen fun _ => ?_
    refine (spelling.epochSplit same _ context).bind ?_
    rintro ⟨whole, fraction⟩ parts' (rfl | ⟨first, second⟩)
    · exact .refl _
    · exact spelling.canonicalSplit offsetAt first second context

end Epochs

section Selections

variable {related : Value → Value → Prop} (spelling : Respelling related) {value value' : Value}
variable (relates : related value value') (n : Nat) (combine : Value)
include spelling relates

theorem Respelling.precedenceSource (members : Sources n) (field : Value) :
    Follows Eq (precedenceSource n combine value members field)
      (precedenceSource n combine value' members field) := by
  refine spelling.rigid (MergeReport.precedenceSource n combine · members field) relates ?_
  intro selection passed
  obtain ⟨source, _, _, stated⟩ := precedenceSource_ok passed
  rw [stated]
  trivial

theorem Respelling.verifySelection (context : Value) :
    Follows Eq (verifySelection n combine value context)
      (verifySelection n combine value' context) := by
  have kind := spelling.labelString (spelling.mapValue relates "kind")
  unfold MergeReport.verifySelection
  dsimp only
  rw [kind]
  refine .ite Iff.rfl ?_ (.ite Iff.rfl ?_ (.ite Iff.rfl ?_ .error))
  · refine (spelling.exactFields relates _ context).bind fun values values' same => ?_
    exact (spelling.sourceIndex (spelling.get same _) n _).andThen fun _ => .refl _
  · refine (spelling.exactFields relates _ context).bind fun values values' same => ?_
    refine (spelling.sourceIndices (spelling.get same _) n _).andThen fun members => ?_
    exact spelling.precedenceSource (spelling.get same _) n combine members _
  · refine (spelling.exactFields relates _ context).bind fun values values' same => ?_
    refine (spelling.sourceIndices (spelling.get same _) n _).andThen fun members => ?_
    rw [spelling.labelString (spelling.get same "rule")]
    exact .refl _

theorem Respelling.verifyOptionalSelection (context : Value) :
    Follows Eq (verifyOptionalSelection n combine value context)
      (verifyOptionalSelection n combine value' context) := by
  cases spelling.layer relates with
  | atom | number | text => exact .refl _
  | list => exact .error
  | map => exact (spelling.verifySelection relates n combine context).map fun _ _ => congrArg some
  | named name other =>
    intro selection passed
    unfold MergeReport.verifyOptionalSelection at passed
    split at passed
    · next stated =>
      cases stated
      exact absurd List.mem_cons_self other
    · next stated => cases stated
    · cases passed

end Selections

end Sidereon.MergeReport
