import Sidereon.Distribution.Merge

/-!
# The walk over IONEX candidates

The newest map of a center is fetched by trying the candidates of a target date one after the other:
the dates that the catalog names, and for each date the predicted lines, preferred line first. A
candidate is acquired from the archive, and only an absence lets the walk go on.
-/

namespace Sidereon.Distribution

open Foundation

section Records

/-- The options of a fetch by the data layer: those that acquisition reads, and the limits under the
data layer's own names. -/
structure DataOptions where
  exact : Options
  maxCompressedBytes : Option (Option Int) := none
  maxDecompressedBytes : Option (Option Int) := none

/-- `rename_option`: a value under the old name replaces that under the new one. -/
def renameOption {α : Type} (old : Option α) (new : α) : α := old.getD new

/-- `exact_ionex_opts`, which drops what acquisition does not read. -/
def exactIonexOpts (opts : DataOptions) : Options :=
  { opts.exact with
    maxArchiveBytes := renameOption opts.maxCompressedBytes opts.exact.maxArchiveBytes
    maxProductBytes := renameOption opts.maxDecompressedBytes opts.exact.maxProductBytes }

/-- A candidate: a line of maps and the date of one. -/
structure IonexCandidate where
  center : Binary
  date : Int × Nat × Nat
  deriving DecidableEq

/-- Why no map is fetched. -/
inductive IonexFailure where
  | crossLine (center : Binary)
  | target (inspected : Binary)
  | dates (inspected : Binary)
  | invalidDate
  | acquisition (reason : Reason)

/-- The functions of the core that a fetch uses, for its target date and lookback. -/
structure IonexCore where
  targetDate : Except Binary Date
  gimDateCandidates : Binary → Date → Except Binary (List (Int × Nat × Nat))
  defaultSampleForDate : Binary → Date → Except Reason Binary
  canonicalFilename : Product → Except Reason Binary
  identity : Product → Except Reason ProductIdentity

end Records

section Walk

variable (library : Library) (core : IonexCore)

/-- The two lines of predicted CODE maps. -/
def predictedLines : List Binary := [ascii "cod_prd1", ascii "cod_prd2"]

/-- `validate_cross_line`. -/
def validateCrossLine (center : Binary) : Bool → Except IonexFailure Unit
  | false => .ok ()
  | true => if center ∈ predictedLines then .ok () else .error (.crossLine center)

/-- `ionex_candidate_walk`. -/
def ionexCandidateWalk (center : Binary) (dates : List (Int × Nat × Nat)) :
    Bool → List IonexCandidate
  | false => dates.map fun date => ⟨center, date⟩
  | true =>
    let lines :=
      if center = ascii "cod_prd2" then [ascii "cod_prd2", ascii "cod_prd1"]
      else [ascii "cod_prd1", ascii "cod_prd2"]
    dates.flatMap fun date => lines.map fun line => ⟨line, date⟩

/-- `product` of a map. -/
def ionexProduct (sample : Option Binary) (center : Binary) (date : Date) :
    Except Reason Product := do
  let sample ←
    match sample with
    | some sample => .ok sample
    | none => core.defaultSampleForDate center date
  let product : Product := { center, productType := ascii "ionex", date, sample }
  let _ ← core.canonicalFilename product
  return product

/-- `request` of a product from the archive. -/
def directRequest (product : Product) : Except Reason Request := do
  let identity ← core.identity product
  validateRequestIdentity library identity
  return ⟨identity, [.direct]⟩

/-- The request for a candidate. -/
def candidateRequest (sample : Option Binary) (candidate : IonexCandidate) :
    Except IonexFailure Request :=
  let (year, month, day) := candidate.date
  match Date.new? year month day with
  | none => .error .invalidDate
  | some date =>
    match ionexProduct core sample candidate.center date with
    | .error reason => .error (.acquisition reason)
    | .ok product =>
      match directRequest library core product with
      | .error reason => .error (.acquisition reason)
      | .ok request => .ok request

/-- A program that has requests acquired. -/
abbrev Requesting (α : Type) := Program Request (fun _ => Except Reason Result) Raised α

/-- `fetch_first_ionex`. -/
def fetchFirstIonex (sample : Option Binary) :
    List IonexCandidate → Option Reason → Requesting (Except IonexFailure Binary)
  | [], none => return .error (.acquisition .offlineCacheMiss)
  | [], some reason => return .error (.acquisition reason)
  | candidate :: rest, _ =>
    match candidateRequest library core sample candidate with
    | .error failure => return .error failure
    | .ok request => do
      match ← Program.perform request with
      | .ok result => return .ok result.path
      | .error .offlineCacheMiss => fetchFirstIonex sample rest (some .offlineCacheMiss)
      | .error (.response .productNotPublished 404 url) =>
        fetchFirstIonex sample rest (some (.response .productNotPublished 404 url))
      | .error reason => return .error (.acquisition reason)

/-- `fetch_ionex`, over what its candidates give. -/
def walkIonex (center : CenterInput) (crossLine : Bool) (sample : Option Binary) :
    Requesting (Except IonexFailure Binary) :=
  let center := normalizeCode center
  match validateCrossLine center crossLine with
  | .error failure => return .error failure
  | .ok () =>
    match core.targetDate with
    | .error inspected => return .error (.target inspected)
    | .ok date =>
      match core.gimDateCandidates center date with
      | .error inspected => return .error (.dates inspected)
      | .ok dates =>
        fetchFirstIonex library core sample (ionexCandidateWalk center dates crossLine) none

/-- `fetch_ionex`: its candidates are acquired. -/
def fetchIonex (opts : DataOptions) (center : CenterInput) (crossLine : Bool)
    (sample : Option Binary) : Action (Except IonexFailure Binary) :=
  (walkIonex library core center crossLine sample).handle fun request =>
    acquire library request (exactIonexOpts opts)

end Walk

section Law

variable (library : Library) (core : IonexCore)

/-- A request that was tried, and what it gave. -/
abbrev Requested := Event Request fun _ => Except Reason Result

/-- The lines of a walk, preferred line first. -/
def preferredLines (center : Binary) : Bool → List Binary
  | false => [center]
  | true => center :: predictedLines.filter (· ≠ center)

/-- Candidates in date-major order: one for each line of each date. -/
structure DateMajor (lines : List Binary) (dates : List (Int × Nat × Nat))
    (candidates : List IonexCandidate) : Prop where
  length : candidates.length = dates.length * lines.length
  ordered : ∀ i j date line, dates[i]? = some date → lines[j]? = some line →
    candidates[i * lines.length + j]? = some ⟨line, date⟩

/-- A candidate that was absent. -/
structure AbsentMap where
  candidate : IonexCandidate
  request : Request
  reason : Reason

/-- What an absent candidate gave. -/
def AbsentMap.requested (absent : AbsentMap) : Requested := ⟨absent.request, .error absent.reason⟩

/-- Candidates were requested one after the other and were absent. -/
def AllAbsent (sample : Option Binary) (absent : List AbsentMap) : Prop :=
  ∀ map ∈ absent, candidateRequest library core sample map.candidate = .ok map.request ∧
    Tolerated map.reason

/-- The last absence. -/
def lastAbsence (absent : List AbsentMap) (last : Option Reason) : Option Reason :=
  (absent.getLast?.map (·.reason)).or last

/-- The end of a walk over candidates: all were absent, or all before one that has no request, that
failed otherwise or that was available, and that one decides. -/
inductive MapWalk (sample : Option Binary) (last : Option Reason) :
    List IonexCandidate → List Requested → Except IonexFailure Binary → Prop where
  | exhausted {absent : List AbsentMap} (all : AllAbsent library core sample absent) :
      MapWalk sample last (absent.map (·.candidate)) (absent.map (·.requested))
        (.error (.acquisition ((lastAbsence absent last).getD .offlineCacheMiss)))
  | unrequested {absent : List AbsentMap} {candidate : IonexCandidate}
      {rest : List IonexCandidate} {failure : IonexFailure}
      (all : AllAbsent library core sample absent)
      (failed : candidateRequest library core sample candidate = .error failure) :
      MapWalk sample last (absent.map (·.candidate) ++ candidate :: rest)
        (absent.map (·.requested)) (.error failure)
  | failed {absent : List AbsentMap} {candidate : IonexCandidate} {rest : List IonexCandidate}
      {request : Request} {reason : Reason} (all : AllAbsent library core sample absent)
      (formed : candidateRequest library core sample candidate = .ok request)
      (halts : ¬ Tolerated reason) :
      MapWalk sample last (absent.map (·.candidate) ++ candidate :: rest)
        (absent.map (·.requested) ++ [⟨request, .error reason⟩]) (.error (.acquisition reason))
  | available {absent : List AbsentMap} {candidate : IonexCandidate}
      {rest : List IonexCandidate} {request : Request} {result : Result}
      (all : AllAbsent library core sample absent)
      (formed : candidateRequest library core sample candidate = .ok request) :
      MapWalk sample last (absent.map (·.candidate) ++ candidate :: rest)
        (absent.map (·.requested) ++ [⟨request, .ok result⟩]) (.ok result.path)

/-- A fetch: nothing is requested when its options, its target or the catalog refuse it, and
otherwise the candidates of the dates are walked over in date-major order. -/
inductive IonexFetch (center : Binary) (crossLine : Bool) (sample : Option Binary) :
    List Requested → Except IonexFailure Binary → Prop where
  | refused {failure : IonexFailure} (line : validateCrossLine center crossLine = .error failure) :
      IonexFetch center crossLine sample [] (.error failure)
  | untargeted {inspected : Binary} (line : validateCrossLine center crossLine = .ok ())
      (target : core.targetDate = .error inspected) :
      IonexFetch center crossLine sample [] (.error (.target inspected))
  | undated {inspected : Binary} {date : Date} (line : validateCrossLine center crossLine = .ok ())
      (target : core.targetDate = .ok date)
      (dates : core.gimDateCandidates center date = .error inspected) :
      IonexFetch center crossLine sample [] (.error (.dates inspected))
  | walked {date : Date} {dates : List (Int × Nat × Nat)} {candidates : List IonexCandidate}
      {tried : List Requested} {outcome : Except IonexFailure Binary}
      (line : validateCrossLine center crossLine = .ok ()) (target : core.targetDate = .ok date)
      (dated : core.gimDateCandidates center date = .ok dates)
      (order : DateMajor (preferredLines center crossLine) dates candidates)
      (walk : MapWalk library core sample none candidates tried outcome) :
      IonexFetch center crossLine sample tried outcome

end Law

section Walking

variable {library : Library} {core : IonexCore} {sample : Option Binary}

/-- An absence before others is the last where they have none. -/
theorem lastAbsence_cons (first : AbsentMap) (absent : List AbsentMap) (last : Option Reason) :
    lastAbsence (first :: absent) last = lastAbsence absent (some first.reason) := by
  rw [lastAbsence, lastAbsence, List.getLast?_cons]
  cases absent.getLast? with
  | none => rfl
  | some final => rfl

/-- An absent candidate before a walk. -/
theorem MapWalk.pass {last : Option Reason} {candidates : List IonexCandidate}
    {tried : List Requested} {outcome : Except IonexFailure Binary} (first : AbsentMap)
    (formed : candidateRequest library core sample first.candidate = .ok first.request)
    (tolerated : Tolerated first.reason)
    (walk : MapWalk library core sample (some first.reason) candidates tried outcome) :
    MapWalk library core sample last (first.candidate :: candidates) (first.requested :: tried)
      outcome := by
  have extended {absent : List AbsentMap} (all : AllAbsent library core sample absent) :
      AllAbsent library core sample (first :: absent) := by
    intro map member
    cases List.mem_cons.mp member with
    | inl same => exact same ▸ ⟨formed, tolerated⟩
    | inr later => exact all map later
  cases walk with
  | exhausted all =>
    rw [← lastAbsence_cons first _ last]
    exact .exhausted (extended all)
  | unrequested all failed => exact .unrequested (extended all) failed
  | failed all formed halts => exact .failed (extended all) formed halts
  | available all formed => exact .available (extended all) formed

/-- The walk goes on after candidates that were absent. -/
theorem ends_absent {absent : List AbsentMap} (all : AllAbsent library core sample absent)
    {last : Option Reason} {rest : List IonexCandidate} {tried : List Requested}
    {outcome : Except IonexFailure Binary}
    (continued : (fetchFirstIonex library core sample rest (lastAbsence absent last)).Ends tried
      outcome) :
    (fetchFirstIonex library core sample (absent.map (·.candidate) ++ rest) last).Ends
      (absent.map (·.requested) ++ tried) outcome := by
  induction absent generalizing last with
  | nil => exact continued
  | cons first absent ih =>
    obtain ⟨formed, tolerated⟩ := all first List.mem_cons_self
    have later : AllAbsent library core sample absent :=
      fun map member => all map (List.mem_cons_of_mem first member)
    rw [lastAbsence_cons] at continued
    have ended := ih later continued
    rw [List.map_cons, List.cons_append, fetchFirstIonex, formed]
    refine ⟨.error first.reason, _, rfl, ?_⟩
    obtain ⟨candidate, request, reason⟩ := first
    cases tolerated with
    | offlineMiss => exact ended
    | notPublished url => exact ended

/-- What a walk over candidates ends with. -/
theorem fetchFirstIonex_ends {candidates : List IonexCandidate} {last : Option Reason}
    {tried : List Requested} {outcome : Except IonexFailure Binary} :
    (fetchFirstIonex library core sample candidates last).Ends tried outcome ↔
      MapWalk library core sample last candidates tried outcome := by
  have nobody : AllAbsent library core sample [] := by simp [AllAbsent]
  constructor
  · intro ended
    induction candidates generalizing last tried with
    | nil =>
      cases last with
      | none =>
        obtain ⟨rfl, rfl⟩ := Program.ends_pure.mp ended
        exact .exhausted nobody
      | some reason =>
        obtain ⟨rfl, rfl⟩ := Program.ends_pure.mp ended
        exact .exhausted nobody
    | cons candidate rest ih =>
      rw [fetchFirstIonex] at ended
      cases formed : candidateRequest library core sample candidate with
      | error failure =>
        rw [formed] at ended
        obtain ⟨rfl, rfl⟩ := Program.ends_pure.mp ended
        exact .unrequested nobody formed
      | ok request =>
        rw [formed] at ended
        obtain ⟨answer, later, rfl, ended⟩ := ended
        change Program.Ends (match answer with
          | .ok result => _
          | .error .offlineCacheMiss => _
          | .error (.response .productNotPublished 404 url) => _
          | .error reason => _) later outcome at ended
        split at ended
        · obtain ⟨rfl, rfl⟩ := Program.ends_pure.mp ended
          exact .available nobody formed
        · exact (ih ended).pass ⟨candidate, request, _⟩ formed .offlineMiss
        · exact (ih ended).pass ⟨candidate, request, _⟩ formed (.notPublished _)
        · next reason offline absent =>
          obtain ⟨rfl, rfl⟩ := Program.ends_pure.mp ended
          have halts : ¬ Tolerated reason := by
            intro tolerated
            cases tolerated with
            | offlineMiss => exact offline rfl
            | notPublished url => exact absent url rfl
          exact .failed nobody formed halts
  · intro walk
    cases walk with
    | @exhausted absent all =>
      have ended : (fetchFirstIonex library core sample [] (lastAbsence absent last)).Ends []
          (.error (.acquisition ((lastAbsence absent last).getD .offlineCacheMiss))) := by
        cases lastAbsence absent last with
        | none => exact ⟨rfl, rfl⟩
        | some reason => exact ⟨rfl, rfl⟩
      have whole := ends_absent all ended
      rwa [List.append_nil, List.append_nil] at whole
    | @unrequested absent candidate rest failure all failed =>
      have ended : (fetchFirstIonex library core sample (candidate :: rest)
          (lastAbsence absent last)).Ends [] (.error failure) := by
        rw [fetchFirstIonex, failed]
        exact ⟨rfl, rfl⟩
      have whole := ends_absent all ended
      rwa [List.append_nil] at whole
    | failed all formed halts =>
      apply ends_absent all
      rw [fetchFirstIonex, formed]
      refine ⟨.error _, [], rfl, ?_⟩
      change Program.Ends (match (Except.error _ : Except Reason Result) with
        | .ok result => _
        | .error .offlineCacheMiss => _
        | .error (.response .productNotPublished 404 url) => _
        | .error reason => _) [] _
      split
      · next impossible => cases impossible
      · next same =>
        cases same
        exact absurd .offlineMiss halts
      · next same =>
        cases same
        exact absurd (.notPublished _) halts
      · next same =>
        cases same
        exact ⟨rfl, rfl⟩
    | available all formed =>
      apply ends_absent all
      rw [fetchFirstIonex, formed]
      exact ⟨.ok _, [], rfl, rfl, rfl⟩

/-- Candidates enumerated date by date and line by line are in date-major order. -/
theorem dateMajor_flatMap (lines : List Binary) (dates : List (Int × Nat × Nat)) :
    DateMajor lines dates
      (dates.flatMap fun date => lines.map fun line => (⟨line, date⟩ : IonexCandidate)) := by
  induction dates with
  | nil => exact ⟨by simp, by simp⟩
  | cons first dates ih =>
    obtain ⟨length, ordered⟩ := ih
    constructor
    · rw [List.flatMap_cons, List.length_append, length, List.length_map, List.length_cons,
        Nat.succ_mul, Nat.add_comm]
    · intro i j date line dated lined
      have inside : j < lines.length := (List.getElem?_eq_some_iff.mp lined).1
      rw [List.flatMap_cons]
      cases i with
      | zero =>
        rw [List.getElem?_cons_zero, Option.some.injEq] at dated
        rw [Nat.zero_mul, Nat.zero_add, List.getElem?_append_left (by simpa using inside),
          List.getElem?_map, lined, dated]
        rfl
      | succ i =>
        rw [List.getElem?_cons_succ] at dated
        have past : (i + 1) * lines.length + j = lines.length + (i * lines.length + j) := by
          rw [Nat.succ_mul]
          omega
        rw [past, List.getElem?_append_right (by simp), List.length_map, Nat.add_sub_cancel_left]
        exact ordered i j date line dated lined

/-- Candidates in date-major order at a position are those of its date and line. -/
theorem DateMajor.unique {lines : List Binary} {dates : List (Int × Nat × Nat)}
    {candidates others : List IonexCandidate} (order : DateMajor lines dates candidates)
    (order' : DateMajor lines dates others) : candidates = others := by
  apply List.ext_getElem?
  intro k
  by_cases inside : k < dates.length * lines.length
  · have positive : 0 < lines.length := Nat.pos_of_mul_pos_left (Nat.zero_lt_of_lt inside)
    have row : k / lines.length < dates.length := Nat.div_lt_of_lt_mul (Nat.mul_comm _ _ ▸ inside)
    have column : k % lines.length < lines.length := Nat.mod_lt _ positive
    have split : k / lines.length * lines.length + k % lines.length = k := Nat.div_add_mod' ..
    have dated := List.getElem?_eq_getElem row
    have lined := List.getElem?_eq_getElem column
    rw [← split, order.ordered _ _ _ _ dated lined, order'.ordered _ _ _ _ dated lined]
  · rw [List.getElem?_eq_none (by rw [order.length]; omega),
      List.getElem?_eq_none (by rw [order'.length]; omega)]

/-- The walk enumerates its candidates in date-major order, preferred line first. -/
theorem ionexCandidateWalk_dateMajor {center : Binary} {crossLine : Bool}
    (line : validateCrossLine center crossLine = .ok ()) (dates : List (Int × Nat × Nat)) :
    DateMajor (preferredLines center crossLine) dates
      (ionexCandidateWalk center dates crossLine) := by
  have enumerated := dateMajor_flatMap (preferredLines center crossLine) dates
  cases crossLine with
  | false =>
    rw [ionexCandidateWalk, List.map_eq_flatMap]
    exact enumerated
  | true =>
    have named : center = ascii "cod_prd1" ∨ center = ascii "cod_prd2" := by
      simp only [validateCrossLine] at line
      split at line
      · next member => simpa [predictedLines] using member
      · cases line
    have lines : preferredLines center true =
        if center = ascii "cod_prd2" then [ascii "cod_prd2", ascii "cod_prd1"]
        else [ascii "cod_prd1", ascii "cod_prd2"] := by
      cases named with
      | inl same =>
        rw [same]
        decide +kernel
      | inr same =>
        rw [same]
        decide +kernel
    rw [lines] at enumerated ⊢
    exact enumerated

/-- What a fetch ends with. -/
theorem walkIonex_ends {center : CenterInput} {crossLine : Bool} {tried : List Requested}
    {outcome : Except IonexFailure Binary} :
    (walkIonex library core center crossLine sample).Ends tried outcome ↔
      IonexFetch library core (normalizeCode center) crossLine sample tried outcome := by
  unfold walkIonex
  dsimp only
  constructor
  · intro ended
    cases line : validateCrossLine (normalizeCode center) crossLine with
    | error failure =>
      rw [line] at ended
      obtain ⟨rfl, rfl⟩ := Program.ends_pure.mp ended
      exact .refused line
    | ok =>
      rw [line] at ended
      cases target : core.targetDate with
      | error inspected =>
        rw [target] at ended
        obtain ⟨rfl, rfl⟩ := Program.ends_pure.mp ended
        exact .untargeted line target
      | ok date =>
        rw [target] at ended
        cases dated : core.gimDateCandidates (normalizeCode center) date with
        | error inspected =>
          simp only [dated] at ended
          obtain ⟨rfl, rfl⟩ := Program.ends_pure.mp ended
          exact .undated line target dated
        | ok dates =>
          simp only [dated] at ended
          exact .walked line target dated (ionexCandidateWalk_dateMajor line dates)
            (fetchFirstIonex_ends.mp ended)
  · intro fetch
    cases fetch with
    | refused line =>
      rw [line]
      exact ⟨rfl, rfl⟩
    | untargeted line target =>
      rw [line, target]
      exact ⟨rfl, rfl⟩
    | undated line target dated =>
      rw [line, target]
      simp only [dated]
      exact ⟨rfl, rfl⟩
    | walked line target dated order walk =>
      rw [line, target]
      simp only [dated]
      rw [← order.unique (ionexCandidateWalk_dateMajor line _)]
      exact fetchFirstIonex_ends.mpr walk

/-- A walk over candidates never crashes. -/
theorem fetchFirstIonex_total (candidates : List IonexCandidate) (last : Option Reason) :
    (fetchFirstIonex library core sample candidates last).Total := by
  induction candidates generalizing last with
  | nil => cases last <;> trivial
  | cons candidate rest ih =>
    rw [fetchFirstIonex]
    cases candidateRequest library core sample candidate with
    | error failure => trivial
    | ok request =>
      intro answer
      change Program.Total (match answer with
        | .ok result => _
        | .error .offlineCacheMiss => _
        | .error (.response .productNotPublished 404 url) => _
        | .error reason => _)
      split
      · trivial
      · exact ih _
      · exact ih _
      · trivial

/-- A fetch never crashes before its candidates do. -/
theorem walkIonex_total (center : CenterInput) (crossLine : Bool) :
    (walkIonex library core center crossLine sample).Total := by
  unfold walkIonex
  dsimp only
  split
  · trivial
  · split
    · trivial
    · split
      · trivial
      · exact fetchFirstIonex_total _ none

/-- A fetch tries the candidates in date-major order, each at most once. It returns the first that
is available if all before it were absent, the failure of the first that is neither, and the last
absence if all were absent; and whatever its requests give, it comes to an end. -/
theorem fetchIonex_walks {World : Type}
    {respond : (request : Call) → World → Answer request → World → Prop} {opts : DataOptions}
    {center : CenterInput} {crossLine : Bool} {world world' : World}
    {outcome : Except IonexFailure Binary} :
    ((fetchIonex library core opts center crossLine sample).Exec respond world (.ok outcome)
        world' ↔
      ∃ tried, IonexFetch library core (normalizeCode center) crossLine sample tried outcome ∧
        Program.Carried (fun request => acquire library request (exactIonexOpts opts)) respond
          world tried world') ∧
    ∀ give, ∃ tried outcome,
      IonexFetch library core (normalizeCode center) crossLine sample tried outcome ∧
        Program.Given give tried := by
  constructor
  · rw [fetchIonex, Program.exec_handle]
    exact exists_congr fun tried => and_congr_left fun _ => walkIonex_ends
  · intro give
    obtain ⟨tried, outcome, ended, given⟩ := (walkIonex_total center crossLine).ends give
    exact ⟨tried, outcome, walkIonex_ends.mp ended, given⟩

end Walking

end Sidereon.Distribution
