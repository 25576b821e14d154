import Sidereon.Distribution.Fallback
import Sidereon.Foundation.Handling

/-!
# Merging the products of several centers

A merge walks over its centers, and for each center over the candidates that the catalog names. A
candidate is acquired from the archive and loaded. The first that loads makes its center a
contributor, and a center without one is recorded as absent.
-/

namespace Sidereon.Distribution

open Foundation

section Records

/-- `Product`. -/
structure Product where
  center : Binary
  productType : Binary := ascii "sp3"
  date : Date
  sample : Binary
  issue : Option Binary := none
  span : Option Binary := none
  pattern : Option Binary := none
  filename : Option Binary := none
  url : Option Binary := none
  compression : Option Binary := none

/-- A row of `data_ultra_sp3_locations`. -/
structure UltraLocation where
  pattern : Binary
  span : Binary
  sample : Binary
  filename : Binary
  url : Binary
  compression : Binary

/-- `ArtifactIdentity`. -/
structure ArtifactIdentity where
  requestedIdentity : ProductIdentity
  resolvedIdentity : ProductIdentity
  distributionSource : SourceType
  officialFilename : Term
  productSha256 : Term
  productByteLength : Term
  archiveSha256 : Term
  archiveByteLength : Term
  compression : Compression

/-- `AcquisitionFacts`. -/
structure AcquisitionFacts where
  retrievedAt : Term
  cacheHit : Term
  originalUrl : Term
  finalUrl : Term
  etag : Term
  lastModified : Term
  attempts : List SourceFailure

/-- `Contributor`. -/
structure Contributor where
  center : Binary
  filename : Term
  date : Date
  issue : Option Binary
  pattern : Binary
  artifactIdentity : ArtifactIdentity
  acquisition : AcquisitionFacts

/-- `AbsentCenter`. -/
structure AbsentCenter where
  center : Binary
  filename : Option Binary := none
  pattern : Option Binary := none
  reason : Binary
  url : Option Binary := none
  httpStatus : Option Int := none
  detail : Option Binary := none

/-- `MergeReport`, over what the core reports of a merge and of its inputs. -/
structure MergeReport (Report InputIdentity : Type) where
  requestedCenters : List Binary
  contributors : List Contributor
  absent : List AbsentCenter
  sourceCount : Nat
  singleProduct : Bool
  merged : Bool
  mergeReport : Report
  inputIdentity : InputIdentity

/-- Why nothing is merged. -/
inductive MergeFailure where
  | acquisition (reason : Reason)
  | noProducts (absent : List AbsentCenter)
  | incompatibleSources (centers : List Binary) (inspected : Binary)
  | duplicateCenters (centers : List Binary)
  | policy (inspected : Binary)

/-- A center as a caller names it. -/
inductive CenterInput where
  | atom (name : Binary)
  | code (code : Binary)
  | other (text : Binary)

/-- `normalize_code`. -/
def normalizeCode : CenterInput → Binary
  | .atom name => name.map fun byte => if byte = 45 then 95 else byte
  | .code code => code
  | .other text => text

end Records

/-- The functions of the core that a merge uses, for the target and the options of one merge: the
catalog, `sp3_candidates`, the SP3 parser with the error of a file that cannot be read, and the
merge itself. -/
structure Core (Sp3 Merged Report InputIdentity : Type) where
  centerEntry : Binary → Except Reason Unit
  targetDate : Option Date
  sp3Candidates : Binary → Except Reason (List Product)
  identity : Product → Except Reason ProductIdentity
  canonicalFilename : Product → Except Reason Binary
  archiveUrl : Product → Except Reason Binary
  ultraLocations : Binary → Date → Binary → Option (List UltraLocation)
  loadSp3 : Option Binary → Except Binary Sp3
  validateIdentityPolicy : Except Binary Unit
  merge : List Sp3 → Except Binary (Merged × Report)
  mergeInputIdentity : List ArtifactIdentity → Except Binary InputIdentity

section Candidates

variable {Sp3 Merged Report InputIdentity : Type} (core : Core Sp3 Merged Report InputIdentity)
  (library : Library)

/-- `canonical_filename`. -/
def canonicalFilename (product : Product) : Except Reason Binary :=
  match product.filename with
  | some filename => .ok filename
  | none => core.canonicalFilename product

/-- `archive_url`. -/
def archiveUrl (product : Product) : Except Reason Binary :=
  match product.url with
  | some url => .ok url
  | none => core.archiveUrl product

/-- `identity` of a product. -/
def identityOf (product : Product) : Except Reason ProductIdentity :=
  match product.filename with
  | none => core.identity product
  | some declared => do
    validateFilename declared
    let identity ← core.identity { product with filename := none }
    if declared = identity.officialFilename then return identity
    else .error (.productValidationFailed (ascii "official_filename"))

/-- `catalog_product_identity`. -/
def catalogProductIdentity (product : Product) : Except Reason ProductIdentity :=
  match identityOf core product with
  | .ok identity => .ok identity
  | .error _ => .error (.productValidationFailed (ascii "catalog_identity"))

/-- `normalize_compression` of a text. -/
def normalizeCompression (text : Binary) : Option Compression :=
  [Compression.none, .gzip, .unixCompress].find? fun compression => compression.name = text

/-- `catalog_direct_location`. -/
def catalogDirectLocation (product : Product) (identity : ProductIdentity) :
    Except Reason DirectLocation :=
  let unlisted : Except Reason DirectLocation :=
    .error (.productValidationFailed (ascii "catalog_location"))
  match product.url with
  | none => directLocation library identity none
  | some url =>
    match product.issue with
    | some issue =>
      if product.productType = ascii "sp3" then
        match core.ultraLocations product.center product.date issue with
        | some rows =>
          let row := rows.find? fun row =>
            some row.pattern = product.pattern ∧ some row.span = product.span ∧
              row.sample = product.sample ∧ some row.filename = product.filename ∧
              row.url = url ∧ some row.compression = product.compression
          match row with
          | some row => .ok { url, compression := normalizeCompression row.compression }
          | none => unlisted
        | none => unlisted
      else unlisted
    | none => unlisted

/-- The checks of `acquire_catalog_product`. -/
def checkCatalogProduct (product : Product) (opts : Options) :
    Except Reason (ProductIdentity × DirectLocation) := do
  let identity ← catalogProductIdentity core product
  validateRequestIdentity library identity
  let location ← catalogDirectLocation core library product identity
  validateSizeLimits opts
  validateCacheLockTimeout opts
  return (identity, location)

/-- `acquire_catalog_product`. -/
def acquireCatalogProduct (product : Product) (opts : Options) :
    Action (Except Reason Result) :=
  match checkCatalogProduct core library product opts with
  | .error reason => return .error reason
  | .ok (identity, location) =>
    doAcquire library identity opts (some location) [{ type := .direct }] {}

/-- A candidate is acquired and loaded. -/
def tryCandidate (opts : Options) (product : Product) : Action (Except Reason (Result × Sp3)) := do
  match ← acquireCatalogProduct core library product opts with
  | .error reason => return .error reason
  | .ok result =>
    match core.loadSp3 (← call (.readFile result.path)) with
    | .ok sp3 => return .ok (result, sp3)
    | .error detail => return .error (.productValidationFailed detail)

end Candidates

section Reports

variable {Sp3 Merged Report InputIdentity : Type} (core : Core Sp3 Merged Report InputIdentity)
  (library : Library)

/-- `candidate_failure`. -/
def candidateFailure (reason : Reason) : FailureType × Term × Term × Term :=
  let unclassified := (FailureType.unclassifiedFailure, Term.text (library.inspect reason),
    Term.nil, Term.text (library.inspect reason))
  match reason with
  | .offlineCacheMiss => (.offlineCacheMiss, .text (ascii "offline_cache_miss"), .nil, .nil)
  | .response .productNotPublished status _ =>
    if 100 ≤ status ∧ status ≤ 599 then
      (.productNotPublished, .text (ascii "product_not_published"), .number (.int status), .nil)
    else unclassified
  | .checksumMismatch _ _ =>
    (.checksumMismatch, .text (ascii "checksum_mismatch"), .nil, .nil)
  | .response .httpStatus status _ =>
    if 100 ≤ status ∧ status ≤ 599 then
      (.httpStatus, .text (ascii "http_status"), .number (.int status), .nil)
    else (.transport, .text (ascii "transport:http_" ++ integerText status), .nil, .nil)
  | _ => unclassified

/-- `candidate_attempt`. -/
def candidateAttempt (reason : Reason) (url : Binary) : SourceFailure :=
  let (type, message, status, detail) := candidateFailure library reason
  { source := .direct, errorType := type, message, url := .text url, status, detail }

/-- `absence_reason`. -/
def absenceReason (reason : Reason) : Binary × Option Binary :=
  let unclassified := (ascii "unclassified", some (library.inspect reason))
  match reason with
  | .offlineCacheMiss => (ascii "offline_cache_miss", none)
  | .response .productNotPublished status _ =>
    if 100 ≤ status ∧ status ≤ 599 then (ascii "product_not_published", none) else unclassified
  | .checksumMismatch _ _ => (ascii "checksum_mismatch", none)
  | .response .httpStatus status _ =>
    if 100 ≤ status ∧ status ≤ 599 then (ascii "http_status", none) else unclassified
  | _ => unclassified

/-- `absence_status`. -/
def absenceStatus : Reason → Option Int
  | .response type status _ =>
    if type ∈ [.productNotPublished, .httpStatus] ∧ 100 ≤ status ∧ status ≤ 599 then some status
    else none
  | _ => none

/-- A candidate that was absent. -/
structure AbsentCandidate where
  product : Product
  filename : Binary
  url : Binary
  reason : Reason

/-- The pattern of a product. -/
def Product.patternOr (product : Product) : Binary := product.pattern.getD (ascii "canonical")

/-- `absent_center`, after the last candidate. -/
def absentCenter (center : Binary) (last : AbsentCandidate) : AbsentCenter where
  center
  filename := some last.filename
  pattern := some last.product.patternOr
  reason := (absenceReason library last.reason).1
  url := some last.url
  httpStatus := absenceStatus last.reason
  detail := (absenceReason library last.reason).2

/-- `contributor_candidate`. -/
def contributorCandidate (product : Product) (provenance : Provenance) : Term × Binary :=
  let declared :=
    match product.filename with
    | some filename => Term.text filename
    | none => provenance.officialFilename
  let row := product.issue.bind fun issue =>
    (core.ultraLocations product.center product.date issue).bind fun rows =>
      rows.find? fun row => provenance.originalUrl.isText row.url
  match row with
  | some row => (.text row.filename, row.pattern)
  | none => (declared, product.patternOr)

/-- `artifact_identity`. -/
def artifactIdentity (provenance : Provenance) : ArtifactIdentity where
  requestedIdentity := provenance.requestedIdentity
  resolvedIdentity := provenance.resolvedIdentity
  distributionSource := provenance.distributionSource
  officialFilename := provenance.officialFilename
  productSha256 := provenance.sha256
  productByteLength := provenance.byteLength
  archiveSha256 := provenance.archiveSha256
  archiveByteLength := provenance.archiveByteLength
  compression := provenance.archiveCompression

/-- `acquisition_facts`. -/
def acquisitionFacts (provenance : Provenance) (prior : List SourceFailure) :
    AcquisitionFacts where
  retrievedAt := provenance.retrievedAt
  cacheHit := provenance.cacheHit
  originalUrl := provenance.originalUrl
  finalUrl := provenance.finalUrl
  etag := provenance.etag
  lastModified := provenance.lastModified
  attempts := prior ++ provenance.attempts

/-- The contributor that a candidate makes of its center. -/
def contributor (center : Binary) (product : Product) (provenance : Provenance)
    (prior : List SourceFailure) : Contributor where
  center
  filename := (contributorCandidate core product provenance).1
  date := product.date
  issue := product.issue
  pattern := (contributorCandidate core product provenance).2
  artifactIdentity := artifactIdentity provenance
  acquisition := acquisitionFacts provenance prior

end Reports

section Walks

variable {Sp3 Merged Report InputIdentity : Type} (core : Core Sp3 Merged Report InputIdentity)
  (library : Library)

/-- A program that asks for candidates: each is acquired and loaded, or gives a reason. -/
abbrev Asking (Sp3 α : Type) :=
  Program Product (fun _ => Except Reason (Result × Sp3)) Raised α

/-- What a center comes to. -/
inductive CenterResult (Sp3 : Type) where
  | contributed (info : Contributor) (sp3 : Sp3)
  | absent (info : AbsentCenter)

/-- What the walk over the candidates of a center keeps. -/
structure CandidateWalk where
  last : Option AbsentCandidate := none
  attempts : List SourceFailure := []

/-- An absent candidate is kept. -/
def CandidateWalk.absent (walk : CandidateWalk) (candidate : AbsentCandidate) : CandidateWalk where
  last := some candidate
  attempts := candidateAttempt library candidate.reason candidate.url :: walk.attempts

/-- `fetch_first_center_sp3` and `fetch_sp3_candidate`. -/
def fetchFirstCenterSp3 (center : Binary) :
    List Product → CandidateWalk → Asking Sp3 (Except Reason (CenterResult Sp3))
  | [], walk =>
    match walk.last with
    | none => return .ok (.absent { center, reason := ascii "no_candidate" })
    | some last => return .ok (.absent (absentCenter library center last))
  | product :: rest, walk =>
    match canonicalFilename core product with
    | .error reason => return .error reason
    | .ok filename =>
      match archiveUrl core product with
      | .error reason => return .error reason
      | .ok url => do
        match ← Program.perform product with
        | .ok (result, sp3) =>
          return .ok (.contributed
            (contributor core center product result.provenance walk.attempts.reverse) sp3)
        | .error .offlineCacheMiss =>
          fetchFirstCenterSp3 center rest
            (walk.absent library ⟨product, filename, url, .offlineCacheMiss⟩)
        | .error (.response .productNotPublished 404 at_) =>
          fetchFirstCenterSp3 center rest
            (walk.absent library ⟨product, filename, url, .response .productNotPublished 404 at_⟩)
        | .error reason => return .error reason

/-- `catalog_era_unavailable?`. -/
def catalogEraUnavailable (center reason : Binary) : Bool :=
  core.targetDate.any fun date =>
    reason == center ++ ascii "/sp3 has no cataloged naming convention for " ++ date.toIso8601

/-- `fetch_center_sp3`. -/
def fetchCenterSp3 (center : Binary) : Asking Sp3 (Except Reason (CenterResult Sp3)) :=
  match core.sp3Candidates center with
  | .ok candidates => fetchFirstCenterSp3 core library center candidates {}
  | .error (.unsupportedProduct reason) =>
    if catalogEraUnavailable core center reason then
      return .ok (.absent { center, reason := ascii "catalog_unavailable" })
    else return .error (.unsupportedProduct reason)
  | .error reason => return .error reason

/-- The centers of a merge, with what they came to, latest first. -/
structure CenterWalks (Sp3 : Type) where
  contributors : List (Contributor × Sp3) := []
  absent : List AbsentCenter := []

/-- `merge_sp3_contributors`. -/
def mergeSp3Contributors (contributors : List (Contributor × Sp3)) (absent : List AbsentCenter)
    (requestedCenters : List Binary) :
    Except MergeFailure (Merged × MergeReport Report InputIdentity) :=
  let infos := contributors.map (·.1)
  match core.merge (contributors.map (·.2)) with
  | .error inspected => .error (.incompatibleSources (infos.map (·.center)) inspected)
  | .ok (merged, mergeReport) =>
    match core.mergeInputIdentity (infos.map (·.artifactIdentity)) with
    | .error inspected => .error (.policy inspected)
    | .ok inputIdentity => .ok (merged, {
        requestedCenters
        contributors := infos
        absent
        sourceCount := infos.length
        singleProduct := infos.length == 1
        merged := true
        mergeReport
        inputIdentity })

/-- The walk of `fetch_merged_sp3` over its centers. -/
def fetchCenters : List Binary → CenterWalks Sp3 → Asking Sp3 (Except Reason (CenterWalks Sp3))
  | [], walks => return .ok walks
  | center :: rest, walks => do
    match ← fetchCenterSp3 core library center with
    | .ok (.contributed info sp3) =>
      fetchCenters rest { walks with contributors := (info, sp3) :: walks.contributors }
    | .ok (.absent info) => fetchCenters rest { walks with absent := info :: walks.absent }
    | .error reason => return .error reason

/-- `validate_centers`. -/
def validateCenters (centers : List Binary) : Except MergeFailure Unit :=
  if centers.Nodup then
    match centers.forM core.centerEntry with
    | .ok () => .ok ()
    | .error reason => .error (.acquisition reason)
  else .error (.duplicateCenters centers)

/-- The checks of `fetch_merged_sp3` before any product is fetched. -/
def checkMerge (centers : List Binary) : Except MergeFailure Unit :=
  match validateCenters core centers with
  | .error failure => .error failure
  | .ok () =>
    match core.validateIdentityPolicy with
    | .ok () => .ok ()
    | .error inspected => .error (.policy inspected)

/-- `fetch_merged_sp3`, over what its candidates give. -/
def mergeCenters (centers : List CenterInput) :
    Asking Sp3 (Except MergeFailure (Merged × MergeReport Report InputIdentity)) :=
  let normalizedCenters := centers.map normalizeCode
  match checkMerge core normalizedCenters with
  | .error failure => return .error failure
  | .ok () => do
    match ← fetchCenters core library normalizedCenters {} with
    | .error reason => return .error (.acquisition reason)
    | .ok { contributors := [], absent } => return .error (.noProducts absent.reverse)
    | .ok { contributors, absent } =>
      return mergeSp3Contributors core contributors.reverse absent.reverse normalizedCenters

/-- `fetch_merged_sp3`: its candidates are acquired and loaded. -/
def fetchMergedSp3 (opts : Options) (centers : List CenterInput) :
    Action (Except MergeFailure (Merged × MergeReport Report InputIdentity)) :=
  (mergeCenters core library centers).handle (tryCandidate core library opts)

end Walks

section Law

variable {Sp3 Merged Report InputIdentity : Type} (core : Core Sp3 Merged Report InputIdentity)
  (library : Library)

/-- A candidate that was tried, and what it gave. -/
abbrev Tried (Sp3 : Type) := Event Product fun _ => Except Reason (Result × Sp3)

/-- A candidate that loaded or was absent. -/
def Answered (tried : Tried Sp3) : Prop :=
  match tried.answer with
  | .ok _ => True
  | .error reason => Absence reason

/-- A candidate whose archive answered that it is gone. -/
def Gone (tried : Tried Sp3) : Prop :=
  ∃ url, tried.answer = .error (.response .retiredEndpoint 410 url)

/-- A walk over the candidates of a center: those that were absent, and the one that loaded. -/
structure CenterWalk (Sp3 : Type) where
  center : Binary
  absent : List AbsentCandidate
  success : Option (Product × Result × Sp3)

namespace CenterWalk

/-- What was tried in a walk. -/
def tried (walk : CenterWalk Sp3) : List (Tried Sp3) :=
  walk.absent.map (fun candidate => ⟨candidate.product, .error candidate.reason⟩) ++
    walk.success.toList.map fun success => ⟨success.1, .ok success.2⟩

/-- The contributor of a walk, whose attempts are exactly the absent candidates before it. -/
def contributor? (walk : CenterWalk Sp3) : Option Contributor :=
  walk.success.map fun success =>
    { contributor core walk.center success.1 success.2.1.provenance [] with
      acquisition := { acquisitionFacts success.2.1.provenance [] with
        attempts := walk.absent.map fun candidate =>
          candidateAttempt library candidate.reason candidate.url } }

/-- A walk follows the candidates of its center up to the first that loads, and each before it was
absent. -/
structure Follows (walk : CenterWalk Sp3) : Prop where
  absent : ∀ candidate ∈ walk.absent, Absence candidate.reason ∧
    canonicalFilename core candidate.product = .ok candidate.filename ∧
    archiveUrl core candidate.product = .ok candidate.url
  candidates :
    match walk.success with
    | some (product, _, _) => ∃ rest, core.sp3Candidates walk.center =
        .ok (walk.absent.map (·.product) ++ product :: rest)
    | none => core.sp3Candidates walk.center = .ok (walk.absent.map (·.product)) ∨
        walk.absent = [] ∧ ∃ reason, core.sp3Candidates walk.center =
          .error (.unsupportedProduct reason) ∧ catalogEraUnavailable core walk.center reason = true

end CenterWalk

/-- A merge degrades: every center is walked once and in order, those whose walk has a success are the
contributors, the others are absent, and nothing is returned only when there is no contributor. -/
structure Degrades (centers : List Binary) (tried : List (Tried Sp3))
    (outcome : Except MergeFailure (Merged × MergeReport Report InputIdentity)) : Prop where
  walks : ∃ walks : List (CenterWalk Sp3), walks.map (·.center) = centers ∧
    walks.flatMap (·.tried) = tried ∧ (∀ walk ∈ walks, walk.Follows core) ∧
    match outcome with
    | .ok (_, report) => report.contributors ≠ [] ∧
        report.contributors = walks.filterMap (·.contributor? core library) ∧
        report.absent.map (·.center) = (walks.filter (·.success.isNone)).map (·.center)
    | .error (.noProducts absent) => walks.filterMap (·.contributor? core library) = [] ∧
        absent.map (·.center) = centers
    | .error _ => False

/-- The catalog names the candidates of a center, or has no convention for its date. -/
def Cataloged (center : Binary) : Prop :=
  match core.sp3Candidates center with
  | .ok candidates => ∀ product ∈ candidates,
      (∃ filename, canonicalFilename core product = .ok filename) ∧
        ∃ url, archiveUrl core product = .ok url
  | .error (.unsupportedProduct reason) => catalogEraUnavailable core center reason = true
  | .error _ => False

/-- The core merges any products, and identifies its inputs. -/
structure Merges : Prop where
  merge : ∀ sources, ∃ merged, core.merge sources = .ok merged
  inputIdentity : ∀ artifacts, ∃ identity, core.mergeInputIdentity artifacts = .ok identity

end Law

section Walking

variable {Sp3 Merged Report InputIdentity : Type} {core : Core Sp3 Merged Report InputIdentity}
  {library : Library}

/-- The absences of a candidate that let a center go on to its next one. -/
inductive Tolerated : Reason → Prop where
  | offlineMiss : Tolerated .offlineCacheMiss
  | notPublished (url : Binary) : Tolerated (.response .productNotPublished 404 url)

/-- Tolerated absences are absences. -/
theorem Tolerated.absence {reason : Reason} (tolerated : Tolerated reason) : Absence reason := by
  cases tolerated with
  | offlineMiss => exact .offlineMiss
  | notPublished url => exact .notPublished url

/-- An absence that is not tolerated is that of a gone archive. -/
theorem Absence.gone {reason : Reason} (absent : Absence reason) (halts : ¬ Tolerated reason) :
    ∃ url, reason = .response .retiredEndpoint 410 url := by
  cases absent with
  | offlineMiss => exact absurd .offlineMiss halts
  | notPublished url => exact absurd (.notPublished url) halts
  | retired url => exact ⟨url, rfl⟩

/-- The results of candidates have no attempts of their own. -/
def FreshResults (tried : List (Tried Sp3)) : Prop :=
  ∀ candidate ∈ tried, ∀ success, candidate.answer = .ok success →
    success.1.provenance.attempts = []

/-- All failures among what was tried are tolerated. -/
def AllTolerated (tried : List (Tried Sp3)) : Prop :=
  ∀ candidate ∈ tried, ∀ reason, candidate.answer = .error reason → Tolerated reason

/-- What was tried ends with a failure that is not tolerated. -/
def HaltsWith (tried : List (Tried Sp3)) (reason : Reason) : Prop :=
  ∃ before product, tried = before ++ [⟨product, .error reason⟩] ∧ ¬ Tolerated reason

/-- The names of an absent candidate are the catalog's, and its absence is tolerated. -/
structure Passed (core : Core Sp3 Merged Report InputIdentity) (candidate : AbsentCandidate) :
    Prop where
  tolerated : Tolerated candidate.reason
  filename : canonicalFilename core candidate.product = .ok candidate.filename
  url : archiveUrl core candidate.product = .ok candidate.url

/-- What was tried of absent candidates. -/
def triedAbsent (absent : List AbsentCandidate) : List (Tried Sp3) :=
  absent.map fun candidate => ⟨candidate.product, .error candidate.reason⟩

/-- The attempts that absent candidates are recorded as. -/
def attemptsOf (library : Library) (absent : List AbsentCandidate) : List SourceFailure :=
  absent.map fun candidate => candidateAttempt library candidate.reason candidate.url

/-- How the walk over the candidates of a center comes to an end, after some that were absent. -/
inductive WalkEnds (core : Core Sp3 Merged Report InputIdentity) (library : Library)
    (center : Binary) (prior : List SourceFailure) (candidates : List Product) :
    List (Tried Sp3) → Except Reason (CenterResult Sp3) → Prop where
  | contributed {absent : List AbsentCandidate} {product : Product} {result : Result} {sp3 : Sp3}
      {rest : List Product} (passed : ∀ candidate ∈ absent, Passed core candidate)
      (order : candidates = absent.map (·.product) ++ product :: rest) :
      WalkEnds core library center prior candidates
        (triedAbsent absent ++ [⟨product, .ok (result, sp3)⟩])
        (.ok (.contributed (contributor core center product result.provenance
          (prior ++ attemptsOf library absent)) sp3))
  | absent {absent : List AbsentCandidate} {info : AbsentCenter}
      (passed : ∀ candidate ∈ absent, Passed core candidate)
      (order : candidates = absent.map (·.product)) (named : info.center = center) :
      WalkEnds core library center prior candidates (triedAbsent absent) (.ok (.absent info))
  | halted {absent : List AbsentCandidate} {product : Product} {reason : Reason}
      (passed : ∀ candidate ∈ absent, Passed core candidate) (halts : ¬ Tolerated reason) :
      WalkEnds core library center prior candidates
        (triedAbsent absent ++ [⟨product, .error reason⟩]) (.error reason)

/-- A walk that passes one more candidate. -/
theorem WalkEnds.pass {center : Binary} {prior : List SourceFailure} {rest : List Product}
    {tried : List (Tried Sp3)} {outcome : Except Reason (CenterResult Sp3)}
    {candidate : AbsentCandidate} (passed : Passed core candidate)
    (ends : WalkEnds core library center (prior ++ attemptsOf library [candidate]) rest tried
      outcome) :
    WalkEnds core library center prior (candidate.product :: rest)
      (⟨candidate.product, .error candidate.reason⟩ :: tried) outcome := by
  have extended {absent : List AbsentCandidate} (all : ∀ other ∈ absent, Passed core other) :
      ∀ other ∈ candidate :: absent, Passed core other := by
    intro other member
    cases List.mem_cons.mp member with
    | inl same => exact same ▸ passed
    | inr later => exact all other later
  cases ends with
  | contributed all order =>
    rw [List.append_assoc]
    exact .contributed (extended all) (by rw [order]; rfl)
  | absent all order named => exact .absent (extended all) (by rw [order]; rfl) named
  | halted all halts => exact .halted (extended all) halts

/-- Every walk over candidates comes to such an end. -/
theorem fetchFirstCenterSp3_ends {center : Binary} (candidates : List Product)
    {walk : CandidateWalk} {tried : List (Tried Sp3)}
    {outcome : Except Reason (CenterResult Sp3)}
    (named : ∀ product ∈ candidates,
      (∃ filename, canonicalFilename core product = .ok filename) ∧
        ∃ url, archiveUrl core product = .ok url)
    (ended : (fetchFirstCenterSp3 core library center candidates walk).Ends tried outcome) :
    WalkEnds core library center walk.attempts.reverse candidates tried outcome := by
  have nobody : ∀ candidate ∈ ([] : List AbsentCandidate), Passed core candidate := by simp
  induction candidates generalizing walk tried with
  | nil =>
    unfold fetchFirstCenterSp3 at ended
    split at ended
    · obtain ⟨rfl, rfl⟩ := Program.ends_pure.mp ended
      exact .absent nobody rfl rfl
    · obtain ⟨rfl, rfl⟩ := Program.ends_pure.mp ended
      exact .absent nobody rfl rfl
  | cons product rest ih =>
    obtain ⟨⟨filename, filed⟩, ⟨url, located⟩⟩ := named product (by simp)
    have later := fun other member => named other (List.mem_cons_of_mem product member)
    unfold fetchFirstCenterSp3 at ended
    rw [filed, located] at ended
    obtain ⟨answer, tried, rfl, ended⟩ := ended
    have goes_on {reason : Reason} (tolerated : Tolerated reason) (same : answer = .error reason)
        (continued : (fetchFirstCenterSp3 core library center rest
          (walk.absent library ⟨product, filename, url, reason⟩)).Ends tried outcome) :
        WalkEnds core library center walk.attempts.reverse (product :: rest)
          (⟨product, answer⟩ :: tried) outcome := by
      rw [same]
      have passed : Passed core ⟨product, filename, url, reason⟩ := ⟨tolerated, filed, located⟩
      apply WalkEnds.pass passed
      have ends := ih later continued
      simpa [CandidateWalk.absent, attemptsOf] using ends
    change Program.Ends (match answer with
      | .ok (result, sp3) => _
      | .error .offlineCacheMiss => _
      | .error (.response .productNotPublished 404 at_) => _
      | .error reason => _) tried outcome at ended
    split at ended
    · next result sp3 =>
      obtain ⟨rfl, rfl⟩ := Program.ends_pure.mp ended
      have ends : WalkEnds core library center walk.attempts.reverse (product :: rest)
          [⟨product, .ok (result, sp3)⟩] (.ok (.contributed (contributor core center product
            result.provenance (walk.attempts.reverse ++ attemptsOf library [])) sp3)) :=
        .contributed nobody rfl
      rw [attemptsOf, List.map_nil, List.append_nil] at ends
      exact ends
    · exact goes_on .offlineMiss rfl ended
    · exact goes_on (.notPublished _) rfl ended
    · next reason offline absent =>
      obtain ⟨rfl, rfl⟩ := Program.ends_pure.mp ended
      have halts : ¬ Tolerated reason := by
        intro tolerated
        cases tolerated with
        | offlineMiss => exact offline rfl
        | notPublished url => exact absent url rfl
      exact .halted nobody halts

/-- What a center comes to is what its walk says. -/
def CenterWalk.Gives (core : Core Sp3 Merged Report InputIdentity) (library : Library)
    (walk : CenterWalk Sp3) : CenterResult Sp3 → Prop
  | .contributed info _ => walk.contributor? core library = some info
  | .absent info => walk.success = none ∧ info.center = walk.center

/-- A cataloged center is walked, or a failure halts the merge. -/
theorem fetchCenterSp3_walks {center : Binary} {tried : List (Tried Sp3)}
    {outcome : Except Reason (CenterResult Sp3)} (cataloged : Cataloged core center)
    (fresh : FreshResults tried)
    (ended : (fetchCenterSp3 core library center).Ends tried outcome) :
    (∃ walk : CenterWalk Sp3, walk.center = center ∧ walk.Follows core ∧ walk.tried = tried ∧
        AllTolerated tried ∧ ∃ result, outcome = .ok result ∧ walk.Gives core library result) ∨
      ∃ reason, outcome = .error reason ∧ HaltsWith tried reason := by
  unfold fetchCenterSp3 at ended
  unfold Cataloged at cataloged
  have tolerated_absent {absent : List AbsentCandidate}
      (passed : ∀ candidate ∈ absent, Passed core candidate) :
      AllTolerated (triedAbsent absent : List (Tried Sp3)) := by
    intro candidate member reason failed
    obtain ⟨other, listed, rfl⟩ := List.mem_map.mp member
    cases failed
    exact (passed other listed).tolerated
  have follows {absent : List AbsentCandidate}
      (passed : ∀ candidate ∈ absent, Passed core candidate) :
      ∀ candidate ∈ absent, Absence candidate.reason ∧
        canonicalFilename core candidate.product = .ok candidate.filename ∧
        archiveUrl core candidate.product = .ok candidate.url := by
    intro candidate member
    have names := passed candidate member
    exact ⟨names.tolerated.absence, names.filename, names.url⟩
  split at ended
  · next candidates found =>
    rw [found] at cataloged
    cases fetchFirstCenterSp3_ends candidates cataloged ended with
    | @contributed absent product result sp3 rest passed order =>
      have unattempted : result.provenance.attempts = [] :=
        fresh ⟨product, .ok (result, sp3)⟩ (by simp) (result, sp3) rfl
      refine .inl ⟨⟨center, absent, some (product, result, sp3)⟩, rfl, ?_, rfl, ?_, _, rfl, ?_⟩
      · exact ⟨follows passed, rest, by rw [found, order]⟩
      · intro candidate member reason failed
        rw [List.mem_append, List.mem_singleton] at member
        cases member with
        | inl earlier => exact tolerated_absent passed candidate earlier reason failed
        | inr last =>
          rw [last] at failed
          cases failed
      · simp [CenterWalk.Gives, CenterWalk.contributor?, contributor, acquisitionFacts, unattempted,
          attemptsOf]
    | @absent absent info passed order named =>
      refine .inl ⟨⟨center, absent, none⟩, rfl, ?_, ?_, tolerated_absent passed, _, rfl, rfl, named⟩
      · exact ⟨follows passed, .inl (by rw [found, order])⟩
      · simp [CenterWalk.tried, triedAbsent]
    | halted passed halts => exact .inr ⟨_, rfl, _, _, rfl, halts⟩
  · next reason found =>
    rw [found] at cataloged
    rw [if_pos cataloged] at ended
    obtain ⟨rfl, rfl⟩ := Program.ends_pure.mp ended
    refine .inl ⟨⟨center, [], none⟩, rfl, ?_, rfl, ?_, _, rfl, rfl, rfl⟩
    · exact ⟨by simp, .inr ⟨rfl, reason, found, cataloged⟩⟩
    · intro candidate member
      cases member
  · next reason other found =>
    rw [found] at cataloged
    cases reason with
    | unsupportedProduct detail => exact absurd rfl (other detail)
    | _ => exact cataloged.elim

/-- What the centers came to is what their walks say, after those before them. -/
structure Collects (core : Core Sp3 Merged Report InputIdentity) (library : Library)
    (before after : CenterWalks Sp3) (walks : List (CenterWalk Sp3)) : Prop where
  contributors : after.contributors.reverse.map (·.1) =
    before.contributors.reverse.map (·.1) ++ walks.filterMap (·.contributor? core library)
  absent : after.absent.reverse.map (·.center) =
    before.absent.reverse.map (·.center) ++ (walks.filter (·.success.isNone)).map (·.center)

/-- Centers were walked one after the other, or a failure halted the merge. -/
def Walked (core : Core Sp3 Merged Report InputIdentity) (library : Library)
    (centers : List Binary) (before : CenterWalks Sp3) (tried : List (Tried Sp3))
    (outcome : Except Reason (CenterWalks Sp3)) : Prop :=
  (∃ walks : List (CenterWalk Sp3), walks.map (·.center) = centers ∧
      walks.flatMap (·.tried) = tried ∧ (∀ walk ∈ walks, walk.Follows core) ∧
      AllTolerated tried ∧ ∃ after, outcome = .ok after ∧
        Collects core library before after walks) ∨
    ∃ reason, outcome = .error reason ∧ HaltsWith tried reason

/-- One more center is walked before the others. -/
theorem Walked.next {walk : CenterWalk Sp3} {rest : List Binary}
    {before between : CenterWalks Sp3} {tried : List (Tried Sp3)}
    {outcome : Except Reason (CenterWalks Sp3)} (follows : walk.Follows core)
    (tolerated : AllTolerated walk.tried) (collects : Collects core library before between [walk])
    (walked : Walked core library rest between tried outcome) :
    Walked core library (walk.center :: rest) before (walk.tried ++ tried) outcome := by
  cases walked with
  | inr halted =>
    obtain ⟨reason, rfl, previous, product, split, halts⟩ := halted
    exact .inr ⟨reason, rfl, walk.tried ++ previous, product, by rw [split, List.append_assoc],
      halts⟩
  | inl walked =>
    obtain ⟨walks, named, flat, all, tolerated', after, rfl, collected⟩ := walked
    refine .inl ⟨walk :: walks, by rw [List.map_cons, named], by rw [List.flatMap_cons, flat], ?_,
      ?_, after, rfl, ?_, ?_⟩
    · intro other member
      cases List.mem_cons.mp member with
      | inl first => exact first ▸ follows
      | inr rest => exact all other rest
    · intro candidate member reason failed
      cases List.mem_append.mp member with
      | inl earlier => exact tolerated candidate earlier reason failed
      | inr later => exact tolerated' candidate later reason failed
    · rw [collected.contributors, collects.contributors, List.append_assoc,
        ← List.filterMap_append, List.singleton_append]
    · rw [collected.absent, collects.absent, List.append_assoc, ← List.map_append,
        ← List.filter_append, List.singleton_append]

/-- Cataloged centers are walked. -/
theorem fetchCenters_walked {centers : List Binary} {before : CenterWalks Sp3}
    {tried : List (Tried Sp3)} {outcome : Except Reason (CenterWalks Sp3)}
    (cataloged : ∀ center ∈ centers, Cataloged core center) (fresh : FreshResults tried)
    (ended : (fetchCenters core library centers before).Ends tried outcome) :
    Walked core library centers before tried outcome := by
  induction centers generalizing before tried with
  | nil =>
    obtain ⟨rfl, rfl⟩ := Program.ends_pure.mp ended
    refine .inl ⟨[], rfl, rfl, by simp, ?_, _, rfl, by simp, by simp⟩
    intro candidate member
    cases member
  | cons center rest ih =>
    have later := fun other member => cataloged other (List.mem_cons_of_mem center member)
    obtain ⟨fetched, first, second, rfl, begins, ended⟩ := Program.ends_bind.mp ended
    have fresh_first : FreshResults first :=
      fun candidate member => fresh candidate (List.mem_append_left _ member)
    have fresh_second : FreshResults second :=
      fun candidate member => fresh candidate (List.mem_append_right _ member)
    cases fetchCenterSp3_walks (cataloged center (by simp)) fresh_first begins with
    | inr halted =>
      obtain ⟨reason, rfl, halts⟩ := halted
      obtain ⟨rfl, rfl⟩ := Program.ends_pure.mp ended
      rw [List.append_nil]
      exact .inr ⟨reason, rfl, halts⟩
    | inl walked =>
      obtain ⟨walk, rfl, follows, rfl, tolerated, result, rfl, gives⟩ := walked
      cases result with
      | contributed info sp3 =>
        have contributes : walk.contributor? core library = some info := gives
        have success : walk.success.isNone = false := by
          unfold CenterWalk.contributor? at contributes
          cases found : walk.success with
          | none => simp [found] at contributes
          | some success => rfl
        have collects : Collects core library before
            { before with contributors := (info, sp3) :: before.contributors } [walk] :=
          ⟨by simp [contributes], by simp [success]⟩
        exact (ih later fresh_second ended).next follows tolerated collects
      | absent info =>
        obtain ⟨none, same⟩ := gives
        have collects : Collects core library before
            { before with absent := info :: before.absent } [walk] :=
          ⟨by simp [CenterWalk.contributor?, none], by simp [none, same]⟩
        exact (ih later fresh_second ended).next follows tolerated collects

/-- What a merge of walked centers returns degrades. -/
theorem Collects.degrades {centers : List Binary} {tried : List (Tried Sp3)}
    {walks : List (CenterWalk Sp3)} {after : CenterWalks Sp3} (merges : Merges core)
    (named : walks.map (·.center) = centers) (flat : walks.flatMap (·.tried) = tried)
    (follows : ∀ walk ∈ walks, walk.Follows core)
    (collects : Collects core library {} after walks) :
    Degrades core library centers tried
      (match after with
      | { contributors := [], absent } => .error (.noProducts absent.reverse)
      | { contributors, absent } =>
        mergeSp3Contributors core contributors.reverse absent.reverse centers) := by
  refine ⟨walks, named, flat, follows, ?_⟩
  have contributors := collects.contributors
  have absent := collects.absent
  simp only [List.reverse_nil, List.map_nil, List.nil_append] at contributors absent
  obtain ⟨found, missing⟩ := after
  cases found with
  | nil =>
    have nobody : walks.filterMap (·.contributor? core library) = [] := contributors.symm
    have all_absent : walks.filter (·.success.isNone) = walks := by
      rw [List.filter_eq_self]
      intro walk member
      have none := List.filterMap_eq_nil_iff.mp nobody walk member
      unfold CenterWalk.contributor? at none
      rw [Option.map_eq_none_iff] at none
      rw [none]
      rfl
    rw [all_absent, named] at absent
    exact ⟨nobody, absent⟩
  | cons first others =>
    obtain ⟨⟨merged, report⟩, accepted⟩ :=
      merges.merge ((first :: others).reverse.map (·.2))
    obtain ⟨identity, identified⟩ := merges.inputIdentity
      (((first :: others).reverse.map (·.1)).map (·.artifactIdentity))
    dsimp only [mergeSp3Contributors]
    rw [accepted]
    dsimp only
    rw [identified]
    exact ⟨by simp, contributors, absent⟩

/-- When every candidate that is tried loads or is absent, a merge degrades if and only if none of
them is gone. -/
theorem mergeCenters_degrades {centers : List CenterInput} {tried : List (Tried Sp3)}
    {outcome : Except MergeFailure (Merged × MergeReport Report InputIdentity)}
    (accepted : checkMerge core (centers.map normalizeCode) = .ok ())
    (cataloged : ∀ center ∈ centers, Cataloged core (normalizeCode center))
    (merges : Merges core) (fresh : FreshResults tried)
    (answered : ∀ candidate ∈ tried, Answered candidate)
    (ended : (mergeCenters core library centers).Ends tried outcome) :
    Degrades core library (centers.map normalizeCode) tried outcome ↔
      ∀ candidate ∈ tried, ¬ Gone candidate := by
  unfold mergeCenters at ended
  dsimp only at ended
  rw [accepted] at ended
  obtain ⟨fetched, first, second, rfl, begins, finishes⟩ := Program.ends_bind.mp ended
  have cataloged' : ∀ center ∈ centers.map normalizeCode, Cataloged core center := by
    intro center member
    obtain ⟨input, listed, rfl⟩ := List.mem_map.mp member
    exact cataloged input listed
  have fresh_first : FreshResults first :=
    fun candidate member => fresh candidate (List.mem_append_left _ member)
  cases fetchCenters_walked cataloged' fresh_first begins with
  | inl walked =>
    obtain ⟨walks, named, flat, follows, tolerated, after, rfl, collects⟩ := walked
    have degrades := collects.degrades merges named flat follows
    have present : ∀ candidate ∈ first, ¬ Gone candidate := by
      rintro candidate member ⟨url, gone⟩
      cases tolerated candidate member _ gone
    obtain ⟨found, missing⟩ := after
    cases found with
    | nil =>
      obtain ⟨rfl, rfl⟩ := Program.ends_pure.mp finishes
      rw [List.append_nil]
      exact ⟨fun _ => present, fun _ => degrades⟩
    | cons contributor others =>
      obtain ⟨rfl, rfl⟩ := Program.ends_pure.mp finishes
      rw [List.append_nil]
      exact ⟨fun _ => present, fun _ => degrades⟩
  | inr halted =>
    obtain ⟨reason, rfl, before, product, rfl, halts⟩ := halted
    obtain ⟨rfl, rfl⟩ := Program.ends_pure.mp finishes
    have member : (⟨product, .error reason⟩ : Tried Sp3) ∈
        before ++ [⟨product, .error reason⟩] ++ [] := by
      simp
    constructor
    · intro degrades
      obtain ⟨walks, -, -, -, impossible⟩ := degrades.walks
      exact impossible.elim
    · intro present
      obtain ⟨url, rfl⟩ := Absence.gone (answered _ member) halts
      exact absurd ⟨url, rfl⟩ (present _ member)

/-- A candidate's success has no attempts of its own. -/
theorem tryCandidate_fresh (opts : Options) (product : Product) :
    (tryCandidate core library opts product).Returns fun answer =>
      ∀ success, answer = .ok success → success.1.provenance.attempts = [] := by
  have acquired : (acquireCatalogProduct core library product opts).Returns (Lists []) := by
    unfold acquireCatalogProduct
    split
    · trivial
    · unfold doAcquire
      refine contact_lists.bind fun outcome listed => ?_
      cases outcome with
      | ok result => exact listed
      | error reason =>
        dsimp only
        split <;> trivial
  unfold tryCandidate
  refine acquired.bind fun outcome listed => ?_
  cases outcome with
  | error reason => rintro _ ⟨⟩
  | ok result =>
    refine (Program.returns_any _).bind fun content _ => ?_
    cases core.loadSp3 content with
    | error detail => rintro _ ⟨⟩
    | ok sp3 =>
      rintro _ ⟨⟩
      exact listed

end Walking

section Plain

/-- A core with one product for each center, all of which load and are merged. -/
def plainCore : Core Unit Unit Unit Unit where
  centerEntry _ := .ok ()
  targetDate := some plainIdentity.date
  sp3Candidates center := .ok [{ center, date := plainIdentity.date, sample := ascii "05M" }]
  identity product := .ok { plainIdentity with analysisCenter := product.center }
  canonicalFilename _ := .ok (ascii "product.SP3")
  archiveUrl product := .ok (ascii "https://igs.bkg.bund.de/" ++ product.center)
  ultraLocations _ _ _ := none
  loadSp3 _ := .ok ()
  validateIdentityPolicy := .ok ()
  merge _ := .ok ((), ())
  mergeInputIdentity _ := .ok ()

/-- The plain library with an archive for each center. -/
def archiveLibrary : Library :=
  { plainLibrary with
    distributionLocation fields _ := .ok {
      originalUrl := some (ascii "https://igs.bkg.bund.de/" ++ fields.getD 1 [])
      compression := .none } }

/-- Two centers. -/
def twoCenters : List CenterInput := [.code (ascii "COD"), .code (ascii "GFZ")]

/-- A world with nothing in it. -/
def emptyWorld : World Unit where
  stored _ := .nothing
  files _ := none
  outside := ()

/-- Surroundings in which one archive is gone and the others have the product. -/
def goneArchive : Environment Unit :=
  { unpublished with
    answer
      | .getReq url _ _, _ =>
        (if url = ascii "https://igs.bkg.bund.de/COD" then .response 410 [] [] false
          else .response 200 [] plainContent false, ())
      | request, outside => unpublished.answer request outside }

/-- The URL of the archive that is gone, if that is why a merge fails. -/
def haltedBy {Merged Report InputIdentity Outside : Type}
    (ended : Except Raised (Except MergeFailure (Merged × MergeReport Report InputIdentity)) ×
      World Outside) : Option Binary :=
  match ended.1 with
  | .ok (.error (.acquisition (.response .retiredEndpoint 410 url))) => some url
  | _ => none

/-- The center of every contributor of a merge. -/
def contributors {Merged Report InputIdentity Outside : Type}
    (ended : Except Raised (Except MergeFailure (Merged × MergeReport Report InputIdentity)) ×
      World Outside) : List Binary :=
  match ended.1 with
  | .ok (.ok (_, report)) => report.contributors.map (·.center)
  | _ => []

end Plain

end Sidereon.Distribution
