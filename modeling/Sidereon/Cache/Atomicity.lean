import Sidereon.Cache.Effects

/-!
# How atomic a commit is

A commit replaces a sidecar and a product by two renames. Cut off between them it leaves the new
sidecar with the old data, and failing after the first temporary file is written it leaves that file
behind. In every other case the directory still holds the old pair or holds the new one.
-/

namespace Sidereon.Cache

open Foundation

variable {library : Library} {path : CachePath}

/-- The renames of a commit: its sidecar, and after it its data. -/
def CommitRenames (path : CachePath) (data json : Bytes) (past : Past) (source target : File) :
    Prop :=
  target = .sidecar path ∧ grip past source = .holds json ∨
    target = .product path ∧ grip past source = .holds data ∧ Placed past (.sidecar path)

/-- The directory in the course of a commit: what is renamed is in place, and everything else that
the process does not have is as it was. -/
structure Staged (path : CachePath) (data json : Bytes) (initial : Directory) (past : Past)
    (directory : Directory) : Prop where
  holding : Holding past directory
  fresh : ∀ file, grip past file ≠ .free → initial file = none
  temps : ∀ file, file.IsTemp → grip past file = .free → directory file = initial file
  plain : ∀ file, ¬file.IsTemp → ¬Placed past file → directory file = initial file
  sidecar : Placed past (.sidecar path) → directory (.sidecar path) = some json
  product : Placed past (.product path) → directory (.product path) = some data
  ordered : Placed past (.product path) → Placed past (.sidecar path)

/-- No call has been answered yet. -/
theorem Staged.start {data json : Bytes} {initial : Directory} :
    Staged path data json initial [] initial := by
  have unplaced : ∀ file, ¬Placed [] file := by
    intro file placed
    obtain ⟨source, member⟩ := placed
    cases member
  constructor
  · exact Holding.nil
  · intro file has
    exact absurd rfl has
  · intros
    rfl
  · intros
    rfl
  · intro placed
    exact absurd placed (unplaced _)
  · intro placed
    exact absurd placed (unplaced _)
  · intro placed
    exact absurd placed (unplaced _)

/-- What a permitted rename of a commit puts in place. -/
theorem Staged.renamed {data json contents : Bytes} {initial directory : Directory} {past : Past}
    {source target : File} (staged : Staged path data json initial past directory)
    (permitted : Permits (CommitRenames path data json) past (.rename source target))
    (found : directory source = some contents) :
    target = .sidecar path ∧ contents = json ∨
      target = .product path ∧ contents = data ∧ Placed past (.sidecar path) := by
  rcases permitted.2.2 with ⟨onto, holds⟩ | ⟨onto, holds, placed⟩
  · have known := staged.holding.contents source json holds
    rw [found] at known
    exact .inl ⟨onto, Option.some.inj known⟩
  · have known := staged.holding.contents source data holds
    rw [found] at known
    exact .inr ⟨onto, Option.some.inj known, placed⟩

/-- Every permitted call of a commit keeps the directory staged. -/
theorem Staged.step {data json : Bytes} {initial directory directory' : Directory} {past : Past}
    {request : Request} {answer : Answer request}
    (staged : Staged path data json initial past directory)
    (permitted : Permits (CommitRenames path data json) past request)
    (responded : Respond request directory answer directory') :
    Expects past request answer ∧
      Staged path data json initial (⟨request, answer⟩ :: past) directory' := by
  obtain ⟨expected, effect⟩ := respond_effect staged.holding permitted responded
  have holding := effect.holding staged.holding
  have later : ∀ file, Placed past file → Placed (⟨request, answer⟩ :: past) file := by
    intro file placed
    exact placed_cons.mpr (.inr placed)
  -- What is at a product or a sidecar after the call: what was there, or what was renamed onto it.
  have settled := effect.plain staged.holding
  refine ⟨expected, holding, ?fresh, ?temps, ?plain, ?sidecar, ?product, ?ordered⟩
  case fresh =>
    intro file has
    have temp := holding.temp file has
    by_cases free : grip past file = .free
    · rcases effect.gained has with had | absent
      · exact absurd free had
      · rw [← staged.temps file temp free]
        exact absent
    · exact staged.fresh file free
  case temps =>
    intro file temp free
    rcases effect.released temp free with ⟨free, same⟩ | ⟨has, gone⟩
    · rw [same]
      exact staged.temps file temp free
    · rw [gone, staged.fresh file has]
  case plain =>
    intro file plain unplaced
    rcases settled file plain with ⟨same, placed⟩ | ⟨source, contents, renamed, _⟩
    · rw [same]
      exact staged.plain file plain (fun before => unplaced (placed.mpr before))
    · exact absurd (placed_cons.mpr (.inl ⟨source, renamed⟩)) unplaced
  case sidecar =>
    intro placed
    rcases settled (.sidecar path) id with ⟨same, before⟩ | ⟨source, contents, renamed, _, found, now⟩
    · rw [same]
      exact staged.sidecar (before.mp placed)
    · cases renamed
      rcases staged.renamed permitted found with ⟨_, known⟩ | ⟨onto, _⟩
      · rw [now, known]
      · cases onto
  case product =>
    intro placed
    rcases settled (.product path) id with ⟨same, before⟩ | ⟨source, contents, renamed, _, found, now⟩
    · rw [same]
      exact staged.product (before.mp placed)
    · cases renamed
      rcases staged.renamed permitted found with ⟨onto, _⟩ | ⟨_, known, _⟩
      · cases onto
      · rw [now, known]
  case ordered =>
    intro placed
    rcases settled (.product path) id with ⟨_, before⟩ | ⟨source, contents, renamed, _, found, _⟩
    · exact later _ (staged.ordered (before.mp placed))
    · cases renamed
      rcases staged.renamed permitted found with ⟨onto, _⟩ | ⟨_, _, before⟩
      · cases onto
      · exact later _ before

/-- An attempt at a commit leaves the directory staged, and tells how far it came when it ends. -/
theorem attempt_staged {data : Bytes} {provenance : Json} {initial directory : Directory}
    {past : Past} {rest : Action (Except Reason Unit)}
    (attempt : (commitFile library path data provenance).Attempt Respond initial past rest
      directory) :
    Staged path data (library.encode provenance) initial past directory ∧
      ∀ reason, rest = .done (.error reason) → Committed [] past (.error reason) := by
  have keeps : Program.Keeps (Permits (CommitRenames path data (library.encode provenance)))
      Expects (fun after outcome => ∃ result, outcome = .ok result ∧ Committed [] after result) []
      (commitFile library path data provenance) := by
    apply keeps_commitFile
    · intro after file _ holds
      exact .inl ⟨rfl, holds⟩
    · intro after file _ holds placed
      exact .inr ⟨rfl, holds, placed⟩
  have outcome := keeps.attempt (Staged path data (library.encode provenance) initial)
    Staged.start (fun _ _ _ _ _ staged permitted responded => staged.step permitted responded)
    attempt
  apply And.intro outcome.1
  intro reason ended
  subst ended
  obtain ⟨result, equal, committed⟩ := outcome.2
  cases equal
  exact committed

/-- A failed commit leaves every file as it was exactly when it failed before a temporary file was
written out and removed the one it had. -/
theorem Staged.unchanged_iff {data json : Bytes} {initial directory : Directory} {past : Past}
    {reason : Reason} (staged : Staged path data json initial past directory)
    (committed : Committed [] past (.error reason)) :
    directory = initial ↔ progress past ≠ .written ∧ RemovalsSucceed past := by
  cases committed with
  | early spoiled =>
    have early : progress past ≠ .written := by
      rw [spoiled.reached]
      simp [progress, Progress.orElse]
    have removals := spoiled.removals (fun _ _ member => by cases member)
    rw [and_iff_right early, removals]
    constructor
    · intro same
      funext file
      by_contra has
      exact staged.holding.present file has (same ▸ staged.fresh file has)
    · intro free
      funext file
      by_cases temp : file.IsTemp
      · exact staged.temps file temp (congrFun free file)
      · apply staged.plain file temp
        rw [spoiled.placed]
        rintro ⟨source, member⟩
        cases member
  | @late _ file _ _ reached left =>
    apply iff_of_false
    · intro same
      have has : grip past file ≠ .free := by
        rw [left]
        simp
      exact staged.holding.present _ has (same ▸ staged.fresh _ has)
    · intro early
      exact early.1 reached

/-- What a commit of new data should leave: a hit on the old pair or on the new one, and after an
error the files it found. -/
def Atomic (library : Library) (path : CachePath) (data json : Bytes) (initial : Directory)
    (rest : Action (Except Reason Unit)) (directory : Directory) : Prop :=
  (classificationOf library directory path = .ok (.hit path) ∧
    (directory (.product path) = initial (.product path) ∧
        directory (.sidecar path) = initial (.sidecar path) ∨
      directory (.product path) = some data ∧ directory (.sidecar path) = some json)) ∧
    ∀ reason, rest = .done (.error reason) → directory = initial

/-- What the answers to a commit must be for that: the sidecar is not renamed without the data,
unless one of the two stays the same, and no error comes after the first temporary file is written
or from a temporary file that cannot be removed. -/
def Undivided (path : CachePath) (data json : Bytes) (initial : Directory) (past : Past)
    (rest : Action (Except Reason Unit)) : Prop :=
  (Placed past (.sidecar path) → ¬Placed past (.product path) →
    initial (.product path) = some data ∨ initial (.sidecar path) = some json) ∧
    ∀ reason, rest = .done (.error reason) → progress past ≠ .written ∧ RemovalsSucceed past

/-- The pair at a path in the course of a commit. -/
theorem Staged.pair {data json : Bytes} {initial directory : Directory} {past : Past}
    (staged : Staged path data json initial past directory) :
    directory (.product path) = initial (.product path) ∧
        directory (.sidecar path) = initial (.sidecar path) ∧ ¬Placed past (.sidecar path) ∨
      directory (.product path) = initial (.product path) ∧
        directory (.sidecar path) = some json ∧ Placed past (.sidecar path) ∧
        ¬Placed past (.product path) ∨
      directory (.product path) = some data ∧ directory (.sidecar path) = some json ∧
        Placed past (.product path) := by
  by_cases product : Placed past (.product path)
  · have sidecar := staged.ordered product
    exact .inr (.inr ⟨staged.product product, staged.sidecar sidecar, product⟩)
  · have same := staged.plain (.product path) id product
    by_cases sidecar : Placed past (.sidecar path)
    · exact .inr (.inl ⟨same, staged.sidecar sidecar, sidecar, product⟩)
    · exact .inl ⟨same, staged.plain (.sidecar path) id sidecar, sidecar⟩

/-- A commit over a hit is atomic exactly when it is not cut off or failed between its renames, and
fails, if at all, before a temporary file is written. -/
theorem commit_atomic_iff {data : Bytes} {provenance : Json} {initial directory : Directory}
    {past : Past} {rest : Action (Except Reason Unit)}
    (hit : classificationOf library initial path = .ok (.hit path))
    (describes : Describes library (library.encode provenance) data)
    (attempt : (commitFile library path data provenance).Attempt Respond initial past rest
      directory) :
    Atomic library path data (library.encode provenance) initial rest directory ↔
      Undivided path data (library.encode provenance) initial past rest := by
  obtain ⟨staged, ends⟩ := attempt_staged attempt
  obtain ⟨oldData, oldJson, hasData, hasJson, old⟩ := classificationOf_eq_hit_iff.mp hit
  have hits : ∀ data json, directory (.product path) = some data →
      directory (.sidecar path) = some json → Describes library json data →
      classificationOf library directory path = .ok (.hit path) :=
    fun data json product sidecar describes =>
      classificationOf_eq_hit_iff.mpr ⟨data, json, product, sidecar, describes⟩
  apply and_congr
  · rcases staged.pair with ⟨product, sidecar, unplaced⟩ | ⟨product, sidecar, placed, unplaced⟩ |
      ⟨product, sidecar, placed⟩
    · apply iff_of_true
      · have still := hits oldData oldJson (product.trans hasData) (sidecar.trans hasJson) old
        exact ⟨still, .inl ⟨product, sidecar⟩⟩
      · intro placed
        exact absurd placed unplaced
    · -- The new sidecar lies beside the old data.
      constructor
      · intro atomic _ _
        rcases atomic.2 with ⟨_, same⟩ | ⟨same, _⟩
        · exact .inr (same ▸ sidecar)
        · exact .inl (product ▸ same)
      · intro undivided
        rcases undivided placed unplaced with same | same
        · have now := product.trans same
          exact ⟨hits data _ now sidecar describes, .inr ⟨now, sidecar⟩⟩
        · have now := sidecar.trans same.symm
          have still := hits oldData oldJson (product.trans hasData) (now.trans hasJson) old
          exact ⟨still, .inl ⟨product, now⟩⟩
    · apply iff_of_true
      · exact ⟨hits data _ product sidecar describes, .inr ⟨product, sidecar⟩⟩
      · intro _ unplaced
        exact absurd placed unplaced
  · apply forall_congr'
    intro reason
    apply imp_congr_right
    intro ended
    exact staged.unchanged_iff (ends reason ended)

section Sample

/-- A cache that holds the first product with its sidecar. -/
def orbitCache : Directory
  | .product path => if path = orbitRoute.path then some [97] else none
  | .sidecar path =>
    if path = orbitRoute.path then some (pairLibrary.encode (orbitProvenance [97])) else none
  | .temp _ _ _ => none

/-- The answers to a commit of the second product up to and with the rename of its sidecar. -/
def upToSidecar : List Setting :=
  (List.range 12).map fun n => ⟨(n, 0), .ok [], ⟨1782864000000000⟩⟩

/-- A commit that is cut off after the rename of its sidecar. -/
def cutCommit : Past × Action (Except Reason Unit) × Directory :=
  Program.follow reply upToSidecar []
    (commitFile pairLibrary orbitRoute.path [98] (orbitProvenance [98])) orbitCache

/-- Its sidecar is the new one, its product the old one. -/
theorem cutCommit_pair : cutCommit.2.2 (.product orbitRoute.path) = some [97] ∧
    cutCommit.2.2 (.sidecar orbitRoute.path) =
      some (pairLibrary.encode (orbitProvenance [98])) :=
  ⟨rfl, rfl⟩

/-- The cache holds a hit. -/
theorem orbitCache_hit :
    classificationOf pairLibrary orbitCache orbitRoute.path = .ok (.hit orbitRoute.path) :=
  classificationOf_eq_hit_iff.mpr ⟨[97], _, rfl, rfl, orbitProvenance_describes.1⟩

/-- The cut commit leaves a pair that is neither the old nor the new one, and no hit. -/
theorem commit_atomic_fails :
    classificationOf pairLibrary orbitCache orbitRoute.path = .ok (.hit orbitRoute.path) ∧
      Describes pairLibrary (pairLibrary.encode (orbitProvenance [98])) [98] ∧
      (commitFile pairLibrary orbitRoute.path [98] (orbitProvenance [98])).Attempt Respond
        orbitCache cutCommit.1 cutCommit.2.1 cutCommit.2.2 ∧
      ¬Atomic pairLibrary orbitRoute.path [98] (pairLibrary.encode (orbitProvenance [98]))
        orbitCache cutCommit.2.1 cutCommit.2.2 := by
  refine ⟨orbitCache_hit, orbitProvenance_describes.2.1, ?attempt, ?broken⟩
  case attempt =>
    unfold cutCommit
    exact Program.attempt_follow respond_reply upToSidecar .start
  case broken =>
    intro atomic
    obtain ⟨data, json, product, sidecar, describes⟩ := classificationOf_eq_hit_iff.mp atomic.1.1
    rw [cutCommit_pair.1] at product
    rw [cutCommit_pair.2] at sidecar
    cases product
    cases sidecar
    exact orbitProvenance_describes.2.2 describes

/-- A commit that is answered to its end. -/
def wholeCommit : Past × Action (Except Reason Unit) × Directory :=
  Program.follow reply ((List.range 13).map fun n => ⟨(n, 0), .ok [], ⟨1782864000000000⟩⟩) []
    (commitFile pairLibrary orbitRoute.path [98] (orbitProvenance [98])) orbitCache

/-- A commit that meets the condition leaves the new pair. -/
theorem commit_atomic_whole :
    Atomic pairLibrary orbitRoute.path [98] (pairLibrary.encode (orbitProvenance [98]))
      orbitCache wholeCommit.2.1 wholeCommit.2.2 := by
  have attempt : (commitFile pairLibrary orbitRoute.path [98] (orbitProvenance [98])).Attempt
      Respond orbitCache wholeCommit.1 wholeCommit.2.1 wholeCommit.2.2 := by
    unfold wholeCommit
    exact Program.attempt_follow respond_reply _ .start
  apply (commit_atomic_iff orbitCache_hit orbitProvenance_describes.2.1 attempt).mpr
  constructor
  · intro _ unplaced
    apply absurd _ unplaced
    exact ⟨.temp "cache" 1 0, List.mem_cons_self ..⟩
  · intro reason ended
    cases ended

end Sample

end Sidereon.Cache
