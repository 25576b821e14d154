import Mathlib.Logic.Function.Basic
import Sidereon.Cache.Commit

/-!
# The cache directory

A directory maps each file to its contents. The file system answers the calls of any number of
fetches, may fail any of them, and leaves a file with unknown contents when a write, a sync or a
close fails.
-/

namespace Sidereon.Cache

open Foundation

/-- The contents of the files. -/
abbrev Directory := File → Option Bytes

/-- A failed operation on a file may leave anything in it. -/
def Damaged (directory : Directory) (file : File) (directory' : Directory) : Prop :=
  directory' = directory ∨
    directory file ≠ none ∧ ∃ contents, directory' = Function.update directory file (some contents)

/-- How the file system, the clock and the archives answer a call. -/
def Respond : (request : Request) → Directory → Answer request → Directory → Prop
  | .read file, directory, .ok data, directory' => directory file = some data ∧
      directory' = directory
  | .read file, directory, .error .enoent, directory' => directory file = none ∧
      directory' = directory
  | .read _, directory, .error _, directory' => directory' = directory
  | .makeDir _, directory, _, directory' => directory' = directory
  | .tempStamp, directory, _, directory' => directory' = directory
  | .openExclusive file, directory, .ok _, directory' => directory file = none ∧
      directory' = Function.update directory file (some [])
  | .openExclusive _, directory, .error _, directory' => directory' = directory
  | .write file data, directory, .ok _, directory' =>
      directory' = Function.update directory file ((directory file).map (· ++ data))
  | .write file _, directory, .error _, directory' => Damaged directory file directory'
  | .sync _, directory, .ok _, directory' => directory' = directory
  | .sync file, directory, .error _, directory' => Damaged directory file directory'
  | .close _, directory, .ok _, directory' => directory' = directory
  | .close file, directory, .error _, directory' => Damaged directory file directory'
  | .rename source target, directory, .ok _, directory' => ∃ contents,
      directory source = some contents ∧
        directory' = Function.update (Function.update directory source none) target (some contents)
  | .rename _ _, directory, .error _, directory' => directory' = directory
  | .remove file, directory, .ok _, directory' => directory file ≠ none ∧
      directory' = Function.update directory file none
  | .remove file, directory, .error .enoent, directory' => directory file = none ∧
      directory' = directory
  | .remove _, directory, .error _, directory' => directory' = directory
  | .download _ _, directory, _, directory' => directory' = directory
  | .now, directory, _, directory' => directory' = directory

/-- What the surroundings contribute to an answer: a name for a temporary file, the reply of the
archive, and the time. -/
structure Setting where
  stamp : Nat × Nat
  archive : Except Reason Bytes
  time : DateTime

/-- The answers while nothing fails. -/
def reply (setting : Setting) : (request : Request) → Directory → Answer request × Directory
  | .read file, directory =>
    match directory file with
    | some data => (.ok data, directory)
    | none => (.error .enoent, directory)
  | .makeDir _, directory => (.ok (), directory)
  | .tempStamp, directory => (setting.stamp, directory)
  | .openExclusive file, directory =>
    match directory file with
    | some _ => (.error .eexist, directory)
    | none => (.ok (), Function.update directory file (some []))
  | .write file data, directory =>
    (.ok (), Function.update directory file ((directory file).map (· ++ data)))
  | .sync _, directory => (.ok (), directory)
  | .close _, directory => (.ok (), directory)
  | .rename source target, directory =>
    match directory source with
    | some contents =>
      (.ok (), Function.update (Function.update directory source none) target (some contents))
    | none => (.error .enoent, directory)
  | .remove file, directory =>
    match directory file with
    | some _ => (.ok (), Function.update directory file none)
    | none => (.error .enoent, directory)
  | .download _ _, directory => (setting.archive, directory)
  | .now, directory => (setting.time, directory)

/-- These are answers of the file system. -/
theorem respond_reply (setting : Setting) (request : Request) (directory : Directory) :
    Respond request directory (reply setting request directory).1
      (reply setting request directory).2 := by
  cases request with
  | read file =>
    cases found : directory file with
    | none => simp [reply, Respond, found]
    | some data => simp [reply, Respond, found]
  | makeDir directory => rfl
  | tempStamp => rfl
  | openExclusive file =>
    cases found : directory file with
    | none => simp [reply, Respond, found]
    | some data => simp [reply, Respond, found]
  | write file data => rfl
  | sync file => rfl
  | close file => rfl
  | rename source target =>
    cases found : directory source with
    | none => simp [reply, Respond, found]
    | some contents => simp [reply, Respond, found]
  | remove file =>
    cases found : directory file with
    | none => simp [reply, Respond, found]
    | some data => simp [reply, Respond, found]
  | download url protocol => rfl
  | now => rfl

/-- The digest a sidecar names, if it can be read and names one. -/
def namedDigest (library : Library) (json : Bytes) : Option String :=
  match (library.decode json).bind expectedDigest with
  | some (.string digest) => some digest
  | _ => none

/-- A sidecar names the digest of some data. -/
def Describes (library : Library) (json data : Bytes) : Prop :=
  (namedDigest library json).map library.downcase = some (library.sha256 data)

instance (library : Library) (json data : Bytes) : Decidable (Describes library json data) :=
  inferInstanceAs (Decidable (_ = _))

/-- What `classify_data_file` says of a directory when no digest is pinned. -/
def classificationOf (library : Library) (directory : Directory) (path : CachePath) :
    Except Raised Classification :=
  ((classifyDataFile library path .absent).replay
    (reply ⟨(0, 0), .ok [], ⟨0⟩⟩) directory).1

variable {library : Library} {path : CachePath} {directory : Directory}

/-- A product is a hit when its sidecar names its digest. -/
theorem classificationOf_eq_hit_iff :
    classificationOf library directory path = .ok (.hit path) ↔
      ∃ data json, directory (.product path) = some data ∧ directory (.sidecar path) = some json ∧
        Describes library json data := by
  unfold classificationOf classifyDataFile readFile
  simp only [Program.replay_bind, Program.replay_perform]
  cases product : directory (.product path) with
  | none => simp [reply, product]
  | some data =>
    simp only [reply, product, classifyWithProvenance, readJson, readFile, Program.replay_bind,
      Program.replay_perform]
    cases sidecar : directory (.sidecar path) with
    | none => simp
    | some json =>
      cases decoded : library.decode json with
      | none => simp [Describes, namedDigest, decoded]
      | some provenance =>
        cases named : expectedDigest provenance with
        | none => simp [Describes, namedDigest, decoded, named]
        | some value =>
          cases value with
          | string expected =>
            by_cases same : library.sha256 data = library.downcase expected
            · simp [Describes, namedDigest, decoded, named, same]
            · simp [Describes, namedDigest, decoded, named, same, Ne.symm same]
          | _ => simp [Describes, namedDigest, decoded, named]

section Sample

/-- The digests of two one-byte products and the time of their commits. -/
def pairLibrary : Library :=
  sampleLibrary
    [([97], "ca978112ca1bbdcafac231b39a23dc4da786eff8147c4e72b9807785afee48bb"),
     ([98], "3e23e8160039594a33894f6564e1b1348bbd7a0088d42c4acb73eeaed59c009d")]
    [(⟨1782864000000000⟩, "2026-07-01T00:00:00.000000Z")]

/-- The place of a final orbit product. -/
def orbitRoute : Route where
  path := ⟨"cache", "COD0MGXFIN_20261500000_01D_05M_ORB.SP3"⟩
  url := "https://www.aiub.unibe.ch/download/COD0MGXFIN_20261500000_01D_05M_ORB.SP3"
  protocol := "https"
  compression := "none"

/-- A fetch of that product. -/
def orbitCall : GnssCall where
  route := .ok orbitRoute
  center := "cod"
  productType := "sp3"
  sha256 := .absent
  offline := false
  maxDecompressedBytes := 1000

/-- The provenance of a product of given contents. -/
def orbitProvenance (data : Bytes) : Json :=
  gnssProvenance pairLibrary orbitCall orbitRoute data data ⟨1782864000000000⟩

/-- The sidecar of each product describes it, and not the other one. -/
theorem orbitProvenance_describes :
    Describes pairLibrary (pairLibrary.encode (orbitProvenance [97])) [97] ∧
      Describes pairLibrary (pairLibrary.encode (orbitProvenance [98])) [98] ∧
      ¬Describes pairLibrary (pairLibrary.encode (orbitProvenance [98])) [97] := by
  decide +kernel

end Sample

end Sidereon.Cache
