import Mathlib.Data.List.Infix
import Sidereon.Cache.Directory
import Sidereon.Foundation.Interleaving

/-!
# The contract of a commit

From its own history a fetch knows which temporary files it has and what they hold. The contract of
a fetch is that it opens temporary files only, works on those it has, and renames them onto a
sidecar or a product. `write_temp` either yields a file that holds all of its data or leaves the
files the process had as they were.
-/

namespace Sidereon.Cache

open Foundation

/-- A file named by `write_temp`. -/
def File.IsTemp : File → Prop
  | .temp _ _ _ => True
  | _ => False

/-- The answered calls of a cache process. -/
abbrev Past := History Request Answer

/-- What a process knows of a file from its own calls: that it does not have it, that it has it
with unknown contents, or what it wrote to it. -/
inductive Grip where
  | free
  | damaged
  | holds (data : Bytes)
  deriving DecidableEq, Repr

/-- A file after more is written to it. -/
def Grip.append (data : Bytes) : Grip → Grip
  | .holds before => .holds (before ++ data)
  | grip => grip

/-- A file after a failed operation. -/
def Grip.damage : Grip → Grip
  | .free => .free
  | _ => .damaged

/-- What an answered call changes in the grip of its process. -/
def grasp (before : File → Grip) : Event Request Answer → File → Grip
  | ⟨.openExclusive file, .ok _⟩ => Function.update before file (.holds [])
  | ⟨.write file data, .ok _⟩ => Function.update before file ((before file).append data)
  | ⟨.write file _, .error _⟩ => Function.update before file (before file).damage
  | ⟨.sync file, .error _⟩ => Function.update before file (before file).damage
  | ⟨.close file, .error _⟩ => Function.update before file (before file).damage
  | ⟨.rename source _, .ok _⟩ => Function.update before source .free
  | ⟨.remove file, .ok _⟩ => Function.update before file .free
  | _ => before

/-- The grip of a process after its history. -/
def grip : Past → File → Grip
  | [] => fun _ => .free
  | event :: older => grasp (grip older) event

/-- The calls a history permits: a process opens temporary files only, works on files it has, and
renames one onto a product or a sidecar when `mayRename` allows it. -/
def Permits (mayRename : Past → File → File → Prop) (past : Past) : Request → Prop
  | .openExclusive file => file.IsTemp
  | .write file _ => grip past file ≠ .free
  | .sync file => grip past file ≠ .free
  | .close file => grip past file ≠ .free
  | .remove file => grip past file ≠ .free
  | .rename source target => grip past source ≠ .free ∧ ¬target.IsTemp ∧
      mayRename past source target
  | _ => True

/-- The answers a history expects: an exclusive open never yields a file the process has. -/
def Expects (past : Past) : (request : Request) → Answer request → Prop
  | .openExclusive file, .ok _ => grip past file = .free
  | _, _ => True

/-- A rename onto a file has succeeded. -/
def Placed (past : Past) (target : File) : Prop :=
  ∃ source, (⟨.rename source target, .ok ()⟩ : Event Request Answer) ∈ past

/-- Whether the answer of a file operation is a success. -/
def succeeded : Event Request Answer → Bool
  | ⟨.makeDir _, .error _⟩ => false
  | ⟨.openExclusive _, .error _⟩ => false
  | ⟨.write _ _, .error _⟩ => false
  | ⟨.sync _, .error _⟩ => false
  | ⟨.close _, .error _⟩ => false
  | ⟨.rename _ _, .error _⟩ => false
  | _ => true

/-- What came first: nothing yet, a temporary file written out and closed, or a failure. -/
inductive Progress where
  | clean
  | written
  | failed
  deriving DecidableEq, Repr

/-- The first of two kinds of progress that came to something. -/
def Progress.orElse : Progress → Progress → Progress
  | .clean, later => later
  | earlier, _ => earlier

/-- The progress of one answered call. -/
def Progress.of : Event Request Answer → Progress
  | ⟨.close _, .ok _⟩ => .written
  | event => if succeeded event then .clean else .failed

/-- The progress of a history. -/
def progress : Past → Progress
  | [] => .clean
  | event :: older => (progress older).orElse (.of event)

/-- No removal of a file has failed. -/
def RemovalsSucceed (past : Past) : Prop :=
  ∀ file reason, (⟨.remove file, .error reason⟩ : Event Request Answer) ∉ past


/-- What comes first of three kinds of progress does not depend on their grouping. -/
theorem Progress.orElse_assoc (first second third : Progress) :
    (first.orElse second).orElse third = first.orElse (second.orElse third) := by
  cases first with
  | clean => rfl
  | written => rfl
  | failed => rfl

variable {mayRename : Past → File → File → Prop} {before between after past : Past} {file : File}

/-- Whether an answered call is neither a successful rename nor a failed removal. -/
def quiet : Event Request Answer → Bool
  | ⟨.rename _ _, .ok _⟩ => false
  | ⟨.remove _, .error _⟩ => false
  | _ => true

/-- More calls were answered, all quiet: what the process then has, and the progress. -/
structure Passed (before after : Past) (held : File → Grip) (stage : Progress) : Prop where
  later : before <:+ after
  has : grip after = held
  placed : ∀ target, Placed after target ↔ Placed before target
  reached : progress after = (progress before).orElse stage
  removals : RemovalsSucceed after ↔ RemovalsSucceed before

/-- A quiet answered call. -/
theorem Passed.answered (past : Past) (event : Event Request Answer)
    (calm : quiet event = true) :
    Passed past (event :: past) (grasp (grip past) event) (.of event) := by
  constructor
  · exact List.suffix_cons _ _
  · rfl
  · intro target
    constructor
    · rintro ⟨source, member⟩
      rcases List.mem_cons.mp member with latest | earlier
      · subst latest
        cases calm
      · exact ⟨source, earlier⟩
    · rintro ⟨source, member⟩
      exact ⟨source, List.mem_cons_of_mem _ member⟩
  · rfl
  · constructor
    · intro succeed file reason member
      exact succeed file reason (List.mem_cons_of_mem _ member)
    · intro succeed file reason member
      rcases List.mem_cons.mp member with latest | earlier
      · subst latest
        cases calm
      · exact succeed file reason earlier

/-- Quiet calls one after the other. -/
theorem Passed.trans {held held' : File → Grip} {stage stage' : Progress}
    (first : Passed before between held stage) (second : Passed between after held' stage') :
    Passed before after held' (stage.orElse stage') where
  later := first.later.trans second.later
  has := second.has
  placed target := (second.placed target).trans (first.placed target)
  reached := by rw [second.reached, first.reached, Progress.orElse_assoc]
  removals := second.removals.trans first.removals

/-- One more quiet answered call. -/
theorem Passed.andThen {held : File → Grip} {stage : Progress}
    (first : Passed before between held stage) (event : Event Request Answer)
    (calm : quiet event = true) :
    Passed before (event :: between) (grasp held event) (stage.orElse (.of event)) := by
  have next := Passed.answered between event calm
  rw [first.has] at next
  exact first.trans next

/-- A file a process has and fails on is damaged. -/
theorem Grip.damage_of_ne {grip : Grip} (has : grip ≠ .free) : grip.damage = .damaged := by
  cases grip with
  | free => exact absurd rfl has
  | damaged => rfl
  | holds data => rfl

/-- The `:file` calls on an open file write all of the data, or damage the file. -/
theorem keeps_writeOut {data : Bytes} {post : Past → Except Raised (Except Posix Unit) → Prop}
    (has : grip past file ≠ .free)
    (written : ∀ after, Passed past after
      (Function.update (grip past) file ((grip past file).append data)) .written →
      post after (.ok (.ok ())))
    (failed : ∀ after reason,
      Passed past after (Function.update (grip past) file .damaged) .failed →
      post after (.ok (.error reason))) :
    Program.Keeps (Permits mayRename) Expects post past (writeOut file data) := by
  rw [writeOut, Program.keeps_bind, Program.keeps_perform]
  apply And.intro has
  intro answer _
  cases answer with
  | error reason =>
    apply failed
    have passed := Passed.answered past ⟨.write file data, .error reason⟩ rfl
    simp only [grasp, Grip.damage_of_ne has] at passed
    exact passed
  | ok done =>
    have wrote := Passed.answered past ⟨.write file data, .ok done⟩ rfl
    have appended : (grip past file).append data ≠ .free := by
      cases held : grip past file with
      | free => exact absurd held has
      | damaged => simp [Grip.append]
      | holds data => simp [Grip.append]
    have still : grip (⟨.write file data, .ok done⟩ :: past) file ≠ .free := by
      simpa [wrote.has, grasp] using appended
    simp only [Program.keeps_bind, Program.keeps_perform]
    apply And.intro still
    intro answer _
    cases answer with
    | error reason =>
      apply failed
      have passed := wrote.andThen ⟨.sync file, .error reason⟩ rfl
      simp only [grasp, Function.update_self, Function.update_idem,
        Grip.damage_of_ne appended] at passed
      exact passed
    | ok synced =>
      have flushed := wrote.andThen ⟨.sync file, .ok synced⟩ rfl
      apply And.intro still
      intro answer _
      cases answer with
      | error reason =>
        apply failed
        have passed := flushed.andThen ⟨.close file, .error reason⟩ rfl
        simp only [grasp, Function.update_self, Function.update_idem,
          Grip.damage_of_ne appended] at passed
        exact passed
      | ok closed =>
        apply written
        exact flushed.andThen ⟨.close file, .ok closed⟩ rfl

/-- What `write_temp` leaves when it fails: what the process had it still has, and it has more only
when the removal of the temporary file failed. -/
structure Spoiled (before after : Past) : Prop where
  later : before <:+ after
  kept : ∀ file, grip before file ≠ .free → grip after file = grip before file
  placed : ∀ target, Placed after target ↔ Placed before target
  reached : progress after = (progress before).orElse .failed
  removals : RemovalsSucceed before → (RemovalsSucceed after ↔ grip after = grip before)

/-- Quiet calls that leave a process what it had and include a failure. -/
theorem Passed.spoiled {held : File → Grip} (passed : Passed before after held .failed)
    (same : held = grip before) : Spoiled before after where
  later := passed.later
  kept file _ := by rw [passed.has, same]
  placed := passed.placed
  reached := passed.reached
  removals succeed := by
    rw [passed.removals, passed.has]
    exact iff_of_true succeed same

/-- After a failure on a new file, its removal decides whether the process is left with it. -/
theorem Passed.removed (fresh : grip before file = .free)
    (passed : Passed before between (Function.update (grip before) file .damaged) .failed)
    (answer : Except Posix Unit) : Spoiled before (⟨.remove file, answer⟩ :: between) := by
  cases answer with
  | ok done =>
    have removed := passed.andThen ⟨.remove file, .ok done⟩ rfl
    apply Passed.spoiled removed
    simp only [grasp, Function.update_idem]
    rw [← fresh, Function.update_eq_self]
  | error reason =>
    have leaves : grip (⟨.remove file, .error reason⟩ :: between) =
        Function.update (grip before) file .damaged := passed.has
    constructor
    · exact passed.later.trans (List.suffix_cons _ _)
    · intro other has
      have different : other ≠ file := by
        intro same
        rw [same] at has
        exact has fresh
      rw [leaves, Function.update_of_ne different]
    · intro target
      rw [← passed.placed target]
      simp [Placed]
    · change (progress between).orElse .clean = _
      rw [passed.reached, Progress.orElse_assoc]
      rfl
    · intro _
      apply iff_of_false
      · intro succeed
        exact succeed file reason (List.mem_cons_self ..)
      · intro same
        have free := congrFun (leaves.symm.trans same) file
        rw [Function.update_self, fresh] at free
        cases free

/-- The clean-up of `write_temp` closes the damaged file once more and removes it. -/
theorem keeps_cleanUp {reason : Posix}
    {post : Past → Except Raised (Except Reason File) → Prop} (fresh : grip before file = .free)
    (passed : Passed before between (Function.update (grip before) file .damaged) .failed)
    (spoiled : ∀ after reason, Spoiled before after → post after (.ok (.error reason))) :
    Program.Keeps (Permits mayRename) Expects post between (do
      let _ ← call (.close file)
      removeFile file
      pure (.error (.cacheNotWritable (.write file reason)))) := by
  have closed : ∀ answer, Passed before (⟨.close file, answer⟩ :: between)
      (Function.update (grip before) file .damaged) .failed := by
    intro answer
    cases answer with
    | ok done => exact passed.andThen ⟨.close file, .ok done⟩ rfl
    | error reason =>
      have again := passed.andThen ⟨.close file, .error reason⟩ rfl
      simpa [grasp, Grip.damage, Progress.of, succeeded, Progress.orElse] using again
  simp only [Program.keeps_bind, Program.keeps_perform, removeFile]
  constructor
  · simp [Permits, passed.has]
  · intro answer _
    constructor
    · simp [Permits, (closed answer).has]
    · intro removal _
      exact spoiled _ _ ((closed answer).removed fresh removal)

/-- `write_temp` yields a new temporary file that holds the data, or leaves what the process had. -/
theorem keeps_writeTemp {directory : String} {data : Bytes}
    {post : Past → Except Raised (Except Reason File) → Prop}
    (wrote : ∀ after file, file.IsTemp → grip past file = .free →
      Passed past after (Function.update (grip past) file (.holds data)) .written →
      post after (.ok (.ok file)))
    (spoiled : ∀ after reason, Spoiled past after → post after (.ok (.error reason))) :
    Program.Keeps (Permits mayRename) Expects post past (writeTemp directory data) := by
  rw [writeTemp, Program.keeps_bind, Program.keeps_perform]
  apply And.intro trivial
  rintro ⟨unique, time⟩ _
  have stamped := Passed.answered past ⟨.tempStamp, (unique, time)⟩ rfl
  simp only [Program.keeps_bind, Program.keeps_perform]
  apply And.intro trivial
  intro answer expected
  cases answer with
  | error reason =>
    apply spoiled
    exact (stamped.andThen ⟨.openExclusive _, .error reason⟩ rfl).spoiled rfl
  | ok opened =>
    have fresh : grip past (.temp directory unique time) = .free := expected
    have opens := stamped.andThen ⟨.openExclusive (.temp directory unique time), .ok opened⟩ rfl
    change Program.Keeps _ _ _ _ (writeOut _ data >>= _)
    rw [Program.keeps_bind]
    apply keeps_writeOut
    case has => simp [opens.has, grasp]
    case written =>
      intro after passed
      have written := opens.trans passed
      simp only [opens.has, grasp, Grip.append, Progress.of, succeeded, Progress.orElse,
        Function.update_self, Function.update_idem, List.nil_append, if_true] at written
      exact wrote after _ trivial fresh written
    case failed =>
      intro between reason passed
      have failed := opens.trans passed
      simp only [opens.has, grasp, Progress.of, succeeded, Progress.orElse,
        Function.update_idem, if_true] at failed
      exact keeps_cleanUp fresh failed spoiled

/-- Quiet calls that change nothing the process has, before a failed `write_temp`. -/
theorem Passed.then_spoiled (passed : Passed before between (grip before) .clean)
    (spoiled : Spoiled between after) : Spoiled before after where
  later := passed.later.trans spoiled.later
  kept file has := by
    rw [← passed.has] at has ⊢
    exact spoiled.kept file has
  placed target := (spoiled.placed target).trans (passed.placed target)
  reached := by rw [spoiled.reached, passed.reached, Progress.orElse_assoc]; rfl
  removals succeed := by
    rw [← passed.has]
    exact spoiled.removals (passed.removals.mpr succeed)

/-- How far a commit came. A failed one renamed nothing and kept what the process had, or failed
with the data still in a temporary file. -/
inductive Committed (before after : Past) : Except Reason Unit → Prop where
  | done (later : before <:+ after) : Committed before after (.ok ())
  | early {reason : Reason} (spoiled : Spoiled before after) :
      Committed before after (.error reason)
  | late {reason : Reason} {file : File} {data : Bytes} (later : before <:+ after)
      (reached : progress after = (progress before).orElse .written)
      (left : grip after file = .holds data) : Committed before after (.error reason)

/-- `rename_file` of a file the process has. -/
theorem keeps_renameFile {source target : File}
    {post : Past → Except Raised (Except Reason Unit) → Prop}
    (permitted : Permits mayRename past (.rename source target))
    (renamed : post (⟨.rename source target, .ok ()⟩ :: past) (.ok (.ok ())))
    (failed : ∀ reason result, post (⟨.rename source target, .error reason⟩ :: past)
      (.ok (.error result))) :
    Program.Keeps (Permits mayRename) Expects post past (renameFile source target) := by
  rw [renameFile, Program.keeps_bind, Program.keeps_perform]
  apply And.intro permitted
  intro answer _
  cases answer with
  | ok done => exact renamed
  | error reason => exact failed reason _

/-- `ensure_dir`, which touches no file. -/
theorem keeps_ensureDir {directory : String}
    {post : Past → Except Raised (Except Reason Unit) → Prop}
    (made : ∀ after, Passed past after (grip past) .clean → post after (.ok (.ok ())))
    (failed : ∀ after reason, Spoiled past after → post after (.ok (.error reason))) :
    Program.Keeps (Permits mayRename) Expects post past (ensureDir directory) := by
  rw [ensureDir, Program.keeps_bind, Program.keeps_perform]
  apply And.intro trivial
  intro answer _
  cases answer with
  | ok done => exact made _ (Passed.answered past ⟨.makeDir directory, .ok done⟩ rfl)
  | error reason =>
    apply failed
    exact (Passed.answered past ⟨.makeDir directory, .error reason⟩ rfl).spoiled rfl

/-- `commit_file` renames what it wrote: the sidecar first, then the data. -/
theorem keeps_commitFile {library : Library} {path : CachePath} {data : Bytes} {provenance : Json}
    (sidecar : ∀ after file, past <:+ after → grip after file = .holds (library.encode provenance) →
      mayRename after file (.sidecar path))
    (product : ∀ after file, past <:+ after → grip after file = .holds data →
      Placed after (.sidecar path) → mayRename after file (.product path)) :
    Program.Keeps (Permits mayRename) Expects (fun after outcome =>
      ∃ result, outcome = .ok result ∧ Committed past after result) past
      (commitFile library path data provenance) := by
  rw [commitFile, Program.keeps_bind]
  apply keeps_ensureDir
  case failed => exact fun after reason spoiled => ⟨_, rfl, .early spoiled⟩
  intro ready made
  change Program.Keeps _ _ _ ready (writeTemp path.directory data >>= _)
  rw [Program.keeps_bind]
  apply keeps_writeTemp
  case spoiled =>
    intro after reason spoiled
    exact ⟨_, rfl, .early (made.then_spoiled spoiled)⟩
  intro written dataTmp _ fresh wroteData
  change Program.Keeps _ _ _ written (writeTemp path.directory _ >>= _)
  rw [Program.keeps_bind]
  apply keeps_writeTemp
  case spoiled =>
    intro after reason spoiled
    have reached : progress after = (progress past).orElse .written := by
      rw [spoiled.reached, wroteData.reached, made.reached]
      cases progress past <;> rfl
    have left : grip after dataTmp = .holds data := by
      rw [spoiled.kept dataTmp (by simp [wroteData.has]), wroteData.has, Function.update_self]
    have later := (made.later.trans wroteData.later).trans spoiled.later
    exact ⟨_, rfl, .late later reached left⟩
  intro both provenanceTmp _ freshSidecar wroteSidecar
  have different : dataTmp ≠ provenanceTmp := by
    intro same
    rw [← same, wroteData.has, Function.update_self] at freshSidecar
    cases freshSidecar
  have later := (made.later.trans wroteData.later).trans wroteSidecar.later
  have reached : progress both = (progress past).orElse .written := by
    rw [wroteSidecar.reached, wroteData.reached, made.reached]
    cases progress past <;> rfl
  have holdsData : grip both dataTmp = .holds data := by
    rw [wroteSidecar.has, Function.update_of_ne different, wroteData.has, Function.update_self]
  have holdsSidecar : grip both provenanceTmp = .holds (library.encode provenance) := by
    rw [wroteSidecar.has, Function.update_self]
  -- The renames are not quiet, so what becomes of the data file is followed call by call.
  have onward : ∀ past' event, progress past' = (progress past).orElse .written →
      progress (event :: past') = (progress past).orElse .written := by
    intro past' event holds
    rw [progress, holds]
    cases progress past <;> rfl
  change Program.Keeps _ _ _ both (renameFile provenanceTmp (.sidecar path) >>= _)
  rw [Program.keeps_bind]
  apply keeps_renameFile
  case permitted =>
    exact ⟨by simp [holdsSidecar], id, sidecar both provenanceTmp later holdsSidecar⟩
  case failed =>
    intro reason result
    exact ⟨_, rfl, .late (later.trans (List.suffix_cons _ _)) (onward _ _ reached) holdsData⟩
  have renamed : past <:+ ⟨.rename provenanceTmp (.sidecar path), .ok ()⟩ :: both :=
    later.trans (List.suffix_cons _ _)
  have stillData : grip (⟨.rename provenanceTmp (.sidecar path), .ok ()⟩ :: both) dataTmp =
      .holds data := by
    simp [grip, grasp, Function.update_of_ne different, holdsData]
  have placed : Placed (⟨.rename provenanceTmp (.sidecar path), .ok ()⟩ :: both)
      (.sidecar path) :=
    ⟨provenanceTmp, List.mem_cons_self ..⟩
  apply keeps_renameFile
  case permitted => exact ⟨by simp [stillData], id, product _ dataTmp renamed stillData placed⟩
  case failed =>
    intro reason result
    exact ⟨_, rfl, .late (renamed.trans (List.suffix_cons _ _))
      (onward _ _ (onward _ _ reached)) stillData⟩
  exact ⟨_, rfl, .done (renamed.trans (List.suffix_cons _ _))⟩


end Sidereon.Cache
