import Sidereon.Cache.Contract

/-!
# What a call does to the directory

A permitted call has one of five effects, and every fact about directories follows from them: what
a process has stays in the directory, other temporary files are left alone, and products and
sidecars change by renames only.
-/

namespace Sidereon.Cache

open Foundation

variable {mayRename : Past → File → File → Prop} {past : Past} {file : File}

/-- What a process has is in the directory. -/
structure Holding (past : Past) (directory : Directory) : Prop where
  temp : ∀ file, grip past file ≠ .free → file.IsTemp
  present : ∀ file, grip past file ≠ .free → directory file ≠ none
  contents : ∀ file data, grip past file = .holds data → directory file = some data

/-- A process that was answered nothing has nothing. -/
theorem Holding.nil {directory : Directory} : Holding [] directory := by
  constructor
  · intro file has
    exact absurd rfl has
  · intro file has
    exact absurd rfl has
  · intro file data holds
    cases holds

/-- What a permitted call can do to the directory and to what its process has: nothing, make a new
temporary file, change or remove one the process has, or rename one. -/
inductive Effect (past : Past) (event : Event Request Answer) (directory directory' : Directory) :
    Prop where
  | idle (quiet : ∀ source target, event ≠ ⟨.rename source target, .ok ()⟩)
      (same : directory' = directory) (held : grip (event :: past) = grip past)
  | opened (file : File) (quiet : ∀ source target, event ≠ ⟨.rename source target, .ok ()⟩)
      (temp : file.IsTemp) (absent : directory file = none)
      (made : directory' = Function.update directory file (some []))
      (held : grip (event :: past) = Function.update (grip past) file (.holds []))
  | worked (file : File) (contents : Bytes) (now : Grip)
      (quiet : ∀ source target, event ≠ ⟨.rename source target, .ok ()⟩)
      (has : grip past file ≠ .free)
      (changed : directory' = Function.update directory file (some contents))
      (held : grip (event :: past) = Function.update (grip past) file now) (kept : now ≠ .free)
      (known : ∀ data, now = .holds data → contents = data)
  | removed (file : File) (quiet : ∀ source target, event ≠ ⟨.rename source target, .ok ()⟩)
      (has : grip past file ≠ .free) (gone : directory' = Function.update directory file none)
      (held : grip (event :: past) = Function.update (grip past) file .free)
  | renamed (source target : File) (contents : Bytes)
      (event_eq : event = ⟨.rename source target, .ok ()⟩) (has : grip past source ≠ .free)
      (plain : ¬target.IsTemp) (found : directory source = some contents)
      (moved : directory' =
        Function.update (Function.update directory source none) target (some contents))
      (held : grip (event :: past) = Function.update (grip past) source .free)

/-- A failed operation on a file the process has leaves it with unknown contents. -/
theorem Effect.damaged {event : Event Request Answer} {directory directory' : Directory}
    (holding : Holding past directory) (has : grip past file ≠ .free)
    (quiet : ∀ source target, event ≠ ⟨.rename source target, .ok ()⟩)
    (held : grip (event :: past) = Function.update (grip past) file (grip past file).damage)
    (damaged : Damaged directory file directory') : Effect past event directory directory' := by
  rw [Grip.damage_of_ne has] at held
  rcases damaged with same | ⟨_, contents, changed⟩
  · obtain ⟨contents, found⟩ := Option.ne_none_iff_exists'.mp (holding.present file has)
    apply Effect.worked file contents .damaged quiet has ?_ held
    · simp
    · intro data impossible
      cases impossible
    · rw [same, ← found, Function.update_eq_self]
  · apply Effect.worked file contents .damaged quiet has changed held
    · simp
    · intro data impossible
      cases impossible

/-- Every permitted call has one of the effects, and its answer is an expected one. -/
theorem respond_effect {request : Request} {answer : Answer request}
    {directory directory' : Directory} (holding : Holding past directory)
    (permitted : Permits mayRename past request)
    (responded : Respond request directory answer directory') :
    Expects past request answer ∧ Effect past ⟨request, answer⟩ directory directory' := by
  cases request with
  | read file =>
    apply And.intro trivial
    cases answer with
    | ok data => exact .idle (by simp) responded.2 rfl
    | error reason =>
      cases reason with
      | enoent => exact .idle (by simp) responded.2 rfl
      | eexist => exact .idle (by simp) responded rfl
      | other reason => exact .idle (by simp) responded rfl
  | makeDir directory => exact ⟨trivial, .idle (by simp) responded rfl⟩
  | tempStamp => exact ⟨trivial, .idle (by simp) responded rfl⟩
  | openExclusive file =>
    cases answer with
    | ok opened =>
      have free : grip past file = .free := by
        by_contra has
        exact holding.present file has responded.1
      exact ⟨free, .opened file (by simp) permitted responded.1 responded.2 rfl⟩
    | error reason => exact ⟨trivial, .idle (by simp) responded rfl⟩
  | write file data =>
    apply And.intro trivial
    cases answer with
    | ok done =>
      obtain ⟨contents, found⟩ := Option.ne_none_iff_exists'.mp (holding.present file permitted)
      apply Effect.worked file (contents ++ data) ((grip past file).append data) (by simp) permitted
      · rw [responded, found]
        rfl
      · rfl
      · cases held : grip past file with
        | free => exact absurd held permitted
        | damaged => simp [Grip.append]
        | holds before => simp [Grip.append]
      · intro after holds
        cases held : grip past file with
        | free => exact absurd held permitted
        | damaged => simp [held, Grip.append] at holds
        | holds before =>
          have known := holding.contents file before held
          rw [found] at known
          simp only [held, Grip.append, Grip.holds.injEq] at holds
          rw [← holds, Option.some.inj known]
    | error reason => exact .damaged holding permitted (by simp) rfl responded
  | sync file =>
    apply And.intro trivial
    cases answer with
    | ok done => exact .idle (by simp) responded rfl
    | error reason => exact .damaged holding permitted (by simp) rfl responded
  | close file =>
    apply And.intro trivial
    cases answer with
    | ok done => exact .idle (by simp) responded rfl
    | error reason => exact .damaged holding permitted (by simp) rfl responded
  | rename source target =>
    apply And.intro trivial
    cases answer with
    | ok done =>
      obtain ⟨contents, found, moved⟩ := responded
      exact .renamed source target contents rfl permitted.1 permitted.2.1 found moved rfl
    | error reason => exact .idle (by simp) responded rfl
  | remove file =>
    apply And.intro trivial
    cases answer with
    | ok done => exact .removed file (by simp) permitted responded.2 rfl
    | error reason =>
      cases reason with
      | enoent => exact .idle (by simp) responded.2 rfl
      | eexist => exact .idle (by simp) responded rfl
      | other reason => exact .idle (by simp) responded rfl
  | download url protocol => exact ⟨trivial, .idle (by simp) responded rfl⟩
  | now => exact ⟨trivial, .idle (by simp) responded rfl⟩

section Effects

variable {event : Event Request Answer} {directory directory' : Directory}

/-- What the process has is still in the directory after its own call. -/
theorem Effect.holding (effect : Effect past event directory directory')
    (holding : Holding past directory) : Holding (event :: past) directory' := by
  cases effect with
  | idle _ same held =>
    subst same
    constructor
    · rw [held]
      exact holding.temp
    · rw [held]
      exact holding.present
    · rw [held]
      exact holding.contents
  | opened opened _ temp _ made held =>
    subst made
    constructor <;> rw [held]
    · intro file has
      by_cases same : file = opened
      · exact same ▸ temp
      · rw [Function.update_of_ne same] at has
        exact holding.temp file has
    · intro file has
      by_cases same : file = opened
      · simp [same]
      · rw [Function.update_of_ne same] at has ⊢
        exact holding.present file has
    · intro file data holds
      by_cases same : file = opened
      · subst same
        simp only [Function.update_self, Grip.holds.injEq] at holds ⊢
        rw [holds]
      · rw [Function.update_of_ne same] at holds ⊢
        exact holding.contents file data holds
  | worked worked contents now _ has changed held kept known =>
    subst changed
    constructor <;> rw [held]
    · intro file has'
      by_cases same : file = worked
      · exact same ▸ holding.temp worked has
      · rw [Function.update_of_ne same] at has'
        exact holding.temp file has'
    · intro file has'
      by_cases same : file = worked
      · simp [same]
      · rw [Function.update_of_ne same] at has' ⊢
        exact holding.present file has'
    · intro file data holds
      by_cases same : file = worked
      · subst same
        rw [Function.update_self] at holds ⊢
        rw [known data holds]
      · rw [Function.update_of_ne same] at holds ⊢
        exact holding.contents file data holds
  | removed removed _ has gone held =>
    subst gone
    have others : ∀ file, Function.update (grip past) removed .free file ≠ .free →
        file ≠ removed := by
      intro file has' same
      simp [same] at has'
    constructor <;> rw [held]
    · intro file has'
      rw [Function.update_of_ne (others file has')] at has'
      exact holding.temp file has'
    · intro file has'
      have different := others file has'
      rw [Function.update_of_ne different] at has' ⊢
      exact holding.present file has'
    · intro file data holds
      have different := others file (by simp [holds])
      rw [Function.update_of_ne different] at holds ⊢
      exact holding.contents file data holds
  | renamed source target contents _ has plain found moved held =>
    subst moved
    have others : ∀ file, Function.update (grip past) source .free file ≠ .free →
        file ≠ source ∧ grip past file ≠ .free ∧ file ≠ target := by
      intro file has'
      have different : file ≠ source := by
        intro same
        simp [same] at has'
      rw [Function.update_of_ne different] at has'
      exact ⟨different, has', fun same => plain (same ▸ holding.temp file has')⟩
    constructor <;> rw [held]
    · intro file has'
      exact holding.temp file (others file has').2.1
    · intro file has'
      obtain ⟨different, has', other⟩ := others file has'
      rw [Function.update_of_ne other, Function.update_of_ne different]
      exact holding.present file has'
    · intro file data holds
      obtain ⟨different, _, other⟩ := others file (by simp [holds])
      rw [Function.update_of_ne different] at holds
      rw [Function.update_of_ne other, Function.update_of_ne different]
      exact holding.contents file data holds

/-- A call leaves alone the temporary files that its process does not have. -/
theorem Effect.frame (effect : Effect past event directory directory') (temp : file.IsTemp)
    (others : grip past file = .free) (present : directory file ≠ none) :
    directory' file = directory file := by
  have different : ∀ worked, grip past worked ≠ .free → file ≠ worked := by
    intro worked has same
    rw [← same] at has
    exact has others
  cases effect with
  | idle _ same _ => rw [same]
  | opened opened _ _ absent made _ =>
    have other : file ≠ opened := by
      intro same
      rw [same] at present
      exact present absent
    rw [made, Function.update_of_ne other]
  | worked worked _ _ _ has changed _ _ _ =>
    rw [changed, Function.update_of_ne (different worked has)]
  | removed removed _ has gone _ =>
    rw [gone, Function.update_of_ne (different removed has)]
  | renamed source target _ _ has plain _ moved _ =>
    have other : file ≠ target := by
      intro same
      rw [same] at temp
      exact plain temp
    rw [moved, Function.update_of_ne other, Function.update_of_ne (different source has)]

/-- What a process newly has was not in the directory. -/
theorem Effect.gained (effect : Effect past event directory directory')
    (has : grip (event :: past) file ≠ .free) :
    grip past file ≠ .free ∨ directory file = none := by
  cases effect with
  | idle _ _ held =>
    rw [held] at has
    exact .inl has
  | opened opened _ _ absent _ held =>
    by_cases same : file = opened
    · exact .inr (same ▸ absent)
    · rw [held, Function.update_of_ne same] at has
      exact .inl has
  | worked worked _ _ _ had _ held _ _ =>
    by_cases same : file = worked
    · exact .inl (same ▸ had)
    · rw [held, Function.update_of_ne same] at has
      exact .inl has
  | removed removed _ had _ held =>
    by_cases same : file = removed
    · exact .inl (same ▸ had)
    · rw [held, Function.update_of_ne same] at has
      exact .inl has
  | renamed source _ _ _ had _ _ _ held =>
    by_cases same : file = source
    · exact .inl (same ▸ had)
    · rw [held, Function.update_of_ne same] at has
      exact .inl has

/-- A temporary file the process does not have after its call was left alone or is gone. -/
theorem Effect.released (effect : Effect past event directory directory') (temp : file.IsTemp)
    (free : grip (event :: past) file = .free) :
    grip past file = .free ∧ directory' file = directory file ∨
      grip past file ≠ .free ∧ directory' file = none := by
  cases effect with
  | idle _ same held =>
    rw [held] at free
    exact .inl ⟨free, by rw [same]⟩
  | opened opened _ _ _ made held =>
    have other : file ≠ opened := by
      intro same
      simp [held, same] at free
    rw [held, Function.update_of_ne other] at free
    exact .inl ⟨free, by rw [made, Function.update_of_ne other]⟩
  | worked worked _ now _ _ changed held kept _ =>
    have other : file ≠ worked := by
      intro same
      rw [held, same, Function.update_self] at free
      exact kept free
    rw [held, Function.update_of_ne other] at free
    exact .inl ⟨free, by rw [changed, Function.update_of_ne other]⟩
  | removed removed _ has gone held =>
    by_cases same : file = removed
    · subst same
      exact .inr ⟨has, by rw [gone, Function.update_self]⟩
    · rw [held, Function.update_of_ne same] at free
      exact .inl ⟨free, by rw [gone, Function.update_of_ne same]⟩
  | renamed source target _ _ has plain _ moved held =>
    have other : file ≠ target := by
      intro same
      exact plain (same ▸ temp)
    by_cases same : file = source
    · subst same
      exact .inr ⟨has, by rw [moved, Function.update_of_ne other, Function.update_self]⟩
    · rw [held, Function.update_of_ne same] at free
      exact .inl ⟨free, by rw [moved, Function.update_of_ne other, Function.update_of_ne same]⟩

/-- A rename onto a file has succeeded in the last call or before it. -/
theorem placed_cons :
    Placed (event :: past) file ↔
      (∃ source, event = ⟨.rename source file, .ok ()⟩) ∨ Placed past file := by
  constructor
  · rintro ⟨source, member⟩
    rcases List.mem_cons.mp member with latest | earlier
    · exact .inl ⟨source, latest.symm⟩
    · exact .inr ⟨source, earlier⟩
  · intro cases
    rcases cases with ⟨source, latest⟩ | ⟨source, earlier⟩
    · exact ⟨source, latest ▸ List.mem_cons_self ..⟩
    · exact ⟨source, List.mem_cons_of_mem _ earlier⟩

/-- A call changes a product or a sidecar only by renaming onto it. -/
theorem Effect.plain (effect : Effect past event directory directory')
    (holding : Holding past directory) (file : File) (plain : ¬file.IsTemp) :
    (directory' file = directory file ∧ (Placed (event :: past) file ↔ Placed past file)) ∨
      ∃ source contents, event = ⟨.rename source file, .ok ()⟩ ∧ grip past source ≠ .free ∧
        directory source = some contents ∧ directory' file = some contents := by
  have other : ∀ temp : File, temp.IsTemp → file ≠ temp := by
    intro temp isTemp same
    exact plain (same ▸ isTemp)
  have unplaced : (∀ source, event ≠ ⟨.rename source file, .ok ()⟩) →
      (Placed (event :: past) file ↔ Placed past file) := by
    intro quiet
    rw [placed_cons]
    constructor
    · rintro (⟨source, renamed⟩ | earlier)
      · exact absurd renamed (quiet source)
      · exact earlier
    · exact .inr
  cases effect with
  | idle quiet same _ => exact .inl ⟨by rw [same], unplaced fun source => quiet source file⟩
  | opened opened quiet temp _ made _ =>
    have same : directory' file = directory file := by
      rw [made, Function.update_of_ne (other opened temp)]
    exact .inl ⟨same, unplaced fun source => quiet source file⟩
  | worked worked _ _ quiet has changed _ _ _ =>
    have same : directory' file = directory file := by
      rw [changed, Function.update_of_ne (other worked (holding.temp worked has))]
    exact .inl ⟨same, unplaced fun source => quiet source file⟩
  | removed removed quiet has gone _ =>
    have same : directory' file = directory file := by
      rw [gone, Function.update_of_ne (other removed (holding.temp removed has))]
    exact .inl ⟨same, unplaced fun source => quiet source file⟩
  | renamed source target contents event_eq has _ found moved _ =>
    by_cases onto : file = target
    · subst onto
      right
      have now : directory' file = some contents := by rw [moved, Function.update_self]
      exact ⟨source, contents, event_eq, has, found, now⟩
    · left
      constructor
      · rw [moved, Function.update_of_ne onto,
          Function.update_of_ne (other source (holding.temp source has))]
      · apply unplaced
        intro source' renamed
        rw [event_eq] at renamed
        simp only [Event.mk.injEq, Request.rename.injEq] at renamed
        exact onto renamed.1.2.symm

end Effects

end Sidereon.Cache
