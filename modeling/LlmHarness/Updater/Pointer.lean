/-
  LlmHarness.Updater.Pointer

  An installation root of `updater.py`: the release directories under `versions`
  and the pointer `current.json` with its two fields, as `install_release` and
  `rollback_release` rewrite it.

  The pointer keeps its law along a run exactly when no call installs the release
  that is active already: such a call makes the active release its own
  predecessor.
-/

import LlmHarness.Lib.Run
import LlmHarness.Lib.Guards
import LlmHarness.Python.Dict
import LlmHarness.Updater.Catalog

namespace LlmHarness

open Python

/-! ## The installation root -/

/-- A release package: what `stat` and SHA-256 say of the file, and what
    `_safe_extract` does with the archive. -/
structure Package where
  size : Int
  sha256 : Text
  members : Except UpdateError (List Text)

/-- `.hoh-release.json`. -/
structure Receipt where
  version : Text
  bytes : Int
  sha256 : Text
deriving DecidableEq, Repr

/-- `current.json`. -/
structure Pointer where
  current : Text
  previous : Text
deriving DecidableEq, Repr

/-- The installation root: what is under `versions`, each directory with its
    receipt if it has one, and the pointer. -/
structure InstallRoot (Dir : Type) where
  directories : List (Dir × Option Receipt) := []
  pointer : Option Pointer := none

variable {Dir : Type}

namespace InstallRoot

/-- The release that `current.json` names. -/
def active (root : InstallRoot Dir) : Option Text := root.pointer.map Pointer.current

/-- `current_release`: an empty name is no release. -/
def currentRelease (root : InstallRoot Dir) : Option Text :=
  root.active.filter (· ≠ [])

/-- `_activate_release`. -/
def activateRelease (root : InstallRoot Dir) (version : Text) : InstallRoot Dir :=
  { root with pointer := some ⟨version, root.currentRelease.getD []⟩ }

theorem getD_currentRelease (root : InstallRoot Dir) :
    root.currentRelease.getD [] = root.active.getD [] := by
  rw [InstallRoot.currentRelease]
  cases root.active with
  | none => rfl
  | some current =>
      by_cases hempty : current = []
      · subst hempty
        rfl
      · rw [Option.filter_some, if_pos (by simpa using hempty)]

end InstallRoot

/-! ## The two calls -/

/-- `_verify_local_package`. -/
def verifyLocalPackage (package : Package) (artifact : ReleaseArtifact) :
    Except UpdateError Unit :=
  if package.size ≠ artifact.bytes then
    .error ⟨"Local release size does not match the signed catalog."⟩
  else if package.sha256 ≠ artifact.sha256 then
    .error ⟨"Local release SHA-256 does not match the signed catalog."⟩
  else .ok ()

/-- The receipt of an installed directory matches the artifact. -/
def Receipt.matches (receipt : Option Receipt) (artifact : ReleaseArtifact) : Bool :=
  match receipt with
  | some receipt => receipt.sha256 = artifact.sha256 && receipt.bytes = artifact.bytes
  | none => false

/-- A call on the installation root. -/
inductive UpdateCall where
  | install (package : Package) (artifact : ReleaseArtifact)
  | rollback

section Calls

-- `versions / name`: the directory a name leads to
variable [DecidableEq Dir] (versionDir : Text → Dir)

/-- `install_release`. -/
def installRelease (package : Package) (artifact : ReleaseArtifact) (root : InstallRoot Dir) :
    Except UpdateError (InstallRoot Dir) := do
  verifyLocalPackage package artifact
  match dictGet? root.directories (versionDir artifact.version) with
  | some receipt =>
    if Receipt.matches receipt artifact then return root.activateRelease artifact.version
    else .error ⟨s!"Installed release {String.ofList artifact.version} has no matching integrity receipt."⟩
  | none =>
    let members ← package.members
    if members = [] then .error ⟨"Release package is empty."⟩
    else
      let receipt : Receipt := ⟨artifact.version, artifact.bytes, artifact.sha256⟩
      let directories := dictInsert root.directories (versionDir artifact.version, some receipt)
      return { root with directories }.activateRelease artifact.version

/-- `rollback_release`. -/
def rollbackRelease (root : InstallRoot Dir) : Except UpdateError (InstallRoot Dir) :=
  let current := (root.pointer.map Pointer.current).getD []
  let previous := (root.pointer.map Pointer.previous).getD []
  if previous = [] || (dictGet? root.directories (versionDir previous)).isNone then
    .error ⟨"No installed previous release is available for rollback."⟩
  else .ok { root with pointer := some ⟨previous, current⟩ }

/-- What a call leaves, or the `UpdateError` it raises. -/
def UpdateCall.run (root : InstallRoot Dir) : UpdateCall → Except UpdateError (InstallRoot Dir)
  | .install package artifact => installRelease versionDir package artifact root
  | .rollback => rollbackRelease versionDir root

end Calls

/-! ## Runs and their history -/

/-- A root and the releases that were active on it, the active one first: one entry
    for each call that succeeded. -/
structure Installation (Dir : Type) where
  root : InstallRoot Dir
  history : List Text := []

/-- The release that was active before the active one last became active. -/
def activeBefore : List Text → Option Text
  | [] => none
  | current :: history => (history.dropWhile (· = current)).head?

/-- The call does not install the release that is active; where nothing is, that is the
    empty name, which names the folder `versions` itself. -/
def InstallsAnother (installation : Installation Dir) : UpdateCall → Prop
  | .install _ artifact => artifact.version ≠ installation.root.active.getD []
  | .rollback => True

/-- The pointer and the history of a root tell the same. -/
inductive Recorded : Installation Dir → Prop where
  | fresh (directories : List (Dir × Option Receipt)) : Recorded ⟨⟨directories, none⟩, []⟩
  | pointed (directories : List (Dir × Option Receipt)) {current previous : Text}
      {history : List Text} (hdistinct : previous ≠ current)
      (hprevious : previous = history.head?.getD []) :
      Recorded ⟨⟨directories, some ⟨current, previous⟩⟩, current :: history⟩

theorem Recorded.distinct {installation : Installation Dir} (h : Recorded installation)
    {pointer : Pointer} (hpointer : installation.root.pointer = some pointer) :
    pointer.previous ≠ pointer.current := by
  cases h with
  | fresh directories => cases hpointer
  | pointed directories hdistinct hprevious =>
      cases hpointer
      exact hdistinct

theorem Recorded.active_getD {installation : Installation Dir} (h : Recorded installation) :
    installation.root.active.getD [] = installation.history.head?.getD [] := by
  cases h <;> rfl

/-- A predecessor that has a name is the release that was active before. -/
theorem Recorded.activeBefore {installation : Installation Dir} (h : Recorded installation)
    {pointer : Pointer} (hpointer : installation.root.pointer = some pointer)
    (hnamed : pointer.previous ≠ []) :
    activeBefore installation.history = some pointer.previous := by
  cases h with
  | fresh directories => cases hpointer
  | @pointed directories current previous history hdistinct hprevious =>
      cases hpointer
      cases history with
      | nil => exact absurd hprevious hnamed
      | cons before history =>
          have hbefore : previous = before := hprevious
          subst hbefore
          show ((previous :: history).dropWhile (· = current)).head? = some previous
          rw [List.dropWhile_cons_of_neg (by simpa using hdistinct), List.head?_cons]

section Runs

variable [DecidableEq Dir] (versionDir : Text → Dir)

/-- A call that succeeds activates a release; one that raises is no part of a history. -/
def Installation.step (installation : Installation Dir) (call : UpdateCall) :
    Installation Dir :=
  match call.run versionDir installation.root with
  | .ok root => ⟨root, root.active.toList ++ installation.history⟩
  | .error _ => installation

/-- The call succeeds. -/
def Succeeds (installation : Installation Dir) (call : UpdateCall) : Prop :=
  ∃ root, call.run versionDir installation.root = .ok root

/-- What the pointer owes its reader after a call. -/
structure PointerLaw (installation : Installation Dir) (call : UpdateCall) : Prop where
  /-- `previous` is another release than `current`. -/
  distinct : ∀ pointer, (installation.step versionDir call).root.pointer = some pointer →
    pointer.previous ≠ pointer.current
  /-- Installing the active release leaves the pointer as it is. -/
  reinstall : ∀ package artifact, call = .install package artifact →
    installation.root.active = some artifact.version →
    (installation.step versionDir call).root.pointer = installation.root.pointer
  /-- A rollback goes back to the release that was active before. -/
  rollback : call = .rollback →
    (installation.step versionDir call).root.active = activeBefore installation.history

/-! ## What one call does to the pointer -/

/-- Each way to install a release ends in the same pointer. -/
theorem pointer_of_installRelease {versionDir : Text → Dir} {package : Package}
    {artifact : ReleaseArtifact} {root root' : InstallRoot Dir}
    (h : installRelease versionDir package artifact root = .ok root') :
    root'.pointer = some ⟨artifact.version, root.active.getD []⟩ := by
  obtain ⟨-, hinstall⟩ := Guards.unit_bind_eq_ok.mp h
  -- the pointer does not depend on the directories
  have hpointer : ∀ directories : List (Dir × Option Receipt),
      ({ root with directories } : InstallRoot Dir).currentRelease = root.currentRelease := by
    intro directories
    rfl
  have hactivate : ∀ directories : List (Dir × Option Receipt),
      (({ root with directories } : InstallRoot Dir).activateRelease artifact.version).pointer =
        some ⟨artifact.version, root.active.getD []⟩ := by
    intro directories
    rw [InstallRoot.activateRelease, hpointer, root.getD_currentRelease]
  cases hexists : dictGet? root.directories (versionDir artifact.version) with
  | some receipt =>
      -- the directory is there: its receipt decides
      rw [hexists] at hinstall
      by_cases hmatches : Receipt.matches receipt artifact
      · have hroot : root.activateRelease artifact.version = root' := by
          simpa [hmatches, pure, Except.pure] using hinstall
        rw [← hroot]
        exact hactivate root.directories
      · simp [hmatches] at hinstall
  -- a new version: its package is unpacked, unless it is empty
  | none =>
      rw [hexists] at hinstall
      obtain ⟨members, -, hinstall⟩ := Guards.bind_eq_ok.mp hinstall
      by_cases hempty : members = []
      · simp [hempty] at hinstall
      · rw [if_neg hempty, Guards.pure_eq_ok] at hinstall
        rw [← hinstall]
        exact hactivate _

/-- A rollback exchanges the two fields. -/
theorem pointer_of_rollbackRelease {versionDir : Text → Dir} {root root' : InstallRoot Dir}
    (h : rollbackRelease versionDir root = .ok root') :
    ∃ pointer, root.pointer = some pointer ∧ pointer.previous ≠ [] ∧
      root'.pointer = some ⟨pointer.previous, pointer.current⟩ := by
  cases hpointer : root.pointer with
  | none => simp [rollbackRelease, hpointer] at h
  | some pointer =>
      have hprevious : pointer.previous ≠ [] := by
        intro hempty
        simp [rollbackRelease, hpointer, hempty] at h
      refine ⟨pointer, rfl, hprevious, ?_⟩
      rw [rollbackRelease, hpointer] at h
      by_cases hdir : (dictGet? root.directories (versionDir pointer.previous)).isNone
      · simp [hdir] at h
      · have hroot : { root with pointer := some ⟨pointer.previous, pointer.current⟩ } = root' := by
          simpa [hprevious, hdir] using h
        rw [← hroot]

theorem step_of_ok {installation : Installation Dir} {call : UpdateCall} {root : InstallRoot Dir}
    (h : call.run versionDir installation.root = .ok root) :
    installation.step versionDir call = ⟨root, root.active.toList ++ installation.history⟩ := by
  rw [Installation.step, h]

/-- **One call.**  It keeps the law exactly when it installs another release. -/
theorem pointerLaw_step_iff {installation : Installation Dir} (hrecorded : Recorded installation)
    {call : UpdateCall} (hsucceeds : Succeeds versionDir installation call) :
    PointerLaw versionDir installation call ↔ InstallsAnother installation call := by
  obtain ⟨root, hrun⟩ := hsucceeds
  have hstep := step_of_ok versionDir hrun
  -- a successful install, or a rollback to the version before
  cases call with
  | install package artifact =>
      have hpointer := pointer_of_installRelease hrun
      constructor
      -- the new pointer names the version and the one that was active
      · intro hlaw
        have hdistinct := hlaw.distinct _ (by rw [hstep]; exact hpointer)
        exact fun hsame => hdistinct hsame.symm
      · intro hanother
        refine ⟨fun pointer hp => ?_, fun package' artifact' hcall hactive => ?_, fun h => nomatch h⟩
        · rw [hstep, hpointer] at hp
          cases hp
          exact hanother.symm
        · cases hcall
          refine absurd ?_ hanother
          rw [hactive]
          rfl
  -- a rollback swaps two versions that differ
  | rollback =>
      refine iff_of_true ⟨fun pointer hp => ?_, fun _ _ h => (nomatch h), fun _ => ?_⟩ trivial
      · obtain ⟨before, hbefore, -, hroot⟩ := pointer_of_rollbackRelease hrun
        rw [hstep, hroot] at hp
        cases hp
        exact (hrecorded.distinct hbefore).symm
      · obtain ⟨before, hbefore, hnamed, hroot⟩ := pointer_of_rollbackRelease hrun
        rw [hstep, InstallRoot.active, hroot, hrecorded.activeBefore hbefore hnamed]
        rfl

/-- Such a call keeps the pointer and the history together. -/
theorem recorded_step {installation : Installation Dir} (hrecorded : Recorded installation)
    {call : UpdateCall} (hsucceeds : Succeeds versionDir installation call)
    (hanother : InstallsAnother installation call) :
    Recorded (installation.step versionDir call) := by
  obtain ⟨root, hrun⟩ := hsucceeds
  rw [step_of_ok versionDir hrun]
  obtain ⟨directories, pointer⟩ := root
  cases call with
  | install package artifact =>
      have hpointer : pointer = _ := pointer_of_installRelease hrun
      subst hpointer
      exact .pointed directories (Ne.symm hanother) hrecorded.active_getD
  | rollback =>
      obtain ⟨before, hbefore, -, hpointer⟩ := pointer_of_rollbackRelease hrun
      have hpointer : pointer = some ⟨before.previous, before.current⟩ := hpointer
      subst hpointer
      refine .pointed directories (hrecorded.distinct hbefore).symm ?_
      have hactive : before.current = installation.root.active.getD [] := by
        rw [InstallRoot.active, hbefore]
        rfl
      rw [hactive]
      exact hrecorded.active_getD

/-! ## Runs -/

/-- **The release pointer.**  Along a run of successful calls on a fresh root the pointer
    keeps its law exactly when no call installs the release that is active. -/
theorem pointerLaw_iff (directories : List (Dir × Option Receipt)) (calls : List UpdateCall)
    (hsucceed : Run.Each (Installation.step versionDir) (Succeeds versionDir)
      ⟨⟨directories, none⟩, []⟩ calls) :
    Run.Each (Installation.step versionDir) (PointerLaw versionDir) ⟨⟨directories, none⟩, []⟩ calls ↔
      Run.Each (Installation.step versionDir) InstallsAnother ⟨⟨directories, none⟩, []⟩ calls :=
  hsucceed.congr (I := Recorded) (.fresh directories)
    (fun _ _ hrecorded hcall => pointerLaw_step_iff versionDir hrecorded hcall)
    (fun _ _ hrecorded hcall hanother => recorded_step versionDir hrecorded hcall hanother)

end Runs

/-! ## An upgrade, and a second installation of it -/

/-- A package of one file, and the artifact of it. -/
def samplePackage : Package := ⟨4, "c0".toList, .ok ["scripts/hoh".toList]⟩

/-- The artifact of the sample package under a version. -/
def sampleArtifact (version : String) : ReleaseArtifact :=
  ⟨version.toList, "linux-x86_64".toList, "https://example.invalid/hoh.zip".toList,
    "c0".toList, 4, []⟩

/-- Two releases and the way back. -/
def upgradeCalls : List UpdateCall := [
  .install samplePackage (sampleArtifact "0.6.0"),
  .install samplePackage (sampleArtifact "0.7.0"),
  .rollback]

theorem pointerLaw_upgrade :
    Run.Each (Installation.step id) (PointerLaw id) ⟨⟨[], none⟩, []⟩ upgradeCalls := by
  have hfirst : "0.6.0".toList ≠ [] := by decide
  have hsecond : "0.7.0".toList ≠ "0.6.0".toList := by decide
  exact (pointerLaw_iff id [] upgradeCalls ⟨⟨_, rfl⟩, ⟨_, rfl⟩, ⟨_, rfl⟩, trivial⟩).mpr
    ⟨hfirst, hsecond, trivial, trivial⟩

/-- The second release installed twice: the way back leads to itself. -/
def reinstallCalls : List UpdateCall := [
  .install samplePackage (sampleArtifact "0.6.0"),
  .install samplePackage (sampleArtifact "0.7.0"),
  .install samplePackage (sampleArtifact "0.7.0"),
  .rollback]

theorem not_pointerLaw_reinstalled :
    Run.Each (Installation.step id) (Succeeds id) ⟨⟨[], none⟩, []⟩ reinstallCalls ∧
      (reinstallCalls.foldl (Installation.step id) ⟨⟨[], none⟩, []⟩).root.active =
        some "0.7.0".toList ∧
      ¬ Run.Each (Installation.step id) (PointerLaw id) ⟨⟨[], none⟩, []⟩ reinstallCalls := by
  refine ⟨⟨⟨_, rfl⟩, ⟨_, rfl⟩, ⟨_, rfl⟩, ⟨_, rfl⟩, trivial⟩, rfl, ?_⟩
  rintro ⟨-, -, hthird, -⟩
  exact hthird.distinct _ rfl rfl

end LlmHarness
