/-
  LlmHarness.Audit.PythonImports

  What Python loads for an import statement: the path finder over the tracked files, the
  names that a statement imports, and the files that are loaded for some entry points.
-/

import LlmHarness.Audit.ImportGraph

namespace LlmHarness.Audit

open Python

/-! ## The finder -/

/-- Where the sources lie. -/
inductive Layout where
  | root
  | src
  | lib
deriving DecidableEq, Repr

/-- The directory on the search path. -/
def Layout.dirs : Layout → List Text
  | root => []
  | src => ["src".toList]
  | lib => ["lib".toList]

/-- What the interpreter brings: the names of its built-in modules, its search path, the import
    statements of a file as it compiles it, the names that running a file binds, and the `__all__`
    of a file.  It compiles what `ast.parse` may not: a file with a byte order mark. -/
structure Interpreter where
  builtin : Text → Bool
  searchPath : List Layout
  statements : SourcePath → Option (List ImportStmt)
  binds : SourcePath → Text → Bool
  exports : SourcePath → List Text

/-- The Python source of a stem in a directory. -/
def sourceAt (dirs : List Text) (stem : Text) : SourcePath := ⟨dirs, stem, ".py".toList⟩

/-- A directory of tracked files. -/
def isDirectory (files : List SourcePath) (dirs : List Text) : Bool :=
  files.any fun path => dirs.isPrefixOf path.dirs

/-- What a name is found to be: a package with an `__init__.py`, a module, or a namespace
    package with its portions. -/
inductive Spec where
  | package (dirs : List Text)
  | module (dirs : List Text) (name : Text)
  | namespace (portions : List (List Text))
deriving DecidableEq, Repr

namespace Spec

/-- `__path__`; a module has none. -/
def path : Spec → List (List Text)
  | package dirs => [dirs]
  | module _ _ => []
  | «namespace» portions => portions

/-- The file that is run. -/
def file : Spec → Option SourcePath
  | package dirs => some (sourceAt dirs "__init__".toList)
  | module dirs name => some (sourceAt dirs name)
  | «namespace» _ => none

/-- `__package__` of the module of a name. -/
def packageOf (name : List Text) : Spec → List Text
  | module _ _ => name.dropLast
  | _ => name

end Spec

/-- The path finder for one name: the first package or module, else the directories. -/
def findIn (files : List SourcePath) (name : Text) : List (List Text) → List (List Text) → Option Spec
  | [], portions => if portions = [] then none else some (.namespace portions)
  | dirs :: rest, portions =>
    if sourceAt (dirs ++ [name]) "__init__".toList ∈ files then some (.package (dirs ++ [name]))
    else if sourceAt dirs name ∈ files then some (.module dirs name)
    else if isDirectory files (dirs ++ [name]) then findIn files name rest (portions ++ [dirs ++ [name]])
    else findIn files name rest portions

/-- The module of a dotted name: each part is sought on the path of what is before it. -/
def findSpec (files : List SourcePath) : List (List Text) → List Text → Option Spec
  | _, [] => none
  | path, [name] => findIn files name path []
  | path, name :: next :: rest =>
    (findIn files name path []).bind fun spec => findSpec files spec.path (next :: rest)

/-! ## Statements -/

section

variable (interpreter : Interpreter) (project : Project)

/-- The module of an absolute name; built-in modules come first. -/
def Interpreter.find (name : List Text) : Option Spec :=
  if name.head?.any interpreter.builtin then none
  else findSpec project.files (interpreter.searchPath.map Layout.dirs) name

/-- The name that a `from` import starts from; a relative one needs a package that is deep
    enough. -/
def resolveName (package : Option (List Text)) (level : Nat) (module : Text) : Option (List Text) :=
  if level = 0 then some (splitDots module)
  else package.bind fun parts =>
    if parts.length < level then none
    else some (parts.take (parts.length + 1 - level) ++ (if module = [] then [] else splitDots module))

/-- The submodule `name` of `base` is imported, unless running `base` binds the name. -/
def IsSubmodule (base : List Text) (name : Text) : Prop :=
  ∀ spec file, interpreter.find project base = some spec → spec.file = some file →
    interpreter.binds file name = false

/-- The names that a statement imports, with the packages on the way. -/
inductive Imports (package : Option (List Text)) : ImportStmt → List Text → Prop where
  | name {names : List Text} {name : Text} {front back : List Text} (hname : name ∈ names)
      (hfront : splitDots name = front ++ back) : Imports package (.importNames names) front
  | base {level : Nat} {module : Text} {names base front back : List Text}
      (hbase : resolveName package level module = some base) (hfront : base = front ++ back) :
      Imports package (.importFrom level module names) front
  | alias {level : Nat} {module name : Text} {names base : List Text}
      (hbase : resolveName package level module = some base) (hname : name ∈ names) (hstar : name ≠ ['*'])
      (hsubmodule : IsSubmodule interpreter project base name) :
      Imports package (.importFrom level module names) (base ++ [name])
  | star {level : Nat} {module name : Text} {names base : List Text} {spec : Spec} {file : SourcePath}
      (hbase : resolveName package level module = some base) (hname : ['*'] ∈ names)
      (hspec : interpreter.find project base = some spec) (hfile : spec.file = some file)
      (hexport : name ∈ interpreter.exports file) (hstar : name ≠ ['*'])
      (hsubmodule : IsSubmodule interpreter project base name) :
      Imports package (.importFrom level module names) (base ++ [name])

/-- An import statement of `path`, run in a package, loads `target` under a package. -/
def LoadsFrom (path : SourcePath) (package : Option (List Text)) (target : SourcePath)
    (targetPackage : Option (List Text)) : Prop :=
  ∃ stmts stmt name spec, interpreter.statements path = some stmts ∧ stmt ∈ stmts ∧
    Imports interpreter project package stmt name ∧ interpreter.find project name = some spec ∧
    spec.file = some target ∧ targetPackage = some (spec.packageOf name)

/-- Running an entry point as the module of a name loads that module, and the packages on the
    way to it. -/
def LoadsAsModule (roots : List SourcePath) (target : SourcePath)
    (targetPackage : Option (List Text)) : Prop :=
  ∃ entry ∈ roots, ∃ front back entrySpec spec,
    interpreter.find project (front ++ back) = some entrySpec ∧ entrySpec.file = some entry ∧
    interpreter.find project front = some spec ∧ spec.file = some target ∧
    targetPackage = some (spec.packageOf front)

/-- The files that are loaded for the entry points, with their packages.  An entry point is
    run as a script, which has no package, or as the module of a name. -/
inductive Loaded (roots : List SourcePath) : SourcePath → Option (List Text) → Prop where
  | script {path : SourcePath} (hroot : path ∈ roots) : Loaded roots path none
  | asModule {target : SourcePath} {targetPackage : Option (List Text)}
      (hloads : LoadsAsModule interpreter project roots target targetPackage) :
      Loaded roots target targetPackage
  | imported {path target : SourcePath} {package targetPackage : Option (List Text)}
      (hpath : Loaded roots path package) (hloads : LoadsFrom interpreter project path package target targetPackage) :
      Loaded roots target targetPackage

end

/-! ## What is found is a tracked file -/

theorem findIn_file {files : List SourcePath} {name : Text} {path portions : List (List Text)} {spec : Spec}
    {file : SourcePath} (h : findIn files name path portions = some spec) (hfile : spec.file = some file) :
    file ∈ files := by
  induction path generalizing portions with
  | nil =>
    rw [findIn] at h
    by_cases hempty : portions = []
    · rw [if_pos hempty] at h
      cases h
    · rw [if_neg hempty] at h
      rw [← Option.some.inj h] at hfile
      cases hfile
  | cons dirs rest ih =>
    rw [findIn] at h
    by_cases hpackage : sourceAt (dirs ++ [name]) "__init__".toList ∈ files
    · rw [if_pos hpackage] at h
      rw [← Option.some.inj h] at hfile
      rw [← Option.some.inj hfile]
      exact hpackage
    · rw [if_neg hpackage] at h
      by_cases hmodule : sourceAt dirs name ∈ files
      · rw [if_pos hmodule] at h
        rw [← Option.some.inj h] at hfile
        rw [← Option.some.inj hfile]
        exact hmodule
      · rw [if_neg hmodule] at h
        by_cases hdirectory : isDirectory files (dirs ++ [name]) = true
        · rw [if_pos hdirectory] at h
          exact ih h
        · rw [if_neg hdirectory] at h
          exact ih h

theorem findSpec_file {files : List SourcePath} {path : List (List Text)} {name : List Text} {spec : Spec}
    {file : SourcePath} (h : findSpec files path name = some spec) (hfile : spec.file = some file) :
    file ∈ files := by
  induction name generalizing path with
  | nil => cases h
  | cons part rest ih =>
    cases rest with
    | nil => exact findIn_file h hfile
    | cons next rest =>
      rw [findSpec, Option.bind_eq_some_iff] at h
      obtain ⟨found, -, h⟩ := h
      exact ih h

theorem find_file {interpreter : Interpreter} {project : Project} {name : List Text} {spec : Spec}
    {file : SourcePath} (h : interpreter.find project name = some spec) (hfile : spec.file = some file) :
    file ∈ project.files := by
  rw [Interpreter.find] at h
  by_cases hbuiltin : name.head?.any interpreter.builtin = true
  · rw [if_pos hbuiltin] at h
    cases h
  · rw [if_neg hbuiltin] at h
    exact findSpec_file h hfile

/-- What is loaded is tracked. -/
theorem Loaded.tracked {interpreter : Interpreter} {project : Project} {roots : List SourcePath}
    (hroots : ∀ root ∈ roots, root ∈ project.files) {path : SourcePath} {package : Option (List Text)}
    (h : Loaded interpreter project roots path package) : path ∈ project.files := by
  cases h with
  | script hroot => exact hroots path hroot
  | asModule hloads =>
    obtain ⟨_, -, _, _, _, spec, -, -, hspec, hfile, -⟩ := hloads
    exact find_file hspec hfile
  | imported _ hloads =>
    obtain ⟨stmts, stmt, name, spec, -, -, -, hspec, hfile, -⟩ := hloads
    exact find_file hspec hfile

end LlmHarness.Audit
