/-
  LlmHarness.Audit.ImportGraph

  The import graph of `language_audit.py` over the tracked Python files, and the files it
  reports as unused.

  `ast.parse` is a parameter: a file has its import statements or is a syntax error.  So is
  `PurePosixPath.match`.  The paths are resolved and below the root.
-/

import Mathlib.Data.List.Dedup
import Mathlib.Data.List.DropRight
import LlmHarness.Lib.Reachability
import LlmHarness.Python.Dict
import LlmHarness.Python.PosixPath

namespace LlmHarness.Audit

open Python

/-! ## Files and statements -/

/-- A Python file below the root: its directories, its stem and its suffix. -/
structure SourcePath where
  dirs : List Text
  stem : Text
  suffix : Text
deriving DecidableEq, Repr

/-- `path.name`. -/
def SourcePath.name (path : SourcePath) : Text := path.stem ++ path.suffix

/-- `path.relative_to(root).parts`. -/
def SourcePath.parts (path : SourcePath) : List Text := path.dirs ++ [path.name]

/-- `_relative`. -/
def relative (path : SourcePath) : Text := ['/'].intercalate path.parts

/-- An import statement; the module of a `from` import is empty where it has none. -/
inductive ImportStmt where
  | importNames (names : List Text)
  | importFrom (level : Nat) (module : Text) (names : List Text)
deriving DecidableEq, Repr

/-- The tracked Python files, and the import statements of those that parse. -/
structure Project where
  files : List SourcePath
  tree : SourcePath → Option (List ImportStmt)

/-- `".".join(parts)`. -/
def dotted (parts : List Text) : Text := ['.'].intercalate parts

/-- `name.split(".")`. -/
def splitDots (name : Text) : List Text := name.splitOn '.'

/-- The parts without a leading directory of sources. -/
def dropSources : List Text → List Text
  | [] => []
  | part :: rest => if part = "src".toList || part = "lib".toList then rest else part :: rest

/-- The parts without a final `__init__`. -/
def dropInit (parts : List Text) : List Text :=
  if parts.getLast? = some "__init__".toList then parts.dropLast else parts

/-- `_python_module_name`. -/
def pythonModuleName (path : SourcePath) : Text :=
  dotted (dropInit (dropSources (path.dirs ++ [path.stem])))

/-! ## The graph -/

/-- `modules`: the last file of a name. -/
def modules (files : List SourcePath) : List (Text × SourcePath) :=
  dictOfPairs (files.map fun path => (pythonModuleName path, path))

/-- `package_parts`. -/
def packageParts (path : SourcePath) : List Text :=
  let current := splitDots (pythonModuleName path)
  if path.name = "__init__.py".toList then current else current.dropLast

/-- `base_parts`. -/
def baseParts (path : SourcePath) (level : Nat) : List Text :=
  let package := packageParts path
  if level = 0 then package else package.take (package.length + 1 - level)

/-- The prefix of a `from` import. -/
def fromPrefix (path : SourcePath) (level : Nat) (module : Text) : Text :=
  if module = [] then dotted (baseParts path level) else dotted (baseParts path level ++ [module])

/-- The name of an alias under a prefix. -/
def aliasTarget (base name : Text) : Text := if base = [] then name else base ++ '.' :: name

/-- The targets of a statement. -/
def targets (path : SourcePath) : ImportStmt → List Text
  | .importNames names => names
  | .importFrom level module names =>
    let base := fromPrefix path level module
    (if base = [] then [] else [base]) ++
      (names.filter fun name => name ≠ ['*']).map (aliasTarget base)

/-- The loop of `_longest_module_match`, on the parts of the candidate in reverse. -/
def longestFrom (modules : List (Text × SourcePath)) : List Text → Option SourcePath
  | [] => none
  | part :: rest =>
    let candidate := dotted (part :: rest).reverse
    if candidate = [] then none
    else (dictGet? modules candidate).or (longestFrom modules rest)

/-- `_longest_module_match`. -/
def longestModuleMatch (target : Text) (modules : List (Text × SourcePath)) : Option SourcePath :=
  longestFrom modules (splitDots target).reverse

/-- `graph[path]` of `_python_import_graph`. -/
def importGraph (project : Project) (path : SourcePath) : List SourcePath :=
  ((((project.tree path).getD []).flatMap (targets path)).filterMap fun target =>
    (longestModuleMatch target (modules project.files)).filter (· ≠ path)).dedup

/-- `graph.get(path, ())`. -/
def successors (project : Project) (path : SourcePath) : List SourcePath :=
  if path ∈ project.files then importGraph project path else []

/-! ## Unused files -/

variable (pathMatch : Text → Text → Bool)

/-- `_matches_any`. -/
def matchesAny (path : Text) (patterns : List Text) : Bool :=
  patterns.any fun pattern => pathMatch path (replaceChar '\\' '/' pattern)

/-- `explicit_roots`. -/
def explicitRoots (files : List SourcePath) (entryPoints : List Text) : List SourcePath :=
  files.filter fun path => matchesAny pathMatch (relative path) entryPoints

/-- `_inferred_entry_points` for Python. -/
def inferredEntryPoints (files : List SourcePath) : List SourcePath :=
  files.filter fun path => path.name = "__main__.py".toList || "test_".toList.isPrefixOf path.stem ||
    "tests".toList ∈ path.parts || !"_".toList.isPrefixOf path.stem

/-- `strict`. -/
def isStrict (files : List SourcePath) (entryPoints : List Text) : Bool :=
  explicitRoots pathMatch files entryPoints ≠ []

/-- `roots`. -/
def rootsOf (files : List SourcePath) (entryPoints : List Text) : List SourcePath :=
  if isStrict pathMatch files entryPoints then explicitRoots pathMatch files entryPoints
  else inferredEntryPoints files

/-- `_reachable`. -/
def reachable (project : Project) (roots : List SourcePath) : List SourcePath :=
  Reachability.reach (successors project) project.files roots

/-- `incoming[path]`. -/
def incoming (project : Project) (path : SourcePath) : Nat :=
  (project.files.dedup.filter fun source => path ∈ importGraph project source).length

/-- `private_orphan`. -/
def isPrivateOrphan (path : SourcePath) : Bool :=
  "_".toList.isPrefixOf path.stem && !(path.name ∈ ["__init__.py".toList, "__main__.py".toList])

/-- The files that `_unused_file_findings` reports as `PYTHON_UNUSED_FILE`. -/
def unusedFiles (project : Project) (entryPoints : List Text) : List SourcePath :=
  project.files.filter fun path =>
    path ∉ reachable project (rootsOf pathMatch project.files entryPoints) &&
      (isStrict pathMatch project.files entryPoints || (isPrivateOrphan path && incoming project path = 0))

/-! ## The graph, by what an import refers to -/

/-- What a `from` import of a file is read from: its module below the package of the file, without
    the last `level - 1` parts.  An absolute import is read like one of level 1. -/
def readBase (path : SourcePath) (level : Nat) (module : Text) : Text :=
  dotted ((packageParts path).rdrop (level - 1) ++ if module = [] then [] else [module])

/-- The names an import statement of a file is read as. -/
inductive ReadAs (path : SourcePath) : ImportStmt → Text → Prop where
  | name {names : List Text} {name : Text} (hname : name ∈ names) : ReadAs path (.importNames names) name
  | base {level : Nat} {module : Text} {names : List Text} (hbase : readBase path level module ≠ []) :
      ReadAs path (.importFrom level module names) (readBase path level module)
  | top {level : Nat} {module name : Text} {names : List Text} (hbase : readBase path level module = [])
      (hname : name ∈ names) (hstar : name ≠ ['*']) : ReadAs path (.importFrom level module names) name
  | member {level : Nat} {module name : Text} {names : List Text} (hbase : readBase path level module ≠ [])
      (hname : name ∈ names) (hstar : name ≠ ['*']) :
      ReadAs path (.importFrom level module names) (readBase path level module ++ '.' :: name)

/-- `path` is the last of the files with a module name. -/
def LastNamed (files : List SourcePath) (name : Text) (path : SourcePath) : Prop :=
  ∃ before after, files = before ++ path :: after ∧ pythonModuleName path = name ∧
    ∀ other ∈ after, pythonModuleName other ≠ name

/-- A target refers to the file of its longest front part that is a module name. -/
def RefersTo (files : List SourcePath) (target : Text) (path : SourcePath) : Prop :=
  ∃ front back, splitDots target = front ++ back ∧ dotted front ≠ [] ∧
    LastNamed files (dotted front) path ∧
    ∀ longer shorter, splitDots target = longer ++ shorter → front.length < longer.length →
      ∀ other ∈ files, pythonModuleName other ≠ dotted longer

/-- An import of `path`, as it is read, refers to `target`. -/
def Refers (project : Project) (path target : SourcePath) : Prop :=
  path ∈ project.files ∧ target ≠ path ∧ ∃ stmts, project.tree path = some stmts ∧
    ∃ stmt ∈ stmts, ∃ name, ReadAs path stmt name ∧ RefersTo project.files name target

end LlmHarness.Audit
