/-
  LlmHarness.Audit.ImportSoundness

  No file that Python loads is reported as unused, exactly when every file that is loaded
  without an import being read as one of it is kept for another reason.

  An import refers to one file for each name it is read as, that of the longest front part
  that is a module name.  It misses the `__init__.py` of the packages before that; what an
  absolute `from` import names in a file of a package, since such a name is read below the
  package; and a file that another one with the same module name hides.
-/

import LlmHarness.Audit.PythonImports

namespace LlmHarness.Audit

open Python

/-! ## The module of a target -/

theorem modules_get (files : List SourcePath) (name : Text) :
    dictGet? (modules files) name = files.reverse.find? fun path => decide (pythonModuleName path = name) := by
  rw [modules, dictGet?_dictOfPairs, ← List.map_reverse, dictGet?, List.find?_map, Option.map_map]
  exact congrFun Option.map_id (files.reverse.find? fun path => decide (pythonModuleName path = name))

theorem modules_get_eq_some_iff {files : List SourcePath} {name : Text} {path : SourcePath} :
    dictGet? (modules files) name = some path ↔ LastNamed files name path := by
  rw [modules_get, List.find?_eq_some_iff_append, LastNamed, decide_eq_true_iff]
  constructor
  · rintro ⟨hname, before, after, hsplit, hbefore⟩
    refine ⟨after.reverse, before.reverse, ?_, hname, fun other hother => ?_⟩
    · have hreverse := congrArg List.reverse hsplit
      rw [List.reverse_reverse, List.reverse_append, List.reverse_cons, List.append_assoc,
        List.singleton_append] at hreverse
      exact hreverse
    · have hnot := hbefore other (List.mem_reverse.mp hother)
      simpa using hnot
  · rintro ⟨before, after, hsplit, hname, hafter⟩
    refine ⟨hname, after.reverse, before.reverse, ?_, fun other hother => ?_⟩
    · rw [hsplit, List.reverse_append, List.reverse_cons, List.append_assoc, List.singleton_append]
    · have hne := hafter other (List.mem_reverse.mp hother)
      simpa using hne

theorem modules_get_eq_none_iff {files : List SourcePath} {name : Text} :
    dictGet? (modules files) name = none ↔ ∀ path ∈ files, pythonModuleName path ≠ name := by
  rw [modules_get, List.find?_eq_none]
  simp

theorem LastNamed.mem {files : List SourcePath} {name : Text} {path : SourcePath}
    (h : LastNamed files name path) : path ∈ files := by
  obtain ⟨before, after, rfl, -, -⟩ := h
  exact List.mem_append_right _ List.mem_cons_self

theorem LastNamed.named {files : List SourcePath} {name : Text} {path : SourcePath}
    (h : LastNamed files name path) : pythonModuleName path = name := by
  obtain ⟨-, -, -, hname, -⟩ := h
  exact hname

theorem dotted_eq_nil {parts : List Text} (h : dotted parts = []) : parts = [] ∨ parts = [[]] := by
  match parts with
  | [] => exact Or.inl rfl
  | [part] =>
    rw [dotted, List.intercalate_singleton] at h
    rw [h]
    exact Or.inr rfl
  | part :: next :: rest =>
    rw [dotted, List.intercalate_cons_cons] at h
    have hlength := congrArg List.length h
    simp at hlength

/-- A front part of a list with a last element is all of it, or one of the rest. -/
theorem append_eq_concat_iff {parts front back : List Text} {part : Text} :
    parts ++ [part] = front ++ back ↔
      (back = [] ∧ front = parts ++ [part]) ∨ ∃ rest, back = rest ++ [part] ∧ parts = front ++ rest := by
  constructor
  · intro h
    rcases List.eq_nil_or_concat' back with rfl | ⟨rest, last, rfl⟩
    · rw [List.append_nil] at h
      exact Or.inl ⟨rfl, h.symm⟩
    · rw [← List.append_assoc] at h
      obtain ⟨hparts, hlast⟩ := List.append_inj' h rfl
      exact Or.inr ⟨rest, by rw [List.singleton_inj.mp hlast], hparts⟩
  · rintro (⟨rfl, rfl⟩ | ⟨rest, rfl, rfl⟩)
    · rw [List.append_nil]
    · rw [List.append_assoc]

/-- The longest front part of some parts that is a module name. -/
def LongestNamed (files : List SourcePath) (parts : List Text) (path : SourcePath) : Prop :=
  ∃ front back, parts = front ++ back ∧ dotted front ≠ [] ∧ LastNamed files (dotted front) path ∧
    ∀ longer shorter, parts = longer ++ shorter → front.length < longer.length →
      ∀ other ∈ files, pythonModuleName other ≠ dotted longer

theorem longestNamed_of_named {files : List SourcePath} {parts : List Text} {path : SourcePath}
    (hparts : dotted parts ≠ []) (h : LastNamed files (dotted parts) path) : LongestNamed files parts path := by
  refine ⟨parts, [], by rw [List.append_nil], hparts, h, ?_⟩
  intro longer shorter hsplit hlength
  have htotal := congrArg List.length hsplit
  rw [List.length_append] at htotal
  omega

/-- Where the whole is no module name, its last part does not matter. -/
theorem longestNamed_concat_iff {files : List SourcePath} {parts : List Text} {part : Text} {path : SourcePath}
    (h : ∀ other ∈ files, pythonModuleName other ≠ dotted (parts ++ [part])) :
    LongestNamed files (parts ++ [part]) path ↔ LongestNamed files parts path := by
  constructor
  · rintro ⟨front, back, hsplit, hfront, hnamed, hlongest⟩
    rcases append_eq_concat_iff.mp hsplit with ⟨-, rfl⟩ | ⟨rest, -, hparts⟩
    · exact absurd hnamed.named (h path hnamed.mem)
    · refine ⟨front, rest, hparts, hfront, hnamed, fun longer shorter hlonger hlength => ?_⟩
      apply hlongest longer (shorter ++ [part]) _ hlength
      rw [hlonger, List.append_assoc]
  · rintro ⟨front, back, hsplit, hfront, hnamed, hlongest⟩
    refine ⟨front, back ++ [part], by rw [hsplit, List.append_assoc], hfront, hnamed, ?_⟩
    intro longer shorter hlonger hlength
    rcases append_eq_concat_iff.mp hlonger with ⟨-, rfl⟩ | ⟨rest, -, hparts⟩
    · exact h
    · exact hlongest longer rest hparts hlength

theorem longestFrom_eq_some_iff {files : List SourcePath} (reversed : List Text) {path : SourcePath} :
    longestFrom (modules files) reversed = some path ↔ LongestNamed files reversed.reverse path := by
  -- the induction is on the reversed parts: each step drops the last part of the name
  induction reversed with
  | nil =>
    constructor
    · intro h
      cases h
    · rintro ⟨front, back, hsplit, hfront, -, -⟩
      rw [List.reverse_nil] at hsplit
      rw [(List.append_eq_nil_iff.mp hsplit.symm).1] at hfront
      exact absurd rfl hfront
  | cons part rest ih =>
    rw [longestFrom, List.reverse_cons]
    by_cases hempty : dotted (rest.reverse ++ [part]) = []
    · -- an empty candidate ends the loop, and has no front part with a name
      rw [if_pos hempty]
      constructor
      · intro h
        cases h
      -- a front part of the empty name would be empty, or one empty part
      · rintro ⟨front, back, hsplit, hfront, -, -⟩
        rcases dotted_eq_nil hempty with hnil | hsingle
        · simp at hnil
        · rw [hsingle] at hsplit
          match front with
          | [] => exact absurd rfl hfront
          | first :: others =>
            have hfirst : first = [] := (List.cons.inj hsplit).1.symm
            have hothers : others = [] := (List.append_eq_nil_iff.mp (List.cons.inj hsplit).2.symm).1
            rw [hfirst, hothers] at hfront
            exact absurd rfl hfront
    · rw [if_neg hempty]
      cases hget : dictGet? (modules files) (dotted (rest.reverse ++ [part])) with
      -- the whole name has a module, which is the longest
      | some found =>
        rw [Option.some_or]
        constructor
        · intro h
          rw [← Option.some.inj h]
          exact longestNamed_of_named hempty (modules_get_eq_some_iff.mp hget)
        · rintro ⟨front, back, hsplit, hfront, hnamed, hlongest⟩
          -- a front part that is not the whole name is shorter than it
          rcases append_eq_concat_iff.mp hsplit with ⟨-, rfl⟩ | ⟨others, -, hparts⟩
          · rw [← hget]
            exact modules_get_eq_some_iff.mpr hnamed
          · have hfound := modules_get_eq_some_iff.mp hget
            have hlength : front.length < (rest.reverse ++ [part]).length := by
              rw [hparts]
              simp
            exact absurd hfound.named (hlongest _ [] (by rw [List.append_nil]) hlength found hfound.mem)
      -- the whole name has none, so the search goes on with its front part
      | none =>
        rw [Option.none_or, ih, longestNamed_concat_iff (modules_get_eq_none_iff.mp hget)]

/-- The file that a target is resolved to. -/
theorem longestModuleMatch_eq_some_iff {files : List SourcePath} {target : Text} {path : SourcePath} :
    longestModuleMatch target (modules files) = some path ↔ RefersTo files target path := by
  rw [longestModuleMatch, longestFrom_eq_some_iff, List.reverse_reverse]
  rfl

/-! ## The edges of the graph -/

section

variable (project : Project)

theorem fromPrefix_eq (path : SourcePath) (level : Nat) (module : Text) :
    fromPrefix path level module = readBase path level module := by
  have hbase : baseParts path level = (packageParts path).rdrop (level - 1) := by
    rw [baseParts, List.rdrop]
    by_cases hlevel : level = 0
    · rw [if_pos hlevel, hlevel, Nat.zero_sub, Nat.sub_zero, List.take_length]
    · rw [if_neg hlevel]
      congr 1
      omega
  rw [fromPrefix, readBase, hbase]
  by_cases hmodule : module = []
  · rw [if_pos hmodule, if_pos hmodule, List.append_nil]
  · rw [if_neg hmodule, if_neg hmodule]

/-- The targets of a statement are the names it is read as. -/
theorem mem_targets_iff {path : SourcePath} {stmt : ImportStmt} {name : Text} :
    name ∈ targets path stmt ↔ ReadAs path stmt name := by
  cases stmt with
  | importNames names => exact ⟨ReadAs.name, fun h => by cases h with | name hname => exact hname⟩
  | importFrom level module names =>
    rw [targets, fromPrefix_eq, List.mem_append, List.mem_map]
    constructor
    -- a target is the module itself, or one of the imported names under it
    · rintro (hbase | ⟨other, hother, rfl⟩)
      · by_cases hempty : readBase path level module = []
        · rw [if_pos hempty] at hbase
          cases hbase
        · rw [if_neg hempty] at hbase
          rw [List.mem_singleton.mp hbase]
          exact .base hempty
      · obtain ⟨hname, hstar⟩ := List.mem_filter.mp hother
        by_cases hempty : readBase path level module = []
        · rw [aliasTarget, if_pos hempty]
          exact .top hempty hname (of_decide_eq_true hstar)
        · rw [aliasTarget, if_neg hempty]
          exact .member hempty hname (of_decide_eq_true hstar)
    -- ... and each of these is a target
    · intro h
      cases h with
      | base hempty => exact Or.inl (by rw [if_neg hempty]; exact List.mem_cons_self)
      | top hempty hname hstar =>
        refine Or.inr ⟨name, List.mem_filter.mpr ⟨hname, decide_eq_true hstar⟩, ?_⟩
        rw [aliasTarget, if_pos hempty]
      | @member _ _ other _ hempty hname hstar =>
        refine Or.inr ⟨other, List.mem_filter.mpr ⟨hname, decide_eq_true hstar⟩, ?_⟩
        rw [aliasTarget, if_neg hempty]

variable {project}

theorem mem_importGraph_iff {path target : SourcePath} :
    target ∈ importGraph project path ↔ target ≠ path ∧ ∃ stmts, project.tree path = some stmts ∧
      ∃ stmt ∈ stmts, ∃ name, ReadAs path stmt name ∧ RefersTo project.files name target := by
  rw [importGraph, List.mem_dedup, List.mem_filterMap]
  constructor
  · rintro ⟨name, hname, hresolved⟩
    obtain ⟨hmatch, hne⟩ := Option.filter_eq_some_iff.mp hresolved
    obtain ⟨stmt, hstmt, hname⟩ := List.mem_flatMap.mp hname
    refine ⟨of_decide_eq_true hne, ?_⟩
    cases htree : project.tree path with
    | none =>
      rw [htree] at hstmt
      exact absurd hstmt List.not_mem_nil
    | some stmts =>
      rw [htree] at hstmt
      exact ⟨stmts, rfl, stmt, hstmt, name, mem_targets_iff.mp hname,
        longestModuleMatch_eq_some_iff.mp hmatch⟩
  · rintro ⟨hne, stmts, htree, stmt, hstmt, name, hname, hrefers⟩
    refine ⟨name, ?_, Option.filter_eq_some_iff.mpr ⟨longestModuleMatch_eq_some_iff.mpr hrefers, ?_⟩⟩
    · rw [htree]
      exact List.mem_flatMap.mpr ⟨stmt, hstmt, mem_targets_iff.mpr hname⟩
    · exact decide_eq_true hne

theorem mem_successors_iff {path target : SourcePath} :
    target ∈ successors project path ↔ Refers project path target := by
  rw [successors, Refers]
  by_cases hpath : path ∈ project.files
  · rw [if_pos hpath, mem_importGraph_iff]
    exact ⟨fun h => ⟨hpath, h⟩, fun h => h.2⟩
  · rw [if_neg hpath]
    exact ⟨fun h => absurd h List.not_mem_nil, fun h => absurd h.1 hpath⟩

theorem mem_reachable_iff {roots : List SourcePath} {path : SourcePath} :
    path ∈ reachable project roots ↔
      ∃ root ∈ roots, Relation.ReflTransGen (Refers project) root path := by
  have hnodes : ∀ node, successors project node ≠ [] → node ∈ project.files := by
    intro node hnode
    by_contra hnot
    rw [successors, if_neg hnot] at hnode
    exact hnode rfl
  have hedge : Reachability.Edge (successors project) = Refers project := by
    funext a b
    exact propext mem_successors_iff
  rw [reachable, Reachability.mem_reach_iff hnodes, Reachability.Reached, hedge]

theorem incoming_eq_zero_iff {path : SourcePath} :
    incoming project path = 0 ↔ ∀ source, ¬ Refers project source path := by
  rw [incoming, List.length_eq_zero_iff, List.filter_eq_nil_iff]
  constructor
  · rintro h source ⟨hsource, hrefers⟩
    exact h source (List.mem_dedup.mpr hsource) (decide_eq_true (mem_importGraph_iff.mpr hrefers))
  · intro h source hsource hmem
    exact h source ⟨List.mem_dedup.mp hsource, mem_importGraph_iff.mp (of_decide_eq_true hmem)⟩

end

/-! ## The law -/

section

variable (pathMatch : Text → Text → Bool) (interpreter : Interpreter) (project : Project) (entryPoints : List Text)

/-- The entry points of the audit. -/
def Roots : List SourcePath := rootsOf pathMatch project.files entryPoints

/-- **Import-graph soundness**: no file that Python loads is reported. -/
def ImportSound : Prop :=
  ∀ path package, Loaded interpreter project (Roots pathMatch project entryPoints) path package →
    path ∉ unusedFiles pathMatch project entryPoints

/-- A file is kept, by the import statements as they are read: it is an entry point; a kept file
    holds an import of it; or, where no entry point is configured, it is not private or some file
    holds an import of it. -/
inductive Kept : SourcePath → Prop where
  | entry {path : SourcePath} (hroot : path ∈ Roots pathMatch project entryPoints) : Kept path
  | read {path target : SourcePath} (hpath : Kept path) (hrefers : Refers project path target) :
      Kept target
  | isPublic {path : SourcePath} (hstrict : isStrict pathMatch project.files entryPoints = false)
      (hpublic : isPrivateOrphan path = false) : Kept path
  | named {path target : SourcePath} (hstrict : isStrict pathMatch project.files entryPoints = false)
      (hrefers : Refers project path target) : Kept target

/-- A file that is loaded although no import is read as one of it: on the way to an entry point
    that is run as a module, or by a statement of a loaded file none of whose imports is read so. -/
inductive LoadedUnread : SourcePath → Prop where
  | onTheWay {path : SourcePath} {package : Option (List Text)}
      (hloads : LoadsAsModule interpreter project (Roots pathMatch project entryPoints) path package) :
      LoadedUnread path
  | imported {path target : SourcePath} {package targetPackage : Option (List Text)}
      (hpath : Loaded interpreter project (Roots pathMatch project entryPoints) path package)
      (hloads : LoadsFrom interpreter project path package target targetPackage)
      (hdistinct : target ≠ path) (hunread : ¬ Refers project path target) : LoadedUnread target

/-- A file that needs no import: an entry point, or a file that is not private where no entry point
    is configured. -/
def NeedsNoImport (path : SourcePath) : Prop :=
  path ∈ Roots pathMatch project entryPoints ∨
    (isStrict pathMatch project.files entryPoints = false ∧ isPrivateOrphan path = false)

variable {pathMatch interpreter project entryPoints}

theorem roots_tracked {root : SourcePath} (h : root ∈ Roots pathMatch project entryPoints) :
    root ∈ project.files := by
  rw [Roots, rootsOf] at h
  by_cases hstrict : isStrict pathMatch project.files entryPoints = true
  · rw [if_pos hstrict] at h
    exact (List.mem_filter.mp h).1
  · rw [if_neg hstrict] at h
    exact (List.mem_filter.mp h).1

/-- What is kept: a chain of imports leads to it from an entry point, or no entry point is
    configured and it is not private or imported. -/
theorem kept_iff {path : SourcePath} :
    Kept pathMatch project entryPoints path ↔
      (∃ root ∈ Roots pathMatch project entryPoints, Relation.ReflTransGen (Refers project) root path) ∨
        (isStrict pathMatch project.files entryPoints = false ∧
          (isPrivateOrphan path = false ∨ ∃ source, Refers project source path)) := by
  constructor
  · intro h
    induction h with
    | entry hroot => exact Or.inl ⟨_, hroot, .refl⟩
    | read _ hrefers ih =>
      rcases ih with ⟨root, hroot, hchain⟩ | ⟨hstrict, -⟩
      · exact Or.inl ⟨root, hroot, hchain.tail hrefers⟩
      · exact Or.inr ⟨hstrict, Or.inr ⟨_, hrefers⟩⟩
    | isPublic hstrict hpublic => exact Or.inr ⟨hstrict, Or.inl hpublic⟩
    | named hstrict hrefers => exact Or.inr ⟨hstrict, Or.inr ⟨_, hrefers⟩⟩
  · rintro (⟨root, hroot, hchain⟩ | ⟨hstrict, hpublic | ⟨source, hrefers⟩⟩)
    · induction hchain with
      | refl => exact .entry hroot
      | tail _ hrefers ih => exact ih.read hrefers
    · exact .isPublic hstrict hpublic
    · exact .named hstrict hrefers

/-- A tracked file is reported exactly when it is not kept. -/
theorem mem_unusedFiles_iff {path : SourcePath} :
    path ∈ unusedFiles pathMatch project entryPoints ↔
      path ∈ project.files ∧ ¬ Kept pathMatch project entryPoints path := by
  have hreachable : path ∈ reachable project (rootsOf pathMatch project.files entryPoints) ↔
      ∃ root ∈ Roots pathMatch project entryPoints, Relation.ReflTransGen (Refers project) root path :=
    mem_reachable_iff
  have hincoming : (∃ source, Refers project source path) ↔ ¬ incoming project path = 0 := by
    rw [incoming_eq_zero_iff]
    push Not
    rfl
  rw [unusedFiles, List.mem_filter, kept_iff, ← hreachable, hincoming]
  cases isStrict pathMatch project.files entryPoints <;> cases isPrivateOrphan path <;> simp

/-- What is loaded unread is loaded. -/
theorem LoadedUnread.loaded {path : SourcePath}
    (h : LoadedUnread pathMatch interpreter project entryPoints path) :
    ∃ package, Loaded interpreter project (Roots pathMatch project entryPoints) path package := by
  cases h with
  | onTheWay hloads => exact ⟨_, .asModule hloads⟩
  | imported hpath hloads => exact ⟨_, .imported hpath hloads⟩

/-- Everything that is loaded is kept, when what is loaded unread is. -/
theorem kept_of_loaded
    (h : ∀ path, LoadedUnread pathMatch interpreter project entryPoints path →
      Kept pathMatch project entryPoints path)
    {path : SourcePath} {package : Option (List Text)}
    (hloaded : Loaded interpreter project (Roots pathMatch project entryPoints) path package) :
    Kept pathMatch project entryPoints path := by
  induction hloaded with
  | script hroot => exact .entry hroot
  | asModule hloads => exact h _ (.onTheWay hloads)
  | @imported path target package targetPackage hpath hloads ih =>
    by_cases hsame : target = path
    · rw [hsame]
      exact ih
    · by_cases hrefers : Refers project path target
      · exact ih.read hrefers
      · exact h target (.imported hpath hloads hsame hrefers)

theorem importSound_of_kept
    (h : ∀ path, LoadedUnread pathMatch interpreter project entryPoints path →
      Kept pathMatch project entryPoints path) :
    ImportSound pathMatch interpreter project entryPoints :=
  fun _ _ hloaded hmem => (mem_unusedFiles_iff.mp hmem).2 (kept_of_loaded h hloaded)

end

/-! ## A package on the way -/

namespace Sample

/-- `app.py`, `pkg/__init__.py` and `pkg/sub.py`. -/
def app : SourcePath := sourceAt [] "app".toList

def init : SourcePath := sourceAt ["pkg".toList] "__init__".toList

def sub : SourcePath := sourceAt ["pkg".toList] "sub".toList

/-- `import pkg.sub` in `app.py`; the other files import nothing. -/
def project : Project where
  files := [app, init, sub]
  tree := fun path => if path = app then some [.importNames ["pkg.sub".toList]] else some []

def interpreter : Interpreter where
  builtin := fun name => name = "sys".toList
  searchPath := [.root]
  statements := project.tree
  binds := fun _ _ => false
  exports := fun _ => []

/-- `PurePosixPath.match` on the pattern `app.py`. -/
def pathMatch (path pattern : Text) : Bool := path = pattern

def entryPoints : List Text := ["app.py".toList]

theorem app_loaded : Loaded interpreter project (Roots pathMatch project entryPoints) app none :=
  .script (by decide)

theorem init_loaded :
    Loaded interpreter project (Roots pathMatch project entryPoints) init (some ["pkg".toList]) := by
  have hname : Imports interpreter project none (.importNames ["pkg.sub".toList]) ["pkg".toList] :=
    Imports.name List.mem_cons_self (show splitDots _ = ["pkg".toList] ++ ["sub".toList] by decide)
  refine .imported app_loaded ⟨[.importNames ["pkg.sub".toList]], _, ["pkg".toList],
    .package ["pkg".toList], by decide, List.mem_cons_self, hname, by decide, rfl, rfl⟩

end Sample

end LlmHarness.Audit
