/-
  LlmHarness.Lifecycle.TaskFile

  `load_work_item` of `tasks.py`: a task file, JSON or Markdown, read as a work
  item.
-/

import LlmHarness.Domain
import LlmHarness.Lifecycle.Fields
import LlmHarness.Lifecycle.Materialize

namespace LlmHarness.Lifecycle

open Python

/-- `TaskLoadError`. -/
structure TaskLoadError where
  message : String
deriving DecidableEq, Repr

/-- The fields of a task file. -/
def taskFields : Owner TaskLoadError := ⟨"Task", TaskLoadError.mk⟩

/-- `_work_item_from_mapping`. -/
def workItemFromMapping (data : List (String × Json)) : Except TaskLoadError WorkItem := do
  let id ← requiredString taskFields data "id"
  let title ← requiredString taskFields data "title"
  let objective ← requiredString taskFields data "objective"
  let acceptanceCriteria ← requiredStringTuple taskFields data "acceptance_criteria"
  let verificationCommands ← requiredStringTuple taskFields data "verification_commands"
  let allowedPaths ← optionalStringTuple taskFields data "allowed_paths"
  let nonGoals ← optionalStringTuple taskFields data "non_goals"
  let dependsOn ← optionalStringTuple taskFields data "depends_on"
  let priority ← optionalInteger taskFields data "priority"
  let correctionInstructions ← optionalStringTuple taskFields data "correction_instructions"
  let correctionDecisionId ← optionalMappingString taskFields data "correction_decision_id"
  return { id, title, objective, acceptanceCriteria, verificationCommands, allowedPaths, nonGoals,
           dependsOn, priority, correctionInstructions, correctionDecisionId }

/-- `_load_json_task`. -/
def loadJsonTask (pathText : String) (text : Text) : Except TaskLoadError WorkItem :=
  match loads text with
  | none => .error ⟨"Invalid JSON task file: " ++ pathText⟩
  | some (.obj data) => workItemFromMapping data
  | some _ => .error ⟨"JSON task file must contain an object."⟩

/-! ## Markdown -/

/-- `str.lower`, where it leads to ASCII: the texts it is compared with are ASCII. -/
def lowerName (cs : Text) : Text := cs.map fun c => if c = '\u212A' then 'k' else c.toLower

/-- `_normalize_heading`. -/
def normalizeHeading (value : Text) : Text :=
  (lowerName (strip value)).map fun c => if c = '_' then ' ' else c

/-- The sections of a document, each heading once, and the one the reader is in. -/
structure Sections where
  entries : List (Text × List Text) := []
  current : Option Text := none

/-- One line of `_markdown_sections`. -/
def Sections.line (sections : Sections) (rawLine : Text) : Sections :=
  let line := rstrip rawLine
  if "## ".toList.isPrefixOf line then
    let heading := normalizeHeading (line.drop 3)
    { entries := if heading ∈ sections.entries.map Prod.fst then sections.entries
        else sections.entries ++ [(heading, [])]
      current := some heading }
  else match sections.current with
    | none => sections
    | some heading => { sections with
        entries := sections.entries.map fun entry =>
          if entry.1 = heading then (entry.1, entry.2 ++ [line]) else entry }

/-- `_markdown_sections`. -/
def markdownSections (text : Text) : List (Text × List Text) :=
  ((splitlines text).foldl Sections.line {}).entries

/-- `_first_markdown_heading`. -/
def firstMarkdownHeading (text : Text) : Option Text :=
  ((splitlines text).map strip).findSome? fun line =>
    if "# ".toList.isPrefixOf line ∧ ¬ isBlank (line.drop 2) then some (strip (line.drop 2)) else none

/-- `_content_lines`. -/
def contentLines (sections : List (Text × List Text)) (heading : String) : List Text :=
  (((dictGet? sections (normalizeHeading heading.toList)).getD []).map strip).filter (· ≠ [])

/-- `_optional_scalar`. -/
def optionalScalar (sections : List (Text × List Text)) (heading : String) : Option Text :=
  match contentLines sections heading with
  | [] => none
  | lines => some (strip (['\n'].intercalate lines))

/-- `_required_scalar`. -/
def requiredScalar (sections : List (Text × List Text)) (heading : String) :
    Except TaskLoadError Text :=
  match optionalScalar sections heading with
  | none => .error ⟨"Markdown task section '## " ++ heading ++ "' is required."⟩
  | some value => .ok value

/-- `_is_list_item`. -/
def isListItem (line : Text) : Bool :=
  "- ".toList.isPrefixOf (strip line) || "* ".toList.isPrefixOf (strip line)

/-- `_optional_list`. -/
def optionalList (sections : List (Text × List Text)) (heading : String) : List Text :=
  ((contentLines sections heading).filter isListItem).map fun line => strip ((strip line).drop 2)

/-- `_required_list`. -/
def requiredList (sections : List (Text × List Text)) (heading : String) :
    Except TaskLoadError (List Text) :=
  match optionalList sections heading with
  | [] => .error
    ⟨"Markdown task section '## " ++ heading ++ "' must contain at least one list item."⟩
  | items => .ok items

section

variable (intOf : Json → Option Int)

/-- `_markdown_integer`. -/
def markdownInteger (sections : List (Text × List Text)) (heading : String) :
    Except TaskLoadError Int :=
  match optionalScalar sections heading with
  | none => .ok 0
  | some value =>
    match intOf (.str (String.ofList value)) with
    | some number => .ok number
    | none => .error ⟨"Markdown task section '## " ++ heading ++ "' must be an integer."⟩

/-- The mapping `_load_markdown_task` builds. -/
def markdownMapping (text : Text) : Except TaskLoadError (List (String × Json)) := do
  let sections := markdownSections text
  let json (value : Text) : Json := .str (String.ofList value)
  let list (values : List Text) : Json := .arr (values.map json)
  let title ← match firstMarkdownHeading text with
    | some heading => .ok heading
    | none => requiredScalar sections "title"
  let id ← requiredScalar sections "id"
  let objective ← requiredScalar sections "objective"
  let acceptanceCriteria ← requiredList sections "acceptance criteria"
  let verificationCommands ← requiredList sections "verification commands"
  let priority ← markdownInteger intOf sections "priority"
  return [("id", json id), ("title", json title), ("objective", json objective),
    ("acceptance_criteria", list acceptanceCriteria),
    ("verification_commands", list verificationCommands),
    ("allowed_paths", list (optionalList sections "allowed paths")),
    ("non_goals", list (optionalList sections "non-goals")),
    ("depends_on", list (optionalList sections "depends on")), ("priority", .int priority),
    ("correction_instructions", list (optionalList sections "correction instructions")),
    ("correction_decision_id",
      ((optionalScalar sections "correction decision id").map json).getD .null)]

/-- `_load_markdown_task`. -/
def loadMarkdownTask (pathText : String) (text : Text) : Except TaskLoadError WorkItem := do
  let data ← markdownMapping intOf text
  (workItemFromMapping data).mapError fun e =>
    ⟨"Invalid Markdown task file " ++ pathText ++ ": " ++ e.message⟩

/-! ## Files -/

/-- `read_authored_text`: `utf-8-sig` drops a byte order mark. -/
def readAuthoredText (file : Text) : Text :=
  universalNewlines (match file with
    | '\uFEFF' :: rest => rest
    | file => file)

/-- `path.suffix`. -/
def suffixOf (name : Text) : Text :=
  let last := name.rtakeWhile (· ≠ '.')
  if last ≠ [] ∧ last.length + 1 < name.length then '.' :: last else []

/-- `load_work_item` on the text of a file. -/
def loadWorkItem (pathText : ProjectPath → String) (path : ProjectPath) (file : Text) :
    Except TaskLoadError WorkItem :=
  let text := readAuthoredText file
  let suffix := lowerName (suffixOf path.name)
  if suffix = ".json".toList then loadJsonTask (pathText path) text
  else if suffix = ".md".toList ∨ suffix = ".markdown".toList then
    loadMarkdownTask intOf (pathText path) text
  else .error ⟨"Unsupported task file extension: " ++ String.ofList (suffixOf path.name)⟩

end

end LlmHarness.Lifecycle
