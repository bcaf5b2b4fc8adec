/-
  LlmHarness.Verifier.CommandPolicy

  `command_policy.py` on POSIX: how one verification command becomes argv or is
  refused.

  `CommandPolicy.resolve` takes argv from `shlex.split` and looks for shell operators
  with a second lexer, which also knows comments and tells punctuation from words only
  once the quotes are gone.  `operatorsExact_iff` says on which commands the two agree.
-/

import Mathlib.Data.List.Sort
import LlmHarness.Python.CaseFold
import LlmHarness.Python.PosixPath
import LlmHarness.Python.Shlex
import LlmHarness.Python.Strip

namespace LlmHarness

open Python

/-- `CommandPolicyError`, by the check that raises it; `raised` is what resolving the program's
    path raises besides `OSError`. -/
inductive CommandPolicyError where
  | empty
  | unparsable (error : ShlexError)
  | operators (found : List Text)
  | shell (executable : Text)
  | unlisted (executable : Text)
  | raised (error : String)
deriving DecidableEq, Repr

/-- The text of the error. -/
def CommandPolicyError.message : CommandPolicyError → String
  | .empty => "Verification command is empty."
  | .unparsable error => "Verification command cannot be parsed: " ++ error.text
  | .operators found =>
    "Verification command uses shell operators (" ++
      ", ".intercalate ((found.dedup.map String.ofList).insertionSort (· ≤ ·)) ++
      "), but HoH runs verification commands without a shell. " ++
      "Split it into separate verification commands."
  | .shell executable =>
    "Verification command '" ++ String.ofList executable ++
      "' would start a shell, which HoH never runs " ++
      "on behalf of a planning model. Name the test runner directly instead."
  | .unlisted executable =>
    "Verification command '" ++ String.ofList executable ++ "' is not in the allowed command list. " ++
      "Add it to [verification] allowed_commands, or set allow_unlisted_commands " ++
      "if you accept running arbitrary planner-provided programs."
  | .raised error => error

/-- `DEFAULT_ALLOWED_COMMANDS`. -/
def defaultAllowedCommands : List String :=
  ["cargo", "composer", "ctest", "dotnet", "flake8", "go", "gradle", "gradlew", "java", "make", "mvn",
    "mypy", "node", "npm", "npx", "phpunit", "pnpm", "poetry", "py", "pytest", "python", "python3", "rake",
    "ruff", "ruby", "tox", "yarn"]

/-- `BLOCKED_EXECUTABLES`. -/
def blockedExecutables : List String :=
  ["ash", "bash", "busybox", "cmd", "cmd.exe", "csh", "dash", "env", "fish", "ksh", "powershell",
    "powershell.exe", "pwsh", "sh", "start", "tcsh", "zsh"]

/-- `_shell_operators(command)`. -/
def shellOperators (command : Text) : List Text :=
  match punctuationTokens command with
  | .ok tokens => tokens.filter fun token => IsOperator token
  | .error _ => []

/-- `_executable_name(value)`. -/
def executableName (value : Text) : Text :=
  let name := casefold ((PosixPath.parse (replaceChar '\\' '/' value)).parts.getLast?.getD [])
  match [".exe", ".cmd", ".bat", ".com"].find? fun suffix => suffix.toList.isSuffixOf name with
  | some suffix => name.take (name.length - suffix.length)
  | none => name

/-- `CommandPolicy`, without what it makes of the environment.  The defaults are the class's. -/
structure CommandPolicy where
  allowedCommands : List String := defaultAllowedCommands
  allowUnlistedCommands : Bool := false

namespace CommandPolicy

-- `_is_running_interpreter`, which resolves two paths in the file system
variable (policy : CommandPolicy) (isRunningInterpreter : Text → Except String Bool)

/-- `CommandPolicy.resolve(command)` where `os.name` is not `nt`. -/
def resolve (command : Text) : Except CommandPolicyError (List Text) :=
  if strip command = [] then .error .empty
  else
    match shlexSplit command with
    | .error error => .error (.unparsable error)
    | .ok [] => .error .empty
    | .ok (program :: arguments) =>
      if shellOperators command ≠ [] then .error (.operators (shellOperators command))
      else if String.ofList (executableName program) ∈ blockedExecutables then
        .error (.shell (executableName program))
      else if policy.allowUnlistedCommands then .ok (program :: arguments)
      else
        match isRunningInterpreter program with
        | .error error => .error (.raised error)
        | .ok true => .ok (program :: arguments)
        | .ok false =>
          if executableName program ∈ policy.allowedCommands.map fun name => casefold name.toList then
            .ok (program :: arguments)
          else .error (.unlisted (executableName program))

/-- The command is refused with the shell-operator error. -/
def RefusedForOperators (command : Text) : Prop :=
  ∃ found, policy.resolve isRunningInterpreter command = .error (.operators found)

/-- ... exactly when a control character stands in it unquoted and unescaped. -/
def OperatorsExact (command : Text) : Prop :=
  policy.RefusedForOperators isRunningInterpreter command ↔ HasUnquoted isPunctuation command

/-! ## When the command is refused -/

theorem resolve_operators_iff {command : Text} {found : List Text} :
    policy.resolve isRunningInterpreter command = .error (.operators found) ↔
      strip command ≠ [] ∧ (∃ program arguments, shlexSplit command = .ok (program :: arguments)) ∧
        shellOperators command = found ∧ found ≠ [] := by
  rw [resolve]
  by_cases hblank : strip command = []
  · simp [hblank]
  · rw [if_neg hblank]
    rcases hsplit : shlexSplit command with error | ⟨_ | ⟨program, arguments⟩⟩
    · simp
    · simp
    · by_cases hoperators : shellOperators command = []
      · -- no later check speaks of operators
        have hlater : ¬ (shellOperators command ≠ []) := not_not_intro hoperators
        simp only [if_neg hlater]
        constructor
        · intro h
          rcases hrunning : isRunningInterpreter program with error | _ | _
          all_goals
            simp only [hrunning] at h
            split_ifs at h <;> exact (nomatch h)
        · rintro ⟨-, -, hfound, hne⟩
          exact absurd (hfound.symm.trans hoperators) hne
      -- The operators are refused before anything else is looked at.
      · simp only [if_pos hoperators]
        constructor
        · intro h
          have hfound : shellOperators command = found := by simpa using h
          exact ⟨hblank, ⟨program, arguments, rfl⟩, hfound, hfound ▸ hoperators⟩
        · rintro ⟨-, -, rfl, -⟩
          rfl

theorem shellOperators_ne_nil_iff (command : Text) :
    shellOperators command ≠ [] ↔ HasOperator (uncomment command) := by
  rw [← exists_operator_punctuationTokens_iff, shellOperators]
  cases hlex : punctuationTokens command with
  | error error => simp
  | ok tokens => simp [List.filter_eq_nil_iff]

/-- Of a command that `shlex.split` parses, the second lexer decides. -/
theorem refusedForOperators_iff {command : Text} {argv : List Text} (h : shlexSplit command = .ok argv) :
    policy.RefusedForOperators isRunningInterpreter command ↔ HasOperator (uncomment command) := by
  rw [← shellOperators_ne_nil_iff]
  constructor
  · rintro ⟨found, hfound⟩
    obtain ⟨-, -, rfl, hne⟩ := (resolve_operators_iff ..).mp hfound
    exact hne
  · intro hne
    have hoperator := (shellOperators_ne_nil_iff command).mp hne
    have hblank : strip command ≠ [] := by
      rw [Ne, strip_eq_nil_iff, not_isBlank_of_hasOperator hoperator]
      exact Bool.false_ne_true
    have hwords : ∃ program arguments, shlexSplit command = .ok (program :: arguments) := by
      cases argv with
      | nil => exact absurd h (shlexSplit_ne_nil hoperator)
      | cons program arguments => exact ⟨program, arguments, h⟩
    exact ⟨_, (resolve_operators_iff ..).mpr ⟨hblank, hwords, rfl, hne⟩⟩

theorem shlexSplit_of_resolve_ok {command : Text} {argv : List Text}
    (h : policy.resolve isRunningInterpreter command = .ok argv) : shlexSplit command = .ok argv := by
  rw [resolve] at h
  by_cases hblank : strip command = []
  · exact nomatch (if_pos hblank).symm.trans h
  · rw [if_neg hblank] at h
    rcases hsplit : shlexSplit command with error | ⟨_ | ⟨program, arguments⟩⟩
    · simp [hsplit] at h
    · simp [hsplit] at h
    · rcases hrunning : isRunningInterpreter program with error | _ | _
      all_goals
        simp only [hsplit, hrunning] at h
        split_ifs at h <;> rw [Except.ok.inj h]

/-- Without comments the refusal is exact unless a quoted or escaped word is all control characters. -/
theorem operatorsExact_of_no_comment {command : Text} {argv : List Text}
    (h : shlexSplit command = .ok argv) (hcomment : ¬ HasUnquoted (fun c => decide (c = '#')) command) :
    policy.OperatorsExact isRunningInterpreter command ↔
      (HasUnquoted isPunctuation command ∨ ∀ word ∈ argv, ¬ IsOperator word) := by
  have hoperator : HasOperator command ↔
      (HasUnquoted isPunctuation command ∨ ∃ word ∈ argv, IsOperator word) := by
    constructor
    · rintro ⟨words, hwords, hfound⟩
      exact Except.ok.inj (hwords.symm.trans h) ▸ hfound
    · exact fun hfound => ⟨argv, h, hfound⟩
  rw [OperatorsExact, refusedForOperators_iff policy isRunningInterpreter h, uncomment_of_no_comment hcomment,
    hoperator]
  by_cases hunquoted : HasUnquoted isPunctuation command
  · simp [hunquoted]
  · simp [hunquoted]

/-- An accepted command without comments has no control character outside quotes. -/
theorem not_hasUnquoted_of_resolve_ok {command : Text} {argv : List Text}
    (h : policy.resolve isRunningInterpreter command = .ok argv)
    (hcomment : ¬ HasUnquoted (fun c => decide (c = '#')) command) : ¬ HasUnquoted isPunctuation command := by
  intro hunquoted
  have hargv := shlexSplit_of_resolve_ok policy isRunningInterpreter h
  have hoperator : HasOperator (uncomment command) := by
    rw [uncomment_of_no_comment hcomment]
    exact ⟨argv, hargv, .inl hunquoted⟩
  obtain ⟨found, hrefused⟩ := (refusedForOperators_iff policy isRunningInterpreter hargv).mpr hoperator
  exact nomatch hrefused.symm.trans h

/-- A command is refused for its operators exactly when it should be where the text without
    its comments tells the same: it parses, and a control character stands in it unquoted or a
    word of it consists of control characters. -/
theorem operatorsExact_iff {command : Text} {argv : List Text} (h : shlexSplit command = .ok argv) :
    policy.OperatorsExact isRunningInterpreter command ↔
      (HasOperator (uncomment command) ↔ HasUnquoted isPunctuation command) := by
  rw [OperatorsExact, refusedForOperators_iff policy isRunningInterpreter h]

theorem operatorsExact_iff_query :
    CommandPolicy.OperatorsExact {} (fun _ => .ok false) "pytest --url \"h?a=1&b=2\"".toList :=
  have hargv : shlexSplit "pytest --url \"h?a=1&b=2\"".toList =
      .ok ["pytest".toList, "--url".toList, "h?a=1&b=2".toList] := by decide
  (operatorsExact_iff {} (fun _ => .ok false) hargv).mpr (by decide)

/-- `pytest a#b && rm` runs with `&&` among its arguments: the second lexer reads a comment. -/
theorem not_operatorsExact_comment :
    ¬ ∀ (policy : CommandPolicy) (isRunningInterpreter : Text → Except String Bool) (command : Text)
      (argv : List Text), shlexSplit command = .ok argv →
        policy.OperatorsExact isRunningInterpreter command := by
  intro h
  have hargv : shlexSplit "pytest a#b && rm".toList =
      .ok ["pytest".toList, "a#b".toList, "&&".toList, "rm".toList] := by decide
  have hunquoted : HasUnquoted isPunctuation "pytest a#b && rm".toList := by decide
  obtain ⟨found, hrefused⟩ := (h {} (fun _ => .ok false) _ _ hargv).mpr hunquoted
  have hfound := ((resolve_operators_iff ..).mp hrefused).2.2
  have hnone : shellOperators "pytest a#b && rm".toList = [] := by decide
  exact hfound.2 (hfound.1.symm.trans hnone)

end CommandPolicy

end LlmHarness
