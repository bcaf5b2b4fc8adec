/-
  LlmHarness.Journal.Patterns

  The patterns of journal.py: what `redact` replaces in a text, and the names whose
  values it does not keep.
-/

import LlmHarness.Lib.Substitution
import LlmHarness.Python.WordChar

namespace LlmHarness.Journal

open Python Regex Substitution

/-! ## Classes -/

/-- `[A-Za-z0-9_]`. -/
def nameChar (c : Char) : Bool := isAsciiAlnum c || c == '_'

/-- `[A-Za-z0-9_-]`. -/
def tokenChar (c : Char) : Bool := isAsciiAlnum c || c == '_' || c == '-'

/-- `[A-Za-z0-9-]`. -/
def slackChar (c : Char) : Bool := isAsciiAlnum c || c == '-'

/-- `[0-9A-Z]`. -/
def awsChar (c : Char) : Bool :=
  (48 ≤ c.toNat && c.toNat ≤ 57) || (65 ≤ c.toNat && c.toNat ≤ 90)

/-- `[A-Z ]`. -/
def labelChar (c : Char) : Bool := (65 ≤ c.toNat && c.toNat ≤ 90) || c == ' '

/-- One of the characters of a text. -/
def oneOf (cs : String) (c : Char) : Bool := cs.toList.contains c

/-- The lower-case letter that `re.IGNORECASE` takes a letter of an ASCII pattern for. -/
def foldCase (c : Char) : Char :=
  if c = '\u0130' ∨ c = '\u0131' then 'i'
  else if c = '\u017F' then 's'
  else if c = '\u212A' then 'k'
  else c.toLower

/-- A class of ASCII characters under `re.IGNORECASE`. -/
def ignoringCase (p : Char → Bool) (c : Char) : Bool :=
  p c || p (foldCase c) || p (foldCase c).toUpper

/-- A text under `re.IGNORECASE`. -/
def ignoringCaseText (cs : String) : Regex Char :=
  classes (cs.toList.map fun letter => ignoringCase (· == letter))

/-- The characters of a bearer token, under `re.IGNORECASE`. -/
def bearerChar : Char → Bool :=
  ignoringCase fun c => isAsciiAlnum c || oneOf "._~+/-" c

/-- `[A-Z0-9_]` under `re.IGNORECASE`. -/
def envChar : Char → Bool := ignoringCase fun c => awsChar c || c == '_'

/-- `[^\s;]`. -/
def envValueChar (c : Char) : Bool := !isSpace c && c != ';'

/-! ## The patterns -/

/-- `SECRET_KEY_RE`. -/
def secretKeyRe : Pattern Char where
  start := false
  body := .alt (ignoringCaseText "token") <| .alt (ignoringCaseText "secret") <|
    .alt (ignoringCaseText "password") <|
    .alt (.seq (ignoringCaseText "api") (.seq (opt (.one (oneOf "_-"))) (ignoringCaseText "key"))) <|
    .alt (ignoringCaseText "authorization") (ignoringCaseText "cookie")
  stop := false

/-- A pattern that is replaced as a whole. -/
def wholeRule (start : Bool) (body : Regex Char) (stop : Bool) (placeholder : String) : Rule Char where
  start := start
  kept := .empty
  dropped := body
  stop := stop
  keep := fun _ => []
  placeholder := placeholder.toList

/-- `\b`, a prefix and a run of one class. -/
structure KeyShape where
  front : Regex Char
  length : Nat
  inKey : Char → Bool
  placeholder : String

def KeyShape.rule (shape : KeyShape) : Rule Char :=
  wholeRule true (.seq shape.front (atLeast shape.length shape.inKey)) false shape.placeholder

/-- `BOT_TOKEN_RE`. -/
def botTokenRe : Rule Char :=
  wholeRule true
    (.seq (.seq (between 6 8 isDecimal) (.one (· == ':'))) (atLeast 20 tokenChar)) true
    "<redacted-bot-token>"

/-- `BEARER_RE`. -/
def bearerRe : Rule Char where
  start := true
  kept := .seq (ignoringCaseText "Bearer") (.one isSpace)
  dropped := .seq (.seq (.many isSpace) (atLeast 1 bearerChar)) (.many (· == '='))
  stop := false
  keep := fun _ => "Bearer ".toList
  placeholder := "<redacted>".toList

/-- `ENV_SECRET_RE`: the name and the equals sign are kept. -/
def envSecretRe : Rule Char where
  start := false
  kept :=
    .seq (.many envChar) <|
    .seq (.alt (ignoringCaseText "TOKEN") <| .alt (ignoringCaseText "SECRET") <|
      .alt (ignoringCaseText "PASSWORD") (ignoringCaseText "API_KEY")) <|
    .seq (.many envChar) <| .seq (.many isSpace) <| .seq (.one (· == '=')) (.many isSpace)
  dropped := atLeast 1 envValueChar
  stop := false
  keep := id
  placeholder := "<redacted>".toList

/-- `\bsk-ant-[A-Za-z0-9_-]{16,}`. -/
def anthropicKey : KeyShape := ⟨text "sk-ant-".toList, 16, tokenChar, "<redacted-anthropic-key>"⟩

/-- `\bsk-(?:proj-)?[A-Za-z0-9_-]{20,}`. -/
def openaiKey : KeyShape :=
  ⟨.seq (text "sk-".toList) (opt (text "proj-".toList)), 20, tokenChar, "<redacted-openai-key>"⟩

/-- `\bgh[pousr]_[A-Za-z0-9]{30,}`. -/
def githubToken : KeyShape :=
  ⟨.seq (text "gh".toList) (.seq (.one (oneOf "pousr")) (.one (· == '_'))), 30, isAsciiAlnum,
    "<redacted-github-token>"⟩

/-- `\bgithub_pat_[A-Za-z0-9_]{30,}`. -/
def githubPat : KeyShape := ⟨text "github_pat_".toList, 30, nameChar, "<redacted-github-token>"⟩

/-- `\bxox[baprse]-[A-Za-z0-9-]{10,}`. -/
def slackToken : KeyShape :=
  ⟨.seq (text "xox".toList) (.seq (.one (oneOf "baprse")) (.one (· == '-'))), 10, slackChar,
    "<redacted-slack-token>"⟩

/-- `\bAKIA[0-9A-Z]{16}\b`. -/
def awsKeyRe : Rule Char :=
  wholeRule true (.seq (text "AKIA".toList) (between 16 0 awsChar)) true "<redacted-aws-key-id>"

/-- `\bAIza[A-Za-z0-9_-]{30,}`. -/
def googleKey : KeyShape := ⟨text "AIza".toList, 30, tokenChar, "<redacted-google-key>"⟩

/-- `\beyJ[A-Za-z0-9_-]{8,}\.[A-Za-z0-9_-]{8,}\.[A-Za-z0-9_-]{8,}`. -/
def jwt : KeyShape :=
  ⟨.seq (.seq (text "eyJ".toList) (.seq (atLeast 8 tokenChar) (.one (· == '.'))))
      (.seq (atLeast 8 tokenChar) (.one (· == '.'))), 8, tokenChar, "<redacted-jwt>"⟩

/-- `-----BEGIN (?:[A-Z ]+ )?PRIVATE KEY-----` and its end. -/
def keyLabel (edge : String) : Regex Char :=
  .seq (text ("-----" ++ edge ++ " ").toList)
    (.seq (opt (.seq (atLeast 1 labelChar) (.one (· == ' ')))) (text "PRIVATE KEY-----".toList))

def privateKeyRe : Rule Char :=
  spanRule (keyLabel "BEGIN") (keyLabel "END") "<redacted-private-key>".toList

/-- `CREDENTIAL_SHAPE_RES`. -/
def credentialShapeRes : List (Rule Char) :=
  [anthropicKey.rule, openaiKey.rule, githubToken.rule, githubPat.rule, slackToken.rule, awsKeyRe,
    googleKey.rule, jwt.rule, privateKeyRe]

/-! ## Redaction of a text -/

/-- `pattern.search(text) is not None`. -/
def finds (pattern : Pattern Char) (cs : String) : Bool := pattern.search isWord none cs.toList

/-- `pattern.sub(template, text)`. -/
def replaceAll (rule : Rule Char) (cs : Text) : Text := rule.sub isWord 0 none cs

/-- The branch of `redact` for a string. -/
def redactText (cs : String) : String :=
  let redacted := replaceAll botTokenRe cs.toList
  let redacted := replaceAll bearerRe redacted
  let redacted := replaceAll envSecretRe redacted
  String.ofList (credentialShapeRes.foldl (fun redacted rule => replaceAll rule redacted) redacted)

/-- The patterns of credentials: a bot token, a bearer token and the shapes. -/
def credentialRules : List (Rule Char) := [botTokenRe, bearerRe] ++ credentialShapeRes

/-- A credential pattern matches in the text. -/
def hasCredential (cs : String) : Bool := credentialRules.any fun rule => finds rule.pattern cs

end LlmHarness.Journal
