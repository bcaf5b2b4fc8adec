/-
  LlmHarness.Journal.Redaction

  `redact` on a value of any depth.  What it returns is a document that can be printed,
  in which a name that asks for secrecy has no value and no string value has a credential;
  a document that has nothing to hide is returned as it is.
-/

import LlmHarness.Journal.TextClean
import LlmHarness.Python.JsonQuotes

namespace LlmHarness.Journal

open Python Substitution

/-- A Python value handed to the journal.  A key is carried as `str(key)`, so two keys of
    one mapping may be the same here; any other object is its `str(value)`. -/
inductive Value where
  | none
  | bool (value : Bool)
  | int (value : Int)
  | float (value : PyFloat)
  | str (value : String)
  | list (items : List Value)
  | tuple (items : List Value)
  | mapping (members : List (String × Value))
  | object (text : String)

/-- `SECRET_KEY_RE.search(str(key))`. -/
def isSecretKey (key : String) : Bool := finds secretKeyRe key

/-- What stands for the value of a secret key. -/
def redactedMark : String := "<redacted>"

mutual
/-- `redact`. -/
def redact : Value → Json
  | .none => .null
  | .bool value => .bool value
  | .int value => .int value
  | .float value => .float value
  | .str value => .str (redactText value)
  | .list items => .arr (redactItems items)
  | .tuple items => .arr (redactItems items)
  | .mapping members => .obj (dictOfPairs (redactMembers members))
  | .object text => .str (redactText text)
def redactItems : List Value → List Json
  | [] => []
  | item :: items => redact item :: redactItems items
def redactMembers : List (String × Value) → List (String × Json)
  | [] => []
  | (key, item) :: members =>
    (key, if isSecretKey key then .str redactedMark else redact item) :: redactMembers members
end

/-! ## What `redact` returns -/

/-- No bearer token and no key of a known shape is found. -/
def HidesKeys (cs : String) : Prop :=
  ∀ rule ∈ bearerRe :: credentialShapeRes, finds rule.pattern cs = false

mutual
/-- A document that shows no secret: the value of a secret key is the mark, and no string
    value has a credential in it. -/
def Redacted : Json → Prop
  | .str cs => HidesKeys cs
  | .arr items => RedactedItems items
  | .obj members => RedactedMembers members
  | _ => True
def RedactedItems : List Json → Prop
  | [] => True
  | item :: items => Redacted item ∧ RedactedItems items
def RedactedMembers : List (String × Json) → Prop
  | [] => True
  | (key, item) :: members =>
    (isSecretKey key = true → item = .str redactedMark) ∧ Redacted item ∧ RedactedMembers members
end

theorem redactedMembers_iff (members : List (String × Json)) :
    RedactedMembers members ↔ ∀ member ∈ members,
      (isSecretKey member.1 = true → member.2 = .str redactedMark) ∧ Redacted member.2 := by
  induction members with
  | nil => simp [RedactedMembers]
  | cons member members ih =>
      obtain ⟨key, item⟩ := member
      rw [RedactedMembers, ih, List.forall_mem_cons, and_assoc]

theorem hidesKeys_redactedMark : HidesKeys redactedMark := by
  have hsearch : ∀ rule ∈ bearerRe :: credentialShapeRes, finds rule.pattern "<redacted>" = false := by
    decide +kernel
  exact hsearch

/-- A dict built from pairs has only pairs of the list. -/
theorem mem_of_mem_dictOfPairs {ν : Type} {pairs : List (String × ν)} {member : String × ν}
    (h : member ∈ dictOfPairs pairs) : member ∈ pairs :=
  mem_of_dictGet?_dictOfPairs ((mem_iff_dictGet? (nodup_keys_dictOfPairs pairs) member.1 member.2).mp h)

mutual
/-- Whatever value is handed over, what `redact` returns is a document with distinct keys that
    shows no secret. -/
theorem redacted_redact : (value : Value) → Redacted (redact value) ∧ (redact value).DistinctKeys
  | .none => ⟨trivial, trivial⟩
  | .bool _ => ⟨trivial, trivial⟩
  | .int _ => ⟨trivial, trivial⟩
  | .float _ => ⟨trivial, trivial⟩
  | .str value => ⟨not_finds_redactText value, trivial⟩
  | .object text => ⟨not_finds_redactText text, trivial⟩
  | .list items => by
      have h := redacted_redactItems items
      exact ⟨h.1, h.2⟩
  | .tuple items => by
      have h := redacted_redactItems items
      exact ⟨h.1, h.2⟩
  | .mapping members => by
      have h := redacted_redactMembers members
      constructor
      · exact (redactedMembers_iff _).mpr fun member hmem =>
          (redactedMembers_iff _).mp h.1 member (mem_of_mem_dictOfPairs hmem)
      · refine ⟨nodup_keys_dictOfPairs _, (distinctMembers_iff _).mpr fun member hmem => ?_⟩
        exact h.2 member (mem_of_mem_dictOfPairs hmem)
theorem redacted_redactItems : (items : List Value) →
    RedactedItems (redactItems items) ∧ Json.DistinctItems (redactItems items)
  | [] => ⟨trivial, trivial⟩
  | item :: items => by
      have hitem := redacted_redact item
      have hitems := redacted_redactItems items
      exact ⟨⟨hitem.1, hitems.1⟩, hitem.2, hitems.2⟩
theorem redacted_redactMembers : (members : List (String × Value)) →
    RedactedMembers (redactMembers members) ∧
      ∀ member ∈ redactMembers members, member.2.DistinctKeys
  | [] => ⟨trivial, List.forall_mem_nil _⟩
  | (key, item) :: members => by
      have hitem := redacted_redact item
      have hmembers := redacted_redactMembers members
      rw [redactMembers]
      cases hsecret : isSecretKey key with
      | true =>
          refine ⟨⟨fun _ => rfl, hidesKeys_redactedMark, hmembers.1⟩, ?_⟩
          exact List.forall_mem_cons.mpr ⟨trivial, hmembers.2⟩
      | false =>
          refine ⟨⟨fun h => ?_, hitem.1, hmembers.1⟩, ?_⟩
          · rw [hsecret] at h
            cases h
          · exact List.forall_mem_cons.mpr ⟨hitem.2, hmembers.2⟩
end

/-! ## What has nothing to hide -/

mutual
/-- A document as `json.loads` returns it. -/
def Value.ofJson : Json → Value
  | .null => .none
  | .bool value => .bool value
  | .int value => .int value
  | .float value => .float value
  | .str value => .str value
  | .arr items => .list (Value.ofItems items)
  | .obj members => .mapping (Value.ofMembers members)
def Value.ofItems : List Json → List Value
  | [] => []
  | item :: items => Value.ofJson item :: Value.ofItems items
def Value.ofMembers : List (String × Json) → List (String × Value)
  | [] => []
  | (key, item) :: members => (key, Value.ofJson item) :: Value.ofMembers members
end

/-- No pattern of journal.py has a match in the string. -/
def isPlainText (cs : String) : Bool := !hasCredential cs && !finds envSecretRe.pattern cs

mutual
/-- No name of the document asks for secrecy and no string value matches a pattern. -/
def isPlain : Json → Bool
  | .str cs => isPlainText cs
  | .arr items => arePlainItems items
  | .obj members => arePlainMembers members
  | _ => true
def arePlainItems : List Json → Bool
  | [] => true
  | item :: items => isPlain item && arePlainItems items
def arePlainMembers : List (String × Json) → Bool
  | [] => true
  | (key, item) :: members => !isSecretKey key && isPlain item && arePlainMembers members
end

theorem redactText_of_isPlainText {cs : String} (h : isPlainText cs = true) : redactText cs = cs := by
  rw [isPlainText, Bool.and_eq_true, Bool.not_eq_true', Bool.not_eq_true'] at h
  exact redactText_eq_self h.1 h.2

mutual
/-- A document with nothing to hide is recorded as it is. -/
theorem redact_ofJson : (j : Json) → j.DistinctKeys → isPlain j = true → redact (Value.ofJson j) = j
  | .null, _, _ => rfl
  | .bool _, _, _ => rfl
  | .int _, _, _ => rfl
  | .float _, _, _ => rfl
  | .str _, _, hplain => congrArg Json.str (redactText_of_isPlainText hplain)
  | .arr items, hkeys, hplain => congrArg Json.arr (redactItems_ofItems items hkeys hplain)
  | .obj members, hkeys, hplain => by
      have hmembers := redactMembers_ofMembers members hkeys.2 hplain
      show Json.obj (dictOfPairs (redactMembers (Value.ofMembers members))) = Json.obj members
      rw [hmembers, dictOfPairs_of_nodup members hkeys.1]
theorem redactItems_ofItems : (items : List Json) → Json.DistinctItems items →
    arePlainItems items = true → redactItems (Value.ofItems items) = items
  | [], _, _ => rfl
  | item :: items, hkeys, hplain => by
      rw [arePlainItems, Bool.and_eq_true] at hplain
      rw [Value.ofItems, redactItems, redact_ofJson item hkeys.1 hplain.1,
        redactItems_ofItems items hkeys.2 hplain.2]
theorem redactMembers_ofMembers : (members : List (String × Json)) → Json.DistinctMembers members →
    arePlainMembers members = true → redactMembers (Value.ofMembers members) = members
  | [], _, _ => rfl
  | (key, item) :: members, hkeys, hplain => by
      rw [arePlainMembers, Bool.and_eq_true, Bool.and_eq_true, Bool.not_eq_true'] at hplain
      rw [Value.ofMembers, redactMembers, redact_ofJson item hkeys.1 hplain.1.2,
        redactMembers_ofMembers members hkeys.2 hplain.2, hplain.1.1]
      rfl
end

/-! ## Lines -/

/-- A rule that writes no separator of its own. -/
structure KeepsLines (rule : Rule Char) : Prop where
  keep : ∀ g, (∀ c ∈ g, isUnescapedBoundary c = false) →
    ∀ c ∈ rule.keep g, isUnescapedBoundary c = false
  placeholder : ∀ c ∈ rule.placeholder, isUnescapedBoundary c = false

theorem keepsLines_wholeRule {start stop : Bool} {body : Regex Char} {placeholder : String}
    (h : ∀ c ∈ placeholder.toList, isUnescapedBoundary c = false) :
    KeepsLines (wholeRule start body stop placeholder) :=
  ⟨fun _ _ => List.forall_mem_nil _, h⟩

theorem keepsLines_credentialShapeRes : ∀ rule ∈ credentialShapeRes, KeepsLines rule := by
  simp only [credentialShapeRes, List.forall_mem_cons]
  refine ⟨keepsLines_wholeRule ?_, keepsLines_wholeRule ?_, keepsLines_wholeRule ?_,
    keepsLines_wholeRule ?_, keepsLines_wholeRule ?_, keepsLines_wholeRule ?_,
    keepsLines_wholeRule ?_, keepsLines_wholeRule ?_, ?_, List.forall_mem_nil _⟩
  case refine_9 => exact ⟨fun _ _ => List.forall_mem_nil _, by decide⟩
  all_goals decide

/-- Redacting a text puts no separator into it. -/
theorem redactText_keepsLines {text : String}
    (h : ∀ c ∈ text.toList, isUnescapedBoundary c = false) :
    ∀ c ∈ (redactText text).toList, isUnescapedBoundary c = false := by
  have hstep : ∀ rule, KeepsLines rule → ∀ cs : Text, (∀ c ∈ cs, isUnescapedBoundary c = false) →
      ∀ c ∈ replaceAll rule cs, isUnescapedBoundary c = false :=
    fun rule hrule cs hcs => Rule.forall_mem_sub hrule.keep hrule.placeholder hcs
  have hfold : ∀ rules : List (Rule Char), (∀ rule ∈ rules, KeepsLines rule) → ∀ cs : Text,
      (∀ c ∈ cs, isUnescapedBoundary c = false) →
      ∀ c ∈ rules.foldl (fun redacted rule => replaceAll rule redacted) cs,
        isUnescapedBoundary c = false := by
    intro rules
    induction rules with
    | nil => exact fun _ cs hcs => hcs
    | cons rule rules ih =>
        intro hrules cs hcs
        obtain ⟨hrule, hrules⟩ := List.forall_mem_cons.mp hrules
        exact ih hrules _ (hstep rule hrule cs hcs)
  have hbearer : ∀ c ∈ "Bearer ".toList, isUnescapedBoundary c = false := by decide
  rw [redactText, String.toList_ofList]
  refine hfold _ keepsLines_credentialShapeRes _ (hstep _ ⟨fun _ hg => hg, by decide⟩ _ ?_)
  refine hstep _ ⟨fun _ _ => hbearer, by decide⟩ _ ?_
  exact hstep _ (keepsLines_wholeRule (by decide)) _ h

mutual
/-- ... and redacting a document none into its strings. -/
theorem lineSafe_redact : (j : Json) → j.LineSafe → (redact (Value.ofJson j)).LineSafe
  | .null, h => h
  | .bool _, h => h
  | .int _, h => h
  | .float _, h => h
  | .str text, h => by
      intro s hs
      obtain rfl := List.mem_singleton.mp hs
      exact redactText_keepsLines (h text (List.mem_singleton.mpr rfl))
  | .arr items, h => lineSafe_redactItems items h
  | .obj members, h => by
      intro s hs
      rw [Value.ofJson, redact, Json.strings, mem_memberStrings] at hs
      obtain ⟨member, hmem, hs⟩ := hs
      exact lineSafe_redactMembers members h s
        ((mem_memberStrings _ s).mpr ⟨member, mem_of_mem_dictOfPairs hmem, hs⟩)
theorem lineSafe_redactItems : (items : List Json) →
    (∀ s ∈ Json.itemStrings items, ∀ c ∈ s.toList, isUnescapedBoundary c = false) →
    ∀ s ∈ Json.itemStrings (redactItems (Value.ofItems items)), ∀ c ∈ s.toList,
      isUnescapedBoundary c = false
  | [], h => h
  | item :: items, h => by
      rw [Json.itemStrings] at h
      obtain ⟨hitem, hitems⟩ := List.forall_mem_append.mp h
      rw [Value.ofItems, redactItems, Json.itemStrings]
      exact List.forall_mem_append.mpr ⟨lineSafe_redact item hitem, lineSafe_redactItems items hitems⟩
theorem lineSafe_redactMembers : (members : List (String × Json)) →
    (∀ s ∈ Json.memberStrings members, ∀ c ∈ s.toList, isUnescapedBoundary c = false) →
    ∀ s ∈ Json.memberStrings (redactMembers (Value.ofMembers members)), ∀ c ∈ s.toList,
      isUnescapedBoundary c = false
  | [], h => h
  | (key, item) :: members, h => by
      rw [Json.memberStrings] at h
      obtain ⟨hkey, hrest⟩ := List.forall_mem_cons.mp h
      obtain ⟨hitem, hmembers⟩ := List.forall_mem_append.mp hrest
      rw [Value.ofMembers, redactMembers, Json.memberStrings]
      refine List.forall_mem_cons.mpr ⟨hkey, List.forall_mem_append.mpr
        ⟨?_, lineSafe_redactMembers members hmembers⟩⟩
      cases isSecretKey key with
      | true =>
          intro s hs
          obtain rfl := List.mem_singleton.mp hs
          decide
      | false => exact lineSafe_redact item hitem
end

end LlmHarness.Journal
