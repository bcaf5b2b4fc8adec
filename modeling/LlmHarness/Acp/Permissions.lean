/-
  LlmHarness.Acp.Permissions

  Permission requests of an ACP agent: the policy of a role (`RoleMcpPolicyConfig` of
  `mcp.py`) and the option that the client answers with (`_permission_outcome` of
  `acp.py`).

  The servers of a policy play no part in its permissions.
-/

import LlmHarness.Config.Mcp
import LlmHarness.Python.Value

namespace LlmHarness.Acp

open Python Config

/-- The members of a JSON object. -/
abbrev Members := List (String × Json)

/-! ## The policy of a role -/

/-- The kind that a policy looks up: an unknown one is another kind. -/
def normalizedKind (kind : Json) : String :=
  match kind with
  | .str text => if acpToolKinds.contains (normalized text) then normalized text else "other"
  | _ => "other"

section

variable [Config.Runtime]

/-- `RoleMcpPolicyConfig.allows`. -/
def allows (policy : RoleMcpPolicyConfig) (kind : Json) : Bool :=
  policy.val.permissionMode = "allow_once" && policy.val.allowedToolKinds.contains (normalizedKind kind)

end

/-! ## The answer to a permission request -/

/-- The option of a kind, when an item of the list is one. -/
def optionOfKind (kind : String) : Json → Option String
  | .obj option =>
    match field option "kind", field option "optionId" with
    | .str offered, .str optionId => if offered = kind then some optionId else none
    | _, _ => none
  | _ => none

/-- `_first_option_by_kind`. -/
def firstOptionByKind (options : Json) (kind : String) : Option String :=
  match options with
  | .arr items => items.findSome? (optionOfKind kind)
  | _ => none

/-- The options of a request. -/
def requestOptions (message : Members) : Json :=
  match field message "params" with
  | .obj params => field params "options"
  | _ => .null

/-- The kind of the tool that a request is about. -/
def requestToolKind (message : Members) : Json :=
  match field message "params" with
  | .obj params =>
    match field params "toolCall" with
    | .obj toolCall => field toolCall "kind"
    | _ => .null
  | _ => .null

/-- The option that the client rejects with: `or` passes over an empty identifier. -/
def rejectOption (options : Json) : Option String :=
  match firstOptionByKind options "reject_once" with
  | some optionId =>
    if optionId = "" then firstOptionByKind options "reject_always" else some optionId
  | none => firstOptionByKind options "reject_always"

section

variable [Config.Runtime]

/-- The option of `_permission_outcome`. -/
def permissionOption (policy : RoleMcpPolicyConfig) (message : Members) : Option String :=
  let allowed :=
    if allows policy (requestToolKind message) then
      firstOptionByKind (requestOptions message) "allow_once"
    else none
  allowed.or (rejectOption (requestOptions message))

/-- `_permission_outcome`. -/
def permissionOutcome (policy : RoleMcpPolicyConfig) (message : Members) : Members :=
  match permissionOption policy message with
  | some optionId => [("outcome", .str "selected"), ("optionId", .str optionId)]
  | none => [("outcome", .str "cancelled")]

end

/-! ## What a request offers -/

/-- The request offers an option of a kind. -/
def Offers (message : Members) (kind optionId : String) : Prop :=
  ∃ items, requestOptions message = .arr items ∧
    ∃ option ∈ items, optionOfKind kind option = some optionId

/-- ... and no other option of the kind before it. -/
def OffersFirst (message : Members) (kind optionId : String) : Prop :=
  ∃ before option after, requestOptions message = .arr (before ++ option :: after) ∧
    optionOfKind kind option = some optionId ∧ ∀ other ∈ before, optionOfKind kind other = none

theorem firstOptionByKind_eq_some_iff {message : Members} {kind optionId : String} :
    firstOptionByKind (requestOptions message) kind = some optionId ↔
      OffersFirst message kind optionId := by
  unfold firstOptionByKind OffersFirst
  cases requestOptions message with
  | arr items =>
      show items.findSome? (optionOfKind kind) = some optionId ↔ _
      rw [List.findSome?_eq_some_iff]
      constructor
      · rintro ⟨before, option, after, rfl, hoption, hbefore⟩
        exact ⟨before, option, after, rfl, hoption, hbefore⟩
      · rintro ⟨before, option, after, hitems, hoption, hbefore⟩
        exact ⟨before, option, after, Json.arr.inj hitems, hoption, hbefore⟩
  | _ => exact ⟨nofun, nofun⟩

theorem firstOptionByKind_eq_none_iff {message : Members} {kind : String} :
    firstOptionByKind (requestOptions message) kind = none ↔ ∀ optionId, ¬ Offers message kind optionId := by
  unfold firstOptionByKind Offers
  cases requestOptions message with
  | arr items =>
      show items.findSome? (optionOfKind kind) = none ↔ _
      rw [List.findSome?_eq_none_iff]
      constructor
      · rintro hnone optionId ⟨items', hitems, option, hoption, hid⟩
        rw [Json.arr.inj hitems] at hnone
        rw [hnone option hoption] at hid
        cases hid
      · intro hnone option hoption
        cases hid : optionOfKind kind option with
        | none => rfl
        | some optionId => exact absurd ⟨items, rfl, option, hoption, hid⟩ (hnone optionId)
  | _ => exact ⟨fun _ _ => nofun, fun _ => rfl⟩

theorem OffersFirst.offers {message : Members} {kind optionId : String}
    (h : OffersFirst message kind optionId) : Offers message kind optionId := by
  obtain ⟨before, option, after, hitems, hoption, -⟩ := h
  exact ⟨_, hitems, option, by simp, hoption⟩

/-- The option that a rejection names. -/
def Rejects (message : Members) (optionId : String) : Prop :=
  (OffersFirst message "reject_once" optionId ∧ optionId ≠ "") ∨
    ((∀ other, OffersFirst message "reject_once" other → other = "") ∧
      OffersFirst message "reject_always" optionId)

theorem rejectOption_eq_some_iff {message : Members} {optionId : String} :
    rejectOption (requestOptions message) = some optionId ↔ Rejects message optionId := by
  unfold rejectOption Rejects
  cases hfirst : firstOptionByKind (requestOptions message) "reject_once" with
  | none =>
      -- Nothing rejects once, so the first one that rejects always is taken.
      have hnone : ∀ other, ¬ OffersFirst message "reject_once" other := fun other h =>
        firstOptionByKind_eq_none_iff.mp hfirst other h.offers
      show firstOptionByKind (requestOptions message) "reject_always" = some optionId ↔ _
      rw [firstOptionByKind_eq_some_iff]
      constructor
      · exact fun h => Or.inr ⟨fun other hother => absurd hother (hnone other), h⟩
      · rintro (⟨h, -⟩ | ⟨-, h⟩)
        · exact absurd h (hnone optionId)
        · exact h
  | some first =>
      have honly : ∀ other, OffersFirst message "reject_once" other ↔ first = other := fun other => by
        rw [← firstOptionByKind_eq_some_iff, hfirst, Option.some.injEq]
      simp only [honly]
      by_cases hempty : first = ""
      -- An empty id counts as none.
      · rw [if_pos hempty, firstOptionByKind_eq_some_iff]
        constructor
        · exact fun h => Or.inr ⟨fun other hother => hother.symm.trans hempty, h⟩
        · rintro (⟨h, hne⟩ | ⟨-, h⟩)
          · exact absurd (h.symm.trans hempty) hne
          · exact h
      · rw [if_neg hempty, Option.some.injEq]
        constructor
        · rintro rfl
          exact Or.inl ⟨rfl, hempty⟩
        · rintro (⟨h, -⟩ | ⟨h, -⟩)
          · exact h
          · exact absurd (h first rfl) hempty

section

variable [Config.Runtime]

/-- An answer names an option that is offered to allow once only if the policy allows the
    kind of the tool, and none that is offered to allow always. -/
def SafeOption (policy : RoleMcpPolicyConfig) (message : Members) (optionId : String) : Prop :=
  (Offers message "allow_once" optionId → allows policy (requestToolKind message) = true) ∧
    ¬ Offers message "allow_always" optionId

/-- The options that the client chooses among share no identifier with those it must not
    choose. -/
structure ClearChoice (policy : RoleMcpPolicyConfig) (message : Members) : Prop where
  allowed : allows policy (requestToolKind message) = true → ∀ optionId,
    OffersFirst message "allow_once" optionId → ¬ Offers message "allow_always" optionId
  rejected : (allows policy (requestToolKind message) = true →
      ∀ optionId, ¬ Offers message "allow_once" optionId) →
    ∀ optionId, Rejects message optionId →
      ¬ Offers message "allow_once" optionId ∧ ¬ Offers message "allow_always" optionId

/-- The option of an allowed request is the first one that allows once, and else, as for
    any other request, the one that rejects. -/
theorem permissionOption_eq_some_iff {policy : RoleMcpPolicyConfig} {message : Members}
    {optionId : String} :
    permissionOption policy message = some optionId ↔
      (allows policy (requestToolKind message) = true ∧ OffersFirst message "allow_once" optionId) ∨
        ((allows policy (requestToolKind message) = true →
          ∀ other, ¬ Offers message "allow_once" other) ∧ Rejects message optionId) := by
  unfold permissionOption
  by_cases hallows : allows policy (requestToolKind message) = true
  · simp only [hallows, if_true, true_and, true_implies]
    -- An allowed request takes the first option that allows once, if there is one.
    cases hfirst : firstOptionByKind (requestOptions message) "allow_once" with
    | none =>
        have hnone := firstOptionByKind_eq_none_iff.mp hfirst
        rw [Option.none_or, rejectOption_eq_some_iff]
        constructor
        · exact fun h => Or.inr ⟨hnone, h⟩
        · rintro (h | ⟨-, h⟩)
          · exact absurd h.offers (hnone optionId)
          · exact h
    | some first =>
        have hoffered := firstOptionByKind_eq_some_iff.mp hfirst
        rw [Option.some_or, ← hfirst, firstOptionByKind_eq_some_iff]
        constructor
        · exact Or.inl
        · rintro (h | ⟨hnone, -⟩)
          · exact h
          · exact absurd hoffered.offers (hnone first)
  · simp only [hallows, Bool.false_eq_true, if_false, Option.none_or, false_and, false_implies,
      true_and, false_or]
    exact rejectOption_eq_some_iff

/-- What the client names is safe exactly when the choice is clear. -/
theorem safeOption_iff {policy : RoleMcpPolicyConfig} {message : Members} :
    (∀ optionId, permissionOption policy message = some optionId → SafeOption policy message optionId) ↔
      ClearChoice policy message := by
  simp only [permissionOption_eq_some_iff, SafeOption]
  constructor
  · intro h
    refine ⟨fun hallows optionId hfirst => (h optionId (Or.inl ⟨hallows, hfirst⟩)).2, ?_⟩
    intro hnone optionId hrejects
    obtain ⟨honce, halways⟩ := h optionId (Or.inr ⟨hnone, hrejects⟩)
    exact ⟨fun hoffers => hnone (honce hoffers) optionId hoffers, halways⟩
  · rintro h optionId (⟨hallows, hfirst⟩ | ⟨hnone, hrejects⟩)
    · exact ⟨fun _ => hallows, h.allowed hallows optionId hfirst⟩
    · obtain ⟨honce, halways⟩ := h.rejected hnone optionId hrejects
      exact ⟨fun hoffers => absurd hoffers honce, halways⟩

end

end LlmHarness.Acp
