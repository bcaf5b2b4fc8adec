/-
  LlmHarness.Models.Reading

  What `_parse_response` makes of a payload: the text it reads is the one the dialect
  holds, and what it raises is a shape error unless something is met that is no object.
-/

import LlmHarness.Models.Invoke

namespace LlmHarness.Models

open Python

variable {Body : Type} {runtime : Runtime Body}

/-! ## Contents -/

theorem contentText_of_object (members : Members) :
    contentText runtime (.obj members) = if hasType members "output_text" then
      (dictGet? members "text").elim (.error .keyError) fun text => .ok (some (runtime.str text))
    else .ok none := rfl

/-- A content that is no dict has no `get`. -/
theorem contentText_of_stray {content : Json} (h : ∀ members, content ≠ .obj members) :
    contentText runtime content = .error .attributeError := by
  cases content with
  | obj members => exact absurd rfl (h members)
  | _ => rfl

/-- A content is passed over when it is a dict of another type. -/
theorem contentText_eq_none_iff {content : Json} :
    contentText runtime content = .ok none ↔ PassesContent content := by
  constructor
  · intro h
    by_cases hobject : ∃ members, content = .obj members
    · obtain ⟨members, rfl⟩ := hobject
      refine ⟨members, rfl, ?_⟩
      rw [contentText_of_object] at h
      by_cases htype : hasType members "output_text" = true
      · rw [if_pos htype] at h
        cases htext : dictGet? members "text" with
        | none => rw [htext] at h; cases h
        | some text => rw [htext] at h; cases h
      · exact Bool.eq_false_iff.mpr htype
    · rw [contentText_of_stray fun members hmembers => hobject ⟨members, hmembers⟩] at h
      cases h
  · rintro ⟨members, rfl, htype⟩
    rw [contentText_of_object, htype]
    rfl

/-- A text is found in a content of type `output_text` that has one. -/
theorem contentText_eq_some_iff {content : Json} {text : String} :
    contentText runtime content = .ok (some text) ↔ ∃ members value, content = .obj members ∧
      hasType members "output_text" = true ∧ dictGet? members "text" = some value ∧
        runtime.str value = text := by
  constructor
  · intro h
    by_cases hobject : ∃ members, content = .obj members
    · obtain ⟨members, rfl⟩ := hobject
      rw [contentText_of_object] at h
      by_cases htype : hasType members "output_text" = true
      · rw [if_pos htype] at h
        cases hvalue : dictGet? members "text" with
        | none => rw [hvalue] at h; cases h
        | some value =>
          rw [hvalue] at h
          exact ⟨members, value, rfl, htype, hvalue, Option.some.inj (Except.ok.inj h)⟩
      · rw [if_neg htype] at h
        cases h
    · rw [contentText_of_stray fun members hmembers => hobject ⟨members, hmembers⟩] at h
      cases h
  · rintro ⟨members, value, rfl, htype, hvalue, rfl⟩
    rw [contentText_of_object, if_pos htype, hvalue]
    rfl

/-- What raises in a content: a text that is missing, or a content that is no dict. -/
theorem contentText_error {content : Json} {fault : Fault} (h : contentText runtime content = .error fault) :
    (fault = .keyError ∧ ∃ members, content = .obj members) ∨
      (fault = .attributeError ∧ ∀ members, content ≠ .obj members) := by
  by_cases hobject : ∃ members, content = .obj members
  · obtain ⟨members, rfl⟩ := hobject
    rw [contentText_of_object] at h
    by_cases htype : hasType members "output_text" = true
    · rw [if_pos htype] at h
      cases hvalue : dictGet? members "text" with
      | none =>
        rw [hvalue] at h
        exact Or.inl ⟨(Except.error.inj h).symm, members, rfl⟩
      | some value => rw [hvalue] at h; cases h
    · rw [if_neg htype] at h
      cases h
  · have hstray : ∀ members, content ≠ .obj members := fun members hmembers => hobject ⟨members, hmembers⟩
    rw [contentText_of_stray hstray] at h
    exact Or.inr ⟨(Except.error.inj h).symm, hstray⟩

/-- ... of which only the second is the `AttributeError`. -/
theorem contentText_attributeError_iff {content : Json} :
    contentText runtime content = .error .attributeError ↔ ∀ members, content ≠ .obj members := by
  constructor
  · intro h
    rcases contentText_error h with ⟨hfault, -⟩ | ⟨-, hstray⟩
    · cases hfault
    · exact hstray
  · exact contentText_of_stray

/-! ## Items -/

/-- What cannot be iterated raises `TypeError`. -/
theorem elements_error {value : Json} {fault : Fault} (h : elements value = .error fault) :
    fault = .typeError := by
  cases value with
  | arr items => cases h
  | obj members => cases h
  | str text => cases h
  | _ => exact (Except.error.inj h).symm

/-- The search through the contents of a message. -/
def messageText (runtime : Runtime Body) (message : Members) : Except Fault (Option String) :=
  elements (listField message "content") >>= fun contents => contents.findSomeM? (contentText runtime)

theorem itemText_of_object (members : Members) :
    itemText runtime (.obj members) =
      if hasType members "message" then messageText runtime members else .ok none := rfl

/-- An item that is no dict has no `get`. -/
theorem itemText_of_stray {item : Json} (h : ∀ members, item ≠ .obj members) :
    itemText runtime item = .error .attributeError := by
  cases item with
  | obj members => exact absurd rfl (h members)
  | _ => rfl

/-- A message without a text is one whose contents are all passed over. -/
theorem messageText_eq_none_iff {message : Members} :
    messageText runtime message = .ok none ↔ ∃ contents,
      elements (listField message "content") = .ok contents ∧ ∀ content ∈ contents, PassesContent content := by
  rw [messageText, Guards.bind_eq_ok]
  simp only [EarlyExit.findSomeM?_eq_none_iff, contentText_eq_none_iff]

/-- An outcome of the search that is a text is that of the first content with one. -/
theorem messageText_eq_some_iff {message : Members} {text : String} :
    messageText runtime message = .ok (some text) ↔ ∃ contents earlier content later value,
      elements (listField message "content") = .ok contents ∧
      contents = earlier ++ .obj content :: later ∧ (∀ content ∈ earlier, PassesContent content) ∧
      hasType content "output_text" = true ∧ dictGet? content "text" = some value ∧
      runtime.str value = text := by
  rw [messageText, Guards.bind_eq_ok]
  constructor
  · rintro ⟨contents, hcontents, hfound⟩
    obtain ⟨earlier, content, later, hsplit, hearlier, hcontent⟩ :=
      (EarlyExit.findSomeM?_eq_iff (by simp)).mp hfound
    obtain ⟨members, value, rfl, htype, hvalue, htext⟩ := contentText_eq_some_iff.mp hcontent
    exact ⟨contents, earlier, members, later, value, hcontents, hsplit,
      fun other hother => contentText_eq_none_iff.mp (hearlier other hother), htype, hvalue, htext⟩
  · rintro ⟨contents, earlier, content, later, value, hcontents, hsplit, hearlier, htype, hvalue, htext⟩
    refine ⟨contents, hcontents, (EarlyExit.findSomeM?_eq_iff (by simp)).mpr ?_⟩
    refine ⟨earlier, .obj content, later, hsplit, ?_, ?_⟩
    · exact fun other hother => contentText_eq_none_iff.mpr (hearlier other hother)
    · exact contentText_eq_some_iff.mpr ⟨content, value, rfl, htype, hvalue, htext⟩

/-- A message raises `AttributeError` where its contents reach a stray one. -/
theorem messageText_attributeError_iff {message : Members} :
    messageText runtime message = .error .attributeError ↔ ∃ contents,
      elements (listField message "content") = .ok contents ∧ StrayContent contents := by
  rw [messageText, Guards.bind_eq_error]
  constructor
  · rintro (helements | ⟨contents, hcontents, hfound⟩)
    · cases elements_error helements
    · obtain ⟨before, content, after, hsplit, hbefore, hcontent⟩ :=
        (EarlyExit.findSomeM?_eq_iff (by simp)).mp hfound
      exact ⟨contents, hcontents, before, content, after, hsplit,
        fun other hother => contentText_eq_none_iff.mp (hbefore other hother),
        contentText_attributeError_iff.mp hcontent⟩
  · rintro ⟨contents, hcontents, before, content, after, hsplit, hbefore, hstray⟩
    refine Or.inr ⟨contents, hcontents, (EarlyExit.findSomeM?_eq_iff (by simp)).mpr ?_⟩
    exact ⟨before, content, after, hsplit,
      fun other hother => contentText_eq_none_iff.mpr (hbefore other hother),
      contentText_of_stray hstray⟩

/-- What the reading of a payload may raise. -/
def Fault.isReadError (fault : Fault) : Bool := fault.isShapeError || fault = .attributeError

/-- What a message raises is a shape error or an `AttributeError`. -/
theorem messageText_error {message : Members} {fault : Fault}
    (h : messageText runtime message = .error fault) : fault.isReadError = true := by
  rcases Guards.bind_eq_error.mp h with helements | ⟨contents, -, hfound⟩
  · rw [elements_error helements]
    rfl
  · obtain ⟨-, content, -, -, -, hcontent⟩ := (EarlyExit.findSomeM?_eq_iff (by simp)).mp hfound
    rcases contentText_error hcontent with ⟨rfl, -⟩ | ⟨rfl, -⟩
    · rfl
    · rfl

/-- An item is passed over when it is no message or has no text. -/
theorem itemText_eq_none_iff {item : Json} : itemText runtime item = .ok none ↔ PassesItem item := by
  constructor
  · intro h
    by_cases hobject : ∃ members, item = .obj members
    · obtain ⟨members, rfl⟩ := hobject
      refine ⟨members, rfl, fun htype => ?_⟩
      rw [itemText_of_object, if_pos htype] at h
      exact messageText_eq_none_iff.mp h
    · rw [itemText_of_stray fun members hmembers => hobject ⟨members, hmembers⟩] at h
      cases h
  · rintro ⟨members, rfl, hpasses⟩
    rw [itemText_of_object]
    by_cases htype : hasType members "message" = true
    · rw [if_pos htype]
      exact messageText_eq_none_iff.mpr (hpasses htype)
    · rw [if_neg htype]

/-- A text is found in an item that is a message with one. -/
theorem itemText_eq_some_iff {item : Json} {text : String} :
    itemText runtime item = .ok (some text) ↔ ∃ message, item = .obj message ∧
      hasType message "message" = true ∧ messageText runtime message = .ok (some text) := by
  constructor
  · intro h
    by_cases hobject : ∃ members, item = .obj members
    · obtain ⟨members, rfl⟩ := hobject
      rw [itemText_of_object] at h
      by_cases htype : hasType members "message" = true
      · rw [if_pos htype] at h
        exact ⟨members, rfl, htype, h⟩
      · rw [if_neg htype] at h
        cases h
    · rw [itemText_of_stray fun members hmembers => hobject ⟨members, hmembers⟩] at h
      cases h
  · rintro ⟨members, rfl, htype, htext⟩
    rw [itemText_of_object, if_pos htype, htext]

/-- An item raises `AttributeError` when it is stray. -/
theorem itemText_attributeError_iff {item : Json} :
    itemText runtime item = .error .attributeError ↔ StrayItem item := by
  constructor
  · intro h
    by_cases hobject : ∃ members, item = .obj members
    · obtain ⟨members, rfl⟩ := hobject
      rw [itemText_of_object] at h
      by_cases htype : hasType members "message" = true
      · rw [if_pos htype] at h
        obtain ⟨contents, hcontents, hstray⟩ := messageText_attributeError_iff.mp h
        exact Or.inr ⟨members, contents, rfl, htype, hcontents, hstray⟩
      · rw [if_neg htype] at h
        cases h
    · exact Or.inl fun members hmembers => hobject ⟨members, hmembers⟩
  · rintro (hstray | ⟨members, contents, rfl, htype, hcontents, hstray⟩)
    · exact itemText_of_stray hstray
    · rw [itemText_of_object, if_pos htype]
      exact messageText_attributeError_iff.mpr ⟨contents, hcontents, hstray⟩

/-- ... and raises nothing but such errors. -/
theorem itemText_error {item : Json} {fault : Fault} (h : itemText runtime item = .error fault) :
    fault.isReadError = true := by
  by_cases hobject : ∃ members, item = .obj members
  · obtain ⟨members, rfl⟩ := hobject
    rw [itemText_of_object] at h
    by_cases htype : hasType members "message" = true
    · rw [if_pos htype] at h
      exact messageText_error h
    · rw [if_neg htype] at h
      cases h
  · rw [itemText_of_stray fun members hmembers => hobject ⟨members, hmembers⟩] at h
    rw [← Except.error.inj h]
    rfl

/-! ## The output of a payload -/

/-- The search through the output. -/
def outputSearch (runtime : Runtime Body) (payload : Members) : Except Fault (Option String) :=
  elements (listField payload "output") >>= fun items => items.findSomeM? (itemText runtime)

/-- The text is what the search over the items finds; no text is a `KeyError`. -/
theorem openaiOutputText_eq (payload : Members) :
    openaiOutputText runtime payload =
      (outputSearch runtime payload >>= fun found => found.elim (.error .keyError) .ok) := by
  rw [openaiOutputText, outputSearch]
  cases elements (listField payload "output") <;> rfl

/-- `_openai_output_text` returns the first text that no stray item stands before. -/
theorem openaiOutputText_eq_ok_iff {payload : Members} {text : String} :
    openaiOutputText runtime payload = .ok text ↔
      ∃ value, FirstText payload value ∧ runtime.str value = text := by
  rw [openaiOutputText_eq, Guards.bind_eq_ok]
  constructor
  · rintro ⟨found, hfound, htext⟩
    cases found with
    | none => cases htext
    | some found =>
      have hsame : found = text := Except.ok.inj htext
      rw [hsame] at hfound
      obtain ⟨items, hitems, hsearch⟩ := Guards.bind_eq_ok.mp hfound
      -- What the loop passes over stands before the item it stops at.
      obtain ⟨before, item, after, hsplit, hbefore, hitem⟩ :=
        (EarlyExit.findSomeM?_eq_iff (by simp)).mp hsearch
      obtain ⟨message, rfl, htype, hmessage⟩ := itemText_eq_some_iff.mp hitem
      obtain ⟨contents, earlier, content, later, value, hcontents, hcontent, hearlier, hout, hvalue, hstr⟩ :=
        messageText_eq_some_iff.mp hmessage
      exact ⟨value, ⟨items, before, message, after, contents, earlier, content, later, hitems, hsplit,
        fun other hother => itemText_eq_none_iff.mp (hbefore other hother), htype, hcontents, hcontent,
        hearlier, hout, hvalue⟩, hstr⟩
  -- The split says where the search stops, and at which content of that item.
  · rintro ⟨value, ⟨items, before, message, after, contents, earlier, content, later, hitems, hsplit,
      hbefore, htype, hcontents, hcontent, hearlier, hout, hvalue⟩, hstr⟩
    refine ⟨some text, Guards.bind_eq_ok.mpr ⟨items, hitems, ?_⟩, rfl⟩
    refine (EarlyExit.findSomeM?_eq_iff (by simp)).mpr ⟨before, .obj message, after, hsplit, ?_, ?_⟩
    · exact fun other hother => itemText_eq_none_iff.mpr (hbefore other hother)
    · exact itemText_eq_some_iff.mpr ⟨message, rfl, htype, messageText_eq_some_iff.mpr
        ⟨contents, earlier, content, later, value, hcontents, hcontent, hearlier, hout, hvalue, hstr⟩⟩

/-- ... and raises `AttributeError` at the first stray item, if all before it are passed over. -/
theorem openaiOutputText_attributeError_iff {payload : Members} :
    openaiOutputText runtime payload = .error .attributeError ↔
      ∃ items before item after, elements (listField payload "output") = .ok items ∧
        items = before ++ item :: after ∧ (∀ other ∈ before, PassesItem other) ∧ StrayItem item := by
  rw [openaiOutputText_eq, Guards.bind_eq_error]
  constructor
  · rintro (hsearch | ⟨found, -, hfound⟩)
    · rcases Guards.bind_eq_error.mp hsearch with helements | ⟨items, hitems, hsearch⟩
      · cases elements_error helements
      · obtain ⟨before, item, after, hsplit, hbefore, hitem⟩ :=
          (EarlyExit.findSomeM?_eq_iff (by simp)).mp hsearch
        exact ⟨items, before, item, after, hitems, hsplit,
          fun other hother => itemText_eq_none_iff.mp (hbefore other hother),
          itemText_attributeError_iff.mp hitem⟩
    · cases found <;> cases hfound
  · rintro ⟨items, before, item, after, hitems, hsplit, hbefore, hitem⟩
    refine Or.inl (Guards.bind_eq_error.mpr (Or.inr ⟨items, hitems, ?_⟩))
    refine (EarlyExit.findSomeM?_eq_iff (by simp)).mpr ⟨before, item, after, hsplit, ?_, ?_⟩
    · exact fun other hother => itemText_eq_none_iff.mpr (hbefore other hother)
    · exact itemText_attributeError_iff.mpr hitem

/-- ... and raises nothing but such errors and shape errors. -/
theorem openaiOutputText_error {payload : Members} {fault : Fault}
    (h : openaiOutputText runtime payload = .error fault) : fault.isReadError = true := by
  rw [openaiOutputText_eq] at h
  rcases Guards.bind_eq_error.mp h with hsearch | ⟨found, -, hfound⟩
  · rcases Guards.bind_eq_error.mp hsearch with helements | ⟨items, -, hsearch⟩
    · rw [elements_error helements]
      rfl
    · obtain ⟨-, item, -, -, -, hitem⟩ := (EarlyExit.findSomeM?_eq_iff (by simp)).mp hsearch
      exact itemText_error hitem
  · cases found with
    | none =>
      rw [← Except.error.inj hfound]
      rfl
    | some text => cases hfound

/-! ## The text of a reply -/

/-- `value[name]` is a member of a dict. -/
theorem itemAt_eq_ok_iff {value item : Json} {name : String} :
    itemAt value name = .ok item ↔ ∃ members, value = .obj members ∧ dictGet? members name = some item := by
  constructor
  · intro h
    cases value with
    | obj members =>
      refine ⟨members, rfl, ?_⟩
      have hget : (dictGet? members name).elim (.error Fault.keyError) Except.ok = .ok item := h
      cases hitem : dictGet? members name with
      | none => rw [hitem] at hget; cases hget
      | some found =>
        rw [hitem] at hget
        rw [Except.ok.inj hget]
    | _ => cases h
  · rintro ⟨members, rfl, hitem⟩
    show (dictGet? members name).elim (.error Fault.keyError) Except.ok = .ok item
    rw [hitem]
    rfl

/-- Any other value raises one of the errors that are caught around the reading. -/
theorem itemAt_error {value : Json} {name : String} {fault : Fault} (h : itemAt value name = .error fault) :
    fault.isShapeError = true := by
  cases value with
  | obj members =>
    have hget : (dictGet? members name).elim (.error Fault.keyError) Except.ok = .error fault := h
    cases hitem : dictGet? members name with
    | none =>
      rw [hitem] at hget
      rw [← Except.error.inj hget]
      rfl
    | some found => rw [hitem] at hget; cases hget
  | _ =>
    rw [← Except.error.inj h]
    rfl

/-- ... and so does `value[0]`. -/
theorem firstItem_error {value : Json} {fault : Fault} (h : firstItem value = .error fault) :
    fault.isShapeError = true := by
  cases value with
  | arr items =>
    cases items with
    | nil =>
      rw [← Except.error.inj h]
      rfl
    | cons item rest => cases h
  | str text =>
    have hfirst : text.toList.head?.elim (.error Fault.indexError)
        (fun c => Except.ok (Json.str (String.singleton c))) = .error fault := h
    cases hchars : text.toList.head? with
    | none =>
      rw [hchars] at hfirst
      rw [← Except.error.inj hfirst]
      rfl
    | some c => rw [hchars] at hfirst; cases hfirst
  | _ =>
    rw [← Except.error.inj h]
    rfl

/-- The first item is an object only in a list. -/
theorem firstItem_eq_object_iff {value : Json} {members : Members} :
    firstItem value = .ok (.obj members) ↔ ∃ rest, value = .arr (.obj members :: rest) := by
  constructor
  · intro h
    cases value with
    | arr items =>
      cases items with
      | nil => cases h
      | cons item rest =>
        have hitem : item = .obj members := Except.ok.inj h
        exact ⟨rest, by rw [hitem]⟩
    | str text =>
      have hfirst : text.toList.head?.elim (.error Fault.indexError)
          (fun c => Except.ok (Json.str (String.singleton c))) = .ok (.obj members) := h
      cases hchars : text.toList.head? with
      | none => rw [hchars] at hfirst; cases hfirst
      | some c => rw [hchars] at hfirst; cases hfirst
    | _ => cases h
  · rintro ⟨rest, rfl⟩
    rfl

/-- Without a text of its own an OpenAI reply is searched. -/
theorem replyText_of_openai {payload : Members} (h : isTruthy (field payload "output_text") = false) :
    replyText runtime .openai payload = Json.str <$> openaiOutputText runtime payload := by
  rw [replyText, if_pos rfl, if_neg (by rw [h]; exact Bool.false_ne_true)]

/-- Every other provider's reply is read at `choices[0].message.content`. -/
theorem replyText_of_choices {provider : Provider} (hprovider : provider ≠ .openai) (payload : Members) :
    replyText runtime provider payload = (itemAt (.obj payload) "choices" >>= fun choices =>
      firstItem choices >>= fun choice => itemAt choice "message" >>= fun message => itemAt message "content") := by
  rw [replyText, if_neg hprovider]

/-- A found text is returned as a string. -/
theorem map_str_eq_ok_iff {found : Except Fault String} {text : Json} :
    Json.str <$> found = .ok text ↔ ∃ value, found = .ok value ∧ text = .str value := by
  cases found with
  | error fault => exact ⟨fun h => (nomatch h), fun ⟨_, h, _⟩ => (nomatch h)⟩
  | ok value =>
    constructor
    · intro h
      exact ⟨value, rfl, (Except.ok.inj h).symm⟩
    · rintro ⟨value', hvalue, rfl⟩
      cases hvalue
      rfl

/-- A fault passes through. -/
theorem map_str_eq_error_iff {found : Except Fault String} {fault : Fault} :
    Json.str <$> found = .error fault ↔ found = .error fault := by
  cases found with
  | error fault' =>
    constructor
    · intro h
      rw [Except.error.inj h]
    · intro h
      rw [Except.error.inj h]
      rfl
  | ok value => exact ⟨fun h => (nomatch h), fun h => (nomatch h)⟩

/-- The text that is read is the one the dialect holds. -/
theorem replyText_eq_ok_iff {provider : Provider} {payload : Members} {text : Json} :
    replyText runtime provider payload = .ok text ↔ ReplyText runtime payload provider text := by
  by_cases hprovider : provider = .openai
  · subst hprovider
    by_cases htruthy : isTruthy (field payload "output_text") = true
    -- A truthy `output_text` is returned before the output is looked at.
    · rw [replyText, if_pos rfl, if_pos htruthy]
      constructor
      · intro h
        rw [← Except.ok.inj h]
        exact .outputText htruthy
      · intro h
        cases h with
        | outputText h => rfl
        | message h htext => rw [htruthy] at h; cases h
        | choice hprovider => exact absurd rfl hprovider
    · have hfalse : isTruthy (field payload "output_text") = false := Bool.eq_false_iff.mpr htruthy
      rw [replyText_of_openai hfalse, map_str_eq_ok_iff]
      constructor
      · rintro ⟨found, hfound, rfl⟩
        obtain ⟨value, hvalue, rfl⟩ := openaiOutputText_eq_ok_iff.mp hfound
        exact .message hfalse hvalue
      · intro h
        cases h with
        | outputText h => exact absurd h htruthy
        | @message value h hvalue =>
          exact ⟨runtime.str value, openaiOutputText_eq_ok_iff.mpr ⟨value, hvalue, rfl⟩, rfl⟩
        | choice hprovider => exact absurd rfl hprovider
  -- Every other dialect reads the first choice.
  · rw [replyText_of_choices hprovider]
    simp only [Guards.bind_eq_ok, itemAt_eq_ok_iff]
    constructor
    · rintro ⟨choices, ⟨members, hmembers, hchoices⟩, _, hfirst, _, ⟨choice, rfl, hmessage⟩, message, rfl, htext⟩
      cases hmembers
      obtain ⟨rest, rfl⟩ := firstItem_eq_object_iff.mp hfirst
      exact .choice hprovider hchoices hmessage htext
    · intro h
      cases h with
      | outputText h => exact absurd rfl hprovider
      | message h hvalue => exact absurd rfl hprovider
      | @choice _ choice message rest _ _ hchoices hmessage htext =>
        exact ⟨_, ⟨payload, rfl, hchoices⟩, _, rfl, _, ⟨choice, rfl, hmessage⟩, message, rfl, htext⟩

/-- Only an OpenAI reply with a stray output raises `AttributeError`. -/
theorem replyText_attributeError_iff {provider : Provider} {payload : Members} :
    replyText runtime provider payload = .error .attributeError ↔
      provider = .openai ∧ StrayOutput payload := by
  by_cases hprovider : provider = .openai
  · subst hprovider
    by_cases htruthy : isTruthy (field payload "output_text") = true
    · rw [replyText, if_pos rfl, if_pos htruthy]
      constructor
      · intro h
        cases h
      · rintro ⟨-, hfalse, -⟩
        rw [htruthy] at hfalse
        cases hfalse
    -- Without a truthy `output_text` the search of the output is all that is left.
    · have hfalse : isTruthy (field payload "output_text") = false := Bool.eq_false_iff.mpr htruthy
      rw [replyText_of_openai hfalse, map_str_eq_error_iff, openaiOutputText_attributeError_iff]
      exact ⟨fun h => ⟨rfl, hfalse, h⟩, fun h => h.2.2⟩
  · constructor
    · intro h
      rw [replyText_of_choices hprovider] at h
      simp only [Guards.bind_eq_error] at h
      -- Each step of the other dialects raises a shape error, if any.
      rcases h with h | ⟨_, -, h | ⟨_, -, h | ⟨_, -, h⟩⟩⟩
      · cases itemAt_error h
      · cases firstItem_error h
      · cases itemAt_error h
      · cases itemAt_error h
    · exact fun h => absurd h.1 hprovider

/-- What reading a reply raises is a shape error or an `AttributeError`. -/
theorem replyText_error {provider : Provider} {payload : Members} {fault : Fault}
    (h : replyText runtime provider payload = .error fault) : fault.isReadError = true := by
  by_cases hprovider : provider = .openai
  · subst hprovider
    by_cases htruthy : isTruthy (field payload "output_text") = true
    · rw [replyText, if_pos rfl, if_pos htruthy] at h
      cases h
    · rw [replyText_of_openai (Bool.eq_false_iff.mpr htruthy), map_str_eq_error_iff] at h
      exact openaiOutputText_error h
  · have hshape : fault.isShapeError = true := by
      rw [replyText_of_choices hprovider] at h
      simp only [Guards.bind_eq_error] at h
      rcases h with h | ⟨_, -, h | ⟨_, -, h | ⟨_, -, h⟩⟩⟩
      · exact itemAt_error h
      · exact firstItem_error h
      · exact itemAt_error h
      · exact itemAt_error h
    rw [Fault.isReadError, hshape]
    rfl

end LlmHarness.Models
