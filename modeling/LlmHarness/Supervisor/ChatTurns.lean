/-
  LlmHarness.Supervisor.ChatTurns

  Concurrent calls of `send_supervisor_message` on one project.  A call loads the
  history, asks the model for as long as it takes, and writes the history it has loaded
  with its own two messages at the end.

  No returned turn is lost in a run exactly when no call writes a history that it loaded
  before another call wrote: each such write drops the turn of the other call.
-/

import Mathlib.Data.List.Infix
import LlmHarness.Domain
import LlmHarness.Lib.Run
import LlmHarness.Supervisor.Chat

namespace LlmHarness

open Python

/-! ## Calls and their steps -/

/-- `SupervisorChatTurn`. -/
structure ChatTurn where
  user : ChatMessage
  supervisor : ChatMessage
  evidence : Option ModelInvocationEvidence := none

/-- How far a call of `send_supervisor_message` has come. -/
inductive ChatCall where
  | idle
  /-- The history is loaded, after so many writes, and the model is asked. -/
  | asking (message : Text) (history : List ChatMessage) (prompt : Text) (loadedAt : Nat)
  | returned (turn : ChatTurn)
  | raised

/-- The answer of the model, and what the call draws and reads for its messages: the
    identifiers of `uuid4` and the times. -/
structure ChatAnswer where
  output : List (String × Json)
  evidence : Option ModelInvocationEvidence
  userId : String
  supervisorId : String
  userTime : String
  supervisorTime : String

/-- A step of a call. -/
inductive ChatEvent where
  /-- `load_supervisor_chat` and what is before it. -/
  | load (call : Nat) (text : Text)
  /-- The configuration, the model call or the write of the history raises; a write that raises
      after it has replaced the file is no step here. -/
  | fail (call : Nat)
  /-- The answer is checked and the history is written. -/
  | answer (call : Nat) (answer : ChatAnswer)

/-- The project: the history file, the calls, the number of histories written, and the
    identifiers that are taken. -/
structure ChatWorld where
  file : Option Text
  calls : Nat → ChatCall := fun _ => .idle
  writes : Nat := 0
  taken : List String := []

-- the path of the history, which its error messages name
variable (path : String)

/-- A project with the history that its file holds. -/
def ChatWorld.start (file : Option Text) : ChatWorld where
  file
  taken := match loadSupervisorChat path file with
    | .ok stored => stored.map ChatMessage.messageId
    | .error _ => []

/-- The turn of a checked answer. -/
def chatTurn (message : Text) (answer : ChatAnswer) : Except ChatFault ChatTurn := do
  let (reply, ready, summary) ← validateChatReply answer.output
  return {
    user := {
      messageId := answer.userId, role := .user, text := String.ofList message
      createdAtUtc := answer.userTime }
    supervisor := {
      messageId := answer.supervisorId, role := .supervisor, text := reply
      createdAtUtc := answer.supervisorTime, readyToPlan := ready, requirementsSummary := summary }
    evidence := answer.evidence }

/-- Identifiers that `uuid4` may draw: it draws none twice. -/
def FreshIds (world : ChatWorld) (answer : ChatAnswer) : Prop :=
  answer.userId ∉ world.taken ∧ answer.supervisorId ∉ world.taken ∧
    answer.userId ≠ answer.supervisorId

instance (world : ChatWorld) (answer : ChatAnswer) : Decidable (FreshIds world answer) :=
  inferInstanceAs (Decidable (_ ∧ _ ∧ _))

/-- A call in its next phase. -/
def ChatWorld.setCall (world : ChatWorld) (call : Nat) (phase : ChatCall) : ChatWorld :=
  { world with calls := Function.update world.calls call phase }

/-- The write of a history that ends in a turn, and the return of the turn. -/
def ChatWorld.writeTurn (world : ChatWorld) (call : Nat) (history : List ChatMessage)
    (turn : ChatTurn) : ChatWorld where
  file := some (chatFile (history ++ [turn.user, turn.supervisor]))
  calls := Function.update world.calls call (.returned turn)
  writes := world.writes + 1
  taken := turn.user.messageId :: turn.supervisor.messageId :: world.taken

/-- One step; a step that is not due changes nothing. -/
def ChatWorld.step (world : ChatWorld) : ChatEvent → ChatWorld
  | .load call text =>
    match world.calls call with
    | .idle =>
      let message := strip text
      if message = [] then world.setCall call .raised
      else match loadSupervisorChat path world.file with
        | .ok history =>
          world.setCall call
            (.asking message history (conversationPrompt history message) world.writes)
        | .error _ => world.setCall call .raised
    | _ => world
  | .fail call =>
    match world.calls call with
    | .asking _ _ _ _ => world.setCall call .raised
    | _ => world
  | .answer call answer =>
    match world.calls call with
    | .asking message history _ _ =>
      match chatTurn message answer with
      | .error _ => world.setCall call .raised
      | .ok turn => if FreshIds world answer then world.writeTurn call history turn else world
    | _ => world

/-! ## Stored turns -/

/-- A turn is stored: each of its messages once, one behind the other. -/
structure TurnStored (stored : List ChatMessage) (turn : ChatTurn) : Prop where
  user : stored.count turn.user = 1
  supervisor : stored.count turn.supervisor = 1
  adjacent : [turn.user, turn.supervisor] <:+: stored

/-- **No lost chat turn**: what a call returned is in the history that is stored. -/
def NoLostTurn (world : ChatWorld) : Prop :=
  ∀ call turn, world.calls call = .returned turn →
    ∃ stored, loadSupervisorChat path world.file = .ok stored ∧ TurnStored stored turn

/-- The step writes no history that was loaded before another call wrote one. -/
def WritesCurrent (world : ChatWorld) : ChatEvent → Prop
  | .answer call answer =>
    ∀ message history prompt loadedAt turn, world.calls call = .asking message history prompt loadedAt →
      chatTurn message answer = .ok turn → FreshIds world answer → loadedAt = world.writes
  | _ => True

/-- What the calls know of the history: identifiers are taken, a call that has loaded after
    the last write has the stored history, and any other misses a turn that was returned. -/
structure ChatInvariant (world : ChatWorld) : Prop where
  stored : ∀ stored, loadSupervisorChat path world.file = .ok stored →
    ∀ message ∈ stored, message.messageId ∈ world.taken
  loaded : ∀ call text history prompt loadedAt,
    world.calls call = .asking text history prompt loadedAt →
    ∀ message ∈ history, message.messageId ∈ world.taken
  returned : ∀ call turn, world.calls call = .returned turn →
    turn.user.messageId ∈ world.taken ∧ turn.supervisor.messageId ∈ world.taken
  current : ∀ call text history prompt loadedAt,
    world.calls call = .asking text history prompt loadedAt →
    loadedAt = world.writes ∧ loadSupervisorChat path world.file = .ok history ∨
      loadedAt < world.writes ∧
        ∃ other turn, world.calls other = .returned turn ∧ turn.user ∉ history

/-! ## What one step does -/

/-- The steps of a call, each with the condition that `WritesCurrent` puts on it. -/
inductive ChatStep (world : ChatWorld) : Prop → ChatWorld → Prop where
  | stays : ChatStep world True world
  | raises (call : Nat) (hrunning : ∀ turn, world.calls call ≠ .returned turn) :
      ChatStep world True (world.setCall call .raised)
  | loads {call : Nat} {text : Text} {history : List ChatMessage} {prompt : Text}
      (hidle : world.calls call = .idle) (hload : loadSupervisorChat path world.file = .ok history) :
      ChatStep world True (world.setCall call (.asking text history prompt world.writes))
  | writes {call : Nat} {text : Text} {history : List ChatMessage} {prompt : Text} {loadedAt : Nat}
      {turn : ChatTurn} (hasking : world.calls call = .asking text history prompt loadedAt)
      (huser : turn.user.messageId ∉ world.taken)
      (hsupervisor : turn.supervisor.messageId ∉ world.taken)
      (hdistinct : turn.user.messageId ≠ turn.supervisor.messageId) :
      ChatStep world (loadedAt = world.writes) (world.writeTurn call history turn)

theorem chatTurn_ids {message : Text} {answer : ChatAnswer} {turn : ChatTurn}
    (h : chatTurn message answer = .ok turn) :
    turn.user.messageId = answer.userId ∧ turn.supervisor.messageId = answer.supervisorId := by
  obtain ⟨reply, -, hturn⟩ := Guards.bind_eq_ok.mp h
  rw [← Guards.pure_eq_ok.mp hturn]
  exact ⟨rfl, rfl⟩

/-- **The steps of a call**, and when they write over nothing. -/
theorem chatStep (world : ChatWorld) (event : ChatEvent) :
    ∃ current, (WritesCurrent world event ↔ current) ∧
      ChatStep path world current (world.step path event) := by
  cases event with
  | load call text =>
      -- a load writes nothing, so the condition asks nothing of it
      refine ⟨True, Iff.rfl, ?_⟩
      cases hcall : world.calls call with
      | idle =>
          rw [ChatWorld.step, hcall]
          by_cases hempty : strip text = []
          -- a blank text, or a file that cannot be read, raises
          · rw [if_pos hempty]
            exact .raises call (by simp [hcall])
          · rw [if_neg hempty]
            cases hload : loadSupervisorChat path world.file with
            | ok history => exact .loads hcall hload
            | error fault => exact .raises call (by simp [hcall])
      | _ =>
          rw [ChatWorld.step, hcall]
          exact .stays
  | fail call =>
      refine ⟨True, Iff.rfl, ?_⟩
      -- only a call that waits for its answer can fail
      cases hcall : world.calls call with
      | asking text history prompt loadedAt =>
          rw [ChatWorld.step, hcall]
          exact .raises call (by simp [hcall])
      | _ =>
          rw [ChatWorld.step, hcall]
          exact .stays
  | answer call answer =>
      cases hcall : world.calls call with
      | asking text history prompt loadedAt =>
          -- the call has one text and one loaded history
          have hphase : ∀ {message' history' prompt' loadedAt'},
              world.calls call = .asking message' history' prompt' loadedAt' →
                text = message' ∧ loadedAt = loadedAt' := by
            intro _ _ _ _ hasking
            rw [hcall] at hasking
            cases hasking
            exact ⟨rfl, rfl⟩
          -- the answer makes no turn, or a turn that is written if its ids are new
          cases hturn : chatTurn text answer with
          | error fault =>
              have hstep : world.step path (.answer call answer) = world.setCall call .raised := by
                rw [ChatWorld.step, hcall]
                simp only [hturn]
              rw [hstep]
              refine ⟨True, iff_of_true (fun message _ _ _ turn hasking hok => ?_) trivial,
                .raises call fun turn => by rw [hcall]; exact nofun⟩
              rw [← (hphase hasking).1, hturn] at hok
              cases hok
          | ok turn =>
              have hstep : world.step path (.answer call answer) =
                  if FreshIds world answer then world.writeTurn call history turn else world := by
                rw [ChatWorld.step, hcall]
                simp only [hturn]
              rw [hstep]
              by_cases hfresh : FreshIds world answer
              · obtain ⟨huser, hsupervisor⟩ := chatTurn_ids hturn
                rw [if_pos hfresh]
                refine ⟨loadedAt = world.writes, ⟨fun h => h _ _ _ _ turn hcall hturn hfresh, ?_⟩,
                  -- the write is current when nothing was written since the load
                  .writes hcall (huser ▸ hfresh.1) (hsupervisor ▸ hfresh.2.1) ?_⟩
                · intro hcurrent message _ _ _ _ hasking _ _
                  rw [← (hphase hasking).2]
                  exact hcurrent
                · rw [huser, hsupervisor]
                  exact hfresh.2.2
              · rw [if_neg hfresh]
                exact ⟨True, iff_of_true (fun _ _ _ _ _ _ _ h => absurd h hfresh) trivial, .stays⟩
      | _ =>
          rw [ChatWorld.step, hcall]
          refine ⟨True, iff_of_true (fun _ _ _ _ _ hasking => ?_) trivial, .stays⟩
          rw [hcall] at hasking
          cases hasking

/-! ## The invariant -/

variable {path}

theorem calls_setCall (world : ChatWorld) (call : Nat) (phase : ChatCall) (other : Nat) :
    (world.setCall call phase).calls other = if other = call then phase else world.calls other :=
  Function.update_apply _ _ _ _

theorem calls_writeTurn (world : ChatWorld) (call : Nat) (history : List ChatMessage)
    (turn : ChatTurn) (other : Nat) :
    (world.writeTurn call history turn).calls other =
      if other = call then .returned turn else world.calls other :=
  Function.update_apply _ _ _ _

theorem load_writeTurn (world : ChatWorld) (call : Nat) (history : List ChatMessage)
    (turn : ChatTurn) :
    loadSupervisorChat path (world.writeTurn call history turn).file =
      .ok (history ++ [turn.user, turn.supervisor]) :=
  loadSupervisorChat_chatFile path _

/-- A call that has not returned moves on without writing. -/
theorem ChatInvariant.setCall {world : ChatWorld} (hinv : ChatInvariant path world) {call : Nat}
    {phase : ChatCall} (hrunning : ∀ turn, world.calls call ≠ .returned turn)
    (hreturned : ∀ turn, phase ≠ .returned turn)
    (hasking : ∀ text history prompt loadedAt, phase = .asking text history prompt loadedAt →
      loadedAt = world.writes ∧ loadSupervisorChat path world.file = .ok history) :
    ChatInvariant path (world.setCall call phase) where
  stored := hinv.stored
  -- another call keeps its phase, and this one has the phase it was set to
  loaded other text history prompt loadedAt hother := by
    rw [calls_setCall] at hother
    by_cases hsame : other = call
    · rw [if_pos hsame] at hother
      exact hinv.stored history (hasking _ _ _ _ hother).2
    · rw [if_neg hsame] at hother
      exact hinv.loaded other text history prompt loadedAt hother
  returned other turn hother := by
    rw [calls_setCall] at hother
    by_cases hsame : other = call
    · rw [if_pos hsame] at hother
      exact absurd hother (hreturned turn)
    · rw [if_neg hsame] at hother
      exact hinv.returned other turn hother
  -- a call that asks has the current history, or misses a turn that was returned
  current other text history prompt loadedAt hother := by
    rw [calls_setCall] at hother
    by_cases hsame : other = call
    · rw [if_pos hsame] at hother
      exact Or.inl (hasking _ _ _ _ hother)
    · rw [if_neg hsame] at hother
      refine (hinv.current other text history prompt loadedAt hother).imp_right ?_
      rintro ⟨hlt, missed, turn, hmissed, hmem⟩
      -- the turn that is missed was returned by a call that is not this one
      have hne : missed ≠ call := fun heq => hrunning turn (heq ▸ hmissed)
      exact ⟨hlt, missed, turn, by rw [calls_setCall, if_neg hne]; exact hmissed, hmem⟩

/-- A call writes: every other call that has loaded misses its turn from now on. -/
theorem ChatInvariant.writeTurn {world : ChatWorld} (hinv : ChatInvariant path world) {call : Nat}
    {text : Text} {history : List ChatMessage} {prompt : Text} {loadedAt : Nat} {turn : ChatTurn}
    (hasking : world.calls call = .asking text history prompt loadedAt)
    (huser : turn.user.messageId ∉ world.taken) :
    ChatInvariant path (world.writeTurn call history turn) where
  -- the messages of the history are taken, and so are the two new ones
  stored stored hstored message hmessage := by
    rw [load_writeTurn] at hstored
    cases hstored
    rcases List.mem_append.mp hmessage with h | h
    · exact List.mem_cons_of_mem _ (List.mem_cons_of_mem _ (hinv.loaded _ _ _ _ _ hasking message h))
    rcases List.mem_cons.mp h with rfl | h
    · exact List.mem_cons_self
    · rw [List.mem_singleton.mp h]
      exact List.mem_cons_of_mem _ List.mem_cons_self
  loaded other text' history' prompt' loadedAt' hother message hmessage := by
    rw [calls_writeTurn] at hother
    by_cases hsame : other = call
    · rw [if_pos hsame] at hother
      cases hother
    · rw [if_neg hsame] at hother
      exact List.mem_cons_of_mem _ (List.mem_cons_of_mem _
        (hinv.loaded _ _ _ _ _ hother message hmessage))
  -- the call itself returned its turn, whose ids are taken now
  returned other turn' hother := by
    rw [calls_writeTurn] at hother
    by_cases hsame : other = call
    · rw [if_pos hsame] at hother
      cases hother
      exact ⟨List.mem_cons_self, List.mem_cons_of_mem _ List.mem_cons_self⟩
    · rw [if_neg hsame] at hother
      have htaken := hinv.returned other turn' hother
      exact ⟨List.mem_cons_of_mem _ (List.mem_cons_of_mem _ htaken.1),
        List.mem_cons_of_mem _ (List.mem_cons_of_mem _ htaken.2)⟩
  current other text' history' prompt' loadedAt' hother := by
    rw [calls_writeTurn] at hother
    by_cases hsame : other = call
    · rw [if_pos hsame] at hother
      cases hother
    · rw [if_neg hsame] at hother
      -- every other call that asks now misses this turn
      have hloadedAt : loadedAt' ≤ world.writes :=
        (hinv.current _ _ _ _ _ hother).elim (fun h => h.1.le) fun h => h.1.le
      refine Or.inr ⟨Nat.lt_succ_of_le hloadedAt, call, turn, ?_, fun hmem => huser ?_⟩
      · rw [calls_writeTurn, if_pos rfl]
      · exact hinv.loaded _ _ _ _ _ hother turn.user hmem

theorem chatInvariant_step {world : ChatWorld} (hinv : ChatInvariant path world)
    (event : ChatEvent) : ChatInvariant path (world.step path event) := by
  obtain ⟨current, -, hstep⟩ := chatStep path world event
  generalize world.step path event = next at hstep
  cases hstep with
  | stays => exact hinv
  | raises call hrunning =>
      refine hinv.setCall hrunning (fun _ h => ChatCall.noConfusion h) fun _ _ _ _ h => ?_
      cases h
  | loads hidle hload =>
      refine hinv.setCall (fun turn => by rw [hidle]; exact ChatCall.noConfusion)
        (fun _ h => ChatCall.noConfusion h) fun _ _ _ _ heq => ?_
      cases heq
      exact ⟨rfl, hload⟩
  | writes hasking huser _ _ => exact hinv.writeTurn hasking huser

theorem chatInvariant_start (file : Option Text) :
    ChatInvariant path (ChatWorld.start path file) := by
  have hcalls : ∀ call, (ChatWorld.start path file).calls call = .idle := fun _ => rfl
  refine ⟨fun stored hstored message hmessage => ?_, fun call _ _ _ _ h => ?_, fun call _ h => ?_,
    fun call _ _ _ _ h => ?_⟩
  · have hload : loadSupervisorChat path file = .ok stored := hstored
    have htaken : (ChatWorld.start path file).taken = stored.map ChatMessage.messageId := by
      rw [ChatWorld.start, hload]
    rw [htaken]
    exact List.mem_map_of_mem hmessage
  · rw [hcalls] at h
    cases h
  · rw [hcalls] at h
    cases h
  · rw [hcalls] at h
    cases h

/-! ## Lost turns -/

/-- A turn with new identifiers, behind a history, is stored in it. -/
theorem turnStored_append {history : List ChatMessage} {turn : ChatTurn}
    (huser : turn.user ∉ history) (hsupervisor : turn.supervisor ∉ history)
    (hdistinct : turn.user ≠ turn.supervisor) :
    TurnStored (history ++ [turn.user, turn.supervisor]) turn where
  user := by
    rw [List.count_append, List.count_eq_zero_of_not_mem huser, List.count_cons_self,
      List.count_singleton, if_neg (by simpa using hdistinct.symm)]
  supervisor := by
    rw [List.count_append, List.count_eq_zero_of_not_mem hsupervisor,
      List.count_cons_of_ne hdistinct, List.count_singleton_self]
  adjacent := (List.suffix_append history _).isInfix

/-- A stored turn stays stored behind which other messages are written. -/
theorem TurnStored.append {history : List ChatMessage} {turn : ChatTurn}
    (h : TurnStored history turn) {added : List ChatMessage} (huser : turn.user ∉ added)
    (hsupervisor : turn.supervisor ∉ added) : TurnStored (history ++ added) turn where
  user := by rw [List.count_append, h.user, List.count_eq_zero_of_not_mem huser]
  supervisor := by rw [List.count_append, h.supervisor, List.count_eq_zero_of_not_mem hsupervisor]
  adjacent := h.adjacent.trans (List.prefix_append history added).isInfix

/-- A message whose identifier is taken is not among those of a new turn. -/
theorem notMem_turn {world : ChatWorld} {turn : ChatTurn} {message : ChatMessage}
    (huser : turn.user.messageId ∉ world.taken)
    (hsupervisor : turn.supervisor.messageId ∉ world.taken)
    (htaken : message.messageId ∈ world.taken) : message ∉ [turn.user, turn.supervisor] := by
  intro hmem
  rcases List.mem_cons.mp hmem with rfl | hmem
  · exact huser htaken
  · rw [List.mem_singleton.mp hmem] at htaken
    exact hsupervisor htaken

/-- A call that moves on without writing loses nothing. -/
theorem noLostTurn_setCall {world : ChatWorld} (hkept : NoLostTurn path world) {call : Nat}
    {phase : ChatCall} (hreturned : ∀ turn, phase ≠ .returned turn) :
    NoLostTurn path (world.setCall call phase) := by
  intro other turn hother
  rw [calls_setCall] at hother
  by_cases hsame : other = call
  · rw [if_pos hsame] at hother
    exact absurd hother (hreturned turn)
  · rw [if_neg hsame] at hother
    exact hkept other turn hother

/-- **One write** loses no turn exactly when the history it extends is the stored one. -/
theorem noLostTurn_writeTurn_iff {world : ChatWorld} (hinv : ChatInvariant path world)
    (hkept : NoLostTurn path world) {call : Nat} {text : Text} {history : List ChatMessage}
    {prompt : Text} {loadedAt : Nat} {turn : ChatTurn}
    (hasking : world.calls call = .asking text history prompt loadedAt)
    (huser : turn.user.messageId ∉ world.taken)
    (hsupervisor : turn.supervisor.messageId ∉ world.taken)
    (hdistinct : turn.user.messageId ≠ turn.supervisor.messageId) :
    NoLostTurn path (world.writeTurn call history turn) ↔ loadedAt = world.writes := by
  constructor
  -- the turn of this call is in the new history; another one is, if it was loaded
  · intro hnext
    rcases hinv.current _ _ _ _ _ hasking with ⟨hcurrent, -⟩ | ⟨-, other, missed, hother, hmissed⟩
    · exact hcurrent
    · -- the turn that the loaded history misses is in no history written from it
      have hne : other ≠ call := by
        rintro rfl
        rw [hother] at hasking
        cases hasking
      obtain ⟨stored, hstored, hturn⟩ := hnext other missed
        (by rw [calls_writeTurn, if_neg hne]; exact hother)
      rw [load_writeTurn] at hstored
      cases hstored
      have hmem : missed.user ∈ history ++ [turn.user, turn.supervisor] :=
        List.count_pos_iff.mp (by rw [hturn.user]; exact Nat.one_pos)
      exact absurd hmem (List.mem_append.not.mpr (not_or.mpr
        ⟨hmissed, notMem_turn huser hsupervisor (hinv.returned other missed hother).1⟩))
  -- the history that was loaded is the one of the file, so no turn is left out
  · intro hcurrent other returned hother
    refine ⟨_, load_writeTurn world call history turn, ?_⟩
    rw [calls_writeTurn] at hother
    by_cases hsame : other = call
    · rw [if_pos hsame] at hother
      cases hother
      exact turnStored_append (fun h => huser (hinv.loaded _ _ _ _ _ hasking _ h))
        (fun h => hsupervisor (hinv.loaded _ _ _ _ _ hasking _ h))
        (fun h => hdistinct (congrArg ChatMessage.messageId h))
    · rw [if_neg hsame] at hother
      have hload : loadSupervisorChat path world.file = .ok history := by
        rcases hinv.current _ _ _ _ _ hasking with ⟨-, hload⟩ | ⟨hlt, -⟩
        · exact hload
        · exact absurd hcurrent hlt.ne
      obtain ⟨stored, hstored, hturn⟩ := hkept other returned hother
      rw [hload] at hstored
      cases hstored
      have htaken := hinv.returned other returned hother
      exact hturn.append (notMem_turn huser hsupervisor htaken.1)
        (notMem_turn huser hsupervisor htaken.2)

theorem noLostTurn_step_iff {world : ChatWorld} (hinv : ChatInvariant path world)
    (hkept : NoLostTurn path world) (event : ChatEvent) :
    NoLostTurn path (world.step path event) ↔ WritesCurrent world event := by
  obtain ⟨current, hcurrent, hstep⟩ := chatStep path world event
  rw [hcurrent]
  generalize world.step path event = next at hstep
  cases hstep with
  | stays => exact iff_of_true hkept trivial
  | raises call hrunning =>
      exact iff_of_true (noLostTurn_setCall hkept fun _ h => ChatCall.noConfusion h) trivial
  | loads hidle hload =>
      exact iff_of_true (noLostTurn_setCall hkept fun _ h => ChatCall.noConfusion h) trivial
  | writes hasking huser hsupervisor hdistinct =>
      exact noLostTurn_writeTurn_iff hinv hkept hasking huser hsupervisor hdistinct

variable (path)

/-- **No lost chat turn.**  In every state of a run each returned turn is stored exactly
    when no step of the run writes a history that was loaded before another write. -/
theorem noLostTurn_iff (file : Option Text) (events : List ChatEvent) :
    (∀ before, before <+: events →
        NoLostTurn path (before.foldl (ChatWorld.step path) (ChatWorld.start path file))) ↔
      Run.Each (ChatWorld.step path) WritesCurrent (ChatWorld.start path file) events :=
  Run.earlier_iff_each (chatInvariant_start file) (fun _ _ h => ChatCall.noConfusion h)
    (fun _ event hinv => chatInvariant_step hinv event)
    (fun _ event hinv hkept => noLostTurn_step_iff hinv hkept event) events

/-! ## Two callers -/

/-- An answer of the model with two identifiers. -/
def sampleAnswer (userId supervisorId : String) : ChatAnswer where
  output := [("reply", .str "Which database?"), ("ready_to_plan", .bool false),
    ("requirements_summary", .str "")]
  evidence := none
  userId
  supervisorId
  userTime := "2026-01-01T00:00:00+00:00"
  supervisorTime := "2026-01-01T00:00:05+00:00"

/-- Two calls load before either of them writes, and the first has written. -/
def overlappingCalls : List ChatEvent := [
  .load 0 "Use a database.".toList, .load 1 "Use a queue.".toList,
  .answer 0 (sampleAnswer "a" "b")]

/-- The write of the second call drops the turn of the first. -/
theorem not_noLostTurn_overlapping :
    ¬ ∀ before, before <+: overlappingCalls ++ [.answer 1 (sampleAnswer "c" "d")] →
      NoLostTurn "chat.json"
        (before.foldl (ChatWorld.step "chat.json") (ChatWorld.start "chat.json" none)) := by
  intro h
  have hinv : ChatInvariant "chat.json"
      (overlappingCalls.foldl (ChatWorld.step "chat.json") (ChatWorld.start "chat.json" none)) :=
    Run.invariant (chatInvariant_start none) (fun _ event hinv => chatInvariant_step hinv event)
      overlappingCalls
  have hkept := h overlappingCalls (List.prefix_append _ _)
  have hlast := h _ (List.prefix_refl _)
  rw [List.foldl_append, List.foldl_cons, List.foldl_nil] at hlast
  have hcurrent := (noLostTurn_step_iff hinv hkept _).mp hlast
  exact absurd (hcurrent _ _ _ _ _ rfl rfl (by decide)) (by decide)

end LlmHarness
