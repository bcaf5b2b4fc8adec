/-
  LlmHarness.Operator.Polling

  `poll_operator_commands`.  A poll asks the bot for the updates from the stored
  offset on, runs the command of each authorised one and replies to it, and stores
  the next offset once, after the whole batch.  Sending a reply, a command and
  the last write may raise at any point of any poll.
-/

import LlmHarness.Lib.Run
import LlmHarness.Operator.Commands

namespace LlmHarness

open Python StoreM

/-! ## Updates -/

/-- The message of an update.  The ids of its user and its chat are read through `str`, and are
    absent when they or their objects are. -/
structure UpdateMessage where
  text : Option String
  userId : Option String
  chatId : Option String
deriving DecidableEq

/-- An update of the bot.  The message is absent when it is no object. -/
structure Update where
  updateId : Option Int
  message : Option UpdateMessage
deriving DecidableEq

/-- `TelegramIncomingMessage`. -/
structure TelegramIncomingMessage where
  updateId : Int
  userId : String
  chatId : String
  text : String
deriving DecidableEq

/-- `text_message_from_update`. -/
def textMessageFromUpdate (update : Update) : Option TelegramIncomingMessage := do
  let updateId ← update.updateId
  let message ← update.message
  let text ← message.text
  let userId ← message.userId
  let chatId ← message.chatId
  return ⟨updateId, userId, chatId, text⟩

/-- The updates of a bot in the order it hands them out, which is that of their ids. -/
structure UpdateStream where
  updates : List Update
  increasing : updates.Pairwise fun a b => ∀ i ∈ a.updateId, ∀ j ∈ b.updateId, i < j

/-- The update is not before the offset. -/
def Update.from? (offset : Option Int) (update : Update) : Bool :=
  match offset, update.updateId with
  | some offset, some updateId => offset ≤ updateId
  | _, _ => true

/-- `get_updates`: of the updates that have arrived, the first `limit` from the offset on. -/
def UpdateStream.getUpdates (stream : UpdateStream) (arrived limit : Nat) (offset : Option Int) :
    List Update :=
  ((stream.updates.take arrived).filter (Update.from? offset)).take limit

/-! ## A poll -/

/-- The operator whose commands are run. -/
structure Operator where
  userId : String
  chatId : String

/-- The command of an update of the operator. -/
def Operator.command? (operator : Operator) (update : Update) : Option TelegramIncomingMessage :=
  match textMessageFromUpdate update with
  | none => none
  | some message =>
    if message.userId ≠ operator.userId ∨ message.chatId ≠ operator.chatId then none
    else some message

/-- One call of `poll_operator_commands`: what has arrived, its readings, and where it raises.
    Commands and replies are counted from the start of the poll. -/
structure PollCall where
  arrived : Nat
  limit : Nat
  readings : Nat → CommandReadings
  getUpdatesRaises : Bool := false
  /-- The command raises after that many of its durable writes. -/
  commandRaises : Nat → Option Nat := fun _ => none
  sendMessageRaises : Nat → Bool := fun _ => false
  storeOffsetRaises : Bool := false

/-- `_format_response`. -/
def formatResponse (result : OperatorDecisionResult) : String :=
  let status := if result.ok then "OK" else "ERROR"
  let lines := ["HoH operator command: " ++ status, "Command: " ++ result.command]
  let task := match result.taskId with
    | none => []
    | some taskId => if taskId = "" then [] else ["Task: " ++ taskId]
  "\n".intercalate (lines ++ task ++ [result.message])

/-- A store, and the ids of the updates whose command has changed it. -/
structure PollWorld where
  store : Store
  executed : List Int := []

/-- The durable writes of the command of an update. -/
def PollWorld.execute (w : PollWorld) (updateId : Int) (writes : List Write) : PollWorld where
  store := w.store.applyAll writes
  executed := if writes = [] then w.executed else w.executed ++ [updateId]

/-- The variables of the loop of `_poll_operator_commands_locked`. -/
structure PollState where
  world : PollWorld
  processed : Nat := 0
  ignored : Nat := 0
  responses : List String := []
  maxUpdateId : Option Int := none

/-- `max_update_id` after one more update. -/
def seeUpdate (maxUpdateId : Option Int) (update : Update) : Option Int :=
  match update.updateId with
  | none => maxUpdateId
  | some updateId =>
    match maxUpdateId with
    | none => some updateId
    | some current => some (max current updateId)

/-- How the loop ends. -/
inductive PollEnd where
  | raised (world : PollWorld)
  | finished (st : PollState)

/-- The loop of `_poll_operator_commands_locked`. -/
def pollLoop (operator : Operator) (call : PollCall) : List Update → PollState → PollEnd
  | [], st => .finished st
  | update :: rest, st =>
    let st := { st with maxUpdateId := seeUpdate st.maxUpdateId update }
    match operator.command? update with
    | none => pollLoop operator call rest { st with ignored := st.ignored + 1 }
    | some message =>
      let outcome := handleOperatorCommand (call.readings st.processed) message.text st.world.store
      match call.commandRaises st.processed with
      | some written => .raised (st.world.execute message.updateId (outcome.writes.take written))
      | none =>
        let world := st.world.execute message.updateId outcome.writes
        match outcome.value with
        | .error _ => .raised world
        | .ok decision =>
          if call.sendMessageRaises st.processed then .raised world
          else pollLoop operator call rest { st with
            world := world
            responses := st.responses ++ [formatResponse decision]
            processed := st.processed + 1 }

/-- `TelegramPollResult`. -/
structure TelegramPollResult where
  processed : Nat
  ignored : Nat
  nextOffset : Option Int
  responses : List String
deriving DecidableEq

/-- `next_offset`. -/
def nextOffset (maxUpdateId offset : Option Int) : Option Int :=
  match maxUpdateId with
  | some updateId => some (updateId + 1)
  | none => offset

/-- The store after `set_telegram_update_offset`. -/
def PollWorld.storeOffset (w : PollWorld) (offset : Int) : PollWorld :=
  { w with store := w.store.applyAll (setTelegramUpdateOffset offset w.store).writes }

/-- `poll_operator_commands`, with its result when it does not raise. -/
def poll (stream : UpdateStream) (operator : Operator) (call : PollCall) (w : PollWorld) :
    PollWorld × Option TelegramPollResult :=
  if call.getUpdatesRaises then (w, none)
  else
    let offset := w.store.telegramOffset
    match pollLoop operator call (stream.getUpdates call.arrived call.limit offset) { world := w } with
    | .raised world => (world, none)
    | .finished st =>
      let result := ⟨st.processed, st.ignored, nextOffset st.maxUpdateId offset, st.responses⟩
      match nextOffset st.maxUpdateId offset with
      | none => (st.world, some result)
      | some next =>
        if call.storeOffsetRaises then (st.world, none) else (st.world.storeOffset next, some result)

/-- The world after a poll. -/
def pollStep (stream : UpdateStream) (operator : Operator) (w : PollWorld) (call : PollCall) :
    PollWorld :=
  (poll stream operator call w).1

/-- The world after a sequence of polls. -/
def pollRun (stream : UpdateStream) (operator : Operator) (s : Store) (calls : List PollCall) :
    PollWorld :=
  calls.foldl (pollStep stream operator) { store := s }

/-! ## What a run promises -/

/-- The commands a poll would run, in order. -/
def commandsOf (operator : Operator) (updates : List Update) : List TelegramIncomingMessage :=
  updates.filterMap operator.command?

/-- Nothing raises after a command has changed the store: there is none to run, the first one
    raises before its first write, or nothing raises at all. -/
def Undisturbed (stream : UpdateStream) (operator : Operator) (w : PollWorld) (call : PollCall) :
    Prop :=
  let commands := commandsOf operator
    (stream.getUpdates call.arrived call.limit w.store.telegramOffset)
  call.getUpdatesRaises ∨ commands = [] ∨ call.commandRaises 0 = some 0 ∨
    ((∀ k < commands.length, call.commandRaises k = none ∧ call.sendMessageRaises k = false) ∧
      call.storeOffsetRaises = false)

/-- The offset is past the id. -/
def Passed (s : Store) (updateId : Int) : Prop :=
  ∃ offset ∈ s.telegramOffset, updateId < offset

/-- No command was executed twice, and every command of the operator that the offset has passed
    since the start was executed. -/
structure ExactlyOnce (stream : UpdateStream) (operator : Operator) (start : Store) (w : PollWorld) :
    Prop where
  once : w.executed.Nodup
  none_skipped : ∀ update ∈ stream.updates, ∀ message, operator.command? update = some message →
    ¬ Passed start message.updateId → Passed w.store message.updateId →
    message.updateId ∈ w.executed

variable {stream : UpdateStream} {operator : Operator} {call : PollCall} {w : PollWorld}

/-! ## The batch -/

theorem updateId_of_command {update : Update} {message : TelegramIncomingMessage}
    (h : operator.command? update = some message) : update.updateId = some message.updateId := by
  rw [Operator.command?] at h
  cases hmessage : textMessageFromUpdate update with
  | none => simp [hmessage] at h
  | some found =>
      rw [hmessage] at h
      simp only at h
      split at h
      · cases h
      · obtain rfl := Option.some.inj h
        simp only [textMessageFromUpdate, Option.bind_eq_bind, Option.bind_eq_some_iff,
          Option.pure_def, Option.some.injEq] at hmessage
        obtain ⟨updateId, hupdate, _, _, _, _, _, _, _, _, rfl⟩ := hmessage
        exact hupdate

/-- The ids of the commands of a part of the stream are increasing. -/
theorem pairwise_commandsOf {updates : List Update} (h : updates.Sublist stream.updates) :
    (commandsOf operator updates).Pairwise fun a b => a.updateId < b.updateId := by
  rw [commandsOf, List.pairwise_filterMap]
  refine (stream.increasing.sublist h).imp fun {a b} hab => ?_
  intro message hmessage other hother
  exact hab _ (updateId_of_command hmessage) _ (updateId_of_command hother)

/-- An earlier update than one of the batch is of the batch. -/
theorem mem_of_prefix {updates batch : List Update} (hbatch : batch <+: updates)
    (hincreasing : updates.Pairwise fun a b => ∀ i ∈ a.updateId, ∀ j ∈ b.updateId, i < j)
    {last update : Update} {i j : Int} (hlast : last ∈ batch) (hj : last.updateId = some j)
    (hupdate : update ∈ updates) (hi : update.updateId = some i) (hle : i ≤ j) : update ∈ batch := by
  obtain ⟨rest, rfl⟩ := hbatch
  rcases List.mem_append.mp hupdate with hmem | hmem
  · exact hmem
  · have hlt := (List.pairwise_append.mp hincreasing).2.2 last hlast update hmem j hj i hi
    omega

theorem getUpdates_sublist (arrived limit : Nat) (offset : Option Int) :
    (stream.getUpdates arrived limit offset).Sublist stream.updates :=
  (List.take_sublist _ _).trans (List.filter_sublist.trans (List.take_sublist _ _))

/-- Of the updates from the offset on the bot hands out all up to the last one it hands out. -/
theorem mem_getUpdates {arrived limit : Nat} {offset : Option Int} {last update : Update} {i j : Int}
    (hlast : last ∈ stream.getUpdates arrived limit offset) (hj : last.updateId = some j)
    (hupdate : update ∈ stream.updates) (hi : update.updateId = some i) (hle : i ≤ j)
    (hfrom : update.from? offset) : update ∈ stream.getUpdates arrived limit offset := by
  have hmem := List.mem_filter.mp ((List.take_subset _ _) hlast)
  have harrived : update ∈ stream.updates.take arrived :=
    mem_of_prefix (List.take_prefix arrived _) stream.increasing hmem.1 hj hupdate hi hle
  have hsorted := stream.increasing.sublist (List.take_sublist arrived _)
  exact mem_of_prefix (List.take_prefix limit _) (hsorted.sublist List.filter_sublist) hlast hj
    (List.mem_filter.mpr ⟨harrived, hfrom⟩) hi hle

theorem offset_le_of_command {arrived limit : Nat} {offset : Int} {message : TelegramIncomingMessage}
    (h : message ∈ commandsOf operator (stream.getUpdates arrived limit (some offset))) :
    offset ≤ message.updateId := by
  obtain ⟨update, hupdate, hcommand⟩ := List.mem_filterMap.mp h
  have hfrom := (List.mem_filter.mp ((List.take_subset _ _) hupdate)).2
  have hid := updateId_of_command hcommand
  simp only [Update.from?, hid] at hfrom
  exact of_decide_eq_true hfrom

/-! ## The largest id -/

theorem le_foldl_seeUpdate (updates : List Update) (start : Option Int) :
    (∀ i ∈ start, ∃ m ∈ updates.foldl seeUpdate start, i ≤ m) ∧
      ∀ update ∈ updates, ∀ i ∈ update.updateId, ∃ m ∈ updates.foldl seeUpdate start, i ≤ m := by
  -- the induction is on the batch, with the maximum so far free
  induction updates generalizing start with
  | nil => exact ⟨fun i hi => ⟨i, hi, Int.le_refl i⟩, fun _ h => nomatch h⟩
  | cons update updates ih =>
      obtain ⟨hstart, hrest⟩ := ih (seeUpdate start update)
      -- both the maximum so far and the id of the update are below the new maximum
      have hseen : ∀ i, i ∈ start ∨ i ∈ update.updateId → ∃ m ∈ seeUpdate start update, i ≤ m := by
        intro i hi
        rw [seeUpdate]
        cases hid : update.updateId with
        | none =>
            rw [hid] at hi
            exact ⟨i, hi.resolve_right (fun h => nomatch h), Int.le_refl i⟩
        | some updateId =>
            cases start with
            | none =>
                obtain rfl : updateId = i := by simpa [hid] using hi
                exact ⟨updateId, rfl, Int.le_refl _⟩
            | some current =>
                have hi : current = i ∨ updateId = i := by simpa [hid] using hi
                refine ⟨max current updateId, rfl, ?_⟩
                omega
      -- the rest of the batch keeps or raises that maximum
      have hlater : ∀ i, i ∈ start ∨ i ∈ update.updateId →
          ∃ m ∈ updates.foldl seeUpdate (seeUpdate start update), i ≤ m := by
        intro i hi
        obtain ⟨k, hk, hik⟩ := hseen i hi
        obtain ⟨m, hm, hkm⟩ := hstart k hk
        exact ⟨m, hm, Int.le_trans hik hkm⟩
      refine ⟨fun i hi => hlater i (Or.inl hi), fun other hother i hi => ?_⟩
      rcases List.mem_cons.mp hother with rfl | hother
      · exact hlater i (Or.inr hi)
      · exact hrest other hother i hi

theorem mem_of_foldl_seeUpdate {updates : List Update} {start : Option Int} {m : Int}
    (h : m ∈ updates.foldl seeUpdate start) :
    m ∈ start ∨ ∃ update ∈ updates, update.updateId = some m := by
  induction updates generalizing start with
  | nil => exact Or.inl h
  | cons update updates ih =>
      rcases ih h with hstart | ⟨other, hother, hid⟩
      · rw [seeUpdate] at hstart
        cases hid : update.updateId with
        | none =>
            rw [hid] at hstart
            exact Or.inl hstart
        | some updateId =>
            rw [hid] at hstart
            cases start with
            | none => exact Or.inr ⟨update, List.mem_cons_self, hid.trans hstart⟩
            | some current =>
                have hmax : max current updateId = m := Option.some.inj hstart
                rcases Int.le_total current updateId with hle | hle
                · rw [Int.max_eq_right hle] at hmax
                  exact Or.inr ⟨update, List.mem_cons_self, hid.trans (congrArg some hmax)⟩
                · rw [Int.max_eq_left hle] at hmax
                  exact Or.inl (congrArg some hmax)
      · exact Or.inr ⟨other, List.mem_cons_of_mem _ hother, hid⟩

/-! ## The loop -/

/-- Writes that leave the stored offset alone. -/
def KeepsOffset (w : Write) : Prop := ∀ offset, w ≠ .telegramOffset offset

theorem telegramOffset_applyAll {writes : List Write} (h : ∀ w ∈ writes, KeepsOffset w) (s : Store) :
    (s.applyAll writes).telegramOffset = s.telegramOffset := by
  induction writes generalizing s with
  | nil => rfl
  | cons w writes ih =>
      obtain ⟨hw, hrest⟩ := List.forall_mem_cons.mp h
      have hone : (s.apply w).telegramOffset = s.telegramOffset := by
        cases w with
        | telegramOffset offset => exact absurd rfl (hw offset)
        | _ => rfl
      exact (ih hrest (s.apply w)).trans hone

theorem keepsOffset_command (readings : CommandReadings) (text : String) (s : Store) :
    ∀ w ∈ (handleOperatorCommand readings text s).writes, KeepsOffset w := by
  have hallows : Allows KeepsOffset := by
    refine ⟨?_, ?_, ?_⟩
    all_goals exact fun _ _ h => nomatch h
  have hwrites : WritesOnly KeepsOffset (handleOperatorCommand readings text) :=
    writesOnly_handleOperatorCommand hallows (fun _ _ h => nomatch h) readings text
  exact hwrites.each s

/-- A command of the operator always changes the store, and returns. -/
theorem command_effect (readings : CommandReadings) (text : String) (s : Store) :
    ∃ writes decision, handleOperatorCommand readings text s = ⟨writes, .ok decision⟩ ∧
      writes ≠ [] := by
  obtain ⟨event, journal, decision, hrun⟩ := handleOperatorCommand_run readings text s
  exact ⟨_, decision, hrun, by simp⟩

/-- What a loop that nothing disturbs leaves. -/
structure LoopFinished (operator : Operator) (updates : List Update) (st st' : PollState) : Prop where
  executed : st'.world.executed =
    st.world.executed ++ (commandsOf operator updates).map TelegramIncomingMessage.updateId
  offset : st'.world.store.telegramOffset = st.world.store.telegramOffset
  maxUpdateId : st'.maxUpdateId = updates.foldl seeUpdate st.maxUpdateId

theorem pollLoop_finished (updates : List Update) (st : PollState)
    (h : ∀ k, st.processed ≤ k → k < st.processed + (commandsOf operator updates).length →
      call.commandRaises k = none ∧ call.sendMessageRaises k = false) :
    ∃ st', pollLoop operator call updates st = .finished st' ∧
      LoopFinished operator updates st st' := by
  -- the induction is on the batch, with the state of the loop free
  induction updates generalizing st with
  | nil => exact ⟨st, rfl, by simp [commandsOf], rfl, rfl⟩
  | cons update rest ih =>
      rw [pollLoop]
      dsimp only
      cases hcommand : operator.command? update with
      -- no command of the operator: the update is counted as ignored
      | none =>
          have hcommands : commandsOf operator (update :: rest) = commandsOf operator rest :=
            List.filterMap_cons_none hcommand
          rw [hcommands] at h
          obtain ⟨st', hloop, hfinished⟩ := ih { st with
            maxUpdateId := seeUpdate st.maxUpdateId update
            ignored := st.ignored + 1 } h
          exact ⟨st', hloop, by rw [hcommands]; exact hfinished.executed, hfinished.offset,
            hfinished.maxUpdateId⟩
      | some message =>
          -- a command: it runs, and the answer is sent
          have hcommands : commandsOf operator (update :: rest) =
              message :: commandsOf operator rest := List.filterMap_cons_some hcommand
          rw [hcommands, List.length_cons] at h
          -- the hypothesis is on the number of commands processed so far
          obtain ⟨hcommandRaises, hsend⟩ := h st.processed (Nat.le_refl _) (by omega)
          obtain ⟨writes, decision, hrun, hwrites⟩ := command_effect (call.readings st.processed)
            message.text st.world.store
          have hkeeps := keepsOffset_command (call.readings st.processed) message.text st.world.store
          rw [hrun] at hkeeps
          simp only [hcommandRaises, hrun, hsend, Bool.false_eq_true, if_false]
          obtain ⟨st', hloop, hfinished⟩ := ih { st with
            maxUpdateId := seeUpdate st.maxUpdateId update
            world := st.world.execute message.updateId writes
            responses := st.responses ++ [formatResponse decision]
            processed := st.processed + 1 } fun k (hk : st.processed + 1 ≤ k)
              (hlt : k < st.processed + 1 + (commandsOf operator rest).length) =>
                h k (by omega) (by omega)
          refine ⟨st', hloop, ?_, ?_, hfinished.maxUpdateId⟩
          · rw [hfinished.executed, hcommands, List.map_cons, PollWorld.execute, if_neg hwrites,
              List.append_assoc]
            rfl
          · rw [hfinished.offset]
            exact telegramOffset_applyAll hkeeps _

/-- A loop whose first command raises before its first write changes nothing. -/
theorem pollLoop_refused {updates : List Update} {st : PollState}
    (hfirst : call.commandRaises st.processed = some 0) (hsome : commandsOf operator updates ≠ []) :
    pollLoop operator call updates st = .raised st.world := by
  induction updates generalizing st with
  | nil => exact absurd rfl hsome
  | cons update rest ih =>
      rw [pollLoop]
      cases hcommand : operator.command? update with
      | none =>
          rw [commandsOf, List.filterMap_cons_none hcommand] at hsome
          exact @ih { st with
            maxUpdateId := seeUpdate st.maxUpdateId update
            ignored := st.ignored + 1 } hfirst hsome
      | some message =>
          simp only [hfirst, List.take_zero]
          rfl

/-! ## One poll -/

/-- The invariant between polls. -/
structure PollInvariant (stream : UpdateStream) (operator : Operator) (start : Store) (w : PollWorld) :
    Prop extends ExactlyOnce stream operator start w where
  passed : ∀ updateId ∈ w.executed, Passed w.store updateId

/-- What an undisturbed poll does: nothing, or it runs its batch and stores the offset after it. -/
inductive PollEffect (stream : UpdateStream) (operator : Operator) (call : PollCall) (w : PollWorld) :
    PollWorld → Prop where
  | nothing {w' : PollWorld} (hexecuted : w'.executed = w.executed)
      (hoffset : w'.store.telegramOffset = w.store.telegramOffset) :
    PollEffect stream operator call w w'
  | batch {w' : PollWorld} (updates : List Update)
      (hupdates : updates = stream.getUpdates call.arrived call.limit w.store.telegramOffset)
      (hexecuted : w'.executed = w.executed ++
        (commandsOf operator updates).map TelegramIncomingMessage.updateId)
      (hoffset : ∀ updateId, Passed w'.store updateId ↔ Passed w.store updateId ∨
        ∃ m ∈ updates.foldl seeUpdate none, updateId ≤ m) :
    PollEffect stream operator call w w'

theorem passed_storeOffset (w : PollWorld) (next updateId : Int) :
    Passed (w.storeOffset next).store updateId ↔ Passed w.store updateId ∨ updateId < next := by
  rw [Passed, Passed, PollWorld.storeOffset, setTelegramUpdateOffset, read_bind]
  cases hoffset : w.store.telegramOffset with
  | none => simp [Store.applyAll, Store.apply]
  | some current =>
      simp only
      by_cases hlt : next < current
      · rw [if_pos hlt]
        simp only [pure_run, Store.applyAll, List.foldl_nil, hoffset, Option.mem_some_iff,
          exists_eq_left']
        omega
      · rw [if_neg hlt]
        simp only [write_run, Store.applyAll, List.foldl_cons, List.foldl_nil, Store.apply,
          Option.mem_some_iff, exists_eq_left']
        omega

/-- **One undisturbed poll.** -/
theorem pollEffect (h : Undisturbed stream operator w call) :
    PollEffect stream operator call w (pollStep stream operator w call) := by
  rw [pollStep, poll]
  -- `get_updates` raises before anything is read
  by_cases hget : call.getUpdatesRaises
  · rw [if_pos hget]
    exact .nothing rfl rfl
  · rw [if_neg hget]
    simp only
    obtain ⟨updates, hupdates⟩ : ∃ updates,
        updates = stream.getUpdates call.arrived call.limit w.store.telegramOffset := ⟨_, rfl⟩
    have hcases := h.resolve_left hget
    rw [← hupdates] at hcases ⊢
    -- the first command raises at once, before it writes
    by_cases hfirst : commandsOf operator updates ≠ [] ∧ call.commandRaises 0 = some 0
    · rw [pollLoop_refused hfirst.2 hfirst.1]
      exact .nothing rfl rfl
    · -- nothing raises in the loop
      have hquiet : ∀ k, 0 ≤ k → k < 0 + (commandsOf operator updates).length →
          call.commandRaises k = none ∧ call.sendMessageRaises k = false := by
        intro k _ hk
        rcases hcases with hnone | hraises | ⟨hall, -⟩
        · rw [hnone] at hk
          exact absurd hk (Nat.not_lt_zero _)
        · by_cases hnone : commandsOf operator updates = []
          · rw [hnone] at hk
            exact absurd hk (Nat.not_lt_zero _)
          · exact absurd ⟨hnone, hraises⟩ hfirst
        · exact hall k (by omega)
      obtain ⟨st, hloop, hfinished⟩ := pollLoop_finished updates { world := w } hquiet
      rw [hloop]
      simp only
      -- what the loop leaves: the maximum, the commands run and the offset as it was
      have hmax : st.maxUpdateId = updates.foldl seeUpdate none := hfinished.maxUpdateId
      have hexecuted := hfinished.executed
      have hpassed : ∀ updateId, Passed st.world.store updateId ↔ Passed w.store updateId := by
        intro updateId
        rw [Passed, Passed, hfinished.offset]
      have hbatch : ∀ w' : PollWorld, w'.executed = st.world.executed →
          (∀ updateId, Passed w'.store updateId ↔ Passed w.store updateId ∨
            ∃ m ∈ updates.foldl seeUpdate none, updateId ≤ m) →
          PollEffect stream operator call w w' :=
        fun w' hw' hoffset => .batch updates hupdates (hw'.trans hexecuted) hoffset
      cases hnext : nextOffset st.maxUpdateId w.store.telegramOffset with
      | none =>
          -- no update in the batch, so no offset to store
          apply hbatch _ rfl
          intro updateId
          cases hm : updates.foldl seeUpdate none with
          | none => simp [hpassed]
          | some m => simp [nextOffset, hmax, hm] at hnext
      | some next =>
          simp only
          -- the write of the offset raises, or moves it behind the batch
          by_cases hstore : call.storeOffsetRaises
          · rw [if_pos hstore]
            -- without a command the batch may be read again
            have hnone : commandsOf operator updates = [] := by
              rcases hcases with hnone | hraises | ⟨-, hquiet⟩
              · exact hnone
              · by_contra hsome
                exact hfirst ⟨hsome, hraises⟩
              · rw [hstore] at hquiet
                cases hquiet
            refine .nothing ?_ hfinished.offset
            rw [hexecuted, hnone, List.map_nil, List.append_nil]
          · rw [if_neg hstore]
            refine hbatch (st.world.storeOffset next) rfl fun updateId => ?_
            rw [passed_storeOffset, hpassed]
            cases hm : updates.foldl seeUpdate none with
            | none =>
                -- without updates the stored offset is the old one
                have hoffset : w.store.telegramOffset = some next := by
                  rw [hmax, hm] at hnext
                  exact hnext
                simp [Passed, hoffset]
            | some m =>
                -- behind the batch: the offset is one above the maximum
                have hlast : m + 1 = next := by
                  rw [hmax, hm] at hnext
                  exact Option.some.inj hnext
                simp only [Option.mem_some_iff, exists_eq_left']
                refine or_congr Iff.rfl ?_
                omega

/-- An undisturbed poll keeps the invariant. -/
theorem pollInvariant_step {start : Store} (hw : PollInvariant stream operator start w)
    (h : Undisturbed stream operator w call) :
    PollInvariant stream operator start (pollStep stream operator w call) := by
  have heffect := pollEffect h
  generalize pollStep stream operator w call = w' at heffect ⊢
  cases heffect with
  -- nothing was executed, and the offset did not move
  | nothing hexecuted hoffset =>
      have hpassed : ∀ updateId, Passed w'.store updateId ↔ Passed w.store updateId := by
        intro updateId
        rw [Passed, Passed, hoffset]
      refine ⟨⟨hexecuted ▸ hw.once, ?_⟩, ?_⟩
      · intro update hupdate message hcommand hstart hnow
        rw [hexecuted]
        exact hw.none_skipped update hupdate message hcommand hstart ((hpassed _).mp hnow)
      · intro updateId hmem
        rw [hexecuted] at hmem
        exact (hpassed _).mpr (hw.passed updateId hmem)
  | batch updates hupdates hexecuted hoffset =>
      have hsub : updates.Sublist stream.updates := hupdates ▸ getUpdates_sublist _ _ _
      refine ⟨⟨?_, ?_⟩, ?_⟩
      · -- the ids of the batch are distinct, and the offset has not passed them
        rw [hexecuted]
        refine List.nodup_append.mpr ⟨hw.once, ?_, ?_⟩
        · rw [List.Nodup, List.pairwise_map]
          exact (pairwise_commandsOf hsub).imp fun hlt => Int.ne_of_lt hlt
        · intro a ha b hb
          obtain ⟨offset, hoff, hlt⟩ := hw.passed a ha
          obtain ⟨message, hmessage, rfl⟩ := List.mem_map.mp hb
          rw [hupdates, Option.mem_def.mp hoff] at hmessage
          have hle := offset_le_of_command hmessage
          omega
      -- no command is skipped: an update the offset has passed was passed before, or stands in the
      -- batch
      · intro update hupdate message hcommand hstart hnow
        rw [hexecuted]
        by_cases hbefore : Passed w.store message.updateId
        · exact List.mem_append_left _ (hw.none_skipped update hupdate message hcommand hstart hbefore)
        · obtain ⟨m, hm, hle⟩ := ((hoffset _).mp hnow).resolve_left hbefore
          obtain ⟨last, hlast, hid⟩ := (mem_of_foldl_seeUpdate hm).resolve_left fun h => nomatch h
          have hfrom : update.from? w.store.telegramOffset := by
            have hid := updateId_of_command hcommand
            simp only [Update.from?, hid]
            cases hoff : w.store.telegramOffset with
            | none => rfl
            | some offset =>
                have hnot : ¬ message.updateId < offset := fun hlt => hbefore ⟨offset, hoff, hlt⟩
                exact decide_eq_true (by omega)
          have hmem : update ∈ updates := by
            rw [hupdates] at hlast ⊢
            exact mem_getUpdates hlast hid hupdate (updateId_of_command hcommand) hle hfrom
          exact List.mem_append_right _ (List.mem_map_of_mem
            (List.mem_filterMap.mpr ⟨update, hmem, hcommand⟩))
      -- what was executed in the batch is below the new offset
      · intro updateId hmem
        rw [hexecuted] at hmem
        rcases List.mem_append.mp hmem with hmem | hmem
        · exact (hoffset updateId).mpr (Or.inl (hw.passed updateId hmem))
        · obtain ⟨message, hmessage, rfl⟩ := List.mem_map.mp hmem
          obtain ⟨update, hupdate, hcommand⟩ := List.mem_filterMap.mp hmessage
          exact (hoffset _).mpr (Or.inr ((le_foldl_seeUpdate updates none).2 update hupdate _
            (updateId_of_command hcommand)))

/-! ## Runs -/

/-- **Operator commands.**  In every run of polls in which nothing raises after a command has changed
    the store, no command is executed twice, and every command that the offset has passed since the
    start was executed. -/
theorem exactlyOnce_pollRun (stream : UpdateStream) (operator : Operator) (start : Store)
    (calls : List PollCall)
    (h : Run.Each (pollStep stream operator) (Undisturbed stream operator) { store := start } calls) :
    ExactlyOnce stream operator start (pollRun stream operator start calls) := by
  have hstart : PollInvariant stream operator start { store := start } :=
    ⟨⟨.nil, fun _ _ _ _ hnot hpassed => absurd hpassed hnot⟩, fun _ h => nomatch h⟩
  exact (h.invariant hstart fun w call hw hcall => pollInvariant_step hw hcall).toExactlyOnce

/-! ## Small runs -/

/-- One update: the operator asks to stop. -/
def stopUpdate : Update := ⟨some 1, some ⟨some "/stop", some "42", some "123456"⟩⟩

def stopStream : UpdateStream := ⟨[stopUpdate], List.pairwise_singleton _ _⟩

def sampleOperator : Operator := ⟨"42", "123456"⟩

/-- A poll for everything that has arrived. -/
def samplePoll (sendMessageRaises : Nat → Bool) : PollCall where
  arrived := 1
  limit := 100
  readings _ := {
    isStale := none
    repository := none
    updatedAt := "t"
    eventId := "e"
    createdAt := "t" }
  sendMessageRaises := sendMessageRaises

/-- Two polls that nothing disturbs run the command once. -/
theorem exactlyOnce_stop : ExactlyOnce stopStream sampleOperator Store.empty
    (pollRun stopStream sampleOperator Store.empty
      [samplePoll fun _ => false, samplePoll fun _ => false]) := by
  apply exactlyOnce_pollRun
  have hquiet : ∀ w, Undisturbed stopStream sampleOperator w (samplePoll fun _ => false) :=
    fun w => Or.inr (Or.inr (Or.inr ⟨fun _ _ => ⟨rfl, rfl⟩, rfl⟩))
  exact ⟨hquiet _, hquiet _, trivial⟩

/-- The reply of the first poll raises: the command was run, the offset was not stored, and the
    second poll runs it again. -/
theorem not_exactlyOnce_reply :
    ¬ ∀ (stream : UpdateStream) (operator : Operator) (start : Store) (calls : List PollCall),
      ExactlyOnce stream operator start (pollRun stream operator start calls) := by
  intro h
  have hexecuted : (pollRun stopStream sampleOperator Store.empty
      [samplePoll fun _ => true, samplePoll fun _ => false]).executed = [1, 1] := by
    decide +kernel
  have honce := (h stopStream sampleOperator Store.empty
    [samplePoll fun _ => true, samplePoll fun _ => false]).once
  rw [hexecuted] at honce
  exact absurd honce (by decide)

end LlmHarness
