/-
  LlmHarness.A2A.PushInbox

  `A2APushInbox`: the events a remote agent pushes, kept for each task until the
  client that waits for the task reads them.  `record` trims the front of a
  task's list to `max_events_per_task` and evicts the oldest task when there is
  no room for a new one; `wait` reads from an absolute position, the number of
  events the client has received so far.

  A run interleaves the calls of `record` with those of one client, whose calls
  of `wait` are the steps of `_wait_for_push`.  Every call holds the lock of the
  inbox, so a call is one step: a `wait` that blocks is the step it returns in.
-/

import LlmHarness.Lib.Run
import LlmHarness.Python.Value

namespace LlmHarness.A2A

open Python Run

/-! ## The inbox -/

/-- A pushed event: the members of its JSON object. -/
abbrev PushEvent := List (String × Json)

/-- What `record` raises. -/
inductive PushError where
  | a2aPush (message : String)
  /-- `next(iter(self._events))` on an inbox without tasks. -/
  | stopIteration
deriving DecidableEq, Repr

/-- `_EVENT_KEYS`. -/
def eventKeys : List String := ["task", "message", "statusUpdate", "artifactUpdate"]

/-- The objects the event holds under the event keys. -/
def presentEvents (event : PushEvent) : List (List (String × Json)) :=
  eventKeys.filterMap fun key =>
    match field event key with
    | .obj nested => some nested
    | _ => none

/-- The task an event belongs to: the checks of `record` on its payload. -/
def eventTaskId (event : PushEvent) : Except PushError String :=
  match presentEvents event with
  | [nested] =>
    match pyOr (field nested "taskId") (pyOr (field nested "id") (field event "taskId")) with
    | .str taskId =>
      if taskId = "" then .error (.a2aPush "A2A push event does not identify a task.")
      else .ok taskId
    | _ => .error (.a2aPush "A2A push event does not identify a task.")
  | _ => .error (.a2aPush "A2A push payload must contain exactly one StreamResponse event.")

/-- `A2APushInbox`: the events of each task, the tasks in the order they came in. -/
structure A2APushInbox where
  maxEventsPerTask : Int
  maxTasks : Int
  events : List (String × List PushEvent) := []

namespace A2APushInbox

/-- `self._events.get(task_id, ())`. -/
def eventsOf (inbox : A2APushInbox) (taskId : String) : List PushEvent :=
  (dictGet? inbox.events taskId).getD []

/-- The task is a new one and the inbox holds as many tasks as it may. -/
def needsRoom (inbox : A2APushInbox) (taskId : String) : Bool :=
  (dictGet? inbox.events taskId).isNone && decide (inbox.maxTasks ≤ inbox.events.length)

/-- The events after the eviction of the oldest task, where the new one needs its room. -/
def makeRoom (inbox : A2APushInbox) (taskId : String) :
    Except PushError (List (String × List PushEvent)) :=
  if inbox.needsRoom taskId then
    match inbox.events with
    | [] => .error .stopIteration
    | _ :: rest => .ok rest
  else .ok inbox.events

/-- `del target[: len(target) - max_events_per_task]`, when the list is too long. -/
def trim (inbox : A2APushInbox) (target : List PushEvent) : List PushEvent :=
  if (target.length : Int) > inbox.maxEventsPerTask then
    target.drop (target.length - inbox.maxEventsPerTask).toNat
  else target

/-- `record`. -/
def record (inbox : A2APushInbox) (event : PushEvent) : Except PushError (String × A2APushInbox) := do
  let taskId ← eventTaskId event
  let events ← inbox.makeRoom taskId
  let target := (dictGet? events taskId).getD [] ++ [event]
  return (taskId, { inbox with events := dictInsert events (taskId, inbox.trim target) })

/-- `wait`, at the moment it returns: nothing is what it returns at its deadline. -/
def wait (inbox : A2APushInbox) (taskId : String) (after : Nat) : List PushEvent :=
  if (inbox.eventsOf taskId).length ≤ after then [] else (inbox.eventsOf taskId).drop after

/-- The number of events the inbox keeps of a task. -/
def limit (inbox : A2APushInbox) : Nat := inbox.maxEventsPerTask.toNat

theorem wait_eq (inbox : A2APushInbox) (taskId : String) (after : Nat) :
    inbox.wait taskId after = (inbox.eventsOf taskId).drop after := by
  rw [wait]
  split
  · rename_i h
    exact (List.drop_eq_nil_of_le h).symm
  · rfl

/-- Trimming keeps the newest events. -/
theorem trim_eq (inbox : A2APushInbox) (target : List PushEvent) :
    inbox.trim target = target.drop (target.length - inbox.limit) := by
  rw [trim, limit]
  split
  · rename_i h
    by_cases hneg : inbox.maxEventsPerTask < 0
    · -- a negative limit asks for more than the list holds
      rw [List.drop_eq_nil_of_le (by omega), List.drop_eq_nil_of_le (by omega)]
    · congr 1
      omega
  · rename_i h
    have hzero : target.length - inbox.maxEventsPerTask.toNat = 0 := by omega
    rw [hzero, List.drop_zero]

end A2APushInbox

/-! ## The newest events of a list -/

/-- The last `n` events. -/
def newest (n : Nat) (events : List PushEvent) : List PushEvent := events.drop (events.length - n)

theorem length_newest (n : Nat) (events : List PushEvent) :
    (newest n events).length = min n events.length := by
  rw [newest, List.length_drop]
  omega

theorem newest_of_le {n : Nat} {events : List PushEvent} (h : events.length ≤ n) :
    newest n events = events := by
  have hzero : events.length - n = 0 := by omega
  rw [newest, hzero, List.drop_zero]

/-- Trimming after every event keeps what trimming once at the end keeps. -/
theorem newest_newest_append (n : Nat) (events : List PushEvent) (event : PushEvent) :
    newest n (newest n events ++ [event]) = newest n (events ++ [event]) := by
  have hlength := length_newest n events
  by_cases hle : events.length ≤ n
  · rw [newest_of_le hle]
  · have hfront : newest n events ++ [event] = (events ++ [event]).drop (events.length - n) := by
      rw [List.drop_append_of_le_length (by omega), newest]
    rw [newest, hfront, List.drop_drop, newest]
    congr 1
    simp only [List.length_drop, List.length_append, List.length_singleton]
    omega

/-! ## What a call of `record` changes -/

section Record

variable {inbox inbox' : A2APushInbox} {event : PushEvent} {taskId other : String}

/-- The task that was recorded first. -/
def A2APushInbox.oldestTask? (inbox : A2APushInbox) : Option String :=
  inbox.events.head?.map Prod.fst

/-- `record` accepts the event. -/
def A2APushInbox.Admits (inbox : A2APushInbox) (event : PushEvent) (taskId : String) : Prop :=
  eventTaskId event = .ok taskId ∧ (inbox.needsRoom taskId → inbox.events ≠ [])

/-- The tasks the inbox keeps when an event of the task arrives. -/
def A2APushInbox.roomFor (inbox : A2APushInbox) (taskId : String) : List (String × List PushEvent) :=
  if inbox.needsRoom taskId then inbox.events.tail else inbox.events

theorem makeRoom_of_admits (h : inbox.needsRoom taskId → inbox.events ≠ []) :
    inbox.makeRoom taskId = .ok (inbox.roomFor taskId) := by
  rw [A2APushInbox.makeRoom, A2APushInbox.roomFor]
  cases hroom : inbox.needsRoom taskId with
  | false => rfl
  | true =>
      cases hevents : inbox.events with
      | nil => exact absurd hevents (h hroom)
      | cons first rest => rfl

/-- `record` raises, or it admits the event under the task it names. -/
theorem record_eq_ok_iff : inbox.record event = .ok (taskId, inbox') ↔ inbox.Admits event taskId ∧
    inbox' = ⟨inbox.maxEventsPerTask, inbox.maxTasks, dictInsert (inbox.roomFor taskId)
      (taskId, inbox.trim ((dictGet? (inbox.roomFor taskId) taskId).getD [] ++ [event]))⟩ := by
  rw [A2APushInbox.record, A2APushInbox.Admits]
  -- an event that names no task is refused
  cases htask : eventTaskId event with
  | error e =>
      constructor
      · intro h
        cases h
      · rintro ⟨⟨h, -⟩, -⟩
        cases h
  | ok named =>
      -- the event is admitted, with room made for its task where that is needed
      by_cases hadmits : inbox.needsRoom named → inbox.events ≠ []
      · show (inbox.makeRoom named >>= _) = _ ↔ _
        rw [makeRoom_of_admits hadmits]
        constructor
        · intro h
          cases h
          exact ⟨⟨rfl, hadmits⟩, rfl⟩
        · rintro ⟨⟨h, -⟩, rfl⟩
          cases h
          rfl
      -- no task to evict: `next` raises
      · have hraises : inbox.makeRoom named = .error .stopIteration := by
          push Not at hadmits
          rw [A2APushInbox.makeRoom, if_pos hadmits.1, hadmits.2]
        show (inbox.makeRoom named >>= _) = _ ↔ _
        rw [hraises]
        constructor
        · intro h
          cases h
        · rintro ⟨⟨h, hroom⟩, -⟩
          cases h
          exact absurd hroom hadmits

/-- A dict without its first item. -/
theorem dictGet?_tail {d : List (String × List PushEvent)} (hd : (d.map Prod.fst).Nodup)
    (key : String) :
    dictGet? d.tail key = if d.head?.map Prod.fst = some key then none else dictGet? d key := by
  cases d with
  | nil => simp
  | cons first rest =>
      obtain ⟨hfirst, -⟩ := List.nodup_cons.mp hd
      show dictGet? rest key = if some first.1 = some key then none else _
      by_cases hkey : first.1 = key
      · rw [if_pos (congrArg some hkey), dictGet?_eq_none_iff]
        exact hkey ▸ hfirst
      · rw [if_neg (fun h => hkey (Option.some.inj h))]
        simp [dictGet?, hkey]

/-- The events of a task after room was made for another, or for itself. -/
theorem eventsOf_room (hd : (inbox.events.map Prod.fst).Nodup) :
    (dictGet? (inbox.roomFor taskId) other).getD [] =
      if inbox.needsRoom taskId ∧ inbox.oldestTask? = some other then []
      else inbox.eventsOf other := by
  rw [A2APushInbox.roomFor]
  by_cases hroom : inbox.needsRoom taskId
  · rw [if_pos hroom, dictGet?_tail hd, ← A2APushInbox.oldestTask?]
    by_cases hold : inbox.oldestTask? = some other
    · rw [if_pos hold, if_pos ⟨hroom, hold⟩]
      rfl
    · rw [if_neg hold, if_neg fun h => hold h.2]
      rfl
  · rw [if_neg hroom, if_neg fun h => hroom h.1]
    rfl

/-- A task without an entry has no events. -/
theorem eventsOf_of_needsRoom (hroom : inbox.needsRoom taskId) : inbox.eventsOf taskId = [] := by
  rw [A2APushInbox.needsRoom, Bool.and_eq_true] at hroom
  rw [A2APushInbox.eventsOf, Option.isNone_iff_eq_none.mp hroom.1]
  rfl

/-- The task of the event gains it, at the cost of its oldest events. -/
theorem eventsOf_record_self (hd : (inbox.events.map Prod.fst).Nodup)
    (h : inbox.record event = .ok (taskId, inbox')) :
    inbox'.eventsOf taskId = newest inbox.limit (inbox.eventsOf taskId ++ [event]) := by
  obtain ⟨-, rfl⟩ := record_eq_ok_iff.mp h
  rw [A2APushInbox.eventsOf, dictGet?_dictInsert, if_pos rfl, Option.getD_some,
    A2APushInbox.trim_eq, eventsOf_room hd, newest]
  by_cases hroom : inbox.needsRoom taskId ∧ inbox.oldestTask? = some taskId
  · rw [if_pos hroom, eventsOf_of_needsRoom hroom.1]
  · rw [if_neg hroom]

/-- Another task loses its events if it is evicted, and keeps them otherwise. -/
theorem eventsOf_record_other (hd : (inbox.events.map Prod.fst).Nodup)
    (h : inbox.record event = .ok (taskId, inbox')) (hne : other ≠ taskId) :
    inbox'.eventsOf other =
      if inbox.needsRoom taskId ∧ inbox.oldestTask? = some other then []
      else inbox.eventsOf other := by
  obtain ⟨-, rfl⟩ := record_eq_ok_iff.mp h
  rw [A2APushInbox.eventsOf, dictGet?_dictInsert, if_neg hne, eventsOf_room hd]

theorem nodup_record (hd : (inbox.events.map Prod.fst).Nodup)
    (h : inbox.record event = .ok (taskId, inbox')) : (inbox'.events.map Prod.fst).Nodup := by
  obtain ⟨-, rfl⟩ := record_eq_ok_iff.mp h
  apply nodup_keys_dictInsert
  rw [A2APushInbox.roomFor]
  by_cases hroom : inbox.needsRoom taskId
  · rw [if_pos hroom, List.map_tail]
    exact hd.sublist (List.tail_sublist _)
  · rw [if_neg hroom]
    exact hd

theorem limit_record (h : inbox.record event = .ok (taskId, inbox')) :
    inbox'.limit = inbox.limit := by
  obtain ⟨-, rfl⟩ := record_eq_ok_iff.mp h
  rfl

end Record

/-! ## One client and the callers of `record` -/

/-- The inbox, the events the client has received, and those recorded for its task
    since the last receipt, which the program does not keep. -/
structure PushWorld where
  inbox : A2APushInbox
  received : List PushEvent := []
  fresh : List PushEvent := []

/-- A call of `record`, or the client's next call of `wait`. -/
inductive PushStep where
  | record (event : PushEvent)
  | wait

namespace PushWorld

/-- What the client's next call of `wait` returns. -/
def delivered (task : String) (w : PushWorld) : List PushEvent :=
  w.inbox.wait task w.received.length

/-- A step of a run. -/
def step (task : String) (w : PushWorld) : PushStep → PushWorld
  | .record event =>
    match w.inbox.record event with
    | .ok (taskId, inbox) =>
      { w with inbox, fresh := if taskId = task then w.fresh ++ [event] else w.fresh }
    | .error _ => w
  | .wait =>
    match w.delivered task with
    | [] => w
    | events => { w with received := w.received ++ events, fresh := [] }

/-- A new inbox and a client that has received nothing. -/
def start (maxEventsPerTask maxTasks : Int) : PushWorld := { inbox := { maxEventsPerTask, maxTasks } }

/-- The next `wait` returns every event recorded since the last receipt that the size
    limit leaves, in order, and does not time out when there is one. -/
def NextWaitDelivers (task : String) (w : PushWorld) : Prop :=
  w.delivered task = newest w.inbox.limit w.fresh ∧ (w.fresh ≠ [] → w.delivered task ≠ [])

/-- The steps that lose nothing.  An event of the task arrives while the client has
    received nothing, or while the list is not full and holds at least as many events as
    the client has received; another task evicts this one only when nothing is fresh. -/
def LosesNothing (task : String) (w : PushWorld) : PushStep → Prop
  | .wait => True
  | .record event => ∀ taskId, w.inbox.Admits event taskId →
    if taskId = task then
      1 ≤ w.inbox.maxEventsPerTask ∧
        (w.received = [] ∨ (w.received.length ≤ (w.inbox.eventsOf task).length ∧
          ((w.inbox.eventsOf task).length : Int) < w.inbox.maxEventsPerTask))
    else w.inbox.needsRoom taskId → w.inbox.oldestTask? = some task → w.fresh = []

/-- The tasks are distinct and the list of the client's task is within its limit. -/
structure WellFormed (task : String) (w : PushWorld) : Prop where
  nodup : (w.inbox.events.map Prod.fst).Nodup
  within : (w.inbox.eventsOf task).length ≤ w.inbox.limit

variable {task : String} {w : PushWorld}

/-- The list at a cursor, after one more event and the trimming.  A cursor past the start
    of a full list skips one event that was not delivered. -/
theorem drop_newest_append {n cursor : Nat} {list fresh : List PushEvent} {event : PushEvent}
    (hread : list.drop cursor = newest n fresh) (hwithin : list.length ≤ n) :
    ((newest n (list ++ [event])).drop cursor = newest n (fresh ++ [event]) ∧
        (newest n (list ++ [event])).drop cursor ≠ []) ↔
      1 ≤ n ∧ (cursor = 0 ∨ (cursor ≤ list.length ∧ list.length < n)) := by
  -- what was read and what is kept, by length
  have hfresh : list.length - cursor = min n fresh.length := by
    rw [← length_newest, ← hread, List.length_drop]
  have hkept : (newest n (list ++ [event])).length = min n (list.length + 1) := by
    rw [length_newest, List.length_append, List.length_singleton]
  constructor
  -- an answer of a length says where the cursor stood
  · rintro ⟨hnew, hsome⟩
    have hcursor : cursor < (newest n (list ++ [event])).length := by
      by_contra hge
      exact hsome (List.drop_eq_nil_of_le (by omega))
    have hlength := congrArg List.length hnew
    rw [List.length_drop, hkept, length_newest, List.length_append, List.length_singleton] at hlength
    refine ⟨by omega, ?_⟩
    by_cases hfull : list.length < n
    · exact Or.inr ⟨by omega, hfull⟩
    · exact Or.inl (by omega)
  · rintro ⟨hlimit, rfl | ⟨hle, hroom⟩⟩
    -- the waiter has read nothing of the list, or the list has room for the event
    · rw [List.drop_zero] at hread ⊢
      rw [hread, newest_newest_append]
      refine ⟨rfl, List.ne_nil_of_length_pos ?_⟩
      rw [length_newest, List.length_append, List.length_singleton]
      omega
    · have hlist : newest n (list ++ [event]) = list ++ [event] :=
        newest_of_le (by rw [List.length_append, List.length_singleton]; omega)
      have hold : newest n fresh = fresh := newest_of_le (by omega)
      have hnew : newest n (fresh ++ [event]) = fresh ++ [event] :=
        newest_of_le (by rw [List.length_append, List.length_singleton]; omega)
      rw [hlist, hnew, List.drop_append_of_le_length hle, hread, hold]
      exact ⟨rfl, List.append_ne_nil_of_right_ne_nil _ (List.cons_ne_nil _ _)⟩

theorem delivered_eq (task : String) (w : PushWorld) :
    w.delivered task = (w.inbox.eventsOf task).drop w.received.length :=
  w.inbox.wait_eq task w.received.length

theorem step_record_of_ok {event : PushEvent} {taskId : String} {inbox : A2APushInbox}
    (h : w.inbox.record event = .ok (taskId, inbox)) :
    w.step task (.record event) =
      { w with inbox, fresh := if taskId = task then w.fresh ++ [event] else w.fresh } := by
  rw [step, h]

theorem step_record_of_error {event : PushEvent} {e : PushError}
    (h : w.inbox.record event = .error e) : w.step task (.record event) = w := by
  rw [step, h]

/-- The next `wait` after a `wait` that delivers has nothing to deliver. -/
theorem nextWaitDelivers_wait (h : w.NextWaitDelivers task) :
    (w.step task .wait).NextWaitDelivers task := by
  cases hdelivered : w.delivered task with
  | nil =>
      have hsame : w.step task .wait = w := by rw [step, hdelivered]
      rwa [hsame]
  | cons first rest =>
      have hstep : w.step task .wait =
          { w with received := w.received ++ w.delivered task, fresh := [] } := by
        rw [step, hdelivered]
      rw [hstep]
      refine ⟨?_, fun hfresh => absurd rfl hfresh⟩
      rw [delivered_eq, delivered_eq, newest_of_le (Nat.zero_le _)]
      apply List.drop_eq_nil_of_le
      show (w.inbox.eventsOf task).length ≤ _
      rw [List.length_append, List.length_drop]
      omega

/-- **One step.**  The next `wait` still delivers exactly when the step loses nothing. -/
theorem nextWaitDelivers_step (hw : w.WellFormed task) (h : w.NextWaitDelivers task) (s : PushStep) :
    (w.step task s).NextWaitDelivers task ↔ w.LosesNothing task s := by
  -- a wait reads everything there is
  cases s with
  | wait => exact iff_of_true (nextWaitDelivers_wait h) trivial
  | record event =>
      -- a refused event changes nothing, and no task admits it
      cases hrecord : w.inbox.record event with
      | error e =>
          rw [step_record_of_error hrecord]
          refine iff_of_true h fun taskId hadmits => ?_
          rw [record_eq_ok_iff.mpr ⟨hadmits, rfl⟩] at hrecord
          cases hrecord
      | ok answer =>
          obtain ⟨named, inbox'⟩ := answer
          have hadmits := (record_eq_ok_iff.mp hrecord).1
          -- the event names one task, so the condition is about that task
          have hcondition : w.LosesNothing task (.record event) ↔
              if named = task then
                1 ≤ w.inbox.maxEventsPerTask ∧
                  (w.received = [] ∨ (w.received.length ≤ (w.inbox.eventsOf task).length ∧
                    ((w.inbox.eventsOf task).length : Int) < w.inbox.maxEventsPerTask))
              else w.inbox.needsRoom named → w.inbox.oldestTask? = some task → w.fresh = [] := by
            refine ⟨fun hall => hall named hadmits, fun hone taskId hother => ?_⟩
            have hsame : taskId = named := Except.ok.inj (hother.1.symm.trans hadmits.1)
            rwa [hsame]
          obtain ⟨hread, hsome⟩ := h
          rw [delivered_eq] at hread hsome
          rw [hcondition, step_record_of_ok hrecord, NextWaitDelivers, delivered_eq]
          show (inbox'.eventsOf task).drop w.received.length = newest inbox'.limit _ ∧ _ ↔ _
          rw [limit_record hrecord]
          -- an event of the task of the waiter
          by_cases hown : named = task
          · subst hown
            rw [if_pos rfl, if_pos rfl, eventsOf_record_self hw.nodup hrecord,
              forall_prop_of_true (List.append_ne_nil_of_right_ne_nil _ (List.cons_ne_nil _ _)),
              drop_newest_append hread hw.within, ← List.length_eq_zero_iff,
              A2APushInbox.limit]
            omega
          · rw [if_neg hown, if_neg hown, eventsOf_record_other hw.nodup hrecord (Ne.symm hown)]
            -- an event of another task, which may evict it
            by_cases hevicts : w.inbox.needsRoom named ∧ w.inbox.oldestTask? = some task
            · rw [if_pos hevicts, List.drop_nil]
              constructor
              · rintro ⟨-, hlost⟩ - -
                by_contra hfresh
                exact hlost hfresh rfl
              · intro hnone
                have hfresh := hnone hevicts.1 hevicts.2
                rw [hfresh, newest_of_le (Nat.zero_le _)]
                exact ⟨rfl, fun hne => absurd rfl hne⟩
            · rw [if_neg hevicts]
              exact iff_of_true ⟨hread, hsome⟩ fun hroom hold => absurd ⟨hroom, hold⟩ hevicts

theorem WellFormed.step (hw : w.WellFormed task) (s : PushStep) : (w.step task s).WellFormed task := by
  cases s with
  | wait =>
      rw [PushWorld.step]
      split
      · exact hw
      · exact ⟨hw.nodup, hw.within⟩
  | record event =>
      cases hrecord : w.inbox.record event with
      | error e => rwa [step_record_of_error hrecord]
      | ok answer =>
          obtain ⟨named, inbox'⟩ := answer
          rw [step_record_of_ok hrecord]
          refine ⟨nodup_record hw.nodup hrecord, ?_⟩
          show (inbox'.eventsOf task).length ≤ inbox'.limit
          rw [limit_record hrecord]
          by_cases hown : named = task
          · subst hown
            rw [eventsOf_record_self hw.nodup hrecord, length_newest]
            exact Nat.min_le_left _ _
          · rw [eventsOf_record_other hw.nodup hrecord (Ne.symm hown)]
            split
            · exact Nat.zero_le _
            · exact hw.within

theorem wellFormed_start (task : String) (maxEventsPerTask maxTasks : Int) :
    (start maxEventsPerTask maxTasks).WellFormed task :=
  ⟨List.nodup_nil, Nat.zero_le _⟩

/-- **Push delivery.**  After every part of a run the next `wait` delivers what was recorded
    since the last receipt, exactly when no step of the run loses an event. -/
theorem nextWaitDelivers_iff (task : String) (maxEventsPerTask maxTasks : Int)
    (steps : List PushStep) :
    (∀ before, before <+: steps →
        (before.foldl (step task) (start maxEventsPerTask maxTasks)).NextWaitDelivers task) ↔
      Each (step task) (LosesNothing task) (start maxEventsPerTask maxTasks) steps := by
  have hstart : (start maxEventsPerTask maxTasks).NextWaitDelivers task := by
    refine ⟨?_, fun hne => absurd rfl hne⟩
    rw [delivered_eq]
    exact (newest_of_le (Nat.zero_le _)).symm
  exact earlier_iff_each (wellFormed_start task maxEventsPerTask maxTasks) hstart
    (fun w s hw => hw.step s) (fun w s hw h => nextWaitDelivers_step hw h s) steps

/-- The third of three events, the inbox keeping two: the client that has received the
    first two waits for it until its deadline. -/
theorem not_nextWaitDelivers_trimmed :
    ¬ ∀ (task : String) (maxEventsPerTask maxTasks : Int) (steps : List PushStep),
      (steps.foldl (step task) (start maxEventsPerTask maxTasks)).NextWaitDelivers task := by
  intro hall
  let event : PushEvent := [("statusUpdate", .obj [("taskId", .str "task-1")])]
  have hlost := (hall "task-1" 2 1000 [.record event, .record event, .wait, .record event]).2
  exact hlost (List.ne_nil_of_length_pos (by decide +kernel))
    (List.eq_nil_of_length_eq_zero (by decide +kernel))

end PushWorld

end LlmHarness.A2A
