import Phux.Exclusive
import Phux.InputLane

/-! A terminal's reservation is held from admission to the last step of its operation's
resolution, so no terminal has two unresolved acknowledged operations. -/

namespace Phux.InputLane

open ByteReader Exclusive WaiterTask List Perm

/-- The call that awaits an operation, and the terminal it reserves. -/
def Acknowledged.call (op : Acknowledged) : Nat × ResourceId := (op.reply, op.input.terminalId)

def PendingCompletion.call (pending : PendingCompletion) : Nat × ResourceId :=
  (pending.reply, pending.terminalId)

def RoutedInput.operation : RoutedInput → Option Acknowledged
  | fireAndForget _ _ _ => none
  | acknowledged op => some op

def Turn.operation : Turn → Option Acknowledged
  | idle => none
  | preparing op _ => some op
  | bound op _ _ => some op
  | prepared request => some request.op
  | registered _ => none

def WaiterTask.operation : WaiterTask → Option PendingCompletion
  | finalize pending _ => some pending
  | release pending _ => some pending
  | handle message => Lane.registeredOf message

namespace Lane

/-- The operations whose reservation the waiter holds, or is to receive. -/
def awaiting (s : Lane) : List PendingCompletion :=
  s.messages.filterMap registeredOf ++ (s.tasks.filterMap operation ++ s.pending)

def preparing (s : Lane) : List Acknowledged :=
  s.turn.operation.toList ++ s.queue.filterMap RoutedInput.operation

def unresolved (s : Lane) : List (Nat × ResourceId) :=
  s.preparing.map Acknowledged.call ++ s.awaiting.map PendingCompletion.call

def reserved (s : Lane) : List ResourceId :=
  s.preparing.map (·.input.terminalId) ++ s.awaiting.map (·.terminalId)

/-- Every reservation is in the in-flight set, and no terminal is reserved twice. -/
def Admitted (s : Lane) : Prop := Holds s.inFlight s.reserved

variable {s s' : Lane}

variable (h : s.Admitted)

include h

theorem Admitted.of_perm (hin : s'.inFlight = s.inFlight)
    (hprep : s'.preparing = s.preparing) (hwait : s.awaiting.Perm s'.awaiting) : s'.Admitted := by
  rw [Admitted, hin]
  refine .of_perm h ?_
  rw [reserved, reserved, hprep]
  exact (hwait.map _).append_left _

variable {op : Acknowledged}

theorem Admitted.refuse (hop : s.turn.operation = some op)
    (result : CommandResult) : (s.refuse op result).Admitted := by
  have hperm : s.reserved.Perm ([op.input.terminalId] ++ (s.refuse op result).reserved) := by
    simp only [reserved, preparing, hop, Option.toList_some]
    exact .refl _
  have hrel := Holds.release h hperm
  rw [diff_cons, diff_nil] at hrel
  exact hrel

theorem Admitted.release (pending : PendingCompletion)
    (hprep : s'.preparing = s.preparing) (hwait : s.awaiting.Perm (pending :: s'.awaiting))
    (hin : s'.inFlight = s.inFlight.erase pending.terminalId) : s'.Admitted := by
  have hperm : s.reserved.Perm ([pending.terminalId] ++ s'.reserved) := by
    have hw := (hwait.map (·.terminalId)).append_left (s.preparing.map (·.input.terminalId))
    rw [reserved, reserved, hprep]
    exact hw.trans perm_middle
  rw [Admitted, hin]
  simpa using Holds.release h hperm

theorem Admitted.applyInput (clientId : Server.ClientId) (input : ApplyInput)
    (now : Nat) : (s.applyInput clientId input now).Admitted := by
  by_cases hin : input.terminalId ∈ s.inFlight
  · rw [Lane.applyInput, if_pos hin]
    exact h
  by_cases hfull : inputLaneCapacity ≤ s.queue.length
  · rw [Lane.applyInput, if_neg hin, if_pos hfull]
    exact h
  rw [Lane.applyInput, if_neg hin, if_neg hfull]
  refine Holds.of_perm (Holds.acquire h hin) ?_
  -- The new operation stands last in the queue, before what the waiter holds.
  have hmove : (input.terminalId :: s.reserved).Perm
      (s.preparing.map (·.input.terminalId) ++ input.terminalId :: s.awaiting.map (·.terminalId)) :=
    perm_middle.symm
  refine hmove.trans (of_eq ?_)
  simp [reserved, preparing, awaiting, RoutedInput.operation, filterMap_append]

theorem Admitted.take : s.take.Admitted := by
  rcases hturn : s.turn with _ | _ | _ | _ | _ <;> rcases hq : s.queue with _ | ⟨_ | op, rest⟩ <;>
    simp only [Lane.take, hturn, hq] <;> try exact h
  · refine h.of_perm rfl ?_ (.refl _)
    simp [preparing, hq, hturn, filterMap_cons, RoutedInput.operation]
  · refine h.of_perm rfl ?_ (.refl _)
    simp [preparing, hq, hturn, RoutedInput.operation, Turn.operation]

theorem Admitted.bindBatch (digest : ApplyInput → Bytes) (ticket : Nat)
    (hop : s.turn.operation = some op) : (s.bindBatch digest op ticket).Admitted := by
  have hrefuse : ∀ cache result, (({ s with cache := cache } : Lane).refuse op result).Admitted :=
    fun _ result => h.refuse hop result
  have hbound : ∀ cache binding,
      ({ s with cache := cache, turn := .bound op ticket binding } : Lane).Admitted := by
    intro cache binding
    refine h.of_perm rfl ?_ (.refl _)
    rw [preparing, preparing, hop]
    rfl
  rw [Lane.bindBatch]
  by_cases hcount : op.input.events = [] ∨ maxApplyInputEvents < op.input.events.length
  · rw [if_pos hcount]
    exact h.refuse hop _
  rw [if_neg hcount]
  dsimp only
  split
  · exact hrefuse _ _
  · exact hrefuse _ _
  · exact hrefuse _ _
  · exact hbound _ _
  · exact hbound _ _

omit h

variable (digest : ApplyInput → Bytes)

theorem Admitted.bind (h : s.Admitted) : (s.bind digest).Admitted := by
  rw [Lane.bind]
  split
  · rename_i op ticket hturn
    exact h.bindBatch digest ticket (by rw [hturn]; rfl)
  · exact h

theorem Admitted.encode (view : PaneView) (h : s.Admitted) : (s.encode view).Admitted := by
  rw [Lane.encode]
  split
  · rename_i op ticket binding hturn
    split
    · refine h.of_perm rfl ?_ (.refl _)
      simp [preparing, hturn, Turn.operation]
    · exact h.refuse (by rw [hturn]; rfl) _
  · exact h

theorem Admitted.notify {messages : List WaiterMessage} (h : s.Admitted)
    (hm : messages.filterMap registeredOf = []) : (s.notify messages).Admitted := by
  rw [Lane.notify]
  split
  · refine h.of_perm rfl rfl (of_eq ?_)
    simp [awaiting, hm, filterMap_append]
  · exact h

theorem Admitted.register (now : Nat) (h : s.Admitted) : (s.register now).Admitted := by
  rw [Lane.register]
  split
  · rename_i request hturn
    by_cases hw : s.waiting = true
    · rw [if_pos hw, Lane.notify, if_pos hw]
      refine Holds.of_perm h ?_
      have hmove : ∀ (t : ResourceId) (queued told more : List ResourceId),
          ([t] ++ queued ++ (told ++ more)).Perm (queued ++ (told ++ [t] ++ more)) := by
        intro t queued told more
        have hmiddle : (queued ++ told ++ t :: more).Perm (t :: (queued ++ told ++ more)) :=
          perm_middle
        simpa [append_assoc] using hmiddle.symm
      simpa [reserved, preparing, awaiting, hturn, Turn.operation, registeredOf,
        EncodedInputRequest.pending] using hmove request.op.input.terminalId
          ((s.queue.filterMap RoutedInput.operation).map (·.input.terminalId))
          ((s.messages.filterMap registeredOf).map (·.terminalId))
          ((s.tasks.filterMap operation ++ s.pending).map (·.terminalId))
    · rw [if_neg hw]
      exact h.refuse (by rw [hturn]; rfl) _
  · exact h

theorem Admitted.handoff (outcome : Handoff) (h : s.Admitted) : (s.handoff outcome).Admitted := by
  rw [Lane.handoff]
  split
  · rename_i request hturn
    have hn := h.notify (show (handoffNotices request.ticket outcome).filterMap registeredOf = [] by
      cases outcome <;> rfl)
    have hidle : ({ s.notify (handoffNotices request.ticket outcome) with turn := .idle } :
        Lane).Admitted := by
      refine hn.of_perm rfl ?_ (.refl _)
      have hsame : (s.notify (handoffNotices request.ticket outcome)).turn = s.turn := by
        rw [Lane.notify]
        split <;> rfl
      rw [preparing, preparing, hsame, hturn]
      rfl
    cases outcome <;> exact hidle
  · exact h

/-- A round of the waiter moves expired operations, and the one its message brings, to the
tasks of the round. -/
theorem Admitted.wakeWith (messages rest : List WaiterMessage) (now : Nat) (h : s.Admitted)
    (htasks : s.tasks = []) (hm : s.messages = messages ++ rest) :
    ({ s with messages := rest }.wakeWith messages now).Admitted := by
  refine h.of_perm rfl rfl ?_
  have hexpired : ∀ l : List PendingCompletion,
      (l.map (finalize · deliveryUnknown)).filterMap operation = l := by
    intro l
    simp [filterMap_map, Function.comp_def, operation]
  have hhandled : (messages.map handle).filterMap operation = messages.filterMap registeredOf := by
    rw [filterMap_map]
    rfl
  have hsplit : s.pending = s.pending.takeWhile (·.deadline ≤ now) ++
      s.pending.dropWhile (·.deadline ≤ now) := takeWhile_append_dropWhile.symm
  have hswap : ∀ told more due later : List PendingCompletion,
      (told ++ more ++ ([] ++ (due ++ later))).Perm (more ++ (due ++ told ++ later)) := by
    intro told more due later
    rw [nil_append, append_assoc, append_assoc]
    refine perm_append_comm.trans ?_
    rw [append_assoc]
    refine append_left more ?_
    rw [append_assoc]
    exact append_left due perm_append_comm
  have hgoal := hswap (messages.filterMap registeredOf) (rest.filterMap registeredOf)
    (s.pending.takeWhile (·.deadline ≤ now)) (s.pending.dropWhile (·.deadline ≤ now))
  simp only [awaiting, Lane.wakeWith, htasks, hm, filterMap_append, hexpired, hhandled,
    filterMap_nil]
  rw [← hsplit] at hgoal
  exact hgoal

theorem Admitted.wake (received : Bool) (now : Nat) (h : s.Admitted) :
    (s.wake received now).Admitted := by
  rw [Lane.wake]
  split
  · rename_i hidle
    have htasks : s.tasks = [] := isEmpty_iff.mp hidle.2
    by_cases hr : received = true
    · rw [if_pos hr]
      split
      · rename_i message rest hm
        exact h.wakeWith [message] rest now htasks hm
      · exact h
    · rw [if_neg hr]
      split
      · exact h
      · exact h.wakeWith [] s.messages now htasks rfl
  · exact h

variable (ticket : Nat)

theorem Admitted.takePending {next : PendingCompletion → WaiterTask}
    (h : s.Admitted) (hnext : ∀ p, (next p).operation = some p) :
    (s.takePending ticket next).Admitted := by
  rw [Lane.takePending]
  split
  · rename_i pending hfind
    refine h.of_perm rfl rfl ?_
    simp only [awaiting, filterMap_cons, hnext]
    refine append_left _ ?_
    exact ((perm_eraseP hfind).append_left _).trans perm_middle
  · exact h

theorem Admitted.stopWaiter (h : s.Admitted) : s.stopWaiter.Admitted := by
  have hperm : s.reserved.Perm (((s.pending ++ s.messages.filterMap registeredOf).map
      (·.terminalId)) ++ s.stopWaiter.reserved) := by
    have hmove : ∀ prep told tasks pending : List ResourceId,
        (prep ++ (told ++ (tasks ++ pending))).Perm ((pending ++ told) ++ (prep ++ tasks)) := by
      intro prep told tasks pending
      rw [← append_assoc told, ← append_assoc, ← append_assoc]
      refine perm_append_comm.trans ?_
      rw [append_assoc pending]
      refine append_left pending ?_
      rw [← append_assoc]
      exact append_right tasks perm_append_comm
    simpa [reserved, awaiting, preparing, Lane.stopWaiter] using hmove
      (s.preparing.map (·.input.terminalId)) ((s.messages.filterMap registeredOf).map (·.terminalId))
      ((s.tasks.filterMap operation).map (·.terminalId)) (s.pending.map (·.terminalId))
  exact Holds.release h hperm

variable {rest : List WaiterTask}

theorem Admitted.task {task : WaiterTask} (h : s.Admitted)
    (htasks : s.tasks = task :: rest) (hdone : task.operation = none) :
    ({ s with tasks := rest } : Lane).Admitted := by
  refine h.of_perm rfl rfl (of_eq ?_)
  simp [awaiting, htasks, hdone]

theorem Admitted.handleMessage {message : WaiterMessage} (h : s.Admitted)
    (htasks : s.tasks = .handle message :: rest) :
    ({ s with tasks := rest }.handleMessage message).Admitted := by
  cases message with
  | registered pending =>
    refine h.of_perm rfl rfl ?_
    simp only [awaiting, htasks, filterMap_cons, operation, registeredOf, Lane.handleMessage]
    refine append_left _ ?_
    exact perm_middle.symm.trans ((perm_orderedInsert Before pending s.pending).symm.append_left _)
  | completed ticket outcome | abandoned ticket result =>
    exact (h.task htasks rfl).takePending ticket fun _ => rfl
  | shutdown => exact (h.task htasks rfl).stopWaiter

theorem Admitted.work (h : s.Admitted) : s.work.Admitted := by
  rw [Lane.work]
  split
  · rename_i pending result rest htasks
    refine h.of_perm rfl rfl (of_eq ?_)
    simp [awaiting, htasks, operation]
  · rename_i pending result rest htasks
    refine h.release pending rfl ?_ rfl
    simp only [awaiting, htasks, filterMap_cons, operation, Lane.answer, Lane.release]
    exact perm_middle
  · rename_i message rest htasks
    exact h.handleMessage htasks
  · exact h

theorem Admitted.forward (accepted : Bool) (h : s.Admitted) :
    (s.forward ticket accepted).Admitted := by
  rw [Lane.forward]
  split
  · dsimp only
    split
    · exact h
    · exact .notify (s := { s with mailbox := _ }) h rfl
  · exact h

theorem Admitted.next (step : Step) (h : s.Admitted) : (s.next digest step).Admitted := by
  cases step with
  | applyInput clientId input now => exact h.applyInput clientId input now
  | route clientId terminalId event =>
    rw [Lane.next, Lane.route]
    split
    · exact h
    · refine h.of_perm rfl ?_ (.refl _)
      simp [preparing, RoutedInput.operation]
  | take => exact h.take
  | bind => exact h.bind digest
  | encode view => exact h.encode view
  | register now => exact h.register now
  | handoff outcome => exact h.handoff outcome
  | wake received now => exact h.wake received now
  | work => exact h.work
  | forward ticket accepted => exact h.forward ticket accepted
  | report ticket outcome =>
    rw [Lane.next, Lane.report]
    split
    · exact .notify (s := { s with writing := _ }) h rfl
    · exact h
  | discard ticket =>
    rw [Lane.next, Lane.discard]
    split
    · exact .notify (s := { s with mailbox := _ }) h rfl
    · exact h
  | shutdown => exact h.notify rfl

theorem after_admitted (steps : List Step) : (Lane.after digest steps).Admitted :=
  Machine.run_invariant (fun _ step h => h.next digest step) ⟨.refl _, nodup_nil⟩

end Lane

end Phux.InputLane
