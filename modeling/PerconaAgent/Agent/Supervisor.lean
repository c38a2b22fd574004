import Mathlib.Data.List.Basic

/-!
# `PerconaAgent.Agent.Supervisor`: `Run`, `cmdHandler` and `statusHandler`

The agent (`agent/agent.go`) takes commands from the transport's `RecvChan` in `Run`.
`Abort` panics, `Restart` and `Stop` are handled in `Run` itself, `Status` goes to
`statusChan` and every other command to `cmdChan`, both of capacity `10`, with a
`QueueFullError` reply when the queue is full. `cmdHandler` takes one command at a time
from `cmdChan`. It runs the handler in a goroutine of its own and waits for the reply on
`cmdReply`, a channel of capacity `1` made once per `cmdHandler`, or for a timeout
(`5` minutes for `Update`, `20` seconds otherwise). `statusHandler` answers the status
commands. `reply` waits `20` seconds for room on the transport's `SendChan` and drops the
reply after that.

The model is a record `Agent` of the three goroutines' places, the two queues,
`cmdReply`, the handler goroutines still alive (`Worker`) and the replies the transport
accepted, and a step function over the events of a run. Real time is not modelled: a
timeout is an event that may happen at any time while `cmdHandler` waits, and the outcome
of each `reply` is part of its event. `Pc.exited` is the end of the process: after `Abort`
panics, and after `Restart` or `Stop` returns from `Run`.

Each command gets its arrival number `seq`, and each reply the number of the command
whose `Reply` method built it. These and the lists `received`, `dropped` (the replies
whose send gave up) and `silent` (the commands that get no reply by design: `Abort`, and
`Reconnect` to the agent) are auxiliary. Left out: the status registry, the reconnect
goroutines, the crash counters and respawns (no modelled step panics), the data of replies,
and what `agent.Handle` and the services' `Handle` do besides returning a reply.

`recv_cases` lists the ways `Run`'s `RecvChan` case ends, and `step_recv`, `step_take`
and the other `step_*` lemmas say what each event can do, guards included; the invariants
of `Agent/Serial.lean` and `Agent/Replies.lean` are proved from them.
-/

set_option autoImplicit false

namespace PerconaAgent.Supervisor

/-- `CMD_QUEUE_SIZE`: the capacity of `cmdChan`. -/
def CMD_QUEUE_SIZE : Nat := 10

/-- `STATUS_QUEUE_SIZE`: the capacity of `statusChan`. -/
def STATUS_QUEUE_SIZE : Nat := 10

/-- `proto.Cmd`, with the fields the agent reads. -/
structure Cmd where
  id : Nat
  service : String
  cmd : String
  deriving DecidableEq, Repr

/-- The errors a reply of the supervisor carries: `pct.QueueFullError`,
`pct.CmdTimeoutError`, `pct.UnknownServiceError`, and an error returned by a handler or
by a step of `Restart`. -/
inductive ReplyError
  | queueFull (cmd name : String) (size : Nat)
  | cmdTimeout (cmd : String)
  | unknownService (service : String)
  | failed (msg : String)
  deriving DecidableEq, Repr

/-- `proto.Reply` without its data: the `Id` of the command and the error. `seq` is the
arrival number of the command whose `Reply` method built it. -/
structure Reply where
  seq : Nat
  id : Nat
  error : Option ReplyError
  deriving DecidableEq, Repr

/-- A command with its arrival number. -/
structure Queued where
  seq : Nat
  cmd : Cmd
  deriving DecidableEq, Repr

/-- `cmd.Reply(nil, err)`. -/
def Queued.reply (q : Queued) (error : Option ReplyError) : Reply := ⟨q.seq, q.cmd.id, error⟩

/-- A handler goroutine of `cmdHandler`: running, or returned with its reply and waiting
to send it on `cmdReply`. -/
structure Worker where
  q : Queued
  reply : Option Reply
  deriving DecidableEq, Repr

/-- Where `Run` is: in its loop, in the three steps of `stop()` and the reply for a
`Stop` command, or gone with the process. -/
inductive Pc
  | loop
  | stopCmdHandler (q : Queued)
  | stopStatusHandler (q : Queued)
  | stopReply (q : Queued)
  | exited
  deriving DecidableEq, Repr

/-- Where `cmdHandler` is: at its `select`, waiting for the reply of a command, or gone
after `stop()`. -/
inductive HandlerPc
  | idle
  | waiting (q : Queued)
  | stopped
  deriving DecidableEq, Repr

/-- The errors of the steps of `Restart`: `pct.MakeStartLock`, `os.Getwd`,
`ioutil.WriteFile` and the `Start` of the script. -/
structure RestartSteps where
  lockErr : Option String
  getwdErr : Option String
  writeErr : Option String
  execErr : Option String
  deriving DecidableEq, Repr

/-- The state of the supervisor. `services` are the names of the registered service
managers; `sent` are the replies the transport accepted on `SendChan`, oldest first. -/
structure Agent where
  services : List String
  run : Pc
  cmdChan : List Queued
  statusChan : List Queued
  handler : HandlerPc
  cmdReply : Option Reply
  workers : List Worker
  statusRunning : Bool
  sent : List Reply
  received : List Cmd
  dropped : List Reply
  silent : List Queued
  deriving DecidableEq

/-- The events of a run: `Run` takes a command from `RecvChan` (with the errors of the
steps of a `Restart` and the outcomes of its replies); `cmdHandler` takes a command, gets
a reply on `cmdReply`, or times out; a handler goroutine returns (with its error) or sends
its reply on `cmdReply`; `statusHandler` answers a status command; and the steps of
`stop()`. An outcome `false` is a `reply` that gave up after `20` seconds. -/
inductive Event
  | recv (c : Cmd) (restart : RestartSteps) (oks : List Bool)
  | take
  | finish (seq : Nat) (err : Option String)
  | deliver (seq : Nat)
  | answer (ok : Bool)
  | timeout (ok : Bool)
  | status
  | stopCmdHandler
  | stopStatusHandler
  | stopReply (ok : Bool)
  deriving DecidableEq

namespace Agent

/-- The state after `NewAgent` and the start of `Run`: both handlers at their `select`. -/
def init (services : List String) : Agent :=
  { services, run := .loop, cmdChan := [], statusChan := [], handler := .idle,
    cmdReply := none, workers := [], statusRunning := true, sent := [], received := [],
    dropped := [], silent := [] }

/-- `reply(r)`: the transport accepts `r`, or the send gives up after `20` seconds. -/
def reply (a : Agent) (r : Reply) (ok : Bool) : Agent :=
  { a with
    sent := if ok then a.sent ++ [r] else a.sent
    dropped := if ok then a.dropped else a.dropped ++ [r] }

section
variable (a : Agent) (r : Reply) (ok : Bool)
@[simp] theorem reply_services : (a.reply r ok).services = a.services := rfl
@[simp] theorem reply_run : (a.reply r ok).run = a.run := rfl
@[simp] theorem reply_cmdChan : (a.reply r ok).cmdChan = a.cmdChan := rfl
@[simp] theorem reply_statusChan : (a.reply r ok).statusChan = a.statusChan := rfl
@[simp] theorem reply_handler : (a.reply r ok).handler = a.handler := rfl
@[simp] theorem reply_cmdReply : (a.reply r ok).cmdReply = a.cmdReply := rfl
@[simp] theorem reply_workers : (a.reply r ok).workers = a.workers := rfl
@[simp] theorem reply_statusRunning : (a.reply r ok).statusRunning = a.statusRunning := rfl
@[simp] theorem reply_received : (a.reply r ok).received = a.received := rfl
@[simp] theorem reply_silent : (a.reply r ok).silent = a.silent := rfl
@[simp] theorem reply_sent : (a.reply r ok).sent = if ok then a.sent ++ [r] else a.sent := rfl
@[simp] theorem reply_dropped :
    (a.reply r ok).dropped = if ok then a.dropped else a.dropped ++ [r] := rfl
end

/-- `if err != nil { reply(cmd.Reply(nil, err)) }`, with the outcome from `oks`. -/
def replyIfErr (a : Agent) (q : Queued) (err : Option String) (oks : List Bool) :
    Agent × List Bool :=
  match err with
  | some msg => (a.reply (q.reply (some (.failed msg))) (oks.headD true), oks.tail)
  | none => (a, oks)

/-- The `Restart` case of `Run`. A failed start lock is replied and the loop goes on.
Otherwise a failed `Getwd` or `WriteFile` is replied and the case goes on; the result of
starting the script is replied and `Run` returns. -/
def restart (a : Agent) (q : Queued) (st : RestartSteps) (oks : List Bool) : Agent :=
  match st.lockErr with
  | some msg => a.reply (q.reply (some (.failed msg))) (oks.headD true)
  | none =>
    let r₁ := a.replyIfErr q st.getwdErr oks
    let r₂ := r₁.1.replyIfErr q st.writeErr r₁.2
    { r₂.1.reply (q.reply (st.execErr.map .failed)) (r₂.2.headD true) with run := .exited }

/-- The `RecvChan` case of `Run` for the command `c`, the next to arrive. -/
def recv (a : Agent) (c : Cmd) (st : RestartSteps) (oks : List Bool) : Agent :=
  let q : Queued := ⟨a.received.length, c⟩
  let a := { a with received := a.received ++ [c] }
  if c.cmd = "Abort" then { a with run := .exited, silent := a.silent ++ [q] }
  else if c.cmd = "Restart" then a.restart q st oks
  else if c.cmd = "Stop" then { a with run := .stopCmdHandler q }
  else if c.cmd = "Status" then
    if a.statusChan.length < STATUS_QUEUE_SIZE then { a with statusChan := a.statusChan ++ [q] }
    else a.reply (q.reply (some (.queueFull c.cmd "statusQueue" STATUS_QUEUE_SIZE)))
      (oks.headD true)
  else if a.cmdChan.length < CMD_QUEUE_SIZE then { a with cmdChan := a.cmdChan ++ [q] }
  else a.reply (q.reply (some (.queueFull c.cmd "cmdQueue" CMD_QUEUE_SIZE))) (oks.headD true)

/-- The `cmdChan` case of `cmdHandler` for `q`: `Reconnect` to the agent disconnects the
client and gets no reply; any other command starts a handler goroutine and the wait. -/
def take (a : Agent) (q : Queued) (rest : List Queued) : Agent :=
  if q.cmd.cmd = "Reconnect" ∧ q.cmd.service = "agent" then
    { a with cmdChan := rest, silent := a.silent ++ [q] }
  else { a with cmdChan := rest, handler := .waiting q, workers := a.workers ++ [⟨q, none⟩] }

/-- The reply a handler goroutine computes: `agent.Handle` for the agent, the service's
`Handle` for a registered service (`err` is the error either returns), and
`UnknownServiceError` otherwise. -/
def handlerReply (a : Agent) (q : Queued) (err : Option String) : Reply :=
  if q.cmd.service = "agent" ∨ q.cmd.service ∈ a.services then q.reply (err.map .failed)
  else q.reply (some (.unknownService q.cmd.service))

/-- The reply `statusHandler` sends for `q`. -/
def statusReply (a : Agent) (q : Queued) : Reply :=
  if q.cmd.service = "" ∨ q.cmd.service = "agent" ∨ q.cmd.service ∈ a.services then
    q.reply none
  else q.reply (some (.unknownService q.cmd.service))

/-- The handler goroutine of the command `seq` returns its reply. -/
def finish (a : Agent) (seq : Nat) (err : Option String) : Option Agent :=
  match a.workers.find? (fun w => w.q.seq = seq ∧ w.reply = none) with
  | some w =>
    some { a with workers := a.workers.map fun w' =>
      if w' = w then { w with reply := some (a.handlerReply w.q err) } else w' }
  | none => none

/-- The handler goroutine of the command `seq` sends its reply on `cmdReply` and ends.
The send waits while `cmdReply` holds a reply. -/
def deliver (a : Agent) (seq : Nat) : Option Agent :=
  match a.workers.find? (fun w => w.q.seq = seq ∧ w.reply.isSome), a.cmdReply with
  | some w, none => some { a with cmdReply := w.reply, workers := a.workers.erase w }
  | _, _ => none

/-- One step of a run. Nothing happens after the process exits. -/
def step (a : Agent) : Event → Option Agent
  | .recv c st oks => if a.run = .loop then some (a.recv c st oks) else none
  | .take =>
    match a.handler, a.cmdChan with
    | .idle, q :: rest => if a.run = .exited then none else some (a.take q rest)
    | _, _ => none
  | .finish seq err => if a.run = .exited then none else a.finish seq err
  | .deliver seq => if a.run = .exited then none else a.deliver seq
  | .answer ok =>
    match a.handler, a.cmdReply with
    | .waiting _, some r =>
      if a.run = .exited then none
      else some ({ a with handler := .idle, cmdReply := none }.reply r ok)
    | _, _ => none
  | .timeout ok =>
    match a.handler with
    | .waiting q =>
      if a.run = .exited then none
      else some ({ a with handler := .idle }.reply (q.reply (some (.cmdTimeout q.cmd.cmd))) ok)
    | _ => none
  | .status =>
    match a.statusChan with
    | q :: rest =>
      if a.run = .exited ∨ !a.statusRunning then none
      else some { a with statusChan := rest, sent := a.sent ++ [a.statusReply q] }
    | [] => none
  | .stopCmdHandler =>
    match a.run, a.handler with
    | .stopCmdHandler q, .idle => some { a with run := .stopStatusHandler q, handler := .stopped }
    | _, _ => none
  | .stopStatusHandler =>
    match a.run with
    | .stopStatusHandler q =>
      if a.statusRunning then some { a with run := .stopReply q, statusRunning := false }
      else none
    | _ => none
  | .stopReply ok =>
    match a.run with
    | .stopReply q => some { a.reply (q.reply none) ok with run := .exited }
    | _ => none

section
variable {a a' : Agent}

/-- `Run` takes a command only in its loop. -/
theorem step_recv {c : Cmd} {st : RestartSteps} {oks : List Bool}
    (h : a.step (.recv c st oks) = some a') : a.run = .loop ∧ a' = a.recv c st oks := by
  simp only [step] at h
  split at h
  · cases h; exact ⟨‹_›, rfl⟩
  · cases h

/-- `cmdHandler` takes a command only at its `select`, from the head of `cmdChan`. -/
theorem step_take (h : a.step .take = some a') :
    ∃ q rest, a.handler = .idle ∧ a.cmdChan = q :: rest ∧ a.run ≠ .exited ∧
      a' = a.take q rest := by
  simp only [step] at h
  split at h
  · rename_i q rest hh hc
    split at h
    · cases h
    · cases h; exact ⟨q, rest, hh, hc, ‹_›, rfl⟩
  · cases h

/-- A handler goroutine returns only before the process exits. -/
theorem step_finish {seq : Nat} {err : Option String}
    (h : a.step (.finish seq err) = some a') : a.run ≠ .exited ∧ a.finish seq err = some a' := by
  simp only [step] at h
  split at h
  · cases h
  · exact ⟨‹_›, h⟩

/-- A handler goroutine sends its reply only before the process exits. -/
theorem step_deliver {seq : Nat} (h : a.step (.deliver seq) = some a') :
    a.run ≠ .exited ∧ a.deliver seq = some a' := by
  simp only [step] at h
  split at h
  · cases h
  · exact ⟨‹_›, h⟩

/-- `cmdHandler` replies with what `cmdReply` holds only while it waits. -/
theorem step_answer {ok : Bool} (h : a.step (.answer ok) = some a') :
    ∃ q r, a.handler = .waiting q ∧ a.cmdReply = some r ∧ a.run ≠ .exited ∧
      a' = ({ a with handler := .idle, cmdReply := none } : Agent).reply r ok := by
  simp only [step] at h
  split at h
  · rename_i q r hh hr
    split at h
    · cases h
    · cases h; exact ⟨q, r, hh, hr, ‹_›, rfl⟩
  · cases h

/-- `statusHandler` answers the head of `statusChan` while it runs. -/
theorem step_status (h : a.step .status = some a') :
    ∃ q rest, a.statusChan = q :: rest ∧ a.run ≠ .exited ∧ a.statusRunning = true ∧
      a' = { a with statusChan := rest, sent := a.sent ++ [a.statusReply q] } := by
  simp only [step] at h
  split at h
  · rename_i q rest hq
    split at h
    · cases h
    · rename_i hr
      cases h
      simp only [Bool.not_eq_true', not_or, Bool.not_eq_false] at hr
      exact ⟨q, rest, hq, hr.1, hr.2, rfl⟩
  · cases h

/-- `stop()` stops `cmdHandler` at its `select`. -/
theorem step_stopCmdHandler (h : a.step .stopCmdHandler = some a') :
    ∃ q, a.run = .stopCmdHandler q ∧ a.handler = .idle ∧
      a' = { a with run := .stopStatusHandler q, handler := .stopped } := by
  simp only [step] at h
  split at h
  · cases h; exact ⟨_, ‹_›, ‹_›, rfl⟩
  · cases h

/-- `stop()` stops `statusHandler`. -/
theorem step_stopStatusHandler (h : a.step .stopStatusHandler = some a') :
    ∃ q, a.run = .stopStatusHandler q ∧ a.statusRunning = true ∧
      a' = { a with run := .stopReply q, statusRunning := false } := by
  simp only [step] at h
  split at h
  · split at h
    · cases h; exact ⟨_, ‹_›, ‹_›, rfl⟩
    · cases h
  · cases h

/-- A handler goroutine that returns is one of those alive and still running; it keeps
its reply. -/
theorem finish_some {seq : Nat} {err : Option String} (h : a.finish seq err = some a') :
    ∃ w ∈ a.workers, w.q.seq = seq ∧ w.reply = none ∧
      a' = { a with workers := a.workers.map fun w' =>
        if w' = w then { w with reply := some (a.handlerReply w.q err) } else w' } := by
  unfold finish at h
  split at h
  · rename_i w hw
    cases h
    have hp := List.find?_some hw
    simp only [decide_eq_true_eq] at hp
    exact ⟨w, List.mem_of_find?_eq_some hw, hp.1, hp.2, rfl⟩
  · cases h

/-- A handler goroutine sends its reply on an empty `cmdReply`, and ends. -/
theorem deliver_some {seq : Nat} (h : a.deliver seq = some a') :
    ∃ w ∈ a.workers, w.q.seq = seq ∧ w.reply.isSome ∧ a.cmdReply = none ∧
      a' = { a with cmdReply := w.reply, workers := a.workers.erase w } := by
  unfold deliver at h
  split at h
  · rename_i w hw hr
    cases h
    have hp := List.find?_some hw
    simp only [decide_eq_true_eq] at hp
    exact ⟨w, List.mem_of_find?_eq_some hw, hp.1, hp.2, hr, rfl⟩
  · cases h

/-- `stop()` ends with the reply to `Stop`, and `Run` returns. -/
theorem step_stopReply {ok : Bool} (h : a.step (.stopReply ok) = some a') :
    ∃ q, a.run = .stopReply q ∧ a' = { a.reply (q.reply none) ok with run := .exited } := by
  simp only [step] at h
  split at h
  · cases h; exact ⟨_, ‹_›, rfl⟩
  · cases h

end

/-- `a'` agrees with `a` on what `Run`'s `RecvChan` case does not touch: `cmdHandler`,
the handler goroutines, `cmdReply` and `statusHandler`. -/
structure RunFrame (a a' : Agent) : Prop where
  handler : a'.handler = a.handler
  workers : a'.workers = a.workers
  cmdReply : a'.cmdReply = a.cmdReply
  statusRunning : a'.statusRunning = a.statusRunning

theorem RunFrame.trans {a a' a'' : Agent} (h : RunFrame a a') (h' : RunFrame a' a'') :
    RunFrame a a'' :=
  ⟨h'.handler.trans h.handler, h'.workers.trans h.workers, h'.cmdReply.trans h.cmdReply,
    h'.statusRunning.trans h.statusRunning⟩

theorem RunFrame.trans' {a a' a'' : Agent} (h' : RunFrame a' a'') (h : RunFrame a a') :
    RunFrame a a'' :=
  h.trans h'

theorem replyIfErr_frame (a : Agent) (q : Queued) (err : Option String) (oks : List Bool) :
    RunFrame a (a.replyIfErr q err oks).1 := by
  cases err <;> exact ⟨rfl, rfl, rfl, rfl⟩

theorem restart_frame (a : Agent) (q : Queued) (st : RestartSteps) (oks : List Bool) :
    RunFrame a (a.restart q st oks) := by
  unfold restart
  split
  · exact ⟨rfl, rfl, rfl, rfl⟩
  · have h := (replyIfErr_frame a q st.getwdErr oks).trans
      (replyIfErr_frame _ q st.writeErr (a.replyIfErr q st.getwdErr oks).2)
    exact ⟨h.handler, h.workers, h.cmdReply, h.statusRunning⟩

/-- The six ways `Run`'s `RecvChan` case ends for the command `c`, recorded as received:
`Abort` and `Restart`; `Stop`; queued on `statusChan` or `cmdChan`; or replied with a
`QueueFullError`. -/
theorem recv_cases (a : Agent) (c : Cmd) (st : RestartSteps) (oks : List Bool) :
    (c.cmd = "Abort" ∧ a.recv c st oks =
      { a with
        received := a.received ++ [c], run := .exited
        silent := a.silent ++ [⟨a.received.length, c⟩] }) ∨
    (c.cmd = "Restart" ∧ a.recv c st oks =
      restart { a with received := a.received ++ [c] } ⟨a.received.length, c⟩ st oks) ∨
    a.recv c st oks =
      { a with received := a.received ++ [c], run := .stopCmdHandler ⟨a.received.length, c⟩ } ∨
    a.recv c st oks =
      { a with
        received := a.received ++ [c]
        statusChan := a.statusChan ++ [⟨a.received.length, c⟩] } ∨
    a.recv c st oks =
      { a with received := a.received ++ [c], cmdChan := a.cmdChan ++ [⟨a.received.length, c⟩] } ∨
    ∃ e, a.recv c st oks = reply { a with received := a.received ++ [c] }
      (Queued.reply ⟨a.received.length, c⟩ (some e)) (oks.headD true) := by
  unfold recv
  by_cases h₁ : c.cmd = "Abort"
  · exact .inl ⟨h₁, if_pos h₁⟩
  rw [if_neg h₁]
  by_cases h₂ : c.cmd = "Restart"
  · exact .inr (.inl ⟨h₂, if_pos h₂⟩)
  rw [if_neg h₂]
  by_cases h₃ : c.cmd = "Stop"
  · exact .inr (.inr (.inl (if_pos h₃)))
  rw [if_neg h₃]
  refine .inr (.inr (.inr ?_))
  by_cases h₄ : c.cmd = "Status"
  · rw [if_pos h₄]
    split
    · exact .inl rfl
    · exact .inr (.inr ⟨_, rfl⟩)
  · rw [if_neg h₄]
    split
    · exact .inr (.inl rfl)
    · exact .inr (.inr ⟨_, rfl⟩)

/-- `Run`'s `RecvChan` case leaves `cmdHandler`, the handler goroutines, `cmdReply` and
`statusHandler` as they were. -/
theorem recv_frame (a : Agent) (c : Cmd) (st : RestartSteps) (oks : List Bool) :
    RunFrame a (a.recv c st oks) := by
  rcases recv_cases a c st oks with ⟨-, h⟩ | ⟨-, h⟩ | h | h | h | ⟨e, h⟩ <;> rw [h]
  · exact ⟨rfl, rfl, rfl, rfl⟩
  · exact (restart_frame _ _ st oks).trans' ⟨rfl, rfl, rfl, rfl⟩
  all_goals exact ⟨rfl, rfl, rfl, rfl⟩

/-- A run: the events in order, `none` as soon as one is not enabled. -/
def runs (a : Agent) : List Event → Option Agent
  | [] => some a
  | ev :: evs => (a.step ev).bind fun a' => a'.runs evs

/-- What every step of a kind keeps holds along every run of such steps. -/
theorem runs_inv (P : Agent → Prop) (Q : Event → Prop)
    (hstep : ∀ {a a' : Agent} {ev : Event}, P a → Q ev → a.step ev = some a' → P a') :
    ∀ {a a' : Agent} {evs : List Event}, P a → (∀ ev ∈ evs, Q ev) → a.runs evs = some a' →
      P a'
  | _, _, [], h, _, ha => by cases ha; exact h
  | _, _, ev :: _, h, hev, ha => by
    simp only [runs, Option.bind_eq_some] at ha
    obtain ⟨a₁, h₁, h₂⟩ := ha
    exact runs_inv P Q hstep (hstep h (hev ev (.head _)) h₁) (fun ev' h' => hev ev' (.tail _ h')) h₂

end Agent

/-- The states some run reaches from the start of `Run`. -/
inductive Reachable (services : List String) : Agent → Prop
  | init : Reachable services (Agent.init services)
  | step {a a' : Agent} (ev : Event) : Reachable services a → a.step ev = some a' →
      Reachable services a'

/-- Every state a run reaches from a reachable state is reachable. -/
theorem Reachable.runs {services : List String} {a a' : Agent} (h : Reachable services a) :
    ∀ {evs : List Event}, a.runs evs = some a' → Reachable services a' := fun ha =>
  Agent.runs_inv (Reachable services) (fun _ => True) (fun h _ hs => .step _ h hs) h
    (fun _ _ => trivial) ha

/-- A run from the start of `Run` that ends where `p` holds reaches a state where `p`
holds. -/
theorem Reachable.exists_of_runs (services : List String) (evs : List Event)
    (p : Agent → Bool) (hp : ((Agent.init services).runs evs).map p = some true) :
    ∃ a, Reachable services a ∧ p a = true := by
  cases ha : (Agent.init services).runs evs with
  | none => simp [ha] at hp
  | some a => exact ⟨a, Reachable.init.runs ha, by simpa [ha] using hp⟩

end PerconaAgent.Supervisor
