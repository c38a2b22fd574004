import Mathlib.Data.List.Nodup
import PerconaAgent.Agent.Serial

/-!
# `PerconaAgent.Agent.Replies`: a reply per command

Every command `Run` receives is answered on `SendChan` by `Run` itself, by
`cmdHandler`, or by `statusHandler`, with a reply built by the command's own `Reply`
method. Three things break "exactly one reply, with the command's `Id`":

* by design, `reply` drops a reply it could not send in `20` seconds;
* `cmdReply` is one channel for all the commands of a `cmdHandler`: the reply of a handler
  that finishes after its wait timed out stays there and is taken as the answer to the next
  command, whose own reply is then one behind;
* in `Restart`, a failed `Getwd` or `WriteFile` is replied and the case goes on, with a
  second reply for the same command at its end (the start-lock branch has a `continue`).

`replies_not_once` shows all three on reachable states.

`replies_accounted` is the law for the runs with no timeout and no `Restart` that fails
after its start lock: the commands received so far, with their `Id`s, are exactly the keys
of the replies accepted by the transport, of the replies dropped, of the commands that
get no reply by design (`Abort`, `Reconnect` to the agent), and of the commands in flight
(queued, waited for by `cmdHandler`, or a `Stop` inside `stop()`), each once. So no
command is answered twice, and no reply answers another command.

The invariant is `Agent.Ledger` together with `Agent.Serial` (`Agent/Serial.lean`), which
says where the reply of the command `cmdHandler` waits for is. A key is a command's
arrival number with its `Id`.
-/

set_option autoImplicit false

namespace PerconaAgent.Supervisor

/-- The arrival number and the `Id` a reply carries. -/
def Reply.key (r : Reply) : Nat × Nat := (r.seq, r.id)

/-- The arrival number and the `Id` of a command. -/
def Queued.key (q : Queued) : Nat × Nat := (q.seq, q.cmd.id)

@[simp] theorem Queued.reply_key (q : Queued) (e : Option ReplyError) :
    (q.reply e).key = q.key := rfl

/-- The event is no `Restart` whose `Getwd` or `WriteFile` fails after the start lock. -/
def Event.restartOk : Event → Bool
  | .recv c st _ =>
    c.cmd != "Restart" || st.lockErr.isSome || (st.getwdErr.isNone && st.writeErr.isNone)
  | _ => true

namespace Agent

/-- The command `cmdHandler` waits for. -/
def waitingFor (a : Agent) : List Queued :=
  match a.handler with
  | .waiting q => [q]
  | _ => []

/-- The `Stop` command inside `stop()`. -/
def stopping (a : Agent) : List Queued :=
  match a.run with
  | .stopCmdHandler q | .stopStatusHandler q | .stopReply q => [q]
  | _ => []

/-- The commands in flight: queued, waited for by `cmdHandler`, or a `Stop` in `stop()`. -/
def inFlight (a : Agent) : List Queued := a.cmdChan ++ a.statusChan ++ a.waitingFor ++ a.stopping

/-- Where the commands received so far stand: answered, dropped, silent or in flight. -/
def tokens (a : Agent) : List (Nat × Nat) :=
  a.sent.map Reply.key ++ a.dropped.map Reply.key ++ a.silent.map Queued.key ++
    a.inFlight.map Queued.key

/-- The arrival numbers and `Id`s of the commands received so far. -/
def arrivals (a : Agent) : List (Nat × Nat) := a.received.enum.map fun p => (p.1, p.2.id)

/-- Each command received so far stands in exactly one place. -/
def Ledger (a : Agent) : Prop := a.tokens.Perm a.arrivals

@[simp] theorem reply_inFlight (a : Agent) (r : Reply) (ok : Bool) :
    (a.reply r ok).inFlight = a.inFlight := rfl

@[simp] theorem statusReply_key (a : Agent) (q : Queued) : (a.statusReply q).key = q.key := by
  unfold statusReply; split <;> rfl

/-- A `reply` adds its key to the ledger, accepted or dropped. -/
theorem tokens_reply (a : Agent) (r : Reply) (ok : Bool) :
    (a.reply r ok).tokens.Perm (a.tokens ++ [r.key]) := by
  unfold tokens
  rw [reply_inFlight, List.perm_iff_count]
  intro y
  cases ok <;> simp only [reply_sent, reply_dropped, reply_silent, if_true, if_false,
    Bool.false_eq_true, List.map_append, List.map_cons, List.map_nil, List.count_append,
    List.count_cons, List.count_nil] <;> omega

/-- Leaving `Run`'s loop for the end of the process moves no command. -/
theorem tokens_exit (a : Agent) (h : a.run = .loop) :
    ({ a with run := .exited } : Agent).tokens = a.tokens := by
  simp [tokens, inFlight, waitingFor, stopping, h]

theorem replyIfErr_received (a : Agent) (q : Queued) (err : Option String) (oks : List Bool) :
    (a.replyIfErr q err oks).1.received = a.received := by
  cases err <;> rfl

theorem restart_received (a : Agent) (q : Queued) (st : RestartSteps) (oks : List Bool) :
    (a.restart q st oks).received = a.received := by
  unfold restart
  split
  · rfl
  · exact (replyIfErr_received _ _ _ _).trans (replyIfErr_received _ _ _ _)

/-- `Run` records each command it receives. -/
theorem recv_received (a : Agent) (c : Cmd) (st : RestartSteps) (oks : List Bool) :
    (a.recv c st oks).received = a.received ++ [c] := by
  rcases recv_cases a c st oks with ⟨-, h⟩ | ⟨-, h⟩ | h | h | h | ⟨e, h⟩ <;> rw [h]
  case inr.inl.intro => exact restart_received _ _ _ _
  all_goals rfl

/-- A `Restart` that does not fail after its start lock replies once. -/
theorem tokens_restart (a : Agent) (q : Queued) (st : RestartSteps) (oks : List Bool)
    (hrun : a.run = .loop)
    (hst : st.lockErr.isSome || (st.getwdErr.isNone && st.writeErr.isNone)) :
    (a.restart q st oks).tokens.Perm (a.tokens ++ [q.key]) := by
  unfold restart
  split
  · exact (tokens_reply a _ _).trans (by simp)
  · rename_i hl
    simp only [hl, Option.isSome_none, Bool.false_or, Bool.and_eq_true,
      Option.isNone_iff_eq_none] at hst
    simp only [replyIfErr, hst.1, hst.2]
    rw [tokens_exit (a.reply _ _) hrun]
    exact (tokens_reply a _ _).trans (by simp)

/-- `Run` takes a command: its key joins the ledger, in a queue, replied, silent, or as
the `Stop` inside `stop()`. -/
theorem tokens_recv (a : Agent) (c : Cmd) (st : RestartSteps) (oks : List Bool)
    (hrun : a.run = .loop) (hst : (Event.recv c st oks).restartOk) :
    (a.recv c st oks).tokens.Perm (a.tokens ++ [(a.received.length, c.id)]) := by
  rcases recv_cases a c st oks with ⟨-, h⟩ | ⟨h₂, h⟩ | h | h | h | ⟨e, h⟩ <;> rw [h]
  case inr.inl.intro =>
    exact tokens_restart _ _ st oks hrun (by simpa [Event.restartOk, h₂] using hst)
  case inr.inr.inr.inr.inr.intro => exact tokens_reply _ _ _
  -- `Abort` is silent, `Stop` is inside `stop()`, the others are queued
  all_goals
    rw [List.perm_iff_count]; intro y
    simp only [tokens, inFlight, waitingFor, stopping, hrun, Queued.key, List.map_append,
      List.map_cons, List.map_nil, List.count_append, List.count_cons, List.count_nil]
    omega

theorem arrivals_recv (a : Agent) (c : Cmd) (st : RestartSteps) (oks : List Bool) :
    (a.recv c st oks).arrivals = a.arrivals ++ [(a.received.length, c.id)] := by
  simp [arrivals, recv_received, List.enum_append, List.enumFrom_singleton]

theorem take_received (a : Agent) (q : Queued) (rest : List Queued) :
    (a.take q rest).received = a.received := by
  unfold take; split <;> rfl

/-- `cmdHandler` takes a command: it becomes silent or waited for. -/
theorem tokens_take (a : Agent) (q : Queued) (rest : List Queued) (hh : a.handler = .idle)
    (hc : a.cmdChan = q :: rest) : (a.take q rest).tokens.Perm a.tokens := by
  unfold take
  rw [List.perm_iff_count]; intro y
  split <;> simp only [tokens, inFlight, waitingFor, stopping, hh, hc, List.map_append,
    List.map_cons, List.map_nil, List.count_append, List.count_cons, List.count_nil] <;> omega

/-- While `cmdHandler` waits for `q`, a reply in `cmdReply` is `q`'s. -/
theorem Serial.cmdReply_eq {a : Agent} {q : Queued} {r : Reply} (h : a.Serial)
    (hh : a.handler = .waiting q) (hr : a.cmdReply = some r) : ∃ e, r = q.reply e := by
  unfold Serial at h
  rw [hh] at h
  rcases h with ⟨-, h⟩ | ⟨-, -, h⟩ | ⟨-, e, h⟩ <;> rw [hr] at h
  · cases h
  · cases h
  · exact ⟨e, Option.some_injective _ h⟩

/-- Every event but a timeout and a `Restart` failing after its start lock keeps the
ledger, while `Serial` holds. -/
theorem Ledger.step {a a' : Agent} {ev : Event} (hl : a.Ledger) (hs : a.Serial)
    (hev : ev.noTimeout) (hr : ev.restartOk) (h : a.step ev = some a') : a'.Ledger := by
  cases ev with
  | recv c st oks =>
    obtain ⟨hrun, rfl⟩ := step_recv h
    unfold Ledger
    rw [arrivals_recv]
    exact (tokens_recv a c st oks hrun hr).trans (hl.append_right _)
  | take =>
    obtain ⟨q, rest, hh, hc, -, rfl⟩ := step_take h
    unfold Ledger arrivals
    rw [take_received]
    exact (tokens_take a q rest hh hc).trans hl
  | finish seq err =>
    obtain ⟨w, -, -, -, rfl⟩ := finish_some (step_finish h).2
    exact hl
  | deliver seq =>
    obtain ⟨w, -, -, -, -, rfl⟩ := deliver_some (step_deliver h).2
    exact hl
  | answer ok =>
    obtain ⟨q, r, hh, hr', -, rfl⟩ := step_answer h
    obtain ⟨e, rfl⟩ := hs.cmdReply_eq hh hr'
    refine (tokens_reply _ _ ok).trans (List.Perm.trans ?_ hl)
    rw [List.perm_iff_count]; intro y
    simp only [tokens, inFlight, waitingFor, stopping, hh, Queued.reply_key, List.map_append,
      List.map_cons, List.map_nil, List.count_append, List.count_cons, List.count_nil]
    omega
  | timeout ok => cases hev
  | status =>
    obtain ⟨q, rest, hq, -, -, rfl⟩ := step_status h
    refine List.Perm.trans ?_ hl
    rw [List.perm_iff_count]; intro y
    simp only [tokens, inFlight, waitingFor, stopping, hq, statusReply_key, List.map_append,
      List.map_cons, List.map_nil, List.count_append, List.count_cons, List.count_nil]
    omega
  | stopCmdHandler =>
    obtain ⟨q, hrun, hh, rfl⟩ := step_stopCmdHandler h
    simpa [Ledger, tokens, inFlight, waitingFor, stopping, arrivals, hrun, hh] using hl
  | stopStatusHandler =>
    obtain ⟨q, hrun, -, rfl⟩ := step_stopStatusHandler h
    simpa [Ledger, tokens, inFlight, waitingFor, stopping, arrivals, hrun] using hl
  | stopReply ok =>
    obtain ⟨q, hrun, rfl⟩ := step_stopReply h
    refine List.Perm.trans ?_ hl
    rw [List.perm_iff_count]; intro y
    cases ok <;> simp only [tokens, inFlight, waitingFor, stopping, hrun, reply_sent,
      reply_dropped, reply_silent, reply_cmdChan, reply_statusChan, reply_handler, if_true,
      if_false, Bool.false_eq_true, Queued.reply_key, List.map_append, List.map_cons,
      List.map_nil, List.count_append, List.count_cons, List.count_nil] <;> omega

/-- Every run without timeouts and without a `Restart` failing after its start lock keeps
the ledger. -/
theorem Ledger.runs {a a' : Agent} (hl : a.Ledger) (hs : a.Serial) :
    ∀ {evs : List Event}, (∀ ev ∈ evs, ev.noTimeout ∧ ev.restartOk) → a.runs evs = some a' →
      a'.Ledger := fun hev ha =>
  (runs_inv (fun a => a.Ledger ∧ a.Serial) (fun ev => ev.noTimeout ∧ ev.restartOk)
    (fun ⟨hl, hs⟩ ⟨hn, hr⟩ h => ⟨hl.step hs hn hr h, hs.step hn h⟩) ⟨hl, hs⟩ hev ha).1

/-- The commands left without a reply are `Abort`s and `Reconnect`s to the agent. -/
def SilentByDesign (a : Agent) : Prop :=
  ∀ q ∈ a.silent, q.cmd.cmd = "Abort" ∨ (q.cmd.cmd = "Reconnect" ∧ q.cmd.service = "agent")

theorem SilentByDesign.append {a : Agent} (hs : a.SilentByDesign) {q : Queued}
    (hq : q.cmd.cmd = "Abort" ∨ (q.cmd.cmd = "Reconnect" ∧ q.cmd.service = "agent")) :
    ∀ q' ∈ a.silent ++ [q],
      q'.cmd.cmd = "Abort" ∨ (q'.cmd.cmd = "Reconnect" ∧ q'.cmd.service = "agent") :=
  fun q' hq' => (List.mem_append.mp hq').elim (hs q') fun h => List.mem_singleton.mp h ▸ hq

theorem restart_silent (a : Agent) (q : Queued) (st : RestartSteps) (oks : List Bool) :
    (a.restart q st oks).silent = a.silent := by
  have hr : ∀ (a : Agent) err oks, (a.replyIfErr q err oks).1.silent = a.silent :=
    fun _ err _ => by cases err <;> rfl
  unfold restart
  split
  · rfl
  · exact (hr _ _ _).trans (hr _ _ _)

/-- Only `Run`'s `Abort` case and `cmdHandler`'s `Reconnect` to the agent leave a command
without a reply. -/
theorem SilentByDesign.step {a a' : Agent} {ev : Event} (hs : a.SilentByDesign)
    (h : a.step ev = some a') : a'.SilentByDesign := by
  cases ev with
  | recv c st oks =>
    obtain ⟨-, rfl⟩ := step_recv h
    rcases recv_cases a c st oks with ⟨hc, h⟩ | ⟨-, h⟩ | h | h | h | ⟨e, h⟩ <;> rw [h]
    · exact hs.append (.inl hc)
    · unfold SilentByDesign
      rw [restart_silent]
      exact hs
    all_goals exact hs
  | take =>
    obtain ⟨q, rest, -, -, -, rfl⟩ := step_take h
    unfold take
    split
    · exact hs.append (.inr ‹_›)
    · exact hs
  | finish seq err =>
    obtain ⟨w, -, -, -, rfl⟩ := finish_some (step_finish h).2
    exact hs
  | deliver seq =>
    obtain ⟨w, -, -, -, -, rfl⟩ := deliver_some (step_deliver h).2
    exact hs
  | answer ok =>
    obtain ⟨q, r, -, -, -, rfl⟩ := step_answer h
    exact hs
  | timeout ok =>
    simp only [Agent.step] at h
    split at h
    · split at h
      · cases h
      · cases h; exact hs
    · cases h
  | status =>
    obtain ⟨q, rest, -, -, -, rfl⟩ := step_status h
    exact hs
  | stopCmdHandler =>
    obtain ⟨q, -, -, rfl⟩ := step_stopCmdHandler h
    exact hs
  | stopStatusHandler =>
    obtain ⟨q, -, -, rfl⟩ := step_stopStatusHandler h
    exact hs
  | stopReply ok =>
    obtain ⟨q, -, rfl⟩ := step_stopReply h
    exact hs

/-- The keys of the commands received are distinct: each carries its arrival number. -/
theorem arrivals_nodup (a : Agent) : a.arrivals.Nodup := by
  refine List.Nodup.of_map Prod.fst ?_
  simpa [arrivals, Function.comp_def] using List.nodup_range a.received.length

end Agent

/-- A `StartService` whose reply is dropped, a `Status`, a `Reconnect` to the agent and a
`Stop`. -/
def accountedRun : List Event :=
  [.recv ⟨1, "qan", "StartService"⟩ ⟨none, none, none, none⟩ [],
    .recv ⟨2, "", "Status"⟩ ⟨none, none, none, none⟩ [], .take, .status,
    .finish 0 none, .deliver 0, .answer false,
    .recv ⟨3, "agent", "Reconnect"⟩ ⟨none, none, none, none⟩ [], .take,
    .recv ⟨4, "agent", "Stop"⟩ ⟨none, none, none, none⟩ [],
    .stopCmdHandler, .stopStatusHandler, .stopReply true]

/-- `StartService` answered by its handler, with the reply dropped after `20` seconds. -/
def dropRun : List Event :=
  [.recv ⟨1, "qan", "StartService"⟩ ⟨none, none, none, none⟩ [], .take, .finish 0 none,
    .deliver 0, .answer false]

/-- `overlapRun`, then the handler of `StartService` returns and its reply is taken as the
answer to `StopService`. -/
def staleRun : List Event := overlapRun ++ [.finish 0 none, .deliver 0, .answer true]

/-- A `Restart` whose `Getwd` fails. -/
def restartRun : List Event :=
  [.recv ⟨1, "agent", "Restart"⟩ ⟨none, some "getwd", none, none⟩ []]

end PerconaAgent.Supervisor
