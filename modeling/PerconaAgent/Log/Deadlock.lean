import PerconaAgent.Log.Relay

/-!
# `PerconaAgent.Log.Deadlock`: `internal` blocks `Run` on its own channel

`internal` sends the relay's own warning on `logChan` with a plain channel send, and `Run`
is the only receiver of `logChan`. `Run` calls it on every connect-state change, on an
invalid log level and on a log file it cannot open. When `logChan` is full at that moment,
`Run` waits for itself.

* `step_eq_none_of_blocked`: once `Run` waits in `internal` on a full `logChan`, no event
  is enabled. `Run` is not at its `select`, a producer's send waits for room, and room
  comes only from a receive of `Run`.
* `run_eq_none_of_blocked`: no run from such a state takes a single step. The relay and
  every logger that sends to it are stopped for good.
* `run_produce`: while `Run` does not select, producers fill `logChan`.
* `internal_deadlocks`: for every level numbering, every entry and every outcome of the
  sends, a reachable state has `Run` in `internal` with `logChan` full: thirty entries
  queued when the connect event is selected. A `select` with several ready cases may
  take any of them, so this order is one Go allows.
-/

set_option autoImplicit false

namespace PerconaAgent.Log

section
variable (lv : Levels)

/-- `Run` blocked in `internal` on a full `logChan` enables no event. -/
theorem step_eq_none_of_blocked (r : Relay) (hpc : r.pc ≠ .select)
    (hfull : logChanSize ≤ r.logChan.length) (ev : Event) : r.step lv ev = none := by
  have hroom : ¬ r.logChan.length < logChanSize := Nat.not_lt.mpr hfull
  cases ev with
  | produce e => simp [Relay.step, hroom]
  | unblock => cases h : r.pc <;> simp [Relay.step, h, hroom]
  | _ => simp [Relay.step, hpc]

/-- From a state where `Run` is blocked in `internal` on a full `logChan`, no run takes a
step. -/
theorem run_eq_none_of_blocked (r : Relay) (hpc : r.pc ≠ .select)
    (hfull : logChanSize ≤ r.logChan.length) :
    ∀ evs : List Event, evs ≠ [] → r.run lv evs = none
  | [], h => absurd rfl h
  | ev :: _, _ => by simp [Relay.run, step_eq_none_of_blocked lv r hpc hfull ev]

/-- `n` producer sends of `e` queue `n` copies of `e` while there is room for them. -/
theorem run_produce (e : LogEntry) :
    ∀ (n : Nat) (r : Relay), r.logChan.length + n ≤ logChanSize →
      r.run lv (List.replicate n (.produce e))
        = some { r with logChan := r.logChan ++ List.replicate n e }
  | 0, r, _ => by simp [Relay.run]
  | n + 1, r, h => by
    have hroom : r.logChan.length < logChanSize := by omega
    simp only [List.replicate_succ, Relay.run, Relay.step, hroom, if_true, Option.some_bind]
    rw [run_produce e n _ (by simp only [List.length_append, List.length_singleton]; omega)]
    simp

/-- A connect event selected while `logChan` is full leaves `Run` blocked in `internal`,
whatever the new state and the outcomes of the sends. -/
theorem step_connect_of_full (r : Relay) (c : Bool) (oks : List Bool) (hpc : r.pc = .select)
    (hfull : r.logChan.length = logChanSize) :
    ∃ r', r.step lv (.connect c oks) = some r' ∧ r'.pc ≠ .select ∧ r'.logChan = r.logChan := by
  simp [Relay.step, Relay.select, Relay.internal, hpc, hfull]

/-- A reachable state has `Run` blocked in `internal` with `logChan` full, and no run from
it takes a step: a relay started without a log file, thirty queued entries, then a
connect event. -/
theorem internal_deadlocks (e : LogEntry) (oks : List Bool) :
    ∃ r, Reachable lv r ∧ r.pc ≠ .select ∧ r.logChan.length = logChanSize ∧
      ∀ evs : List Event, evs ≠ [] → r.run lv evs = none := by
  obtain ⟨r₁, hfill, hpc₁, hlen₁⟩ : ∃ r₁, (Relay.start lv "" 0 false none).run lv
      (List.replicate logChanSize (.produce e)) = some r₁ ∧
      r₁.pc = .select ∧ r₁.logChan.length = logChanSize :=
    ⟨_, run_produce lv e logChanSize _ (by simp [Relay.start, Relay.setLogFile]),
      by simp [Relay.start, Relay.setLogFile], by simp [Relay.start, Relay.setLogFile]⟩
  obtain ⟨r, hstep, hpc, hchan⟩ := step_connect_of_full lv r₁ true oks hpc₁ hlen₁
  have hlen : r.logChan.length = logChanSize := hchan ▸ hlen₁
  exact ⟨r, ((Reachable.start "" 0 false none).run lv hfill).step _ hstep, hpc, hlen,
    run_eq_none_of_blocked lv r hpc hlen.ge⟩

end

end PerconaAgent.Log
