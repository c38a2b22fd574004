import PerconaAgent.Qan.Manager

/-!
# `PerconaAgent.Qan.Holdings`: what the manager holds while it runs

`start` subscribes at the MRM monitor before it configures MySQL, and returns the error of
`configureMySQL` with the subscription still registered and `running` false. `Stop` then
does nothing, and every retry adds a subscription. `Handle(StartService)` sets `running`
before it writes `qan.conf`, and replies with the error of `WriteConfig` while qan runs.

* `start_leaks_subscription`: two `StartService`s whose `Connect` fails leave qan stopped
  with two MRM subscriptions; and a `StartService` whose `WriteConfig` fails replies with
  an error and leaves qan running.
* `holdings_follow_running`: in a run where `configureMySQL` never fails inside `start`,
  the manager holds, after every call, exactly one MRM subscription (for its DSN and
  `restartChan`), one clock subscription of `tickChan`, one started iterator and one
  goroutine of `run` while `running`, and none of them otherwise; and a `StartService`
  replies with an error only when it changed none of these, or when `WriteConfig` failed
  with qan running.

`Manager.Holdings` is the invariant. The steps of `run` and of the workers touch none of
it.
-/

set_option autoImplicit false

namespace PerconaAgent.Qan

/-- `configureMySQL` does not fail inside the `start` of the event. -/
def Event.configureOk : Event → Bool
  | .start _ st | .handle (.startService _ st _) =>
    (Manager.configureMySQL st.connectErr st.setErr).isNone
  | _ => true

namespace Manager

/-- What a running manager holds, with `running`: the MRM subscriptions, the clock
subscriptions of `tickChan`, the iterators started and the goroutines of `run`. -/
def holdings (m : Manager) : Bool × List (String × Nat) × Nat × Nat × List Config :=
  (m.running, m.subscriptions, m.clockSubs, m.iters, m.parsers)

/-- While `running`, one MRM subscription (for `dsn` and `restartChan`), one clock
subscription, one iterator and one goroutine of `run`; otherwise none. -/
structure Holdings (m : Manager) : Prop where
  running : m.running = true → m.subscriptions = [(m.dsn, m.restartChan)] ∧
    m.clockSubs = 1 ∧ m.iters = 1 ∧ m.parsers.length = 1
  stopped : m.running = false → m.subscriptions = [] ∧ m.clockSubs = 0 ∧ m.iters = 0 ∧
    m.parsers = []

/-- `startAndRun` on a stopped manager, with `configureMySQL` succeeding, keeps
`Holdings`. -/
theorem Holdings.startAndRun {m : Manager} (h : m.Holdings) (hr : m.running = false)
    (config : Config) (st : StartSteps) (hc : configureMySQL st.connectErr st.setErr = none) :
    (m.startAndRun config st).Holdings := by
  obtain ⟨hs, hcl, hi, hp⟩ := h.stopped hr
  rcases startAndRun_cases m config st with he | he | ⟨hc', -⟩ | ⟨c, -, -, he⟩
  · rw [he]; exact h
  · rw [he]; exact ⟨fun ht => absurd ht (by simp [hr]), fun _ => ⟨hs, hcl, hi, hp⟩⟩
  · exact absurd hc hc'
  · rw [he]
    refine ⟨fun _ => ?_, fun hf => (by cases hf)⟩
    simp [launch, subscribe, hs, hcl, hi, hp]

/-- `Stop` keeps `Holdings`: `stop` gives back everything a running manager holds. -/
theorem Holdings.Stop {m : Manager} (h : m.Holdings) : m.Stop.Holdings := by
  unfold Manager.Stop
  split
  · rename_i hr
    obtain ⟨hs, hcl, hi, hp⟩ := h.running hr
    refine ⟨fun ht => (by cases ht), fun _ => ?_⟩
    simp [stop, hs, hi]
  · exact h

/-- Every step whose `start`, if any, does not fail in `configureMySQL` keeps
`Holdings`. -/
theorem Holdings.step {m m' : Manager} {ev : Event} (h : m.Holdings) (hev : ev.configureOk)
    (hs : m.step ev = some m') : m'.Holdings := by
  cases ev with
  | start read st =>
    cases hs
    rcases Start_eq m read st with he | ⟨-, config₁, -, hr, -, he⟩ <;> rw [he]
    · exact h
    · exact h.startAndRun hr config₁ st (by simpa [Event.configureOk] using hev)
  | stop => cases hs; exact h.Stop
  | handle cmd =>
    cases hs
    rcases Handle_eq m cmd with he | he | ⟨config, st, writeErr, rfl, hr, he⟩ <;> rw [he]
    · exact h
    · exact h.Stop
    · exact h.startAndRun hr config st (by simpa [Event.configureOk] using hev)
  | interval interval rot =>
    obtain ⟨config, -, -, rfl⟩ := step_interval hs
    rcases runInterval_cases m config interval rot with he | ⟨-, logs, iv, he⟩ <;> rw [he]
    · exact h
    · exact ⟨h.running, h.stopped⟩
  | finish w =>
    obtain ⟨-, -, rfl⟩ := finish_eq hs
    exact ⟨h.running, h.stopped⟩
  | workerDone oks =>
    obtain ⟨config, -, w, rest, -, -, rfl⟩ := step_workerDone hs
    obtain ⟨logs, removed, he⟩ := runWorkerDone_eq { m with workerDoneChan := rest } config w oks
    rw [he]
    exact ⟨h.running, h.stopped⟩

/-- `Holdings` holds along every run whose `start`s do not fail in `configureMySQL`. -/
theorem Holdings.runs {m m' : Manager} (h : m.Holdings) :
    ∀ {evs : List Event}, (∀ ev ∈ evs, ev.configureOk) → m.runs evs = some m' → m'.Holdings :=
  runs_inv Holdings (fun ev => ev.configureOk = true) (fun h hev hs => h.step hev hs) h

/-- A `StartService` whose `configureMySQL` succeeds replies with an error only when it
changed nothing the manager holds, or when `WriteConfig` failed after qan started. -/
theorem Handle_startService_error (m : Manager) (data : Except String Config)
    (st : StartSteps) (writeErr : Option String)
    (hc : configureMySQL st.connectErr st.setErr = none)
    (herr : (m.Handle (.startService data st writeErr)).2 ≠ []) :
    (m.Handle (.startService data st writeErr)).1.holdings = m.holdings ∨
      (writeErr.isSome ∧ (m.Handle (.startService data st writeErr)).1.running = true) := by
  dsimp only [Handle] at herr ⊢
  by_cases hr : m.running = true
  · rw [if_pos hr]; exact .inl rfl
  · rw [if_neg hr] at herr ⊢
    rcases data with e | config
    · exact .inl rfl
    · dsimp only at herr ⊢
      rcases start_cases m config st with ⟨e, he⟩ | ⟨e, he⟩ | ⟨e, hc', -⟩ | ⟨c, -, -, he⟩
      · rw [he]; exact .inl rfl
      · rw [he]; exact .inl rfl
      · rw [hc] at hc'; cases hc'
      · rw [he] at herr ⊢
        cases writeErr
        · exact absurd rfl herr
        · exact .inr ⟨rfl, rfl⟩

end Manager

/-- In a run where `configureMySQL` never fails inside `start`, after every call the
manager holds one MRM subscription (for its DSN and `restartChan`), one clock subscription
of `tickChan`, one started iterator and one goroutine of `run` while `running`, and none of
them otherwise; and the next `StartService` replies with an error only when it leaves
these as they were, or when `WriteConfig` fails with qan running. -/
theorem holdings_follow_running (evs : List Event) (hev : ∀ ev ∈ evs, ev.configureOk)
    (m : Manager) (hm : Manager.NewManager.runs evs = some m) :
    (m.running = true → m.subscriptions = [(m.dsn, m.restartChan)] ∧ m.clockSubs = 1 ∧
      m.iters = 1 ∧ m.parsers.length = 1) ∧
    (m.running = false → m.subscriptions = [] ∧ m.clockSubs = 0 ∧ m.iters = 0 ∧
      m.parsers = []) ∧
    ∀ (data : Except String Config) (st : StartSteps) (writeErr : Option String),
      Manager.configureMySQL st.connectErr st.setErr = none →
      (m.Handle (.startService data st writeErr)).2 ≠ [] →
      (m.Handle (.startService data st writeErr)).1.holdings = m.holdings ∨
        (writeErr.isSome ∧ (m.Handle (.startService data st writeErr)).1.running = true) := by
  have h : m.Holdings :=
    Manager.Holdings.runs ⟨fun hr => (by cases hr), fun _ => ⟨rfl, rfl, rfl, rfl⟩⟩ hev hm
  exact ⟨h.running, h.stopped, Manager.Handle_startService_error m⟩

/-- A `StartService` whose `WriteConfig` fails, then `StopService`. -/
def holdingsRun : List Event :=
  [.handle (.startService (.ok slowLogConfig) okSteps (some "qan.conf: permission denied")),
    .handle (.stopService none none)]

/-- `holdings_follow_running` on `holdingsRun`. -/
theorem holdingsRun_holdings :
    ∃ m, Manager.NewManager.runs holdingsRun = some m ∧
      (m.running = true → m.subscriptions = [(m.dsn, m.restartChan)] ∧ m.clockSubs = 1 ∧
        m.iters = 1 ∧ m.parsers.length = 1) ∧
      (m.running = false → m.subscriptions = [] ∧ m.clockSubs = 0 ∧ m.iters = 0 ∧
        m.parsers = []) ∧
      ∀ (data : Except String Config) (st : StartSteps) (writeErr : Option String),
        Manager.configureMySQL st.connectErr st.setErr = none →
        (m.Handle (.startService data st writeErr)).2 ≠ [] →
        (m.Handle (.startService data st writeErr)).1.holdings = m.holdings ∨
          (writeErr.isSome ∧ (m.Handle (.startService data st writeErr)).1.running = true) := by
  obtain ⟨m, hm⟩ : ∃ m, Manager.NewManager.runs holdingsRun = some m := ⟨_, rfl⟩
  exact ⟨m, hm, holdings_follow_running holdingsRun (by decide) m hm⟩

/-- The steps of `start` up to `Connect`, which is refused. -/
def refusedSteps : StartSteps :=
  { okSteps with connectErr := some "dial tcp 127.0.0.1:3306: connect: connection refused" }

/-- Two `StartService`s whose `Connect` is refused. -/
def retryRun : List Event :=
  [.handle (.startService (.ok slowLogConfig) refusedSteps none),
    .handle (.startService (.ok slowLogConfig) refusedSteps none)]

/-- A reachable state where qan is stopped and holds two MRM subscriptions; and a
reachable state where `StartService` replies with an error and leaves qan running. -/
theorem start_leaks_subscription :
    (∃ m, Reachable m ∧ m.running = false ∧ m.subscriptions.length = 2) ∧
    ∃ m, Reachable m ∧ m.running = false ∧
      (m.Handle (.startService (.ok slowLogConfig) okSteps (some "qan.conf: permission denied"))).2
        ≠ [] ∧
      (m.Handle (.startService (.ok slowLogConfig) okSteps
        (some "qan.conf: permission denied"))).1.running = true := by
  refine ⟨?_, Manager.NewManager, .init, rfl, by decide, rfl⟩
  obtain ⟨m, hm, hp⟩ := Reachable.exists_of_runs retryRun
    (fun m => decide (m.running = false ∧ m.subscriptions.length = 2)) (by decide)
  exact ⟨m, hm, of_decide_eq_true hp⟩

end PerconaAgent.Qan
