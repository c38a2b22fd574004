import PerconaAgent.Qan.Manager
import PerconaAgent.Mrms.Monitor

/-!
# `PerconaAgent.Qan.Collection`: the server's collection setting under `run`

QAN needs the server to collect: the slow log or the performance schema on. `start` turns
it on with `configureMySQL`, which applies `config.Start`. Two things turn it off while
`run` runs. `rotateSlowLog` applies `config.Stop` before it renames the slow log, and
applies `config.Start` again only after the rename. A restart of the server resets the
setting, and the MRM monitor sends a notification on `restartChan` (capacity `5`, a
non-blocking send); `run`'s restart case then calls `configureMySQL` again. When that call
fails, `run` logs a warning and continues: nothing applies `config.Start` again until the
next restart or the next rotation, and a rotation needs the slow log to grow past
`MaxSlowLogSize`, which it does not while the setting is off.

The model is a `Collector`: the manager of `PerconaAgent.Qan.Manager`, the setting, and
the notifications waiting on `restartChan`. Its steps are the cases of `run` (an interval,
a done signal, a notification), a worker's return, and a restart of the server, which
resets the setting and queues its notification at once. A `Set` or `Connect` that fails
applies nothing. The interval, worker and done-signal steps are those of `Manager.step`
(`step_manager`); the collector adds what they do to the server.

* `enabled_or_notified`: when every rotation that applies `config.Stop` also applies
  `config.Start`, and every `configureMySQL` after a restart succeeds, a run from a state
  where the setting is on or a notification waits (as right after a successful `Start`)
  keeps it so at the end of every step.
* `restart_reconfigure_failure_stops_collection`: without the second condition it fails.
  After a restart whose `configureMySQL` cannot connect, the setting is off with no
  notification waiting, and it stays off on every later run of intervals below
  `MaxSlowLogSize`, done signals and workers returning.

`Collector.step_cases` says what each step does; `Collector.runs_inv` carries a step
invariant over a run.
-/

set_option autoImplicit false

namespace PerconaAgent.Qan

/-- The setting `rotateSlowLog` leaves the server at. `Set(config.Stop)` turns it off; only
a `Set(config.Start)` after a successful rename turns it on again. A call that fails
applies nothing. -/
def RotateSteps.collecting (rot : RotateSteps) (collecting : Bool) : Bool :=
  match rot.connectErr, rot.setStopErr, rot.renameErr, rot.setStartErr with
  | some _, _, _, _ => collecting
  | none, some _, _, _ => collecting
  | none, none, some _, _ => false
  | none, none, none, some _ => false
  | none, none, none, none => true

/-- `run` calls `rotateSlowLog` for the interval: it is not dropped, the config reads the
slow log, and the interval ends at or past `MaxSlowLogSize`. -/
def Manager.rotates (m : Manager) (config : Config) (interval : Interval) : Bool :=
  decide (¬ (m.workers.length : Int) ≥ config.maxWorkers ∧ config.collectFrom = "slowlog" ∧
    interval.endOffset ≥ config.maxSlowLogSize)

/-- The manager, whether the server collects, and the notifications waiting on
`restartChan`. -/
structure Collector where
  m : Manager
  collecting : Bool
  restarts : Nat

/-- The steps while `run` runs: its interval case (with the outcomes of `rotateSlowLog`), a
worker's return, its done-signal case, a restart of the server, and its restart case
(with the errors of `Connect` and `Set(config.Start)` in `configureMySQL`). -/
inductive LoopEvent
  | interval (interval : Interval) (rot : RotateSteps)
  | finish (w : Nat)
  | workerDone (oks : List Bool)
  | mysqlRestart
  | restart (connectErr setErr : Option String)

namespace Collector

/-- One step. -/
def step (c : Collector) : LoopEvent → Option Collector
  | .interval interval rot =>
    match c.m.parsers with
    | config :: _ =>
      some { c with
        m := c.m.runInterval config interval rot
        collecting :=
          if c.m.rotates config interval then rot.collecting c.collecting else c.collecting }
    | [] => none
  | .finish w => (c.m.finish w).map fun m => { c with m }
  | .workerDone oks => (c.m.step (.workerDone oks)).map fun m => { c with m }
  | .mysqlRestart =>
    some { c with
      collecting := false
      restarts := if c.restarts < Mrms.subscriberChanSize then c.restarts + 1 else c.restarts }
  | .restart connectErr setErr =>
    if c.m.parsers ≠ [] ∧ 0 < c.restarts then
      some { c with
        restarts := c.restarts - 1
        collecting := match Manager.configureMySQL connectErr setErr with
          | none => true
          | some _ => c.collecting }
    else none

/-- A run: the events in order, `none` as soon as one is not enabled. -/
def runs (c : Collector) : List LoopEvent → Option Collector
  | [] => some c
  | ev :: evs => (c.step ev).bind fun c' => c'.runs evs

/-- What every step of a kind keeps holds along every run of such steps. -/
theorem runs_inv (P : Collector → Prop) (Q : LoopEvent → Prop)
    (hstep : ∀ {c c' : Collector} {ev : LoopEvent}, P c → Q ev → c.step ev = some c' → P c') :
    ∀ {c c' : Collector} {evs : List LoopEvent}, P c → (∀ ev ∈ evs, Q ev) →
      c.runs evs = some c' → P c'
  | _, _, [], h, _, hc => by cases hc; exact h
  | _, _, ev :: _, h, hev, hc => by
    simp only [runs, Option.bind_eq_some] at hc
    obtain ⟨c₁, h₁, h₂⟩ := hc
    exact runs_inv P Q hstep (hstep h (hev ev (.head _)) h₁) (fun ev' h' => hev ev' (.tail _ h')) h₂

/-- What a step does to the setting and the notifications. An interval needs `run`'s
goroutine and changes the setting only when it rotates; a worker's return and a done
signal change neither; a restart resets the setting and queues a notification while the
channel has room; the restart case takes one notification and turns the setting on when
`configureMySQL` succeeds. -/
theorem step_cases {c c' : Collector} {ev : LoopEvent} (h : c.step ev = some c') :
    (∃ interval rot config rest, ev = .interval interval rot ∧ c.m.parsers = config :: rest ∧
      c'.restarts = c.restarts ∧
      c'.collecting =
        if c.m.rotates config interval then rot.collecting c.collecting else c.collecting) ∨
    ((∃ w, ev = .finish w) ∨ (∃ oks, ev = .workerDone oks)) ∧
      c'.collecting = c.collecting ∧ c'.restarts = c.restarts ∨
    ev = .mysqlRestart ∧ c'.collecting = false ∧
      c'.restarts =
        (if c.restarts < Mrms.subscriberChanSize then c.restarts + 1 else c.restarts) ∨
    (∃ connectErr setErr, ev = .restart connectErr setErr ∧ c.m.parsers ≠ [] ∧
      0 < c.restarts ∧ c'.restarts = c.restarts - 1 ∧
      c'.collecting = match Manager.configureMySQL connectErr setErr with
        | none => true
        | some _ => c.collecting) := by
  cases ev with
  | interval interval rot =>
    simp only [step] at h
    split at h
    · rename_i config rest hp
      cases h
      exact .inl ⟨interval, rot, config, rest, rfl, hp, rfl, rfl⟩
    · cases h
  | finish w =>
    obtain ⟨m, -, rfl⟩ := Option.map_eq_some'.mp h
    exact .inr (.inl ⟨.inl ⟨w, rfl⟩, rfl, rfl⟩)
  | workerDone oks =>
    obtain ⟨m, -, rfl⟩ := Option.map_eq_some'.mp h
    exact .inr (.inl ⟨.inr ⟨oks, rfl⟩, rfl, rfl⟩)
  | mysqlRestart =>
    cases h
    exact .inr (.inr (.inl ⟨rfl, rfl, rfl⟩))
  | restart connectErr setErr =>
    simp only [step] at h
    split at h
    · rename_i hg
      cases h
      exact .inr (.inr (.inr ⟨connectErr, setErr, rfl, hg.1, hg.2, rfl, rfl⟩))
    · cases h

/-- The steps `run` shares with the manager move the manager as `Manager.step` does. -/
theorem step_manager {c c' : Collector} {ev : Event} {loopEv : LoopEvent}
    (hev : (∃ interval rot, ev = .interval interval rot ∧ loopEv = .interval interval rot) ∨
      (∃ w, ev = .finish w ∧ loopEv = .finish w) ∨
      (∃ oks, ev = .workerDone oks ∧ loopEv = .workerDone oks))
    (h : c.step loopEv = some c') : c.m.step ev = some c'.m := by
  rcases hev with ⟨interval, rot, rfl, rfl⟩ | ⟨w, rfl, rfl⟩ | ⟨oks, rfl, rfl⟩
  · simp only [step] at h
    split at h
    · rename_i config rest hp
      cases h
      simp only [Manager.step, hp]
    · cases h
  · obtain ⟨m, hm, rfl⟩ := Option.map_eq_some'.mp h
    exact hm
  · obtain ⟨m, hm, rfl⟩ := Option.map_eq_some'.mp h
    exact hm

end Collector

/-- The collector states of runs of `run` after a successful `Start`: `configureMySQL` has
applied `config.Start` and no notification waits. -/
inductive Collector.Reachable : Collector → Prop
  | start {m : Manager} (read : ReadResult) (st : StartSteps) :
      Qan.Reachable m → m.running = false → (m.Start read st).1.running = true →
      Collector.Reachable ⟨(m.Start read st).1, true, 0⟩
  | step {c c' : Collector} (ev : LoopEvent) :
      Collector.Reachable c → c.step ev = some c' → Collector.Reachable c'

/-- Every state a run reaches from a reachable state is reachable. -/
theorem Collector.Reachable.runs {c c' : Collector} (h : Collector.Reachable c) :
    ∀ {evs : List LoopEvent}, c.runs evs = some c' → Collector.Reachable c' := fun hc =>
  Collector.runs_inv Collector.Reachable (fun _ => True) (fun h _ hs => .step _ h hs) h
    (fun _ _ => trivial) hc

/-- A run from a reachable state that ends where `p` holds reaches a state where `p`
holds. -/
theorem Collector.Reachable.exists_of_runs {c : Collector} (h : Collector.Reachable c)
    (evs : List LoopEvent) (p : Collector → Bool) (hp : (c.runs evs).map p = some true) :
    ∃ c', Collector.Reachable c' ∧ p c' = true := by
  cases hc : c.runs evs with
  | none => simp [hc] at hp
  | some c' => exact ⟨c', h.runs hc, by simpa [hc] using hp⟩

/-- The step leaves an enabled setting enabled: a rotation that applies `config.Stop` also
applies `config.Start`, and `configureMySQL` after a restart succeeds. -/
def LoopEvent.restores : LoopEvent → Bool
  | .interval _ rot => rot.collecting true
  | .restart connectErr setErr => (Manager.configureMySQL connectErr setErr).isNone
  | _ => true

/-- A rotation that leaves an enabled setting enabled never turns it off. -/
theorem RotateSteps.collecting_of_restores {rot : RotateSteps} (hr : rot.collecting true = true)
    (b : Bool) : b = true → rot.collecting b = true := by
  rintro rfl
  exact hr

/-- The setting is on, or a restart notification waits. -/
def Collector.EnabledOrNotified (c : Collector) : Prop := c.collecting = true ∨ 0 < c.restarts

/-- A step that leaves an enabled setting enabled keeps the setting on or a notification
waiting. -/
theorem Collector.EnabledOrNotified.step {c c' : Collector} {ev : LoopEvent}
    (h : c.EnabledOrNotified) (hev : ev.restores) (hs : c.step ev = some c') :
    c'.EnabledOrNotified := by
  unfold Collector.EnabledOrNotified at *
  rcases Collector.step_cases hs with
    ⟨interval, rot, config, rest, rfl, -, hr, hcol⟩ | ⟨-, hcol, hr⟩ | ⟨rfl, -, hr⟩ |
    ⟨connectErr, setErr, rfl, -, hpos, hr, hcol⟩
  · rw [hr, hcol]
    rcases h with h | h
    · left
      split
      · exact RotateSteps.collecting_of_restores hev _ h
      · exact h
    · exact .inr h
  · rw [hr, hcol]; exact h
  · right; rw [hr]; unfold Mrms.subscriberChanSize; split <;> omega
  · left
    simp only [LoopEvent.restores, Option.isNone_iff_eq_none] at hev
    rw [hcol, hev]

/-- When every rotation that applies `config.Stop` also applies `config.Start` and every
`configureMySQL` after a restart succeeds, a run of `run` from a state where the server
collects or a restart notification waits (as after a successful `Start`) keeps it so at
the end of every step. -/
theorem enabled_or_notified (c : Collector) (hc : c.collecting = true ∨ 0 < c.restarts)
    (evs : List LoopEvent) (hev : ∀ ev ∈ evs, ev.restores) (c' : Collector)
    (hrun : c.runs evs = some c') : c'.collecting = true ∨ 0 < c'.restarts :=
  Collector.runs_inv Collector.EnabledOrNotified (fun ev => ev.restores = true)
    (fun h hev hs => h.step hev hs) hc hev hrun

/-- A restart, `run`'s restart case reconfiguring the server, and an interval that ends at
`MaxSlowLogSize` and rotates the slow log. -/
def restoringRun : List LoopEvent :=
  [.mysqlRestart, .restart none none,
    .interval ⟨1, "/var/lib/mysql/slow.log", 0, 1073741824⟩ noRotate]

/-- `enabled_or_notified` after `Start` on `slowLogConfig` from `NewManager`, over
`restoringRun`. -/
theorem restoringRun_enabled_or_notified :
    ∃ c', (⟨(Manager.NewManager.Start (.ok slowLogConfig) okSteps).1, true, 0⟩ : Collector).runs
        restoringRun = some c' ∧ (c'.collecting = true ∨ 0 < c'.restarts) := by
  obtain ⟨c', hc'⟩ : ∃ c', (⟨(Manager.NewManager.Start (.ok slowLogConfig) okSteps).1, true, 0⟩ :
      Collector).runs restoringRun = some c' := ⟨_, rfl⟩
  exact ⟨c', hc', enabled_or_notified _ (.inl rfl) restoringRun (by decide) c' hc'⟩

/-- The steps that cannot turn the setting on: no restart of the server, and every interval
ends below `MaxSlowLogSize` of `config`. -/
def LoopEvent.belowMax (config : Config) : LoopEvent → Bool
  | .interval iv _ => decide (iv.endOffset < config.maxSlowLogSize)
  | .mysqlRestart => false
  | _ => true

/-- With the setting off and no notification waiting, a step below `MaxSlowLogSize` of
`run`'s config leaves both so. -/
theorem Collector.off_step (config : Config) {c c' : Collector} {ev : LoopEvent}
    (h : c.collecting = false ∧ c.restarts = 0 ∧ ∃ rest, c.m.parsers = config :: rest)
    (hev : ev.belowMax config) (hs : c.step ev = some c') :
    c'.collecting = false ∧ c'.restarts = 0 ∧ ∃ rest, c'.m.parsers = config :: rest := by
  obtain ⟨hcol, hr, rest, hp⟩ := h
  rcases Collector.step_cases hs with
    ⟨interval, rot, config', rest', rfl, hp', hr', hcol'⟩ | ⟨hev', hcol', hr'⟩ | ⟨rfl, -, -⟩ |
    ⟨_, _, rfl, -, hpos, -, -⟩
  · obtain ⟨rfl, rfl⟩ := List.cons.inj (hp.symm.trans hp')
    have hnot : c.m.rotates config interval = false := by
      simp only [LoopEvent.belowMax, decide_eq_true_eq] at hev
      simp only [Manager.rotates, decide_eq_false_iff_not]
      rintro ⟨-, -, hge⟩
      omega
    refine ⟨by rw [hcol', hnot, if_neg (by simp), hcol], by rw [hr', hr], ?_⟩
    simp only [Collector.step, hp, Option.some.injEq] at hs
    subst hs
    rcases Manager.runInterval_cases c.m config interval rot with h | ⟨-, _, _, h⟩ <;>
      exact ⟨rest, by rw [h]; exact hp⟩
  · refine ⟨by rw [hcol', hcol], by rw [hr', hr], rest, ?_⟩
    rcases hev' with ⟨w, rfl⟩ | ⟨oks, rfl⟩
    · obtain ⟨m, hm, rfl⟩ := Option.map_eq_some'.mp hs
      rw [(Manager.finish_eq hm).2.2]; exact hp
    · obtain ⟨m, hm, rfl⟩ := Option.map_eq_some'.mp hs
      obtain ⟨config', rest', w, ws, -, -, rfl⟩ := Manager.step_workerDone hm
      obtain ⟨logs, removed, h⟩ := Manager.runWorkerDone_eq { c.m with workerDoneChan := ws }
        config' w oks
      rw [h]; exact hp
  · cases hev
  · omega

/-- The rest of `run` after a successful `Start` on `slowLogConfig`: a restart of the
server, and `run`'s restart case failing to connect. -/
def restartFailRun : List LoopEvent :=
  [.mysqlRestart, .restart (some "dial tcp 127.0.0.1:3306: connect: connection refused") none]

/-- After a restart whose `configureMySQL` cannot connect, the server does not collect and
no notification waits; every later run of intervals below `MaxSlowLogSize`, done signals
and workers returning leaves it so. No tick retries `configureMySQL`. -/
theorem restart_reconfigure_failure_stops_collection :
    ∃ c, Collector.Reachable c ∧ c.collecting = false ∧ c.restarts = 0 ∧
      ∀ (evs : List LoopEvent) (c' : Collector), (∀ ev ∈ evs, ev.belowMax slowLogConfig) →
        c.runs evs = some c' → c'.collecting = false ∧ c'.restarts = 0 := by
  have h₀ : Collector.Reachable ⟨(Manager.NewManager.Start (.ok slowLogConfig) okSteps).1, true, 0⟩ :=
    .start (.ok slowLogConfig) okSteps .init rfl rfl
  obtain ⟨c, hc, hp⟩ := h₀.exists_of_runs restartFailRun
    (fun c => decide (c.collecting = false ∧ c.restarts = 0 ∧ c.m.parsers = [slowLogConfig]))
    (by decide)
  obtain ⟨hcol, hr, hp⟩ := of_decide_eq_true hp
  refine ⟨c, hc, hcol, hr, fun evs c' hev hc' => ?_⟩
  obtain ⟨hcol', hr', -⟩ := Collector.runs_inv _ _ (Collector.off_step slowLogConfig)
    ⟨hcol, hr, [], hp⟩ hev hc'
  exact ⟨hcol', hr'⟩

end PerconaAgent.Qan
