import PerconaAgent.Qan.Manager

/-!
# `PerconaAgent.Qan.Persistence`: `qan.conf` across a restart of the agent

The QAN manager keeps its config in `qan.conf`, so that the agent runs QAN again after a
restart. `Start` reads the file and starts QAN with it. `Handle(StartService)` writes the
config it started, and `Handle(StopService)` removes the file. The interface `Stop` leaves
the file alone. The agent's own `StopService` (`agent.handleStopService`) and its `stop()`
at shutdown call that `Stop`.

The model is the manager of `PerconaAgent.Qan.Manager` with what `qan.conf` holds,
`Persisted`. `Start` reads the file. `Handle` writes or removes it as `Manager.qanConf`
says. A write or removal that fails leaves the file as it was, and nothing else touches
it. `restart` is the next `Start` of a new manager, after the agent restarts. The file
holds the config `encoding/json` wrote, and the model takes the decoding to give it back.

* `restart_restores`: from the state `Start` leaves when the agent starts, over every run
  without the interface `Stop`, the following holds at every step: a restart brings QAN
  back to whether it runs and, if it does, to its config. The run may mix `Start` calls,
  `Handle` commands, intervals, workers and done signals. It needs every `WriteConfig` and
  `RemoveConfig` to succeed, and the outside world to answer every start as it does at the
  restart.

The round trip rests on two facts about `start`. `validateConfig_idem`: the config it
starts passes `ValidateConfig` unchanged. `start_snd_eq`: whether it succeeds depends only
on what `ValidateConfig` makes of the config and on the outside world.
-/

set_option autoImplicit false

namespace PerconaAgent.Qan

/-- A config that `ValidateConfig` accepts passes it again unchanged. -/
theorem validateConfig_idem {c c' : Config} (h : ValidateConfig c = .ok c') :
    ValidateConfig c' = .ok c' := by
  obtain ⟨-, hcol, hstart, hstop, h₁, h₂, h₃, h₄, h₅, h₆⟩ := validateConfig_eq_ok h
  have hne : c'.collectFrom ≠ "" := by rcases hcol with h | h <;> rw [h] <;> decide
  have hd : defaultCollectFrom c' = c' := if_neg hne
  have hcol' : ¬ (c'.collectFrom ≠ "slowlog" ∧ c'.collectFrom ≠ "perfschema") :=
    fun ⟨h₁, h₂⟩ => hcol.elim h₁ h₂
  unfold ValidateConfig
  rw [hd, if_neg hcol', if_neg hstart, if_neg hstop, if_neg (by omega),
    if_neg (by omega), if_neg (by omega), if_neg (by omega), if_neg (by omega), if_neg (by omega)]

namespace Manager

/-- Whether `start` succeeds, and with which config, depends only on what `ValidateConfig`
makes of the config and on the outside world. -/
theorem start_snd_eq (m m' : Manager) {config config' : Config} (st : StartSteps)
    (hv : ValidateConfig config = ValidateConfig config') :
    (m.start config st).2 = (m'.start config' st).2 := by
  unfold start
  rw [hv]
  cases ValidateConfig config' <;> cases st.lookupErr <;> cases st.addErr <;>
    cases configureMySQL st.connectErr st.setErr <;> rfl

/-- `start` leaves `running` and `config` to its caller. -/
theorem start_running_config (m : Manager) (config : Config) (st : StartSteps) :
    (m.start config st).1.running = m.running ∧ (m.start config st).1.config = m.config := by
  rcases start_cases m config st with ⟨e, h⟩ | ⟨e, h⟩ | ⟨e, -, h⟩ | ⟨c, -, -, h⟩ <;>
    rw [h] <;> exact ⟨rfl, rfl⟩

/-- A successful `start` starts the config `ValidateConfig` made. -/
theorem validateConfig_of_start {m m₁ : Manager} {config config₁ : Config} {st : StartSteps}
    (h : m.start config st = (m₁, .ok config₁)) : ValidateConfig config = .ok config₁ := by
  rcases start_cases m config st with
    ⟨e, h'⟩ | ⟨e, h'⟩ | ⟨e, -, h'⟩ | ⟨c, hv, -, h'⟩ <;> rw [h'] at h <;> cases h
  exact hv

/-- `Start` on a manager that does not run reads the file as it is, so two such managers
end alike: both run, with the same config, or neither does. -/
theorem Start_agree (m m' : Manager) (read : ReadResult) (st : StartSteps)
    (hm : m.running = false) (hm' : m'.running = false) :
    (m.Start read st).1.running = (m'.Start read st).1.running ∧
      ((m.Start read st).1.running = true →
        (m.Start read st).1.config = (m'.Start read st).1.config) := by
  unfold Start
  rw [hm, hm']
  rcases read with _ | e | config
  · exact ⟨hm.trans hm'.symm, fun h => absurd (h.symm.trans hm) (by decide)⟩
  · exact ⟨hm.trans hm'.symm, fun h => absurd (h.symm.trans hm) (by decide)⟩
  · dsimp only
    cases ValidateConfig config with
    | error e => exact ⟨hm.trans hm'.symm, fun h => absurd (h.symm.trans hm) (by decide)⟩
    | ok c =>
      dsimp only
      have h₂ := start_snd_eq m m' st (rfl : ValidateConfig c = ValidateConfig c)
      rcases hs : m.start c st with ⟨m₁, e | c₁⟩ <;>
        rcases hs' : m'.start c st with ⟨m₂, e' | c₂⟩ <;>
        rw [hs, hs'] at h₂ <;> cases h₂
      · have := (start_running_config m c st).1
        have := (start_running_config m' c st).1
        simp_all
      · exact ⟨rfl, fun _ => rfl⟩

end Manager

/-- What `pct.Basedir.ReadConfig("qan", ...)` gives `Start` from what `qan.conf` holds. -/
def readQanConf : Option Config → ReadResult
  | none => .notExist
  | some config => .ok config

/-- What `qan.conf` holds after `Handle`. `StartService` writes the config it started,
unless `WriteConfig` fails. `StopService` of a running QAN removes the file, unless
`RemoveConfig` fails. -/
def Manager.qanConf (m : Manager) (conf : Option Config) : Cmd → Option Config
  | .startService data st writeErr =>
    if m.running then conf
    else match data with
      | .error _ => conf
      | .ok config =>
        match (m.start config st).2, writeErr with
        | .ok config, none => some config
        | _, _ => conf
  | .stopService _ removeErr => if m.running ∧ removeErr = none then none else conf
  | .getConfig | .other _ => conf

namespace Manager

/-- `StartService` whose `start` fails leaves QAN as `start` left it and the file alone. -/
theorem Handle_startService_of_start_error {m m₁ : Manager} {config : Config} {st : StartSteps}
    {e : String} (writeErr : Option String) (conf : Option Config) (hr : m.running = false)
    (hs : m.start config st = (m₁, .error e)) :
    (m.Handle (.startService (.ok config) st writeErr)).1 = m₁ ∧
      m.qanConf conf (.startService (.ok config) st writeErr) = conf := by
  dsimp only [Handle, qanConf]
  rw [hr, hs]
  exact ⟨rfl, rfl⟩

/-- `StartService` whose `start` succeeds and whose `WriteConfig` succeeds runs QAN with the
config `start` started and writes it to the file. -/
theorem Handle_startService_of_start_ok {m m₁ : Manager} {config config₁ : Config}
    {st : StartSteps} (conf : Option Config) (hr : m.running = false)
    (hs : m.start config st = (m₁, .ok config₁)) :
    (m.Handle (.startService (.ok config) st none)).1 =
        { m₁ with running := true, config := some config₁ } ∧
      m.qanConf conf (.startService (.ok config) st none) = some config₁ := by
  dsimp only [Handle, qanConf]
  rw [hr, hs]
  exact ⟨rfl, rfl⟩

/-- `Start` on a manager that does not run, with a config `ValidateConfig` makes `config₁`
and whose `start` succeeds, runs QAN with `config₁`. -/
theorem Start_ok {m m₁ : Manager} {config config₁ : Config} {st : StartSteps}
    (hr : m.running = false) (hv : ValidateConfig config = .ok config₁)
    (hs : m.start config₁ st = (m₁, .ok config₁)) :
    (m.Start (.ok config) st).1 = { m₁ with config := some config₁, running := true } := by
  simp [Start, hr, hv, hs]

end Manager

/-- The manager and what `qan.conf` holds. -/
structure Persisted where
  m : Manager
  conf : Option Config

namespace Persisted

/-- One step: `Start` reads `qan.conf`, `Handle` writes or removes it, and every other
step leaves it. -/
def step (p : Persisted) : Event → Option Persisted
  | .start _ st => some ⟨(p.m.Start (readQanConf p.conf) st).1, p.conf⟩
  | .handle cmd => some ⟨(p.m.Handle cmd).1, p.m.qanConf p.conf cmd⟩
  | ev => (p.m.step ev).map fun m => ⟨m, p.conf⟩

/-- A run: the events in order, `none` as soon as one is not enabled. -/
def runs (p : Persisted) : List Event → Option Persisted
  | [] => some p
  | ev :: evs => (p.step ev).bind fun p' => p'.runs evs

/-- What every step of a kind keeps holds along every run of such steps. -/
theorem runs_inv (P : Persisted → Prop) (Q : Event → Prop)
    (hstep : ∀ {p p' : Persisted} {ev : Event}, P p → Q ev → p.step ev = some p' → P p') :
    ∀ {p p' : Persisted} {evs : List Event}, P p → (∀ ev ∈ evs, Q ev) →
      p.runs evs = some p' → P p'
  | _, _, [], h, _, hp => by cases hp; exact h
  | _, _, ev :: _, h, hev, hp => by
    simp only [runs, Option.bind_eq_some] at hp
    obtain ⟨p₁, h₁, h₂⟩ := hp
    exact runs_inv P Q hstep (hstep h (hev ev (.head _)) h₁)
      (fun ev' h' => hev ev' (.tail _ h')) h₂

/-- The agent starts with `qan.conf` holding `conf`: a new manager's `Start` reads it, with
the outside world answering `st`. -/
def boot (conf : Option Config) (st : StartSteps) : Persisted :=
  ⟨(Manager.NewManager.Start (readQanConf conf) st).1, conf⟩

/-- The next `Start` after the agent restarts: a new manager reads `qan.conf`, with the
outside world answering `st`. -/
def restart (p : Persisted) (st : StartSteps) : Manager :=
  (Manager.NewManager.Start (readQanConf p.conf) st).1

/-- A restart brings QAN back to whether it runs, and, when it runs, to its config. -/
structure Restores (st : StartSteps) (p : Persisted) : Prop where
  running : (p.restart st).running = p.m.running
  config : p.m.running = true → (p.restart st).config = p.m.config

end Persisted

/-- The steps that keep `qan.conf` in step with the manager: every start answered by the
outside world with `st`, `StartService` whose `WriteConfig` succeeds, `StopService` whose
`RemoveConfig` succeeds, and no interface `Stop`. -/
def Event.keepsConf (st : StartSteps) : Event → Prop
  | .start _ st' => st' = st
  | .stop => False
  | .handle (.startService _ st' writeErr) => st' = st ∧ writeErr = none
  | .handle (.stopService _ removeErr) => removeErr = none
  | _ => True

namespace Persisted

/-- `run`'s steps and a worker's return leave `running` and `config`. -/
theorem step_loop {m m' : Manager} {ev : Event} (hev : ev.isCall = false)
    (h : m.step ev = some m') : m'.running = m.running ∧ m'.config = m.config := by
  cases ev with
  | interval interval rot =>
    obtain ⟨config, -, -, rfl⟩ := Manager.step_interval h
    rcases Manager.runInterval_cases m config interval rot with h | ⟨-, _, _, h⟩ <;> rw [h] <;>
      exact ⟨rfl, rfl⟩
  | finish w =>
    obtain ⟨-, -, rfl⟩ := Manager.finish_eq h
    exact ⟨rfl, rfl⟩
  | workerDone oks =>
    obtain ⟨config, -, w, ws, -, -, rfl⟩ := Manager.step_workerDone h
    obtain ⟨logs, removed, h⟩ :=
      Manager.runWorkerDone_eq { m with workerDoneChan := ws } config w oks
    rw [h]
    exact ⟨rfl, rfl⟩
  | _ => cases hev

/-- A step of `run` or a worker's return leaves `qan.conf`. -/
theorem step_of_not_call (p : Persisted) {ev : Event} (hev : ev.isCall = false) :
    p.step ev = (p.m.step ev).map fun m => ⟨m, p.conf⟩ := by
  cases ev <;> first | rfl | cases hev

/-- A restart after `qan.conf` took the config a successful `start` started runs QAN with
it. -/
theorem restart_of_start {m m₁ : Manager} {config config₁ : Config} {st : StartSteps}
    (hs : m.start config st = (m₁, .ok config₁)) (p : Persisted)
    (hp : p.conf = some config₁) :
    (p.restart st).running = true ∧ (p.restart st).config = some config₁ := by
  have hv := Manager.validateConfig_of_start hs
  have hv' := validateConfig_idem hv
  have h₂ : (Manager.NewManager.start config₁ st).2 = .ok config₁ := by
    rw [Manager.start_snd_eq _ m st (hv'.trans hv.symm), hs]
  have hn : Manager.NewManager.start config₁ st =
      ((Manager.NewManager.start config₁ st).1, .ok config₁) := Prod.ext rfl h₂
  unfold restart
  rw [hp]
  rw [show readQanConf (some config₁) = .ok config₁ from rfl, Manager.Start_ok rfl hv' hn]
  exact ⟨rfl, rfl⟩

/-- Every step that keeps `qan.conf` in step keeps `Restores`. -/
theorem Restores.step {st : StartSteps} {p p' : Persisted} {ev : Event} (h : Restores st p)
    (hev : ev.keepsConf st) (hs : p.step ev = some p') : Restores st p' := by
  cases hc : ev.isCall
  · -- a step of `run` or a worker's return: `running`, `config` and the file stay
    rw [step_of_not_call p hc] at hs
    obtain ⟨m', hm, rfl⟩ := Option.map_eq_some'.mp hs
    obtain ⟨h₁, h₂⟩ := step_loop hc hm
    exact ⟨h.running.trans h₁.symm, fun hr => (h.config (h₁ ▸ hr)).trans h₂.symm⟩
  cases ev with
  | start read st' =>
    cases hev
    cases hs
    by_cases hr : p.m.running = true
    · simp only [Manager.Start, hr, if_true]
      exact ⟨h.running, h.config⟩
    · obtain ⟨h₁, h₂⟩ :=
        Manager.Start_agree Manager.NewManager p.m (readQanConf p.conf) st rfl (by simpa using hr)
      exact ⟨h₁, fun hrun => h₂ (h₁.trans hrun)⟩
  | stop => cases hev
  | handle cmd =>
    cases hs
    cases cmd with
    | startService data st' writeErr =>
      obtain ⟨hst, rfl⟩ := hev
      subst st'
      cases hr : p.m.running
      case true =>
        show Restores st ⟨_, _⟩
        dsimp only [Manager.Handle, Manager.qanConf]
        rw [hr]
        exact h
      rcases data with e | config
      · show Restores st ⟨_, _⟩
        dsimp only [Manager.Handle, Manager.qanConf]
        rw [hr]
        exact h
      rcases hsm : p.m.start config st with ⟨m₁, e | config₁⟩
      · -- `start` fails: QAN does not run, and the file stays
        obtain ⟨hm, hq⟩ := Manager.Handle_startService_of_start_error none p.conf hr hsm
        have hrun : m₁.running = false := by
          simpa [hsm, hr] using (Manager.start_running_config p.m config st).1
        show Restores st ⟨_, _⟩
        rw [hm, hq]
        exact ⟨h.running.trans (hr.trans hrun.symm),
          fun h' => absurd (h'.symm.trans hrun) (by decide)⟩
      · -- `start` succeeds: QAN runs, and the file holds its config
        obtain ⟨hm, hq⟩ := Manager.Handle_startService_of_start_ok p.conf hr hsm
        show Restores st ⟨_, _⟩
        rw [hm, hq]
        obtain ⟨h₁, h₂⟩ := restart_of_start hsm ⟨_, some config₁⟩ rfl
        exact ⟨h₁, fun _ => h₂⟩
    | stopService stopErr removeErr =>
      cases hev
      show Restores st ⟨_, _⟩
      dsimp only [Manager.Handle, Manager.qanConf]
      cases hr : p.m.running
      case false => exact h
      exact ⟨rfl, fun h => absurd h Bool.false_ne_true⟩
    | getConfig | other _ => exact h
  | _ => cases hc

end Persisted

/-- From the state `Start` leaves when the agent starts with `qan.conf` holding `conf`,
over every run without the interface `Stop`, a restart brings QAN back to whether it runs
and, when it runs, to its config. The run may mix `Start` calls, `Handle` commands,
intervals, workers and done signals. It needs every `WriteConfig` and `RemoveConfig` to
succeed, and the outside world to answer every start as it does at the restart. -/
theorem restart_restores (conf : Option Config) (st : StartSteps) (evs : List Event)
    (hev : ∀ ev ∈ evs, ev.keepsConf st) (p : Persisted)
    (hrun : (Persisted.boot conf st).runs evs = some p) :
    (p.restart st).running = p.m.running ∧
      (p.m.running = true → (p.restart st).config = p.m.config) :=
  have h := Persisted.runs_inv (Persisted.Restores st) (Event.keepsConf st)
    (fun h hev hs => h.step hev hs) (⟨rfl, fun _ => rfl⟩ : Persisted.Restores st _) hev hrun
  ⟨h.running, h.config⟩

/-- QAN's own `StopService`, then its `StartService` with `slowLogConfig`. -/
def stopStartRun : List Event :=
  [.handle (.stopService none none), .handle (.startService (.ok slowLogConfig) okSteps none)]

/-- `restart_restores` from `qan.conf` holding `slowLogConfig`, over `stopStartRun`. -/
theorem stopStartRun_restores :
    (∀ ev ∈ stopStartRun, ev.keepsConf okSteps) ∧
      ∃ p, (Persisted.boot (some slowLogConfig) okSteps).runs stopStartRun = some p ∧
        (p.restart okSteps).running = p.m.running ∧
        (p.m.running = true → (p.restart okSteps).config = p.m.config) := by
  have hev : ∀ ev ∈ stopStartRun, ev.keepsConf okSteps := by
    simp [stopStartRun, Event.keepsConf]
  obtain ⟨p, hp⟩ :
      ∃ p, (Persisted.boot (some slowLogConfig) okSteps).runs stopStartRun = some p :=
    ⟨_, rfl⟩
  exact ⟨hev, p, hp, restart_restores _ _ _ hev p hp⟩

end PerconaAgent.Qan
