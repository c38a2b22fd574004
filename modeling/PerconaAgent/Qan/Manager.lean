import Mathlib.Data.List.Basic

/-!
# `PerconaAgent.Qan.Manager`: the QAN manager, its `run` loop and its workers

`Manager` (`qan/manager.go`) starts and stops the query-analytics parser. `Start` reads
`qan.conf` from disk; `Handle` takes `StartService` with a config in the command,
`StopService` and `GetConfig`. Both hold `mux` for the whole call. `start` validates the
config, looks up the MySQL instance and makes the connection (`makeMySQLConn`), subscribes
to the instance's restarts at the MRM monitor (`mrm.Add`), configures MySQL
(`configureMySQL`), and then starts an interval iterator, the goroutine `run`, and a
clock subscription of `tickChan`. `stop` undoes the last three and the MRM subscription.

`run` takes intervals and worker done signals. An interval that arrives while `workers`
has `MaxWorkers` entries is dropped. Otherwise `run` rotates the slow log when it has
grown past `MaxSlowLogSize`, records a new worker in `workers`, and runs it in a goroutine
that sends the worker on `workerDoneChan` (capacity `2`) when it returns. A done signal
deletes the worker from `workers` and, for the slow log, counts down every rotated file of
`oldSlowLogs`, unlinking those whose count is `1`.

The model is a record `Manager` of the fields these functions touch, together with what
lives outside them: the goroutines of `run` (each with its copy of the config) and of the
workers, `workerDoneChan`, the MRM subscriptions, the clock subscriptions of `tickChan`,
the iterators started and not stopped, and the files unlinked. The outcome of each call
to the outside world (an instance lookup, `Connect`, `Set`, a rename, `os.Remove`) is a
parameter of its event. Calls of `Start`, `Stop` and `Handle` are atomic, as `mux` makes
them towards each other; the steps of `run` and of the workers interleave with them. Left
out: the MySQL connections themselves, the status texts, the jobs and reports of the
workers, the restart case of `run` (it reconfigures MySQL and changes none of these
fields; `PerconaAgent.Qan.Collection` models it), and `GetConfig`'s data.

`PoolFrame` says that a call leaves the worker pool alone, `start_cases` lists the
four ways `start` can end, and `step_interval` and `step_workerDone` say when `run` takes
an interval or a done signal.
-/

set_option autoImplicit false

namespace PerconaAgent.Qan

/-- `qan.Config`, with the fields the manager reads. -/
structure Config where
  collectFrom : String
  start : List String
  stop : List String
  maxWorkers : Int
  interval : Nat
  maxSlowLogSize : Int
  removeOldSlowLogs : Bool
  workerRunTime : Nat
  deriving DecidableEq, Repr

/-- The first step of `ValidateConfig`: an empty `CollectFrom` is `slowlog`, for the configs
written before the performance schema. -/
def defaultCollectFrom (config : Config) : Config :=
  if config.collectFrom = "" then { config with collectFrom := "slowlog" } else config

@[simp] theorem defaultCollectFrom_maxWorkers (config : Config) :
    (defaultCollectFrom config).maxWorkers = config.maxWorkers := by
  unfold defaultCollectFrom; split <;> rfl

/-- `ValidateConfig`: the config with its default `CollectFrom`, or the error of the first
check it fails. -/
def ValidateConfig (config : Config) : Except String Config :=
  let config := defaultCollectFrom config
  if config.collectFrom ≠ "slowlog" ∧ config.collectFrom ≠ "perfschema" then
    .error ("Invalid CollectFrom: '" ++ config.collectFrom ++
      "'.  Expected 'perfschema' or 'slowlog'.")
  else if config.start = [] then .error "qan.Config.Start array is empty"
  else if config.stop = [] then .error "qan.Config.Stop array is empty"
  else if config.maxWorkers < 1 then .error "MaxWorkers must be > 0"
  else if config.maxWorkers > 4 then .error "MaxWorkers must be < 4"
  else if config.interval = 0 then .error "Interval must be > 0"
  else if config.interval > 3600 then .error "Interval must be <= 3600 (1 hour)"
  else if config.workerRunTime = 0 then .error "WorkerRuntime must be > 0"
  else if config.workerRunTime > 1200 then .error "WorkerRuntime must be <= 1200 (20 minutes)"
  else .ok config

/-- A check of `ValidateConfig` that lets the config through: its condition is false. -/
theorem ite_error_eq_ok {c : Prop} [Decidable c] {e : String} {k : Except String Config}
    {x : Config} (h : (if c then .error e else k) = .ok x) : ¬c ∧ k = .ok x := by
  by_cases hc : c
  · rw [if_pos hc] at h; cases h
  · rw [if_neg hc] at h; exact ⟨hc, h⟩

/-- A config `ValidateConfig` accepts is the config with its default `CollectFrom`, and it
passes every check. -/
theorem validateConfig_eq_ok {config config' : Config} (h : ValidateConfig config = .ok config') :
    config' = defaultCollectFrom config ∧
      (config'.collectFrom = "slowlog" ∨ config'.collectFrom = "perfschema") ∧
      config'.start ≠ [] ∧ config'.stop ≠ [] ∧ 1 ≤ config'.maxWorkers ∧ config'.maxWorkers ≤ 4 ∧
      0 < config'.interval ∧ config'.interval ≤ 3600 ∧
      0 < config'.workerRunTime ∧ config'.workerRunTime ≤ 1200 := by
  obtain ⟨hcollect, h⟩ := ite_error_eq_ok h
  obtain ⟨hstart, h⟩ := ite_error_eq_ok h
  obtain ⟨hstop, h⟩ := ite_error_eq_ok h
  obtain ⟨hmin, h⟩ := ite_error_eq_ok h
  obtain ⟨hmax, h⟩ := ite_error_eq_ok h
  obtain ⟨hi₀, h⟩ := ite_error_eq_ok h
  obtain ⟨hi, h⟩ := ite_error_eq_ok h
  obtain ⟨hw₀, h⟩ := ite_error_eq_ok h
  obtain ⟨hw, h⟩ := ite_error_eq_ok h
  cases h
  refine ⟨rfl, or_iff_not_and_not.mpr hcollect, hstart, hstop, ?_, ?_, ?_, ?_, ?_, ?_⟩ <;> omega

/-- `qan.Interval`, with the fields `run` reads and `rotateSlowLog` writes. -/
structure Interval where
  number : Nat
  filename : String
  startOffset : Int
  endOffset : Int
  deriving DecidableEq, Repr

/-- The state of the manager and of what it has started. Workers and channels are named
by numbers: `workers` maps each worker to the interval it parses, `oldSlowLogs` each
rotated slow log to its count, `dsn` is `mysqlConn.DSN()` and `restartChan` the channel of
the last MRM subscription. `parsers` are the goroutines of `run` alive (`qan-parser` in the
status), each with its copy of the config; `active` the worker goroutines inside `w.Run`;
`subscriptions` the MRM subscriptions (DSN and channel); `clockSubs` the clock
subscriptions of `tickChan`; `iters` the iterators started and not stopped; `removed` the
files unlinked. -/
structure Manager where
  config : Option Config
  running : Bool
  workers : List (Nat × Interval)
  oldSlowLogs : List (String × Int)
  dsn : String
  restartChan : Nat
  parsers : List Config
  active : List Nat
  workerDoneChan : List Nat
  nextWorker : Nat
  subscriptions : List (String × Nat)
  nextChan : Nat
  clockSubs : Nat
  iters : Nat
  removed : List String
  deriving DecidableEq

/-- The errors of the manager's replies: `pct.ServiceIsRunningError`,
`pct.UnknownCmdError`, and the error of a failed step. -/
inductive Error
  | serviceIsRunning (service : String)
  | unknownCmd (cmd : String)
  | failed (msg : String)
  deriving DecidableEq, Repr

/-- The outcomes of the steps of `start` after `ValidateConfig`: the instance lookup of
`makeMySQLConn` with the DSN of the instance, `mrm.Add`, and `Connect` and `Set` in
`configureMySQL`. -/
structure StartSteps where
  lookupErr : Option String
  dsn : String
  addErr : Option String
  connectErr : Option String
  setErr : Option String
  deriving DecidableEq, Repr

/-- What `pct.Basedir.ReadConfig("qan", ...)` gives `Start`. -/
inductive ReadResult
  | notExist
  | error (msg : String)
  | ok (config : Config)

/-- The commands `Handle` takes, with the outcomes of the outside world: for
`StartService`, the config `json.Unmarshal` decodes (or its error), the steps of `start`
and the error of `WriteConfig`; for `StopService`, the error of `stop` and of
`RemoveConfig`. -/
inductive Cmd
  | startService (data : Except String Config) (st : StartSteps) (writeErr : Option String)
  | stopService (stopErr removeErr : Option String)
  | getConfig
  | other (cmd : String)

/-- The outcomes of the steps of `rotateSlowLog`: `Connect`, `Set(config.Stop)`, the
rename, `Set(config.Start)`, the time in Unix seconds, and the size of the renamed file. -/
structure RotateSteps where
  connectErr : Option String
  setStopErr : Option String
  renameErr : Option String
  setStartErr : Option String
  now : Nat
  size : Int
  deriving DecidableEq, Repr

namespace Manager

/-- `NewManager`: nothing started. Channel `0` is the nil `restartChan`. -/
def NewManager : Manager :=
  { config := none, running := false, workers := [], oldSlowLogs := [], dsn := "",
    restartChan := 0, parsers := [], active := [], workerDoneChan := [], nextWorker := 0,
    subscriptions := [], nextChan := 1, clockSubs := 0, iters := 0, removed := [] }

/-- `configureMySQL`: the error of `Connect`, else the error of `Set(config.Start)`. -/
def configureMySQL (connectErr setErr : Option String) : Option String :=
  match connectErr with
  | some e => some e
  | none => setErr

/-- `makeMySQLConn` for the instance `dsn` and a successful `mrm.Add`: a new subscription
whose channel becomes `restartChan`. -/
def subscribe (m : Manager) (dsn : String) : Manager :=
  { m with
    dsn := dsn, subscriptions := m.subscriptions ++ [(dsn, m.nextChan)],
    restartChan := m.nextChan, nextChan := m.nextChan + 1 }

/-- The end of `start`: a started iterator, the goroutine `run` with its copy of
`config`, and the clock subscription of `tickChan`. -/
def launch (m : Manager) (config : Config) : Manager :=
  { m with iters := m.iters + 1, parsers := m.parsers ++ [config], clockSubs := m.clockSubs + 1 }

/-- `start(config)`: the manager after the steps that ran, and the config `ValidateConfig`
leaves or the error of the step that failed. `mrm.Add` subscribes before
`configureMySQL`, and an error of `configureMySQL` returns with the subscription in
place. -/
def start (m : Manager) (config : Config) (st : StartSteps) : Manager × Except String Config :=
  match ValidateConfig config with
  | .error e => (m, .error e)
  | .ok config =>
    match st.lookupErr with
    | some e => (m, .error e)
    | none =>
      match st.addErr with
      | some e => ({ m with dsn := st.dsn }, .error e)
      | none =>
        match configureMySQL st.connectErr st.setErr with
        | some e => (m.subscribe st.dsn, .error e)
        | none => ((m.subscribe st.dsn).launch config, .ok config)

/-- `stop()`: stops the iterator, removes `tickChan` from the clock and the subscription
of `restartChan` from the MRM monitor, and ends `run`. Turning the slow log or the
performance schema off may fail; the caller gets the error and nothing here changes. -/
def stop (m : Manager) : Manager :=
  { m with
    iters := m.iters - 1, clockSubs := 0,
    subscriptions := m.subscriptions.erase (m.dsn, m.restartChan), parsers := [] }

/-- `Start`: the manager and the error returned. A missing, unreadable or invalid
`qan.conf` and a failed `start` are logged, and `Start` returns no error. -/
def Start (m : Manager) (read : ReadResult) (st : StartSteps) : Manager × Option Error :=
  if m.running then (m, some (.serviceIsRunning "qan"))
  else
    match read with
    | .notExist | .error _ => (m, none)
    | .ok config =>
      match ValidateConfig config with
      | .error _ => (m, none)
      | .ok config =>
        match m.start config st with
        | (m, .error _) => (m, none)
        | (m, .ok config) => ({ m with config := some config, running := true }, none)

/-- `Stop`. The error of `stop` is logged. -/
def Stop (m : Manager) : Manager :=
  if m.running then { m.stop with running := false } else m

/-- `Handle`: the manager and the errors of the reply. `StartService` sets `running`
before it writes `qan.conf`, and replies with the error of `WriteConfig` with qan
running. -/
def Handle (m : Manager) : Cmd → Manager × List Error
  | .startService data st writeErr =>
    if m.running then (m, [.serviceIsRunning "qan"])
    else
      match data with
      | .error e => (m, [.failed e])
      | .ok config =>
        match m.start config st with
        | (m, .error e) => (m, [.failed e])
        | (m, .ok config) =>
          let m := { m with running := true, config := some config }
          match writeErr with
          | some e => (m, [.failed e])
          | none => (m, [])
  | .stopService stopErr removeErr =>
    if !m.running then (m, [])
    else ({ m.stop with running := false }, (stopErr.toList ++ removeErr.toList).map .failed)
  | .getConfig => (m, [])
  | .other cmd => (m, [.unknownCmd cmd])

/-- `oldSlowLogs[file] = count`. -/
def setOldSlowLog (logs : List (String × Int)) (file : String) (count : Int) :
    List (String × Int) :=
  logs.filter (fun p => p.1 != file) ++ [(file, count)]

/-- `rotateSlowLog(config, interval)`: the manager and the interval after it. Only when
every step succeeds is the interval moved to the renamed file, and, with
`RemoveOldSlowLogs`, the file saved in `oldSlowLogs` with the count
`len(workers) + 1`. -/
def rotateSlowLog (m : Manager) (config : Config) (interval : Interval) (rot : RotateSteps) :
    Manager × Interval :=
  match rot.connectErr, rot.setStopErr, rot.renameErr, rot.setStartErr with
  | none, none, none, none =>
    let newSlowLogFile := interval.filename ++ "-" ++ toString rot.now
    let interval := { interval with filename := newSlowLogFile, endOffset := rot.size }
    if config.removeOldSlowLogs then
      ({ m with
          oldSlowLogs := setOldSlowLog m.oldSlowLogs newSlowLogFile (m.workers.length + 1) },
        interval)
    else (m, interval)
  | _, _, _, _ => (m, interval)

/-- The interval case of `run` with the config `config`: the interval is dropped while
`workers` has `MaxWorkers` entries; otherwise the slow log is rotated if it has grown
past `MaxSlowLogSize`, and a new worker is recorded and started. -/
def runInterval (m : Manager) (config : Config) (interval : Interval) (rot : RotateSteps) :
    Manager :=
  if (m.workers.length : Int) ≥ config.maxWorkers then m
  else
    let r := if config.collectFrom = "slowlog" ∧ interval.endOffset ≥ config.maxSlowLogSize
      then m.rotateSlowLog config interval rot else (m, interval)
    let w := r.1.nextWorker
    { r.1 with
      workers := r.1.workers ++ [(w, r.2)], active := r.1.active ++ [w], nextWorker := w + 1 }

/-- The loop over `oldSlowLogs` in the worker-done case of `run`: a file whose count is
`1` is unlinked and deleted if `os.Remove` succeeds (the next outcome of `oks`) and kept
otherwise; every other count goes down by one. Gives the map and the files unlinked. -/
def reapOldSlowLogs : List (String × Int) → List Bool → List (String × Int) × List String
  | [], _ => ([], [])
  | (file, cnt) :: rest, oks =>
    if cnt = 1 then
      let r := reapOldSlowLogs rest oks.tail
      if oks.headD true then (r.1, file :: r.2) else ((file, cnt) :: r.1, r.2)
    else
      let r := reapOldSlowLogs rest oks
      ((file, cnt - 1) :: r.1, r.2)

/-- The worker-done case of `run` with the config `config`, for the worker `w`. -/
def runWorkerDone (m : Manager) (config : Config) (w : Nat) (oks : List Bool) : Manager :=
  let m := { m with workers := m.workers.filter fun p => p.1 != w }
  if config.collectFrom = "slowlog" then
    let r := reapOldSlowLogs m.oldSlowLogs oks
    { m with oldSlowLogs := r.1, removed := m.removed ++ r.2 }
  else m

/-- The goroutine of worker `w` returns from `w.Run` and sends `w` on `workerDoneChan`;
the send waits while the channel holds `2`. -/
def finish (m : Manager) (w : Nat) : Option Manager :=
  if w ∈ m.active ∧ m.workerDoneChan.length < 2 then
    some { m with active := m.active.erase w, workerDoneChan := m.workerDoneChan ++ [w] }
  else none

end Manager

/-- The events of a run: calls of `Start`, `Stop` and `Handle`; `run` takes an interval or
a done signal; a worker returns. -/
inductive Event
  | start (read : ReadResult) (st : StartSteps)
  | stop
  | handle (cmd : Cmd)
  | interval (interval : Interval) (rot : RotateSteps)
  | finish (w : Nat)
  | workerDone (oks : List Bool)

/-- The event is a call of `Start`, `Stop` or `Handle`. -/
def Event.isCall : Event → Bool
  | .start _ _ | .stop | .handle _ => true
  | _ => false

namespace Manager

/-- One step of a run. `run`'s cases need a goroutine of `run`. -/
def step (m : Manager) : Event → Option Manager
  | .start read st => some (m.Start read st).1
  | .stop => some m.Stop
  | .handle cmd => some (m.Handle cmd).1
  | .interval interval rot =>
    match m.parsers with
    | config :: _ => some (m.runInterval config interval rot)
    | [] => none
  | .finish w => m.finish w
  | .workerDone oks =>
    match m.parsers, m.workerDoneChan with
    | config :: _, w :: rest => some ({ m with workerDoneChan := rest }.runWorkerDone config w oks)
    | _, _ => none

/-- A run: the events in order, `none` as soon as one is not enabled. -/
def runs (m : Manager) : List Event → Option Manager
  | [] => some m
  | ev :: evs => (m.step ev).bind fun m' => m'.runs evs

/-- What every step of a kind keeps holds along every run of such steps. -/
theorem runs_inv (P : Manager → Prop) (Q : Event → Prop)
    (hstep : ∀ {m m' : Manager} {ev : Event}, P m → Q ev → m.step ev = some m' → P m') :
    ∀ {m m' : Manager} {evs : List Event}, P m → (∀ ev ∈ evs, Q ev) → m.runs evs = some m' →
      P m'
  | _, _, [], h, _, hm => by cases hm; exact h
  | _, _, ev :: _, h, hev, hm => by
    simp only [runs, Option.bind_eq_some] at hm
    obtain ⟨m₁, h₁, h₂⟩ := hm
    exact runs_inv P Q hstep (hstep h (hev ev (.head _)) h₁) (fun ev' h' => hev ev' (.tail _ h')) h₂

/-- The four ways `start` ends: a failed check or lookup, a failed `mrm.Add` after the new
connection, a failed `configureMySQL` with the new subscription in place, or success. -/
theorem start_cases (m : Manager) (config : Config) (st : StartSteps) :
    (∃ e, m.start config st = (m, .error e)) ∨
    (∃ e, m.start config st = ({ m with dsn := st.dsn }, .error e)) ∨
    (∃ e, configureMySQL st.connectErr st.setErr = some e ∧
      m.start config st = (m.subscribe st.dsn, .error e)) ∨
    (∃ config', ValidateConfig config = .ok config' ∧
      configureMySQL st.connectErr st.setErr = none ∧
      m.start config st = ((m.subscribe st.dsn).launch config', .ok config')) := by
  unfold start
  rcases hv : ValidateConfig config with e | config'
  · exact .inl ⟨e, rfl⟩
  rcases st.lookupErr with _ | e
  swap
  · exact .inl ⟨e, rfl⟩
  rcases st.addErr with _ | e
  swap
  · exact .inr (.inl ⟨e, rfl⟩)
  rcases hc : configureMySQL st.connectErr st.setErr with _ | e
  · exact .inr (.inr (.inr ⟨config', rfl, rfl, rfl⟩))
  · exact .inr (.inr (.inl ⟨e, rfl, rfl⟩))

/-- What `Start` and `Handle(StartService)` leave once they call `start`: the manager after
`start`, with `config` and `running` set when it succeeds. -/
def startAndRun (m : Manager) (config : Config) (st : StartSteps) : Manager :=
  match m.start config st with
  | (m, .error _) => m
  | (m, .ok config) => { m with config := some config, running := true }

/-- The four ways `startAndRun` ends, after the four ways of `start`. -/
theorem startAndRun_cases (m : Manager) (config : Config) (st : StartSteps) :
    m.startAndRun config st = m ∨ m.startAndRun config st = { m with dsn := st.dsn } ∨
    (configureMySQL st.connectErr st.setErr ≠ none ∧
      m.startAndRun config st = m.subscribe st.dsn) ∨
    (∃ config', ValidateConfig config = .ok config' ∧
      configureMySQL st.connectErr st.setErr = none ∧
      m.startAndRun config st =
        { (m.subscribe st.dsn).launch config' with config := some config', running := true }) := by
  unfold startAndRun
  rcases start_cases m config st with ⟨e, h⟩ | ⟨e, h⟩ | ⟨e, hc, h⟩ | ⟨c, hv, hc, h⟩ <;> rw [h]
  · exact .inl rfl
  · exact .inr (.inl rfl)
  · exact .inr (.inr (.inl ⟨by simp [hc], rfl⟩))
  · exact .inr (.inr (.inr ⟨c, hv, hc, rfl⟩))

/-- `Start` changes nothing, or it is `startAndRun` on the config read from disk, after
`ValidateConfig`, while qan is not running. -/
theorem Start_eq (m : Manager) (read : ReadResult) (st : StartSteps) :
    (m.Start read st).1 = m ∨
    ∃ config config₁, read = .ok config ∧ m.running = false ∧
      ValidateConfig config = .ok config₁ ∧ (m.Start read st).1 = m.startAndRun config₁ st := by
  unfold Start
  split
  · exact .inl rfl
  · rename_i hr
    rcases read with _ | e | config
    · exact .inl rfl
    · exact .inl rfl
    · dsimp only
      rcases hv : ValidateConfig config with e | config₁
      · exact .inl rfl
      · refine .inr ⟨config, config₁, rfl, by simpa using hr, hv, ?_⟩
        unfold startAndRun
        dsimp only
        generalize m.start config₁ st = r
        obtain ⟨m', _ | c⟩ := r <;> rfl

/-- `Handle(StopService)` leaves the state `Stop` leaves. -/
theorem Handle_stopService (m : Manager) (stopErr removeErr : Option String) :
    (m.Handle (.stopService stopErr removeErr)).1 = m.Stop := by
  unfold Handle Stop
  cases m.running <;> rfl

/-- `Handle` changes nothing, stops like `Stop`, or, for `StartService` while qan is not
running, is `startAndRun` on the config of the command. -/
theorem Handle_eq (m : Manager) (cmd : Cmd) :
    (m.Handle cmd).1 = m ∨ (m.Handle cmd).1 = m.Stop ∨
    ∃ config st writeErr, cmd = .startService (.ok config) st writeErr ∧ m.running = false ∧
      (m.Handle cmd).1 = m.startAndRun config st := by
  cases cmd with
  | startService data st writeErr =>
    dsimp only [Handle]
    split
    · exact .inl rfl
    · rename_i hr
      rcases data with e | config
      · exact .inl rfl
      · refine .inr (.inr ⟨config, st, writeErr, rfl, by simpa using hr, ?_⟩)
        unfold startAndRun
        dsimp only
        generalize m.start config st = r
        obtain ⟨m', _ | c⟩ := r
        · rfl
        · cases writeErr <;> rfl
  | stopService stopErr removeErr => exact .inr (.inl (Handle_stopService m stopErr removeErr))
  | getConfig => exact .inl rfl
  | other cmd => exact .inl rfl

/-- `m'` has the worker pool of `m`: the fields only `run` and the workers change. -/
structure PoolFrame (m m' : Manager) : Prop where
  workers : m'.workers = m.workers
  oldSlowLogs : m'.oldSlowLogs = m.oldSlowLogs
  active : m'.active = m.active
  workerDoneChan : m'.workerDoneChan = m.workerDoneChan
  nextWorker : m'.nextWorker = m.nextWorker
  removed : m'.removed = m.removed

theorem PoolFrame.rfl' (m : Manager) : PoolFrame m m := ⟨rfl, rfl, rfl, rfl, rfl, rfl⟩

/-- `Stop` leaves the worker pool alone: `stop` neither waits for the workers nor clears
`workers`. -/
theorem Stop_poolFrame (m : Manager) : PoolFrame m m.Stop := by
  unfold Stop
  split
  · exact ⟨rfl, rfl, rfl, rfl, rfl, rfl⟩
  · exact .rfl' m

theorem startAndRun_poolFrame (m : Manager) (config : Config) (st : StartSteps) :
    PoolFrame m (m.startAndRun config st) := by
  rcases startAndRun_cases m config st with h | h | ⟨-, h⟩ | ⟨c, -, -, h⟩ <;> rw [h] <;>
    exact ⟨rfl, rfl, rfl, rfl, rfl, rfl⟩

/-- `Start`, `Stop` and `Handle` leave the worker pool alone. -/
theorem call_poolFrame (m : Manager) (ev : Event) (hev : ev.isCall) (m' : Manager)
    (h : m.step ev = some m') : PoolFrame m m' := by
  cases ev with
  | start read st =>
    cases h
    rcases Start_eq m read st with h | ⟨-, c, -, -, -, h⟩ <;> rw [h]
    · exact .rfl' m
    · exact startAndRun_poolFrame m c st
  | stop => cases h; exact Stop_poolFrame m
  | handle cmd =>
    cases h
    rcases Handle_eq m cmd with h | h | ⟨c, st, -, -, -, h⟩ <;> rw [h]
    · exact .rfl' m
    · exact Stop_poolFrame m
    · exact startAndRun_poolFrame m c st
  | _ => cases hev

/-- `rotateSlowLog` changes only `oldSlowLogs`. -/
theorem rotateSlowLog_eq (m : Manager) (config : Config) (interval : Interval)
    (rot : RotateSteps) :
    (m.rotateSlowLog config interval rot).1 =
      { m with oldSlowLogs := (m.rotateSlowLog config interval rot).1.oldSlowLogs } := by
  unfold rotateSlowLog
  split
  · dsimp only
    split <;> rfl
  · rfl

/-- The interval case of `run` drops the interval, or, while `workers` has fewer than
`MaxWorkers` entries, records and starts one new worker with the next number (and may
save a rotated slow log). -/
theorem runInterval_cases (m : Manager) (config : Config) (interval : Interval)
    (rot : RotateSteps) :
    m.runInterval config interval rot = m ∨
    ((m.workers.length : Int) < config.maxWorkers ∧ ∃ logs interval',
      m.runInterval config interval rot = { m with
        oldSlowLogs := logs, workers := m.workers ++ [(m.nextWorker, interval')],
        active := m.active ++ [m.nextWorker], nextWorker := m.nextWorker + 1 }) := by
  unfold runInterval
  by_cases hfull : (m.workers.length : Int) ≥ config.maxWorkers
  · exact .inl (if_pos hfull)
  rw [if_neg hfull]
  refine .inr ⟨by omega, ?_⟩
  dsimp only
  by_cases hrot : config.collectFrom = "slowlog" ∧ interval.endOffset ≥ config.maxSlowLogSize
  · rw [if_pos hrot, rotateSlowLog_eq m config interval rot]
    exact ⟨_, _, rfl⟩
  · rw [if_neg hrot]
    exact ⟨_, _, rfl⟩

/-- A worker goroutine returns only from `w.Run`, and only while `workerDoneChan` has
room; it moves from `active` to the channel. -/
theorem finish_eq {m m' : Manager} {w : Nat} (h : m.finish w = some m') :
    w ∈ m.active ∧ m.workerDoneChan.length < 2 ∧
      m' = { m with active := m.active.erase w, workerDoneChan := m.workerDoneChan ++ [w] } := by
  unfold finish at h
  split at h
  · rename_i hw
    cases h
    exact ⟨hw.1, hw.2, rfl⟩
  · cases h

/-- The worker-done case of `run` deletes the worker from `workers`, and changes only
`oldSlowLogs` and the files unlinked besides. -/
theorem runWorkerDone_eq (m : Manager) (config : Config) (w : Nat) (oks : List Bool) :
    ∃ logs removed, m.runWorkerDone config w oks = { m with
      workers := m.workers.filter (fun p => p.1 != w), oldSlowLogs := logs,
      removed := removed } := by
  unfold runWorkerDone
  split
  · exact ⟨_, _, rfl⟩
  · exact ⟨m.oldSlowLogs, m.removed, rfl⟩

/-- `run` takes an interval only while it runs, with the config of its goroutine. -/
theorem step_interval {m m' : Manager} {interval : Interval} {rot : RotateSteps}
    (h : m.step (.interval interval rot) = some m') :
    ∃ config rest, m.parsers = config :: rest ∧ m' = m.runInterval config interval rot := by
  simp only [step] at h
  split at h
  · rename_i config rest hp
    cases h
    exact ⟨config, rest, hp, rfl⟩
  · cases h

/-- `run` takes a done signal only while it runs and the signal waits in `workerDoneChan`. -/
theorem step_workerDone {m m' : Manager} {oks : List Bool}
    (h : m.step (.workerDone oks) = some m') :
    ∃ config rest w ws, m.parsers = config :: rest ∧ m.workerDoneChan = w :: ws ∧
      m' = { m with workerDoneChan := ws }.runWorkerDone config w oks := by
  simp only [step] at h
  split at h
  · rename_i config rest w ws hp hd
    cases h
    exact ⟨config, rest, w, ws, hp, hd, rfl⟩
  · cases h

end Manager

/-- The states some run reaches from `NewManager`. -/
inductive Reachable : Manager → Prop
  | init : Reachable Manager.NewManager
  | step {m m' : Manager} (ev : Event) : Reachable m → m.step ev = some m' → Reachable m'

/-- Every state a run reaches from a reachable state is reachable. -/
theorem Reachable.runs {m m' : Manager} (h : Reachable m) :
    ∀ {evs : List Event}, m.runs evs = some m' → Reachable m' := fun hm =>
  Manager.runs_inv Reachable (fun _ => True) (fun h _ hs => .step _ h hs) h (fun _ _ => trivial) hm

/-- A run from `NewManager` that ends where `p` holds reaches a state where `p` holds. -/
theorem Reachable.exists_of_runs (evs : List Event) (p : Manager → Bool)
    (hp : (Manager.NewManager.runs evs).map p = some true) :
    ∃ m, Reachable m ∧ p m = true := by
  cases hm : Manager.NewManager.runs evs with
  | none => simp [hm] at hp
  | some m => exact ⟨m, Reachable.init.runs hm, by simpa [hm] using hp⟩

/-- A config that passes `ValidateConfig`, for the slow log, with `MaxWorkers` `2`. -/
def slowLogConfig : Config :=
  { collectFrom := "slowlog", start := ["SET GLOBAL slow_query_log=ON"],
    stop := ["SET GLOBAL slow_query_log=OFF"], maxWorkers := 2, interval := 60,
    maxSlowLogSize := 1073741824, removeOldSlowLogs := true, workerRunTime := 55 }

example : ValidateConfig slowLogConfig = .ok slowLogConfig := rfl

/-- Every step of `start` succeeds, for a local instance. -/
def okSteps : StartSteps := ⟨none, "percona:percona@tcp(127.0.0.1:3306)/", none, none, none⟩

/-- No rotation is due. -/
def noRotate : RotateSteps := ⟨none, none, none, none, 0, 0⟩

end PerconaAgent.Qan
