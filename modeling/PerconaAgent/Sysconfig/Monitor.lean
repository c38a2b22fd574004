import PerconaAgent.Qan.Manager

/-!
# `PerconaAgent.Sysconfig.Monitor`: the MySQL settings reports

The sysconfig `Monitor` of the `mysql` package (`src/unnamed/part_001`) reports a server's
global variables. `Start` launches `run` unless the monitor is running, and returns
`pct.ServiceIsRunningError` if it is. `Stop` stops `run`, waits for it and clears `running`;
`run` sets its status to "Stopped" as it returns. On each tick `run` connects, builds a
report with `GetGlobalVariables` and sends it on `reportChan` if it holds a setting, giving
up after 500 ms. `GetGlobalVariables` lower-cases each variable's name and returns at the
first failed `Scan`; the rows scanned before stay in the report:

    if err := m.GetGlobalVariables(m.conn.DB(), c); err != nil {
        m.logger.Warn(err)
    }
    ...
    if len(c.Settings) > 0 {

so a report cut short by a failed `Scan` is sent like a whole one.

The model keeps the monitor's two status entries (`name` and `name-mysql`, `none` until this
code sets them), the number of `run` goroutines and the reports sent. `Start`, `Stop` and the
ticks come in any order. `Start` and `Stop` are called from one goroutine, and `Stop` waits
for `run` to return. The outcomes of `Connect`, of the query and its `Scan`s, and of the send
are parameters of a tick.

* `cutShort_sent_like_whole`: the report gets the rows before the first failed `Scan`, names
  lower-cased and in order, and the error is the `Scan`'s. A tick that sends it leaves the
  monitor as a tick whose query returned just those rows.
* `monitor_lifecycle`: from `NewMonitor`, over every sequence of `Start`, `Stop` and ticks,
  one `run` goroutine runs while the monitor is running and none otherwise. A stopped
  monitor's status is "Stopped" or was never set. Every report sent holds a setting and
  carries the config's service and instance.
-/

set_option autoImplicit false

namespace PerconaAgent.Sysconfig

open PerconaAgent.Qan (Error)

/-- `sysconfig.Setting`: a variable's name and value. -/
structure Setting where
  name : String
  value : String
  deriving DecidableEq, Repr

/-- A scanned row as `GetGlobalVariables` appends it: the name lower-cased. -/
def Setting.ofRow (row : String × String) : Setting := ⟨row.1.toLower, row.2⟩

/-- `sysconfig.Report`, with the service instance it is about. -/
structure Report where
  service : String
  instanceId : Nat
  ts : Int
  system : String
  settings : List Setting
  deriving DecidableEq, Repr

/-- The fields of the monitor's `Config` that `run` reads. -/
structure Config where
  service : String
  instanceId : Nat
  deriving DecidableEq, Repr

/-- The result of `SHOW GLOBAL VARIABLES` as `GetGlobalVariables` reads it: each row scans
to a name and a value or its `Scan` fails, and `err` is what `rows.Err()` returns after the
last row. -/
structure Rows where
  scans : List (Except String (String × String))
  err : Option String

/-- The `for rows.Next()` loop: each scanned row is appended; a failed `Scan` returns. -/
def scanRows (settings : List Setting) :
    List (Except String (String × String)) → List Setting × Option String
  | [] => (settings, none)
  | .error e :: _ => (settings, some e)
  | .ok row :: rest => scanRows (settings ++ [Setting.ofRow row]) rest

/-- `GetGlobalVariables(conn, c)` with the result of the query: the report with the rows
appended, and the error. -/
def GetGlobalVariables (query : Except String Rows) (c : Report) : Report × Option String :=
  match query with
  | .error e => (c, some e)
  | .ok rows =>
    match scanRows c.settings rows.scans with
    | (settings, some e) => ({ c with settings := settings }, some e)
    | (settings, none) => ({ c with settings := settings }, rows.err)

/-- Rows that scan are appended, in order. -/
theorem scanRows_ok (settings : List Setting) (oks : List (String × String))
    (rest : List (Except String (String × String))) :
    scanRows settings (oks.map .ok ++ rest) =
      scanRows (settings ++ oks.map Setting.ofRow) rest := by
  induction oks generalizing settings with
  | nil => simp
  | cons row oks ih => simp [scanRows, ih]

/-- `GetGlobalVariables` keeps the rows before the first failed `Scan`, names lower-cased
and in order, and returns that `Scan`'s error; when every row scans, it keeps them all and
returns `rows.Err()`. -/
theorem GetGlobalVariables_eq (c : Report) (oks : List (String × String)) (err : Option String) :
    (∀ e rest, GetGlobalVariables (.ok ⟨oks.map .ok ++ .error e :: rest, err⟩) c =
      ({ c with settings := c.settings ++ oks.map Setting.ofRow }, some e)) ∧
    GetGlobalVariables (.ok ⟨oks.map .ok, err⟩) c =
      ({ c with settings := c.settings ++ oks.map Setting.ofRow }, err) := by
  refine ⟨fun e rest => ?_, ?_⟩
  · simp only [GetGlobalVariables, scanRows_ok]
    rfl
  · have h := scanRows_ok c.settings oks []
    rw [List.append_nil] at h
    simp only [GetGlobalVariables, h]
    rfl

/-- The monitor: its name and config, `running`, the `run` goroutines alive, its two status
entries, and the reports sent on `reportChan`. -/
structure Monitor where
  name : String
  config : Config
  running : Bool
  runGoroutines : Nat
  status : Option String
  mysqlStatus : Option String
  sent : List Report
  deriving DecidableEq, Repr

/-- `NewMonitor`. -/
def NewMonitor (name : String) (config : Config) : Monitor :=
  { name := name, config := config, running := false, runGoroutines := 0, status := none,
    mysqlStatus := none, sent := [] }

namespace Monitor

/-- `Start`: `go m.run()` unless the monitor is running. -/
def Start (m : Monitor) : Monitor × Option Error :=
  if m.running then (m, some (.serviceIsRunning m.name))
  else ({ m with status := some "Starting", running := true, runGoroutines := m.runGoroutines + 1 },
    none)

/-- `Stop`: `run` returns with its status "Stopped", then `running` is cleared. -/
def Stop (m : Monitor) : Monitor × Option Error :=
  if !m.running then (m, none)
  else ({ m with status := some "Stopped", running := false, runGoroutines := m.runGoroutines - 1 },
    none)

/-- The tick case of `run`, at the tick `now`: `Connect`, the report, and its send within
500 ms when it holds a setting; `run` is at its `select` again after it. -/
def tick (m : Monitor) (now : Int) (connectErr : Option String) (query : Except String Rows)
    (sendOk : Bool) : Monitor :=
  match connectErr with
  | some err => { m with mysqlStatus := some ("Error: " ++ err), status := some "Ready" }
  | none =>
    let c := (GetGlobalVariables query
      ⟨m.config.service, m.config.instanceId, now, "mysql global variables", []⟩).1
    let m := { m with mysqlStatus := some "Disconnected (OK)", status := some "Ready" }
    if 0 < c.settings.length ∧ sendOk then { m with sent := m.sent ++ [c] } else m

/-- What happens to the monitor: `Start`, `Stop`, and a tick with the outcomes of
`Connect`, the query and the send. -/
inductive Event
  | start
  | stop
  | tick (now : Int) (connectErr : Option String) (query : Except String Rows) (sendOk : Bool)

/-- One event; a tick needs a `run` goroutine to take it. -/
def step (m : Monitor) : Event → Option Monitor
  | .start => some m.Start.1
  | .stop => some m.Stop.1
  | .tick now connectErr query sendOk =>
    if 0 < m.runGoroutines then some (m.tick now connectErr query sendOk) else none

/-- A run of events; `none` as soon as one cannot happen. -/
def runs (m : Monitor) : List Event → Option Monitor
  | [] => some m
  | ev :: evs => (m.step ev).bind fun m' => m'.runs evs

/-- A property every step keeps holds at the end of every run. -/
theorem runs_inv (P : Monitor → Prop)
    (hstep : ∀ m m' ev, P m → m.step ev = some m' → P m') :
    ∀ (evs : List Event) (m m' : Monitor), P m → m.runs evs = some m' → P m'
  | [], m, m', hm, h => by cases h; exact hm
  | ev :: evs, m, m', hm, h => by
    obtain ⟨m₁, h₁, h₂⟩ := Option.bind_eq_some.mp h
    exact runs_inv P hstep evs m₁ m' (hstep m m₁ ev hm h₁) h₂

/-- A report as `run` sends it: it holds a setting and names the config's service and
instance. -/
structure Labelled (config : Config) (r : Report) : Prop where
  nonempty : 0 < r.settings.length
  system : r.system = "mysql global variables"
  service : r.service = config.service
  instanceId : r.instanceId = config.instanceId

/-- What the monitor keeps from `NewMonitor` on. -/
structure Sound (m : Monitor) : Prop where
  goroutines : m.runGoroutines = if m.running then 1 else 0
  stopped : m.running = false → m.status = none ∨ m.status = some "Stopped"
  sent : ∀ r ∈ m.sent, Labelled m.config r

theorem GetGlobalVariables_fst_config (query : Except String Rows) (c : Report) :
    (GetGlobalVariables query c).1.service = c.service ∧
      (GetGlobalVariables query c).1.instanceId = c.instanceId ∧
      (GetGlobalVariables query c).1.system = c.system := by
  unfold GetGlobalVariables
  split
  · exact ⟨rfl, rfl, rfl⟩
  · split <;> exact ⟨rfl, rfl, rfl⟩

section
variable (m : Monitor) (now : Int) (connectErr : Option String) (query : Except String Rows)
  (sendOk : Bool)

@[simp] theorem tick_running : (m.tick now connectErr query sendOk).running = m.running := by
  unfold Monitor.tick; split
  · rfl
  · dsimp only; split <;> rfl

@[simp] theorem tick_runGoroutines :
    (m.tick now connectErr query sendOk).runGoroutines = m.runGoroutines := by
  unfold Monitor.tick; split
  · rfl
  · dsimp only; split <;> rfl

@[simp] theorem tick_config : (m.tick now connectErr query sendOk).config = m.config := by
  unfold Monitor.tick; split
  · rfl
  · dsimp only; split <;> rfl

/-- A tick sends nothing, or one labelled report. -/
theorem tick_sent :
    (m.tick now connectErr query sendOk).sent = m.sent ∨
      ∃ r, (m.tick now connectErr query sendOk).sent = m.sent ++ [r] ∧ Labelled m.config r := by
  unfold Monitor.tick
  split
  · exact .inl rfl
  · obtain ⟨h₁, h₂, h₃⟩ := GetGlobalVariables_fst_config query
      ⟨m.config.service, m.config.instanceId, now, "mysql global variables", []⟩
    dsimp only
    split
    · next hc => exact .inr ⟨_, rfl, hc.1, h₃, h₁, h₂⟩
    · exact .inl rfl
end

/-- `GetGlobalVariables` keeps the rows before the first failed `Scan`, names lower-cased and
in order, and returns that `Scan`'s error; when every row scans it keeps them all and returns
`rows.Err()`. `run` only logs the error, so a tick whose `Scan` fails after the rows `oks`
leaves the monitor as a tick whose query returned just those rows: the report cut short is
sent, when `oks` is not empty and the send beats its timeout, like a whole one. -/
theorem cutShort_sent_like_whole (m : Monitor) (now : Int) (oks : List (String × String))
    (e : String) (rest : List (Except String (String × String))) (err : Option String)
    (sendOk : Bool) :
    (∀ c, GetGlobalVariables (.ok ⟨oks.map .ok ++ .error e :: rest, err⟩) c =
      ({ c with settings := c.settings ++ oks.map Setting.ofRow }, some e)) ∧
    (∀ c, GetGlobalVariables (.ok ⟨oks.map .ok, err⟩) c =
      ({ c with settings := c.settings ++ oks.map Setting.ofRow }, err)) ∧
    m.tick now none (.ok ⟨oks.map .ok ++ .error e :: rest, err⟩) sendOk =
      m.tick now none (.ok ⟨oks.map .ok, err⟩) sendOk ∧
    (oks ≠ [] → (m.tick now none (.ok ⟨oks.map .ok ++ .error e :: rest, err⟩) true).sent =
      m.sent ++ [⟨m.config.service, m.config.instanceId, now, "mysql global variables",
        oks.map Setting.ofRow⟩]) := by
  have hcut := fun c => (GetGlobalVariables_eq c oks err).1 e rest
  refine ⟨hcut, fun c => (GetGlobalVariables_eq c oks err).2, ?_, fun hne => ?_⟩
  · simp only [Monitor.tick, hcut, (GetGlobalVariables_eq _ oks err).2]
  · have hpos : 0 < (oks.map Setting.ofRow).length := by
      simpa [List.length_pos] using hne
    simp only [Monitor.tick, hcut, List.nil_append, hpos, and_self, if_true]

/-- The sysconfig monitor's first tick, whose second row fails to scan: its report holds the
first row and is sent. -/
theorem scanError_report_sent :
    let m := (NewMonitor "mysql-sysconfig" ⟨"mysql", 1⟩).Start.1
    [("Max_connections", "151")] ≠ [] ∧
      m.tick 60 none (.ok ⟨[.ok ("Max_connections", "151"), .error "sql: Scan error"], none⟩)
          true = m.tick 60 none (.ok ⟨[.ok ("Max_connections", "151")], none⟩) true ∧
      (m.tick 60 none (.ok ⟨[.ok ("Max_connections", "151"), .error "sql: Scan error"], none⟩)
          true).sent =
        [⟨"mysql", 1, 60, "mysql global variables",
          [Setting.ofRow ("Max_connections", "151")]⟩] :=
  have h := cutShort_sent_like_whole (NewMonitor "mysql-sysconfig" ⟨"mysql", 1⟩).Start.1 60
    [("Max_connections", "151")] "sql: Scan error" [] none true
  ⟨by decide, h.2.2.1, h.2.2.2 (by decide)⟩

/-- A tick of a running monitor keeps the invariant. -/
theorem Sound.tick {m : Monitor} (hm : Sound m) (hr : m.running = true) (now : Int)
    (connectErr : Option String) (query : Except String Rows) (sendOk : Bool) :
    Sound (m.tick now connectErr query sendOk) := by
  refine ⟨by simpa using hm.goroutines, fun h => by simp [hr] at h, ?_⟩
  rw [tick_config]
  rcases tick_sent m now connectErr query sendOk with h | ⟨r, h, hl⟩
  · exact h ▸ hm.sent
  · intro r' hr'
    rw [h] at hr'
    rcases List.mem_append.mp hr' with hr' | hr'
    · exact hm.sent r' hr'
    · exact List.mem_singleton.mp hr' ▸ hl

theorem Sound.step {m m' : Monitor} {ev : Event} (hm : Sound m) (h : m.step ev = some m') :
    Sound m' := by
  cases ev with
  | start =>
    cases h
    unfold Start
    split
    · exact hm
    · next hr =>
      simp only [Bool.not_eq_true] at hr
      exact ⟨by simp [hm.goroutines, hr], by simp, hm.sent⟩
  | stop =>
    cases h
    unfold Stop
    split
    · exact hm
    · next hr =>
      simp only [Bool.not_eq_true', Bool.not_eq_false] at hr
      exact ⟨by simp [hm.goroutines, hr], by simp, hm.sent⟩
  | tick now connectErr query sendOk =>
    simp only [Monitor.step] at h
    split at h
    · next hg =>
      cases h
      have hr : m.running = true := by
        by_contra hr
        simp [hm.goroutines, hr] at hg
      exact hm.tick hr now connectErr query sendOk
    · cases h

/-- From `NewMonitor`, over every sequence of `Start`, `Stop` and ticks: one `run` goroutine
runs while the monitor is running and none otherwise; a stopped monitor's status is "Stopped"
or was never set; and every report sent holds a setting, is labelled
"mysql global variables", and carries the config's service and instance. -/
theorem monitor_lifecycle (name : String) (config : Config) (evs : List Event) (m : Monitor)
    (h : (NewMonitor name config).runs evs = some m) :
    m.runGoroutines = (if m.running then 1 else 0) ∧
      (m.running = false → m.status = none ∨ m.status = some "Stopped") ∧
      ∀ r ∈ m.sent, 0 < r.settings.length ∧ r.system = "mysql global variables" ∧
        r.service = config.service ∧ r.instanceId = config.instanceId := by
  have hc : m.config = config :=
    runs_inv (fun m' => m'.config = config) (fun _ _ ev hm h => by
      cases ev with
      | start => cases h; unfold Start; split <;> exact hm
      | stop => cases h; unfold Stop; split <;> exact hm
      | tick =>
        simp only [Monitor.step] at h
        split at h <;> cases h
        rw [tick_config, hm]) evs _ m rfl h
  have hs : Sound m := runs_inv Sound (fun _ _ _ hm h => hm.step h) evs _ m
    ⟨rfl, fun _ => .inl rfl, fun _ h => (List.not_mem_nil _ h).elim⟩ h
  refine ⟨hs.goroutines, hs.stopped, fun r hr => ?_⟩
  obtain ⟨h₁, h₂, h₃, h₄⟩ := hs.sent r hr
  exact ⟨h₁, h₂, hc ▸ h₃, hc ▸ h₄⟩

/-- `Start`; a tick whose second row fails to scan, so its report keeps the first; `Start`
again, which is refused; and `Stop`. -/
theorem partialReport_lifecycle :
    ∃ m, (NewMonitor "mysql-sysconfig" ⟨"mysql", 1⟩).runs
        [.start, .tick 60 none (.ok ⟨[.ok ("Max_connections", "151"), .error "sql: Scan error"],
          none⟩) true, .start, .stop] = some m ∧
      m.runGoroutines = (if m.running then 1 else 0) ∧
      (m.running = false → m.status = none ∨ m.status = some "Stopped") ∧
      ∀ r ∈ m.sent, 0 < r.settings.length ∧ r.system = "mysql global variables" ∧
        r.service = "mysql" ∧ r.instanceId = 1 :=
  ⟨_, rfl, monitor_lifecycle "mysql-sysconfig" ⟨"mysql", 1⟩
    [.start, .tick 60 none (.ok ⟨[.ok ("Max_connections", "151"), .error "sql: Scan error"],
      none⟩) true, .start, .stop] _ rfl⟩

end Monitor

end PerconaAgent.Sysconfig
