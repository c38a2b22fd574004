import Mathlib.Data.List.Basic

/-!
# `PerconaAgent.Agent.Commands`: `Handle`, the agent's own commands, and its config

`Agent.Handle` (`agent/agent.go`) runs a command addressed to the agent itself, in a handler
goroutine of `cmdHandler`:
* `StartService` and `StopService` call the named service manager.
* `GetConfig` and `GetAllConfigs` report configs.
* `SetConfig` changes the API key and hostname.
* `Update` and `Version` ask the updater and the binary.

Every other command is an `UnknownCmdError`. `Handle` gathers the errors of the handler and
builds the reply from them.

`LoadConfig` reads `agent.conf` when the agent starts. It fills in the default API hostname
and rejects a config without an API key or agent UUID. `handleSetConfig` works on a copy of
the agent's config:
* it tries a new API key with `api.Connect`, then a new API hostname;
* it writes the copy to `agent.conf`;
* it makes the copy the agent's config.

A change whose `Connect` fails is left out of the copy, and its error is reported. A failed
`WriteConfig` is reported too, and the agent runs with the copy all the same.

The model is a record `Agent`: the registered services, the config, the API connector's
hostname, key and agent UUID, and what `agent.conf` holds. `Outcomes` holds what the
outside world answers one call. `pct/api.go`, `encoding/json` and `proto` are not under
`src/`, so three things come from the model:
* `Api.connect` states the connector's contract: on success it takes the three values it
  was given, on failure it keeps its own;
* the decoding of a command's data is an outcome;
* `marshal`, the JSON text of a config, is a parameter.

The stages of `handleSetConfig` are the functions of `SetConfigCall`, each proved once.
`Agent.handleSetConfig_errs` lists the errors a `SetConfig` reports, each after the name
of the step that failed.

* `Agent.runs_agrees`: over every run of `Handle` calls, one after the other and with any
  outcomes, the agent's config names the API hostname, key and agent UUID the connector
  uses, if it did at the start.
* `Agent.runs_restart_loads`: over every run in which no `WriteConfig` fails, `LoadConfig`
  on `agent.conf` gives back the config the agent runs with. A restart at any point
  resumes with it.

Left out: the status updates and the log lines, and what the service managers' `Start`,
`Stop` and `GetConfig` do (their results are outcomes).
-/

set_option autoImplicit false

namespace PerconaAgent.Commands

/-- `VERSION`. -/
def VERSION : String := "1.0.0"

/-- `agent.Config`, with the fields the handlers read and write. `links` are the API's
links, which `GetConfig` clears. -/
structure Config where
  apiHostname : String
  apiKey : String
  agentUuid : String
  links : List (String × String)
  deriving DecidableEq, Repr

/-- The API connector's `Hostname()`, `ApiKey()` and `AgentUuid()`. -/
structure Api where
  hostname : String
  apiKey : String
  agentUuid : String
  deriving DecidableEq, Repr

/-- `api.Connect(hostname, apiKey, agentUuid)` with its error: on success the connector
takes the three values, on failure it keeps its own. -/
def Api.connect (api : Api) (hostname apiKey agentUuid : String) : Option String → Api
  | some _ => api
  | none => ⟨hostname, apiKey, agentUuid⟩

/-- `LoadConfig`, from what `pct.Basedir.ReadConfig("agent", ...)` decodes: the config
with the default API hostname filled in, or the error of the first check it fails. -/
def LoadConfig (defaultApiHostname : String) : Except String Config → Except String Config
  | .error e => .error e
  | .ok config =>
    let config := if config.apiHostname = "" then { config with apiHostname := defaultApiHostname }
      else config
    if config.apiKey = "" then .error "Missing ApiKey"
    else if config.agentUuid = "" then .error "Missing AgentUuid"
    else .ok config

/-- `proto.AgentConfig`: the service, the JSON text of its config, and whether it runs. -/
structure AgentConfig where
  internalService : String
  config : String
  running : Bool
  deriving DecidableEq, Repr

/-- `proto.Version`: the version running and the version of the binary installed. -/
structure Version where
  running : String
  installed : String
  deriving DecidableEq, Repr

/-- The data of a reply of `Handle`. -/
inductive Data
  | none
  | configs (cs : List AgentConfig)
  | config (c : Config)
  | version (v : Version)
  deriving DecidableEq, Repr

/-- The errors `Handle` gathers: `pct.UnknownCmdError`, `pct.UnknownServiceError`, and the
error of a step, by its text. -/
inductive Error
  | unknownCmd (cmd : String)
  | unknownService (service : String)
  | failed (msg : String)
  deriving DecidableEq, Repr

/-- The fields of `Agent` that `Handle` reads and writes: the names of the registered
service managers, the config (behind `configMux`), the API connector, and what
`agent.conf` holds. -/
structure Agent where
  services : List String
  config : Config
  api : Api
  disk : Config
  deriving DecidableEq, Repr

/-- What the outside world answers one `Handle` call:
* the command's data decoded by `json.Unmarshal`, into `proto.ServiceData` (its `Name`) or
  into a `Config`;
* the error of the service manager's `Start` or `Stop`;
* the errors of the two `api.Connect` calls and of `WriteConfig` in `SetConfig`;
* the order of the `range` over `services`, and each manager's `GetConfig` (`none` for a
  nil manager);
* the error of `updater.Update`;
* for `Version`, the absolute path of `os.Args[0]` and the output of `-version`. -/
structure Outcomes where
  serviceData : Except String String
  newConfig : Except String Config
  serviceErr : Option String
  keyErr : Option String
  hostErr : Option String
  writeErr : Option String
  order : List String
  managerConfig : String → Option (List AgentConfig × List String)
  updateErr : Option String
  bin : Except String String
  installed : Except String String

/-- `handleStartService` and `handleStopService`: the error of decoding the command's data,
`UnknownServiceError` for a service with no manager, or the error of the manager's call. -/
def callService (services : List String) (data : Except String String) (err : Option String) :
    Option Error :=
  match data with
  | .error e => some (.failed e)
  | .ok name => if name ∈ services then err.map .failed else some (.unknownService name)

/-- `handleStartService`, with the error of the manager's `Start`. -/
def handleStartService (services : List String) (data : Except String String)
    (startErr : Option String) : Option Error :=
  callService services data startErr

/-- `handleStopService`, with the error of the manager's `Stop`. -/
def handleStopService (services : List String) (data : Except String String)
    (stopErr : Option String) : Option Error :=
  callService services data stopErr

/-- `handleUpdate`: an empty version is refused; any other is passed to `updater.Update`,
whose error is returned in a list of one, `nil` included. -/
def handleUpdate (version : String) (updateErr : Option String) : List (Option Error) :=
  if version = "" then [some (.failed ("Invalid version: '" ++ version ++ "'"))]
  else [updateErr.map .failed]

/-- `handleVersion`: the version running, and the output of `bin -version` unless the binary
is `percona-agent` itself. -/
def handleVersion (bin installed : Except String String) : Version × List (Option Error) :=
  let v : Version := ⟨VERSION, ""⟩
  match bin with
  | .error e => (v, [some (.failed e)])
  | .ok bin =>
    if bin.endsWith "percona-agent" then (v, [])
    else match installed with
      | .error e => (v, [some (.failed e)])
      | .ok out => ({ v with installed := out.trim }, [])

/-- A `handleSetConfig` call after it copied the agent's config: the decoded `newConfig`,
the copy `finalConfig` it edits, and the errors so far. -/
structure SetConfigCall where
  newConfig : Config
  finalConfig : Config
  errs : List String
  deriving DecidableEq, Repr

namespace SetConfigCall

/-- `finalConfig := *agent.config`, under `configMux.RLock()`. -/
def begin (a : Agent) (newConfig : Config) : SetConfigCall := ⟨newConfig, a.config, []⟩

/-- One of the two changes of `handleSetConfig`. The field `get` of `newConfig` is tried
with `connect` when it is set and differs from the copy's. On success the copy takes it;
on failure the error is reported after `label`. -/
def change (get : Config → String) (set : Config → String → Config)
    (connect : Api → String → Option String → Api) (label : String)
    (c : SetConfigCall) (api : Api) (err : Option String) : SetConfigCall × Api :=
  if get c.newConfig ≠ "" ∧ get c.newConfig ≠ get c.finalConfig then
    (match err with
      | some e => { c with errs := c.errs ++ [label ++ e] }
      | none => { c with finalConfig := set c.finalConfig (get c.newConfig) },
     connect api (get c.newConfig) err)
  else (c, api)

/-- "Change the API key": `api.Connect(api.Hostname(), newConfig.ApiKey, api.AgentUuid())`. -/
def changeApiKey : SetConfigCall → Api → Option String → SetConfigCall × Api :=
  change Config.apiKey (fun c v => { c with apiKey := v })
    (fun api v => api.connect api.hostname v api.agentUuid) "agent.api.Connect:ApiKey:"

/-- "Change the API hostname":
`api.Connect(newConfig.ApiHostname, api.ApiKey(), api.AgentUuid())`. -/
def changeApiHostname : SetConfigCall → Api → Option String → SetConfigCall × Api :=
  change Config.apiHostname (fun c v => { c with apiHostname := v })
    (fun api v => api.connect v api.apiKey api.agentUuid) "agent.api.Connect:ApiHostname:"

/-- `pct.Basedir.WriteConfig("agent", finalConfig)`: `agent.conf` holds the copy, or the
error is reported after `agent.WriteConfig:`. -/
def writeConfig (c : SetConfigCall) (disk : Config) : Option String → SetConfigCall × Config
  | some e => ({ c with errs := c.errs ++ ["agent.WriteConfig:" ++ e] }, disk)
  | none => (c, c.finalConfig)

end SetConfigCall

/-- The config names the API the connector uses: its hostname, key and agent UUID. -/
structure Agrees (config : Config) (api : Api) : Prop where
  hostname : config.apiHostname = api.hostname
  apiKey : config.apiKey = api.apiKey
  agentUuid : config.agentUuid = api.agentUuid

/-- What `LoadConfig` leaves in a config it accepts: an empty hostname only when the
default is empty, an API key and an agent UUID. -/
structure Loaded (defaultApiHostname : String) (config : Config) : Prop where
  hostname : config.apiHostname = "" → defaultApiHostname = ""
  apiKey : config.apiKey ≠ ""
  agentUuid : config.agentUuid ≠ ""

/-- A config `LoadConfig` accepts is `Loaded`. -/
theorem Loaded.of_LoadConfig {d : String} {r : Except String Config} {config : Config}
    (h : LoadConfig d r = .ok config) : Loaded d config := by
  cases r with
  | error e => cases h
  | ok c =>
    simp only [LoadConfig] at h
    split_ifs at h <;> cases h
    · exact ⟨fun h => h, ‹_›, ‹_›⟩
    · exact ⟨fun h => absurd h ‹_›, ‹_›, ‹_›⟩

/-- `LoadConfig` gives a `Loaded` config back as it is. -/
theorem Loaded.LoadConfig_eq {d : String} {config : Config} (h : Loaded d config) :
    LoadConfig d (.ok config) = .ok config := by
  have hdef : (if config.apiHostname = "" then { config with apiHostname := d } else config) =
      config := by
    split_ifs with hh
    · rw [h.hostname hh, ← hh]
    · rfl
  simp only [LoadConfig, hdef, if_neg h.apiKey, if_neg h.agentUuid]

namespace SetConfigCall

/-- A change keeps the copy naming the connector's API when a successful `connect` takes
the value the copy takes and a failed one changes nothing. -/
theorem change_agrees {get : Config → String} {set : Config → String → Config}
    {connect : Api → String → Option String → Api} {label : String}
    (hok : ∀ cfg api v, Agrees cfg api → Agrees (set cfg v) (connect api v none))
    (hfail : ∀ api v e, connect api v (some e) = api)
    {c : SetConfigCall} {api : Api} (err : Option String) (h : Agrees c.finalConfig api) :
    Agrees (c.change get set connect label api err).1.finalConfig
      (c.change get set connect label api err).2 := by
  unfold change
  split
  · cases err with
    | some e => simpa only [hfail] using h
    | none => exact hok _ _ _ h
  · exact h

/-- A change keeps the copy `Loaded` when the value it sets is never empty. -/
theorem change_loaded {d : String} {get : Config → String} {set : Config → String → Config}
    {connect : Api → String → Option String → Api} {label : String}
    (hset : ∀ cfg v, v ≠ "" → Loaded d cfg → Loaded d (set cfg v))
    {c : SetConfigCall} {api : Api} (err : Option String) (h : Loaded d c.finalConfig) :
    Loaded d (c.change get set connect label api err).1.finalConfig := by
  unfold change
  split
  · rename_i hv
    cases err with
    | some e => exact h
    | none => exact hset _ _ hv.1 h
  · exact h

theorem changeApiKey_agrees {c : SetConfigCall} {api : Api} (err : Option String)
    (h : Agrees c.finalConfig api) :
    Agrees (c.changeApiKey api err).1.finalConfig (c.changeApiKey api err).2 := by
  unfold changeApiKey
  refine change_agrees ?_ ?_ err h
  · exact fun _ _ _ h => ⟨h.hostname, rfl, h.agentUuid⟩
  · exact fun _ _ _ => rfl

theorem changeApiHostname_agrees {c : SetConfigCall} {api : Api} (err : Option String)
    (h : Agrees c.finalConfig api) :
    Agrees (c.changeApiHostname api err).1.finalConfig (c.changeApiHostname api err).2 := by
  unfold changeApiHostname
  refine change_agrees ?_ ?_ err h
  · exact fun _ _ _ h => ⟨rfl, h.apiKey, h.agentUuid⟩
  · exact fun _ _ _ => rfl

theorem changeApiKey_loaded {d : String} {c : SetConfigCall} {api : Api} (err : Option String)
    (h : Loaded d c.finalConfig) : Loaded d (c.changeApiKey api err).1.finalConfig := by
  unfold changeApiKey
  refine change_loaded ?_ err h
  exact fun _ _ hv h => ⟨h.hostname, hv, h.agentUuid⟩

theorem changeApiHostname_loaded {d : String} {c : SetConfigCall} {api : Api}
    (err : Option String) (h : Loaded d c.finalConfig) :
    Loaded d (c.changeApiHostname api err).1.finalConfig := by
  unfold changeApiHostname
  refine change_loaded ?_ err h
  exact fun _ _ hv h => ⟨fun h' => absurd h' hv, h.apiKey, h.agentUuid⟩

@[simp] theorem writeConfig_finalConfig (c : SetConfigCall) (disk : Config) (err : Option String) :
    (c.writeConfig disk err).1.finalConfig = c.finalConfig := by
  cases err <;> rfl

theorem change_errs (get : Config → String) (set : Config → String → Config)
    (connect : Api → String → Option String → Api) (label : String) (c : SetConfigCall)
    (api : Api) (err : Option String) :
    (c.change get set connect label api err).1.errs = c.errs ++
      if get c.newConfig ≠ "" ∧ get c.newConfig ≠ get c.finalConfig then
        err.toList.map (label ++ ·) else [] := by
  unfold change
  split_ifs <;> cases err <;> simp

theorem change_newConfig (get : Config → String) (set : Config → String → Config)
    (connect : Api → String → Option String → Api) (label : String) (c : SetConfigCall)
    (api : Api) (err : Option String) :
    (c.change get set connect label api err).1.newConfig = c.newConfig := by
  unfold change
  split_ifs <;> cases err <;> rfl

/-- The key change leaves the copy's hostname. -/
theorem changeApiKey_apiHostname (c : SetConfigCall) (api : Api) (err : Option String) :
    (c.changeApiKey api err).1.finalConfig.apiHostname = c.finalConfig.apiHostname := by
  unfold changeApiKey change
  split_ifs <;> cases err <;> rfl

theorem writeConfig_errs (c : SetConfigCall) (disk : Config) (err : Option String) :
    (c.writeConfig disk err).1.errs = c.errs ++ err.toList.map ("agent.WriteConfig:" ++ ·) := by
  cases err <;> simp [writeConfig]

end SetConfigCall

namespace Agent

section
variable (marshal : Config → String)

/-- `GetConfig`: the config without its `Links`, as the one `AgentConfig` of the running
agent. -/
def GetConfig (a : Agent) : List AgentConfig × List Error :=
  ([⟨"agent", marshal { a.config with links := [] }, true⟩], [])

/-- `handleGetAllConfigs`: the agent's config, then each service manager's in `order`, the
order of the `range` over `services`. A nil manager is skipped. When a manager's
`GetConfig` returns errors, its errors are kept and its configs skipped. -/
def handleGetAllConfigs (a : Agent) (order : List String)
    (managerConfig : String → Option (List AgentConfig × List String)) :
    List AgentConfig × List Error :=
  order.foldl (fun acc service =>
    match managerConfig service with
    | none => acc
    | some (configs, errs) =>
      if errs ≠ [] then (acc.1, acc.2 ++ errs.map .failed) else (acc.1 ++ configs, acc.2))
    (a.GetConfig marshal)

end

/-- `handleSetConfig`, its stages one after the other: the agent after it, the reply's data
and the errors. The agent takes the copy as its config whether or not `WriteConfig`
succeeded. -/
def handleSetConfig (a : Agent) (newConfig : Except String Config)
    (keyErr hostErr writeErr : Option String) : Agent × Data × List String :=
  match newConfig with
  | .error e => (a, .none, [e])
  | .ok newConfig =>
    let k := (SetConfigCall.begin a newConfig).changeApiKey a.api keyErr
    let h := k.1.changeApiHostname k.2 hostErr
    let w := h.1.writeConfig a.disk writeErr
    ({ a with config := w.1.finalConfig, api := h.2, disk := w.2 }, .config w.1.finalConfig,
      w.1.errs)

section
variable (marshal : Config → String)

/-- `Handle(cmd)`, with the command's name and data: the agent after the call, the reply's
data, and the errors the reply carries (`none` is a nil error). -/
def Handle (a : Agent) (cmd data : String) (o : Outcomes) : Agent × Data × List (Option Error) :=
  if cmd = "StartService" then
    (a, .none, ((handleStartService a.services o.serviceData o.serviceErr).map some).toList)
  else if cmd = "StopService" then
    (a, .none, ((handleStopService a.services o.serviceData o.serviceErr).map some).toList)
  else if cmd = "GetConfig" then
    (a, .configs (a.GetConfig marshal).1, (a.GetConfig marshal).2.map some)
  else if cmd = "GetAllConfigs" then
    let r := a.handleGetAllConfigs marshal o.order o.managerConfig
    (a, .configs r.1, r.2.map some)
  else if cmd = "SetConfig" then
    let r := a.handleSetConfig o.newConfig o.keyErr o.hostErr o.writeErr
    (r.1, r.2.1, r.2.2.map fun e => some (.failed e))
  else if cmd = "Update" then (a, .none, handleUpdate data o.updateErr)
  else if cmd = "Version" then
    let r := handleVersion o.bin o.installed
    (a, .version r.1, r.2)
  else (a, .none, [some (.unknownCmd cmd)])

/-- A run of `Handle` calls, one after the other. -/
def runs (a : Agent) : List (String × String × Outcomes) → Agent
  | [] => a
  | (cmd, data, o) :: cs => ((a.Handle marshal cmd data o).1).runs cs

/-- Only `SetConfig` changes the agent. -/
theorem Handle_fst (a : Agent) (cmd data : String) (o : Outcomes) :
    (a.Handle marshal cmd data o).1 =
      if cmd = "SetConfig" then (a.handleSetConfig o.newConfig o.keyErr o.hostErr o.writeErr).1
      else a := by
  by_cases hs : cmd = "SetConfig"
  · subst hs
    rfl
  · simp only [Handle, apply_ite Prod.fst, if_neg hs, ite_self]

/-- What every `handleSetConfig` with outcomes satisfying `Q` keeps holds along every run of
`Handle` calls with such outcomes. -/
theorem runs_inv (P : Agent → Prop) (Q : Outcomes → Prop)
    (hset : ∀ a o, P a → Q o →
      P (a.handleSetConfig o.newConfig o.keyErr o.hostErr o.writeErr).1) :
    ∀ (a : Agent) (cs : List (String × String × Outcomes)), P a → (∀ c ∈ cs, Q c.2.2) →
      P (a.runs marshal cs)
  | _, [], h, _ => h
  | a, (cmd, data, o) :: cs, h, hq => by
    refine runs_inv P Q hset _ cs ?_ fun c hc => hq c (.tail _ hc)
    rw [Handle_fst]
    split_ifs
    · exact hset a o h (hq _ (.head _))
    · exact h

end

/-- The errors of a `SetConfig` whose data decodes: one for each step that failed, in order,
each after the name of its step. A change is tried only when the new value is set and
differs from the agent's. -/
theorem handleSetConfig_errs (a : Agent) (n : Config) (keyErr hostErr writeErr : Option String) :
    (a.handleSetConfig (.ok n) keyErr hostErr writeErr).2.2 =
      (if n.apiKey ≠ "" ∧ n.apiKey ≠ a.config.apiKey then
        keyErr.toList.map ("agent.api.Connect:ApiKey:" ++ ·) else []) ++
      (if n.apiHostname ≠ "" ∧ n.apiHostname ≠ a.config.apiHostname then
        hostErr.toList.map ("agent.api.Connect:ApiHostname:" ++ ·) else []) ++
      writeErr.toList.map ("agent.WriteConfig:" ++ ·) := by
  simp only [handleSetConfig, SetConfigCall.writeConfig_errs, SetConfigCall.changeApiHostname,
    SetConfigCall.change_errs, SetConfigCall.change_newConfig,
    SetConfigCall.changeApiKey_apiHostname]
  simp only [SetConfigCall.changeApiKey, SetConfigCall.change_errs, SetConfigCall.change_newConfig,
    SetConfigCall.begin, List.nil_append]

/-- `handleSetConfig` keeps the config naming the connector's API. -/
theorem handleSetConfig_agrees {a : Agent} (newConfig : Except String Config)
    (keyErr hostErr writeErr : Option String) (h : Agrees a.config a.api) :
    Agrees (a.handleSetConfig newConfig keyErr hostErr writeErr).1.config
      (a.handleSetConfig newConfig keyErr hostErr writeErr).1.api := by
  cases newConfig with
  | error e => exact h
  | ok c =>
    simp only [handleSetConfig, SetConfigCall.writeConfig_finalConfig]
    exact SetConfigCall.changeApiHostname_agrees _ (SetConfigCall.changeApiKey_agrees _ h)

/-- `handleSetConfig` whose `WriteConfig` succeeds leaves in `agent.conf` a config that
`LoadConfig` gives back as the agent's config, when `agent.conf` held one before. -/
theorem handleSetConfig_restart_loads {d : String} {a : Agent} (newConfig : Except String Config)
    (keyErr hostErr : Option String) (h : LoadConfig d (.ok a.disk) = .ok a.config) :
    LoadConfig d (.ok (a.handleSetConfig newConfig keyErr hostErr none).1.disk) =
      .ok (a.handleSetConfig newConfig keyErr hostErr none).1.config := by
  cases newConfig with
  | error e => exact h
  | ok c =>
    simp only [handleSetConfig, SetConfigCall.writeConfig]
    exact (SetConfigCall.changeApiHostname_loaded _
      (SetConfigCall.changeApiKey_loaded _ (Loaded.of_LoadConfig h))).LoadConfig_eq

/-- An agent started from `agent.conf` with an empty hostname, connected to the API its
config names, with the managers of `qan` and `mm`. -/
def startedAgent : Agent :=
  ⟨["qan", "mm"], ⟨"cloud-api.percona.com", "123abc", "456-def-789", []⟩,
    ⟨"cloud-api.percona.com", "123abc", "456-def-789"⟩, ⟨"", "123abc", "456-def-789", []⟩⟩

/-- Outcomes where every call succeeds and the command's data decodes to nothing. -/
def okOutcomes : Outcomes :=
  ⟨.error "unexpected end of JSON input", .error "unexpected end of JSON input", none, none,
    none, none, [], fun _ => none, none, .error "", .error ""⟩

/-- A `SetConfig` that moves to another API host, one whose new key the API refuses, and a
`GetAllConfigs`. -/
def setConfigRun : List (String × String × Outcomes) :=
  [("SetConfig", "", { okOutcomes with newConfig := .ok ⟨"api2.percona.com", "", "", []⟩ }),
    ("SetConfig", "", { okOutcomes with
      newConfig := .ok ⟨"", "789xyz", "", []⟩, keyErr := some "401 Unauthorized" }),
    ("GetAllConfigs", "", okOutcomes)]

section
variable (marshal : Config → String)

/-- Over every run of `Handle` calls, one after the other and with any outcomes, the agent's
config names the API hostname, key and agent UUID the connector uses, if it did at the
start. -/
theorem runs_agrees (a : Agent) (h : Agrees a.config a.api)
    (cs : List (String × String × Outcomes)) :
    Agrees (a.runs marshal cs).config (a.runs marshal cs).api :=
  runs_inv marshal (fun a => Agrees a.config a.api) (fun _ => True)
    (fun _ _ h _ => handleSetConfig_agrees _ _ _ _ h) a cs h fun _ _ => trivial

/-- `runs_agrees` for `startedAgent` over `setConfigRun`. -/
theorem setConfigRun_agrees :
    Agrees startedAgent.config startedAgent.api ∧
      Agrees (startedAgent.runs (fun _ => "") setConfigRun).config
        (startedAgent.runs (fun _ => "") setConfigRun).api :=
  ⟨⟨rfl, rfl, rfl⟩, runs_agrees _ startedAgent ⟨rfl, rfl, rfl⟩ setConfigRun⟩

/-- Over every run of `Handle` calls in which no `WriteConfig` fails, from an agent whose
config `LoadConfig` read from `agent.conf`, `LoadConfig` on `agent.conf` gives back the
config the agent runs with: a restart at any point resumes with it. -/
theorem runs_restart_loads (d : String) (a : Agent) (h : LoadConfig d (.ok a.disk) = .ok a.config)
    (cs : List (String × String × Outcomes)) (hw : ∀ c ∈ cs, c.2.2.writeErr = none) :
    LoadConfig d (.ok (a.runs marshal cs).disk) = .ok (a.runs marshal cs).config :=
  runs_inv marshal (fun a => LoadConfig d (.ok a.disk) = .ok a.config) (fun o => o.writeErr = none)
    (fun _ o h hw => by rw [hw]; exact handleSetConfig_restart_loads _ _ _ h) a cs h hw

/-- `runs_restart_loads` for `startedAgent` over `setConfigRun`. -/
theorem setConfigRun_restart_loads :
    LoadConfig "cloud-api.percona.com" (.ok startedAgent.disk) = .ok startedAgent.config ∧
      (∀ c ∈ setConfigRun, c.2.2.writeErr = none) ∧
      LoadConfig "cloud-api.percona.com" (.ok (startedAgent.runs (fun _ => "") setConfigRun).disk) =
        .ok (startedAgent.runs (fun _ => "") setConfigRun).config :=
  have h₀ :
      LoadConfig "cloud-api.percona.com" (.ok startedAgent.disk) = .ok startedAgent.config :=
    rfl
  have hw : ∀ c ∈ setConfigRun, c.2.2.writeErr = none := by
    simp [setConfigRun, okOutcomes]
  ⟨h₀, hw, runs_restart_loads _ _ startedAgent h₀ setConfigRun hw⟩

end

end Agent

end PerconaAgent.Commands
