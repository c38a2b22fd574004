import Mathlib.Data.List.Basic

/-!
# `PerconaAgent.Mm.Monitor`: the MySQL metrics monitor never connects

The metrics monitor's `mysql` package (the `Monitor` of `mm`) has a `run` goroutine. On
each tick it gathers a collection of metrics and sends it on `collectionChan`, but only
while `m.connected` is true. `run` writes `m.connected` from what it receives on
`connectedChan` (capacity 1). The only sender on that channel is `connect`, a goroutine
that `run` starts first thing:

    if m.conn != nil {
        m.conn.Close()
    }
    for m.conn == nil {
        time.Sleep(m.backoff.Wait())
        db, err := sql.Open("mysql", m.config.DSN)
        if err != nil { ...; continue }
        if err := m.conn.Ping(); err != nil { ...; m.conn = nil; continue }
        m.conn = db
        ...
        m.connectedChan <- true
    }

The loop pings `m.conn`, not `db`, and its guard says `m.conn` is `nil` there.
`database/sql`'s `Ping` locks the `DB`'s mutex first, which dereferences the nil pointer and
panics. No `recover` stops the panic, so the process ends. When `m.conn` was already set,
`connect` closes it, skips the loop and returns without a new connection.

The model runs each `connect` goroutine to its end in one event. Its only writes to shared
state are to `m.conn` and `connectedChan`; `run` reads `m.conn` only while connected, and
when it returns. A `connect` event comes with the outcomes of `sql.Open` and `Ping` for each
pass of the loop. A tick comes with the metrics the `Get*Metrics` functions gathered and
whether the send beat its 500 ms timeout.

* `connectLoop_none`: without a previous connection, `connect` retries while `sql.Open`
  fails, and panics at the first `sql.Open` that succeeds.
* `run_never_collects`: on every run of `run` and its `connect` goroutines, `m.conn` stays
  `nil`, `m.connected` stays false and no collection is sent. A run in which some
  `sql.Open` succeeds ends there, with the process.

`Start` and `Stop` are empty, so nothing in the program starts `run` at all. The theorems
say what `run` does when it is started.
-/

set_option autoImplicit false

namespace PerconaAgent.Mm

/-- The `*sql.DB` that `m.conn` points to: whether `Close` was called on it. -/
structure Db where
  closed : Bool
  deriving DecidableEq, Repr

/-- `db.Close()`. -/
def Db.close (_ : Db) : Db := ⟨true⟩

/-- The outcomes of one pass of `connect`'s loop: the error of `sql.Open`, and the error
`Ping` returns when `m.conn` is not `nil`. -/
structure Attempt where
  openErr : Option String
  pingErr : Option String
  deriving DecidableEq, Repr

/-- How `connect` ends, with `m.conn` at the end: it returns when the loop guard is false;
it panics; or it sends `true` on `connectedChan`. `trying` is a `connect` still in its loop
after the passes it was given. -/
inductive Ended
  | returned (conn : Option Db)
  | panicked
  | connected (conn : Option Db)
  | trying (conn : Option Db)
  deriving DecidableEq, Repr

/-- `connect`'s `for m.conn == nil` loop from `m.conn = conn`, one pass per attempt. `Ping`
is called on `m.conn`: a `nil` `m.conn` panics. -/
def connectLoop : Option Db → List Attempt → Ended
  | conn, [] => if conn.isNone then .trying conn else .returned conn
  | conn, a :: rest =>
    if conn.isNone then
      match a.openErr with
      | some _ => connectLoop conn rest
      | none =>
        match conn with
        | none => .panicked
        | some _ =>
          match a.pingErr with
          | some _ => connectLoop none rest
          | none => .connected (some ⟨false⟩)
    else .returned conn

/-- `connect`: close `m.conn` if it is set, then the loop. -/
def connect (conn : Option Db) (attempts : List Attempt) : Ended :=
  connectLoop (conn.map Db.close) attempts

/-- From `m.conn = nil` the loop retries while `sql.Open` fails and panics at the first
`sql.Open` that succeeds. -/
theorem connectLoop_none (attempts : List Attempt) :
    connectLoop none attempts =
      if attempts.all (fun a => a.openErr.isSome) then .trying none else .panicked := by
  induction attempts with
  | nil => rfl
  | cons a rest ih =>
    cases h : a.openErr with
    | some _ => simp only [connectLoop, Option.isNone_none, if_true, h, ih, List.all_cons,
        Option.isSome_some, Bool.true_and]
    | none => simp [connectLoop, h]

/-- `mm.Metric`: a name and a value. -/
structure Metric where
  name : String
  value : Float
  deriving Repr

/-- `mm.Collection`: the tick's Unix time and the metrics. -/
structure Collection where
  startTs : Int
  metrics : List Metric
  deriving Repr

/-- The fields of `Monitor` that `run` and `connect` share, with the collections `run` sent
on `collectionChan` and the `connect` goroutines still in their loop. `running` is `run`
in its loop; `crashed` is the end of the process after a panic. -/
structure Monitor where
  conn : Option Db
  connected : Bool
  connectedChan : List Bool
  connecting : Nat
  sent : List Collection
  running : Bool
  crashed : Bool
  deriving Repr

/-- `NewMonitor`, then the start of `run`: `go m.connect()`. -/
def Monitor.init : Monitor :=
  { conn := none, connected := false, connectedChan := [], connecting := 1, sent := [],
    running := true, crashed := false }

/-- What happens to the monitor: a tick (its time, the metrics gathered, and whether the send
beat the timeout), `run` receiving on `connectedChan`, a `connect` goroutine running through
its passes, and `run` receiving on `StopChan`. -/
inductive Event
  | tick (now : Int) (metrics : List Metric) (sendOk : Bool)
  | recvConnected
  | connect (attempts : List Attempt)
  | stop
  deriving Repr

namespace Monitor

/-- The tick case of `run`: a collection is sent only while connected, when it holds a
metric and the send beats its timeout. -/
def tick (m : Monitor) (now : Int) (metrics : List Metric) (sendOk : Bool) : Monitor :=
  if m.connected then
    if 0 < metrics.length ∧ sendOk then { m with sent := m.sent ++ [⟨now, metrics⟩] } else m
  else m

/-- The `connectedChan` case of `run`: `false` starts another `connect`. -/
def recvConnected (m : Monitor) (connected : Bool) (rest : List Bool) : Monitor :=
  { m with
    connected := connected, connectedChan := rest,
    connecting := if connected then m.connecting else m.connecting + 1 }

/-- A `connect` goroutine runs through `attempts` from the current `m.conn`. The send on
`connectedChan` blocks while the channel is full. -/
def connectRun (m : Monitor) (attempts : List Attempt) : Option Monitor :=
  match connect m.conn attempts with
  | .returned conn => some { m with conn := conn, connecting := m.connecting - 1 }
  | .panicked => some { m with crashed := true }
  | .connected conn =>
    if m.connectedChan.length < 1 then
      some { m with
        conn := conn, connectedChan := m.connectedChan ++ [true],
        connecting := m.connecting - 1 }
    else none
  | .trying conn => some { m with conn := conn }

/-- One event; nothing happens after the process ends. -/
def step (m : Monitor) : Event → Option Monitor
  | .tick now metrics sendOk =>
    if m.running ∧ !m.crashed then some (m.tick now metrics sendOk) else none
  | .recvConnected =>
    match m.connectedChan with
    | c :: rest => if m.running ∧ !m.crashed then some (m.recvConnected c rest) else none
    | [] => none
  | .connect attempts =>
    if 0 < m.connecting ∧ !m.crashed then m.connectRun attempts else none
  | .stop => if m.running ∧ !m.crashed then some { m with running := false } else none

/-- A run of events; `none` as soon as one cannot happen. -/
def runs (m : Monitor) : List Event → Option Monitor
  | [] => some m
  | ev :: evs => (m.step ev).bind fun m' => m'.runs evs

/-- A property every step keeps holds at the end of every run. -/
theorem runs_inv (P : Monitor → Prop)
    (hstep : ∀ m m' ev, P m → m.step ev = some m' → P m') :
    ∀ (evs : List Event) (m m' : Monitor), P m → m.runs evs = some m' → P m'
  | [], m, m', hm, h => by cases h; exact hm
  | ev :: evs, m, m', hm, h => by
    obtain ⟨m₁, h₁, h₂⟩ := Option.bind_eq_some.mp h
    exact runs_inv P hstep evs m₁ m' (hstep m m₁ ev hm h₁) h₂

/-- What `run` and `connect` keep from the start: no connection, nothing on `connectedChan`,
not connected, nothing sent. -/
structure Idle (m : Monitor) : Prop where
  conn : m.conn = none
  chan : m.connectedChan = []
  connected : m.connected = false
  sent : m.sent = []

/-- From `m.conn = nil` a `connect` goroutine keeps trying, or it panics and ends the
process. -/
theorem connectRun_of_none {m : Monitor} (attempts : List Attempt) (hc : m.conn = none) :
    m.connectRun attempts =
      some (if attempts.all (fun a => a.openErr.isSome) then m
        else { m with crashed := true }) := by
  unfold connectRun connect
  rw [hc, Option.map_none', connectLoop_none]
  by_cases hall : attempts.all (fun a => a.openErr.isSome) = true
  · rw [if_pos hall, if_pos hall]
    obtain ⟨conn⟩ := m
    dsimp only at hc
    subst hc
    rfl
  · rw [if_neg hall, if_neg hall]

theorem Idle.step {m m' : Monitor} {ev : Event} (hm : Idle m) (h : m.step ev = some m') :
    Idle m' := by
  obtain ⟨hc, hch, hcon, hs⟩ := hm
  cases ev with
  | tick now metrics sendOk =>
    simp only [Monitor.step] at h
    split at h <;> cases h
    simp only [tick, hcon]
    exact ⟨hc, hch, hcon, hs⟩
  | recvConnected => simp [Monitor.step, hch] at h
  | connect attempts =>
    simp only [Monitor.step] at h
    split at h
    · rw [connectRun_of_none attempts hc] at h
      cases h
      split <;> exact ⟨hc, hch, hcon, hs⟩
    · cases h
  | stop =>
    simp only [Monitor.step] at h
    split at h <;> cases h
    exact ⟨hc, hch, hcon, hs⟩

/-- On every run of `run` and its `connect` goroutines, `m.conn` stays `nil`, `m.connected`
stays false and no collection is sent; and a `connect` whose `sql.Open` succeeds ends the
process: nothing happens after it. -/
theorem run_never_collects (evs : List Event) (m : Monitor) (h : init.runs evs = some m) :
    m.conn = none ∧ m.connected = false ∧ m.sent = [] ∧
      ∀ attempts, (∃ a ∈ attempts, a.openErr = none) →
        ∀ m', m.step (.connect attempts) = some m' → m'.crashed = true := by
  have hm : Idle m := runs_inv Idle (fun _ _ _ hm h => hm.step h) evs init m
    ⟨rfl, rfl, rfl, rfl⟩ h
  refine ⟨hm.conn, hm.connected, hm.sent, fun attempts ⟨a, ha, hopen⟩ m' h' => ?_⟩
  have hall : attempts.all (fun a => a.openErr.isSome) = false :=
    List.all_eq_false.mpr ⟨a, ha, by simp [hopen]⟩
  simp only [Monitor.step] at h'
  split at h'
  · rw [connectRun_of_none attempts hm.conn, hall] at h'
    cases h'
    rfl
  · cases h'

/-- Ticks before and after a `connect` whose `sql.Open` fails: nothing is sent. -/
theorem failedOpen_never_collects :
    init.runs [.tick 1 [⟨"mysql/threads_connected", 1⟩] true, .connect [⟨some "dial tcp", none⟩],
        .tick 2 [⟨"mysql/threads_connected", 2⟩] true] = some init ∧
      init.conn = none ∧ init.connected = false ∧ init.sent = [] ∧
      ∀ attempts, (∃ a ∈ attempts, a.openErr = none) →
        ∀ m', init.step (.connect attempts) = some m' → m'.crashed = true :=
  ⟨rfl, run_never_collects [.tick 1 [⟨"mysql/threads_connected", 1⟩] true,
    .connect [⟨some "dial tcp", none⟩], .tick 2 [⟨"mysql/threads_connected", 2⟩] true] init rfl⟩

end Monitor

end PerconaAgent.Mm
