import Mathlib.Data.List.Basic

/-!
# `PerconaAgent.Log.Relay`: the log relay and its `Run` loop

`Relay` (`log/relay.go`) is the one goroutine that ships log entries to the API. Loggers
send entries on its `logChan`, a channel of capacity `3 * BUFFER_SIZE`. `Run` takes them
one at a time. An entry is dropped when its level is above `logLevel`. Otherwise it is
sent to the transport while the websocket is connected, and handed to `buffer` while it is
not or when the send fails. A connect event calls `resend`, which flushes `firstBuf`, a
`Lost N log entries` warning, and `secondBuf`.

The model is a state record `Relay` and a step function `Relay.step` over the events of
one run: a producer's send on `logChan`, and the four cases of `Run`'s `select`. The
outcome of every `client.Send` is part of the event, so a run ranges over every pattern of
successes and failures. Go's index write panics outside the slice: `buffer` returns
`none` there.

`Run` sends its own warnings on `logChan` through `internal`, and that send blocks while
the channel is full. `Pc.internal` is `Run` blocked there. The entry it sends and the rest
of the `select` case wait in the `Pc` until `Event.unblock` finds room.

`Relay.Audit` holds auxiliary fields that no code reads: the entries `Run` received, the
calls of `buffer`, the entries a `resend` delivered, and the total added to `lost`.
Left out: the file sink's writes, the `Status` sent on `statusChan` (a non-blocking send
that changes no field), the time stamps, and the reconnect goroutines (connect events come
from the environment). A relay without a client is left out too: `Run` evaluates
`r.client.ConnectChan()` in its `select`.
-/

set_option autoImplicit false

namespace PerconaAgent.Log

/-- `BUFFER_SIZE`: the number of slots of `firstBuf` and of `secondBuf`. -/
def BUFFER_SIZE : Nat := 10

/-- The capacity of `logChan`, `make(chan *proto.LogEntry, BUFFER_SIZE*3)`. -/
def logChanSize : Nat := BUFFER_SIZE * 3

/-- The `proto` log levels the relay reads. `proto` is not under `src/`, so its constants
are a parameter: `emergency` and `debug` bound a valid level in `setLogLevel`, and
`warning` is the level of the relay's own entries. -/
structure Levels where
  emergency : UInt8
  warning : UInt8
  debug : UInt8

/-- The syslog numbering, `LOG_EMERGENCY = 0` to `LOG_DEBUG = 7`, for the concrete runs. -/
def Levels.syslog : Levels := ⟨0, 4, 7⟩

/-- `proto.LogEntry`, without its time stamp, which the relay never reads. -/
structure LogEntry where
  service : String
  level : UInt8
  msg : String
  deriving DecidableEq, Repr

/-- What the transport accepted. The `Lost N log entries` warning of `resend` is kept as
its count `N`; every other entry is sent as `Run` received it. -/
inductive Sent
  | entry (e : LogEntry)
  | lost (n : Int)
  deriving DecidableEq, Repr

/-- The entry of a `Sent`, `none` for a lost-count warning. -/
def Sent.entry? : Sent → Option LogEntry
  | .entry e => some e
  | .lost _ => none

/-- One of the two buffers: `firstBuf` with `firstBufSize`, or `secondBuf` with
`secondBufSize`. The slice is made with `BUFFER_SIZE` slots and never resliced; `none` is
a `nil` slot. -/
structure Buf where
  slots : List (Option LogEntry)
  size : Int
  length_slots : slots.length = BUFFER_SIZE
  deriving DecidableEq

/-- A fresh buffer of `NewRelay`. -/
def Buf.empty : Buf := ⟨List.replicate BUFFER_SIZE none, 0, by simp⟩

/-- The entries a buffer holds, in slot order. -/
def Buf.held (b : Buf) : List LogEntry := b.slots.reduceOption

/-- `buf[size] = e; size++`. Go's index write panics outside the slice: `none`. -/
def Buf.push? (b : Buf) (e : LogEntry) : Option Buf :=
  if 0 ≤ b.size ∧ b.size < b.slots.length then
    some ⟨b.slots.set b.size.toNat (some e), b.size + 1, by simp [b.length_slots]⟩
  else none

/-- The last branch of `buffer`: every slot set to `nil`, then `e` in slot `0` and size
`1`. -/
def Buf.restart (e : LogEntry) : Buf :=
  ⟨(List.replicate BUFFER_SIZE none).set 0 (some e), 1, by simp⟩

/-- The loop `for i := 0; i < BUFFER_SIZE; i++` of `resend` over the slots of one buffer.
`oks` are the outcomes of its sends in order (a missing outcome is a success). It returns
the slots, the entries the transport accepted and the outcomes it did not use. -/
def resendSlots : List (Option LogEntry) → List Bool →
    List (Option LogEntry) × List LogEntry × List Bool
  | [], oks => ([], [], oks)
  | none :: slots, oks =>
    let r := resendSlots slots oks
    (none :: r.1, r.2.1, r.2.2)
  | some e :: slots, oks =>
    let r := resendSlots slots oks.tail
    if oks.headD true then (none :: r.1, e :: r.2.1, r.2.2)
    else (some e :: r.1, r.2.1, r.2.2)

theorem length_resendSlots (slots : List (Option LogEntry)) (oks : List Bool) :
    (resendSlots slots oks).1.length = slots.length := by
  induction slots generalizing oks with
  | nil => rfl
  | cons o slots ih =>
    cases o with
    | none => simp [resendSlots, ih]
    | some e => simp only [resendSlots]; split <;> simp [ih]

/-- One loop of `resend`: a slot whose send succeeds is cleared, and the size drops by
one for each. It returns the buffer, the entries sent and the outcomes left. -/
def Buf.resend (b : Buf) (oks : List Bool) : Buf × List LogEntry × List Bool :=
  let r := resendSlots b.slots oks
  (⟨r.1, b.size - r.2.1.length, by rw [length_resendSlots, b.length_slots]⟩, r.2.1, r.2.2)

/-- Where `Run` is: at its `select`, or blocked in `internal` on a full `logChan`. The
blocked state keeps the entry `internal` sends and whether the `select` case calls
`resend` after it, with the outcomes of its sends. -/
inductive Pc
  | select
  | internal (e : LogEntry) (resendAfter : Option (List Bool))
  deriving DecidableEq

/-- Auxiliary fields: no code reads them. -/
structure Audit where
  /-- The entries `Run` took from `logChan`, oldest first. -/
  received : List LogEntry
  /-- The calls of `buffer`. -/
  buffered : Nat
  /-- The entries a `resend` delivered. -/
  resent : Nat
  /-- The total ever added to `lost`. -/
  lostAdded : Int
  deriving DecidableEq

/-- The fields of `Relay` that `Run` reads or writes, the transport's view `sent`, and
the auxiliary `audit`. `logger` is whether a file sink is set. -/
structure Relay where
  connected : Bool
  logChan : List LogEntry
  logLevel : UInt8
  logFile : String
  logger : Bool
  firstBuf : Buf
  secondBuf : Buf
  lost : Int
  offline : Bool
  pc : Pc
  sent : List Sent
  audit : Audit

/-- The events of a run. `produce` is a logger's send on `logChan`. The next four are
the cases of `Run`'s `select`, each with the outcomes of the transport sends it makes:
an entry from `logChan`, a connect-state change, a new log file (with the error of
`os.OpenFile`, if any), a new log level. `unblock` ends a blocked `internal` send. -/
inductive Event
  | produce (e : LogEntry)
  | entry (ok : Bool)
  | connect (connected : Bool) (oks : List Bool)
  | logFile (file : String) (openErr : Option String)
  | logLevel (level : UInt8)
  | unblock
  deriving DecidableEq

section
variable (lv : Levels)

namespace Relay

/-- `buffer(e)`: the first free slot of `firstBuf`; once that is full, of `secondBuf`;
once both are full, `secondBuf` is thrown away, its size added to `lost`, and `e` starts
it again. -/
def buffer (r : Relay) (e : LogEntry) : Option Relay :=
  let r := { r with audit := { r.audit with buffered := r.audit.buffered + 1 } }
  if r.firstBuf.size < (BUFFER_SIZE : Int) then
    (r.firstBuf.push? e).map fun b => { r with firstBuf := b }
  else if r.secondBuf.size < (BUFFER_SIZE : Int) then
    (r.secondBuf.push? e).map fun b => { r with secondBuf := b }
  else
    some { r with
      lost := r.lost + r.secondBuf.size
      secondBuf := Buf.restart e
      audit := { r.audit with lostAdded := r.audit.lostAdded + r.secondBuf.size } }

/-- `send(entry, true)` with the outcome `ok` of `client.Send`: a failed entry is
buffered. -/
def send (r : Relay) (e : LogEntry) (ok : Bool) : Option Relay :=
  if ok then some { r with sent := r.sent ++ [.entry e] } else r.buffer e

/-- `resend()`: `firstBuf` in slot order, then the `Lost N log entries` warning when
`lost > 0` (never buffered again, and `lost` is reset whatever its outcome), then
`secondBuf` in slot order. -/
def resend (r : Relay) (oks : List Bool) : Relay :=
  let f := r.firstBuf.resend oks
  let lostSent : List Sent := if 0 < r.lost ∧ f.2.2.headD true then [.lost r.lost] else []
  let oks := if 0 < r.lost then f.2.2.tail else f.2.2
  let s := r.secondBuf.resend oks
  { r with
    firstBuf := f.1
    secondBuf := s.1
    lost := if 0 < r.lost then 0 else r.lost
    sent := r.sent ++ f.2.1.map .entry ++ lostSent ++ s.2.1.map .entry
    audit := { r.audit with resent := r.audit.resent + f.2.1.length + s.2.1.length } }

/-- The three branches of `buffer`, with the guards that choose them. -/
theorem buffer_eq_some {r r' : Relay} {e : LogEntry} (h : r.buffer e = some r') :
    let r₀ := { r with audit := { r.audit with buffered := r.audit.buffered + 1 } }
    (r.firstBuf.size < BUFFER_SIZE ∧ ∃ b, r.firstBuf.push? e = some b ∧
      r' = { r₀ with firstBuf := b }) ∨
    (BUFFER_SIZE ≤ r.firstBuf.size ∧ r.secondBuf.size < BUFFER_SIZE ∧
      ∃ b, r.secondBuf.push? e = some b ∧ r' = { r₀ with secondBuf := b }) ∨
    (BUFFER_SIZE ≤ r.firstBuf.size ∧ BUFFER_SIZE ≤ r.secondBuf.size ∧
      r' = { r₀ with
        lost := r.lost + r.secondBuf.size
        secondBuf := Buf.restart e
        audit := { r₀.audit with lostAdded := r.audit.lostAdded + r.secondBuf.size } }) := by
  simp only [buffer] at h
  split at h
  · obtain ⟨b, hb, rfl⟩ := Option.map_eq_some'.mp h
    exact .inl ⟨by assumption, b, hb, rfl⟩
  · split at h
    · obtain ⟨b, hb, rfl⟩ := Option.map_eq_some'.mp h
      exact .inr (.inl ⟨by omega, by assumption, b, hb, rfl⟩)
    · cases h
      exact .inr (.inr ⟨by omega, by omega, rfl⟩)

/-- `buffer` changes only the buffers, `lost` and the audit counters. -/
theorem buffer_frame {r r' : Relay} {e : LogEntry} (h : r.buffer e = some r') :
    r'.pc = r.pc ∧ r'.connected = r.connected ∧ r'.logChan = r.logChan ∧ r'.sent = r.sent ∧
      r'.audit.received = r.audit.received := by
  rcases buffer_eq_some h with ⟨-, -, -, rfl⟩ | ⟨-, -, -, -, rfl⟩ | ⟨-, -, rfl⟩ <;>
    exact ⟨rfl, rfl, rfl, rfl, rfl⟩

/-- The rest of a `select` case after its `internal` call. -/
def after (r : Relay) : Option (List Bool) → Relay
  | some oks => r.resend oks
  | none => r

/-- `internal(msg)` and the rest `k` of the `select` case: the relay's own warning is
sent on its own `logChan`, and the send blocks while the channel is full. -/
def internal (r : Relay) (msg : String) (k : Option (List Bool)) : Relay :=
  let e : LogEntry := { service := "log", level := lv.warning, msg := msg }
  if r.logChan.length < logChanSize then { r with logChan := r.logChan ++ [e] }.after k
  else { r with pc := .internal e k }

/-- `setLogFile(logFile)` with the error of `os.OpenFile`, if any. `file.Name()` of the
standard streams is their device path. -/
def setLogFile (r : Relay) (file : String) (openErr : Option String) : Relay :=
  if file = "" then { r with logger := false, logFile := "" }
  else if file = "STDOUT" then { r with logger := true, logFile := "/dev/stdout" }
  else if file = "STDERR" then { r with logger := true, logFile := "/dev/stderr" }
  else match openErr with
    | some err => r.internal lv err none
    | none => { r with logger := true, logFile := file }

/-- `setLogLevel(level)`: a level outside `[LOG_EMERGENCY, LOG_DEBUG]` is reported. -/
def setLogLevel (r : Relay) (level : UInt8) : Relay :=
  if level < lv.emergency ∨ lv.debug < level then
    r.internal lv ("Invalid log level: " ++ toString level ++ "\n") none
  else { r with logLevel := level }

/-- `entry := <-r.logChan`, with `e` at the head of the channel and `rest` behind it. -/
def receive (r : Relay) (e : LogEntry) (rest : List LogEntry) : Relay :=
  { r with logChan := rest, audit := { r.audit with received := r.audit.received ++ [e] } }

/-- The `logChan` case of `Run` after the receive of `e`. -/
def handleEntry (r : Relay) (e : LogEntry) (ok : Bool) : Option Relay :=
  if r.logLevel < e.level then some r
  else if r.offline then some r
  else if r.connected then r.send e ok
  else r.buffer e

/-- The cases of `Run`'s `select`. `none`: the case is not ready (`logChan` is empty), or
the step panics in `buffer`. -/
def select (r : Relay) : Event → Option Relay
  | .entry ok =>
    match r.logChan with
    | [] => none
    | e :: rest => (r.receive e rest).handleEntry e ok
  | .connect c oks =>
    let r := { r with connected := c }
    some (r.internal lv ("connected: " ++ toString c)
      (if c ∧ 0 < r.firstBuf.slots.length then some oks else none))
  | .logFile file err => some (r.setLogFile lv file err)
  | .logLevel level => some (r.setLogLevel lv level)
  | _ => none

/-- One step of a run. A producer's send waits while `logChan` is full; `Run` takes a
`select` case only at its `select`, and a blocked `internal` send ends only when
`logChan` has room. -/
def step (r : Relay) : Event → Option Relay
  | .produce e =>
    if r.logChan.length < logChanSize then some { r with logChan := r.logChan ++ [e] }
    else none
  | .unblock =>
    match r.pc with
    | .internal e k =>
      if r.logChan.length < logChanSize then
        some ({ r with pc := .select, logChan := r.logChan ++ [e] }.after k)
      else none
    | .select => none
  | ev => if r.pc = .select then r.select lv ev else none

/-- What a step can do: a producer's send with room in `logChan`, the end of a blocked
`internal` send with room, or one of the four `select` cases at the `select`. -/
theorem step_cases {r r' : Relay} {ev : Event} (hs : r.step lv ev = some r') :
    (∃ e, ev = .produce e ∧ r.logChan.length < logChanSize ∧
      r' = { r with logChan := r.logChan ++ [e] }) ∨
    (∃ e k, ev = .unblock ∧ r.pc = .internal e k ∧ r.logChan.length < logChanSize ∧
      r' = { r with pc := .select, logChan := r.logChan ++ [e] }.after k) ∨
    (r.pc = .select ∧ ∃ ok e rest, ev = .entry ok ∧ r.logChan = e :: rest ∧
      (r.receive e rest).handleEntry e ok = some r') ∨
    (r.pc = .select ∧ ∃ c oks, ev = .connect c oks ∧
      r' = { r with connected := c }.internal lv ("connected: " ++ toString c)
        (if c ∧ 0 < r.firstBuf.slots.length then some oks else none)) ∨
    (r.pc = .select ∧ ∃ file err, ev = .logFile file err ∧ r' = r.setLogFile lv file err) ∨
    (r.pc = .select ∧ ∃ level, ev = .logLevel level ∧ r' = r.setLogLevel lv level) := by
  cases ev with
  | produce e =>
    simp only [step] at hs
    split at hs
    · cases hs; exact .inl ⟨e, rfl, ‹_›, rfl⟩
    · cases hs
  | unblock =>
    simp only [step] at hs
    split at hs
    · rename_i e k hpc
      split at hs
      · cases hs; exact .inr (.inl ⟨e, k, rfl, hpc, ‹_›, rfl⟩)
      · cases hs
    · cases hs
  | entry ok =>
    simp only [step] at hs
    split at hs
    · simp only [select] at hs
      split at hs
      · cases hs
      · exact .inr (.inr (.inl ⟨‹_›, ok, _, _, rfl, ‹_›, hs⟩))
    · cases hs
  | connect c oks =>
    simp only [step] at hs
    split at hs
    · simp only [select, Option.some.injEq] at hs
      exact .inr (.inr (.inr (.inl ⟨‹_›, c, oks, rfl, hs.symm⟩)))
    · cases hs
  | logFile file err =>
    simp only [step] at hs
    split at hs
    · simp only [select, Option.some.injEq] at hs
      exact .inr (.inr (.inr (.inr (.inl ⟨‹_›, file, err, rfl, hs.symm⟩))))
    · cases hs
  | logLevel level =>
    simp only [step] at hs
    split at hs
    · simp only [select, Option.some.injEq] at hs
      exact .inr (.inr (.inr (.inr (.inr ⟨‹_›, level, rfl, hs.symm⟩))))
    · cases hs

/-- A run: the events in order, `none` as soon as one is not enabled. -/
def run (r : Relay) : List Event → Option Relay
  | [] => some r
  | ev :: evs => (r.step lv ev).bind fun r' => r'.run evs

/-- What every step of a kind keeps holds along every run of such steps. -/
theorem run_inv (P : Relay → Prop) (Q : Event → Prop)
    (hstep : ∀ {r r' : Relay} {ev : Event}, P r → Q ev → r.step lv ev = some r' → P r') :
    ∀ {r r' : Relay} {evs : List Event}, P r → (∀ ev ∈ evs, Q ev) → r.run lv evs = some r' →
      P r'
  | _, _, [], h, _, hr => by cases hr; exact h
  | _, _, ev :: _, h, hev, hr => by
    simp only [run, Option.bind_eq_some] at hr
    obtain ⟨r₁, h₁, h₂⟩ := hr
    exact run_inv P Q hstep (hstep h (hev ev (.head _)) h₁) (fun ev' h' => hev ev' (.tail _ h')) h₂

/-- `NewRelay(client, logFile, logLevel, offline)` followed by the first statement of
`Run`, `setLogFile(logFile)`, with the error of `os.OpenFile`, if any. -/
def start (logFile : String) (logLevel : UInt8) (offline : Bool)
    (openErr : Option String) : Relay :=
  Relay.setLogFile lv
    { connected := false, logChan := [], logLevel, logFile, logger := false,
      firstBuf := .empty, secondBuf := .empty, lost := 0, offline, pc := .select,
      sent := [], audit := ⟨[], 0, 0, 0⟩ }
    logFile openErr

end Relay

/-- The states of a relay that some run reaches from `start`. -/
inductive Reachable : Relay → Prop
  | start (logFile : String) (logLevel : UInt8) (offline : Bool) (openErr : Option String) :
      Reachable (Relay.start lv logFile logLevel offline openErr)
  | step {r r' : Relay} (ev : Event) : Reachable r → r.step lv ev = some r' → Reachable r'

/-- Every state a run reaches from a reachable state is reachable. -/
theorem Reachable.run {r r' : Relay} (h : Reachable lv r) :
    ∀ {evs : List Event}, r.run lv evs = some r' → Reachable lv r' := fun hr =>
  Relay.run_inv lv (Reachable lv) (fun _ => True) (fun h _ hs => .step _ h hs) h
    (fun _ _ => trivial) hr

/-- A run from a reachable state that ends where `p` holds reaches a state where `p`
holds. The concrete runs below are checked this way. -/
theorem Reachable.exists_of_run {r : Relay} (h : Reachable lv r) (evs : List Event)
    (p : Relay → Bool) (hp : (r.run lv evs).map p = some true) :
    ∃ r', Reachable lv r' ∧ p r' = true := by
  cases hr : r.run lv evs with
  | none => simp [hr] at hp
  | some r' => exact ⟨r', h.run lv hr, by simpa [hr] using hp⟩

end

end PerconaAgent.Log
