import Mathlib.Data.List.Basic

/-!
# `PerconaAgent.Qh.Worker`: the events a slow-log job aggregates

The `qh` `Worker.Run` opens the slow log of its job, seeks to `StartOffset` (when it is
not `0`), and aggregates the events the parser yields until the first one whose offset is
past `StopOffset`: `if int64(event.Offset) > w.job.StopOffset { break }`. Each event is
added to the global class, and to the class of its id `Checksum(Fingerprint(event.Query))`
in the map `queries`, which makes the class on the id's first event. After the loop the
classes are copied out of the map into a slice of `len(queries)` slots, from the last slot
down, in the order Go's `range` visits the map.

The model is the parser's view of the file: the list of its events with their start
offsets, in order. After a seek to an event boundary the parser yields the events from
there on. `Fingerprint` and `Checksum` belong to `mysqlLog`, which is not under `src/`:
they are the parameters `MysqlLog`. The map is the list of its classes in the order their
ids were first seen; each is stored under its own `Id`. The order of `range` is a
parameter too.

* `runEvents_eq_filter`: when the offsets strictly increase, `Run` aggregates exactly the
  events whose offset lies in the closed interval `[StartOffset, StopOffset]`.
* `consecutive_jobs_share`: so the jobs `(o0, o1)` and `(o1, o2)` both aggregate an event
  exactly when it starts at `o1` (`threeEvents_jobs_share` is a case of it).
* `adjacent_jobs_share_event`: for a log with events at offsets `0`, `10` and `20`, the
  jobs `(0, 10)` and `(10, 20)` both aggregate the event at offset `10`, and count four
  events where the log has three.

`PerconaAgent.Qh.Classes` proves what the map and the slice hold.
-/

set_option autoImplicit false

namespace PerconaAgent.Qh

/-- The functions of `mysqlLog` that `Run` calls. -/
structure MysqlLog where
  fingerprint : String → String
  checksum : String → String

/-- A slow-log event as the parser yields it: its start offset in the file and its
query. -/
structure SlowEvent where
  offset : Nat
  query : String
  deriving DecidableEq, Repr

/-- `qh.Job`, with the fields `Run` reads. -/
structure Job where
  slowLogFile : String
  startOffset : Int
  stopOffset : Int
  deriving DecidableEq, Repr

/-- `mysqlLog.QueryClass`, with its id, its fingerprint and the number of events
added. -/
structure QueryClass where
  id : String
  fingerprint : String
  totalQueries : Nat
  deriving DecidableEq, Repr

/-- `qh.Result`: the error, the number of events the global class counts, and the slice
of query classes (`none` is a `nil` slot). -/
structure Result where
  error : Option String
  totalQueries : Nat
  classes : List (Option QueryClass)
  deriving DecidableEq, Repr

/-- The events the parser yields after the seek of `Run`: from `StartOffset` when it is not
`0`, from the start of the file otherwise. -/
def parseFrom (log : List SlowEvent) (job : Job) : List SlowEvent :=
  let pos : Int := if job.startOffset ≠ 0 then job.startOffset else 0
  log.filter fun e => pos ≤ e.offset

/-- The events `Run` adds to its classes: those the parser yields, up to the first whose
offset is past `StopOffset`. -/
def runEvents (log : List SlowEvent) (job : Job) : List SlowEvent :=
  (parseFrom log job).takeWhile fun e => !decide ((e.offset : Int) > job.stopOffset)

/-- `queries[classId]`, made with `NewQueryClass(classId, fingerprint)` when missing, then
`class.AddEvent(event)`. -/
def addToClass (classId fingerprint : String) : List QueryClass → List QueryClass
  | [] => [⟨classId, fingerprint, 1⟩]
  | c :: rest =>
    if c.id = classId then { c with totalQueries := c.totalQueries + 1 } :: rest
    else c :: addToClass classId fingerprint rest

/-- `for _, class := range queries { nQueries--; classes[nQueries] = class }`: each class in
the order `range` visits them goes to the slot below the last one written. -/
def fillClasses : Nat → List (Option QueryClass) → List QueryClass → List (Option QueryClass)
  | _, classes, [] => classes
  | nQueries, classes, c :: cs => fillClasses (nQueries - 1) (classes.set (nQueries - 1) (some c)) cs

section
variable (lib : MysqlLog)

/-- The class id of an event: `Checksum(Fingerprint(event.Query))`. -/
def classIdOf (e : SlowEvent) : String := lib.checksum (lib.fingerprint e.query)

/-- The body of `Run`'s loop after `global.AddEvent(event)`. -/
def addEvent (queries : List QueryClass) (e : SlowEvent) : List QueryClass :=
  let fingerprint := lib.fingerprint e.query
  let classId := lib.checksum fingerprint
  addToClass classId fingerprint queries

/-- `Run`, given what `os.Open` gives (its error, or the events of the file) and the order
`range` visits the classes of a map in. -/
def Run (range : List QueryClass → List QueryClass) (opened : Except String (List SlowEvent))
    (job : Job) : Result :=
  match opened with
  | .error e => { error := some e, totalQueries := 0, classes := [] }
  | .ok log =>
    let events := runEvents log job
    let queries := events.foldl (addEvent lib) []
    let nQueries := queries.length
    { error := none, totalQueries := events.length,
      classes := fillClasses nQueries (List.replicate nQueries none) (range queries) }

/-- The global class counts every event `Run` aggregates. -/
theorem run_totalQueries (range : List QueryClass → List QueryClass) (log : List SlowEvent)
    (job : Job) : (Run lib range (.ok log) job).totalQueries = (runEvents log job).length := rfl

end

/-- On a list sorted by offset, taking events while their offset is at most `stop` keeps
exactly those with offset at most `stop`. -/
theorem takeWhile_le_eq_filter (stop : Int) :
    ∀ (log : List SlowEvent), log.Pairwise (fun a b => a.offset < b.offset) →
      log.takeWhile (fun e => !decide ((e.offset : Int) > stop)) =
        log.filter (fun e => !decide ((e.offset : Int) > stop))
  | [], _ => rfl
  | e :: rest, hs => by
    rw [List.pairwise_cons] at hs
    by_cases he : (e.offset : Int) > stop
    · -- every later event is later still, so none is kept
      have hnone : rest.filter (fun e => !decide ((e.offset : Int) > stop)) = [] := by
        refine List.filter_eq_nil_iff.mpr fun a ha => ?_
        have := hs.1 a ha
        simp only [Bool.not_eq_true', decide_eq_false_iff_not, not_lt, not_not]
        omega
      simp [List.takeWhile_cons, List.filter_cons, he, hnone]
    · simp [List.takeWhile_cons, List.filter_cons, he, takeWhile_le_eq_filter stop rest hs.2]

/-- When the offsets strictly increase, `Run` aggregates the events whose offset lies in
`[StartOffset, StopOffset]`, both ends included. -/
theorem runEvents_eq_filter (log : List SlowEvent)
    (hs : log.Pairwise (fun a b => a.offset < b.offset)) (job : Job) :
    runEvents log job =
      log.filter fun e =>
        decide (job.startOffset ≤ e.offset ∧ (e.offset : Int) ≤ job.stopOffset) := by
  have hpos : (if job.startOffset ≠ 0 then job.startOffset else 0) = job.startOffset := by
    split <;> omega
  unfold runEvents parseFrom
  simp only [hpos]
  rw [takeWhile_le_eq_filter _ _ (hs.filter _), List.filter_filter]
  congr 1
  funext e
  rw [Bool.and_comm, Bool.decide_and, ← decide_not]
  exact congrArg _ (decide_eq_decide.mpr (by omega))

/-- Two jobs that meet at `o1` both aggregate an event of a log sorted by offset exactly
when it starts at `o1` (and the offsets are in order). -/
theorem consecutive_jobs_share (log : List SlowEvent)
    (hs : log.Pairwise (fun a b => a.offset < b.offset)) (file : String) (o0 o1 o2 : Int)
    (e : SlowEvent) (he : e ∈ log) :
    (e ∈ runEvents log ⟨file, o0, o1⟩ ∧ e ∈ runEvents log ⟨file, o1, o2⟩) ↔
      ((e.offset : Int) = o1 ∧ o0 ≤ o1 ∧ o1 ≤ o2) := by
  simp only [runEvents_eq_filter log hs, List.mem_filter, he, true_and, decide_eq_true_eq]
  omega

/-- A slow log with three events, ten bytes apart. -/
def threeEvents : List SlowEvent :=
  [⟨0, "select c from t where id = ?"⟩, ⟨10, "update t set c = ? where id = ?"⟩,
    ⟨20, "select c from t where id = ?"⟩]

/-- The job for the first interval, up to offset `10`. -/
def firstJob : Job := ⟨"/var/lib/mysql/slow.log", 0, 10⟩

/-- The job for the next interval, from offset `10`. -/
def nextJob : Job := ⟨"/var/lib/mysql/slow.log", 10, 20⟩

/-- `consecutive_jobs_share` on `threeEvents`, `firstJob` and `nextJob`, at the event at
offset `10`. -/
theorem threeEvents_jobs_share :
    threeEvents.Pairwise (fun a b => a.offset < b.offset) ∧
    (⟨10, "update t set c = ? where id = ?"⟩ : SlowEvent) ∈ threeEvents ∧
    ((⟨10, "update t set c = ? where id = ?"⟩ : SlowEvent) ∈ runEvents threeEvents firstJob ∧
        (⟨10, "update t set c = ? where id = ?"⟩ : SlowEvent) ∈ runEvents threeEvents nextJob ↔
      ((10 : Nat) : Int) = 10 ∧ (0 : Int) ≤ 10 ∧ (10 : Int) ≤ 20) :=
  ⟨by decide, by decide,
    consecutive_jobs_share threeEvents (by decide) "/var/lib/mysql/slow.log" 0 10 20 _ (by decide)⟩

/-- The event at offset `10` is aggregated by both jobs, and the two results count four
events where the log has three, whatever `Fingerprint`, `Checksum` and the order of
`range`. -/
theorem adjacent_jobs_share_event (lib : MysqlLog) (range : List QueryClass → List QueryClass) :
    (⟨10, "update t set c = ? where id = ?"⟩ : SlowEvent) ∈ runEvents threeEvents firstJob ∧
    (⟨10, "update t set c = ? where id = ?"⟩ : SlowEvent) ∈ runEvents threeEvents nextJob ∧
    (Run lib range (.ok threeEvents) firstJob).totalQueries +
        (Run lib range (.ok threeEvents) nextJob).totalQueries =
      threeEvents.length + 1 := by
  rw [run_totalQueries, run_totalQueries]
  decide

end PerconaAgent.Qh
