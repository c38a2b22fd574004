import Mathlib.Algebra.BigOperators.Group.List
import Mathlib.Algebra.Order.Ring.Nat
import Mathlib.Data.List.Dedup

/-!
# `PerconaAgent.Qan.Perfschema`: the digest table and the perfschema workers

The perfschema `Worker.Run` (`qan/perfschema/worker.go`) reads
`events_statements_summary_by_digest` with one `SELECT` (`CollectData`), empties it with
`TRUNCATE` (`TruncateTable`), and turns the rows it read into a `Result`
(`PrepareResult`): one class per row, whose `TotalQueries` is the row's `COUNT_STAR`, and
whose id is `strings.ToUpper(row.Digest[16:32])`. An error of either statement returns no
result. So does a digest shorter than `32` characters, whose slice panics; the manager's
worker goroutine recovers the panic. The manager runs up to `MaxWorkers` workers at once.

The model is the server's digest table, as per-digest counters that a completed statement
increments, together with the workers, each at its `SELECT`, at its `TRUNCATE` with the
rows it read, or returned; the results built so far; and the digests of the statements
completed so far (auxiliary). A `SELECT` reads the table at one instant. Completions and
the steps of the workers interleave freely.

* `completions_lost_or_doubled`: a completion between a worker's `SELECT` and its
  `TRUNCATE` is counted in no result, and two workers that both `SELECT` before either
  `TRUNCATE`s count the same completions twice.
* `completions_counted_once`: in a run where each successful `SELECT` is followed at once
  by the `TRUNCATE` of the same worker, and every digest has the server's `32` characters,
  for every class the `TotalQueries` summed over all results plus the count still in the
  table equals the number of completions: none lost, none counted twice. Right after a
  successful `TRUNCATE` the table is empty and the results hold them all.

`PrepareResult` trusts each row to be a class of its own ("Each row/class was unique"):
the class ids of its result are those of the rows, in order, and `UniqueQueries` is the
number of rows (`prepareResult_ids`). The server keeps a row per schema and digest, so
one statement run in two schemas gives two rows with the same digest:

* `same_digest_rows_duplicate_class`: two rows with the same 32-character digest give two
  classes with the same id, and `UniqueQueries` `2` for one distinct id.

`classTotal_prepareClasses` and `rowTotal_complete` are the two counting facts: what
`PrepareResult` and a completion do to the total of a class. `step_run`, `step_select` and
`step_truncate` say what the steps of `run` and of a worker can do.
-/

set_option autoImplicit false

namespace PerconaAgent.Perfschema

/-- A row of `performance_schema.events_statements_summary_by_digest`, with the columns the
count of a class reads. -/
structure DigestRow where
  digest : String
  digestText : String
  countStar : Nat
  deriving DecidableEq, Repr

/-- `event.QueryClass`, with its id, fingerprint and `TotalQueries`. -/
structure QueryClass where
  id : String
  fingerprint : String
  totalQueries : Nat
  deriving DecidableEq, Repr

/-- `qan.Result` as `PrepareResult` builds it: the global counts and the classes. -/
structure Result where
  totalQueries : Nat
  uniqueQueries : Nat
  classes : List QueryClass
  deriving DecidableEq, Repr

/-- The class id of a digest, `strings.ToUpper(row.Digest[16:32])`: its characters `16` to
`31` in upper case. The slice panics on a digest shorter than `32` characters: `none`. (A
digest is hex text, so its bytes are its characters.) -/
def classId (digest : String) : Option String :=
  if digest.length < 32 then none
  else some (String.mk (((digest.toList.drop 16).take 16).map Char.toUpper))

/-- The loop of `PrepareResult`: a class per row, with `TotalQueries` the row's
`COUNT_STAR`; `none` as soon as the slice of a row panics. -/
def prepareClasses : List DigestRow → Option (List QueryClass)
  | [] => some []
  | row :: rows => (classId row.digest).bind fun id =>
    (prepareClasses rows).map fun classes => ⟨id, row.digestText, row.countStar⟩ :: classes

/-- `PrepareResult(rows)`: the classes of the rows, and global counts that are the number
of classes. `none` when it panics: the worker goroutine of the manager recovers and
reports nothing. -/
def PrepareResult (rows : List DigestRow) : Option Result :=
  (prepareClasses rows).map fun classes =>
    { totalQueries := classes.length, uniqueQueries := classes.length, classes }

theorem classId_isSome (digest : String) : (classId digest).isSome ↔ 32 ≤ digest.length := by
  unfold classId
  split <;> simp <;> omega

/-- The loop of `PrepareResult` gives a class per row, with the row's id, in order. -/
theorem prepareClasses_ids {rows : List DigestRow} {classes : List QueryClass}
    (h : prepareClasses rows = some classes) :
    classes.map (fun c => some c.id) = rows.map (fun row => classId row.digest) := by
  induction rows generalizing classes with
  | nil => cases h; rfl
  | cons row rows ih =>
    obtain ⟨id, hid, h⟩ := Option.bind_eq_some.mp h
    obtain ⟨cs, hcs, rfl⟩ := Option.map_eq_some'.mp h
    simp only [List.map_cons, hid, ih hcs]

/-- `PrepareResult` panics exactly when a row's digest is shorter than `32` characters.
Otherwise the class ids are those of the rows, in order, and the global counts are the
number of rows. -/
theorem prepareResult_ids (rows : List DigestRow) :
    ((PrepareResult rows).isSome ↔ ∀ row ∈ rows, 32 ≤ row.digest.length) ∧
    ∀ r, PrepareResult rows = some r →
      r.classes.map (fun c => some c.id) = rows.map (fun row => classId row.digest) ∧
        r.uniqueQueries = rows.length ∧ r.totalQueries = rows.length := by
  refine ⟨?_, fun r hr => ?_⟩
  · rw [PrepareResult, Option.isSome_map']
    induction rows with
    | nil => simp [prepareClasses]
    | cons row rows ih =>
      simp only [prepareClasses, List.mem_cons, forall_eq_or_imp, ← ih]
      rw [← classId_isSome]
      cases classId row.digest <;> simp
  · obtain ⟨classes, hc, rfl⟩ := Option.map_eq_some'.mp hr
    have hids := prepareClasses_ids hc
    have hlen : classes.length = rows.length := by
      simpa using congrArg List.length hids
    exact ⟨hids, hlen, hlen⟩

/-- The rows of one statement run in two schemas: the same digest, each with its own
`COUNT_STAR`. -/
def twoSchemaRows : List DigestRow :=
  [⟨"a1b2c3d4e5f60718293a4b5c6d7e8f90", "SELECT c FROM t WHERE id = ?", 3⟩,
    ⟨"a1b2c3d4e5f60718293a4b5c6d7e8f90", "SELECT c FROM t WHERE id = ?", 2⟩]

/-- Two rows with the same 32-character digest give two classes with the same id:
`UniqueQueries` is `2` where the result has one distinct id. -/
theorem same_digest_rows_duplicate_class :
    (∀ row ∈ twoSchemaRows, 32 ≤ row.digest.length) ∧
    ∃ r, PrepareResult twoSchemaRows = some r ∧
      ¬ (r.classes.map QueryClass.id).Nodup ∧ r.uniqueQueries = 2 ∧
      (r.classes.map QueryClass.id).dedup.length = 1 :=
  ⟨by decide, _, rfl, by decide⟩

/-- A statement with digest `digest` completes: the server increments its row, or adds
one. -/
def complete : List DigestRow → String → String → List DigestRow
  | [], digest, text => [⟨digest, text, 1⟩]
  | row :: rest, digest, text =>
    if row.digest = digest then { row with countStar := row.countStar + 1 } :: rest
    else row :: complete rest digest text

/-- Where a worker is in `Run`: before `CollectData`, between it and `TruncateTable` with
the rows it read, or returned. -/
inductive Phase
  | collect
  | truncate (rows : List DigestRow)
  | done
  deriving DecidableEq, Repr

/-- The digest table, the workers by number, the results built so far, the digests of the
statements completed so far, and `MaxWorkers`. -/
structure Host where
  table : List DigestRow
  workers : List Phase
  results : List Result
  completed : List String
  maxWorkers : Nat
  deriving DecidableEq

/-- The events: a statement completes; `run` starts a worker; a worker's `SELECT` or
`TRUNCATE` returns, successfully or with an error. -/
inductive Event
  | complete (digest text : String)
  | run
  | select (w : Nat) (ok : Bool)
  | truncate (w : Nat) (ok : Bool)
  deriving DecidableEq

namespace Host

/-- No workers, an empty table, no results. -/
def init (maxWorkers : Nat) : Host :=
  { table := [], workers := [], results := [], completed := [], maxWorkers }

/-- One step. `run` starts a worker while fewer than `MaxWorkers` are in `Run`. A failed
`SELECT` or `TRUNCATE` returns no result, and so does a `PrepareResult` that panics. -/
def step (h : Host) : Event → Option Host
  | .complete digest text =>
    some { h with table := complete h.table digest text, completed := h.completed ++ [digest] }
  | .run =>
    if (h.workers.filter (· ≠ .done)).length < h.maxWorkers then
      some { h with workers := h.workers ++ [.collect] }
    else none
  | .select w ok =>
    match h.workers[w]? with
    | some .collect =>
      some { h with workers := h.workers.set w (if ok then .truncate h.table else .done) }
    | _ => none
  | .truncate w ok =>
    match h.workers[w]? with
    | some (.truncate rows) =>
      if ok then
        some { h with
          table := [], workers := h.workers.set w .done,
          results := h.results ++ (PrepareResult rows).toList }
      else some { h with workers := h.workers.set w .done }
    | _ => none

/-- A run: the events in order, `none` as soon as one is not enabled. -/
def runs (h : Host) : List Event → Option Host
  | [] => some h
  | ev :: evs => (h.step ev).bind fun h' => h'.runs evs

end Host

/-- The `COUNT_STAR`s of the rows of class `k`. -/
def rowTotal (k : String) (rows : List DigestRow) : Nat :=
  ((rows.filter fun row => classId row.digest == some k).map DigestRow.countStar).sum

/-- The `TotalQueries` of the classes with id `k`. -/
def classTotal (k : String) (classes : List QueryClass) : Nat :=
  ((classes.filter fun c => c.id == k).map QueryClass.totalQueries).sum

/-- The `TotalQueries` of class `k` summed over all results. -/
def Host.resultTotal (h : Host) (k : String) : Nat :=
  (h.results.map fun r => classTotal k r.classes).sum

/-- The completions of class `k`. -/
def Host.completedCount (h : Host) (k : String) : Nat :=
  (h.completed.filter fun d => classId d == some k).length

/-- Each completion is counted once: in a result or in the table. -/
def Host.Counted (h : Host) : Prop :=
  ∀ k, h.resultTotal k + rowTotal k h.table = h.completedCount k

/-- The rows of the table have digests of `32` characters or more. -/
def Host.FullTable (h : Host) : Prop := ∀ row ∈ h.table, 32 ≤ row.digest.length

/-- The event is no completion of a statement whose digest is shorter than `32` characters:
the server's digests are `32` hex digits. -/
def Event.fullDigest : Event → Bool
  | .complete digest _ => decide (32 ≤ digest.length)
  | _ => true

@[simp] theorem rowTotal_nil (k : String) : rowTotal k [] = 0 := rfl

@[simp] theorem rowTotal_cons (k : String) (row : DigestRow) (rows : List DigestRow) :
    rowTotal k (row :: rows) =
      (if classId row.digest == some k then row.countStar else 0) + rowTotal k rows := by
  unfold rowTotal
  rw [List.filter_cons]
  split <;> simp [*]

@[simp] theorem classTotal_cons (k : String) (c : QueryClass) (classes : List QueryClass) :
    classTotal k (c :: classes) =
      (if c.id == k then c.totalQueries else 0) + classTotal k classes := by
  unfold classTotal
  rw [List.filter_cons]
  split <;> simp [*]

/-- `PrepareResult` carries the count of every class over from the rows. -/
theorem classTotal_prepareClasses (k : String) {rows : List DigestRow}
    {classes : List QueryClass} (h : prepareClasses rows = some classes) :
    classTotal k classes = rowTotal k rows := by
  induction rows generalizing classes with
  | nil => cases h; rfl
  | cons row rows ih =>
    obtain ⟨id, hid, h⟩ := Option.bind_eq_some.mp h
    obtain ⟨cs, hcs, rfl⟩ := Option.map_eq_some'.mp h
    simp only [classTotal_cons, rowTotal_cons, hid, ih hcs, Option.some_beq_some]

/-- A completion adds one to the count of its class in the table. -/
theorem rowTotal_complete (k : String) (rows : List DigestRow) (digest text : String) :
    rowTotal k (complete rows digest text) =
      rowTotal k rows + if classId digest == some k then 1 else 0 := by
  induction rows with
  | nil => simp [complete]
  | cons row rest ih =>
    simp only [complete]
    split
    · rename_i hd
      simp only [rowTotal_cons, hd]
      split <;> omega
    · simp only [rowTotal_cons, ih]
      omega

/-- A completion of a statement with a full digest keeps the digests of the table full. -/
theorem full_complete {rows : List DigestRow} (h : ∀ row ∈ rows, 32 ≤ row.digest.length)
    {digest : String} (text : String) (hd : 32 ≤ digest.length) :
    ∀ row ∈ complete rows digest text, 32 ≤ row.digest.length := by
  induction rows with
  | nil => simpa [complete] using hd
  | cons row rest ih =>
    simp only [List.forall_mem_cons] at h
    simp only [complete]
    split
    · exact List.forall_mem_cons.mpr ⟨h.1, h.2⟩
    · exact List.forall_mem_cons.mpr ⟨h.1, ih h.2⟩

namespace Host

/-- No worker is between its `SELECT` and its `TRUNCATE`. -/
def Quiet (h : Host) : Prop := ∀ rows, Phase.truncate rows ∉ h.workers

/-- Setting a worker to any phase but `TRUNCATE` keeps the host quiet. -/
theorem Quiet.set {h : Host} (hq : h.Quiet) (w : Nat) {p : Phase}
    (hp : ∀ rows, p ≠ .truncate rows) : ∀ rows, Phase.truncate rows ∉ h.workers.set w p :=
  fun rows hm => (List.mem_or_eq_of_mem_set hm).elim (hq rows) fun e => hp rows e.symm

/-- `run` starts a worker, at its `SELECT`, while fewer than `MaxWorkers` are in `Run`. -/
theorem step_run {h h' : Host} (hs : h.step .run = some h') :
    (h.workers.filter (· ≠ .done)).length < h.maxWorkers ∧
      h' = { h with workers := h.workers ++ [.collect] } := by
  simp only [step] at hs
  split at hs
  · cases hs; exact ⟨‹_›, rfl⟩
  · cases hs

/-- A worker's `SELECT` reads the whole table: the worker moves to its `TRUNCATE` with the
rows, or returns when the `SELECT` fails. -/
theorem step_select {h h' : Host} {w : Nat} {ok : Bool} (hs : h.step (.select w ok) = some h') :
    h.workers[w]? = some .collect ∧
      h' = { h with workers := h.workers.set w (if ok then .truncate h.table else .done) } := by
  simp only [step] at hs
  split at hs
  · cases hs; exact ⟨‹_›, rfl⟩
  · cases hs

/-- A worker's `TRUNCATE` empties the table and adds the result of the rows it read, if
`PrepareResult` does not panic; when it fails, the worker returns with no result. -/
theorem step_truncate {h h' : Host} {w : Nat} {ok : Bool}
    (hs : h.step (.truncate w ok) = some h') :
    ∃ rows, h.workers[w]? = some (.truncate rows) ∧
      (ok = true ∧ h' = { h with
          table := [], workers := h.workers.set w .done,
          results := h.results ++ (PrepareResult rows).toList } ∨
        ok = false ∧ h' = { h with workers := h.workers.set w .done }) := by
  simp only [step] at hs
  split at hs
  · rename_i rows hw
    refine ⟨rows, hw, ?_⟩
    cases ok
    · simp only [Bool.false_eq_true, if_false, Option.some.injEq] at hs
      exact .inr ⟨rfl, hs.symm⟩
    · simp only [if_true, Option.some.injEq] at hs
      exact .inl ⟨rfl, hs.symm⟩
  · cases hs

/-- Every step but a successful `SELECT` keeps a quiet host quiet, every completion counted
once and the digests of the table full. -/
theorem step_quiet {h h' : Host} {ev : Event} (hq : h.Quiet) (hc : h.Counted)
    (hf : h.FullTable) (hev : ∀ w, ev ≠ .select w true) (hd : ev.fullDigest)
    (hs : h.step ev = some h') : h'.Quiet ∧ h'.Counted ∧ h'.FullTable := by
  cases ev with
  | complete digest text =>
    cases hs
    refine ⟨hq, fun k => ?_, full_complete hf text (by simpa [Event.fullDigest] using hd)⟩
    have hk := hc k
    simp only [resultTotal, completedCount, rowTotal_complete, List.filter_append,
      List.filter_cons, List.filter_nil, List.length_append] at hk ⊢
    split <;> simp only [List.length_cons, List.length_nil] <;> omega
  | run =>
    obtain ⟨-, rfl⟩ := step_run hs
    refine ⟨fun rows hm => ?_, hc, hf⟩
    rcases List.mem_append.mp hm with hm | hm
    · exact hq rows hm
    · cases List.mem_singleton.mp hm
  | select w ok =>
    cases ok with
    | true => exact absurd rfl (hev w)
    | false =>
      obtain ⟨-, rfl⟩ := step_select hs
      exact ⟨hq.set w fun rows e => (by cases e), hc, hf⟩
  | truncate w ok =>
    -- no worker is at its `TRUNCATE`
    obtain ⟨rows, hw, -⟩ := step_truncate hs
    exact absurd (List.getElem?_mem hw) (hq rows)

/-- A successful `SELECT` followed at once by the `TRUNCATE` of the same worker keeps a
quiet host quiet, every completion counted once and the digests of the table full: the rows
read are the whole table, and they move from the table to a result, or stay in the
table. -/
theorem select_truncate {h h₁ h₂ : Host} {w : Nat} {ok : Bool} (hq : h.Quiet)
    (hc : h.Counted) (hf : h.FullTable) (h₁s : h.step (.select w true) = some h₁)
    (h₂s : h₁.step (.truncate w ok) = some h₂) :
    h₂.Quiet ∧ h₂.Counted ∧ h₂.FullTable := by
  obtain ⟨hw, rfl⟩ := step_select h₁s
  obtain ⟨rows, hrows, hok⟩ := step_truncate h₂s
  have hlt : w < h.workers.length := (List.getElem?_eq_some_iff.mp hw).1
  simp only [if_true, List.getElem?_set_self hlt, Option.some.injEq, Phase.truncate.injEq] at hrows
  subst hrows
  have hq' :
      ∀ rows, Phase.truncate rows ∉ (h.workers.set w (.truncate h.table)).set w .done := by
    simpa only [List.set_set] using hq.set w (p := .done) fun rows e => (by cases e)
  rcases hok with ⟨-, rfl⟩ | ⟨-, rfl⟩
  · -- the whole table makes one result: no digest of it is short
    obtain ⟨r, hr⟩ := Option.isSome_iff_exists.mp ((prepareResult_ids h.table).1.mpr hf)
    obtain ⟨classes, hcl, rfl⟩ := Option.map_eq_some'.mp hr
    refine ⟨hq', fun k => ?_, fun _ hm => (List.not_mem_nil _ hm).elim⟩
    have hk := hc k
    simp only [resultTotal, completedCount, hr, Option.toList_some, List.map_append, List.map_cons,
      List.map_nil, List.sum_append, List.sum_cons, List.sum_nil,
      classTotal_prepareClasses k hcl] at hk ⊢
    rw [rowTotal_nil]
    omega
  · exact ⟨hq', hc, hf⟩

/-- A `SELECT` changes neither the table nor the results. -/
theorem select_counted {h h' : Host} {w : Nat} {ok : Bool} (hc : h.Counted)
    (hs : h.step (.select w ok) = some h') : h'.Counted := by
  obtain ⟨-, rfl⟩ := step_select hs
  exact hc

/-- The state a run with one more event ends in is a step from the state the run ends in. -/
theorem runs_append_singleton {ev : Event} :
    ∀ {h h' : Host} {evs : List Event}, h.runs (evs ++ [ev]) = some h' →
      ∃ h₁, h.runs evs = some h₁ ∧ h₁.step ev = some h'
  | h, _, [], hr => ⟨h, rfl, by simpa [runs] using hr⟩
  | _, _, e :: evs, hr => by
    simp only [List.cons_append, runs, Option.bind_eq_some] at hr ⊢
    obtain ⟨h₁, h₁s, h₁r⟩ := hr
    obtain ⟨h₂, h₂r, h₂s⟩ := runs_append_singleton h₁r
    exact ⟨h₂, ⟨h₁, h₁s, h₂r⟩, h₂s⟩

end Host

/-- Each successful `SELECT` is followed at once by the `TRUNCATE` of the same worker, or
ends the run. -/
def adjacent : List Event → Bool
  | .select w true :: rest =>
    (match rest with
      | .truncate w' _ :: _ => w' == w
      | [] => true
      | _ => false) && adjacent rest
  | _ :: rest => adjacent rest
  | [] => true

/-- The rest of a run whose successful `SELECT`s are each followed by their `TRUNCATE` has
the same shape. -/
theorem adjacent_tail {ev : Event} {rest : List Event} (h : adjacent (ev :: rest) = true) :
    adjacent rest = true := by
  cases ev with
  | select w ok =>
    cases ok
    · exact h
    · exact (Bool.and_eq_true _ _).mp h |>.2
  | _ => exact h

/-- From a quiet host where every completion is counted once and the digests of the table
are full, a run whose successful `SELECT`s are each followed at once by their `TRUNCATE`,
and whose statements have full digests, keeps every completion counted once. -/
theorem Host.Counted.runs {h h' : Host} (hq : h.Quiet) (hc : h.Counted) (hf : h.FullTable) :
    ∀ {evs : List Event}, adjacent evs = true → (∀ ev ∈ evs, ev.fullDigest) →
      h.runs evs = some h' → h'.Counted
  | [], _, _, hr => by cases hr; exact hc
  | ev :: rest, had, hd, hr => by
    simp only [Host.runs, Option.bind_eq_some] at hr
    obtain ⟨h₁, h₁s, h₁r⟩ := hr
    have hd' : ∀ ev ∈ rest, ev.fullDigest := fun ev hm => hd ev (List.mem_cons_of_mem _ hm)
    by_cases hsel : ∃ w, ev = .select w true
    · obtain ⟨w, rfl⟩ := hsel
      cases rest with
      | nil => cases h₁r; exact Host.select_counted hc h₁s
      | cons ev₂ rest =>
        cases ev₂ with
        | truncate w' ok =>
          simp only [adjacent, beq_iff_eq, Bool.and_eq_true] at had
          obtain ⟨rfl, had⟩ := had
          simp only [Host.runs, Option.bind_eq_some] at h₁r
          obtain ⟨h₂, h₂s, h₂r⟩ := h₁r
          obtain ⟨hq₂, hc₂, hf₂⟩ := Host.select_truncate hq hc hf h₁s h₂s
          exact Host.Counted.runs hq₂ hc₂ hf₂ had
            (fun ev hm => hd' ev (List.mem_cons_of_mem _ hm)) h₂r
        | _ => simp [adjacent] at had
    · push_neg at hsel
      obtain ⟨hq₁, hc₁, hf₁⟩ :=
        Host.step_quiet hq hc hf hsel (hd ev (List.mem_cons_self _ _)) h₁s
      exact Host.Counted.runs hq₁ hc₁ hf₁ (adjacent_tail had) hd' h₁r

/-- In a run whose successful `SELECT`s are each followed at once by the `TRUNCATE` of the
same worker, and whose statements have digests of `32` characters, every completion is
counted once: for every class, `TotalQueries` summed over all results plus the count still
in the table is the number of completions. Right after a successful `TRUNCATE` the table
is empty and the results hold them all. -/
theorem completions_counted_once (maxWorkers : Nat) (evs : List Event)
    (had : adjacent evs = true) (hd : ∀ ev ∈ evs, ev.fullDigest) (h : Host)
    (hr : (Host.init maxWorkers).runs evs = some h) :
    (∀ k, h.resultTotal k + rowTotal k h.table = h.completedCount k) ∧
    ∀ w, evs.getLast? = some (.truncate w true) →
      h.table = [] ∧ ∀ k, h.resultTotal k = h.completedCount k := by
  have hc : h.Counted := Host.Counted.runs (h := Host.init maxWorkers)
    (fun _ hm => (by cases hm)) (fun _ => rfl) (fun _ hm => (by cases hm)) had hd hr
  refine ⟨hc, fun w hl => ?_⟩
  obtain ⟨evs', rfl⟩ := List.getLast?_eq_some_iff.mp hl
  obtain ⟨h₁, -, hs⟩ := Host.runs_append_singleton hr
  obtain ⟨rows, -, ⟨-, rfl⟩ | ⟨hf, -⟩⟩ := Host.step_truncate hs
  · exact ⟨rfl, fun k => by simpa using hc k⟩
  · cases hf

/-- The 32 hex digits of a statement's digest. -/
def sampleDigest : String := "a1b2c3d4e5f60718293a4b5c6d7e8f90"

/-- Two workers, each reading and emptying the table at once, around three completions. -/
def pairedRun : List Event :=
  [.run, .complete sampleDigest "SELECT c FROM t WHERE id = ?", .select 0 true,
    .truncate 0 true, .run, .complete sampleDigest "SELECT c FROM t WHERE id = ?",
    .complete sampleDigest "SELECT c FROM t WHERE id = ?", .select 1 true, .truncate 1 true]

/-- `completions_counted_once` on `pairedRun`, which ends with a successful `TRUNCATE`. -/
theorem pairedRun_counted :
    ∃ h, (Host.init 2).runs pairedRun = some h ∧
      (∀ k, h.resultTotal k + rowTotal k h.table = h.completedCount k) ∧
      ∀ w, pairedRun.getLast? = some (.truncate w true) →
        h.table = [] ∧ ∀ k, h.resultTotal k = h.completedCount k := by
  obtain ⟨h, hh⟩ : ∃ h, (Host.init 2).runs pairedRun = some h := ⟨_, rfl⟩
  exact ⟨h, hh, completions_counted_once 2 pairedRun (by decide) (by decide) h hh⟩

/-- A completion between the `SELECT` and the `TRUNCATE` of a worker. -/
def lostRun : List Event :=
  [.run, .complete sampleDigest "SELECT c FROM t WHERE id = ?", .select 0 true,
    .complete sampleDigest "SELECT c FROM t WHERE id = ?", .truncate 0 true]

/-- Two workers that both `SELECT` before either `TRUNCATE`s. -/
def doubledRun : List Event :=
  [.run, .run, .complete sampleDigest "SELECT c FROM t WHERE id = ?", .select 0 true,
    .select 1 true, .truncate 0 true, .truncate 1 true]

/-- With `MaxWorkers` `2`, for the class `293A4B5C6D7E8F90` of `sampleDigest`: after
`lostRun`, a completion is in no result and no longer in the table; after `doubledRun`,
the results count one completion twice. -/
theorem completions_lost_or_doubled :
    classId sampleDigest = some "293A4B5C6D7E8F90" ∧
    (∃ h, (Host.init 2).runs lostRun = some h ∧
      h.resultTotal "293A4B5C6D7E8F90" + rowTotal "293A4B5C6D7E8F90" h.table <
        h.completedCount "293A4B5C6D7E8F90") ∧
    (∃ h, (Host.init 2).runs doubledRun = some h ∧
      h.completedCount "293A4B5C6D7E8F90" < h.resultTotal "293A4B5C6D7E8F90") :=
  ⟨by decide, ⟨_, rfl, by decide⟩, ⟨_, rfl, by decide⟩⟩

end PerconaAgent.Perfschema
