import Mathlib.Data.List.Nodup
import PerconaAgent.Qan.Manager

/-!
# `PerconaAgent.Qan.Workers`: how many entries `workers` has

`run` drops an interval that arrives while `workers` has `MaxWorkers` entries, so one
goroutine of `run` never admits a worker past its own `MaxWorkers`. But `stop` neither
waits for the workers nor clears `workers`, and `workerDoneChan` outlives the run: the
workers of an earlier run stay in the map until a later `run` reaps them.

* `workers_exceed_maxWorkers`: a run with `MaxWorkers` `2` admits two workers; after
  `StopService` and a `StartService` with `MaxWorkers` `1`, qan runs with two entries in
  `workers`.
* `workers_le_maxWorkers`: when every config that `start()` runs with has `MaxWorkers` at
  most `k` (`Manager.parsersWithin`), `workers` never has more than `k` entries, and every
  worker goroutine still running has one; an interval that arrives while `workers` has the
  `MaxWorkers` of the running goroutine of `run` is dropped.

`Manager.Pool` is the bookkeeping invariant of the pool: the entries of `workers` are the
worker goroutines not yet reaped, each once. `Manager.Bounded k` is the bound, with the
`MaxWorkers` of every goroutine of `run` at most `k`.
-/

set_option autoImplicit false

namespace PerconaAgent.Qan

namespace Manager

/-- The entries of `workers` are the worker goroutines not yet reaped: those inside
`w.Run` and those whose done signal waits in `workerDoneChan`, each once, all numbered
below `nextWorker`. -/
structure Pool (m : Manager) : Prop where
  perm : (m.workers.map Prod.fst).Perm (m.active ++ m.workerDoneChan)
  nodup : (m.workers.map Prod.fst).Nodup
  fresh : ∀ w ∈ m.workers.map Prod.fst, w < m.nextWorker

theorem Pool.of_frame {m m' : Manager} (h : m.Pool) (hf : PoolFrame m m') : m'.Pool := by
  obtain ⟨hp, hn, hfr⟩ := h
  refine ⟨?_, ?_, ?_⟩ <;> rw [hf.workers]
  · rw [hf.active, hf.workerDoneChan]; exact hp
  · exact hn
  · rw [hf.nextWorker]; exact hfr

/-- A new worker has the next number, which no entry has. -/
theorem Pool.admit {m : Manager} (h : m.Pool) (logs : List (String × Int))
    (interval : Interval) :
    Pool { m with
      oldSlowLogs := logs, workers := m.workers ++ [(m.nextWorker, interval)],
      active := m.active ++ [m.nextWorker], nextWorker := m.nextWorker + 1 } := by
  have hnew : m.nextWorker ∉ m.workers.map Prod.fst := fun hm => Nat.lt_irrefl _ (h.fresh _ hm)
  have hkeys : (m.workers ++ [(m.nextWorker, interval)]).map Prod.fst =
      m.workers.map Prod.fst ++ [m.nextWorker] := by simp
  refine ⟨?_, ?_, ?_⟩ <;> simp only [hkeys]
  · -- the new number joins `active`; the order of the ledger does not matter
    refine (h.perm.append_right _).trans ?_
    rw [List.append_assoc, List.append_assoc]
    exact List.perm_append_comm.append_left _
  · exact h.nodup.append (List.nodup_singleton _) (List.disjoint_singleton.mpr hnew)
  · intro w hw
    rcases List.mem_append.mp hw with hw | hw
    · exact Nat.lt_succ_of_lt (h.fresh w hw)
    · rw [List.mem_singleton.mp hw]; exact Nat.lt_succ_self _

/-- A returning worker goroutine moves from `active` to `workerDoneChan`. -/
theorem Pool.finish {m : Manager} (h : m.Pool) {w : Nat} (hw : w ∈ m.active) :
    Pool { m with active := m.active.erase w, workerDoneChan := m.workerDoneChan ++ [w] } := by
  refine ⟨h.perm.trans (((List.perm_cons_erase hw).append_right _).trans ?_), h.nodup, h.fresh⟩
  rw [← List.append_assoc]
  exact (List.perm_append_singleton w _).symm

/-- `run` reaps the worker whose done signal it takes: its only entry goes. -/
theorem Pool.reap {m : Manager} (h : m.Pool) {w : Nat} {rest : List Nat}
    (hd : m.workerDoneChan = w :: rest) (logs : List (String × Int)) (removed : List String) :
    Pool { m with
      workerDoneChan := rest, workers := m.workers.filter (fun p => p.1 != w),
      oldSlowLogs := logs, removed := removed } := by
  have hkeys : (m.workers.filter fun p => p.1 != w).map Prod.fst =
      (m.workers.map Prod.fst).filter (· != w) := by rw [List.filter_map]; rfl
  have hnd : (m.active ++ w :: rest).Nodup := by rw [← hd]; exact h.perm.nodup_iff.mp h.nodup
  have hw : w ∉ m.active ∧ w ∉ rest := by
    simp only [List.nodup_append, List.nodup_cons, List.disjoint_cons_right] at hnd
    exact ⟨hnd.2.2.1, hnd.2.1.1⟩
  have hfa : m.active.filter (· != w) = m.active :=
    List.filter_eq_self.mpr fun a ha => bne_iff_ne.mpr fun e => hw.1 (e ▸ ha)
  have hfr : rest.filter (· != w) = rest :=
    List.filter_eq_self.mpr fun a ha => bne_iff_ne.mpr fun e => hw.2 (e ▸ ha)
  refine ⟨?_, ?_, ?_⟩ <;> simp only [hkeys]
  · have hp := h.perm.filter (· != w)
    rw [hd, List.filter_append, List.filter_cons_of_neg (by simp), hfa, hfr] at hp
    exact hp
  · exact h.nodup.filter _
  · exact fun v hv => h.fresh v (List.mem_of_mem_filter hv)

/-- Every step keeps `Pool`. -/
theorem Pool.step {m m' : Manager} {ev : Event} (h : m.Pool) (hs : m.step ev = some m') :
    m'.Pool := by
  cases ev with
  | start read st => exact h.of_frame (call_poolFrame m (.start read st) rfl m' hs)
  | stop => exact h.of_frame (call_poolFrame m .stop rfl m' hs)
  | handle cmd => exact h.of_frame (call_poolFrame m (.handle cmd) rfl m' hs)
  | interval interval rot =>
    obtain ⟨config, -, -, rfl⟩ := step_interval hs
    rcases runInterval_cases m config interval rot with he | ⟨-, logs, iv, he⟩ <;> rw [he]
    · exact h
    · exact h.admit logs iv
  | finish w =>
    obtain ⟨hw, -, rfl⟩ := finish_eq hs
    exact h.finish hw
  | workerDone oks =>
    obtain ⟨config, -, w, rest, -, hd, rfl⟩ := step_workerDone hs
    obtain ⟨logs, removed, he⟩ := runWorkerDone_eq { m with workerDoneChan := rest } config w oks
    rw [he]
    exact h.reap hd logs removed

/-- Every goroutine of `run` along the run from `m` over `evs` has `MaxWorkers` at most
`k`: the configs `start()` runs with, and none of those a running manager or
`ValidateConfig` refuses before it. -/
def parsersWithin (k : Int) (m : Manager) : List Event → Bool
  | [] => true
  | ev :: evs =>
    match m.step ev with
    | some m' => m'.parsers.all (fun c => decide (c.maxWorkers ≤ k)) && m'.parsersWithin k evs
    | none => true

/-- `workers` has at most `k` entries, and every goroutine of `run` has `MaxWorkers` at
most `k`. -/
structure Bounded (k : Int) (m : Manager) : Prop where
  parsers : ∀ c ∈ m.parsers, c.maxWorkers ≤ k
  workers : (m.workers.length : Int) ≤ k

/-- A step to a state whose goroutines of `run` have `MaxWorkers` at most `k` keeps
`Bounded k`: `Start`, `Stop` and `Handle` leave `workers` alone, and `run` admits a worker
only below the `MaxWorkers` of its own config. -/
theorem Bounded.step {k : Int} {m m' : Manager} {ev : Event} (h : m.Bounded k)
    (hk : ∀ c ∈ m'.parsers, c.maxWorkers ≤ k) (hs : m.step ev = some m') : m'.Bounded k := by
  refine ⟨hk, ?_⟩
  cases ev with
  | interval interval rot =>
    obtain ⟨config, _, hp, rfl⟩ := step_interval hs
    rcases runInterval_cases m config interval rot with he | ⟨hlt, logs, iv, he⟩ <;> rw [he]
    · exact h.workers
    · have hc := h.parsers config (by rw [hp]; exact List.mem_cons_self _ _)
      simp only [List.length_append, List.length_singleton]
      omega
  | finish w =>
    obtain ⟨-, -, rfl⟩ := finish_eq hs
    exact h.workers
  | workerDone oks =>
    obtain ⟨config, -, w, rest, -, -, rfl⟩ := step_workerDone hs
    obtain ⟨logs, removed, he⟩ := runWorkerDone_eq { m with workerDoneChan := rest } config w oks
    rw [he]
    exact le_trans (by exact_mod_cast List.length_filter_le _ _) h.workers
  | _ => rw [(call_poolFrame m _ (by rfl) m' hs).workers]; exact h.workers

/-- `Pool` and `Bounded k` hold along every run whose goroutines of `run` have `MaxWorkers`
at most `k`. -/
theorem Bounded.runs {k : Int} :
    ∀ {m m' : Manager} {evs : List Event}, m.Pool → m.Bounded k → m.parsersWithin k evs →
      m.runs evs = some m' → m'.Pool ∧ m'.Bounded k
  | _, _, [], hp, h, _, hr => by cases hr; exact ⟨hp, h⟩
  | m, _, ev :: evs, hp, h, hw, hr => by
    simp only [Manager.runs, Option.bind_eq_some] at hr
    obtain ⟨m₁, h₁, h₂⟩ := hr
    simp only [parsersWithin, h₁, Bool.and_eq_true, List.all_eq_true, decide_eq_true_eq] at hw
    exact Bounded.runs (hp.step h₁) (h.step hw.1 h₁) hw.2 h₂

end Manager

/-- When every config that `start()` runs with has `MaxWorkers` at most `k`, `workers` has
at most `k` entries after every step, and every worker goroutine still running has an
entry; and an interval that arrives while `workers` has as many entries as the
`MaxWorkers` of the running goroutine of `run` is dropped, the manager unchanged. -/
theorem workers_le_maxWorkers (k : Int) (hk : 0 ≤ k) (evs : List Event)
    (hev : Manager.NewManager.parsersWithin k evs) (m : Manager)
    (hm : Manager.NewManager.runs evs = some m) :
    (m.workers.length : Int) ≤ k ∧ (∀ w ∈ m.active, w ∈ m.workers.map Prod.fst) ∧
    ∀ config rest interval rot, m.parsers = config :: rest →
      config.maxWorkers ≤ m.workers.length → m.step (.interval interval rot) = some m := by
  have h₀ : Manager.NewManager.Pool ∧ Manager.NewManager.Bounded k :=
    ⟨⟨.nil, .nil, fun _ h => (by cases h)⟩, ⟨fun _ h => (by cases h), by simpa using hk⟩⟩
  obtain ⟨hp, hb⟩ := Manager.Bounded.runs h₀.1 h₀.2 hev hm
  refine ⟨hb.workers, fun w hw => hp.perm.symm.subset (List.mem_append_left _ hw),
    fun config rest interval rot hpar hfull => ?_⟩
  simp only [Manager.step, hpar, Manager.runInterval, if_pos hfull]

/-- qan runs with `MaxWorkers` `2` and admits two workers, is stopped, and runs again with
`MaxWorkers` `1`. -/
def shrinkRun : List Event :=
  [.handle (.startService (.ok slowLogConfig) okSteps none),
    .interval ⟨1, "/var/lib/mysql/slow.log", 0, 100⟩ noRotate,
    .interval ⟨2, "/var/lib/mysql/slow.log", 100, 200⟩ noRotate,
    .handle (.stopService none none),
    .handle (.startService (.ok { slowLogConfig with maxWorkers := 1 }) okSteps none)]

/-- `workers_le_maxWorkers` on `shrinkRun`, with `k = 2`. -/
theorem shrinkRun_workers_le :
    ∃ m, Manager.NewManager.runs shrinkRun = some m ∧
      (m.workers.length : Int) ≤ 2 ∧ (∀ w ∈ m.active, w ∈ m.workers.map Prod.fst) ∧
      ∀ config rest interval rot, m.parsers = config :: rest →
        config.maxWorkers ≤ m.workers.length → m.step (.interval interval rot) = some m := by
  obtain ⟨m, hm⟩ : ∃ m, Manager.NewManager.runs shrinkRun = some m := ⟨_, rfl⟩
  exact ⟨m, hm, workers_le_maxWorkers 2 (by decide) shrinkRun (by decide) m hm⟩

/-- A reachable state where qan runs with more entries in `workers` than the `MaxWorkers`
of its config. -/
theorem workers_exceed_maxWorkers :
    ∃ m, Reachable m ∧ m.running = true ∧
      ∃ c, m.config = some c ∧ c.maxWorkers < m.workers.length := by
  obtain ⟨m, hm, hp⟩ := Reachable.exists_of_runs shrinkRun
    (fun m => decide (m.running = true ∧ ∃ c ∈ m.config, c.maxWorkers < m.workers.length))
    (by decide)
  simp only [decide_eq_true_eq] at hp
  obtain ⟨hr, c, hc, hlt⟩ := hp
  exact ⟨m, hm, hr, c, hc, hlt⟩

end PerconaAgent.Qan
