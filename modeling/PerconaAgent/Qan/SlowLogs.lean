import Mathlib.Data.List.Nodup
import PerconaAgent.Qan.Manager

/-!
# `PerconaAgent.Qan.SlowLogs`: when a rotated slow log is unlinked

`rotateSlowLog` renames the slow log, moves the interval it rotates for to the renamed
file, and, with `RemoveOldSlowLogs`, saves the file in `oldSlowLogs` with the count
`len(workers) + 1`: the workers running, and the worker about to start for this interval.
The worker-done case of `run` counts down every saved file on every done signal, and
unlinks a file when its count is `1`. The done signal of a worker admitted after the
rotation counts as well.

* `saved_log_unlinked_after_count`: from a reachable state where a file is saved with the
  count `n`, a run that does not rotate the slow log to the same name again unlinks the
  file only after `n` done signals. The count is a countdown of done signals, whichever
  workers send them.
* `rotated_log_removed_early`: with `MaxWorkers` `2`, the slow log is rotated for the
  first interval, and the worker of the second interval returns first. Its done signal
  unlinks the rotated file while the worker that parses it is still running.

`step_slowLogs` says once what a step does to `oldSlowLogs` and to the files unlinked;
`Manager.Saved` is the state of one saved file along a run.
-/

set_option autoImplicit false

namespace PerconaAgent.Qan

/-- The event is a done signal that `run` takes. -/
def Event.isWorkerDone : Event → Bool
  | .workerDone _ => true
  | _ => false

/-- The event is an interval whose rotation would rename the slow log to `f`. -/
def Event.rotatesTo (f : String) : Event → Bool
  | .interval iv rot => iv.filename ++ "-" ++ toString rot.now == f
  | _ => false

namespace Manager

/-- Saving another file leaves the entry of `f` as it was. -/
theorem mem_setOldSlowLog {logs : List (String × Int)} {g f : String} {c n : Int}
    (hne : g ≠ f) : (f, n) ∈ setOldSlowLog logs g c ↔ (f, n) ∈ logs := by
  simp [setOldSlowLog, Ne.symm hne]

/-- `oldSlowLogs` is a map: saving a file replaces its entry. -/
theorem setOldSlowLog_nodup {logs : List (String × Int)} (g : String) (c : Int)
    (h : (logs.map Prod.fst).Nodup) : ((setOldSlowLog logs g c).map Prod.fst).Nodup := by
  unfold setOldSlowLog
  rw [List.map_append]
  refine (h.sublist ((List.filter_sublist logs).map _)).append (List.nodup_singleton _) ?_
  simp

/-- The loop over `oldSlowLogs` keeps or drops each entry, in order. -/
theorem reapOldSlowLogs_keys :
    ∀ (logs : List (String × Int)) (oks : List Bool),
      ((reapOldSlowLogs logs oks).1.map Prod.fst).Sublist (logs.map Prod.fst)
  | [], _ => .slnil
  | (file, cnt) :: rest, oks => by
    simp only [reapOldSlowLogs]
    split
    · split
      · exact (reapOldSlowLogs_keys rest oks.tail).cons _
      · exact (reapOldSlowLogs_keys rest oks.tail).cons₂ _
    · exact (reapOldSlowLogs_keys rest oks).cons₂ _

/-- A file is unlinked only when its count is `1`. -/
theorem reapOldSlowLogs_removed {f : String} :
    ∀ {logs : List (String × Int)} {oks : List Bool}, f ∈ (reapOldSlowLogs logs oks).2 →
      (f, 1) ∈ logs
  | [], _, h => by cases h
  | (file, cnt) :: rest, oks, h => by
    simp only [reapOldSlowLogs] at h
    split at h
    · rename_i hc
      split at h
      · rcases List.mem_cons.mp h with rfl | h
        · rw [← hc]; exact List.mem_cons_self _ _
        · exact List.mem_cons_of_mem _ (reapOldSlowLogs_removed h)
      · exact List.mem_cons_of_mem _ (reapOldSlowLogs_removed h)
    · exact List.mem_cons_of_mem _ (reapOldSlowLogs_removed h)

/-- A saved file is counted down by one, kept (when `os.Remove` fails), or unlinked. -/
theorem reapOldSlowLogs_mem {f : String} {n : Int} :
    ∀ {logs : List (String × Int)} (oks : List Bool), (f, n) ∈ logs →
      (f, n - 1) ∈ (reapOldSlowLogs logs oks).1 ∨ (f, n) ∈ (reapOldSlowLogs logs oks).1 ∨
        f ∈ (reapOldSlowLogs logs oks).2
  | [], _, h => by cases h
  | (file, cnt) :: rest, oks, h => by
    simp only [reapOldSlowLogs]
    rcases List.mem_cons.mp h with he | h
    · obtain ⟨rfl, rfl⟩ := Prod.mk.inj he
      split
      · split
        · exact .inr (.inr (List.mem_cons_self _ _))
        · exact .inr (.inl (List.mem_cons_self _ _))
      · exact .inl (List.mem_cons_self _ _)
    · have ih := reapOldSlowLogs_mem (if cnt = 1 then oks.tail else oks) h
      split
      · rename_i hc
        simp only [hc, if_true] at ih
        split
        · exact ih.imp_right (Or.imp_right (List.mem_cons_of_mem _))
        · exact ih.imp (List.mem_cons_of_mem _) (Or.imp_left (List.mem_cons_of_mem _))
      · rename_i hc
        simp only [hc, if_false] at ih
        exact ih.imp (List.mem_cons_of_mem _) (Or.imp_left (List.mem_cons_of_mem _))

/-- `rotateSlowLog` saves the renamed file, or leaves `oldSlowLogs` alone. -/
theorem rotateSlowLog_oldSlowLogs (m : Manager) (config : Config) (interval : Interval)
    (rot : RotateSteps) :
    (m.rotateSlowLog config interval rot).1.oldSlowLogs = m.oldSlowLogs ∨
      (m.rotateSlowLog config interval rot).1.oldSlowLogs =
        setOldSlowLog m.oldSlowLogs (interval.filename ++ "-" ++ toString rot.now)
          (m.workers.length + 1) := by
  unfold rotateSlowLog
  split
  · dsimp only
    split
    · exact .inr rfl
    · exact .inl rfl
  · exact .inl rfl

/-- What one step does to `oldSlowLogs` and to the files unlinked: nothing; an interval
saves the file it rotates the slow log to; or a done signal runs the loop over
`oldSlowLogs`. -/
theorem step_slowLogs {m m' : Manager} {ev : Event} (hs : m.step ev = some m') :
    (m'.oldSlowLogs = m.oldSlowLogs ∧ m'.removed = m.removed) ∨
    (∃ interval rot c, ev = .interval interval rot ∧
      m'.oldSlowLogs =
        setOldSlowLog m.oldSlowLogs (interval.filename ++ "-" ++ toString rot.now) c ∧
      m'.removed = m.removed) ∨
    (∃ oks, ev = .workerDone oks ∧ m'.oldSlowLogs = (reapOldSlowLogs m.oldSlowLogs oks).1 ∧
      m'.removed = m.removed ++ (reapOldSlowLogs m.oldSlowLogs oks).2) := by
  cases ev with
  | interval interval rot =>
    obtain ⟨config, -, -, rfl⟩ := step_interval hs
    unfold runInterval
    by_cases hfull : (m.workers.length : Int) ≥ config.maxWorkers
    · rw [if_pos hfull]
      exact .inl ⟨rfl, rfl⟩
    rw [if_neg hfull]
    dsimp only
    by_cases hrot : config.collectFrom = "slowlog" ∧ interval.endOffset ≥ config.maxSlowLogSize
    · rw [if_pos hrot]
      have hr := congrArg Manager.removed (rotateSlowLog_eq m config interval rot)
      rcases rotateSlowLog_oldSlowLogs m config interval rot with h | h
      · exact .inl ⟨h, hr⟩
      · exact .inr (.inl ⟨interval, rot, _, rfl, h, hr⟩)
    · rw [if_neg hrot]
      exact .inl ⟨rfl, rfl⟩
  | finish w =>
    obtain ⟨-, -, rfl⟩ := finish_eq hs
    exact .inl ⟨rfl, rfl⟩
  | workerDone oks =>
    obtain ⟨config, -, w, rest, -, -, rfl⟩ := step_workerDone hs
    unfold runWorkerDone
    by_cases hslow : config.collectFrom = "slowlog"
    · rw [if_pos hslow]
      exact .inr (.inr ⟨oks, rfl, rfl, rfl⟩)
    · rw [if_neg hslow]
      exact .inl ⟨rfl, rfl⟩
  | start read st =>
    have hf := call_poolFrame m (.start read st) rfl m' hs
    exact .inl ⟨hf.oldSlowLogs, hf.removed⟩
  | stop =>
    have hf := call_poolFrame m (.stop) rfl m' hs
    exact .inl ⟨hf.oldSlowLogs, hf.removed⟩
  | handle cmd =>
    have hf := call_poolFrame m (.handle cmd) rfl m' hs
    exact .inl ⟨hf.oldSlowLogs, hf.removed⟩

/-- `oldSlowLogs` holds each file once. -/
def LogsNodup (m : Manager) : Prop := (m.oldSlowLogs.map Prod.fst).Nodup

theorem LogsNodup.step {m m' : Manager} {ev : Event} (h : m.LogsNodup)
    (hs : m.step ev = some m') : m'.LogsNodup := by
  unfold LogsNodup
  rcases step_slowLogs hs with ⟨he, -⟩ | ⟨interval, rot, c, -, he, -⟩ | ⟨oks, -, he, -⟩ <;>
    rw [he]
  · exact h
  · exact setOldSlowLog_nodup _ c h
  · exact h.sublist (reapOldSlowLogs_keys _ oks)

/-- The file `f` is saved with the count `n` and not unlinked yet. -/
structure Saved (f : String) (n : Int) (m : Manager) : Prop where
  mem : (f, n) ∈ m.oldSlowLogs
  kept : f ∉ m.removed

/-- A step that does not rotate the slow log to `f` again counts `f` down by at most one,
and by none unless it is a done signal; it unlinks `f` only at a done signal and at the
count `1`. -/
theorem Saved.step {f : String} {n : Int} {m m' : Manager} {ev : Event} (h : m.Saved f n)
    (hn : m.LogsNodup) (hev : ev.rotatesTo f = false) (hs : m.step ev = some m') :
    (ev.isWorkerDone ∧ n = 1 ∧ f ∈ m'.removed) ∨
      ∃ n', m'.Saved f n' ∧ n ≤ n' + if ev.isWorkerDone then 1 else 0 := by
  rcases step_slowLogs hs with ⟨hl, hr⟩ | ⟨interval, rot, c, rfl, hl, hr⟩ | ⟨oks, rfl, hl, hr⟩
  · exact .inr ⟨n, ⟨hl ▸ h.mem, hr ▸ h.kept⟩, by omega⟩
  · have hne : interval.filename ++ "-" ++ toString rot.now ≠ f := by
      simpa [Event.rotatesTo] using hev
    exact .inr ⟨n, ⟨hl ▸ (mem_setOldSlowLog hne).mpr h.mem, hr ▸ h.kept⟩, by omega⟩
  · by_cases hf : f ∈ (reapOldSlowLogs m.oldSlowLogs oks).2
    · -- unlinked: its count was `1`, the only entry of `f`
      have h₁ := reapOldSlowLogs_removed hf
      have hn₁ : (f, n) = (f, 1) := List.inj_on_of_nodup_map hn h.mem h₁ rfl
      exact .inl ⟨rfl, (Prod.mk.inj hn₁).2, hr ▸ List.mem_append_right _ hf⟩
    · have hk : f ∉ m'.removed := by
        rw [hr, List.mem_append, not_or]
        exact ⟨h.kept, hf⟩
      rcases reapOldSlowLogs_mem oks h.mem with h' | h' | h'
      · exact .inr ⟨n - 1, ⟨hl ▸ h', hk⟩, by simp only [Event.isWorkerDone, if_true]; omega⟩
      · exact .inr ⟨n, ⟨hl ▸ h', hk⟩, by simp only [Event.isWorkerDone, if_true]; omega⟩
      · exact absurd h' hf

/-- Along a run that does not rotate the slow log to `f` again, `f` is unlinked only after
`n` done signals. -/
theorem Saved.runs {f : String} {n : Int} {m m' : Manager} (h : m.Saved f n)
    (hn : m.LogsNodup) :
    ∀ {evs : List Event}, (∀ ev ∈ evs, ev.rotatesTo f = false) → m.runs evs = some m' →
      f ∈ m'.removed → n ≤ (evs.filter Event.isWorkerDone).length
  | [], _, hm, hr => by cases hm; exact absurd hr h.kept
  | ev :: rest, hev, hm, hr => by
    simp only [Manager.runs, Option.bind_eq_some] at hm
    obtain ⟨m₁, h₁, h₂⟩ := hm
    rw [List.filter_cons]
    rcases h.step hn (hev ev (.head _)) h₁ with ⟨hd, rfl, -⟩ | ⟨n', h', hle⟩
    · simp only [hd, if_true, List.length_cons]
      omega
    · have ih := h'.runs (hn.step h₁) (fun ev' h' => hev ev' (.tail _ h')) h₂ hr
      cases hd : ev.isWorkerDone <;>
        simp only [hd, if_true, if_false, Bool.false_eq_true, List.length_cons] at hle ⊢ <;> omega

end Manager

/-- Every reachable state holds each saved file once. -/
theorem Reachable.logsNodup {m : Manager} (h : Reachable m) : m.LogsNodup := by
  induction h with
  | init => exact List.nodup_nil
  | step _ _ hs ih => exact ih.step hs

/-- From a reachable state where the file `f` is saved with the count `n` and is not
unlinked, a run that does not rotate the slow log to `f` again unlinks `f` only after `n`
done signals, whichever workers send them. -/
theorem saved_log_unlinked_after_count (m : Manager) (hm : Reachable m) (f : String)
    (n : Int) (hf : (f, n) ∈ m.oldSlowLogs) (hk : f ∉ m.removed) (evs : List Event)
    (hev : ∀ ev ∈ evs, ev.rotatesTo f = false) (m' : Manager)
    (hm' : m.runs evs = some m') (hr : f ∈ m'.removed) :
    n ≤ (evs.filter Event.isWorkerDone).length :=
  Manager.Saved.runs ⟨hf, hk⟩ hm.logsNodup hev hm' hr

/-- The steps of `rotateSlowLog` succeed at `2015-01-01 00:00:00 UTC`, and the renamed
file has `1 GiB`. -/
def rotateAtNewYear : RotateSteps := ⟨none, none, none, none, 1420070400, 1073741824⟩

/-- qan runs on the slow log with `MaxWorkers` `2`; the first interval ends at
`MaxSlowLogSize` and the slow log is rotated; the worker of the second interval returns
and `run` takes its done signal. -/
def earlyRemoveRun : List Event :=
  [.handle (.startService (.ok slowLogConfig) okSteps none),
    .interval ⟨1, "/var/lib/mysql/slow.log", 0, 1073741824⟩ rotateAtNewYear,
    .interval ⟨2, "/var/lib/mysql/slow.log", 0, 4096⟩ noRotate,
    .finish 1, .workerDone [true]]

/-- `saved_log_unlinked_after_count` on `earlyRemoveRun`: the rotated file is saved with
the count `1` and unlinked at the one done signal. -/
theorem earlyRemoveRun_unlinked_after_count :
    ∃ m, Reachable m ∧ ∃ f n, (f, n) ∈ m.oldSlowLogs ∧ f ∉ m.removed ∧
      ∃ m', m.runs (earlyRemoveRun.drop 2) = some m' ∧ f ∈ m'.removed ∧
        n ≤ ((earlyRemoveRun.drop 2).filter Event.isWorkerDone).length := by
  obtain ⟨m, hm, hp⟩ := Reachable.exists_of_runs (earlyRemoveRun.take 2)
    (fun m => decide (("/var/lib/mysql/slow.log-1420070400", 1) ∈ m.oldSlowLogs ∧
      "/var/lib/mysql/slow.log-1420070400" ∉ m.removed) &&
      (m.runs (earlyRemoveRun.drop 2)).any fun (m' : Manager) =>
        decide ("/var/lib/mysql/slow.log-1420070400" ∈ m'.removed)) (by decide)
  simp only [Bool.and_eq_true, decide_eq_true_eq] at hp
  obtain ⟨⟨hf, hk⟩, hr⟩ := hp
  cases hm' : m.runs (earlyRemoveRun.drop 2) with
  | none => rw [hm'] at hr; cases hr
  | some m' =>
    rw [hm'] at hr
    have hr' := of_decide_eq_true hr
    exact ⟨m, hm, _, _, hf, hk, m', hm', hr',
      saved_log_unlinked_after_count m hm _ _ hf hk _ (by decide) m' hm' hr'⟩

/-- A reachable state where a rotated slow log is unlinked while the worker that parses it
is still inside `w.Run`. -/
theorem rotated_log_removed_early :
    ∃ m, Reachable m ∧ ∃ w interval, (w, interval) ∈ m.workers ∧ w ∈ m.active ∧
      interval.filename ∈ m.removed := by
  obtain ⟨m, hm, hp⟩ := Reachable.exists_of_runs earlyRemoveRun
    (fun m => decide (∃ p ∈ m.workers, p.1 ∈ m.active ∧ p.2.filename ∈ m.removed)) (by decide)
  obtain ⟨⟨w, interval⟩, hw, ha, hr⟩ := of_decide_eq_true hp
  exact ⟨m, hm, w, interval, hw, ha, hr⟩

end PerconaAgent.Qan
