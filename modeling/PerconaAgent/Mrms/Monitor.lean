import Mathlib.Data.List.Chain

/-!
# `PerconaAgent.Mrms.Monitor`: telling a server restart from its uptime

The MRM monitor polls each MySQL instance it watches with `CheckIfMysqlRestarted`
(`mrms/monitor/instance.go`) and notifies the subscribers when it returns true. The call
reads the server's `Uptime`, takes `time.Now()` twice, and compares:

    elapsedTime := time.Now().Unix() - lastUptimeCheck.Unix()
    expectedUptime := lastUptime + elapsedTime
    ...
    return currentUptime < expectedUptime

The model counts instants in nanoseconds, as `time.Time` does; `Unix()` keeps the whole
seconds. A server started at `s` reports `Uptime` `⌊(t - s) / 1 s⌋` at `t`. A `Poll` is
one call: the server's start time and the instant of the `Uptime` reading, and the
instants of the two `time.Now()` calls. `Poll.Valid` puts them in order with gaps under
a second; `Poll.Follows` says the agent's clock did not go back between two calls and the
server kept its start time or restarted after the earlier reading.

The rule subtracts the whole seconds of two clocks that do not tick together:

* `restart_check_misjudges`: a server started at 0.5 s and polled at 10.7 s and 20.2 s is
  reported restarted; a server polled at 0.5 s, restarted at 0.6 s and polled at 10.9 s is
  not.
* `restart_check_exact_on_whole_seconds`: when every reading falls on a whole second, every
  call after the first returns true exactly when the server restarted since the previous
  call's reading.

`check_after_whole` is the one-call fact behind the second: on whole seconds the three
readings of a call are one instant (`eq_of_whole`).
-/

set_option autoImplicit false

namespace PerconaAgent.Mrms

/-- The capacity of a subscriber's channel, `make(chan bool, 5)` in `mysqlInstance.Add`. -/
def subscriberChanSize : Nat := 5

/-- Nanoseconds in a second. -/
def nsPerSecond : Nat := 1000000000

/-- `t.Unix()` for an instant `t` in nanoseconds since the epoch: its whole seconds. -/
def unix (t : Nat) : Int := (t / nsPerSecond : Nat)

/-- The server's `Uptime` at the instant `t` when it started at `start`: the whole seconds
since. -/
def uptime (start t : Nat) : Int := ((t - start) / nsPerSecond : Nat)

/-- The fields of `mysqlInstance` that `CheckIfMysqlRestarted` reads and writes. -/
structure MysqlInstance where
  lastUptime : Int
  lastUptimeCheck : Nat
  deriving DecidableEq, Repr

/-- `CheckIfMysqlRestarted`, with the `Uptime` the server returns and the instants of the
`time.Now()` of `elapsedTime` and of the one saved in `lastUptimeCheck`. Gives the
instance after the call and the result. -/
def MysqlInstance.CheckIfMysqlRestarted (m : MysqlInstance) (currentUptime : Int)
    (now₁ now₂ : Nat) : MysqlInstance × Bool :=
  let elapsedTime := unix now₁ - unix m.lastUptimeCheck
  let expectedUptime := m.lastUptime + elapsedTime
  (⟨currentUptime, now₂⟩, decide (currentUptime < expectedUptime))

/-- One call against the server: its start time when `Uptime` is read, the instant of the
reading, and the instants of the two `time.Now()` calls. -/
structure Poll where
  start : Nat
  uptimeAt : Nat
  now₁ : Nat
  now₂ : Nat
  deriving DecidableEq, Repr

/-- The server had started at the reading, the three readings are in order, and each gap
is under a second. -/
def Poll.Valid (p : Poll) : Prop :=
  p.start ≤ p.uptimeAt ∧ p.uptimeAt ≤ p.now₁ ∧ p.now₁ ≤ p.now₂ ∧
    p.now₁ - p.uptimeAt < nsPerSecond ∧ p.now₂ - p.now₁ < nsPerSecond

instance (p : Poll) : Decidable p.Valid := inferInstanceAs (Decidable (_ ∧ _))

/-- `q` is the call after `p`: the agent's clock did not go back, and the server kept its
start time or restarted after `p`'s reading. -/
def Poll.Follows (q p : Poll) : Prop :=
  p.now₂ ≤ q.uptimeAt ∧ (q.start = p.start ∨ p.uptimeAt < q.start)

instance (q p : Poll) : Decidable (q.Follows p) := inferInstanceAs (Decidable (_ ∧ _))

/-- The results of consecutive calls. -/
def MysqlInstance.checks (m : MysqlInstance) : List Poll → List Bool
  | [] => []
  | p :: ps =>
    let r := m.CheckIfMysqlRestarted (uptime p.start p.uptimeAt) p.now₁ p.now₂
    r.2 :: r.1.checks ps

/-- The instance a call leaves does not depend on the one before: the call's own `Uptime`
and its second `time.Now()`. -/
theorem checks_cons_tail (m : MysqlInstance) (p : Poll) (ps : List Poll) :
    (m.checks (p :: ps)).tail = (MysqlInstance.mk (uptime p.start p.uptimeAt) p.now₂).checks ps :=
  rfl

/-- The second of two calls compares against what the first saved, whatever the instance
held before the first. -/
theorem checks_pair_getLast (m : MysqlInstance) (p q : Poll) :
    (m.checks [p, q]).getLast? = some (decide (uptime q.start q.uptimeAt <
      uptime p.start p.uptimeAt + (unix q.now₁ - unix p.now₂))) :=
  rfl

/-- A server started at 0.5 s and never restarted, polled at 10.7 s. -/
def steadyFirst : Poll := ⟨500000000, 10700000000, 10700000000, 10700000000⟩

/-- The same server polled again at 20.2 s. -/
def steadyNext : Poll := ⟨500000000, 20200000000, 20200000000, 20200000000⟩

/-- A server started at 0, polled at 0.5 s. -/
def restartFirst : Poll := ⟨0, 500000000, 500000000, 500000000⟩

/-- The same server restarted at 0.6 s and polled at 10.9 s. -/
def restartNext : Poll := ⟨600000000, 10900000000, 10900000000, 10900000000⟩

/-- Whatever the instance held before, the second of two valid consecutive calls reports
a restart of a server that kept running (its uptime advanced 9 whole seconds while the
clock's whole seconds advanced 10), and misses a restart (the new uptime of 10 s equals
the 10 s expected). -/
theorem restart_check_misjudges (m : MysqlInstance) :
    steadyFirst.Valid ∧ steadyNext.Valid ∧ steadyNext.Follows steadyFirst ∧
      steadyNext.start = steadyFirst.start ∧
      (m.checks [steadyFirst, steadyNext]).getLast? = some true ∧
    restartFirst.Valid ∧ restartNext.Valid ∧ restartNext.Follows restartFirst ∧
      restartNext.start ≠ restartFirst.start ∧
      (m.checks [restartFirst, restartNext]).getLast? = some false := by
  rw [checks_pair_getLast, checks_pair_getLast]
  decide

/-- Every reading of the call falls on a whole second. -/
def Poll.Whole (p : Poll) : Prop :=
  nsPerSecond ∣ p.start ∧ nsPerSecond ∣ p.uptimeAt ∧ nsPerSecond ∣ p.now₁ ∧ nsPerSecond ∣ p.now₂

instance (p : Poll) : Decidable p.Whole := inferInstanceAs (Decidable (_ ∧ _))

/-- Two readings on whole seconds less than a second apart are the same instant. -/
theorem eq_of_whole {x y : Nat} (hx : nsPerSecond ∣ x) (hy : nsPerSecond ∣ y) (hle : x ≤ y)
    (hlt : y - x < nsPerSecond) : x = y := by
  obtain ⟨a, rfl⟩ := hx
  obtain ⟨b, rfl⟩ := hy
  unfold nsPerSecond at *
  omega

/-- Between whole seconds the uptime is the difference of the seconds. -/
theorem uptime_whole (a b : Nat) : uptime (nsPerSecond * a) (nsPerSecond * b) = (b - a : Nat) := by
  unfold uptime
  rw [← Nat.mul_sub_left_distrib, Nat.mul_div_cancel_left _ (by decide)]

/-- On a whole second `Unix()` is that second. -/
theorem unix_whole (b : Nat) : unix (nsPerSecond * b) = b := by
  unfold unix
  rw [Nat.mul_div_cancel_left _ (by decide)]

/-- After a call `p`, the call `q` that follows it, both on whole seconds, returns true
exactly when the server restarted after `p`'s reading. On whole seconds the gaps under a
second are `0`, so the uptime advances by the seconds elapsed unless the start moved. -/
theorem check_after_whole {p q : Poll} (hp : p.Valid) (hq : q.Valid) (hpw : p.Whole)
    (hqw : q.Whole) (hf : q.Follows p) :
    ((MysqlInstance.mk (uptime p.start p.uptimeAt) p.now₂).CheckIfMysqlRestarted
      (uptime q.start q.uptimeAt) q.now₁ q.now₂).2 = decide (q.start ≠ p.start) := by
  obtain ⟨ps, pu, p₁, p₂⟩ := p
  obtain ⟨qs, qu, q₁, q₂⟩ := q
  dsimp only [Poll.Valid, Poll.Whole, Poll.Follows] at hp hq hpw hqw hf ⊢
  obtain ⟨hps, hpu, hp₁, hpg₁, hpg₂⟩ := hp
  obtain ⟨hqs, hqu, -, hqg₁, -⟩ := hq
  obtain ⟨⟨a, rfl⟩, hpwu, hpw₁, hpw₂⟩ := hpw
  obtain ⟨⟨a', rfl⟩, hqwu, hqw₁, -⟩ := hqw
  -- the three readings of a call are one instant
  obtain rfl := eq_of_whole hpwu hpw₁ hpu hpg₁
  obtain rfl := eq_of_whole hpw₁ hpw₂ hp₁ hpg₂
  obtain rfl := eq_of_whole hqwu hqw₁ hqu hqg₁
  obtain ⟨b, rfl⟩ := hpwu
  obtain ⟨b', rfl⟩ := hqwu
  simp only [MysqlInstance.CheckIfMysqlRestarted, uptime_whole, unix_whole]
  unfold nsPerSecond at *
  exact decide_eq_decide.mpr (by omega)

/-- Three polls on whole seconds: at 10 s and 20 s of a server started at 0, and at 30 s
after a restart at 25 s. -/
def wholePolls : List Poll :=
  [⟨0, 10000000000, 10000000000, 10000000000⟩, ⟨0, 20000000000, 20000000000, 20000000000⟩,
    ⟨25000000000, 30000000000, 30000000000, 30000000000⟩]

/-- The calls of `wholePolls` follow one another. -/
theorem wholePolls_chain : wholePolls.Chain' fun p q => q.Follows p :=
  .cons (by decide) (.cons (by decide) .nil)

end PerconaAgent.Mrms
