import Mathlib.Data.List.ReduceOption
import PerconaAgent.Log.Relay

/-!
# `PerconaAgent.Log.Accounting`: where a buffered entry goes

`buffer` writes slot `firstBufSize` of `firstBuf`, or slot `secondBufSize` of
`secondBuf`, so it reads each size as "the slots below are taken, the rest are free".
`resend` clears every slot whose send succeeds and decrements the size, whichever slot
that is. After a `resend` that delivers some entries and fails on others, the held entries
no longer fill the first `size` slots, and the next `buffer` writes over a held one.

`Relay.Accounted` is the bookkeeping of the relay: every call of `buffer` is an entry a
`resend` delivered, a non-nil slot, or a unit added to `lost`.

* `buffer_overwrites_unsent_entry`: a reachable state breaks it. Two entries are buffered
  while the relay is disconnected; on reconnect the send of the first succeeds and the send
  of the second fails, so `firstBufSize` drops to `1` while slot `1` still holds the
  second; the relay's own `connected: true` entry then fails to send and `buffer` writes it
  into slot `1`. The second entry is gone: not sent, not held, and not in `lost`.

The sizes stay in range all the same. A size counts at least the non-nil slots of its
buffer (a hole left by `resend` is still counted) and at most `BUFFER_SIZE`: `buffer`
writes only below `BUFFER_SIZE` and adds at most one non-nil slot, a restart leaves one,
and `resend` takes one off the size for each slot it clears.

* `buffer_sizes_in_range`: on every run, `0 ≤ firstBufSize ≤ BUFFER_SIZE` and
  `0 ≤ secondBufSize ≤ BUFFER_SIZE`, so `buffer` never writes outside its slice and no
  `resend` leaves a negative size.

`Relay.SizeInv` is that invariant; `SizeInv.step` keeps it through the cases of
`Relay.step_cases`.
-/

set_option autoImplicit false

namespace PerconaAgent.Log

/-- The invariant of one buffer: its size counts at least its non-nil slots and at most
`BUFFER_SIZE`. -/
structure Buf.Bounded (b : Buf) : Prop where
  held_le_size : (b.held.length : Int) ≤ b.size
  size_le : b.size ≤ BUFFER_SIZE

theorem Buf.Bounded.nonneg {b : Buf} (h : b.Bounded) : 0 ≤ b.size := by
  have := h.held_le_size; omega

/-- Writing `some e` into one slot adds at most one non-nil slot. -/
theorem length_reduceOption_set_some_le (l : List (Option LogEntry)) (i : Nat) (e : LogEntry) :
    (l.set i (some e)).reduceOption.length ≤ l.reduceOption.length + 1 := by
  induction l generalizing i with
  | nil => simp
  | cons o l ih =>
    cases i with
    | zero => cases o <;> simp [List.reduceOption_cons_of_some, List.reduceOption_cons_of_none]
    | succ i =>
      have := ih i
      cases o <;> simp [List.reduceOption_cons_of_some, List.reduceOption_cons_of_none] <;> omega

/-- The loop of `resend` takes off the held entries exactly those it sends. -/
theorem length_resendSlots_held (slots : List (Option LogEntry)) (oks : List Bool) :
    (resendSlots slots oks).1.reduceOption.length + (resendSlots slots oks).2.1.length =
      slots.reduceOption.length := by
  induction slots generalizing oks with
  | nil => rfl
  | cons o slots ih =>
    cases o with
    | none => simpa [resendSlots, List.reduceOption_cons_of_none] using ih oks
    | some e =>
      have := ih oks.tail
      simp only [resendSlots]
      split <;> simp [List.reduceOption_cons_of_some, List.reduceOption_cons_of_none] <;> omega

theorem Buf.empty_bounded : Buf.empty.Bounded :=
  ⟨by simp [Buf.empty, Buf.held, List.reduceOption], by simp [Buf.empty, BUFFER_SIZE]⟩

/-- `buf[size] = e; size++` on a bounded buffer with room is in range and keeps it
bounded. -/
theorem Buf.Bounded.push? {b : Buf} (h : b.Bounded) (hlt : b.size < BUFFER_SIZE)
    (e : LogEntry) : ∃ b', b.push? e = some b' ∧ b'.Bounded := by
  have hset := length_reduceOption_set_some_le b.slots b.size.toNat e
  have hle := h.held_le_size
  simp only [Buf.held] at hle
  refine ⟨_, if_pos ⟨h.nonneg, by rw [b.length_slots]; exact hlt⟩, ⟨?_, ?_⟩⟩
  · show (((b.slots.set b.size.toNat (some e)).reduceOption.length : Nat) : Int) ≤ b.size + 1
    omega
  · show b.size + 1 ≤ _
    omega

theorem Buf.restart_bounded (e : LogEntry) : (Buf.restart e).Bounded :=
  ⟨by simp [Buf.restart, Buf.held, BUFFER_SIZE, List.replicate_succ, List.reduceOption],
    by simp [Buf.restart, BUFFER_SIZE]⟩

/-- A loop of `resend` keeps a buffer bounded: the size drops by the number of slots it
clears. -/
theorem Buf.Bounded.resend {b : Buf} (h : b.Bounded) (oks : List Bool) :
    (b.resend oks).1.Bounded := by
  have hsent := length_resendSlots_held b.slots oks
  obtain ⟨hle, hsize⟩ := h
  simp only [Buf.held] at hle
  constructor <;> simp only [Buf.resend, Buf.held] <;> omega

namespace Relay

/-- Both buffers are bounded. -/
structure SizeInv (r : Relay) : Prop where
  first : r.firstBuf.Bounded
  second : r.secondBuf.Bounded

theorem SizeInv.resend {r : Relay} (h : r.SizeInv) (oks : List Bool) : (r.resend oks).SizeInv :=
  ⟨h.first.resend oks, h.second.resend _⟩

theorem SizeInv.after {r : Relay} (h : r.SizeInv) : ∀ k, (r.after k).SizeInv
  | some oks => h.resend oks
  | none => h

/-- From bounded buffers, `buffer` never panics. -/
theorem SizeInv.buffer_isSome {r : Relay} (h : r.SizeInv) (e : LogEntry) :
    (r.buffer e).isSome := by
  simp only [buffer]
  split
  · obtain ⟨b, hb, -⟩ := h.first.push? ‹_› e
    simp [hb]
  · split
    · obtain ⟨b, hb, -⟩ := h.second.push? ‹_› e
      simp [hb]
    · rfl

/-- `buffer` keeps both buffers bounded. -/
theorem SizeInv.buffer {r r' : Relay} {e : LogEntry} (h : r.SizeInv)
    (hb : r.buffer e = some r') : r'.SizeInv := by
  rcases buffer_eq_some hb with ⟨hlt, b, hb', rfl⟩ | ⟨-, hlt, b, hb', rfl⟩ | ⟨-, -, rfl⟩
  · obtain ⟨b', hb'', hbound⟩ := h.first.push? hlt e
    obtain rfl := Option.some_injective _ (hb'.symm.trans hb'')
    exact ⟨hbound, h.second⟩
  · obtain ⟨b', hb'', hbound⟩ := h.second.push? hlt e
    obtain rfl := Option.some_injective _ (hb'.symm.trans hb'')
    exact ⟨h.first, hbound⟩
  · exact ⟨h.first, Buf.restart_bounded e⟩

section
variable (lv : Levels)

theorem SizeInv.internal {r : Relay} (h : r.SizeInv) (msg : String) (k : Option (List Bool)) :
    (r.internal lv msg k).SizeInv := by
  unfold Relay.internal
  split
  · exact SizeInv.after (by exact ⟨h.first, h.second⟩) k
  · exact ⟨h.first, h.second⟩

theorem SizeInv.setLogFile {r : Relay} (h : r.SizeInv) (file : String) (err : Option String) :
    (r.setLogFile lv file err).SizeInv := by
  unfold Relay.setLogFile
  repeat' split
  all_goals first
    | exact h.internal lv _ _
    | exact ⟨h.first, h.second⟩

theorem SizeInv.setLogLevel {r : Relay} (h : r.SizeInv) (level : UInt8) :
    (r.setLogLevel lv level).SizeInv := by
  unfold Relay.setLogLevel
  split
  · exact h.internal lv _ _
  · exact ⟨h.first, h.second⟩

/-- The `logChan` case of `Run` keeps both buffers bounded. -/
theorem SizeInv.handleEntry {r r' : Relay} {e : LogEntry} {ok : Bool} (h : r.SizeInv)
    (hs : r.handleEntry e ok = some r') : r'.SizeInv := by
  unfold Relay.handleEntry Relay.send at hs
  split at hs
  · cases hs; exact h
  split at hs
  · cases hs; exact h
  split at hs
  · split at hs
    · cases hs; exact ⟨h.first, h.second⟩
    · exact h.buffer hs
  · exact h.buffer hs

/-- Every step keeps both buffers bounded. -/
theorem SizeInv.step {r r' : Relay} {ev : Event} (h : r.SizeInv) (hs : r.step lv ev = some r') :
    r'.SizeInv := by
  rcases step_cases lv hs with ⟨_, -, -, rfl⟩ | ⟨_, k, -, -, -, rfl⟩ | ⟨-, _, e, rest, -, -, hs⟩ |
    ⟨-, c, _, -, rfl⟩ | ⟨-, _, _, -, rfl⟩ | ⟨-, _, -, rfl⟩
  · exact ⟨h.first, h.second⟩
  · exact SizeInv.after (by exact ⟨h.first, h.second⟩) k
  · exact SizeInv.handleEntry (r := r.receive e rest) ⟨h.first, h.second⟩ hs
  · exact SizeInv.internal lv (r := { r with connected := c }) ⟨h.first, h.second⟩ _ _
  · exact h.setLogFile lv _ _
  · exact h.setLogLevel lv _

end

end Relay

/-- Every reachable relay has both buffers bounded. -/
theorem Reachable.sizeInv {lv : Levels} {r : Relay} (hr : Reachable lv r) : r.SizeInv := by
  induction hr with
  | start => exact Relay.SizeInv.setLogFile lv ⟨Buf.empty_bounded, Buf.empty_bounded⟩ _ _
  | step _ _ hs ih => exact ih.step lv hs

/-- On every run of the relay both sizes stay in `[0, BUFFER_SIZE]`: `buffer`'s write into
`firstBuf[firstBufSize]` or `secondBuf[secondBufSize]` is always in range, and the
decrements of a `resend` never make a size negative. -/
theorem buffer_sizes_in_range (lv : Levels) {r : Relay} (hr : Reachable lv r) :
    (0 ≤ r.firstBuf.size ∧ r.firstBuf.size ≤ BUFFER_SIZE) ∧
    (0 ≤ r.secondBuf.size ∧ r.secondBuf.size ≤ BUFFER_SIZE) ∧
    (∀ e, (r.buffer e).isSome) ∧
    (∀ oks, 0 ≤ (r.resend oks).firstBuf.size ∧ 0 ≤ (r.resend oks).secondBuf.size) := by
  have h := hr.sizeInv
  exact ⟨⟨h.first.nonneg, h.first.size_le⟩, ⟨h.second.nonneg, h.second.size_le⟩,
    h.buffer_isSome, fun oks => ⟨(h.resend oks).first.nonneg, (h.resend oks).second.nonneg⟩⟩

/-- The entry whose slot is overwritten in `overwriteRun`. -/
def lostEntry : LogEntry := ⟨"qan", 3, "b"⟩

/-- Two entries queued and buffered while disconnected, a reconnect whose `resend`
delivers the first and fails on the second, and a failed send of the next entry, the
relay's own `connected: true`. -/
def overwriteRun : List Event :=
  [.produce ⟨"qan", 3, "a"⟩, .produce lostEntry, .entry true, .entry true,
    .connect true [true, false], .entry false]

/-- `buffer_sizes_in_range` at the end of `overwriteRun`. Its partial `resend` left slot `0`
of `firstBuf` empty under a size of `1`, and the next `buffer` wrote slot `1`: a hole below
a size of `2`. -/
theorem overwriteRun_sizes_in_range :
    ∃ r, (Relay.start Levels.syslog "" 7 false none).run Levels.syslog overwriteRun = some r ∧
      r.firstBuf.slots.head? = some none ∧ r.firstBuf.size = 2 ∧
      (0 ≤ r.firstBuf.size ∧ r.firstBuf.size ≤ BUFFER_SIZE) ∧
      (0 ≤ r.secondBuf.size ∧ r.secondBuf.size ≤ BUFFER_SIZE) ∧
      (∀ e, (r.buffer e).isSome) ∧
      (∀ oks, 0 ≤ (r.resend oks).firstBuf.size ∧ 0 ≤ (r.resend oks).secondBuf.size) :=
  ⟨_, rfl, by decide, by decide,
    buffer_sizes_in_range Levels.syslog
      (@Reachable.run Levels.syslog _ _ (.start "" 7 false none) overwriteRun rfl)⟩

namespace Relay

/-- The non-nil slots of both buffers. -/
def heldCount (r : Relay) : Nat := r.firstBuf.held.length + r.secondBuf.held.length

/-- Every call of `buffer` so far is an entry a `resend` delivered, a non-nil slot, or a
unit added to `lost`. -/
def Accounted (r : Relay) : Prop :=
  (r.audit.buffered : Int) = r.audit.resent + r.heldCount + r.audit.lostAdded

instance (r : Relay) : Decidable r.Accounted := inferInstanceAs (Decidable (_ = _))

end Relay

/-- A reachable state of the relay breaks the bookkeeping: `buffer` was called three
times, one entry was resent, one slot is held and nothing was added to `lost`. The entry
`lostEntry` was passed to `buffer` and is neither sent nor held. -/
theorem buffer_overwrites_unsent_entry :
    ∃ r, Reachable Levels.syslog r ∧ ¬ r.Accounted ∧ r.audit.buffered = 3 ∧
      r.audit.resent = 1 ∧ r.heldCount = 1 ∧ r.audit.lostAdded = 0 ∧
      lostEntry ∉ r.firstBuf.held ++ r.secondBuf.held ∧ Sent.entry lostEntry ∉ r.sent := by
  obtain ⟨r, hr, hp⟩ := (Reachable.start "" 7 false none).exists_of_run Levels.syslog
    overwriteRun (fun r => decide (¬ r.Accounted ∧ r.audit.buffered = 3 ∧
      r.audit.resent = 1 ∧ r.heldCount = 1 ∧ r.audit.lostAdded = 0 ∧
      lostEntry ∉ r.firstBuf.held ++ r.secondBuf.held ∧ Sent.entry lostEntry ∉ r.sent))
    (by decide)
  exact ⟨r, hr, of_decide_eq_true hp⟩

end PerconaAgent.Log
