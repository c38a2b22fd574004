import PerconaAgent.Log.Order

/-!
# `PerconaAgent.Log.Overflow`: what a long disconnect leaves to resend

While the relay is disconnected, `buffer` takes every entry. The first `BUFFER_SIZE`
fill `firstBuf`, which is never overwritten. The next fill `secondBuf`. Once that is full
too, the next entry throws all of `secondBuf` away, adds its size to `lost`, and starts it
again from slot `0`. So `secondBuf` is not a sliding window of the last `BUFFER_SIZE`
entries: it holds the entries since its last restart.

`Relay.bufferAll` is `buffer(e1)`, ..., `buffer(eS)`; `keptInSecond` and `lostCount` say
how many of the `S` entries end in `secondBuf` and what `lost` counts, from empty buffers.

* `buffer_then_resend_sends`: from empty buffers and `lost = 0`, after `S` calls of
  `buffer` a `resend` whose sends all succeed sends `e1..e_min(S,N)`, then
  `Lost n log entries` with `n = N * ⌈(S - 2N) / N⌉` exactly when `S > 2N`, then the last
  `keptInSecond S` entries: `S - N` of them up to `S = 2N`, and
  `((S - 2N - 1) mod N) + 1` beyond.
* `overflow_sends_last_entry_only`: for `S = 2N + 1 = 21` the relay sends the first ten,
  `Lost 10 log entries` and `e21`, not `Lost 1 log entries` and `e12..e21`.

`Overflowed` is the state after the `S` calls; `Overflowed.buffer` is one more call, and
`Overflowed.resend_sent` is the flush.
-/

set_option autoImplicit false

namespace PerconaAgent.Log

/-- `buffer(e1)`, ..., `buffer(eS)` in order; `none` if one panics. -/
def Relay.bufferAll (r : Relay) : List LogEntry → Option Relay
  | [] => some r
  | e :: es => (r.buffer e).bind fun r' => r'.bufferAll es

theorem Relay.bufferAll_snoc (r : Relay) (es : List LogEntry) (e : LogEntry) :
    r.bufferAll (es ++ [e]) = (r.bufferAll es).bind fun r' => r'.buffer e := by
  induction es generalizing r with
  | nil => simp [Relay.bufferAll]
  | cons e' es ih => simp [Relay.bufferAll, ih, Option.bind_assoc]

/-- How many of `S` entries buffered from empty buffers `secondBuf` holds: those after
the first `BUFFER_SIZE`, up to `2 * BUFFER_SIZE`; after that, those since its last
restart. -/
def keptInSecond (S : Nat) : Nat :=
  if S ≤ 2 * BUFFER_SIZE then S - BUFFER_SIZE
  else (S - 2 * BUFFER_SIZE - 1) % BUFFER_SIZE + 1

/-- What `lost` counts after `S` entries buffered from empty buffers and `lost = 0`:
`BUFFER_SIZE` for every restart of `secondBuf`, `⌈(S - 2N) / N⌉` restarts. -/
def lostCount (S : Nat) : Nat :=
  if S ≤ 2 * BUFFER_SIZE then 0
  else BUFFER_SIZE * ((S - 2 * BUFFER_SIZE - 1) / BUFFER_SIZE + 1)

theorem keptInSecond_le (S : Nat) : keptInSecond S ≤ min S BUFFER_SIZE := by
  unfold keptInSecond BUFFER_SIZE; split <;> omega

/-- Below `BUFFER_SIZE` kept entries, one more entry is kept and nothing more is lost. -/
theorem keptInSecond_succ {S : Nat} (hS : BUFFER_SIZE ≤ S) (hk : keptInSecond S < BUFFER_SIZE) :
    keptInSecond (S + 1) = keptInSecond S + 1 ∧ lostCount (S + 1) = lostCount S := by
  unfold keptInSecond lostCount BUFFER_SIZE at *
  split_ifs at hk ⊢ <;> exact ⟨by omega, by omega⟩

/-- With `BUFFER_SIZE` kept entries, the next entry restarts `secondBuf` and loses them. -/
theorem keptInSecond_restart {S : Nat} (hk : keptInSecond S = BUFFER_SIZE) :
    keptInSecond (S + 1) = 1 ∧ lostCount (S + 1) = lostCount S + BUFFER_SIZE := by
  unfold keptInSecond lostCount BUFFER_SIZE at *
  split_ifs at hk ⊢ <;> exact ⟨by omega, by omega⟩

/-- The lost-count warning of `resend` after `S` entries: sent exactly past
`2 * BUFFER_SIZE` entries. -/
theorem lostCount_sent (S : Nat) :
    (if 0 < lostCount S then [Sent.lost (lostCount S)] else []) =
      if 2 * BUFFER_SIZE < S then
        [.lost (BUFFER_SIZE * ((S - 2 * BUFFER_SIZE - 1) / BUFFER_SIZE + 1) : Nat)]
      else [] := by
  unfold lostCount
  by_cases h : 2 * BUFFER_SIZE < S
  · rw [if_neg (show ¬ S ≤ 2 * BUFFER_SIZE by omega), if_pos h,
      if_pos (by unfold BUFFER_SIZE; omega)]
  · rw [if_pos (show S ≤ 2 * BUFFER_SIZE by omega), if_neg h, if_neg (lt_irrefl 0)]

/-- The relay after `buffer` was called for each of `es`, from empty buffers and
`lost = 0`: `firstBuf` holds the first `BUFFER_SIZE`, `secondBuf` the last
`keptInSecond`, both packed, and `lost` is `lostCount`. -/
structure Overflowed (es : List LogEntry) (r : Relay) : Prop where
  first : r.firstBuf.held = es.take BUFFER_SIZE
  first_packed : r.firstBuf.Packed
  second : r.secondBuf.held = es.drop (es.length - keptInSecond es.length)
  second_packed : r.secondBuf.Packed
  lost : r.lost = lostCount es.length

/-- One more call of `buffer`. -/
theorem Overflowed.buffer {es : List LogEntry} {r : Relay} (h : Overflowed es r)
    (e : LogEntry) : ∃ r', r.buffer e = some r' ∧ r'.sent = r.sent ∧ Overflowed (es ++ [e]) r' := by
  have hlen1 : r.firstBuf.size = min es.length BUFFER_SIZE := by
    rw [h.first_packed.2, h.first, List.length_take, Nat.min_comm]
  have hk := keptInSecond_le es.length
  have hlen2 : r.secondBuf.size = keptInSecond es.length := by
    rw [h.second_packed.2, h.second, List.length_drop]; omega
  by_cases hS : es.length < BUFFER_SIZE
  · -- `firstBuf` has room
    have hlt : r.firstBuf.size < BUFFER_SIZE := by omega
    obtain ⟨b, hb, hheld, hpack, -⟩ := r.firstBuf.push?_of_packed e h.first_packed hlt
    simp only [Relay.buffer, if_pos hlt, hb, Option.map_some', Option.some.injEq,
      exists_eq_left', true_and]
    refine ⟨?_, hpack, ?_, h.second_packed, ?_⟩
    · show b.held = _
      rw [hheld, h.first, List.take_of_length_le (by omega),
        List.take_of_length_le (by simp; omega)]
    · show r.secondBuf.held = _
      have h0 : keptInSecond es.length = 0 := by unfold keptInSecond at *; split <;> omega
      have h1 : keptInSecond (es.length + 1) = 0 := by unfold keptInSecond at *; split <;> omega
      rw [h.second, List.length_append, List.length_singleton, h0, h1, Nat.sub_zero,
        Nat.sub_zero, List.drop_length, List.drop_eq_nil_of_le (by simp)]
    · show r.lost = lostCount (es ++ [e]).length
      rw [h.lost, List.length_append, List.length_singleton]
      unfold lostCount BUFFER_SIZE at *; split_ifs <;> omega
  have hge : ¬ r.firstBuf.size < BUFFER_SIZE := by omega
  have hfirst : (es ++ [e]).take BUFFER_SIZE = es.take BUFFER_SIZE :=
    List.take_append_of_le_length (by omega)
  by_cases hroom : keptInSecond es.length < BUFFER_SIZE
  · -- `secondBuf` has room
    have hlt : r.secondBuf.size < BUFFER_SIZE := by omega
    obtain ⟨hk', hl'⟩ := keptInSecond_succ (by omega) hroom
    obtain ⟨b, hb, hheld, hpack, -⟩ := r.secondBuf.push?_of_packed e h.second_packed hlt
    simp only [Relay.buffer, if_neg hge, if_pos hlt, hb, Option.map_some', Option.some.injEq,
      exists_eq_left', true_and]
    refine ⟨by rw [hfirst]; exact h.first, h.first_packed, ?_, hpack, ?_⟩
    · show b.held = _
      rw [hheld, h.second, List.length_append, List.length_singleton, hk',
        List.drop_append_of_le_length (by omega)]
      congr 2
      omega
    · show r.lost = lostCount (es ++ [e]).length
      rw [List.length_append, List.length_singleton, hl']; exact h.lost
  · -- both are full: `secondBuf` restarts
    have hfull : keptInSecond es.length = BUFFER_SIZE := by omega
    obtain ⟨hk', hl'⟩ := keptInSecond_restart hfull
    obtain ⟨hheld, hpack⟩ := Buf.restart_held e
    have hfull' : ¬ r.secondBuf.size < BUFFER_SIZE := by omega
    simp only [Relay.buffer, if_neg hge, if_neg hfull', Option.some.injEq, exists_eq_left',
      true_and]
    refine ⟨by rw [hfirst]; exact h.first, h.first_packed, ?_, hpack, ?_⟩
    · show (Buf.restart e).held = _
      rw [hheld, List.length_append, List.length_singleton, hk', Nat.add_sub_cancel,
        List.drop_left]
    · show r.lost + r.secondBuf.size = lostCount (es ++ [e]).length
      rw [h.lost, hlen2, List.length_append, List.length_singleton, hl', hfull]; push_cast; rfl

/-- `buffer` called for each of `es` from empty buffers and `lost = 0` never panics, sends
nothing, and ends in `Overflowed es`. -/
theorem Overflowed.bufferAll (r : Relay) (hf : r.firstBuf = .empty) (hs : r.secondBuf = .empty)
    (hl : r.lost = 0) (es : List LogEntry) :
    ∃ r', r.bufferAll es = some r' ∧ r'.sent = r.sent ∧ Overflowed es r' := by
  induction es using List.reverseRecOn with
  | nil =>
    obtain ⟨hheld, hpack⟩ := Buf.empty_held
    exact ⟨r, rfl, rfl, by rw [hf, hheld]; rfl, hf ▸ hpack, by rw [hs, hheld]; rfl, hs ▸ hpack,
      by rw [hl]; rfl⟩
  | append_singleton es e ih =>
    obtain ⟨r₁, h₁, hsent₁, hover⟩ := ih
    obtain ⟨r₂, h₂, hsent₂, hover'⟩ := hover.buffer e
    exact ⟨r₂, by rw [Relay.bufferAll_snoc, h₁]; exact h₂, hsent₂.trans hsent₁, hover'⟩

/-- A `resend` whose sends all succeed, from `Overflowed es`: the first `BUFFER_SIZE`
entries, the lost-count warning when `lost > 0`, and the entries `secondBuf` kept. -/
theorem Overflowed.resend_sent {es : List LogEntry} {r : Relay} (h : Overflowed es r)
    {oks : List Bool} (hok : oks.all id) :
    (r.resend oks).sent = r.sent ++ (es.take BUFFER_SIZE).map .entry ++
      (if 0 < lostCount es.length then [.lost (lostCount es.length)] else []) ++
      (es.drop (es.length - keptInSecond es.length)).map .entry := by
  obtain ⟨-, -, f3, f4⟩ := r.firstBuf.resend_of_all oks h.first_packed hok
  have hhead : (r.firstBuf.resend oks).2.2.headD true = true := by
    cases hl : (r.firstBuf.resend oks).2.2 <;> simp_all
  have htail : (if 0 < r.lost then (r.firstBuf.resend oks).2.2.tail
      else (r.firstBuf.resend oks).2.2).all id := by
    split
    · cases hl : (r.firstBuf.resend oks).2.2 <;> simp_all
    · exact f4
  obtain ⟨-, -, s3, -⟩ := r.secondBuf.resend_of_all _ h.second_packed htail
  simp only [Relay.resend, f3, s3, h.first, h.second, hhead, and_true]
  rw [h.lost]
  norm_cast

/-- From empty buffers and `lost = 0`, `buffer(e1)`, ..., `buffer(eS)` and then a `resend`
whose sends all succeed send, in this order: `e1..e_min(S,N)`; `Lost n log entries` with
`n = N * ⌈(S - 2N) / N⌉`, exactly when `S > 2N`; and the last `keptInSecond S` entries
(`S - N` up to `S = 2N`, then `((S - 2N - 1) mod N) + 1`). -/
theorem buffer_then_resend_sends (r : Relay) (hf : r.firstBuf = .empty)
    (hs : r.secondBuf = .empty) (hl : r.lost = 0) (es : List LogEntry) (oks : List Bool)
    (hok : oks.all id) :
    ∃ r', r.bufferAll es = some r' ∧
      (r'.resend oks).sent = r.sent ++ (es.take BUFFER_SIZE).map .entry ++
        (if 2 * BUFFER_SIZE < es.length then
          [.lost (BUFFER_SIZE * ((es.length - 2 * BUFFER_SIZE - 1) / BUFFER_SIZE + 1) : Nat)]
        else []) ++
        (es.drop (es.length - keptInSecond es.length)).map .entry := by
  obtain ⟨r', hr', hsent, hover⟩ := Overflowed.bufferAll r hf hs hl es
  refine ⟨r', hr', ?_⟩
  rw [hover.resend_sent hok, hsent, lostCount_sent]

/-- Twenty-five entries, told apart by their level. -/
def twentyFiveEntries : List LogEntry :=
  (List.range 25).map fun i => ⟨"qan", i.toUInt8, "m"⟩

/-- Twenty-five entries buffered by a disconnected relay and resent, past the overflow of
`secondBuf`: the first ten, `Lost 10 log entries` and the last five are sent. -/
theorem twentyFiveEntries_then_resend :
    let r := Relay.start Levels.syslog "" 7 false none
    let es := twentyFiveEntries
    r.firstBuf = .empty ∧ r.secondBuf = .empty ∧ r.lost = 0 ∧ ([] : List Bool).all id ∧
    2 * BUFFER_SIZE < es.length ∧
    BUFFER_SIZE * ((es.length - 2 * BUFFER_SIZE - 1) / BUFFER_SIZE + 1) = 10 ∧
    keptInSecond es.length = 5 ∧
    ∃ r', r.bufferAll es = some r' ∧
      (r'.resend []).sent = r.sent ++ (es.take BUFFER_SIZE).map .entry ++
        (if 2 * BUFFER_SIZE < es.length then
          [.lost (BUFFER_SIZE * ((es.length - 2 * BUFFER_SIZE - 1) / BUFFER_SIZE + 1) : Nat)]
        else []) ++
        (es.drop (es.length - keptInSecond es.length)).map .entry :=
  ⟨rfl, rfl, rfl, rfl, by decide, by decide, by decide,
    buffer_then_resend_sends _ rfl rfl rfl _ _ rfl⟩

/-- `2 * BUFFER_SIZE + 1` entries, told apart by their level. -/
def overflowEntries : List LogEntry :=
  (List.range 21).map fun i => ⟨"qan", i.toUInt8, "m"⟩

/-- After `2 * BUFFER_SIZE + 1 = 21` entries, `resend` sends the first ten,
`Lost 10 log entries` and the last entry only, not `Lost 1 log entries` followed by the
last ten. -/
theorem overflow_sends_last_entry_only :
    ((Relay.start Levels.syslog "" 7 false none).bufferAll overflowEntries).map
        (fun r => (r.resend []).sent) =
      some ((overflowEntries.take 10).map .entry ++ [.lost 10] ++
        (overflowEntries.drop 20).map .entry) ∧
    (overflowEntries.take 10).map Sent.entry ++ [.lost 10] ++
        (overflowEntries.drop 20).map .entry ≠
      (overflowEntries.take 10).map .entry ++ [.lost 1] ++ (overflowEntries.drop 11).map .entry := by
  decide

end PerconaAgent.Log
