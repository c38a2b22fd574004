import Mathlib.Data.List.ReduceOption
import PerconaAgent.Log.Relay

/-!
# `PerconaAgent.Log.Order`: the order of delivered entries

`Run` sends an entry while the websocket is connected and buffers it when the send fails.
The buffers are flushed at the next connect event only. So an entry whose send fails is
overtaken by every later entry whose send succeeds in the same session:

* `delivery_reorders`: a reachable state where the transport got `b` and then `a`,
  although `Run` received `a` before `b`.

When every send succeeds, the relay keeps the order:

* `delivered_sublist_received`: on every run whose sends all succeed, the entries the
  transport accepted, lost-count warnings left out, are a sublist of the entries `Run`
  received. Some are missing (filtered by level, or thrown away with `secondBuf`), none is
  out of order.

The invariant `OrderInv` behind it: what was delivered followed by what the buffers hold
is a sublist of what was received; neither buffer has a hole; `secondBuf` is empty while
`firstBuf` has room; and while connected at the `select`, the buffers are empty.
-/

set_option autoImplicit false

namespace PerconaAgent.Log

/-- Every transport send of the event succeeds. -/
def Event.sendsOk : Event → Bool
  | .entry ok => ok
  | .connect _ oks => oks.all id
  | _ => true

/-- The outcomes of the `resend` a blocked `internal` call still owes. -/
def Pc.resendAfter : Pc → Option (List Bool)
  | .select => none
  | .internal _ k => k

/-- The entries held in a buffer fill its first slots, and its size counts them. -/
def Buf.Packed (b : Buf) : Prop :=
  b.slots = b.held.map some ++ List.replicate (BUFFER_SIZE - b.held.length) none ∧
    b.size = b.held.length

namespace Relay

/-- The entries the transport accepted, lost-count warnings left out. -/
def delivered (r : Relay) : List LogEntry := r.sent.filterMap Sent.entry?

/-- The entries both buffers hold, `firstBuf` first. -/
def held (r : Relay) : List LogEntry := r.firstBuf.held ++ r.secondBuf.held

end Relay

/-- What was delivered, then what the buffers hold, is a sublist of what `Run` received;
both buffers are packed; `secondBuf` is empty while `firstBuf` has room. -/
structure BufInv (r : Relay) : Prop where
  sublist : (r.delivered ++ r.held).Sublist r.audit.received
  first : r.firstBuf.Packed
  second : r.secondBuf.Packed
  second_nil : r.firstBuf.size < BUFFER_SIZE → r.secondBuf.held = []

/-- The invariant of the runs whose sends all succeed: `BufInv`, the `resend` a blocked
`internal` owes has only successes, and while connected with no `resend` owed the buffers
are empty. -/
structure OrderInv (r : Relay) extends BufInv r : Prop where
  pending : ∀ oks, r.pc.resendAfter = some oks → oks.all id
  flushed : r.connected → r.pc.resendAfter = none → r.held = []

/-- `BufInv` reads only the transport's view, the received entries and the buffers. -/
theorem BufInv.congr {r r' : Relay} (h : BufInv r) (hsent : r'.sent = r.sent)
    (hrec : r'.audit.received = r.audit.received) (hf : r'.firstBuf = r.firstBuf)
    (hs : r'.secondBuf = r.secondBuf) : BufInv r' := by
  obtain ⟨h1, h2, h3, h4⟩ := h
  refine ⟨?_, hf ▸ h2, hs ▸ h3, hf ▸ hs ▸ h4⟩
  simpa [Relay.delivered, Relay.held, hsent, hrec, hf, hs] using h1

/-- A fresh buffer holds nothing and is packed. -/
theorem Buf.empty_held : Buf.empty.held = [] ∧ Buf.empty.Packed := by
  simp [Buf.empty, Buf.held, Buf.Packed, List.reduceOption]

/-- `resendSlots` with outcomes that are all successes sends every held entry in slot
order and clears every slot. -/
theorem resendSlots_of_all (slots : List (Option LogEntry)) (oks : List Bool)
    (hok : oks.all id) :
    (resendSlots slots oks).1 = List.replicate slots.length none ∧
      (resendSlots slots oks).2.1 = slots.reduceOption ∧
      (resendSlots slots oks).2.2.all id := by
  induction slots generalizing oks with
  | nil => simpa [resendSlots] using hok
  | cons o slots ih =>
    cases o with
    | none => simpa [resendSlots, List.replicate_succ] using ih oks hok
    | some e =>
      -- the first outcome is a success, and so are the rest
      have hsplit : oks.head?.getD true = true ∧ oks.tail.all id := by
        cases oks with
        | nil => exact ⟨rfl, rfl⟩
        | cons b bs => simpa using hok
      obtain ⟨h1, h2, h3⟩ := ih oks.tail hsplit.2
      simp [resendSlots, hsplit.1, h1, h2, h3, List.replicate_succ]

/-- A loop of `resend` with only successes on a packed buffer delivers what it holds and
leaves it empty. -/
theorem Buf.resend_of_all (b : Buf) (oks : List Bool) (hb : b.Packed) (hok : oks.all id) :
    (b.resend oks).1.held = [] ∧ (b.resend oks).1.Packed ∧ (b.resend oks).2.1 = b.held ∧
      (b.resend oks).2.2.all id := by
  obtain ⟨h1, h2, h3⟩ := resendSlots_of_all b.slots oks hok
  have hs : (b.resend oks).1.slots = List.replicate BUFFER_SIZE none := by
    simp [Buf.resend, h1, b.length_slots]
  have hz : (b.resend oks).1.size = 0 := by simp [Buf.resend, h2, hb.2, Buf.held]
  have hnil : (b.resend oks).1.held = [] := by simp [Buf.held, hs, List.reduceOption]
  exact ⟨hnil, ⟨by rw [hnil, hs]; simp, by rw [hnil, hz]; simp⟩,
    by simp [Buf.resend, Buf.held, h2], by simpa [Buf.resend] using h3⟩

/-- `buffer`'s write into a packed buffer with room appends the entry to what it holds. -/
theorem Buf.push?_of_packed (b : Buf) (e : LogEntry) (hb : b.Packed)
    (hlt : b.size < BUFFER_SIZE) :
    ∃ b', b.push? e = some b' ∧ b'.held = b.held ++ [e] ∧ b'.Packed ∧ b'.size = b.size + 1 := by
  obtain ⟨hslots, hsize⟩ := hb
  have hn : b.held.length < BUFFER_SIZE := by omega
  have hset : b.slots.set b.size.toNat (some e)
      = (b.held ++ [e]).map some ++ List.replicate (BUFFER_SIZE - (b.held.length + 1)) none := by
    obtain ⟨k, hk⟩ : ∃ k, BUFFER_SIZE - b.held.length = k + 1 := ⟨_, (Nat.succ_pred_eq_of_pos
      (by omega)).symm⟩
    have hk' : BUFFER_SIZE - (b.held.length + 1) = k := by omega
    rw [hslots, hsize, Int.toNat_ofNat, List.set_append_right _ _ (by simp), hk, hk']
    simp [List.replicate_succ]
  have hheld : (b.slots.set b.size.toNat (some e)).reduceOption = b.held ++ [e] := by
    rw [hset]; simp [List.reduceOption]
  refine ⟨_, if_pos ⟨by omega, by rw [b.length_slots]; exact hlt⟩, hheld, ⟨?_, ?_⟩, rfl⟩
  · simp only [Buf.held]; rw [hheld, hset]; simp
  · simp only [Buf.held]; rw [hheld]; simp [hsize]

/-- The restarted `secondBuf` holds the one entry, in slot `0`. -/
theorem Buf.restart_held (e : LogEntry) : (Buf.restart e).held = [e] ∧ (Buf.restart e).Packed := by
  refine ⟨by simp [Buf.restart, Buf.held, BUFFER_SIZE, List.replicate_succ, List.reduceOption],
    ?_, ?_⟩ <;> simp [Buf.restart, Buf.held, BUFFER_SIZE, List.replicate_succ, List.reduceOption]

/-- A `resend` with only successes delivers what the buffers hold, in order, and empties
them. -/
theorem BufInv.resend {r : Relay} (h : BufInv r) {oks : List Bool} (hok : oks.all id) :
    BufInv (r.resend oks) ∧ (r.resend oks).held = [] := by
  obtain ⟨hsub, hf, hs, -⟩ := h
  obtain ⟨f1, f2, f3, f4⟩ := r.firstBuf.resend_of_all oks hf hok
  have htail : (if 0 < r.lost then (r.firstBuf.resend oks).2.2.tail
      else (r.firstBuf.resend oks).2.2).all id := by
    split
    · cases hl : (r.firstBuf.resend oks).2.2 <;> simp_all
    · exact f4
  obtain ⟨s1, s2, s3, -⟩ := r.secondBuf.resend_of_all _ hs htail
  have hheld : (r.resend oks).held = [] := by simp [Relay.resend, Relay.held, f1, s1]
  have hdel : (r.resend oks).delivered = r.delivered ++ r.held := by
    simp only [Relay.resend, Relay.delivered, Relay.held, f3, s3, List.filterMap_append]
    split <;> simp [Sent.entry?, List.filterMap_map, Function.comp_def]
  refine ⟨⟨?_, f2, s2, fun _ => by simpa [Relay.resend] using s1⟩, hheld⟩
  simpa [hheld, hdel] using hsub

/-- `buffer` after the receive of `e` keeps `BufInv`: the entry joins the held entries,
or `secondBuf` is dropped for it. -/
theorem BufInv.buffer {r r' : Relay} {e : LogEntry}
    (hsub : (r.delivered ++ r.held ++ [e]).Sublist r.audit.received)
    (hf : r.firstBuf.Packed) (hs : r.secondBuf.Packed)
    (hn : r.firstBuf.size < BUFFER_SIZE → r.secondBuf.held = [])
    (h : r.buffer e = some r') : BufInv r' := by
  rcases Relay.buffer_eq_some h with ⟨hlt, b, hb, rfl⟩ | ⟨hge, hlt, b, hb, rfl⟩ | ⟨hge, hge', rfl⟩
  · obtain ⟨b', hb', hheld, hpack, hsize⟩ := r.firstBuf.push?_of_packed e hf hlt
    obtain rfl := Option.some_injective _ (hb.symm.trans hb')
    refine ⟨?_, hpack, hs, fun _ => hn hlt⟩
    simpa [Relay.delivered, Relay.held, hheld, hn hlt] using hsub
  · obtain ⟨b', hb', hheld, hpack, -⟩ := r.secondBuf.push?_of_packed e hs hlt
    obtain rfl := Option.some_injective _ (hb.symm.trans hb')
    refine ⟨?_, hf, hpack, fun h' => by simp at h'; omega⟩
    simpa [Relay.delivered, Relay.held, hheld] using hsub
  · obtain ⟨hheld, hpack⟩ := Buf.restart_held e
    refine ⟨?_, hf, hpack, fun h' => by simp at h'; omega⟩
    have : (r.delivered ++ r.firstBuf.held ++ [e]).Sublist
        (r.delivered ++ r.held ++ [e]) := by
      simp only [Relay.held, List.append_assoc, List.append_sublist_append_left]
      exact List.sublist_append_right _ _
    simpa [Relay.delivered, Relay.held, hheld] using this.trans hsub

/-- `OrderInv` reads only the transport's view, the received entries, the buffers, the
`Pc` and the connect state. -/
theorem OrderInv.congr {r r' : Relay} (h : OrderInv r) (hsent : r'.sent = r.sent)
    (hrec : r'.audit.received = r.audit.received) (hf : r'.firstBuf = r.firstBuf)
    (hs : r'.secondBuf = r.secondBuf) (hpc : r'.pc = r.pc) (hc : r'.connected = r.connected) :
    OrderInv r' :=
  ⟨h.toBufInv.congr hsent hrec hf hs, hpc ▸ h.pending, by
    simpa [hpc, hc, Relay.held, hf, hs] using h.flushed⟩

section
variable (lv : Levels)

/-- An `internal` call at the `select` with no `resend` after it keeps `OrderInv`,
whether it blocks or not. -/
theorem OrderInv.internal_none {r : Relay} (h : OrderInv r) (hpc : r.pc = .select)
    (msg : String) : OrderInv (r.internal lv msg none) := by
  unfold Relay.internal
  split
  · exact h.congr rfl rfl rfl rfl rfl rfl
  · refine ⟨h.toBufInv.congr rfl rfl rfl rfl, by simp [Pc.resendAfter], fun hc _ => ?_⟩
    simpa [Relay.held] using h.flushed hc (by simp [hpc, Pc.resendAfter])

/-- The `logChan` case of `Run`, with a send that succeeds, keeps `OrderInv`. -/
theorem OrderInv.handleEntry {r r' : Relay} {e : LogEntry} {rest : List LogEntry}
    (h : OrderInv r) (hpc : r.pc = .select)
    (hs : (r.receive e rest).handleEntry e true = some r') : OrderInv r' := by
  have hsub : (r.delivered ++ r.held).Sublist (r.audit.received ++ [e]) :=
    h.sublist.trans (List.sublist_append_left _ _)
  have hkeep : OrderInv (r.receive e rest) :=
    ⟨⟨hsub, h.first, h.second, h.second_nil⟩, h.pending, h.flushed⟩
  unfold Relay.handleEntry at hs
  split at hs
  · cases hs; exact hkeep
  split at hs
  · cases hs; exact hkeep
  split at hs
  · rename_i hc
    have hnil : r.held = [] := h.flushed hc (by simp [hpc, Pc.resendAfter])
    have hdel : r.delivered.Sublist r.audit.received := by simpa [hnil] using h.sublist
    simp only [Relay.send, if_true, Option.some.injEq] at hs
    subst hs
    refine ⟨⟨?_, h.first, h.second, h.second_nil⟩, h.pending, fun _ _ => hnil⟩
    show ((r.sent ++ [Sent.entry e]).filterMap Sent.entry? ++ r.held).Sublist
      (r.audit.received ++ [e])
    rw [hnil, List.append_nil, List.filterMap_append]
    exact hdel.append_right [e]
  · rename_i hc
    obtain ⟨hpc', hcon, -, -, -⟩ := Relay.buffer_frame hs
    refine ⟨BufInv.buffer ?_ hkeep.first hkeep.second hkeep.second_nil hs, ?_,
      fun hc' => absurd (hcon ▸ hc') hc⟩
    · exact h.sublist.append_right [e]
    · simp [hpc', Relay.receive, hpc, Pc.resendAfter]

/-- A `resend` with only successes, at the `select`, ends in `OrderInv`. -/
theorem BufInv.resend_orderInv {r : Relay} (h : BufInv r) (hpc : r.pc = .select)
    {oks : List Bool} (hok : oks.all id) : OrderInv (r.resend oks) :=
  let ⟨hb, hnil⟩ := h.resend hok
  ⟨hb, by simp [Relay.resend, hpc, Pc.resendAfter], fun _ _ => hnil⟩

/-- A new log file at the `select` keeps `OrderInv`. -/
theorem OrderInv.setLogFile {r : Relay} (h : OrderInv r) (hpc : r.pc = .select)
    (file : String) (err : Option String) : OrderInv (r.setLogFile lv file err) := by
  unfold Relay.setLogFile
  repeat' split
  all_goals first
    | exact h.internal_none lv hpc _
    | exact h.congr rfl rfl rfl rfl rfl rfl

/-- A new log level at the `select` keeps `OrderInv`. -/
theorem OrderInv.setLogLevel {r : Relay} (h : OrderInv r) (hpc : r.pc = .select)
    (level : UInt8) : OrderInv (r.setLogLevel lv level) := by
  unfold Relay.setLogLevel
  split
  · exact h.internal_none lv hpc _
  · exact h.congr rfl rfl rfl rfl rfl rfl

/-- A connect event whose sends all succeed keeps `OrderInv`: a reconnect at once
flushes both buffers, or blocks in `internal` owing that flush. -/
theorem OrderInv.connect {r : Relay} (h : OrderInv r) (hpc : r.pc = .select) (c : Bool)
    {oks : List Bool} (hok : oks.all id) :
    OrderInv ({ r with connected := c }.internal lv ("connected: " ++ toString c)
      (if c ∧ 0 < r.firstBuf.slots.length then some oks else none)) := by
  have hlen : 0 < r.firstBuf.slots.length := by simp [r.firstBuf.length_slots, BUFFER_SIZE]
  unfold Relay.internal
  cases c with
  | false =>
    simp only [Bool.false_eq_true, false_and, if_false]
    split
    · exact ⟨h.toBufInv.congr rfl rfl rfl rfl, by simpa [Relay.after] using h.pending,
        by simp [Relay.after]⟩
    · exact ⟨h.toBufInv.congr rfl rfl rfl rfl, by simp [Pc.resendAfter], by simp⟩
  | true =>
    simp only [true_and, hlen, if_true]
    split
    · simp only [Relay.after]
      refine BufInv.resend_orderInv ?_ ?_ hok
      · exact h.toBufInv.congr rfl rfl rfl rfl
      · exact hpc
    · exact ⟨h.toBufInv.congr rfl rfl rfl rfl, by simpa [Pc.resendAfter] using hok,
        by simp [Pc.resendAfter]⟩

/-- A step whose sends all succeed keeps `OrderInv`. -/
theorem OrderInv.step {r r' : Relay} {ev : Event} (h : OrderInv r) (hok : ev.sendsOk)
    (hs : r.step lv ev = some r') : OrderInv r' := by
  cases ev with
  | produce e =>
    simp only [Relay.step] at hs
    split at hs
    · cases hs; exact h.congr rfl rfl rfl rfl rfl rfl
    · cases hs
  | unblock =>
    simp only [Relay.step] at hs
    split at hs
    · rename_i e k hpc
      split at hs
      · cases hs
        cases k with
        | none =>
          exact ⟨h.toBufInv.congr rfl rfl rfl rfl, by simp [Relay.after, Pc.resendAfter],
            fun hc _ => h.flushed hc (by simp [hpc, Pc.resendAfter])⟩
        | some oks =>
          simp only [Relay.after]
          refine BufInv.resend_orderInv ?_ rfl (h.pending oks (by simp [hpc, Pc.resendAfter]))
          exact h.toBufInv.congr rfl rfl rfl rfl
      · cases hs
    · cases hs
  | entry ok =>
    simp only [Relay.step] at hs
    split at hs
    · rename_i hpc
      simp only [Relay.select] at hs
      split at hs
      · cases hs
      · simp only [Event.sendsOk] at hok
        subst hok
        exact h.handleEntry hpc hs
    · cases hs
  | connect c oks =>
    simp only [Relay.step] at hs
    split at hs
    · simp only [Relay.select, Option.some.injEq] at hs
      subst hs
      exact h.connect lv ‹_› c hok
    · cases hs
  | logFile file err =>
    simp only [Relay.step] at hs
    split at hs
    · simp only [Relay.select, Option.some.injEq] at hs
      subst hs
      exact h.setLogFile lv ‹_› file err
    · cases hs
  | logLevel level =>
    simp only [Relay.step] at hs
    split at hs
    · simp only [Relay.select, Option.some.injEq] at hs
      subst hs
      exact h.setLogLevel lv ‹_› level
    · cases hs

/-- The relay `Run` starts from satisfies `OrderInv`. -/
theorem OrderInv.start (logFile : String) (logLevel : UInt8) (offline : Bool)
    (openErr : Option String) : OrderInv (Relay.start lv logFile logLevel offline openErr) := by
  obtain ⟨hheld, hpack⟩ := Buf.empty_held
  refine OrderInv.setLogFile lv ⟨⟨?_, hpack, hpack, fun _ => hheld⟩, ?_, ?_⟩ rfl _ _ <;>
    simp [Relay.delivered, Relay.held, hheld, Pc.resendAfter]

/-- Every run whose sends all succeed keeps `OrderInv`. -/
theorem OrderInv.run {r r' : Relay} (h : OrderInv r) :
    ∀ {evs : List Event}, (∀ ev ∈ evs, ev.sendsOk) → r.run lv evs = some r' → OrderInv r' :=
  Relay.run_inv lv OrderInv (fun ev => ev.sendsOk = true) (fun h hev hs => h.step lv hev hs) h

/-- On every run whose transport sends all succeed, the entries the transport accepted,
lost-count warnings left out, come in the order `Run` received them. -/
theorem delivered_sublist_received (logFile : String) (logLevel : UInt8) (offline : Bool)
    (openErr : Option String) (evs : List Event) (hok : ∀ ev ∈ evs, ev.sendsOk)
    (r : Relay) (hr : (Relay.start lv logFile logLevel offline openErr).run lv evs = some r) :
    r.delivered.Sublist r.audit.received :=
  (List.sublist_append_left _ _).trans ((OrderInv.start lv _ _ _ _).run lv hok hr).sublist

end

/-- An entry buffered while disconnected, a reconnect that delivers it, and an entry sent
live: all sends succeed. -/
def orderedRun : List Event :=
  [.produce ⟨"qan", 3, "a"⟩, .entry true, .connect true [], .entry true,
    .produce ⟨"qan", 3, "b"⟩, .entry true]

/-- `delivered_sublist_received` on `orderedRun`. -/
theorem orderedRun_delivered_sublist :
    ∃ r, (Relay.start Levels.syslog "" 7 false none).run Levels.syslog orderedRun = some r ∧
      r.delivered.Sublist r.audit.received := by
  obtain ⟨r, hr⟩ : ∃ r, (Relay.start Levels.syslog "" 7 false none).run Levels.syslog
      orderedRun = some r := ⟨_, rfl⟩
  exact ⟨r, hr, delivered_sublist_received Levels.syslog _ _ _ _ _ (by decide) r hr⟩

/-- A connected relay whose send of `a` fails and whose send of `b` succeeds, then a
reconnect that delivers `a`. -/
def reorderRun : List Event :=
  [.connect true [], .produce ⟨"qan", 3, "a"⟩, .produce ⟨"qan", 3, "b"⟩, .entry true,
    .entry false, .entry true, .connect false [], .connect true [true]]

/-- A reachable state where the transport got `b` before `a`, although `Run` received
`a` before `b`. -/
theorem delivery_reorders :
    ∃ r, Reachable Levels.syslog r ∧ ¬ r.delivered.Sublist r.audit.received := by
  obtain ⟨r, hr, hp⟩ := (Reachable.start "" 7 false none).exists_of_run Levels.syslog
    reorderRun (fun r => !decide (r.delivered.Sublist r.audit.received))
    (by decide)
  exact ⟨r, hr, by simpa using hp⟩

end PerconaAgent.Log
