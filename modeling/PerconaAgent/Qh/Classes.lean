import Mathlib.Algebra.BigOperators.Group.List
import Mathlib.Algebra.Order.Ring.Nat
import Mathlib.Data.List.Nodup
import PerconaAgent.Qh.Worker

/-!
# `PerconaAgent.Qh.Classes`: the classes of a qh result

`Run` groups the events it aggregates in the map `queries`, keyed by class id, and then
copies the map's classes into a slice of `len(queries)` slots, decrementing the index
before each write. An event of the stream the parser yields is included when its offset
is at most `StopOffset` and no earlier event's is beyond it (`included`);
`runEvents_eq_included` shows that `Run`'s `break` aggregates exactly those. Whatever
`Fingerprint`, `Checksum` and the order of `range`:

* `run_classes_partition_events`: the slice has no `nil` slot and holds each class of the
  map once; the class ids are pairwise distinct; each class counts exactly the included
  events whose `Checksum(Fingerprint(query))` is its id, and at least one; each included
  event has exactly one class; and the counts add up to the global count.

`Grouped` is the invariant of the map over the loop, kept by `Grouped.addEvent`, with
`classTotal_addToClass` as its counting fact. `fillClasses_eq` is the index arithmetic of
the copy: every slot written once, none left `nil`.
-/

set_option autoImplicit false

namespace PerconaAgent.Qh

/-- The `TotalQueries` of the classes with id `k`. -/
def classTotal (k : String) (queries : List QueryClass) : Nat :=
  ((queries.filter fun c => decide (c.id = k)).map QueryClass.totalQueries).sum

@[simp] theorem classTotal_nil (k : String) : classTotal k [] = 0 := rfl

@[simp] theorem classTotal_cons (k : String) (c : QueryClass) (queries : List QueryClass) :
    classTotal k (c :: queries) = (if c.id = k then c.totalQueries else 0) + classTotal k queries := by
  unfold classTotal
  rw [List.filter_cons]
  split <;> simp_all

/-- An event adds one to the total of its id and nothing to the others. -/
theorem classTotal_addToClass (j k f : String) (queries : List QueryClass) :
    classTotal j (addToClass k f queries) = classTotal j queries + if k = j then 1 else 0 := by
  induction queries with
  | nil => simp [addToClass]
  | cons c queries ih =>
    simp only [addToClass]
    split
    · rename_i hc
      simp only [classTotal_cons, hc]
      split <;> omega
    · simp only [classTotal_cons, ih]
      omega

/-- The ids of the map after an event: a new id goes last. -/
theorem ids_addToClass (k f : String) (queries : List QueryClass) :
    (addToClass k f queries).map QueryClass.id =
      if k ∈ queries.map QueryClass.id then queries.map QueryClass.id
      else queries.map QueryClass.id ++ [k] := by
  induction queries with
  | nil => simp [addToClass]
  | cons c queries ih =>
    simp only [addToClass]
    by_cases hc : c.id = k
    · simp [hc]
    · simp only [if_neg hc, List.map_cons, ih, List.mem_cons, Ne.symm hc, false_or]
      split <;> rfl

/-- An event adds one to the sum of the counts. -/
theorem sum_addToClass (k f : String) (queries : List QueryClass) :
    ((addToClass k f queries).map QueryClass.totalQueries).sum =
      (queries.map QueryClass.totalQueries).sum + 1 := by
  induction queries with
  | nil => simp [addToClass]
  | cons c queries ih =>
    simp only [addToClass]
    split
    · simp only [List.map_cons, List.sum_cons]; omega
    · simp only [List.map_cons, List.sum_cons, ih]; omega

/-- No class is left with a count of `0`. -/
theorem pos_addToClass (k f : String) {queries : List QueryClass}
    (h : ∀ c ∈ queries, 0 < c.totalQueries) : ∀ c ∈ addToClass k f queries, 0 < c.totalQueries := by
  induction queries with
  | nil => simp [addToClass]
  | cons c queries ih =>
    simp only [List.forall_mem_cons] at h
    simp only [addToClass]
    split
    · simp only [List.forall_mem_cons]; exact ⟨by omega, h.2⟩
    · simp only [List.forall_mem_cons]; exact ⟨h.1, ih h.2⟩

/-- Without a class of id `k` the total of `k` is `0`. -/
theorem classTotal_eq_zero {k : String} {queries : List QueryClass}
    (h : k ∉ queries.map QueryClass.id) : classTotal k queries = 0 := by
  induction queries with
  | nil => rfl
  | cons c queries ih =>
    simp only [List.map_cons, List.mem_cons, not_or] at h
    simp [Ne.symm h.1, ih h.2]

/-- With distinct ids, the total of a class's id is its own count. -/
theorem classTotal_of_mem {c : QueryClass} {queries : List QueryClass}
    (hnd : (queries.map QueryClass.id).Nodup) (hc : c ∈ queries) :
    classTotal c.id queries = c.totalQueries := by
  induction queries with
  | nil => cases hc
  | cons c' queries ih =>
    simp only [List.map_cons, List.nodup_cons] at hnd
    rcases List.mem_cons.mp hc with rfl | hc
    · simp [classTotal_eq_zero hnd.1]
    · have hne : c'.id ≠ c.id := fun he => hnd.1 (he ▸ List.mem_map_of_mem _ hc)
      simp [hne, ih hnd.2 hc]

section
variable (lib : MysqlLog)

/-- The map after the loop has taken the events `evs`: distinct ids, each id's total is the
number of its events, no class is empty, and the counts add up to the events. -/
structure Grouped (evs : List SlowEvent) (queries : List QueryClass) : Prop where
  ids_nodup : (queries.map QueryClass.id).Nodup
  total : ∀ k, classTotal k queries = evs.countP fun e => classIdOf lib e = k
  pos : ∀ c ∈ queries, 0 < c.totalQueries
  sum : (queries.map QueryClass.totalQueries).sum = evs.length

theorem Grouped.nil : Grouped lib [] [] :=
  ⟨List.nodup_nil, fun _ => rfl, fun _ h => (by cases h), rfl⟩

/-- One turn of the loop keeps the map grouped. -/
theorem Grouped.addEvent {evs : List SlowEvent} {queries : List QueryClass}
    (h : Grouped lib evs queries) (e : SlowEvent) :
    Grouped lib (evs ++ [e]) (addEvent lib queries e) := by
  refine ⟨?_, fun k => ?_, pos_addToClass _ _ h.pos, ?_⟩
  · rw [Qh.addEvent, ids_addToClass]
    split
    · exact h.ids_nodup
    · exact List.nodup_append.mpr ⟨h.ids_nodup, List.nodup_singleton _,
        List.disjoint_singleton.mpr ‹_›⟩
  · rw [Qh.addEvent, classTotal_addToClass, h.total, List.countP_append, List.countP_singleton]
    simp [classIdOf]
  · rw [Qh.addEvent, sum_addToClass, h.sum, List.length_append, List.length_singleton]

/-- The whole loop keeps the map grouped. -/
theorem Grouped.foldl {evs : List SlowEvent} {queries : List QueryClass}
    (h : Grouped lib evs queries) (es : List SlowEvent) :
    Grouped lib (evs ++ es) (es.foldl (Qh.addEvent lib) queries) := by
  induction es generalizing evs queries with
  | nil => simpa using h
  | cons e es ih => simpa [List.foldl_cons, List.append_assoc] using ih (h.addEvent lib e)

/-- An event of the loop has a class of its id in the map. -/
theorem Grouped.exists_class {evs : List SlowEvent} {queries : List QueryClass}
    (h : Grouped lib evs queries) {e : SlowEvent} (he : e ∈ evs) :
    ∃ c ∈ queries, c.id = classIdOf lib e := by
  have hpos : 0 < classTotal (classIdOf lib e) queries := by
    rw [h.total]
    exact List.countP_pos_iff.mpr ⟨e, he, by simp⟩
  by_contra hnone
  push_neg at hnone
  rw [classTotal_eq_zero fun hm => by
    obtain ⟨c, hc, hid⟩ := List.mem_map.mp hm
    exact hnone c hc hid] at hpos
  exact Nat.lt_irrefl 0 hpos

end

/-- The copy loop writes `cs` from slot `n - 1` down: the slots below `n - len(cs)` and
from `n` on are left as they were. -/
theorem fillClasses_eq (cs : List QueryClass) :
    ∀ (n : Nat) (slots : List (Option QueryClass)), cs.length ≤ n → n ≤ slots.length →
      fillClasses n slots cs = slots.take (n - cs.length) ++ cs.reverse.map some ++ slots.drop n := by
  induction cs with
  | nil => intro n slots _ _; simp [fillClasses]
  | cons c cs ih =>
    intro n slots hn hslots
    obtain ⟨m, rfl⟩ : ∃ m, n = m + 1 := ⟨n - 1, by simp at hn; omega⟩
    have hm : m < slots.length := by omega
    have hset : slots.set m (some c) = slots.take m ++ some c :: slots.drop (m + 1) := by
      rw [List.set_eq_take_append_cons_drop, if_pos hm]
    have htake : (slots.take m).length = m := by simp; omega
    simp only [fillClasses, Nat.add_sub_cancel]
    rw [ih m _ (by simp at hn; omega) (by simp; omega), hset,
      List.take_append_of_le_length (by omega), List.take_take, List.drop_left' htake]
    simp only [List.length_cons, List.reverse_cons, List.map_append, List.map_cons, List.map_nil,
      List.append_assoc, List.singleton_append]
    congr 2
    omega

/-- The events of a parsed stream that count as included: each has `Offset ≤ StopOffset`
and comes before the first event beyond `StopOffset`, in the order of the stream. -/
def included (stopOffset : Int) : List SlowEvent → List SlowEvent
  | [] => []
  | e :: rest => if (e.offset : Int) ≤ stopOffset then e :: included stopOffset rest else []

/-- `Run`'s loop, which breaks at the first event with `Offset > StopOffset`, aggregates
exactly the included events of the stream the parser yields. -/
theorem runEvents_eq_included (log : List SlowEvent) (job : Job) :
    runEvents log job = included job.stopOffset (parseFrom log job) := by
  unfold runEvents
  induction parseFrom log job with
  | nil => rfl
  | cons e rest ih =>
    by_cases he : (e.offset : Int) ≤ job.stopOffset <;> simp [List.takeWhile_cons, included, he, ih]

/-- Whatever `Fingerprint`, `Checksum` and the order of `range`, `Run`'s slice of classes has
no `nil` slot and holds each class of the map `queries` once; the ids are pairwise
distinct; each class counts exactly the included events of the parsed stream whose
`Checksum(Fingerprint(event.Query))` is its id, and at least one; every included event
has exactly one class, the one of its id; and the counts add up to the global count,
which counts every included event. -/
theorem run_classes_partition_events (lib : MysqlLog) (range : List QueryClass → List QueryClass)
    (hrange : ∀ queries, (range queries).Perm queries) (log : List SlowEvent) (job : Job) :
    ∃ classes : List QueryClass, (Run lib range (.ok log) job).classes = classes.map some ∧
      classes.Perm ((included job.stopOffset (parseFrom log job)).foldl (addEvent lib) []) ∧
      (classes.map QueryClass.id).Nodup ∧
      (∀ c ∈ classes, 0 < c.totalQueries ∧
        c.totalQueries = (included job.stopOffset (parseFrom log job)).countP
          fun e => classIdOf lib e = c.id) ∧
      (∀ e ∈ included job.stopOffset (parseFrom log job),
        ∃! c, c ∈ classes ∧ c.id = classIdOf lib e) ∧
      (classes.map QueryClass.totalQueries).sum = (Run lib range (.ok log) job).totalQueries ∧
      (Run lib range (.ok log) job).totalQueries =
        (included job.stopOffset (parseFrom log job)).length := by
  rw [← runEvents_eq_included]
  set queries := (runEvents log job).foldl (addEvent lib) []
  have hg : Grouped lib (runEvents log job) queries := by
    simpa using (Grouped.nil lib).foldl lib (runEvents log job)
  have hperm : (range queries).reverse.Perm queries := (List.reverse_perm _).trans (hrange _)
  have hmem : ∀ {c}, c ∈ (range queries).reverse ↔ c ∈ queries := hperm.mem_iff
  have hnd : ((range queries).reverse.map QueryClass.id).Nodup :=
    (hperm.map _).nodup_iff.mpr hg.ids_nodup
  refine ⟨(range queries).reverse, ?_, hperm, hnd, fun c hc => ?_, fun e he => ?_,
    ?_, rfl⟩
  · show fillClasses queries.length (List.replicate queries.length none) (range queries) = _
    rw [fillClasses_eq _ _ _ (by rw [(hrange _).length_eq]) (by simp), (hrange _).length_eq]
    simp
  · have hc' := hmem.mp hc
    exact ⟨hg.pos c hc', by rw [← classTotal_of_mem hg.ids_nodup hc', hg.total]⟩
  · obtain ⟨c, hc, hid⟩ := hg.exists_class lib he
    exact ⟨c, ⟨hmem.mpr hc, hid⟩, fun c' ⟨hc', hid'⟩ =>
      List.inj_on_of_nodup_map hnd hc' (hmem.mpr hc) (hid'.trans hid.symm)⟩
  · rw [(hperm.map _).sum_eq, hg.sum]
    rfl

/-- An identity `Fingerprint` and `Checksum`, for the concrete run. -/
def plainLog : MysqlLog := ⟨fun q => q, fun f => f⟩

/-- `run_classes_partition_events` for the first job over `threeEvents`, with `range`
visiting the map in insertion order. -/
theorem threeEvents_classes_partition :
    (∀ queries : List QueryClass, (id queries).Perm queries) ∧
    ∃ classes : List QueryClass,
      (Run plainLog id (.ok threeEvents) firstJob).classes = classes.map some ∧
      classes.Perm ((included firstJob.stopOffset (parseFrom threeEvents firstJob)).foldl
        (addEvent plainLog) []) ∧
      (classes.map QueryClass.id).Nodup ∧
      (∀ c ∈ classes, 0 < c.totalQueries ∧
        c.totalQueries = (included firstJob.stopOffset (parseFrom threeEvents firstJob)).countP
          fun e => classIdOf plainLog e = c.id) ∧
      (∀ e ∈ included firstJob.stopOffset (parseFrom threeEvents firstJob),
        ∃! c, c ∈ classes ∧ c.id = classIdOf plainLog e) ∧
      (classes.map QueryClass.totalQueries).sum =
        (Run plainLog id (.ok threeEvents) firstJob).totalQueries ∧
      (Run plainLog id (.ok threeEvents) firstJob).totalQueries =
        (included firstJob.stopOffset (parseFrom threeEvents firstJob)).length :=
  ⟨fun _ => .refl _,
    run_classes_partition_events plainLog id (fun _ => .refl _) threeEvents firstJob⟩

end PerconaAgent.Qh
