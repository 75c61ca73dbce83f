import AclOperator.Proof.Calls

/-!
# Passes that stop before the write step

`Reconcile` stops before writing when the source gives no pod selector, when a
destination's rules cannot be generated, when the service cache fails, or when no
rule is left. Such a pass

* leaves the stored NetworkPolicy exactly as it was and issues no Create or Update
  of it, and writes the ACL once, marking it unready with a non-empty reason
  (`stopped_pass_writes_only_unready`), whatever the earlier destinations did;
* returns `ctrl.Result{}` with no error when that write succeeds, so nothing
  schedules its retry (`bare_acl_pass_not_requeued`).
-/

namespace AclOperator

open Prog

variable (E : Env) {C : Cluster} {req : NamespacedName} {s : Store} {acl : ACL}
  {np : NetworkPolicy} {changed : Bool} {w₁ : World}

theorem Stop.reason_ne_empty (stop : Stop) : stop.reason E ≠ "" := by
  cases stop <;> simp only [Stop.reason] <;> intro h <;> have := congrArg String.toList h <;>
    simp at this

/-- The four ways `desired` stops, as the source checks them in turn. -/
def Stops (acl : ACL) (w₁ : World) : Prop :=
  podSelectorForSource acl.spec.source = none ∨
  (∃ d err w₂, (egressRulesForDestinations E acl.spec.destinations).run C w₁ = (.error (d, err), w₂)) ∨
  (∃ rules w₂ err, (egressRulesForDestinations E acl.spec.destinations).run C w₁ = (.ok rules, w₂) ∧
    fillPodSelectorByCIDR E.getByIP rules = .error err) ∨
  (∃ rules w₂, (egressRulesForDestinations E acl.spec.destinations).run C w₁ = (.ok rules, w₂) ∧
    fillPodSelectorByCIDR E.getByIP rules = .ok [])

theorem desired_of_stops (h : Stops E (C := C) acl w₁) :
    ∃ stop w₂, (desired E acl).run C w₁ = (.error stop, w₂) := by
  unfold desired
  cases hsel : podSelectorForSource acl.spec.source with
  | none => exact ⟨_, _, rfl⟩
  | some podSelector =>
    simp only [bind_eq, pure_eq, pure_bind, run_bind]
    rcases h with h | ⟨d, err, w₂, h⟩ | ⟨rules, w₂, err, h, hfill⟩ | ⟨rules, w₂, h, hfill⟩
    · simp [hsel] at h
    · exact ⟨_, w₂, by rw [h]; rfl⟩
    · exact ⟨_, w₂, by rw [h]; simp only [hfill]; rfl⟩
    · exact ⟨_, w₂, by rw [h]; simp only [hfill]; rfl⟩

/-- Up to the end of `desired`, a pass has written neither the ACL nor a policy. -/
theorem before_write {r : Except Stop (Labels × List NetworkPolicyEgressRule)} {w₂ : World}
    (hf : (fetch req).run C ⟨s, []⟩ = (.ok (acl, np, changed), w₁))
    (hd : (desired E acl).run C w₁ = (r, w₂)) :
    w₂.log.filter Call.writesPolicy = [] ∧ w₂.log.filter Call.writesACL = [] ∧
      w₂.store.acls = s.acls ∧ w₂.store.networkPolicies = s.networkPolicies := by
  obtain ⟨p₁, a₁, s₁, n₁⟩ := (fetch_readsOnly req).run_readsOnly (C := C) ⟨s, []⟩
  obtain ⟨p₂, a₂, s₂, n₂⟩ := ((desired_recordCall E acl).mono fun _ => RecordCall.readsOnly).run_readsOnly (C := C) w₁
  rw [hf] at p₁ a₁ s₁ n₁
  rw [hd] at p₂ a₂ s₂ n₂
  exact ⟨p₂.trans p₁, a₂.trans a₁, s₂.trans s₁, n₂.trans n₁⟩

/-- **A pass that stops before its write step writes only the unready status.**
Whatever the earlier destinations created on the way, the stored NetworkPolicy is
as before, no Create or Update of it is issued, and the one write to the ACL sets
`Ready = false` with a non-empty `Reason`. -/
theorem stopped_pass_writes_only_unready
    (hf : (fetch req).run C ⟨s, []⟩ = (.ok (acl, np, changed), w₁)) (hstop : Stops E (C := C) acl w₁) :
    (pass E C req s).2.store.networkPolicies = s.networkPolicies ∧
      (pass E C req s).2.log.filter Call.writesPolicy = [] ∧
      ∃ reason, reason ≠ "" ∧ (pass E C req s).2.log.filter Call.writesACL =
        [.updateACLStatus { acl with status := { acl.status with ready := false, reason } }] := by
  obtain ⟨stop, w₂, hd⟩ := desired_of_stops E hstop
  obtain ⟨hp, ha, -, hnp⟩ := before_write E hf hd
  rw [pass_of_stop E hf hd, unready_run]
  refine ⟨?_, ?_, stop.reason E, stop.reason_ne_empty E, ?_⟩
  · rw [issue_networkPolicies, hnp]; rfl
  · rw [World.issue_log, List.filter_append, hp]; rfl
  · rw [World.issue_log, List.filter_append, ha]; rfl

/-- The ACL `ns/web` with an empty spec: its source gives no pod selector. -/
def bareACL : ACL := { name := "web", «namespace» := "ns" }

/-- The store holding only `bareACL`. -/
def bareStore : Store := Store.empty.putACL bareACL.key bareACL

/-- The ACL `ns/web` of the app `web` allowed to reach two hosts. -/
def twoHostACL : ACL :=
  { name := "web", «namespace» := "ns"
    spec :=
      { source := { tsuruApp := "web" }
        destinations := [{ externalDNS := some { name := "a.example" } }, { externalDNS := some { name := "b.example" } }] } }

/-- The store holding only `twoHostACL`. -/
def twoHostStore : Store := Store.empty.putACL twoHostACL.key twoHostACL

/-- Two passes that stop: over `bareACL`, whose source gives no selector; and over
`twoHostACL`, where the first destination creates and resolves its record
`a.example` and then the Get of the second's record, the seventh call, times out. -/
theorem stopped_pass_writes_only_unready_bare_twoHost :
    let w₁ := ((fetch bareACL.key).run Cluster.reliable ⟨bareStore, []⟩).2
    let C := Cluster.faultAt 6 ⟨.other, "timeout"⟩
    let w₂ := ((fetch twoHostACL.key).run C ⟨twoHostStore, []⟩).2
    ((fetch bareACL.key).run Cluster.reliable ⟨bareStore, []⟩ =
          (.ok (bareACL, setMeta bareACL "acl-web" default), w₁) ∧
        Stops Env.plain (C := Cluster.reliable) bareACL w₁ ∧
        ((pass Env.plain Cluster.reliable bareACL.key bareStore).2.store.networkPolicies =
            bareStore.networkPolicies ∧
          (pass Env.plain Cluster.reliable bareACL.key bareStore).2.log.filter Call.writesPolicy = [] ∧
          ∃ reason, reason ≠ "" ∧
            (pass Env.plain Cluster.reliable bareACL.key bareStore).2.log.filter Call.writesACL =
              [.updateACLStatus { bareACL with status := { bareACL.status with ready := false, reason } }])) ∧
      ((fetch twoHostACL.key).run C ⟨twoHostStore, []⟩ =
          (.ok (twoHostACL, setMeta twoHostACL "acl-web" default), w₂) ∧
        Stops Env.plain (C := C) twoHostACL w₂ ∧
        ((pass Env.plain C twoHostACL.key twoHostStore).2.store.dnsEntries "a.example").isSome = true ∧
        ((pass Env.plain C twoHostACL.key twoHostStore).2.store.networkPolicies = twoHostStore.networkPolicies ∧
          (pass Env.plain C twoHostACL.key twoHostStore).2.log.filter Call.writesPolicy = [] ∧
          ∃ reason, reason ≠ "" ∧
            (pass Env.plain C twoHostACL.key twoHostStore).2.log.filter Call.writesACL =
              [.updateACLStatus { twoHostACL with status := { twoHostACL.status with ready := false, reason } }])) :=
  ⟨⟨rfl, .inl rfl, stopped_pass_writes_only_unready Env.plain rfl (.inl rfl)⟩,
    ⟨rfl, .inr (.inl ⟨_, _, _, rfl⟩), rfl, stopped_pass_writes_only_unready Env.plain rfl (.inr (.inl ⟨_, _, _, rfl⟩))⟩⟩

/-- **A pass that marks the ACL unready schedules no retry.** On `bareACL` the pass
writes `Ready = false` and returns `ctrl.Result{}` with a `nil` error: neither an
error nor `Requeue` with `requeueAfter`. -/
theorem bare_acl_pass_not_requeued (E : Env) :
    (pass E Cluster.reliable bareACL.key bareStore).1 = .ok {} ∧
      ((pass E Cluster.reliable bareACL.key bareStore).2.store.acls bareACL.key).map
        (·.status.ready) = some false :=
  ⟨rfl, rfl⟩

end AclOperator
