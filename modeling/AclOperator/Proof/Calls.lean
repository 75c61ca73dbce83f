import AclOperator.Proof.Prog
import AclOperator.Spec.Reconcile

/-!
# What each step of a pass calls

`fetch` only reads; everything `desired` calls (through the destination loop and
the three `ensure*` functions) is on address records, and a record it creates is
created under the name of its key (`RecordCall`). So a pass touches the ACL
and its NetworkPolicy only in its last step: `unready` when `desired` stops,
`writeNetworkPolicy` otherwise (`pass_of_stop`, `pass_of_desired`).
-/

namespace AclOperator

open Prog

variable (E : Env) {C : Cluster}

theorem World.issue_log (r : Req β) (w : World) : (w.issue C r).2.log = w.log ++ [r.call] := by
  unfold World.issue; split <;> rfl

/-- The name `ensure*` stores a record of kind `k` under, from the key its spec
holds. A TsuruAppAddress's spec holds that name itself. -/
def Kind.nameOf (sum : String → Sum256) : (k : Kind) → k.Spec → String
  | .dnsEntry, spec => validResourceName sum (ACLDNSEntrySpec.host spec)
  | .tsuruAppAddress, spec => TsuruAppAddressSpec.name spec
  | .rpaasInstanceAddress, spec =>
    validResourceName sum
      (RpaasInstanceAddressSpec.serviceName spec ++ "-" ++ RpaasInstanceAddressSpec.instance spec)

/-- A call that creates a record creates it under the name of its key. -/
def Call.Keyed (sum : String → Sum256) : Call → Prop
  | .createRecord k r => k.nameOf sum r.spec = r.name
  | _ => True

/-- A call on address records only, which creates a record only under the name of
its key. -/
def RecordCall (sum : String → Sum256) (c : Call) : Prop := c.onRecords = true ∧ c.Keyed sum

/-- A call that writes neither an ACL nor a NetworkPolicy. -/
def ReadsOnly (c : Call) : Prop := c.writesPolicy = false ∧ c.writesACL = false

theorem RecordCall.readsOnly {sum : String → Sum256} {c : Call} (h : RecordCall sum c) : ReadsOnly c :=
  Call.onRecords_writes h.1

/-- A run of a program that writes neither an ACL nor a NetworkPolicy logs no such
write and leaves both kinds of object as they were. -/
theorem Prog.Only.run_readsOnly {p : Prog α} (hp : Only ReadsOnly p) (w : World) :
    (p.run C w).2.log.filter Call.writesPolicy = w.log.filter Call.writesPolicy ∧
      (p.run C w).2.log.filter Call.writesACL = w.log.filter Call.writesACL ∧
      (p.run C w).2.store.acls = w.store.acls ∧
      (p.run C w).2.store.networkPolicies = w.store.networkPolicies := by
  obtain ⟨l, hl, hr⟩ := hp.run_log (C := C) w
  refine ⟨?_, ?_, (hp.mono fun _ h => h.2).run_acls w, (hp.mono fun _ h => h.1).run_networkPolicies w⟩ <;>
    rw [hl, List.filter_append, List.append_right_eq_self, List.filter_eq_nil_iff] <;> intro c hc
  · simp [(hr c hc).1]
  · simp [(hr c hc).2]

theorem ensure_recordCall (sum : String → Sum256) (k : Kind) (n : String) (spec : k.Spec)
    (h : k.nameOf sum spec = n) : Only (RecordCall sum) (ensure k n spec) := by
  simp only [ensure, bind_eq, pure_eq, pure_bind]
  refine Only.send_bind ⟨rfl, trivial⟩ fun r => ?_
  rcases r with err | existing
  · dsimp only
    split
    · exact .pure _
    · refine Only.send_bind ⟨rfl, h⟩ fun r => ?_
      rcases r with err | ⟨⟩
      · exact .pure _
      · refine Only.send_bind ⟨rfl, trivial⟩ fun r => ?_
        rcases r with err | ⟨⟩
        · exact .pure _
        · exact Only.send ⟨rfl, trivial⟩
  · exact .pure _

/-- **What a destination does**: it computes its rules at once, or it ensures one
record, stored under the name of its key, and maps what `ensure` returns to rules. -/
theorem egressRulesForDestination_eq (d : ACLSpecDestination) :
    (∃ v, egressRulesForDestination E d = .pure v) ∨
      ∃ (k : Kind) (n : String) (spec : k.Spec) (g : Record k → List NetworkPolicyEgressRule),
        k.nameOf E.sum spec = n ∧ egressRulesForDestination E d = (ensure k n spec).bind fun r => .pure (r.map g) := by
  unfold egressRulesForDestination
  split
  · refine .inr ⟨.tsuruAppAddress, _, ({ name := validResourceName E.sum d.tsuruApp } : TsuruAppAddressSpec),
      fun existing => podSelectorRule (podSelectorForTsuruApp d.tsuruApp) ::
        egressRulesForResourceAddressStatus existing.status, rfl, ?_⟩
    simp only [egressRulesForTsuruApp, ensureTsuruAppAddress, bind_eq, pure_eq]
    congr 1; funext r; cases r <;> rfl
  split
  · exact .inl ⟨_, rfl⟩
  split
  · rename_i dns _
    simp only [egressRulesForExternalDNS, ensureDNSEntry, bind_eq, pure_eq, pure_bind]
    split
    · exact .inl ⟨_, rfl⟩
    · refine .inr ⟨.dnsEntry, _, ({ host := dns.name } : ACLDNSEntrySpec),
        fun existing => if !existing.status.ready then [] else [dnsRule existing.status dns.ports], rfl, ?_⟩
      congr 1; funext r; cases r
      · rfl
      · dsimp only; split <;> simp_all [Except.map]
  · exact .inl ⟨_, rfl⟩
  · rename_i ri _ _ _
    refine .inr ⟨.rpaasInstanceAddress, _,
      ({ serviceName := ri.serviceName, «instance» := ri.instance } : RpaasInstanceAddressSpec),
      fun existing => podSelectorRule (podSelectorForRpasInstance ri) ::
        egressRulesForResourceAddressStatus existing.status, rfl, ?_⟩
    simp only [egressRulesForRpaasInstance, ensureRpaasInstanceAddress, bind_eq, pure_eq]
    congr 1; funext r; cases r <;> rfl
  · exact .inl ⟨_, rfl⟩

theorem egressRulesForDestination_recordCall (d : ACLSpecDestination) :
    Only (RecordCall E.sum) (egressRulesForDestination E d) := by
  rcases egressRulesForDestination_eq E d with ⟨v, h⟩ | ⟨k, n, spec, g, hn, h⟩ <;> rw [h]
  · exact .pure _
  · exact (ensure_recordCall _ _ _ _ hn).bind fun _ => .pure _

theorem egressRulesForDestinations_recordCall (ds : List ACLSpecDestination) :
    Only (RecordCall E.sum) (egressRulesForDestinations E ds) := by
  induction ds with
  | nil => exact .pure _
  | cons d ds ih =>
    simp only [egressRulesForDestinations, bind_eq, pure_eq]
    exact (egressRulesForDestination_recordCall E d).bind fun r => by
      split
      · exact .pure _
      · exact ih.bind fun r => by split <;> exact .pure _

theorem desired_recordCall (acl : ACL) : Only (RecordCall E.sum) (desired E acl) := by
  unfold desired
  split
  · exact .pure _
  · simp only [bind_eq, pure_eq, pure_bind]
    exact (egressRulesForDestinations_recordCall E _).bind fun r => by
      split
      · exact .pure _
      · split
        · exact .pure _
        · split <;> exact .pure _

theorem fetch_only {P : Call → Prop} (hacl : ∀ key, P (.getACL key)) (hnp : ∀ key, P (.getNetworkPolicy key))
    (req : NamespacedName) : Only P (fetch req) := by
  simp only [fetch, bind_eq, pure_eq]
  refine Only.send_bind (hacl _) fun r => ?_
  split
  · exact .pure _
  · exact Only.send_bind (hnp _) fun r => by split <;> exact .pure _

theorem fetch_readsOnly (req : NamespacedName) : Only ReadsOnly (fetch req) :=
  fetch_only (fun _ => ⟨rfl, rfl⟩) (fun _ => ⟨rfl, rfl⟩) req

theorem unready_only {P : Call → Prop} (hs : ∀ acl, P (.updateACLStatus acl)) (acl : ACL) (reason : String) :
    Only P (unready acl reason) := by
  simp only [unready, setUnreadyStatus, bind_eq]
  exact Only.send_bind (hs _) fun r => by split <;> exact .pure _

/-- The shape of the write step: it writes nothing, as `np` has a creation time and is
unchanged, or it sends one Create or Update of `np` and, once that is answered, the
status update. -/
theorem writeNetworkPolicy_eq (acl : ACL) (np : NetworkPolicy) (changed : Bool) :
    (np.creationTimestamp.isNone = false ∧ changed = false ∧ writeNetworkPolicy acl np changed = .pure (.ok requeue)) ∨
      ∃ r : Req Unit, (r = .createNetworkPolicy np ∨ r = .updateNetworkPolicy np ∧ np.creationTimestamp.isNone = false) ∧
        writeNetworkPolicy acl np changed = (send r).bind fun b => match b with
          | .error err => .pure (.error err)
          | .ok () => updateStatus acl np.name := by
  unfold writeNetworkPolicy
  by_cases hnew : np.creationTimestamp.isNone = true
  · exact .inr ⟨_, .inl rfl, by simp only [hnew, if_true]; rfl⟩
  · simp only [hnew, Bool.false_eq_true, if_false]
    cases changed
    · exact .inl ⟨by simp [hnew], rfl, rfl⟩
    · exact .inr ⟨_, .inr ⟨rfl, by simp [hnew]⟩, rfl⟩

theorem writeNetworkPolicy_only {P : Call → Prop} (hc : ∀ np, P (.createNetworkPolicy np))
    (hu : ∀ np, P (.updateNetworkPolicy np)) (hs : ∀ acl, P (.updateACLStatus acl))
    (acl : ACL) (np : NetworkPolicy) (changed : Bool) : Only P (writeNetworkPolicy acl np changed) := by
  have hst : Only P (updateStatus acl np.name) := by
    simp only [updateStatus, bind_eq]
    exact Only.send_bind (hs _) fun r => by split <;> exact .pure _
  rcases writeNetworkPolicy_eq acl np changed with ⟨-, -, hw⟩ | ⟨r, hr, hw⟩ <;> rw [hw]
  · exact .pure _
  · exact Only.send_bind (by rcases hr with rfl | ⟨rfl, -⟩; exacts [hc _, hu _]) fun b => by
      cases b; exacts [.pure _, hst]

/-- A property of calls that holds of every read and write of the ACL and its
policy, and of every call `desired` can make, holds of every call of a pass. -/
theorem reconcile_only {P : Call → Prop} (hacl : ∀ key, P (.getACL key)) (hnp : ∀ key, P (.getNetworkPolicy key))
    (hc : ∀ np, P (.createNetworkPolicy np)) (hu : ∀ np, P (.updateNetworkPolicy np))
    (hs : ∀ acl, P (.updateACLStatus acl)) (hdes : ∀ acl, Only P (desired E acl)) (req : NamespacedName) :
    Only P (reconcile E req) := by
  simp only [reconcile, bind_eq]
  refine (fetch_only hacl hnp req).bind fun r => ?_
  split
  · exact .pure _
  · exact (hdes _).bind fun r => by
      split
      · exact unready_only hs _ _
      · exact writeNetworkPolicy_only hc hu hs _ _ _

/-! ## A pass by its phases -/

variable {req : NamespacedName} {s : Store} {acl : ACL} {np : NetworkPolicy} {changed : Bool}
  {w₁ w₂ : World}

/-- A pass whose `desired` stops ends with `unready`. -/
theorem pass_of_stop {stop : Stop} (hf : (fetch req).run C ⟨s, []⟩ = (.ok (acl, np, changed), w₁))
    (hd : (desired E acl).run C w₁ = (.error stop, w₂)) :
    pass E C req s = (unready acl (stop.reason E)).run C w₂ := by
  simp only [pass, reconcile, bind_eq, run_bind, hf]
  simp only [run_bind, hd]

/-- A pass whose `desired` succeeds ends with `writeNetworkPolicy`. -/
theorem pass_of_desired {podSelector : Labels} {rules : List NetworkPolicyEgressRule}
    (hf : (fetch req).run C ⟨s, []⟩ = (.ok (acl, np, changed), w₁))
    (hd : (desired E acl).run C w₁ = (.ok (podSelector, rules), w₂)) :
    pass E C req s =
      (writeNetworkPolicy acl (setSpec np changed podSelector rules).1
        (setSpec np changed podSelector rules).2).run C w₂ := by
  simp only [pass, reconcile, bind_eq, run_bind, hf]
  simp only [run_bind, hd]

theorem unready_run (acl : ACL) (reason : String) (w : World) :
    ((unready acl reason).run C w).2 =
      (w.issue C (.updateACLStatus { acl with status := { acl.status with ready := false, reason } })).2 := by
  simp only [unready, setUnreadyStatus, bind_eq, run_bind, run_send]
  split <;> rfl

end AclOperator
