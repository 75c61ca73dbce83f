import AclOperator.Proof.Calls

/-!
# The policy a pass writes

Two defects show in the document `Reconcile` writes.

* An ACLDNSEntry that is Ready with no usable address gives a rule whose `To` is
  empty, which NetworkPolicy reads as every destination
  (`ready_empty_entry_opens_egress`).
* `ports` and `egressRulesForExternalDNS` build empty slices that are not `nil`;
  the API server hands them back as `nil`, `reflect.DeepEqual` tells the two apart,
  and a pass over an unchanged ACL updates the policy and the status again
  (`unchanged_acl_rewritten`).
-/

namespace AclOperator

/-- The ACL `ns/web` of the app `web`, whose only destination is `example.com` on
the given ports. -/
def dnsACL (ports : List ProtoPort) : ACL :=
  { name := "web", «namespace» := "ns"
    spec := { source := { tsuruApp := "web" },
              destinations := [{ externalDNS := some { name := "example.com", ports } }] } }

/-- The ACLDNSEntry of `example.com`, Ready with the given addresses. -/
def exampleEntry (ips : List String) : Record .dnsEntry :=
  { name := "example.com", spec := ({ host := "example.com" } : ACLDNSEntrySpec), status := { ready := true, ips } }

/-- The store holding `dnsACL ports` and `exampleEntry ips`. -/
def dnsStore (ports : List ProtoPort) (ips : List String) : Store :=
  (Store.empty.putACL (dnsACL ports).key (dnsACL ports)).putRecord .dnsEntry "example.com" (exampleEntry ips)

/-- The ACL of `dnsStore` is stored under its own key. -/
theorem dnsStore_keyed (ports : List ProtoPort) (ips : List String) (acl : ACL)
    (h : (dnsStore ports ips).acls (dnsACL ports).key = some acl) : acl.key = (dnsACL ports).key := by
  simp only [dnsStore, Store.putRecord, Store.putACL, if_true, Option.some.injEq] at h
  rw [← h]

/-- **A Ready entry without addresses opens all egress.** The pass creates the
policy `acl-web` whose one rule has neither `To` nor `Ports`. -/
theorem ready_empty_entry_opens_egress (E : Env) :
    ((pass E Cluster.reliable (dnsACL []).key (dnsStore [] [])).2.log.filter Call.writesPolicy).length = 1 ∧
      ((pass E Cluster.reliable (dnsACL []).key (dnsStore [] [])).2.store.networkPolicies
        ⟨"ns", "acl-web"⟩).map (·.egress) = some (.mk [{}]) :=
  ⟨rfl, rfl⟩

/-- The ACL `ns/web` of the app `web` allowed to reach `10.0.0.5`: the spec's
scenario A. -/
def ipACL : ACL :=
  { name := "web", «namespace» := "ns"
    spec := { source := { tsuruApp := "web" }, destinations := [{ externalIP := some { ip := "10.0.0.5" } }] } }

/-- **An unchanged ACL is written again.** After a first pass over scenario A, the
stored rule has `nil` `Ports`; the second pass computes `Ports: []`, finds the
policy changed, and issues an Update of it and of the ACL status. -/
theorem unchanged_acl_rewritten (sum : String → Sum256) (marshal : ACLSpecDestination → String) :
    let E : Env := ⟨sum, marshal, fun _ => .ok none⟩
    let s₁ := (pass E Cluster.reliable ipACL.key (Store.empty.putACL ipACL.key ipACL)).2.store
    (s₁.networkPolicies ⟨"ns", "acl-web"⟩).map (·.egress) =
        some (.mk [{ «to» := .mk [{ ipBlock := some ⟨"10.0.0.5/32"⟩ }] }]) ∧
      ((pass E Cluster.reliable ipACL.key s₁).2.log.filter Call.writesPolicy).length = 1 ∧
      ((pass E Cluster.reliable ipACL.key s₁).2.log.filter Call.writesACL).length = 1 := by
  intro E s₁
  -- the second pass gets the ACL and the policy, then updates both
  obtain ⟨np, acl, hlog⟩ : ∃ np acl, (pass E Cluster.reliable ipACL.key s₁).2.log =
      [.getACL ipACL.key, .getNetworkPolicy ⟨"ns", "acl-web"⟩, .updateNetworkPolicy np, .updateACLStatus acl] :=
    ⟨_, _, rfl⟩
  rw [hlog]
  exact ⟨rfl, rfl, rfl⟩

end AclOperator
