import AclOperator.Proof.Settled

/-!
# What a pass writes, and what a pass that returns Requeue did, whichever calls fail

`fetch_cases` says, for any faults, what the two reads of a pass gave: the ACL
stored under the request or the zero value, and the stored policy or the zero
value. From it:

* `pass_writes_shape`: any pass writes nothing; or the `Unready` status of the ACL
  it read, with a reason; or that ACL's policy (one Create or Update) and then, if
  the write was answered, its `Ready` status naming the policy.

`Reconcile` returns `Requeue` after `requeueAfter` from three places: after the
status update that follows a Create, after the one that follows an Update, and,
when the policy has not changed, with no write at all. Whichever calls of the pass
fail, such a pass read the ACL stored under its request, and

* `requeued_pass_status`: either wrote the ACL's policy and then its status,
  `Ready` with an empty reason and the written policy's name, which the store then
  holds; or found the stored policy unchanged (it already has the selector and the
  rules the pass computed, the Egress type and an owner), wrote nothing, and left
  every ACL and policy as it was;
* `requeued_pass_policy`: in both cases leaves a policy under that name with a
  creation time, the Egress type, an owner, the selector it computed, and rules
  that round-trip as the ones it computed;
* `unready_survives_quiet_pass`: so an `Unready` status outlives a later pass that
  finds the policy up to date: the second disjunct is reached.
-/

namespace AclOperator

open Prog

variable {C : Cluster} {s : Store} {w : World} {req key : NamespacedName}

/-! ## The reads of a pass -/

theorem World.issue_getACL (w : World) (key : NamespacedName) :
    (w.issue C (.getACL key)).2 = ⟨w.store, w.log ++ [.getACL key]⟩ := by
  unfold World.issue; split <;> rfl

theorem World.issue_getNetworkPolicy (w : World) (key : NamespacedName) :
    (w.issue C (.getNetworkPolicy key)).2 = ⟨w.store, w.log ++ [.getNetworkPolicy key]⟩ := by
  unfold World.issue; split <;> rfl

/-- A Get of an ACL that `orZero` lets through gave the stored ACL, or the zero
value (after NotFound, from the store or from a failure). -/
theorem orZero_getACL {acl : ACL} (h : orZero (w.issue C (.getACL key)).1 = .ok acl) :
    w.store.acls key = some acl ∨ acl = default := by
  unfold World.issue at h
  split at h
  · simp only [orZero] at h; split at h <;> cases h; exact .inr rfl
  · simp only [Store.answer] at h
    split at h
    · cases h; exact .inl ‹_›
    · cases h; exact .inr rfl

/-- A Get of a policy that `orZero` lets through gave the stored policy, or the zero
value. -/
theorem orZero_getNetworkPolicy {np : NetworkPolicy} (h : orZero (w.issue C (.getNetworkPolicy key)).1 = .ok np) :
    w.store.networkPolicies key = some np ∨ np = default := by
  unfold World.issue at h
  split at h
  · simp only [orZero] at h; split at h <;> cases h; exact .inr rfl
  · simp only [Store.answer] at h
    split at h
    · cases h; exact .inl ‹_›
    · cases h; exact .inr rfl

/-- **What `fetch` read**, whichever of its calls failed: the ACL stored under `req`
or the zero value, and, under the name `policyName` gives, the stored policy or the
zero value, prepared by `setMeta`. It wrote nothing, and logged its two reads. -/
theorem fetch_cases {acl : ACL} {np : NetworkPolicy} {changed : Bool} {w₁ : World}
    (hf : (fetch req).run C ⟨s, []⟩ = (.ok (acl, np, changed), w₁)) :
    (s.acls req = some acl ∨ acl = default) ∧
      (∃ P, (s.networkPolicies ⟨req.namespace, policyName acl req⟩ = some P ∨ P = default) ∧
        setMeta acl (policyName acl req) P = (np, changed)) ∧
      w₁ = ⟨s, [.getACL req, .getNetworkPolicy ⟨req.namespace, policyName acl req⟩]⟩ := by
  simp only [fetch, bind_eq, run_send_bind] at hf
  generalize ha : orZero (World.issue C (.getACL req) ⟨s, []⟩).1 = a at hf
  rw [World.issue_getACL] at hf
  rcases a with err | acl'
  · cases hf
  simp only [pure_eq, run_send_bind] at hf
  generalize hp : orZero (World.issue C (.getNetworkPolicy ⟨req.namespace,
    if acl'.status.networkPolicy = "" then "acl-" ++ req.name else acl'.status.networkPolicy⟩)
    ⟨s, [] ++ [.getACL req]⟩).1 = p at hf
  rw [World.issue_getNetworkPolicy] at hf
  rcases p with err | P
  · cases hf
  simp only [run_pure, Prod.mk.injEq, Except.ok.injEq] at hf
  obtain ⟨⟨rfl, hnp⟩, rfl⟩ := hf
  exact ⟨orZero_getACL ha, ⟨P, orZero_getNetworkPolicy hp, hnp⟩, rfl⟩

/-- The policy a pass prepares from the one it read is named as `setMeta` names it,
in the namespace of the ACL it read, and has the creation time of the one it read. -/
theorem setSpec_setMeta_key {acl : ACL} {n : String} {P np : NetworkPolicy} {changed : Bool} (ps : Labels)
    (rules : List NetworkPolicyEgressRule) (hmeta : setMeta acl n P = (np, changed)) :
    (setSpec np changed ps rules).1.key = ⟨acl.namespace, n⟩ ∧
      (setSpec np changed ps rules).1.creationTimestamp = P.creationTimestamp := by
  have hnp : np = (setMeta acl n P).1 := by rw [hmeta]
  rw [NetworkPolicy.key, setSpec_fst, hnp, setMeta_fst_eq]
  exact ⟨rfl, rfl⟩

/-! ## What any pass writes -/

variable (E : Env)

/-- What a pass for `req` from `s` that ends in the world `w` did, when it returns
`Requeue`. It read the ACL `acl` stored under `req`, and `desired` computed the
selector `ps` and the rules `rules`. Then either it wrote the ACL's policy `np`
under the name `policyName` gives (one Create or Update) and then the status of
the ACL, `Ready` with an empty `Reason` and `np`'s name, which the store then holds
under `req` beside a policy of that name; or it found the stored policy of that
name unchanged (with a creation time, the Egress type, an owner, and the selector
and the rules it computed), wrote neither an ACL nor a policy, and every stored
ACL and policy is as in `s`. -/
def RequeueEffect (req : NamespacedName) (s : Store) (w : World) : Prop :=
  ∃ acl ps rules, s.acls req = some acl ∧
    ((desired E acl).run C ⟨s, [.getACL req, .getNetworkPolicy ⟨req.namespace, policyName acl req⟩]⟩).1 =
      .ok (ps, rules) ∧
    ((∃ np : NetworkPolicy, np.key = ⟨req.namespace, policyName acl req⟩ ∧
        (w.log.filter Call.writesPolicy = [.createNetworkPolicy np] ∨
          w.log.filter Call.writesPolicy = [.updateNetworkPolicy np]) ∧
        w.log.filter Call.writesACL =
          [.updateACLStatus { acl with status := { ready := true, reason := "", networkPolicy := np.name } }] ∧
        w.store.acls req = some { acl with status := { ready := true, reason := "", networkPolicy := np.name } } ∧
        (w.store.networkPolicies np.key).map (·.name) = some np.name) ∨
      (∃ P, s.networkPolicies ⟨req.namespace, policyName acl req⟩ = some P ∧ P.creationTimestamp ≠ none ∧
        P.policyTypes.toList = [.egress] ∧ P.ownerReferences.toList ≠ [] ∧ P.podSelector = ⟨ps⟩ ∧
        P.egress = .mk rules ∧
        w.log.filter Call.writesPolicy = [] ∧ w.log.filter Call.writesACL = [] ∧
        w.store.acls = s.acls ∧ w.store.networkPolicies = s.networkPolicies))

/-- A write step that returns `Requeue` with no write had an unchanged policy from
the store: with a creation time, the Egress type, an owner, the selector and the
rules. -/
theorem unchanged_stored {acl : ACL} {P np : NetworkPolicy} {changed : Bool} {ps : Labels}
    {rules : List NetworkPolicyEgressRule}
    (hP : s.networkPolicies key = some P ∨ P = default) (hmeta : setMeta acl key.name P = (np, changed))
    (hnone : (setSpec np changed ps rules).1.creationTimestamp.isNone = false)
    (hch : (setSpec np changed ps rules).2 = false) :
    s.networkPolicies key = some P ∧ P.creationTimestamp ≠ none ∧ P.policyTypes.toList = [.egress] ∧
      P.ownerReferences.toList ≠ [] ∧ P.podSelector = ⟨ps⟩ ∧ P.egress = .mk rules := by
  obtain ⟨hc, hps, heg⟩ := setSpec_snd_false hch
  obtain ⟨hown, htypes⟩ := setMeta_snd_false (n := key.name) (by rw [hmeta, hc])
  have hnp : np = (setMeta acl key.name P).1 := by rw [hmeta]
  rw [setSpec_fst, hnp, setMeta_fst_eq] at hnone
  rw [hnp, setMeta_fst_eq] at hps heg
  have ht : P.creationTimestamp ≠ none := fun h => by simp [h] at hnone
  exact ⟨hP.resolve_right fun h => ht (h ▸ rfl), ht, htypes, hown, hps, heg⟩

/-- **A pass that returns `Requeue`, up to its write step**, whichever of its calls
failed: it read the ACL stored under `req` and, under the name `policyName` gives,
the stored policy or the zero value; `desired` computed a selector and rules on
the ACL, writing neither an ACL nor a policy; and the pass is its write step. -/
theorem pass_requeued_write (hpass : (pass E C req s).1 = .ok requeue) :
    ∃ acl P np changed ps rules w₂, s.acls req = some acl ∧
      (s.networkPolicies ⟨req.namespace, policyName acl req⟩ = some P ∨ P = default) ∧
      setMeta acl (policyName acl req) P = (np, changed) ∧
      (desired E acl).run C ⟨s, [.getACL req, .getNetworkPolicy ⟨req.namespace, policyName acl req⟩]⟩ =
        (.ok (ps, rules), w₂) ∧
      w₂.log.filter Call.writesPolicy = [] ∧ w₂.log.filter Call.writesACL = [] ∧
      w₂.store.acls = s.acls ∧ w₂.store.networkPolicies = s.networkPolicies ∧
      pass E C req s = (writeNetworkPolicy acl (setSpec np changed ps rules).1 (setSpec np changed ps rules).2).run C w₂ := by
  rcases hf : (fetch req).run C ⟨s, []⟩ with ⟨err | ⟨acl, np, changed⟩, w₁⟩
  · rw [pass_of_fetch_error E hf] at hpass; cases hpass
  obtain ⟨hacl, ⟨P, hP, hmeta⟩, hw₁⟩ := fetch_cases hf
  rcases hd : (desired E acl).run C w₁ with ⟨stop | ⟨ps, rules⟩, w₂⟩
  · rw [pass_of_stop E hf hd] at hpass; exact absurd hpass (unready_ne_requeue _ _ _)
  -- `desired` stops on the zero ACL, so the ACL was read from the store
  have hstored : s.acls req = some acl := hacl.resolve_right fun h => by subst h; cases hd
  obtain ⟨hp, hpa, hacls, hnps⟩ := before_write E hf hd
  exact ⟨acl, P, np, changed, ps, rules, w₂, hstored, hP, hmeta, hw₁ ▸ hd, hp, hpa, hacls, hnps,
    pass_of_desired E hf hd⟩

/-- The policy a pass prepares from the one it read is named `policyName` in the
namespace of the ACL under `req`, and has the creation time of the one it read. -/
theorem prepared_key {acl : ACL} {P np : NetworkPolicy} {changed : Bool} (ps : Labels)
    (rules : List NetworkPolicyEgressRule) (hmeta : setMeta acl (policyName acl req) P = (np, changed))
    (hkey : acl.key = req) :
    (setSpec np changed ps rules).1.key = ⟨req.namespace, policyName acl req⟩ ∧
      (setSpec np changed ps rules).1.creationTimestamp = P.creationTimestamp := by
  obtain ⟨hk, ht⟩ := setSpec_setMeta_key ps rules hmeta
  rw [hk, ← hkey]
  exact ⟨rfl, ht⟩

/-- **A pass that returns `Requeue` after `requeueAfter`**, whichever of its calls
failed, from a store whose ACL under `req` is stored under its own key: it read
that ACL, and either wrote its policy and then marked it Ready with the policy's
name, or found the stored policy unchanged and wrote nothing. -/
theorem requeued_pass_status (hkeyed : ∀ acl, s.acls req = some acl → acl.key = req)
    (hpass : (pass E C req s).1 = .ok requeue) : RequeueEffect E (C := C) req s (pass E C req s).2 := by
  obtain ⟨acl, P, np, changed, ps, rules, w₂, hstored, hP, hmeta, hd, hp, hpa, hacls, hnps, hwrite⟩ :=
    pass_requeued_write E hpass
  have hkey := hkeyed acl hstored
  rw [hwrite] at hpass ⊢
  refine ⟨acl, ps, rules, hstored, by rw [hd], ?_⟩
  rcases writeNetworkPolicy_requeued hpass with ⟨hnone, hch, hw⟩ | ⟨r, hr, ha, hu, hw⟩
  · -- nothing written: the policy came from the store, unchanged
    obtain ⟨hP', ht, htypes, hown, hps, heg⟩ := unchanged_stored hP hmeta hnone hch
    rw [hw]
    exact .inr ⟨P, hP', ht, htypes, hown, hps, heg, hp, hpa, hacls, hnps⟩
  -- the write: the policy is stored under its key, then the ACL under `req` is marked Ready
  obtain ⟨stored, hstored', hs⟩ := answer_updateACLStatus hu
  obtain ⟨t, -, hnp⟩ := answer_write_stored hr ha
  rw [answer_acls r _ (by rcases hr with rfl | ⟨rfl, -⟩ <;> rfl), hacls] at hstored'
  have hread : s.acls acl.key = some acl := by rw [hkey]; exact hstored
  obtain rfl : acl = stored := Option.some_inj.1 (hread.symm.trans hstored')
  refine .inl ⟨(setSpec np changed ps rules).1, (prepared_key ps rules hmeta hkey).1, ?_, ?_, ?_, ?_⟩
  · rcases hr with rfl | ⟨rfl, -⟩ <;> simp [hw, hp, Call.writesPolicy, Req.call]
  · rw [hw, List.filter_append, hpa]; rcases hr with rfl | ⟨rfl, -⟩ <;> rfl
  · rw [hw, hs, ← hkey]; exact if_pos rfl
  · rw [hw, hs]; exact congrArg (Option.map (·.name)) hnp

/-- The pass over `dnsACL [TCP/443]` creates its policy and returns `Requeue`. -/
theorem requeued_pass_status_dns :
    (∀ acl, (dnsStore [⟨"TCP", 443⟩] ["1.2.3.4"]).acls (dnsACL [⟨"TCP", 443⟩]).key = some acl →
        acl.key = (dnsACL [⟨"TCP", 443⟩]).key) ∧
      (pass Env.plain Cluster.reliable (dnsACL [⟨"TCP", 443⟩]).key (dnsStore [⟨"TCP", 443⟩] ["1.2.3.4"])).1 =
        .ok requeue ∧
      RequeueEffect Env.plain (C := Cluster.reliable) (dnsACL [⟨"TCP", 443⟩]).key (dnsStore [⟨"TCP", 443⟩] ["1.2.3.4"])
        (pass Env.plain Cluster.reliable (dnsACL [⟨"TCP", 443⟩]).key (dnsStore [⟨"TCP", 443⟩] ["1.2.3.4"])).2 :=
  ⟨dnsStore_keyed _ _, rfl, requeued_pass_status _ (dnsStore_keyed _ _) rfl⟩

/-- **A Requeue pass leaves the policy it computed**, whichever of its calls failed:
from a store whose ACL under `req` is stored under its own key, after a pass that
returns `Requeue`, the store holds, under the name `policyName` gives the ACL the
pass read, a policy with a creation time, the one policy type Egress and an owner,
with the pod selector the pass computed and its rules as the API server hands them
back. -/
theorem requeued_pass_policy (hkeyed : ∀ acl, s.acls req = some acl → acl.key = req)
    (hpass : (pass E C req s).1 = .ok requeue) :
    ∃ acl ps rules P, s.acls req = some acl ∧
      ((desired E acl).run C ⟨s, [.getACL req, .getNetworkPolicy ⟨req.namespace, policyName acl req⟩]⟩).1 =
        .ok (ps, rules) ∧
      (pass E C req s).2.store.networkPolicies ⟨req.namespace, policyName acl req⟩ = some P ∧
      P.creationTimestamp ≠ none ∧ P.policyTypes.toList = [.egress] ∧ P.ownerReferences.toList ≠ [] ∧
      P.podSelector = ⟨ps⟩ ∧
      P.egress.toList.map NetworkPolicyEgressRule.roundTrip = rules.map NetworkPolicyEgressRule.roundTrip := by
  obtain ⟨acl, P, np, changed, ps, rules, w₂, hstored, hP, hmeta, hd, -, -, -, hnps, hwrite⟩ :=
    pass_requeued_write E hpass
  obtain ⟨hkeynp, htime⟩ := prepared_key ps rules hmeta (hkeyed acl hstored)
  rw [hwrite] at hpass
  rcases writeNetworkPolicy_requeued hpass with ⟨hnone, hch, hw⟩ | ⟨r, hr, ha, -, hw⟩
  · -- nothing written: the stored policy is the one it computed
    obtain ⟨hP', ht, htypes, hown, hps, heg⟩ := unchanged_stored hP hmeta hnone hch
    refine ⟨acl, ps, rules, P, hstored, by rw [hd], by rw [hwrite, hw, hnps]; exact hP', ht, htypes, hown, hps, ?_⟩
    rw [heg]; rfl
  -- a write: the round trip of the prepared policy is stored, with a creation time
  obtain ⟨t, ht, hnp⟩ := answer_write_stored hr ha
  have hnp' : (pass E C req s).2.store.networkPolicies ⟨req.namespace, policyName acl req⟩ =
      some { (setSpec np changed ps rules).1.roundTrip with creationTimestamp := t } := by
    rw [hwrite, hw, answer_networkPolicies (.updateACLStatus (readyACL acl (setSpec np changed ps rules).1.name)) _ rfl,
      ← hkeynp, hnp]
  have hmeta₁ : np = (setMeta acl (policyName acl req) P).1 := by rw [hmeta]
  refine ⟨acl, ps, rules, _, hstored, by rw [hd], hnp', ?_, ?_, ?_, ?_, ?_⟩
  · -- a Create is stamped now; an Update keeps the time of the policy it read, which was stored
    rcases ht with rfl | ⟨old, hold, rfl, hnone⟩
    · exact Option.some_ne_none _
    have hPt : P.creationTimestamp ≠ none := fun h => by simp [htime, h] at hnone
    rw [hkeynp, hnps, hP.resolve_right fun h => hPt (h ▸ rfl)] at hold
    cases hold
    exact hPt
  · simp [NetworkPolicy.roundTrip, setSpec_fst, hmeta₁, setMeta_fst_eq]
  · simpa [NetworkPolicy.roundTrip, setSpec_fst, hmeta₁] using setMeta_owned acl (policyName acl req) P
  · simp [NetworkPolicy.roundTrip, setSpec_fst]
  · simp [NetworkPolicy.roundTrip, setSpec_fst, Function.comp_def]

/-- The pass over `dnsACL [TCP/443]` leaves the policy it computed. -/
theorem requeued_pass_policy_dns :
    (∀ acl, (dnsStore [⟨"TCP", 443⟩] ["1.2.3.4"]).acls (dnsACL [⟨"TCP", 443⟩]).key = some acl →
        acl.key = (dnsACL [⟨"TCP", 443⟩]).key) ∧
      (pass Env.plain Cluster.reliable (dnsACL [⟨"TCP", 443⟩]).key (dnsStore [⟨"TCP", 443⟩] ["1.2.3.4"])).1 =
        .ok requeue ∧
      ∃ acl ps rules P, (dnsStore [⟨"TCP", 443⟩] ["1.2.3.4"]).acls (dnsACL [⟨"TCP", 443⟩]).key = some acl ∧
        ((desired Env.plain acl).run Cluster.reliable ⟨dnsStore [⟨"TCP", 443⟩] ["1.2.3.4"],
          [.getACL (dnsACL [⟨"TCP", 443⟩]).key,
            .getNetworkPolicy ⟨(dnsACL [⟨"TCP", 443⟩]).key.namespace, policyName acl (dnsACL [⟨"TCP", 443⟩]).key⟩]⟩).1 =
          .ok (ps, rules) ∧
        (pass Env.plain Cluster.reliable (dnsACL [⟨"TCP", 443⟩]).key
            (dnsStore [⟨"TCP", 443⟩] ["1.2.3.4"])).2.store.networkPolicies
          ⟨(dnsACL [⟨"TCP", 443⟩]).key.namespace, policyName acl (dnsACL [⟨"TCP", 443⟩]).key⟩ = some P ∧
        P.creationTimestamp ≠ none ∧ P.policyTypes.toList = [.egress] ∧ P.ownerReferences.toList ≠ [] ∧
        P.podSelector = ⟨ps⟩ ∧
        P.egress.toList.map NetworkPolicyEgressRule.roundTrip = rules.map NetworkPolicyEgressRule.roundTrip :=
  ⟨dnsStore_keyed _ _, rfl, requeued_pass_policy _ (dnsStore_keyed _ _) rfl⟩

/-! ## An Unready status that outlives a pass -/

/-- **An Unready status survives a successful pass.** A pass creates the policy of
`dnsACL [TCP/443]` and marks it Ready; the next one fails to read the ACLDNSEntry
and marks it Unready; the third finds the policy up to date and returns `Requeue`
with no write, so the ACL stays `Ready = false`. -/
theorem unready_survives_quiet_pass :
    let s₂ := runEvents (dnsACL [⟨"TCP", 443⟩]).key
      [.pass Env.plain Cluster.reliable, .pass Env.plain (Cluster.faultAt 2 ⟨.other, "timeout"⟩)]
      (dnsStore [⟨"TCP", 443⟩] ["1.2.3.4"])
    (pass Env.plain Cluster.reliable (dnsACL [⟨"TCP", 443⟩]).key s₂).1 = .ok requeue ∧
      ((pass Env.plain Cluster.reliable (dnsACL [⟨"TCP", 443⟩]).key s₂).2.store.acls
        (dnsACL [⟨"TCP", 443⟩]).key).map (·.status.ready) = some false :=
  ⟨rfl, rfl⟩

end AclOperator
