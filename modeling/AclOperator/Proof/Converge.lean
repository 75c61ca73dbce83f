import AclOperator.Proof.Settled
import AclOperator.Proof.Replay

/-!
# The store a Requeue pass leaves is a fixed point

With no failing call, a pass that returns `Requeue` leaves a store from which the
next pass returns `Requeue` again and changes nothing (`requeue_store_fixed`), so
every later pass does the same. The second pass still writes when the first wrote
a rule that the API server hands back changed, such as an empty `Ports` or `To` read
back `nil`, or a port with no protocol read back TCP: it then updates the policy and the status with what they already hold,
and so does every pass after it (`second_pass_writes_iff`). When every destination
settles, the second pass makes only its two reads (`settled_second_pass_quiet`).

* `desired_converges`: with no failing call, once `desired` succeeds, the pass
  returns `Requeue` (`pass_requeues`) and the next one leaves its store as it is.
* `pass_outcome`: with no failing call, a pass returns `Requeue` when `desired`
  succeeds, and otherwise marks the ACL unready and returns `ctrl.Result{}`.
* `requeue_policy_desired`: the store a Requeue pass leaves holds the ACL's policy,
  with the selector and (up to the round trip) the rules `desired` computes there.
* `writeNetworkPolicy_rewrite`: the Update of a policy whose round trip the store
  holds, and of a status the ACL already has, changes nothing.
* `preparedPolicy`, `pass_of_desired_run`: the policy a pass prepares, and a pass
  whose `desired` succeeds, in closed form.
* `requeue_pass_cases`: what a pass that returns `Requeue` did: nothing, or a write
  of the prepared policy and the ready status (`written_store`).
* `pass_of_written`: a pass from a store that holds the ready ACL and the round trip
  of the policy it would write, in closed form.
* `second_pass`: the pass after a Requeue pass, in closed form.
-/

namespace AclOperator

open Prog

variable {C : Cluster} {req : NamespacedName} {acl : ACL} {w : World} {s : Store}

/-! ## Writes of what the store holds -/

theorem Store.putNetworkPolicy_of_eq {np : NetworkPolicy} (h : s.networkPolicies np.key = some np) :
    s.putNetworkPolicy np = s := by
  cases s
  simp only [Store.putNetworkPolicy, Store.mk.injEq, true_and, and_true]
  funext key
  split <;> simp_all

theorem Store.putACL_of_eq {key : NamespacedName} (h : s.acls key = some acl) : s.putACL key acl = s := by
  cases s
  simp only [Store.putACL, Store.mk.injEq, true_and, and_true]
  funext key'
  split <;> simp_all

theorem readyACL_readyACL (acl : ACL) (name : String) : readyACL (readyACL acl name) name = readyACL acl name :=
  rfl

/-- **An Update that changes nothing**: the Update of a policy whose round trip the
store already holds with the creation time it has, then the status update of an ACL
that is already ready with the policy's name, leave the store as it is. -/
theorem writeNetworkPolicy_rewrite (hC : ∀ i, C.fault i = none) (np : NetworkPolicy) {P : NetworkPolicy}
    (hacl : w.store.acls acl.key = some acl) (hready : readyACL acl np.name = acl)
    (hP : w.store.networkPolicies np.key = some P)
    (hrt : { np.roundTrip with creationTimestamp := P.creationTimestamp } = P) (ht : np.creationTimestamp.isNone = false) :
    (writeNetworkPolicy acl np true).run C w =
      (.ok requeue, ⟨w.store, w.log ++ [.updateNetworkPolicy np, .updateACLStatus acl]⟩) := by
  have hP' : w.store.networkPolicies P.key = some P := by rw [← hP, ← hrt]; rfl
  have hready' : ({ acl with status := { acl.status with networkPolicy := np.name, ready := true, reason := "" } } : ACL) = acl := hready
  have hself : ({ acl with status := acl.status } : ACL) = acl := rfl
  simp only [writeNetworkPolicy, ht, updateStatus, bind_eq, run_send_bind, World.issue, hC, Store.answer, hP, hrt,
    Store.putNetworkPolicy_of_eq hP', hready', hacl, hself, Store.putACL_of_eq hacl, Bool.false_eq_true, if_false,
    if_true, pure_eq, run_pure, Req.call, List.append_assoc, List.singleton_append]

/-! ## The policy a pass prepares -/

theorem policyName_ne_empty (acl : ACL) (req : NamespacedName) : policyName acl req ≠ "" := by
  unfold policyName
  split
  · intro h
    have : 4 + req.name.length = 0 := (String.length_append "acl-" req.name).symm.trans (congrArg String.length h)
    omega
  · assumption

/-- The policy the write step of a pass gets, and whether `setMeta` and `setSpec`
changed it: the stored policy of `acl` (the zero value when there is none) with its
metadata and the desired selector and rules. -/
def preparedPolicy (acl : ACL) (req : NamespacedName) (s : Store) (ps : Labels)
    (rules : List NetworkPolicyEgressRule) : NetworkPolicy × Bool :=
  setSpec (setMeta acl (policyName acl req) ((s.networkPolicies ⟨req.namespace, policyName acl req⟩).getD default)).1
    (setMeta acl (policyName acl req) ((s.networkPolicies ⟨req.namespace, policyName acl req⟩).getD default)).2 ps rules

section

variable {ps : Labels} {rules : List NetworkPolicyEgressRule} {np : NetworkPolicy} {changed : Bool}

/-- What a pass prepares for its write step, field by field. -/
theorem preparedPolicy_eq (h : preparedPolicy acl req s ps rules = (np, changed)) :
    np.name = policyName acl req ∧ np.namespace = acl.namespace ∧
      np.creationTimestamp = ((s.networkPolicies ⟨req.namespace, policyName acl req⟩).getD default).creationTimestamp ∧
      np.ownerReferences.toList ≠ [] ∧ np.policyTypes = .mk [.egress] ∧ np.podSelector = ⟨ps⟩ ∧
      np.egress = .mk rules := by
  have hnp : np = _ := (congrArg Prod.fst h).symm
  have hown := setMeta_owned acl (policyName acl req) ((s.networkPolicies ⟨req.namespace, policyName acl req⟩).getD default)
  rw [preparedPolicy, setSpec_fst] at hnp
  subst hnp
  rw [setMeta_fst_eq] at hown ⊢
  exact ⟨rfl, rfl, rfl, hown, rfl, rfl, rfl⟩

theorem preparedPolicy_key (h : preparedPolicy acl req s ps rules = (np, changed)) (hkey : acl.key = req) :
    np.key = ⟨req.namespace, policyName acl req⟩ := by
  obtain ⟨hname, hnsp, -⟩ := preparedPolicy_eq h
  rw [NetworkPolicy.key, hname, hnsp, ← hkey]; rfl

/-- The stored policy a write replaces has the creation time of the prepared one. -/
theorem preparedPolicy_stored_time (h : preparedPolicy acl req s ps rules = (np, changed)) (hkey : acl.key = req)
    (old : NetworkPolicy) (hfound : s.networkPolicies np.key = some old) :
    old.creationTimestamp = np.creationTimestamp := by
  rw [(preparedPolicy_eq h).2.2.1, ← preparedPolicy_key h hkey, hfound]; rfl

/-- A prepared policy that has a creation time and is unchanged is the stored one:
it has the selector and the rules, the Egress type and an owner. -/
theorem preparedPolicy_unchanged (h : preparedPolicy acl req s ps rules = (np, false))
    (hnone : np.creationTimestamp.isNone = false) :
    ∃ P, s.networkPolicies ⟨req.namespace, policyName acl req⟩ = some P ∧ P.podSelector = ⟨ps⟩ ∧
      P.egress = .mk rules ∧ P.policyTypes.toList = [.egress] ∧ P.ownerReferences.toList ≠ [] := by
  have hts := (preparedPolicy_eq h).2.2.1
  unfold preparedPolicy at h
  cases hP : s.networkPolicies ⟨req.namespace, policyName acl req⟩ with
  | none => rw [hP] at hts; rw [hts] at hnone; cases hnone
  | some P =>
    rw [hP, Option.getD_some] at h
    obtain ⟨hc, hps, heg⟩ := setSpec_snd_false (congrArg Prod.snd h)
    obtain ⟨hown, htypes⟩ := setMeta_snd_false hc
    rw [setMeta_fst_eq] at hps heg
    exact ⟨P, rfl, hps, heg, htypes, hown⟩

/-- A Create or an Update of a policy, then a status update, leave the address
records as they were. -/
theorem written_records {r : Req Unit}
    (hr : r = .createNetworkPolicy np ∨ r = .updateNetworkPolicy np ∧ np.creationTimestamp.isNone = false)
    (a : ACL) (s : Store) : ((s.answer C r).2.answer C (.updateACLStatus a)).2.records = s.records :=
  (answer_records (.updateACLStatus a) _ rfl).trans (answer_records r s (by rcases hr with rfl | ⟨rfl, -⟩ <;> rfl))

end

/-- **What a write step that returns `Requeue` leaves**, when it wrote `np`: the ACL
ready and naming `np`, and `np`'s round trip with a creation time. The time is the
cluster's for a Create; an Update keeps the stored one, which `np` carries. -/
theorem written_store {r : Req Unit} {np : NetworkPolicy} (hs : s.acls acl.key = some acl)
    (hold : ∀ old, s.networkPolicies np.key = some old → old.creationTimestamp = np.creationTimestamp)
    (hr : r = .createNetworkPolicy np ∨ r = .updateNetworkPolicy np ∧ np.creationTimestamp.isNone = false)
    (ha : (s.answer C r).1 = .ok ())
    (hu : ((s.answer C r).2.answer C (.updateACLStatus (readyACL acl np.name))).1 = .ok ()) :
    ((s.answer C r).2.answer C (.updateACLStatus (readyACL acl np.name))).2.acls acl.key =
        some (readyACL acl np.name) ∧
      ∃ t, t ≠ none ∧ ((s.answer C r).2.answer C (.updateACLStatus (readyACL acl np.name))).2.networkPolicies
        np.key = some { np.roundTrip with creationTimestamp := t } := by
  obtain ⟨stored, hstored, hs₁⟩ := answer_updateACLStatus hu
  rw [answer_acls r s (by rcases hr with rfl | ⟨rfl, -⟩ <;> rfl)] at hstored
  obtain rfl : acl = stored := Option.some_inj.1 (hs.symm.trans hstored)
  refine ⟨by rw [hs₁]; exact if_pos rfl, ?_⟩
  rw [answer_networkPolicies (.updateACLStatus (readyACL acl np.name)) _ rfl]
  obtain ⟨t, ht, hnp⟩ := answer_write_stored hr ha
  refine ⟨t, ?_, hnp⟩
  rcases ht with rfl | ⟨old, hfound, rfl, hnone⟩
  · exact Option.some_ne_none _
  · rw [hold old hfound]
    exact fun hn => by simp [hn] at hnone

variable (E : Env) {ps : Labels} {rules : List NetworkPolicyEgressRule}

/-- `desired` reads the spec of the ACL, not its status. -/
theorem desired_readyACL (acl : ACL) (name : String) : desired E (readyACL acl name) = desired E acl := rfl

/-! ## A pass that reaches its write step -/

/-- `desired` writes neither an ACL nor a policy. -/
theorem desired_run_keeps {r : Except Stop (Labels × List NetworkPolicyEgressRule)} {sd : Store} {dlog : List Call}
    (hd : (desired E acl).run C ⟨s, []⟩ = (r, ⟨sd, dlog⟩)) :
    dlog.filter Call.writesPolicy = [] ∧ sd.acls = s.acls ∧ sd.networkPolicies = s.networkPolicies := by
  obtain ⟨hwp, -, hacls, hnps⟩ :=
    ((desired_recordCall E acl).mono fun _ => RecordCall.readsOnly).run_readsOnly (C := C) ⟨s, []⟩
  simp only [hd, List.filter_nil] at hwp hacls hnps
  exact ⟨hwp, hacls, hnps⟩

/-- **A pass whose `desired` succeeds, in closed form**: with no failing call, it
reads the ACL and its policy, runs `desired`, and runs the write step on the policy
it prepared. -/
theorem pass_of_desired_run {sd : Store} {dlog : List Call} (hC : ∀ i, C.fault i = none)
    (hs : s.acls req = some acl) (hd : (desired E acl).run C ⟨s, []⟩ = (.ok (ps, rules), ⟨sd, dlog⟩)) :
    pass E C req s = (writeNetworkPolicy acl (preparedPolicy acl req s ps rules).1
      (preparedPolicy acl req s ps rules).2).run C
        ⟨sd, [.getACL req, .getNetworkPolicy ⟨req.namespace, policyName acl req⟩] ++ dlog⟩ := by
  have hshift := run_shift hC (desired E acl) s
    ([] ++ [.getACL req] ++ [.getNetworkPolicy ⟨req.namespace, policyName acl req⟩])
  rw [hd] at hshift
  exact pass_of_desired E (fetch_run (w := ⟨s, []⟩) hC hs) hshift

/-- A pass whose `desired` stops, in closed form: with no failing call, it reads the
ACL and its policy, runs `desired`, and marks the ACL unready. -/
theorem pass_of_desired_stop {stop : Stop} {sd : Store} {dlog : List Call} (hC : ∀ i, C.fault i = none)
    (hs : s.acls req = some acl) (hd : (desired E acl).run C ⟨s, []⟩ = (.error stop, ⟨sd, dlog⟩)) :
    pass E C req s = (unready acl (stop.reason E)).run C
      ⟨sd, [.getACL req, .getNetworkPolicy ⟨req.namespace, policyName acl req⟩] ++ dlog⟩ := by
  have hshift := run_shift hC (desired E acl) s
    ([] ++ [.getACL req] ++ [.getNetworkPolicy ⟨req.namespace, policyName acl req⟩])
  rw [hd] at hshift
  exact pass_of_stop E (fetch_run (w := ⟨s, []⟩) hC hs) hshift

/-- With no failing call, the unready status update of a stored ACL is answered. -/
theorem unready_run_found (hC : ∀ i, C.fault i = none) (h : w.store.acls acl.key = some acl) (reason : String) :
    (unready acl reason).run C w =
      (.ok {}, ⟨w.store.putACL acl.key { acl with status := { acl.status with ready := false, reason } },
        w.log ++ [.updateACLStatus { acl with status := { acl.status with ready := false, reason } }]⟩) := by
  have h' : w.store.acls ({ acl with status := { acl.status with ready := false, reason } } : ACL).key = some acl := h
  simp [unready, setUnreadyStatus, World.issue, hC, Store.answer, h', Req.call]
  rfl

/-- With no failing call, a pass that returns `Requeue` got a selector and rules
from `desired`. -/
theorem requeue_desired (hC : ∀ i, C.fault i = none) (hs : s.acls req = some acl)
    (h1 : (pass E C req s).1 = .ok requeue) :
    ∃ ps rules sd dlog, (desired E acl).run C ⟨s, []⟩ = (.ok (ps, rules), ⟨sd, dlog⟩) := by
  rcases hd : (desired E acl).run C ⟨s, []⟩ with ⟨stop | ⟨ps, rules⟩, ⟨sd, dlog⟩⟩
  · rw [pass_of_desired_stop E hC hs hd] at h1
    exact absurd h1 (unready_ne_requeue _ _ _)
  · exact ⟨ps, rules, sd, dlog, rfl⟩

/-- **A pass whose `desired` succeeds returns `Requeue`**, with no failing call,
from a store whose ACL under `req` is stored under its key and whose policies all
have a creation time, as the API server stamps them: a Create finds no policy under
the name, an Update finds the one it replaces, and the status update finds the ACL. -/
theorem pass_requeues (hC : ∀ i, C.fault i = none) (hs : s.acls req = some acl) (hkey : acl.key = req)
    (htimes : ∀ key P, s.networkPolicies key = some P → P.creationTimestamp ≠ none)
    (hd : ((desired E acl).run C ⟨s, []⟩).1 = .ok (ps, rules)) : (pass E C req s).1 = .ok requeue := by
  rcases hd₀ : (desired E acl).run C ⟨s, []⟩ with ⟨res, ⟨sd, dlog⟩⟩
  obtain rfl : res = .ok (ps, rules) := by rw [hd₀] at hd; exact hd
  obtain ⟨-, hacls, hnps⟩ := desired_run_keeps E hd₀
  rw [pass_of_desired_run E hC hs hd₀]
  generalize hout : preparedPolicy acl req s ps rules = out
  obtain ⟨np, changed⟩ := out
  have hts := (preparedPolicy_eq hout).2.2.1
  have hkeynp := preparedPolicy_key hout hkey
  have hacl : ∀ st, sd.acls ({ acl with status := st } : ACL).key = some acl := fun _ => by
    show sd.acls acl.key = some acl; rw [hacls, hkey]; exact hs
  cases hP : s.networkPolicies ⟨req.namespace, policyName acl req⟩ with
  | none =>
    -- a new policy: the Create finds none under its name
    have hnone : np.creationTimestamp = none := by rw [hts, hP]; rfl
    have hnew : sd.networkPolicies np.key = none := by rw [hnps, hkeynp, hP]
    simp [writeNetworkPolicy, hnone, updateStatus, World.issue, hC, Store.answer, hnew, Store.putNetworkPolicy, hacl]
  | some P =>
    -- the stored policy: the Update, if any, finds it
    have hold : sd.networkPolicies np.key = some P := by rw [hnps, hkeynp, hP]
    have hnone : np.creationTimestamp.isNone = false := by
      rw [hts, hP, Option.getD_some]
      exact Bool.eq_false_iff.2 fun h => htimes _ _ hP (Option.isNone_iff_eq_none.1 h)
    cases changed
    · simp [writeNetworkPolicy, hnone]
    · simp [writeNetworkPolicy, hnone, updateStatus, World.issue, hC, Store.answer, hold, Store.putNetworkPolicy, hacl]

/-- **What a pass that returns `Requeue` did**, with no failing call: `desired`
computed a selector and rules, writing no ACL and no policy, and the pass prepared
`np`. Then either `np` had a creation time and was unchanged, and the pass wrote
nothing; or it wrote `np` and the ready status, and the store holds the ACL ready
and naming `np`, `np`'s round trip with a creation time, and the records `desired`
left. -/
theorem requeue_pass_cases (hC : ∀ i, C.fault i = none) (hs : s.acls req = some acl) (hkey : acl.key = req)
    (h1 : (pass E C req s).1 = .ok requeue) :
    ∃ ps rules sd dlog np changed, (desired E acl).run C ⟨s, []⟩ = (.ok (ps, rules), ⟨sd, dlog⟩) ∧
      preparedPolicy acl req s ps rules = (np, changed) ∧
      dlog.filter Call.writesPolicy = [] ∧ sd.acls = s.acls ∧ sd.networkPolicies = s.networkPolicies ∧
      ((np.creationTimestamp.isNone = false ∧ changed = false ∧
          (pass E C req s).2 = ⟨sd, [.getACL req, .getNetworkPolicy ⟨req.namespace, policyName acl req⟩] ++ dlog⟩) ∨
        ∃ t, t ≠ none ∧ (pass E C req s).2.store.acls req = some (readyACL acl np.name) ∧
          (pass E C req s).2.store.networkPolicies np.key = some { np.roundTrip with creationTimestamp := t } ∧
          (pass E C req s).2.store.records = sd.records ∧ ∃ c ∈ (pass E C req s).2.log, c.writesPolicy = true) := by
  obtain ⟨ps, rules, sd, dlog, hd₀⟩ := requeue_desired E hC hs h1
  obtain ⟨hwp, hacls, hnps⟩ := desired_run_keeps E hd₀
  have hpass := pass_of_desired_run E hC hs hd₀
  generalize hout : preparedPolicy acl req s ps rules = out at hpass
  obtain ⟨np, changed⟩ := out
  refine ⟨ps, rules, sd, dlog, np, changed, hd₀, hout, hwp, hacls, hnps, ?_⟩
  rw [hpass] at h1 ⊢
  rcases writeNetworkPolicy_requeued h1 with ⟨hnone, rfl, hw⟩ | ⟨r, hr, ha, hu, hw⟩
  · exact .inl ⟨hnone, rfl, hw⟩
  · obtain ⟨hacl₁, t, ht, hnp₁⟩ := written_store (show sd.acls acl.key = some acl by rw [hkey, hacls]; exact hs)
      (fun old h => preparedPolicy_stored_time hout hkey old (hnps ▸ h)) hr ha hu
    rw [hw]
    exact .inr ⟨t, ht, by rw [← hkey]; exact hacl₁, hnp₁, written_records hr _ sd, r.call, by simp,
      by rcases hr with rfl | ⟨rfl, -⟩ <;> rfl⟩

/-! ## The pass after -/

/-- **A pass from a store that holds what it would write**: the ACL, ready and
naming `np`, and `np`'s round trip with a creation time, where `np` has the
metadata the pass sets and the selector and rules `desired` computes. The pass
returns `Requeue` and leaves the store as it is. It writes only when a rule does
not survive the round trip, and then it updates the policy and the status with
what they already hold. -/
theorem pass_of_written {np : NetworkPolicy} {t : Option Nat} {reads : List Call} (hC : ∀ i, C.fault i = none)
    (hs : s.acls req = some acl) (hkey : acl.key = req) (hready : readyACL acl np.name = acl) (hne : np.name ≠ "")
    (hdes : (desired E acl).run C ⟨s, []⟩ = (.ok (ps, rules), ⟨s, reads⟩)) (hrules : rules ≠ [])
    (hnp : s.networkPolicies np.key = some { np.roundTrip with creationTimestamp := t }) (ht : t ≠ none)
    (hmeta : np.namespace = acl.namespace ∧ np.ownerReferences.toList ≠ [] ∧ np.policyTypes = .mk [.egress])
    (hspec : np.podSelector = ⟨ps⟩ ∧ np.egress = .mk rules) :
    pass E C req s = (.ok requeue, ⟨s, [.getACL req, .getNetworkPolicy np.key] ++ reads ++
      if ∀ r ∈ rules, r.roundTrip = r then []
      else [.updateNetworkPolicy { np.roundTrip with creationTimestamp := t, egress := .mk rules },
        .updateACLStatus acl]⟩) := by
  obtain ⟨t, rfl⟩ := Option.ne_none_iff_exists'.1 ht
  have hname : acl.status.networkPolicy = np.name := by rw [← hready]; rfl
  have hpn : policyName acl req = np.name := by simp [policyName, hname, hne]
  have hkeynp : np.key = ⟨req.namespace, np.name⟩ := by rw [NetworkPolicy.key, hmeta.1, ← hkey]; rfl
  have hmeta' : setMeta acl np.name { np.roundTrip with creationTimestamp := some t } =
      ({ np.roundTrip with creationTimestamp := some t }, false) :=
    setMeta_of_meta rfl hmeta.1 (by simpa [NetworkPolicy.roundTrip] using hmeta.2.1)
      (by simp [NetworkPolicy.roundTrip, hmeta.2.2])
  rw [pass_of_desired_run E hC hs hdes, preparedPolicy]
  simp only [hpn, ← hkeynp, hnp, Option.getD_some, hmeta']
  -- the stored rules are the desired ones exactly when every rule survives the round trip
  have hegress : (np.egress.map NetworkPolicyEgressRule.roundTrip).omitEmpty = .mk rules ↔
      ∀ r ∈ rules, r.roundTrip = r := by
    rw [hspec.2]; exact roundTrip_egress_eq_iff hrules
  by_cases hst : ∀ r ∈ rules, r.roundTrip = r
  · rw [setSpec_of_eq { np.roundTrip with creationTimestamp := some t } hspec.1 (hegress.2 hst), if_pos hst,
      List.append_nil]
    rfl
  · rw [setSpec_of_ne { np.roundTrip with creationTimestamp := some t } hspec.1 (mt hegress.1 hst), if_neg hst,
      writeNetworkPolicy_rewrite hC { ({ np.roundTrip with creationTimestamp := some t } : NetworkPolicy) with
        egress := .mk rules } (hkey ▸ hs) hready hnp (by simp [NetworkPolicy.roundTrip, hspec.2]) rfl]

/-- **The pass after a Requeue pass, in closed form.** With no failing call, after
a pass that returns `Requeue`, the next pass returns `Requeue`, leaves the store as
it is, and after its reads (the ACL, the policy and the records `desired` reads)
issues only writes, and those exactly when the first pass wrote a policy and one of
the rules `desired` computes does not survive the round trip. -/
theorem second_pass (hC : ∀ i, C.fault i = none) (hs : s.acls req = some acl) (hkey : acl.key = req)
    (h1 : (pass E C req s).1 = .ok requeue) :
    ∃ ps rules, ((desired E acl).run C ⟨s, []⟩).1 = .ok (ps, rules) ∧ ∃ key extra,
      pass E C req (pass E C req s).2.store = (.ok requeue, ⟨(pass E C req s).2.store,
        [.getACL req, .getNetworkPolicy key] ++ ((desired E acl).run C ⟨(pass E C req s).2.store, []⟩).2.log ++
          extra⟩) ∧
      (∀ c ∈ ((desired E acl).run C ⟨(pass E C req s).2.store, []⟩).2.log, c.isRead = true) ∧
      (∀ c ∈ extra, c.isRead = false) ∧
      (extra ≠ [] ↔ (∃ c ∈ (pass E C req s).2.log, c.writesPolicy = true) ∧ ∃ r ∈ rules, r.roundTrip ≠ r) := by
  obtain ⟨ps, rules, sd, dlog, np, changed, hd₀, hout, hwp, hacls, hnps, hcase⟩ := requeue_pass_cases E hC hs hkey h1
  refine ⟨ps, rules, by rw [hd₀], ?_⟩
  have hrules : rules ≠ [] := desired_rules_ne_nil E (w := ⟨s, []⟩) (by rw [hd₀])
  -- from any store that keeps the records of `sd`, `desired` replays
  have hrep := (desired_replaysOk E hC acl).replay hd₀
  obtain ⟨hname, hnsp, -, hown, htypes, hps, hegress⟩ := preparedPolicy_eq hout
  rcases hcase with ⟨hnone, rfl, hw⟩ | ⟨t, ht, hacl₁, hnp₁, hrec, hwrote⟩
  · -- nothing written: the second pass prepares the same policy, and writes nothing
    obtain ⟨reads, hd₁, hreads⟩ := hrep ⟨sd, []⟩ (RecordsGrow.refl sd)
    have hpass₂ := pass_of_desired_run E hC ((congrFun hacls req).trans hs) hd₁
    rw [show preparedPolicy acl req sd ps rules = preparedPolicy acl req s ps rules by
      simp only [preparedPolicy, hnps], hout] at hpass₂
    have hquiet : ∀ w, (writeNetworkPolicy acl np false).run C w = (.ok requeue, w) := by
      simp [writeNetworkPolicy, hnone]
    have hs₁ : (pass E C req s).2.store = sd := by rw [hw]
    refine ⟨_, [], by rw [hs₁, hpass₂, hquiet, hd₁, List.append_nil], by rw [hs₁, hd₁]; exact hreads, by simp,
      iff_of_false (by simp) fun ⟨⟨c, hc, hwc⟩, _⟩ => ?_⟩
    rw [hw] at hc
    rcases List.mem_append.1 hc with hc | hc
    · rcases hc with _ | ⟨_, _ | ⟨_, ⟨⟩⟩⟩ <;> cases hwc
    · have hmem := List.mem_filter.2 ⟨hc, hwc⟩
      rw [hwp] at hmem
      cases hmem
  · -- the first pass wrote `np` and the ready status, which the second pass finds
    obtain ⟨reads₁, hd₃, hreads₁⟩ := hrep ⟨_, []⟩ (RecordsGrow.of_records_eq hrec)
    have hp2 := pass_of_written E hC hacl₁ hkey (readyACL_readyACL acl np.name)
      (by rw [hname]; exact policyName_ne_empty acl req) (by rw [desired_readyACL]; exact hd₃) hrules hnp₁ ht
      ⟨hnsp, hown, htypes⟩ ⟨hps, hegress⟩
    refine ⟨_, _, by rw [hp2, hd₃], by rw [hd₃]; exact hreads₁, ?_, ?_⟩
    · split <;> simp [Call.isRead]
    · rw [iff_true_intro hwrote, true_and]
      split <;> simp_all

/-- **The store a Requeue pass leaves is a fixed point.** With no failing call,
after a pass that returns `Requeue`, the next pass returns `Requeue` again and
leaves the store as it is; so does every pass after it. -/
theorem requeue_store_fixed (hC : ∀ i, C.fault i = none) (hs : s.acls req = some acl) (hkey : acl.key = req)
    (h1 : (pass E C req s).1 = .ok requeue) :
    (pass E C req (pass E C req s).2.store).1 = .ok requeue ∧
      (pass E C req (pass E C req s).2.store).2.store = (pass E C req s).2.store := by
  obtain ⟨_, _, -, _, _, hp2, -⟩ := second_pass E hC hs hkey h1
  rw [hp2]; exact ⟨rfl, rfl⟩

/-- The store holding only `ipACL`, whose rule has an empty `Ports`. -/
def ipStore : Store := Store.empty.putACL ipACL.key ipACL

/-- **Every later pass finds the store a Requeue pass leaves as it is.** With no
failing call, after a pass that returns `Requeue`, any number of further passes
leave the store unchanged. -/
theorem requeue_run_fixed (hC : ∀ i, C.fault i = none) (hs : s.acls req = some acl) (hkey : acl.key = req)
    (h1 : (pass E C req s).1 = .ok requeue) (n : Nat) :
    runEvents req (List.replicate n (.pass E C)) (pass E C req s).2.store = (pass E C req s).2.store := by
  induction n with
  | zero => rfl
  | succ n ih =>
    rw [List.replicate_succ]
    show runEvents req _ (pass E C req (pass E C req s).2.store).2.store = _
    rw [(requeue_store_fixed E hC hs hkey h1).2, ih]

/-- Over `ipACL`, three passes after the first leave its store as it is. -/
theorem requeue_run_fixed_ip :
    (pass Env.plain Cluster.reliable ipACL.key ipStore).1 = .ok requeue ∧
      runEvents ipACL.key (List.replicate 3 (.pass Env.plain Cluster.reliable))
          (pass Env.plain Cluster.reliable ipACL.key ipStore).2.store =
        (pass Env.plain Cluster.reliable ipACL.key ipStore).2.store :=
  ⟨rfl, requeue_run_fixed Env.plain (C := Cluster.reliable) (fun _ => rfl)
    (show ipStore.acls ipACL.key = some ipACL from rfl) rfl rfl 3⟩

/-- **A pass converges at once.** With no failing call, from a store whose ACL
under `req` is stored under its key and whose policies all have a creation time,
once `desired` computes a selector and rules, the pass returns `Requeue`, and the
next pass returns `Requeue` again and leaves the store as the first one left it. -/
theorem desired_converges (hC : ∀ i, C.fault i = none) (hs : s.acls req = some acl) (hkey : acl.key = req)
    (htimes : ∀ key P, s.networkPolicies key = some P → P.creationTimestamp ≠ none)
    (hd : ((desired E acl).run C ⟨s, []⟩).1 = .ok (ps, rules)) :
    (pass E C req s).1 = .ok requeue ∧ (pass E C req (pass E C req s).2.store).1 = .ok requeue ∧
      (pass E C req (pass E C req s).2.store).2.store = (pass E C req s).2.store :=
  have h1 := pass_requeues E hC hs hkey htimes hd
  ⟨h1, requeue_store_fixed E hC hs hkey h1⟩

/-- Over `ipACL`, `desired` succeeds, and two passes converge. -/
theorem desired_converges_ip :
    ∃ ps rules, ((desired Env.plain ipACL).run Cluster.reliable ⟨ipStore, []⟩).1 = .ok (ps, rules) ∧
      (pass Env.plain Cluster.reliable ipACL.key ipStore).1 = .ok requeue ∧
      (pass Env.plain Cluster.reliable ipACL.key (pass Env.plain Cluster.reliable ipACL.key ipStore).2.store).1 =
        .ok requeue ∧
      (pass Env.plain Cluster.reliable ipACL.key (pass Env.plain Cluster.reliable ipACL.key ipStore).2.store).2.store =
        (pass Env.plain Cluster.reliable ipACL.key ipStore).2.store :=
  ⟨_, _, rfl, desired_converges Env.plain (fun _ => rfl) (show ipStore.acls ipACL.key = some ipACL from rfl) rfl
    (fun _ _ h => by cases h) rfl⟩

/-- **What a pass without failures returns.** From a store whose ACL under `req` is
stored under its key and whose policies all have a creation time, either `desired`
computes a selector and rules and the pass returns `Requeue`, or `desired` stops and
the pass marks the ACL unready with the reason and returns `ctrl.Result{}` with no
error, scheduling no retry. -/
theorem pass_outcome (hC : ∀ i, C.fault i = none) (hs : s.acls req = some acl) (hkey : acl.key = req)
    (htimes : ∀ key P, s.networkPolicies key = some P → P.creationTimestamp ≠ none) :
    (∃ ps rules, ((desired E acl).run C ⟨s, []⟩).1 = .ok (ps, rules) ∧ (pass E C req s).1 = .ok requeue) ∨
      ∃ stop, ((desired E acl).run C ⟨s, []⟩).1 = .error stop ∧ (pass E C req s).1 = .ok {} ∧
        (pass E C req s).2.store.acls req =
          some { acl with status := { acl.status with ready := false, reason := stop.reason E } } := by
  rcases hd₀ : (desired E acl).run C ⟨s, []⟩ with ⟨stop | ⟨ps, rules⟩, ⟨sd, dlog⟩⟩
  · obtain ⟨-, hacls, -⟩ := desired_run_keeps E hd₀
    rw [pass_of_desired_stop E hC hs hd₀, unready_run_found hC (by rw [hacls, hkey]; exact hs)]
    refine .inr ⟨stop, rfl, rfl, ?_⟩
    simp [Store.putACL, hkey]
  · exact .inl ⟨ps, rules, rfl, pass_requeues E hC hs hkey htimes (by rw [hd₀])⟩

/-- Over `bareACL`, with no source, `desired` stops and the pass marks it unready. -/
theorem pass_outcome_bare :
    (∃ ps rules, ((desired Env.plain bareACL).run Cluster.reliable ⟨bareStore, []⟩).1 = .ok (ps, rules) ∧
        (pass Env.plain Cluster.reliable bareACL.key bareStore).1 = .ok requeue) ∨
      ∃ stop, ((desired Env.plain bareACL).run Cluster.reliable ⟨bareStore, []⟩).1 = .error stop ∧
        (pass Env.plain Cluster.reliable bareACL.key bareStore).1 = .ok {} ∧
        (pass Env.plain Cluster.reliable bareACL.key bareStore).2.store.acls bareACL.key =
          some { bareACL with status := { bareACL.status with ready := false, reason := stop.reason Env.plain } } :=
  pass_outcome Env.plain (fun _ => rfl) (show bareStore.acls bareACL.key = some bareACL from rfl) rfl
    (fun _ _ h => by cases h)

/-- **A Requeue pass leaves the policy its ACL asks for.** With no failing call,
after a pass that returns `Requeue`, the store holds under the name `fetch` gives
the ACL's policy a policy of the Egress type with an owner, whose pod selector is
the one `desired` computes from that store and whose rules are the ones it
computes, up to the round trip through the API server (an empty `Ports` or `To`
reads back `nil`, a port with no protocol reads back TCP). -/
theorem requeue_policy_desired (hC : ∀ i, C.fault i = none) (hs : s.acls req = some acl) (hkey : acl.key = req)
    (h1 : (pass E C req s).1 = .ok requeue) :
    ∃ ps rules P, ((desired E acl).run C ⟨(pass E C req s).2.store, []⟩).1 = .ok (ps, rules) ∧
      (pass E C req s).2.store.networkPolicies ⟨req.namespace, policyName acl req⟩ = some P ∧
      P.podSelector = ⟨ps⟩ ∧
      P.egress.toList.map NetworkPolicyEgressRule.roundTrip = rules.map NetworkPolicyEgressRule.roundTrip ∧
      P.policyTypes.toList = [.egress] ∧ P.ownerReferences.toList ≠ [] := by
  obtain ⟨ps, rules, sd, dlog, np, changed, hd₀, hout, -, -, hnps, hcase⟩ := requeue_pass_cases E hC hs hkey h1
  have hrep := (desired_replaysOk E hC acl).replay hd₀
  rcases hcase with ⟨hnone, rfl, hw⟩ | ⟨t, -, -, hnp₁, hrec, -⟩
  · -- nothing written: the stored policy already has the selector and the rules
    have hs₁ : (pass E C req s).2.store = sd := by rw [hw]
    obtain ⟨reads, hd₁, -⟩ := hrep ⟨sd, []⟩ (RecordsGrow.refl sd)
    obtain ⟨P, hP, hps, hegress, htypes, hown⟩ := preparedPolicy_unchanged hout hnone
    exact ⟨ps, rules, P, by rw [hs₁, hd₁], by rw [hs₁, hnps]; exact hP, hps, by simp [hegress], htypes, hown⟩
  · -- the round trip of the prepared policy is stored under its key
    obtain ⟨-, -, -, hown, htypes, hps, hegress⟩ := preparedPolicy_eq hout
    obtain ⟨reads, hd₃, -⟩ := hrep ⟨_, []⟩ (RecordsGrow.of_records_eq hrec)
    refine ⟨ps, rules, { np.roundTrip with creationTimestamp := t }, by rw [hd₃],
      by rw [← preparedPolicy_key hout hkey]; exact hnp₁, hps, ?_, ?_, ?_⟩
    · simp [NetworkPolicy.roundTrip, hegress, Function.comp_def]
    · simp [NetworkPolicy.roundTrip, htypes]
    · simpa [NetworkPolicy.roundTrip] using hown

/-- Over `ipACL`, the first pass returns `Requeue` and leaves its policy. -/
theorem requeue_policy_desired_ip :
    (pass Env.plain Cluster.reliable ipACL.key ipStore).1 = .ok requeue ∧
      ∃ ps rules P, ((desired Env.plain ipACL).run Cluster.reliable
          ⟨(pass Env.plain Cluster.reliable ipACL.key ipStore).2.store, []⟩).1 = .ok (ps, rules) ∧
        (pass Env.plain Cluster.reliable ipACL.key ipStore).2.store.networkPolicies
          ⟨ipACL.key.namespace, policyName ipACL ipACL.key⟩ = some P ∧
        P.podSelector = ⟨ps⟩ ∧
        P.egress.toList.map NetworkPolicyEgressRule.roundTrip = rules.map NetworkPolicyEgressRule.roundTrip ∧
        P.policyTypes.toList = [.egress] ∧ P.ownerReferences.toList ≠ [] :=
  ⟨rfl, requeue_policy_desired Env.plain (fun _ => rfl) (show ipStore.acls ipACL.key = some ipACL from rfl) rfl rfl⟩

/-- **When the second pass writes.** With no failing call, after a pass that
returns `Requeue`, the next pass issues a write exactly when the first wrote a
policy and one of the rules `desired` computes does not survive the round trip: it
has an empty `Ports` or `To`, or a port with no protocol. -/
theorem second_pass_writes_iff {ps : Labels} {rules : List NetworkPolicyEgressRule} (hC : ∀ i, C.fault i = none)
    (hs : s.acls req = some acl) (hkey : acl.key = req) (h1 : (pass E C req s).1 = .ok requeue)
    (hd : ((desired E acl).run C ⟨s, []⟩).1 = .ok (ps, rules)) :
    (∃ c ∈ (pass E C req (pass E C req s).2.store).2.log, c.isRead = false) ↔
      (∃ c ∈ (pass E C req s).2.log, c.writesPolicy = true) ∧ ∃ r ∈ rules, r.roundTrip ≠ r := by
  obtain ⟨ps', rules', hd', key, extra, hp2, hreads, hextra, hiff⟩ := second_pass E hC hs hkey h1
  obtain rfl : rules' = rules := by rw [hd] at hd'; cases hd'; rfl
  rw [hp2, ← hiff]
  constructor
  · rintro ⟨c, hc, hcr⟩
    rcases List.mem_append.1 hc with hc | hc
    · rcases List.mem_append.1 hc with hc | hc
      · simp at hc; rcases hc with rfl | rfl <;> cases hcr
      · rw [hreads c hc] at hcr; cases hcr
    · exact List.ne_nil_of_mem hc
  · intro h
    obtain ⟨c, hc⟩ := List.exists_mem_of_ne_nil extra h
    exact ⟨c, List.mem_append_right _ hc, hextra c hc⟩

/-- Over `ipACL`, whose rule has an empty `Ports`, the store is fixed after the first
pass, yet the second pass writes. -/
theorem second_pass_writes_iff_ip :
    (pass Env.plain Cluster.reliable ipACL.key ipStore).1 = .ok requeue ∧
      ∃ ps rules, ((desired Env.plain ipACL).run Cluster.reliable ⟨ipStore, []⟩).1 = .ok (ps, rules) ∧
      ((∃ c ∈ (pass Env.plain Cluster.reliable ipACL.key
          (pass Env.plain Cluster.reliable ipACL.key ipStore).2.store).2.log, c.isRead = false) ↔
        (∃ c ∈ (pass Env.plain Cluster.reliable ipACL.key ipStore).2.log, c.writesPolicy = true) ∧
          ∃ r ∈ rules, r.roundTrip ≠ r) :=
  ⟨rfl, _, _, rfl, second_pass_writes_iff Env.plain (fun _ => rfl) (show ipStore.acls ipACL.key = some ipACL from rfl)
    rfl rfl rfl⟩

/-- **A second pass over a settled ACL makes only its two reads.** Let the ACL under
`req` be stored under its own key, with destinations that all settle (no address
record, and rules the API server hands back as written). If a pass
without failures returns `Requeue`, the next pass without failures returns
`Requeue` too, leaves the store as it is and reads only the ACL and the policy. -/
theorem settled_second_pass_quiet (hC : ∀ i, C.fault i = none) (hs : s.acls req = some acl)
    (hkey : acl.key = req) (hsettles : ∀ d ∈ acl.spec.destinations, d.Settles)
    (h1 : (pass E C req s).1 = .ok requeue) :
    (pass E C req (pass E C req s).2.store).1 = .ok requeue ∧
      (pass E C req (pass E C req s).2.store).2.store = (pass E C req s).2.store ∧
      ∃ key, (pass E C req (pass E C req s).2.store).2.log = [.getACL req, .getNetworkPolicy key] := by
  obtain ⟨res, hdes, hres⟩ := desired_settles E hsettles
  obtain ⟨ps, rules, hd, key, extra, hp2, -, -, hiff⟩ := second_pass E hC hs hkey h1
  rw [hdes] at hd
  obtain ⟨-, hst⟩ := hres ps rules hd
  -- every rule survives the round trip, so the second pass writes nothing
  have hextra : extra = [] := by
    by_contra h
    obtain ⟨r, hr, hbad⟩ := (hiff.1 h).2
    exact hbad (hst r hr)
  rw [hp2, hdes, hextra]
  exact ⟨rfl, rfl, key, rfl⟩

/-- `ipACL` with the port TCP/443 on its address, a destination that settles. -/
def portACL : ACL :=
  { ipACL with spec := { ipACL.spec with destinations := [{ externalIP := some { ip := "10.0.0.5", ports := [⟨"TCP", 443⟩] } }] } }

/-- The store holding only `portACL`. -/
def portStore : Store := Store.empty.putACL portACL.key portACL

/-- Two passes over `portACL`: the hypotheses hold together. -/
theorem settled_second_pass_quiet_port :
    (pass Env.plain Cluster.reliable portACL.key portStore).1 = .ok requeue ∧
      (pass Env.plain Cluster.reliable portACL.key (pass Env.plain Cluster.reliable portACL.key portStore).2.store).1 =
        .ok requeue ∧
      (pass Env.plain Cluster.reliable portACL.key
          (pass Env.plain Cluster.reliable portACL.key portStore).2.store).2.store =
        (pass Env.plain Cluster.reliable portACL.key portStore).2.store ∧
      ∃ key, (pass Env.plain Cluster.reliable portACL.key
          (pass Env.plain Cluster.reliable portACL.key portStore).2.store).2.log =
        [.getACL portACL.key, .getNetworkPolicy key] :=
  ⟨rfl, settled_second_pass_quiet Env.plain (fun _ => rfl)
    (show portStore.acls portACL.key = some portACL from rfl) rfl
    (by simp [portACL, ACLSpecDestination.Settles]) rfl⟩

end AclOperator
