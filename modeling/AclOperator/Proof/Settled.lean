import AclOperator.Proof.Status
import AclOperator.Proof.Enrich

/-!
# Rules that survive the round trip, and the policy a pass computes

A pass can write an unchanged ACL's policy again: a rule whose `Ports` or `To` is
written empty is read back `nil`, and a port written with no protocol is read back
TCP. These lemmas say which rules survive the round
trip and which destinations only give such rules, and compute the policy a pass
prepares from the one it reads.

* `roundTrip_egress_eq_iff`: the stored rules are the written ones exactly when
  every rule survives the round trip.
* `desired_settles`: when every destination *settles* (it needs no address record,
  and its rules come back as written: an app pool, or an address with at least one
  port, each with a protocol), `desired` makes no call, and its rules are not empty and survive.
* `setMeta_fst_eq`, `setSpec_fst`, `fetch_run`: `setMeta`, `setSpec` and `fetch` in
  closed form.
-/

namespace AclOperator

open Prog

variable {C : Cluster} {req : NamespacedName} {acl : ACL} {w : World} {s : Store}


/-! ## What survives the round trip -/

/-- Appending keeps a slice that survives the round trip surviving. -/
theorem Slice.omitEmpty_append {α : Type} {s : Slice α} (h : s.omitEmpty = s) (xs : List α) :
    (s.append xs).omitEmpty = s.append xs := by
  rcases s with _ | _ | ⟨x, l⟩ <;> rcases xs with _ | ⟨y, ys⟩ <;> first | rfl | cases h

/-- A rule that survives the round trip still does with more peers in `To`. -/
theorem roundTrip_append_to {rule : NetworkPolicyEgressRule} (h : rule.roundTrip = rule)
    (nd : List NetworkPolicyPeer) :
    ({ rule with «to» := rule.«to».append nd } : NetworkPolicyEgressRule).roundTrip =
      { rule with «to» := rule.«to».append nd } := by
  have hp : (rule.ports.map NetworkPolicyPort.setDefaults).omitEmpty = rule.ports :=
    congrArg NetworkPolicyEgressRule.ports h
  have ht : rule.«to».omitEmpty = rule.«to» := congrArg NetworkPolicyEgressRule.«to» h
  simp only [NetworkPolicyEgressRule.roundTrip, hp, Slice.omitEmpty_append ht]

theorem fillPodSelectorByCIDR_roundTrip {g : String → Except Error (Option Service)}
    {rules rules' : List NetworkPolicyEgressRule} (hr : ∀ r ∈ rules, r.roundTrip = r)
    (h : fillPodSelectorByCIDR g rules = .ok rules') : ∀ r ∈ rules', r.roundTrip = r := by
  have h₂ := fillPodSelectorByCIDR_forall₂ h
  clear h
  induction h₂ with
  | nil => intro r hr; cases hr
  | cons hrule _ ih =>
    obtain ⟨nd, -, rfl⟩ := hrule
    intro r hr'
    rcases List.mem_cons.1 hr' with rfl | hr'
    · exact roundTrip_append_to (hr _ (.head _)) nd
    · exact ih (fun r h => hr r (.tail _ h)) r hr'

theorem ports_omitEmpty {p : List ProtoPort} (h : p ≠ []) : (ports p).omitEmpty = ports p := by
  obtain ⟨q, qs, rfl⟩ := List.exists_cons_of_ne_nil h; rfl

/-- Ports that each name a protocol keep it through the API server's defaults. -/
theorem ports_setDefaults {p : List ProtoPort} (h : ∀ q ∈ p, q.protocol ≠ "") :
    (ports p).map NetworkPolicyPort.setDefaults = ports p := by
  simp only [ports, Slice.map, List.map_map, Slice.mk.injEq]
  exact List.map_congr_left fun q hq => by simp [NetworkPolicyPort.setDefaults, h q hq]

@[simp] theorem NetworkPolicyPort.setDefaults_setDefaults (p : NetworkPolicyPort) :
    p.setDefaults.setDefaults = p.setDefaults := rfl

@[simp] theorem Slice.omitEmpty_omitEmpty {α : Type} (s : Slice α) : s.omitEmpty.omitEmpty = s.omitEmpty := by
  rcases s with _ | _ | ⟨x, xs⟩ <;> rfl

theorem Slice.map_omitEmpty {α β : Type} (f : α → β) (s : Slice α) : s.omitEmpty.map f = (s.map f).omitEmpty := by
  rcases s with _ | _ | ⟨x, xs⟩ <;> rfl

@[simp] theorem Slice.map_map {α β γ : Type} (f : α → β) (g : β → γ) (s : Slice α) :
    (s.map f).map g = s.map (g ∘ f) := by
  cases s <;> simp [Slice.map]

/-- A rule read back survives a second round trip. -/
@[simp] theorem NetworkPolicyEgressRule.roundTrip_roundTrip (r : NetworkPolicyEgressRule) :
    r.roundTrip.roundTrip = r.roundTrip := by
  simp [NetworkPolicyEgressRule.roundTrip, Slice.map_omitEmpty, Function.comp_def]

/-- Written rules come back as they were exactly when each of them survives the
round trip. -/
theorem roundTrip_egress_eq_iff {rules : List NetworkPolicyEgressRule} (hrules : rules ≠ []) :
    ((Slice.mk rules).map NetworkPolicyEgressRule.roundTrip).omitEmpty = .mk rules ↔
      ∀ r ∈ rules, r.roundTrip = r := by
  obtain ⟨r, rs, rfl⟩ := List.exists_cons_of_ne_nil hrules
  change Slice.mk _ = _ ↔ _
  rw [Slice.mk.injEq]
  simpa using List.map_eq_map_iff (f := NetworkPolicyEgressRule.roundTrip) (g := id) (l := r :: rs)

/-! ## Destinations that need no record -/

/-- A destination whose rules need no address record and come back from the API
server as written: no app, and, unless it names a pool, no DNS name, at least one
port on its address, each with a protocol, and no rpaas instance without an
address. -/
def ACLSpecDestination.Settles (d : ACLSpecDestination) : Prop :=
  d.tsuruApp = "" ∧ (d.tsuruAppPool = "" → d.externalDNS = none ∧
    (∀ ip, d.externalIP = some ip → ip.ports ≠ [] ∧ ∀ p ∈ ip.ports, p.protocol ≠ "") ∧
    (d.externalIP = none → d.rpaasInstance = none))

variable (E : Env)

theorem egressRulesForDestination_settles {d : ACLSpecDestination} (hd : d.Settles) :
    ∃ rules, egressRulesForDestination E d = .pure (.ok rules) ∧ ∀ r ∈ rules, r.roundTrip = r := by
  obtain ⟨happ, hrest⟩ := hd
  by_cases hpool : d.tsuruAppPool = ""
  · obtain ⟨hdns, hports, hri⟩ := hrest hpool
    cases hip : d.externalIP with
    | some ip =>
      refine ⟨_, by simp [egressRulesForDestination, happ, hpool, hdns, hip]; rfl, ?_⟩
      simp only [egressRulesForExternalIP, List.mem_singleton, forall_eq]
      simp only [NetworkPolicyEgressRule.roundTrip, ports_setDefaults (hports ip hip).2,
        ports_omitEmpty (hports ip hip).1]; rfl
    | none => exact ⟨[], by simp [egressRulesForDestination, happ, hpool, hdns, hip, hri hip], by simp⟩
  · refine ⟨_, by simp [egressRulesForDestination, happ, hpool]; rfl, ?_⟩
    simp [egressRulesForTsuruAppPool]; rfl

theorem egressRulesForDestinations_settles {ds : List ACLSpecDestination} (h : ∀ d ∈ ds, d.Settles) :
    ∃ rules, egressRulesForDestinations E ds = .pure (.ok rules) ∧ ∀ r ∈ rules, r.roundTrip = r := by
  induction ds with
  | nil => exact ⟨[], rfl, by simp⟩
  | cons d ds ih =>
    obtain ⟨rs, hrs, hst⟩ := egressRulesForDestination_settles E (h d (.head _))
    obtain ⟨rest, hrest, hst'⟩ := ih fun d' hd' => h d' (.tail _ hd')
    refine ⟨rs ++ rest, by simp only [egressRulesForDestinations, bind_eq, pure_eq, hrs, hrest, pure_bind], ?_⟩
    intro r hr
    rcases List.mem_append.1 hr with hr | hr
    exacts [hst r hr, hst' r hr]

/-- **For an ACL whose destinations all settle, `desired` makes no call**, and the
rules it returns are not empty and come back from the API server as written. -/
theorem desired_settles {acl : ACL} (h : ∀ d ∈ acl.spec.destinations, d.Settles) :
    ∃ res, desired E acl = .pure res ∧
      ∀ podSelector rules, res = .ok (podSelector, rules) → rules ≠ [] ∧ ∀ r ∈ rules, r.roundTrip = r := by
  obtain ⟨rules, hrules, hst⟩ := egressRulesForDestinations_settles E h
  unfold desired
  split
  · exact ⟨_, rfl, fun _ _ h => by cases h⟩
  · simp only [bind_eq, pure_eq, pure_bind, hrules]
    split
    · exact ⟨_, rfl, fun _ _ h => by cases h⟩
    · rename_i rules' hfill
      split
      · exact ⟨_, rfl, fun _ _ h => by cases h⟩
      · refine ⟨_, rfl, fun _ _ h => ?_⟩
        cases h
        exact ⟨‹_›, fillPodSelectorByCIDR_roundTrip hst hfill⟩

/-! ## The policy a pass computes -/

theorem Slice.eq_mk_of_toList {α : Type} {s : Slice α} {x : α} {xs : List α} (h : s.toList = x :: xs) :
    s = .mk (x :: xs) := by
  cases s
  · cases h
  · rw [← h]; rfl

/-- The policy `setMeta` prepares: its name and namespace, an owner if it had none,
and the Egress type. -/
theorem setMeta_fst_eq (acl : ACL) (n : String) (np : NetworkPolicy) :
    (setMeta acl n np).1 =
      { np with «namespace» := acl.namespace, name := n, policyTypes := .mk [.egress],
                ownerReferences :=
                  if np.ownerReferences.toList.length = 0 then .mk [newControllerRef acl] else np.ownerReferences } := by
  unfold setMeta
  by_cases ho : np.ownerReferences.toList.length = 0 <;> simp only [ho, if_true, if_false] <;> split <;>
    first | rfl | (rename_i h; simp only [Slice.eq_mk_of_toList h])

/-- The policy `setSpec` prepares: the desired selector and rules. -/
theorem setSpec_fst (np : NetworkPolicy) (changed : Bool) (ps : Labels) (rules : List NetworkPolicyEgressRule) :
    (setSpec np changed ps rules).1 = { np with podSelector := ⟨ps⟩, egress := .mk rules } := by
  unfold setSpec
  by_cases h1 : np.podSelector.matchLabels = ps <;> by_cases h2 : np.egress = .mk rules <;>
    simp only [h1, h2, ne_eq, not_true_eq_false, not_false_eq_true, if_true, if_false]
  all_goals obtain ⟨_, _, _, _, ⟨_⟩, _, _⟩ := np; simp_all

/-- `setMeta` leaves alone a policy that has its name and namespace, an owner and
the Egress type. -/
theorem setMeta_of_meta {n : String} {np : NetworkPolicy} (hn : np.name = n) (hns : np.namespace = acl.namespace)
    (ho : np.ownerReferences.toList ≠ []) (ht : np.policyTypes.toList = [.egress]) :
    setMeta acl n np = (np, false) := by
  obtain ⟨name, ns, owners, t, ps, types, egress⟩ := np
  subst hn hns
  have ho' : owners.toList.length ≠ 0 := by simpa using ho
  simp only [setMeta, ho', if_false]
  split
  · rfl
  · simp_all

/-- `setSpec` leaves alone a policy that has the selector and the rules. -/
theorem setSpec_of_eq (np : NetworkPolicy) {changed : Bool} {ps : Labels} {rules : List NetworkPolicyEgressRule}
    (hps : np.podSelector = ⟨ps⟩) (hrules : np.egress = .mk rules) : setSpec np changed ps rules = (np, changed) := by
  simp [setSpec, hps, hrules]

/-- `setSpec` of a policy with the selector and other rules writes the rules. -/
theorem setSpec_of_ne (np : NetworkPolicy) {changed : Bool} {ps : Labels} {rules : List NetworkPolicyEgressRule}
    (hps : np.podSelector = ⟨ps⟩) (hrules : np.egress ≠ .mk rules) :
    setSpec np changed ps rules = ({ np with egress := .mk rules }, true) := by
  simp [setSpec, hps, hrules]

/-- `setSpec` reports no change only of an unchanged policy with the selector and
the rules. -/
theorem setSpec_snd_false {np : NetworkPolicy} {changed : Bool} {ps : Labels} {rules : List NetworkPolicyEgressRule}
    (h : (setSpec np changed ps rules).2 = false) : changed = false ∧ np.podSelector = ⟨ps⟩ ∧ np.egress = .mk rules := by
  obtain ⟨name, ns, owners, t, ⟨ml⟩, types, egress⟩ := np
  unfold setSpec at h
  by_cases h1 : ml = ps <;> by_cases h2 : egress = .mk rules <;> simp_all

/-- `setMeta` gives every policy an owner. -/
theorem setMeta_owned (acl : ACL) (n : String) (np : NetworkPolicy) :
    (setMeta acl n np).1.ownerReferences.toList ≠ [] := by
  rw [setMeta_fst_eq]
  dsimp only
  split
  · simp
  · rename_i h; exact fun h' => h (by simp [h'])

/-- `setMeta` reports no change only of a policy with an owner and the Egress type. -/
theorem setMeta_snd_false {n : String} {np : NetworkPolicy} (h : (setMeta acl n np).2 = false) :
    np.ownerReferences.toList ≠ [] ∧ np.policyTypes.toList = [.egress] := by
  obtain ⟨name, ns, owners, t, ps, types, egress⟩ := np
  unfold setMeta at h
  by_cases ho : owners.toList.length = 0 <;> simp only [ho, if_true, if_false] at h <;> split at h <;> simp_all

/-- The zero ACL has no source: its pass stops at once. -/
theorem desired_default (E : Env) : desired E default = .pure (.error .noSelector) := rfl

/-- The name `fetch` gives the policy of `acl` for the request `req`. -/
def policyName (acl : ACL) (req : NamespacedName) : String :=
  if acl.status.networkPolicy = "" then "acl-" ++ req.name else acl.status.networkPolicy

/-- `fetch` of a stored ACL, with no failing call: it reads the ACL and its policy
(the zero value when there is none) and prepares the policy with `setMeta`. -/
theorem fetch_run (hC : ∀ i, C.fault i = none) (hs : w.store.acls req = some acl) :
    (fetch req).run C w =
      (.ok (acl, (setMeta acl (policyName acl req)
          ((w.store.networkPolicies ⟨req.namespace, policyName acl req⟩).getD default)).1,
          (setMeta acl (policyName acl req) ((w.store.networkPolicies ⟨req.namespace, policyName acl req⟩).getD default)).2),
        ⟨w.store, w.log ++ [.getACL req] ++ [.getNetworkPolicy ⟨req.namespace, policyName acl req⟩]⟩) := by
  simp only [fetch, bind_eq, run_send_bind, World.issue, hC, Store.answer, hs, orZero, pure_eq, pure_bind]
  cases hp : w.store.networkPolicies ⟨req.namespace, policyName acl req⟩ <;>
    simp only [policyName] at hp <;> simp [hp, policyName, Error.isNotFound, Error.notFound, Req.call]


end AclOperator
