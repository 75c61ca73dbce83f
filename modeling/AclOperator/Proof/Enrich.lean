import AclOperator.Spec.Egress

/-!
# `fillPodSelectorByCIDR` only adds peers

`hostService` says, in the words of the design, which peers the enrichment is for:
an IPBlock peer with a host CIDR (`/32` or `/128`) whose address the cache maps to
a Service. For each, in order, the rule gets the peer of that Service's pods, in
the namespace labelled with its name.

* `newDestinations_eq`: the inner loop computes exactly those peers.
* `fillPodSelectorByCIDR_appends`: when the cache answers without error, every
  rule keeps its place and its ports, and its `To` becomes the old one followed by
  those peers. No peer is removed, changed or moved.
-/

namespace AclOperator

variable {getByIP : String → Except Error (Option Service)}

/-- The Service the cache maps a peer's address to, when the peer is an IPBlock
with a host CIDR; none for any other peer, for an address the cache does not know,
and when the cache fails. -/
def hostService (getByIP : String → Except Error (Option Service)) (peer : NetworkPolicyPeer) : Option Service :=
  match peer.ipBlock with
  | some ipBlock =>
    if hasSuffix ipBlock.cidr "/32" || hasSuffix ipBlock.cidr "/128" then
      match getByIP (beforeSlash ipBlock.cidr) with
      | .ok svc => svc
      | .error _ => none
    else none
  | none => none

/-- The loop `toLoop`, when the cache does not fail, adds for each peer the cache
maps to a Service the peer `{PodSelector: svc.Spec.Selector, NamespaceSelector:
{name: svc.Namespace}}`, in order. -/
theorem newDestinations_eq {peers nd : List NetworkPolicyPeer}
    (h : newDestinations getByIP peers = .ok nd) :
    nd = peers.filterMap fun peer => (hostService getByIP peer).map fun svc =>
      { podSelector := some ⟨svc.selector⟩, namespaceSelector := some ⟨Labels.single "name" svc.namespace⟩ } := by
  induction peers generalizing nd with
  | nil => cases h; rfl
  | cons peer peers ih =>
    simp only [List.filterMap_cons, hostService] at ih ⊢
    simp only [newDestinations] at h
    rcases hb : peer.ipBlock with _ | ipBlock
    · simp only [hb] at h ⊢; exact ih h
    simp only [hb] at h ⊢
    by_cases hs : (hasSuffix ipBlock.cidr "/32" || hasSuffix ipBlock.cidr "/128") = true
    · simp only [hs, if_true] at h ⊢
      rcases hg : getByIP (beforeSlash ipBlock.cidr) with err | _ | svc <;> simp only [hg] at h ⊢
      · cases h
      · exact ih h
      · cases hn : newDestinations getByIP peers with
        | error err => simp [hn] at h; cases h
        | ok rest => simp only [hn, Except.map] at h; cases h; rw [ih hn]; rfl
    · simp only [hs, Bool.false_eq_true, if_false] at h ⊢; exact ih h

/-- Rule by rule, `fillPodSelectorByCIDR` appends to `To` the peers its inner loop
found. -/
theorem fillPodSelectorByCIDR_forall₂ {rules rules' : List NetworkPolicyEgressRule}
    (h : fillPodSelectorByCIDR getByIP rules = .ok rules') :
    List.Forall₂ (fun rule rule' => ∃ nd, newDestinations getByIP rule.«to».toList = .ok nd ∧
      rule' = { rule with «to» := rule.«to».append nd }) rules rules' := by
  induction rules generalizing rules' with
  | nil => cases h; exact .nil
  | cons rule rules ih =>
    simp only [fillPodSelectorByCIDR] at h
    cases hn : newDestinations getByIP rule.«to».toList with
    | error err => simp only [hn] at h; cases h
    | ok nd =>
      cases hf : fillPodSelectorByCIDR getByIP rules with
      | error err => simp [hn, hf, Except.map] at h
      | ok rest =>
        simp only [hn, hf, Except.map] at h
        cases h
        exact .cons ⟨nd, hn, rfl⟩ (ih hf)

/-- **`fillPodSelectorByCIDR` only appends.** When it returns `nil`, each rule keeps
its place and its `Ports`, and its `To` is the previous `To` followed by one peer
`{PodSelector: svc.Spec.Selector, NamespaceSelector: {name: svc.Namespace}}` per
host-CIDR IPBlock peer whose address the cache maps to `svc`. -/
theorem fillPodSelectorByCIDR_appends {rules rules' : List NetworkPolicyEgressRule}
    (h : fillPodSelectorByCIDR getByIP rules = .ok rules') :
    rules' = rules.map fun rule =>
      { rule with «to» := rule.«to».append (rule.«to».toList.filterMap fun peer =>
          (hostService getByIP peer).map fun svc =>
            { podSelector := some ⟨svc.selector⟩, namespaceSelector := some ⟨Labels.single "name" svc.namespace⟩ }) } := by
  have h₂ := fillPodSelectorByCIDR_forall₂ h
  clear h
  induction h₂ with
  | nil => rfl
  | cons hrule _ ih =>
    obtain ⟨nd, hn, rfl⟩ := hrule
    rw [List.map_cons, ih, newDestinations_eq hn]

/-- The Service `data/db`, whose pods carry `role: db`. -/
def dbService : Service := ⟨"data", Labels.single "role" "db"⟩

/-- A cache that knows `10.0.0.9` as `dbService`. -/
def dbCache (ip : String) : Except Error (Option Service) :=
  if ip = "10.0.0.9" then .ok (some dbService) else .ok none

theorem fillPodSelectorByCIDR_appends_db :
    let rules := egressRulesForExternalIP { ip := "10.0.0.9" }
    let dbPeer : NetworkPolicyPeer :=
      { podSelector := some ⟨Labels.single "role" "db"⟩, namespaceSelector := some ⟨Labels.single "name" "data"⟩ }
    fillPodSelectorByCIDR dbCache rules = .ok [{ ports := .mk [], «to» := .mk [{ ipBlock := some ⟨"10.0.0.9/32"⟩ }, dbPeer] }] ∧
      ([{ ports := .mk [], «to» := .mk [{ ipBlock := some ⟨"10.0.0.9/32"⟩ }, dbPeer] }] : List NetworkPolicyEgressRule) =
        rules.map fun rule =>
          { rule with «to» := rule.«to».append (rule.«to».toList.filterMap fun peer =>
              (hostService dbCache peer).map fun svc =>
                { podSelector := some ⟨svc.selector⟩, namespaceSelector := some ⟨Labels.single "name" svc.namespace⟩ }) } :=
  ⟨rfl, fillPodSelectorByCIDR_appends rfl⟩

end AclOperator
