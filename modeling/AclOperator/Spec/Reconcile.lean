import AclOperator.Spec.Egress
import AclOperator.Spec.Store

/-!
# `ACLReconciler.Reconcile`

One pass of the ACL controller as a `Prog`, split where the source's control flow
splits. `fetch` reads the ACL and its NetworkPolicy; `desired` computes the pod
selector and the egress rules, creating and eagerly resolving address records on
the way, or says why the pass stops (`Stop`); `writeNetworkPolicy` creates or
updates the policy and marks the ACL ready. A stopped pass marks the ACL unready
instead (`unready`). A run alternates passes with any change by others.
-/

namespace AclOperator

/-- What the controller consults besides the API server. -/
structure Env where
  /-- The SHA-256 sum (`crypto/sha256`). -/
  sum : String → Sum256
  /-- `json.Marshal` of a destination, for the unready reason. -/
  marshal : ACLSpecDestination → String
  /-- `serviceCache.GetByIP`. -/
  getByIP : String → Except Error (Option Service)

variable (E : Env)

/-! ## Address records -/

/-- The shared body of `ensureDNSEntry`, `ensureTsuruAppAddress` and
`ensureRpaasInstanceAddress`: get the record `resourceName`; if it is not found,
create it with `spec`, run its sub-reconciler at once and get it again. -/
def ensure (k : Kind) (resourceName : String) (spec : k.Spec) : Prog (Except Error (Record k)) := do
  match ← send (.getRecord k resourceName) with
  | .ok existing => return .ok existing
  | .error err =>
    if !err.isNotFound then return .error err
    match ← send (.createRecord k { name := resourceName, spec }) with
    | .error err => return .error err
    | .ok () =>
      match ← send (.reconcileRecord k resourceName) with
      | .error err => return .error err
      | .ok () => send (.getRecord k resourceName)

/-- `ensureDNSEntry`. -/
def ensureDNSEntry (host : String) : Prog (Except Error (Record .dnsEntry)) :=
  ensure .dnsEntry (validResourceName E.sum host) ({ host } : ACLDNSEntrySpec)

/-- `ensureTsuruAppAddress`: unlike its siblings, it writes the resource name, not
the app name, into the spec. -/
def ensureTsuruAppAddress (appName : String) : Prog (Except Error (Record .tsuruAppAddress)) :=
  ensure .tsuruAppAddress (validResourceName E.sum appName)
    ({ name := validResourceName E.sum appName } : TsuruAppAddressSpec)

/-- `ensureRpaasInstanceAddress`. -/
def ensureRpaasInstanceAddress (rpaasInstance : ACLSpecRpaasInstance) :
    Prog (Except Error (Record .rpaasInstanceAddress)) :=
  ensure .rpaasInstanceAddress
    (validResourceName E.sum (rpaasInstance.serviceName ++ "-" ++ rpaasInstance.instance))
    ({ serviceName := rpaasInstance.serviceName, «instance» := rpaasInstance.instance } :
      RpaasInstanceAddressSpec)

/-! ## Egress rules of a destination -/

/-- `egressRulesForTsuruApp`. -/
def egressRulesForTsuruApp (tsuruApp : String) : Prog (Except Error (List NetworkPolicyEgressRule)) := do
  match ← ensureTsuruAppAddress E tsuruApp with
  | .error err => return .error err
  | .ok existing =>
    return .ok (podSelectorRule (podSelectorForTsuruApp tsuruApp) ::
      egressRulesForResourceAddressStatus existing.status)

/-- `egressRulesForRpaasInstance`. -/
def egressRulesForRpaasInstance (rpaasInstance : ACLSpecRpaasInstance) :
    Prog (Except Error (List NetworkPolicyEgressRule)) := do
  match ← ensureRpaasInstanceAddress E rpaasInstance with
  | .error err => return .error err
  | .ok existing =>
    return .ok (podSelectorRule (podSelectorForRpasInstance rpaasInstance) ::
      egressRulesForResourceAddressStatus existing.status)

/-- `egressRulesForExternalDNS`: nothing for a wildcard, nor for an entry not yet
ready. -/
def egressRulesForExternalDNS (externalDNS : ACLSpecExternalDNS) :
    Prog (Except Error (List NetworkPolicyEgressRule)) := do
  if isWildCard externalDNS.name then return .ok []
  match ← ensureDNSEntry E externalDNS.name with
  | .error err => return .error err
  | .ok existing =>
    if !existing.status.ready then return .ok []
    return .ok [dnsRule existing.status externalDNS.ports]

/-- `egressRulesForDestination`: by the first field that is set. -/
def egressRulesForDestination (destination : ACLSpecDestination) :
    Prog (Except Error (List NetworkPolicyEgressRule)) :=
  if destination.tsuruApp ≠ "" then egressRulesForTsuruApp E destination.tsuruApp
  else if destination.tsuruAppPool ≠ "" then
    pure (.ok (egressRulesForTsuruAppPool destination.tsuruAppPool))
  else
    match destination.externalDNS, destination.externalIP, destination.rpaasInstance with
    | some externalDNS, _, _ => egressRulesForExternalDNS E externalDNS
    | none, some externalIP, _ => pure (.ok (egressRulesForExternalIP externalIP))
    | none, none, some rpaasInstance => egressRulesForRpaasInstance E rpaasInstance
    | none, none, none => pure (.ok [])

/-- The destination loop of `Reconcile`: the rules of every destination in order
(`newEgressRules`), or the first destination that fails, with its error. -/
def egressRulesForDestinations :
    List ACLSpecDestination → Prog (Except (ACLSpecDestination × Error) (List NetworkPolicyEgressRule))
  | [] => pure (.ok [])
  | destination :: destinations => do
    match ← egressRulesForDestination E destination with
    | .error err => return .error (destination, err)
    | .ok egressRules =>
      match ← egressRulesForDestinations destinations with
      | .error failed => return .error failed
      | .ok rest => return .ok (egressRules ++ rest)

/-! ## One pass -/

/-- Why a pass stops before its write step. -/
inductive Stop where
  | noSelector
  | destination (destination : ACLSpecDestination) (err : Error)
  | enrich (err : Error)
  | noEgress

/-- The reason a stopped pass writes into the ACL status. -/
def Stop.reason : Stop → String
  | .noSelector => "No podSelector generated by spec.source"
  | .destination d err =>
    "could not generate egress rule for destination " ++ E.marshal d ++ ", err: " ++ err.message
  | .enrich err => "could not generate egress rule based on kubernetes selector, err: " ++ err.message
  | .noEgress => "No egress generated by spec.destinations"

/-- The desired pod selector and egress rules of an ACL (lines 114–149), or why
there are none. -/
def desired (acl : ACL) : Prog (Except Stop (Labels × List NetworkPolicyEgressRule)) := do
  match podSelectorForSource acl.spec.source with
  | none => return .error .noSelector
  | some podSelector =>
    match ← egressRulesForDestinations E acl.spec.destinations with
    | .error (destination, err) => return .error (.destination destination err)
    | .ok newEgressRules =>
      match fillPodSelectorByCIDR E.getByIP newEgressRules with
      | .error err => return .error (.enrich err)
      | .ok newEgressRules =>
        if newEgressRules = [] then return .error .noEgress
        return .ok (podSelector, newEgressRules)

/-- `Get` as `Reconcile` treats it: NotFound leaves the zero value. -/
def orZero [Inhabited α] : Except Error α → Except Error α
  | .error err => if err.isNotFound then .ok default else .error err
  | .ok a => .ok a

/-- `metav1.NewControllerRef` for an ACL. -/
def newControllerRef (acl : ACL) : OwnerReference := { name := acl.name, uid := acl.uid, controller := true }

/-- The first edits of `Reconcile` to the fetched policy (lines 94–112): namespace
and name, an owner if it has none, the policy types `[Egress]`; and whether this
changed it (`networkPolicyHasChanges`). -/
def setMeta (acl : ACL) (networkPolicyName : String) (np : NetworkPolicy) : NetworkPolicy × Bool :=
  let np := { np with «namespace» := acl.namespace, name := networkPolicyName }
  let (np, changed) :=
    if np.ownerReferences.toList.length = 0 then ({ np with ownerReferences := .mk [newControllerRef acl] }, true)
    else (np, false)
  match np.policyTypes.toList with
  | [.egress] => (np, changed)
  | _ => ({ np with policyTypes := .mk [.egress] }, true)

/-- The edits of `Reconcile` from the desired selector and rules (lines 120–154),
each compared by `reflect.DeepEqual`. -/
def setSpec (np : NetworkPolicy) (changed : Bool) (podSelector : Labels)
    (newEgressRules : List NetworkPolicyEgressRule) : NetworkPolicy × Bool :=
  let (np, changed) :=
    if np.podSelector.matchLabels ≠ podSelector then ({ np with podSelector := ⟨podSelector⟩ }, true)
    else (np, changed)
  if np.egress ≠ .mk newEgressRules then ({ np with egress := .mk newEgressRules }, true)
  else (np, changed)

/-- `requeueAfter`, ten minutes. -/
def requeueAfter : Nat := 600

/-- The result of a pass that reaches the end of `Reconcile`. -/
def requeue : Result := { requeue := true, requeueAfter }

/-- The reads of `Reconcile` (lines 69–112): the ACL and its NetworkPolicy, each
the zero value when not found, the policy prepared by `setMeta`. -/
def fetch (req : NamespacedName) : Prog (Except Error (ACL × NetworkPolicy × Bool)) := do
  match orZero (← send (.getACL req)) with
  | .error err => return .error err
  | .ok acl =>
    let networkPolicyName :=
      if acl.status.networkPolicy = "" then "acl-" ++ req.name else acl.status.networkPolicy
    match orZero (← send (.getNetworkPolicy ⟨req.namespace, networkPolicyName⟩)) with
    | .error err => return .error err
    | .ok networkPolicy => return .ok (acl, setMeta acl networkPolicyName networkPolicy)

/-- `setUnreadyStatus`. -/
def setUnreadyStatus (acl : ACL) (reason : String) : Prog (Except Error Unit) :=
  send (.updateACLStatus { acl with status := { acl.status with ready := false, reason } })

/-- An unready exit of `Reconcile`: `return ctrl.Result{}, setUnreadyStatus(...)`. -/
def unready (acl : ACL) (reason : String) : Prog (Except Error Result) := do
  match ← setUnreadyStatus acl reason with
  | .error err => return .error err
  | .ok () => return .ok {}

/-- The status update after a write (lines 164–190). -/
def updateStatus (acl : ACL) (networkPolicyName : String) : Prog (Except Error Result) := do
  let acl := { acl with status := { acl.status with networkPolicy := networkPolicyName, ready := true, reason := "" } }
  match ← send (.updateACLStatus acl) with
  | .error err => return .error err
  | .ok () => return .ok requeue

/-- The write step of `Reconcile` (lines 156–195): create the policy if it has no
creation time, update it if it changed, and then mark the ACL ready. -/
def writeNetworkPolicy (acl : ACL) (np : NetworkPolicy) (changed : Bool) : Prog (Except Error Result) := do
  if np.creationTimestamp.isNone then
    match ← send (.createNetworkPolicy np) with
    | .error err => return .error err
    | .ok () => updateStatus acl np.name
  else if changed then
    match ← send (.updateNetworkPolicy np) with
    | .error err => return .error err
    | .ok () => updateStatus acl np.name
  else return .ok requeue

/-- **`ACLReconciler.Reconcile`**, one pass for the ACL `req`. -/
def reconcile (req : NamespacedName) : Prog (Except Error Result) := do
  match ← fetch req with
  | .error err => return .error err
  | .ok (acl, networkPolicy, changed) =>
    match ← desired E acl with
    | .error stop => unready acl (stop.reason E)
    | .ok (podSelector, newEgressRules) =>
      let (networkPolicy, changed) := setSpec networkPolicy changed podSelector newEgressRules
      writeNetworkPolicy acl networkPolicy changed

/-- A pass from the store as it stands, its calls logged from the start. -/
def pass (C : Cluster) (req : NamespacedName) (s : Store) : Except Error Result × World :=
  (reconcile E req).run C ⟨s, []⟩

/-- Collaborators that hash every key to zero bytes, print every destination as
`destination` and find no Service. -/
def Env.plain : Env where
  sum _ := ⟨List.replicate 32 0, rfl⟩
  marshal _ := "destination"
  getByIP _ := .ok none

/-- A cluster in which no call fails and every sub-reconciler keeps the status it
finds. -/
def Cluster.reliable : Cluster where
  resolve _ r := .ok r.status
  fault _ := none
  now := 1

/-- A cluster in which only the call of index `n` fails, with `err`. -/
def Cluster.faultAt (n : Nat) (err : Error) : Cluster :=
  { Cluster.reliable with fault := fun i => if i = n then some err else none }

/-! ## Runs -/

/-- What happens to the store: a pass for the ACL, with its own collaborators and
cluster, or any change by others (a user, a resolver's own pass, the garbage
collector). -/
inductive Event where
  | pass (E : Env) (C : Cluster)
  | change (f : Store → Store)

/-- The store after an event. -/
def Event.apply (req : NamespacedName) : Event → Store → Store
  | .pass E C, s => (AclOperator.pass E C req s).2.store
  | .change f, s => f s

/-- The store after a run of events. -/
def runEvents (req : NamespacedName) (evs : List Event) (s : Store) : Store :=
  evs.foldl (fun s ev => ev.apply req s) s

end AclOperator
