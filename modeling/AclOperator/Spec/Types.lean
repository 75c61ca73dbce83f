import AclOperator.Spec.Values

/-!
# The objects the ACL controller reads and writes

The `v1alpha1` types (ACL and the three address records) as the controller uses
them, and the `networking/v1` NetworkPolicy with the fields `Reconcile` sets or
compares. `NetworkPolicy.roundTrip` is what the API server hands back for a
written policy: it fills in its defaults (a port with no protocol is TCP), and the
`omitempty` slices that were written empty come back `nil`.
-/

namespace AclOperator

/-- `v1alpha1.ProtoPort`. -/
structure ProtoPort where
  protocol : String
  number : Nat
  deriving DecidableEq, Repr

/-- `v1alpha1.ACLSpecExternalDNS`. -/
structure ACLSpecExternalDNS where
  name : String
  ports : List ProtoPort := []
  deriving DecidableEq, Repr

/-- `v1alpha1.ACLSpecExternalIP`. -/
structure ACLSpecExternalIP where
  ip : String
  ports : List ProtoPort := []
  deriving DecidableEq, Repr

/-- `v1alpha1.ACLSpecRpaasInstance`. -/
structure ACLSpecRpaasInstance where
  serviceName : String
  «instance» : String
  deriving DecidableEq, Repr

/-- `v1alpha1.ACLSpecDestination`: the code reads the first field that is set. -/
structure ACLSpecDestination where
  tsuruApp : String := ""
  tsuruAppPool : String := ""
  externalDNS : Option ACLSpecExternalDNS := none
  externalIP : Option ACLSpecExternalIP := none
  rpaasInstance : Option ACLSpecRpaasInstance := none
  deriving DecidableEq, Repr

/-- `v1alpha1.ACLSpecSource`. -/
structure ACLSpecSource where
  tsuruApp : String := ""
  rpaasInstance : Option ACLSpecRpaasInstance := none
  deriving DecidableEq, Repr

/-- `v1alpha1.ACLSpec`. -/
structure ACLSpec where
  source : ACLSpecSource := {}
  destinations : List ACLSpecDestination := []
  deriving DecidableEq, Repr

/-- `v1alpha1.ACLStatus`. -/
structure ACLStatus where
  ready : Bool := false
  reason : String := ""
  networkPolicy : String := ""
  deriving DecidableEq, Repr

/-- `v1alpha1.ACL`, with the metadata the controller reads. -/
structure ACL where
  name : String := ""
  «namespace» : String := ""
  uid : String := ""
  spec : ACLSpec := {}
  status : ACLStatus := {}
  deriving DecidableEq, Repr

instance : Inhabited ACL := ⟨{}⟩

/-- `metav1.LabelSelector`, by its `MatchLabels`. -/
structure LabelSelector where
  matchLabels : Labels
  deriving DecidableEq

/-- `netv1.IPBlock`. -/
structure IPBlock where
  cidr : String
  deriving DecidableEq, Repr

/-- `netv1.NetworkPolicyPeer`; the pointers are options. -/
structure NetworkPolicyPeer where
  podSelector : Option LabelSelector := none
  namespaceSelector : Option LabelSelector := none
  ipBlock : Option IPBlock := none
  deriving DecidableEq

/-- `intstr.IntOrString`. -/
inductive IntOrString where
  | int (n : Int)
  | string (s : String)
  deriving DecidableEq, Repr

/-- `netv1.NetworkPolicyPort`. -/
structure NetworkPolicyPort where
  protocol : Option String := none
  port : Option IntOrString := none
  deriving DecidableEq, Repr

/-- `netv1.NetworkPolicyEgressRule`. -/
structure NetworkPolicyEgressRule where
  ports : Slice NetworkPolicyPort := .nil
  «to» : Slice NetworkPolicyPeer := .nil
  deriving DecidableEq

/-- `netv1.PolicyType`. -/
inductive PolicyType where
  | ingress
  | egress
  deriving DecidableEq, Repr

/-- `metav1.OwnerReference`, as `metav1.NewControllerRef` fills it for an ACL. -/
structure OwnerReference where
  name : String
  uid : String
  controller : Bool
  deriving DecidableEq, Repr

/-- `netv1.NetworkPolicy`, metadata and spec flattened. `creationTimestamp` is
`none` on the zero value and set by the API server on create. -/
structure NetworkPolicy where
  name : String := ""
  «namespace» : String := ""
  ownerReferences : Slice OwnerReference := .nil
  creationTimestamp : Option Nat := none
  podSelector : LabelSelector := ⟨Labels.empty⟩
  policyTypes : Slice PolicyType := .nil
  egress : Slice NetworkPolicyEgressRule := .nil
  deriving DecidableEq

instance : Inhabited NetworkPolicy := ⟨{}⟩

/-- The key the policy is stored under. -/
def NetworkPolicy.key (np : NetworkPolicy) : NamespacedName := ⟨np.namespace, np.name⟩

/-- The key the ACL is stored under. -/
def ACL.key (acl : ACL) : NamespacedName := ⟨acl.namespace, acl.name⟩

/-- The API server's default for a port (`SetDefaults_NetworkPolicyPort` of
`networking/v1`): a port with no protocol is TCP. -/
def NetworkPolicyPort.setDefaults (p : NetworkPolicyPort) : NetworkPolicyPort :=
  { p with protocol := some (p.protocol.getD "TCP") }

/-- What the API server hands back for a written rule: its ports defaulted, and
`ports` and `to`, which are `omitempty`, `nil` when empty. -/
def NetworkPolicyEgressRule.roundTrip (r : NetworkPolicyEgressRule) : NetworkPolicyEgressRule :=
  { ports := (r.ports.map NetworkPolicyPort.setDefaults).omitEmpty, «to» := r.«to».omitEmpty }

/-- **The round trip of a NetworkPolicy through the API server**: what a later
`Get` returns for a written policy. Pointers and strings survive; ports get their
default protocol; empty `omitempty` slices come back `nil`. (The policy-type
default applies only to a policy written with no type, which `Reconcile` never
writes.) -/
def NetworkPolicy.roundTrip (np : NetworkPolicy) : NetworkPolicy :=
  { np with
    ownerReferences := np.ownerReferences.omitEmpty
    policyTypes := np.policyTypes.omitEmpty
    egress := (np.egress.map NetworkPolicyEgressRule.roundTrip).omitEmpty }

/-- `corev1.Service`, as the service cache returns it. -/
structure Service where
  «namespace» : String
  selector : Labels
  deriving DecidableEq

/-! ## Address records -/

/-- The three address records the ACL controller creates. -/
inductive Kind where
  | dnsEntry
  | tsuruAppAddress
  | rpaasInstanceAddress
  deriving DecidableEq, Repr

/-- `v1alpha1.ACLDNSEntrySpec`. -/
structure ACLDNSEntrySpec where
  host : String
  deriving DecidableEq, Repr

/-- `v1alpha1.TsuruAppAddressSpec`. -/
structure TsuruAppAddressSpec where
  name : String
  deriving DecidableEq, Repr

/-- `v1alpha1.RpaasInstanceAddressSpec`. -/
structure RpaasInstanceAddressSpec where
  serviceName : String
  «instance» : String
  deriving DecidableEq, Repr

/-- The spec type of each kind of record. -/
def Kind.Spec : Kind → Type
  | dnsEntry => ACLDNSEntrySpec
  | tsuruAppAddress => TsuruAppAddressSpec
  | rpaasInstanceAddress => RpaasInstanceAddressSpec

instance Kind.decEqSpec : (k : Kind) → DecidableEq k.Spec
  | .dnsEntry => inferInstanceAs (DecidableEq ACLDNSEntrySpec)
  | .tsuruAppAddress => inferInstanceAs (DecidableEq TsuruAppAddressSpec)
  | .rpaasInstanceAddress => inferInstanceAs (DecidableEq RpaasInstanceAddressSpec)

/-- The status the ACL controller reads from a record: `Ready`, and the addresses
(for an ACLDNSEntry, the `Address` of each element of `IPs`). -/
structure AddressStatus where
  ready : Bool := false
  ips : List String := []
  deriving DecidableEq, Repr

/-- An address record of kind `k`: ACLDNSEntry, TsuruAppAddress or
RpaasInstanceAddress. They are cluster scoped, so a name is their key. -/
structure Record (k : Kind) where
  name : String
  spec : k.Spec
  status : AddressStatus := {}
  deriving DecidableEq

/-- `ctrl.Result`; `requeueAfter` in seconds. -/
structure Result where
  requeue : Bool := false
  requeueAfter : Nat := 0
  deriving DecidableEq, Repr

end AclOperator
