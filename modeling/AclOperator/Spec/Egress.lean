import AclOperator.Spec.Types
import AclOperator.Spec.Naming

/-!
# Egress rules

The pure part of the rule generation of `acl_controller.go`: selectors, ports,
the rules of each kind of destination once its address record is at hand, and
`fillPodSelectorByCIDR`, which adds a Service's pods next to every host address
the service cache knows. The cache is the parameter `getByIP`
(`serviceCache.GetByIP`): a Service, none, or an error.
-/

namespace AclOperator

/-! ## The `strings` functions the code calls -/

/-- `strings.Contains(s, c)` for a one-character `c`. -/
def containsChar (s : String) (c : Char) : Bool := s.toList.contains c

/-- `strings.HasSuffix`. -/
def hasSuffix (s suffix : String) : Bool := suffix.toList.isSuffixOf s.toList

/-- `strings.Split(s, "/")[0]`. -/
def beforeSlash (s : String) : String := ⟨s.toList.takeWhile (· ≠ '/')⟩

/-- `strings.ToUpper`, on the ASCII letters of protocol names. -/
def toUpper (s : String) : String := ⟨s.toList.map Char.toUpper⟩

/-! ## Selectors and ports -/

/-- `podSelectorForTsuruApp`. -/
def podSelectorForTsuruApp (tsuruApp : String) : Labels := Labels.single "tsuru.io/app-name" tsuruApp

/-- `podSelectorForRpasInstance`. -/
def podSelectorForRpasInstance (rpaasInstance : ACLSpecRpaasInstance) : Labels :=
  Labels.pair "rpaas.extensions.tsuru.io/instance-name" rpaasInstance.instance
    "rpaas.extensions.tsuru.io/service-name" rpaasInstance.serviceName (by decide)

/-- `podSelectorForSource`: `none` is Go's `nil`. -/
def podSelectorForSource (source : ACLSpecSource) : Option Labels :=
  if source.tsuruApp ≠ "" then some (podSelectorForTsuruApp source.tsuruApp)
  else source.rpaasInstance.map podSelectorForRpasInstance

/-- `ports`: a non-nil slice, empty when no port is given. -/
def ports (p : List ProtoPort) : Slice NetworkPolicyPort :=
  .mk (p.map fun port =>
    { protocol := if port.protocol = "" then none else some (toUpper port.protocol)
      port := some (.int port.number) })

/-! ## Rules of each destination -/

/-- A rule to the pods a selector picks, in any namespace, on any port. -/
def podSelectorRule (matchLabels : Labels) : NetworkPolicyEgressRule :=
  { «to» := .mk [{ podSelector := some ⟨matchLabels⟩ }] }

/-- `egressRulesForExternalIP`: a bare address becomes a host CIDR. (Its error is
always `nil`.) -/
def egressRulesForExternalIP (externalIP : ACLSpecExternalIP) : List NetworkPolicyEgressRule :=
  let cidr :=
    if containsChar externalIP.ip '/' then externalIP.ip
    else if containsChar externalIP.ip ':' then externalIP.ip ++ "/128"
    else if containsChar externalIP.ip '.' then externalIP.ip ++ "/32"
    else externalIP.ip
  [{ «to» := .mk [{ ipBlock := some ⟨cidr⟩ }], ports := ports externalIP.ports }]

/-- `egressRulesForResourceAddressStatus`: one rule per router address. It collects
the errors of `egressRulesForExternalIP`, which are all `nil`. -/
def egressRulesForResourceAddressStatus (status : AddressStatus) : List NetworkPolicyEgressRule :=
  status.ips.flatMap fun routerIP => egressRulesForExternalIP { ip := routerIP }

/-- `egressRulesForTsuruAppPool`. -/
def egressRulesForTsuruAppPool (tsuruAppPool : String) : List NetworkPolicyEgressRule :=
  [podSelectorRule (Labels.single "tsuru.io/app-pool" tsuruAppPool)]

/-- The peer `egressRulesForExternalDNS` makes of a resolved address, unless it
skips it (`continue`). -/
def dnsPeer (address : String) : Option NetworkPolicyPeer :=
  if containsChar address ':' then some { ipBlock := some ⟨address ++ "/128"⟩ }
  else if containsChar address '.' then some { ipBlock := some ⟨address ++ "/32"⟩ }
  else none

/-- The one rule `egressRulesForExternalDNS` makes of a Ready ACLDNSEntry. -/
def dnsRule (status : AddressStatus) (p : List ProtoPort) : NetworkPolicyEgressRule :=
  { «to» := .mk (status.ips.filterMap dnsPeer), ports := ports p }

/-! ## `fillPodSelectorByCIDR` -/

/-- The peer `fillPodSelectorByCIDR` adds for a Service: its pods, in the namespace
labelled with its name. -/
def servicePeer (svc : Service) : NetworkPolicyPeer :=
  { podSelector := some ⟨svc.selector⟩
    namespaceSelector := some ⟨Labels.single "name" svc.namespace⟩ }

/-- The loop `toLoop` of `fillPodSelectorByCIDR` over one rule's peers: the peers
to add (`newDestinations`), or the first error of the cache. -/
def newDestinations (getByIP : String → Except Error (Option Service)) :
    List NetworkPolicyPeer → Except Error (List NetworkPolicyPeer)
  | [] => .ok []
  | peer :: peers =>
    match peer.ipBlock with
    | some ipBlock =>
      if hasSuffix ipBlock.cidr "/32" || hasSuffix ipBlock.cidr "/128" then
        match getByIP (beforeSlash ipBlock.cidr) with
        | .error err => .error err
        | .ok none => newDestinations getByIP peers
        | .ok (some svc) => (newDestinations getByIP peers).map (servicePeer svc :: ·)
      else newDestinations getByIP peers
    | none => newDestinations getByIP peers

/-- **`fillPodSelectorByCIDR`**, rule by rule: `rules[i].To` gets the new peers
appended, or the first error of the cache is returned. -/
def fillPodSelectorByCIDR (getByIP : String → Except Error (Option Service)) :
    List NetworkPolicyEgressRule → Except Error (List NetworkPolicyEgressRule)
  | [] => .ok []
  | rule :: rules =>
    match newDestinations getByIP rule.«to».toList with
    | .error err => .error err
    | .ok nd => (fillPodSelectorByCIDR getByIP rules).map ({ rule with «to» := rule.«to».append nd } :: ·)

end AclOperator
