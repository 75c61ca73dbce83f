import AclOperator.Spec.Types

/-!
# The API server and the programs that talk to it

The controller's code is a `Prog`: requests to the API server, each followed by a
function of the answer. The answers come from the `Store`, which holds the
objects, and from the `Cluster`, which says what the eager sub-reconcilers do and
which calls fail. `Prog.run` runs a program alone, logging every call it issues;
`interleave` runs two programs against one store, one atomic request at a time,
in the order a schedule gives.
-/

namespace AclOperator

/-- A request to the API server, indexed by the type of its answer. -/
inductive Req : Type → Type where
  | getACL (key : NamespacedName) : Req ACL
  | updateACLStatus (acl : ACL) : Req Unit
  | getNetworkPolicy (key : NamespacedName) : Req NetworkPolicy
  | createNetworkPolicy (np : NetworkPolicy) : Req Unit
  | updateNetworkPolicy (np : NetworkPolicy) : Req Unit
  | getRecord (k : Kind) (name : String) : Req (Record k)
  | createRecord (k : Kind) (r : Record k) : Req Unit
  /-- The eager sub-reconcile of a record (`subReconciler.Reconcile`). -/
  | reconcileRecord (k : Kind) (name : String) : Req Unit

/-- A request as a pass's log records it. -/
inductive Call where
  | getACL (key : NamespacedName)
  | updateACLStatus (acl : ACL)
  | getNetworkPolicy (key : NamespacedName)
  | createNetworkPolicy (np : NetworkPolicy)
  | updateNetworkPolicy (np : NetworkPolicy)
  | getRecord (k : Kind) (name : String)
  | createRecord (k : Kind) (r : Record k)
  | reconcileRecord (k : Kind) (name : String)
  deriving DecidableEq

/-- The log entry of a request. -/
def Req.call : Req β → Call
  | .getACL key => .getACL key
  | .updateACLStatus acl => .updateACLStatus acl
  | .getNetworkPolicy key => .getNetworkPolicy key
  | .createNetworkPolicy np => .createNetworkPolicy np
  | .updateNetworkPolicy np => .updateNetworkPolicy np
  | .getRecord k name => .getRecord k name
  | .createRecord k r => .createRecord k r
  | .reconcileRecord k name => .reconcileRecord k name

/-- A program against the API server: done with a value, or a request and what to
do with its answer (the value, or the error). -/
inductive Prog (α : Type) : Type 1 where
  | pure (a : α)
  | call {β : Type} (r : Req β) (k : Except Error β → Prog α)

namespace Prog

/-- Sequencing. -/
def bind {α β : Type} : Prog α → (α → Prog β) → Prog β
  | pure a, f => f a
  | call r k, f => call r fun b => (k b).bind f

instance : Monad Prog where
  pure := pure
  bind := bind

end Prog

/-- Send one request and get its answer. -/
def send (r : Req β) : Prog (Except Error β) := .call r .pure

/-! ## The store -/

/-- The objects the API server holds. The address records are cluster scoped. -/
structure Store where
  acls : NamespacedName → Option ACL
  networkPolicies : NamespacedName → Option NetworkPolicy
  dnsEntries : String → Option (Record .dnsEntry)
  tsuruAppAddresses : String → Option (Record .tsuruAppAddress)
  rpaasInstanceAddresses : String → Option (Record .rpaasInstanceAddress)

namespace Store

/-- The store with no object in it. -/
def empty : Store where
  acls _ := none
  networkPolicies _ := none
  dnsEntries _ := none
  tsuruAppAddresses _ := none
  rpaasInstanceAddresses _ := none

/-- The records of one kind. -/
def records (s : Store) : (k : Kind) → String → Option (Record k)
  | .dnsEntry => s.dnsEntries
  | .tsuruAppAddress => s.tsuruAppAddresses
  | .rpaasInstanceAddress => s.rpaasInstanceAddresses

/-- Store a record under a name. -/
def putRecord (s : Store) : (k : Kind) → String → Record k → Store
  | .dnsEntry, name, r => { s with dnsEntries := fun n => if n = name then some r else s.dnsEntries n }
  | .tsuruAppAddress, name, r =>
    { s with tsuruAppAddresses := fun n => if n = name then some r else s.tsuruAppAddresses n }
  | .rpaasInstanceAddress, name, r =>
    { s with rpaasInstanceAddresses := fun n => if n = name then some r else s.rpaasInstanceAddresses n }

/-- Store an ACL under a key. -/
def putACL (s : Store) (key : NamespacedName) (acl : ACL) : Store :=
  { s with acls := fun key' => if key' = key then some acl else s.acls key' }

/-- Store a NetworkPolicy under its key. -/
def putNetworkPolicy (s : Store) (np : NetworkPolicy) : Store :=
  { s with networkPolicies := fun key => if key = np.key then some np else s.networkPolicies key }

end Store

/-- What the cluster does during a pass besides holding objects. -/
structure Cluster where
  /-- The outcome of the sub-reconciler of a record: the status it writes, or its
  error. -/
  resolve : (k : Kind) → Record k → Except Error AddressStatus
  /-- The calls that fail, by their index in the pass, and with which error. -/
  fault : Nat → Option Error
  /-- The creation time the API server stamps on a new object. -/
  now : Nat

/-- Modelled from the spec: the eager sub-reconcilers `ACLDNSEntryReconciler`,
`TsuruAppAddressReconciler` and `RpaasInstanceAddressReconciler`, absent from the
source. A resolver "writes only its own narrow status": it reads the record and
writes the status it resolves, or fails; a record that is gone is no error. -/
def subReconcile (C : Cluster) (k : Kind) (name : String) (s : Store) : Except Error Unit × Store :=
  match s.records k name with
  | none => (.ok (), s)
  | some r =>
    match C.resolve k r with
    | .ok status => (.ok (), s.putRecord k name { r with status })
    | .error err => (.error err, s)

/-- **The API server's answer** to one request. A written NetworkPolicy is stored
as its JSON round trip, with its creation time; the status subresource of an ACL
takes only the status. -/
def Store.answer (C : Cluster) : Req β → Store → Except Error β × Store
  | .getACL key, s => (match s.acls key with
      | some acl => .ok acl
      | none => .error (.notFound key.name), s)
  | .updateACLStatus acl, s =>
    match s.acls acl.key with
    | some stored => (.ok (), s.putACL acl.key { stored with status := acl.status })
    | none => (.error (.notFound acl.name), s)
  | .getNetworkPolicy key, s => (match s.networkPolicies key with
      | some np => .ok np
      | none => .error (.notFound key.name), s)
  | .createNetworkPolicy np, s =>
    match s.networkPolicies np.key with
    | some _ => (.error (.alreadyExists np.name), s)
    | none => (.ok (), s.putNetworkPolicy { np.roundTrip with creationTimestamp := some C.now })
  | .updateNetworkPolicy np, s =>
    match s.networkPolicies np.key with
    | some stored =>
      (.ok (), s.putNetworkPolicy { np.roundTrip with creationTimestamp := stored.creationTimestamp })
    | none => (.error (.notFound np.name), s)
  | .getRecord k name, s => (match s.records k name with
      | some r => .ok r
      | none => .error (.notFound name), s)
  | .createRecord k r, s =>
    match s.records k r.name with
    | some _ => (.error (.alreadyExists r.name), s)
    | none => (.ok (), s.putRecord k r.name r)
  | .reconcileRecord k name, s => subReconcile C k name s

/-! ## Running programs -/

/-- A pass in progress: the store, and the calls issued so far. -/
structure World where
  store : Store
  log : List Call

/-- Issue one call: it is logged, and it fails if the cluster says so (leaving
the store as it was); otherwise the store answers it. -/
def World.issue (C : Cluster) (r : Req β) (w : World) : Except Error β × World :=
  match C.fault w.log.length with
  | some err => (.error err, { w with log := w.log ++ [r.call] })
  | none => ((w.store.answer C r).1, ⟨(w.store.answer C r).2, w.log ++ [r.call]⟩)

/-- **A program run alone**, every call issued in turn. -/
def Prog.run (C : Cluster) : Prog α → World → α × World
  | .pure a, w => (a, w)
  | .call r k, w => (k (w.issue C r).1).run C (w.issue C r).2

/-- One request of a program, answered by the store with no failure. -/
def Prog.stepOn (C : Cluster) : Prog α → Store → Prog α × Store
  | .pure a, s => (.pure a, s)
  | .call r k, s => (k (s.answer C r).1, (s.answer C r).2)

/-- **Two programs against one store**: the schedule says whose request goes next
(`false` the first's, `true` the second's). Each request is atomic. -/
def interleave (C : Cluster) : List Bool → Prog α × Prog β × Store → Prog α × Prog β × Store
  | [], st => st
  | false :: sch, (p, q, s) => interleave C sch ((p.stepOn C s).1, q, (p.stepOn C s).2)
  | true :: sch, (p, q, s) => interleave C sch (p, (q.stepOn C s).1, (q.stepOn C s).2)

/-- One request of a program: it fails with `err` when it is given one, leaving the
store as it was; otherwise the store answers it. -/
def Prog.stepWith (C : Cluster) (fault : Option Error) : Prog α → Store → Prog α × Store
  | .pure a, s => (.pure a, s)
  | .call r k, s =>
    match fault with
    | some err => (k (.error err), s)
    | none => (k (s.answer C r).1, (s.answer C r).2)

/-- **Any number of programs against one store**, as the workers `SetupWithManager`
starts (`MaxConcurrentReconciles: 4`) run passes: the schedule says, by its index,
whose request goes next, and whether it fails; an index with no program is skipped.
Each request is atomic. -/
def interleaveAll (C : Cluster) :
    List (Nat × Option Error) → List (Prog α) × Store → List (Prog α) × Store
  | [], st => st
  | (i, fault) :: sch, (ps, s) =>
    match ps[i]? with
    | some p => interleaveAll C sch (ps.set i (p.stepWith C fault s).1, (p.stepWith C fault s).2)
    | none => interleaveAll C sch (ps, s)

end AclOperator
