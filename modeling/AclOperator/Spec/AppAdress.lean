import AclOperator.Spec.Types
import Mathlib.Data.List.Sort

/-!
# The TsuruAppAdress controller

`TsuruAppAdressReconciler.Reconcile` keeps the status of a `TsuruAppAdress`
object: it asks the tsuru API for the app's routers, resolves the host of every
router address, and writes the sorted IPs it found, with `Ready`, when the status
does not hold them yet. This resource and its controller stand apart from the
`TsuruAppAddress` records the ACL controller creates (`Kind.tsuruAppAddress`),
whose sub-reconciler is not in the source.

The reconciler's collaborators, the resolver and the tsuru API, are given by their
answers. What may differ from one pass to the next (which API calls fail, the
order in which `range` visits a Go map, the time) is an `AppAdressPass`.
-/

namespace AclOperator

/-! ## Objects and collaborators -/

/-- A router of an app, as the tsuru API describes it: `Address` and `Addresses`
are all `Reconcile` reads. -/
structure AppRouter where
  address : String := ""
  addresses : List String := []
  deriving DecidableEq, Repr

/-- `tsuruapi.AppInfo`, by its `Routers`. -/
structure AppInfo where
  routers : List AppRouter := []
  deriving DecidableEq, Repr

/-- `net.IPAddr`, by its `IP` (the bytes of the address); `Zone` is never read. -/
structure IPAddr where
  ip : List UInt8
  deriving DecidableEq, Repr

/-- `v1alpha1.TsuruAppAdressSpec`. -/
structure TsuruAppAdressSpec where
  name : String := ""
  deriving DecidableEq, Repr

/-- `v1alpha1.TsuruAppAdressStatus`, by the fields `Reconcile` reads and writes. A
`nil` `RouterIPs` differs from an empty one: `reflect.DeepEqual` tells them apart. -/
structure TsuruAppAdressStatus where
  ready : Bool := false
  routerIPs : Slice String := .nil
  updatedAt : String := ""
  deriving DecidableEq, Repr

/-- `v1alpha1.TsuruAppAdress`. -/
structure TsuruAppAdress where
  name : String := ""
  «namespace» : String := ""
  spec : TsuruAppAdressSpec := {}
  status : TsuruAppAdressStatus := {}
  deriving DecidableEq, Repr

def TsuruAppAdress.key (obj : TsuruAppAdress) : NamespacedName := ⟨obj.namespace, obj.name⟩

/-- `TsuruAppAdressReconciler`, by the answers of its collaborators: `Resolver`
(`LookupIPAddr`, per host; a timeout is one of its errors) and `TsuruAPI`
(`AppInfo`, per app name), with the two library functions `Reconcile` calls,
`tsuruNet.URLToHost` and `net.IP.String`, whose code is outside the source. Its
`Client` is the store a pass runs against. -/
structure TsuruAppAdressReconciler where
  lookupIPAddr : String → Except Error (List IPAddr)
  appInfo : String → Except Error AppInfo
  urlToHost : String → String
  ipString : List UInt8 → String

/-! ## Go maps and `sort.Strings` -/

/-- A Go `map[string]bool` whose every value is `true`, as `foundIPs`: its keys,
each once. -/
structure StringSet where
  keys : List String
  nodup : keys.Nodup

namespace StringSet

def empty : StringSet := ⟨[], List.nodup_nil⟩

/-- `m[k] = true`. -/
def insert (m : StringSet) (k : String) : StringSet := ⟨m.keys.insert k, m.nodup.insert⟩

end StringSet

/-- The order in which `for k := range m` visits the keys of a map. Go leaves it
unspecified, and varies it from one loop to the next, so a pass is given one; it
visits every key once. -/
structure MapIteration where
  visit : StringSet → List String
  perm : ∀ m, (visit m).Perm m.keys

/-- The iteration in the order the keys went in (newest first). -/
def MapIteration.stored : MapIteration := ⟨StringSet.keys, fun _ => List.Perm.refl _⟩

/-- `sort.Strings`: ascending by bytes, which on valid UTF-8 is the order of the
characters. Every sort gives the one ascending permutation; `insertionSort`
stands for Go's. -/
def sortStrings (l : List String) : List String := l.insertionSort fun a b => a.toList ≤ b.toList

/-! ## The API server -/

/-- The `TsuruAppAdress` objects the API server holds, each under its own key. -/
structure AppAdressStore where
  objects : NamespacedName → Option TsuruAppAdress
  keyed : ∀ key obj, objects key = some obj → obj.key = key

namespace AppAdressStore

/-- The API server holding no TsuruAppAdress. -/
def empty : AppAdressStore := ⟨fun _ => none, fun _ _ h => nomatch h⟩

def put (s : AppAdressStore) (obj : TsuruAppAdress) : AppAdressStore where
  objects key := if key = obj.key then some obj else s.objects key
  keyed key obj' h := by
    by_cases hk : key = obj.key
    · simp only [hk, if_true, Option.some.injEq] at h
      exact h ▸ hk.symm
    · simp only [hk, if_false] at h
      exact s.keyed key obj' h

/-- The answer to `Client.Get`. -/
def get (s : AppAdressStore) (key : NamespacedName) : Except Error TsuruAppAdress :=
  match s.objects key with
  | some obj => .ok obj
  | none => .error (.notFound key.name)

/-- The answer to `Client.Status().Update`: the status subresource takes only the
status. -/
def updateStatus (s : AppAdressStore) (obj : TsuruAppAdress) : Except Error Unit × AppAdressStore :=
  match s.objects obj.key with
  | some stored => (.ok (), s.put { stored with status := obj.status })
  | none => (.error (.notFound obj.name), s)

end AppAdressStore

/-- A request of the TsuruAppAdress controller to the API server, as its log
records it. -/
inductive AppAdressCall where
  | get (key : NamespacedName)
  | updateStatus (obj : TsuruAppAdress)
  deriving DecidableEq

/-- A pass in progress: the store, and the calls issued so far. -/
structure AppAdressWorld where
  store : AppAdressStore
  log : List AppAdressCall

/-- What one pass is given besides the store: which API calls fail, by their index
in the pass; the order of its map iteration; and `time.Now()` in RFC 3339. -/
structure AppAdressPass where
  fault : Nat → Option Error := fun _ => none
  iteration : MapIteration := .stored
  now : String := ""

namespace AppAdressWorld

/-- `Client.Get`, issued: logged, and failing if the pass says so. -/
def get (fault : Nat → Option Error) (key : NamespacedName) (w : AppAdressWorld) :
    Except Error TsuruAppAdress × AppAdressWorld :=
  (match fault w.log.length with
    | some err => .error err
    | none => w.store.get key, { w with log := w.log ++ [.get key] })

/-- `Client.Status().Update`, issued: logged, and failing if the pass says so. -/
def updateStatus (fault : Nat → Option Error) (obj : TsuruAppAdress) (w : AppAdressWorld) :
    Except Error Unit × AppAdressWorld :=
  match fault w.log.length with
  | some err => (.error err, { w with log := w.log ++ [.updateStatus obj] })
  | none => ((w.store.updateStatus obj).1, ⟨(w.store.updateStatus obj).2, w.log ++ [.updateStatus obj]⟩)

end AppAdressWorld

/-! ## `Reconcile` -/

/-- `resolvedIPs`: the keys of `foundIPs`, in the order the map iteration visits
them, sorted. -/
def resolvedIPs (iteration : MapIteration) (foundIPs : StringSet) : List String :=
  sortStrings ([] ++ iteration.visit foundIPs)

/-- The test before the write, `!Status.Ready || !reflect.DeepEqual(resolvedIPs,
Status.RouterIPs)`. `resolvedIPs` is never `nil`, and `reflect.DeepEqual` of two
string slices is equality of `Slice`s. -/
def needsUpdate (status : TsuruAppAdressStatus) (ips : List String) : Bool :=
  !status.ready || !decide (Slice.mk ips = status.routerIPs)

/-- The three assignments before the update: `Ready`, `RouterIPs` and `UpdatedAt`. -/
def TsuruAppAdress.withRouterIPs (obj : TsuruAppAdress) (ips : List String) (now : String) : TsuruAppAdress :=
  { obj with status := { obj.status with ready := true, routerIPs := .mk ips, updatedAt := now } }

namespace TsuruAppAdressReconciler

variable (R : TsuruAppAdressReconciler)

/-- `resolveAddress`: the resolver's lookup, under a ten-second timeout. -/
def resolveAddress (addr : String) : Except Error (List IPAddr) := R.lookupIPAddr addr

/-- The body of the `addrs` loop: the host of each of a router's `Addresses`, or
of its `Address` when it has none. -/
def addRouterAddrs (addrs : List String) (r : AppRouter) : List String :=
  if r.addresses.length > 0 then r.addresses.foldl (fun addrs addr => addrs ++ [R.urlToHost addr]) addrs
  else addrs ++ [R.urlToHost r.address]

/-- The `addrs` loop over the app's routers. -/
def addrs (appInfo : AppInfo) : List String := appInfo.routers.foldl R.addRouterAddrs []

/-- The body of the `foundIPs` loop: the string form of every IP the lookup of
`addr` returns; a failed lookup is skipped. -/
def addFoundIPs (foundIPs : StringSet) (addr : String) : StringSet :=
  match R.resolveAddress addr with
  | .error _ => foundIPs
  | .ok ipAddrs => ipAddrs.foldl (fun foundIPs ipAddr => foundIPs.insert (R.ipString ipAddr.ip)) foundIPs

/-- The `foundIPs` loop over the hosts. -/
def foundIPs (addrs : List String) : StringSet := addrs.foldl R.addFoundIPs StringSet.empty

/-- The `RouterIPs` a pass computes for an app: its hosts, the IPs they resolve
to, and those sorted. -/
def routerIPs (iteration : MapIteration) (appInfo : AppInfo) : List String :=
  resolvedIPs iteration (R.foundIPs (R.addrs appInfo))

/-- **`TsuruAppAdressReconciler.Reconcile`**: the object under `req` (a missing one
is no error), the app's routers, the IPs their hosts resolve to, and a status
update when the status is not Ready or holds other IPs. -/
def reconcile (P : AppAdressPass) (req : NamespacedName) (s : AppAdressStore) :
    Except Error Result × AppAdressWorld :=
  match AppAdressWorld.get P.fault req ⟨s, []⟩ with
  | (.error err, w) => if err.isNotFound then (.ok {}, w) else (.error err, w)
  | (.ok appAddress, w) =>
    match R.appInfo appAddress.spec.name with
    | .error err => (.error err, w)
    | .ok appInfo =>
      if needsUpdate appAddress.status (R.routerIPs P.iteration appInfo) then
        match AppAdressWorld.updateStatus P.fault (appAddress.withRouterIPs (R.routerIPs P.iteration appInfo) P.now) w with
        | (.error err, w) => (.error err, w)
        | (.ok (), w) => (.ok {}, w)
      else (.ok {}, w)

/-- The store after a run of passes, each for its own key, with its own faults,
map iteration and time. -/
def runPasses (passes : List (NamespacedName × AppAdressPass)) (s : AppAdressStore) : AppAdressStore :=
  passes.foldl (fun s p => (R.reconcile p.2 p.1 s).2.store) s

end TsuruAppAdressReconciler

end AclOperator
