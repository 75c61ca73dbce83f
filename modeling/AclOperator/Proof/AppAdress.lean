import AclOperator.Spec.AppAdress

/-!
# The IPs a TsuruAppAdress pass writes

`Reconcile` collects the IPs of every successful lookup into a Go map and writes
the map's keys sorted. The keys are distinct and every sort gives the one
ascending permutation, so the list written is strictly increasing and depends only
on which IPs the successful lookups returned: not on the order of the routers or of
their addresses, nor on the map iteration; a failed lookup drops only the IPs no
other lookup returned. A pass that finds the status Ready with that list writes
nothing, so after a pass that got its object and returned no error the object is
settled: every later pass for it, in any run of passes, only reads.

* `sortStrings_eq_of_perm`: `sort.Strings` of two permutations is one list.
* `mem_foundIPs`, `addrs_eq`: what the two loops collect.
* `routerIPs_sorted`, `mem_routerIPs`, `routerIPs_eq_of_perm`,
  `routerIPs_failingAt`: the list a pass computes.
* `reconcile_cases`: what a pass can do, said once; `reconcile_outcome`: a pass
  never requeues, and a failed one changes nothing.
* `runPasses_keeps`: over any run, objects keep their specs and stay Ready.
* `reconcile_settles`, `Settled.runPasses`, `reconcile_after_run`: a settled object
  stays settled, and its passes only read.
* `reconcile_routerIPs`: what one pass writes, and that the pass after it with the
  same answers writes nothing.
-/

namespace AclOperator

/-! ## `sort.Strings` and the map -/

theorem sortStrings_eq_insertionSort (l : List String) : sortStrings l = l.insertionSort (· ≤ ·) := by
  simp only [sortStrings, ← String.le_iff_toList_le]

theorem sortStrings_perm (l : List String) : (sortStrings l).Perm l := by
  rw [sortStrings_eq_insertionSort]; exact List.perm_insertionSort _ l

theorem sortStrings_sorted (l : List String) : (sortStrings l).Sorted (· ≤ ·) := by
  rw [sortStrings_eq_insertionSort]; exact List.sorted_insertionSort _ l

/-- Every sort gives the one ascending permutation. -/
theorem sortStrings_eq_of_perm {l₁ l₂ : List String} (h : l₁.Perm l₂) : sortStrings l₁ = sortStrings l₂ :=
  List.eq_of_perm_of_sorted (((sortStrings_perm l₁).trans h).trans (sortStrings_perm l₂).symm)
    (sortStrings_sorted l₁) (sortStrings_sorted l₂)

namespace StringSet

variable {m : StringSet} {a k : String}

@[simp] theorem mem_insert : a ∈ (m.insert k).keys ↔ a = k ∨ a ∈ m.keys := List.mem_insert_iff

@[simp] theorem not_mem_empty : a ∉ empty.keys := List.not_mem_nil a

theorem mem_foldl_insert {α : Type} (f : α → String) (xs : List α) (m : StringSet) :
    a ∈ (xs.foldl (fun m x => m.insert (f x)) m).keys ↔ a ∈ m.keys ∨ ∃ x ∈ xs, f x = a := by
  induction xs generalizing m with
  | nil => simp
  | cons x xs ih =>
    rw [List.foldl_cons, ih]
    simp only [mem_insert, List.mem_cons, exists_eq_or_imp, @eq_comm _ a, or_assoc]
    exact or_left_comm

end StringSet

section

variable {it it' : MapIteration} {m m' : StringSet}

theorem resolvedIPs_perm (it : MapIteration) (m : StringSet) : (resolvedIPs it m).Perm m.keys :=
  (sortStrings_perm _).trans (it.perm m)

theorem mem_resolvedIPs {ip : String} : ip ∈ resolvedIPs it m ↔ ip ∈ m.keys := (resolvedIPs_perm it m).mem_iff

/-- The keys of a map are distinct, so their sorted list is strictly increasing. -/
theorem resolvedIPs_sorted (it : MapIteration) (m : StringSet) : (resolvedIPs it m).Sorted (· < ·) :=
  (sortStrings_sorted _).lt_of_le ((resolvedIPs_perm it m).nodup_iff.2 m.nodup)

/-- The list depends only on the keys, not on the map iteration. -/
theorem resolvedIPs_eq_of_mem_iff (h : ∀ ip, ip ∈ m.keys ↔ ip ∈ m'.keys) : resolvedIPs it m = resolvedIPs it' m' :=
  sortStrings_eq_of_perm (((it.perm m).trans ((List.perm_ext_iff_of_nodup m.nodup m'.nodup).2 h)).trans (it'.perm m').symm)

end

/-! ## Objects and stores -/

@[simp] theorem AppAdressStore.put_objects (s : AppAdressStore) (obj : TsuruAppAdress) (key : NamespacedName) :
    (s.put obj).objects key = if key = obj.key then some obj else s.objects key := rfl

@[simp] theorem TsuruAppAdress.withRouterIPs_key (obj : TsuruAppAdress) (ips : List String) (now : String) :
    (obj.withRouterIPs ips now).key = obj.key := rfl

@[simp] theorem TsuruAppAdress.withRouterIPs_spec (obj : TsuruAppAdress) (ips : List String) (now : String) :
    (obj.withRouterIPs ips now).spec = obj.spec := rfl

@[simp] theorem TsuruAppAdress.withRouterIPs_ready (obj : TsuruAppAdress) (ips : List String) (now : String) :
    (obj.withRouterIPs ips now).status.ready = true := rfl

@[simp] theorem TsuruAppAdress.withRouterIPs_routerIPs (obj : TsuruAppAdress) (ips : List String) (now : String) :
    (obj.withRouterIPs ips now).status.routerIPs = .mk ips := rfl

/-- The pass writes nothing exactly when the status is Ready with the IPs it found. -/
theorem needsUpdate_eq_false {st : TsuruAppAdressStatus} {ips : List String} :
    needsUpdate st ips = false ↔ st.ready = true ∧ st.routerIPs = .mk ips := by
  simp only [needsUpdate, Bool.or_eq_false_iff, Bool.not_eq_false', decide_eq_true_eq, @eq_comm _ st.routerIPs]

/-- `s'` holds the objects of `s` and no other, with their specs, Ready where they
were Ready. -/
structure KeepsObjects (s s' : AppAdressStore) : Prop where
  specs : ∀ key, (s'.objects key).map TsuruAppAdress.spec = (s.objects key).map TsuruAppAdress.spec
  ready : ∀ key obj, s.objects key = some obj → obj.status.ready = true →
    ∃ obj', s'.objects key = some obj' ∧ obj'.status.ready = true

theorem KeepsObjects.refl (s : AppAdressStore) : KeepsObjects s s :=
  ⟨fun _ => rfl, fun _ obj h hr => ⟨obj, h, hr⟩⟩

theorem KeepsObjects.trans {s s' s'' : AppAdressStore} (h₁ : KeepsObjects s s') (h₂ : KeepsObjects s' s'') :
    KeepsObjects s s'' :=
  ⟨fun key => (h₂.specs key).trans (h₁.specs key), fun key obj h hr =>
    let ⟨obj', h', hr'⟩ := h₁.ready key obj h hr
    h₂.ready key obj' h' hr'⟩

namespace TsuruAppAdressReconciler

variable (R : TsuruAppAdressReconciler)

/-! ## The two loops -/

/-- The hosts the `addrs` loop takes from one router. -/
def routerHosts (r : AppRouter) : List String :=
  if r.addresses.length > 0 then r.addresses.map R.urlToHost else [R.urlToHost r.address]

/-- The resolver's lookup of `host` succeeds and returns an address whose string
form is `ip`. -/
def ResolvesTo (host ip : String) : Prop :=
  ∃ ipAddrs, R.lookupIPAddr host = .ok ipAddrs ∧ ∃ a ∈ ipAddrs, R.ipString a.ip = ip

theorem addRouterAddrs_eq (addrs : List String) (r : AppRouter) :
    R.addRouterAddrs addrs r = addrs ++ R.routerHosts r := by
  have hfold : ∀ (xs acc : List String),
      xs.foldl (fun addrs addr => addrs ++ [R.urlToHost addr]) acc = acc ++ xs.map R.urlToHost := by
    intro xs; induction xs with
    | nil => simp
    | cons x xs ih => intro acc; simp [ih]
  unfold addRouterAddrs routerHosts
  split <;> simp [hfold]

/-- The `addrs` loop collects the hosts of every router, in turn. -/
theorem addrs_eq (appInfo : AppInfo) : R.addrs appInfo = appInfo.routers.flatMap R.routerHosts := by
  suffices ∀ acc, appInfo.routers.foldl R.addRouterAddrs acc = acc ++ appInfo.routers.flatMap R.routerHosts from
    this []
  induction appInfo.routers with
  | nil => simp
  | cons r rs ih => intro acc; simp [addRouterAddrs_eq, ih]

/-- Routers with the same `Address` and the same `Addresses`, in any order, give
the same hosts, in some order. -/
theorem routerHosts_perm {r r' : AppRouter} (h : r'.address = r.address ∧ r'.addresses.Perm r.addresses) :
    (R.routerHosts r').Perm (R.routerHosts r) := by
  unfold routerHosts
  rw [h.1, h.2.length_eq]
  split
  · exact h.2.map _
  · exact .refl _

theorem addrs_perm {appInfo appInfo' : AppInfo} {rs : List AppRouter}
    (h₁ : List.Forall₂ (fun r r' => r'.address = r.address ∧ r'.addresses.Perm r.addresses) appInfo.routers rs)
    (h₂ : appInfo'.routers.Perm rs) : (R.addrs appInfo').Perm (R.addrs appInfo) := by
  rw [addrs_eq, addrs_eq]
  refine (h₂.flatMap_right _).trans ?_
  clear h₂
  generalize appInfo.routers = l at h₁
  induction h₁ with
  | nil => exact .nil
  | cons h _ ih => simpa using (R.routerHosts_perm h).append ih

theorem mem_addFoundIPs {ip : String} (m : StringSet) (addr : String) :
    ip ∈ (R.addFoundIPs m addr).keys ↔ ip ∈ m.keys ∨ R.ResolvesTo addr ip := by
  unfold addFoundIPs ResolvesTo resolveAddress
  split <;> rename_i h <;> simp [h, StringSet.mem_foldl_insert]

/-- **What the `foundIPs` loop collects**: the string form of every address a
successful lookup of a host returns, and nothing else. -/
theorem mem_foundIPs {ip : String} (addrs : List String) :
    ip ∈ (R.foundIPs addrs).keys ↔ ∃ addr ∈ addrs, R.ResolvesTo addr ip := by
  suffices ∀ m, ip ∈ (addrs.foldl R.addFoundIPs m).keys ↔ ip ∈ m.keys ∨ ∃ addr ∈ addrs, R.ResolvesTo addr ip by
    simpa using this .empty
  induction addrs with
  | nil => simp
  | cons addr addrs ih =>
    intro m
    rw [List.foldl_cons, ih, mem_addFoundIPs]
    simp only [List.mem_cons, exists_eq_or_imp, or_assoc]

/-! ## The list a pass computes -/

section

variable {it it' : MapIteration} {appInfo appInfo' : AppInfo}

theorem routerIPs_sorted (it : MapIteration) (appInfo : AppInfo) : (R.routerIPs it appInfo).Sorted (· < ·) :=
  resolvedIPs_sorted _ _

theorem mem_routerIPs {ip : String} : ip ∈ R.routerIPs it appInfo ↔ ∃ host ∈ R.addrs appInfo, R.ResolvesTo host ip :=
  mem_resolvedIPs.trans (R.mem_foundIPs _)

/-- **What the list holds**: the string form of every IP a successful lookup of a
host of one of the app's routers returns, and nothing else. -/
theorem mem_routerIPs_routers {ip : String} :
    ip ∈ R.routerIPs it appInfo ↔ ∃ r ∈ appInfo.routers, ∃ host ∈ R.routerHosts r, R.ResolvesTo host ip := by
  rw [mem_routerIPs, addrs_eq]
  simp only [List.mem_flatMap]
  constructor
  · rintro ⟨host, ⟨r, hr, hh⟩, hres⟩; exact ⟨r, hr, host, hh, hres⟩
  · rintro ⟨r, hr, host, hh, hres⟩; exact ⟨host, ⟨r, hr, hh⟩, hres⟩

theorem routerIPs_iteration (it it' : MapIteration) (appInfo : AppInfo) :
    R.routerIPs it appInfo = R.routerIPs it' appInfo :=
  resolvedIPs_eq_of_mem_iff fun _ => Iff.rfl

/-- **The order of the routers, of their addresses and of the map iteration does
not matter.** -/
theorem routerIPs_eq_of_perm {rs : List AppRouter}
    (h₁ : List.Forall₂ (fun r r' => r'.address = r.address ∧ r'.addresses.Perm r.addresses) appInfo.routers rs)
    (h₂ : appInfo'.routers.Perm rs) (it it' : MapIteration) :
    R.routerIPs it appInfo' = R.routerIPs it' appInfo :=
  resolvedIPs_eq_of_mem_iff fun _ => by simp only [R.mem_foundIPs, (R.addrs_perm h₁ h₂).mem_iff]

/-- The reconciler whose lookup of `host` fails with `e`, and that answers as `R`
elsewhere. -/
def failingAt (host : String) (e : Error) : TsuruAppAdressReconciler :=
  { R with lookupIPAddr := Function.update R.lookupIPAddr host (.error e) }

theorem resolvesTo_failingAt {host h ip : String} {e : Error} :
    (R.failingAt host e).ResolvesTo h ip ↔ h ≠ host ∧ R.ResolvesTo h ip := by
  by_cases hh : h = host
  · subst hh; simp [ResolvesTo, resolveAddress, failingAt]
  · simp [ResolvesTo, resolveAddress, failingAt, Function.update_noteq hh, hh]

/-- **A failed lookup drops only its own IPs**: the list is the one with the lookup
answered, less IPs that lookup returned. -/
theorem routerIPs_failingAt (host : String) (e : Error) (it : MapIteration) (appInfo : AppInfo) :
    ((R.failingAt host e).routerIPs it appInfo).Sublist (R.routerIPs it appInfo) ∧
      ∀ ip ∈ R.routerIPs it appInfo, ip ∉ (R.failingAt host e).routerIPs it appInfo → R.ResolvesTo host ip := by
  have hmem : ∀ ip, ip ∈ (R.failingAt host e).routerIPs it appInfo ↔
      ∃ h ∈ R.addrs appInfo, h ≠ host ∧ R.ResolvesTo h ip := fun ip => by
    rw [mem_routerIPs]
    simp only [resolvesTo_failingAt]
    rfl
  refine ⟨List.sublist_of_subperm_of_sorted (List.subperm_of_subset (routerIPs_sorted _ _ _).nodup fun ip hip => ?_)
    (routerIPs_sorted _ _ _) (R.routerIPs_sorted _ _), fun ip hip hnot => ?_⟩
  · obtain ⟨h, hh, -, hr⟩ := (hmem ip).1 hip
    exact R.mem_routerIPs.2 ⟨h, hh, hr⟩
  · obtain ⟨h, hh, hr⟩ := R.mem_routerIPs.1 hip
    by_cases hne : h = host
    · exact hne ▸ hr
    · exact absurd ((hmem ip).2 ⟨h, hh, hne, hr⟩) hnot

end

/-! ## One pass -/

section

variable {R} {P : AppAdressPass} {req : NamespacedName} {s : AppAdressStore} {appAddress : TsuruAppAdress}
  {appInfo : AppInfo}

theorem reconcile_quiet (hget : s.objects req = some appAddress) (hf : P.fault 0 = none)
    (hinfo : R.appInfo appAddress.spec.name = .ok appInfo)
    (hn : needsUpdate appAddress.status (R.routerIPs P.iteration appInfo) = false) :
    R.reconcile P req s = (.ok {}, ⟨s, [.get req]⟩) := by
  simp [reconcile, AppAdressWorld.get, AppAdressStore.get, hf, hget, hinfo, hn]

theorem reconcile_write (hget : s.objects req = some appAddress) (hf : P.fault 0 = none)
    (hinfo : R.appInfo appAddress.spec.name = .ok appInfo)
    (hn : needsUpdate appAddress.status (R.routerIPs P.iteration appInfo) = true) :
    R.reconcile P req s =
      match P.fault 1 with
      | some err => (.error err, ⟨s, [.get req, .updateStatus (appAddress.withRouterIPs (R.routerIPs P.iteration appInfo) P.now)]⟩)
      | none => (.ok {}, ⟨s.put (appAddress.withRouterIPs (R.routerIPs P.iteration appInfo) P.now),
          [.get req, .updateStatus (appAddress.withRouterIPs (R.routerIPs P.iteration appInfo) P.now)]⟩) := by
  have hkey : s.objects (appAddress.withRouterIPs (R.routerIPs P.iteration appInfo) P.now).key = some appAddress := by
    rw [← hget, ← s.keyed _ _ hget]; rfl
  simp only [reconcile, AppAdressWorld.get, AppAdressStore.get, List.length_nil, hf, hget, hinfo, hn, if_true,
    AppAdressWorld.updateStatus, AppAdressStore.updateStatus, hkey, List.length_singleton, List.nil_append,
    List.singleton_append]
  cases P.fault 1 <;> rfl

theorem reconcile_of_appInfo_error {err : Error} (hget : s.objects req = some appAddress) (hf : P.fault 0 = none)
    (hinfo : R.appInfo appAddress.spec.name = .error err) : R.reconcile P req s = (.error err, ⟨s, [.get req]⟩) := by
  simp only [reconcile, AppAdressWorld.get, AppAdressStore.get, List.length_nil, List.nil_append, hf, hget, hinfo]

variable (R)

/-- **What a pass can do**: return `ctrl.Result{}` or an error having issued its Get
and nothing else, leaving the store as it is; or find the object and its app, find
the status stale, and send the status with the IPs it computed. -/
theorem reconcile_cases (P : AppAdressPass) (req : NamespacedName) (s : AppAdressStore) :
    R.reconcile P req s = (.ok {}, ⟨s, [.get req]⟩) ∨ (∃ err, R.reconcile P req s = (.error err, ⟨s, [.get req]⟩)) ∨
      ∃ appAddress appInfo, s.objects req = some appAddress ∧ P.fault 0 = none ∧
        R.appInfo appAddress.spec.name = .ok appInfo ∧
        needsUpdate appAddress.status (R.routerIPs P.iteration appInfo) = true ∧
        R.reconcile P req s =
          match P.fault 1 with
          | some err => (.error err, ⟨s, [.get req,
              .updateStatus (appAddress.withRouterIPs (R.routerIPs P.iteration appInfo) P.now)]⟩)
          | none => (.ok {}, ⟨s.put (appAddress.withRouterIPs (R.routerIPs P.iteration appInfo) P.now),
              [.get req, .updateStatus (appAddress.withRouterIPs (R.routerIPs P.iteration appInfo) P.now)]⟩) := by
  rcases hf : P.fault 0 with _ | err
  · rcases hget : s.objects req with _ | appAddress
    · left; simp only [reconcile, AppAdressWorld.get, AppAdressStore.get, List.length_nil, hf, hget]; rfl
    rcases hinfo : R.appInfo appAddress.spec.name with err | appInfo
    · exact .inr (.inl ⟨err, reconcile_of_appInfo_error hget hf hinfo⟩)
    cases hn : needsUpdate appAddress.status (R.routerIPs P.iteration appInfo)
    · exact .inl (reconcile_quiet hget hf hinfo hn)
    · exact .inr (.inr ⟨appAddress, appInfo, rfl, rfl, hinfo, hn, reconcile_write hget hf hinfo hn⟩)
  · simp only [reconcile, AppAdressWorld.get, List.length_nil, hf]
    split
    exacts [.inl rfl, .inr (.inl ⟨err, rfl⟩)]

/-- **A failed pass changes nothing.** A pass returns `ctrl.Result{}`, never asking
for a requeue, or an error, and then it leaves the store as it found it. -/
theorem reconcile_outcome (P : AppAdressPass) (req : NamespacedName) (s : AppAdressStore) :
    (R.reconcile P req s).1 = .ok {} ∨ ∃ err, (R.reconcile P req s).1 = .error err ∧ (R.reconcile P req s).2.store = s := by
  rcases R.reconcile_cases P req s with h | ⟨err, h⟩ | ⟨_, _, -, -, -, -, h⟩ <;> rw [h]
  · exact .inl rfl
  · exact .inr ⟨err, rfl, rfl⟩
  · split
    exacts [.inr ⟨_, rfl, rfl⟩, .inl rfl]

/-- What a pass can do to the store: nothing, or write the status it computed into
the object under `req`. -/
theorem reconcile_store (P : AppAdressPass) (req : NamespacedName) (s : AppAdressStore) :
    (R.reconcile P req s).2.store = s ∨ ∃ appAddress ips, s.objects req = some appAddress ∧
      (R.reconcile P req s).2.store = s.put (appAddress.withRouterIPs ips P.now) := by
  rcases R.reconcile_cases P req s with h | ⟨_, h⟩ | ⟨appAddress, appInfo, hget, -, -, -, h⟩ <;> rw [h]
  · exact .inl rfl
  · exact .inl rfl
  · split
    exacts [.inl rfl, .inr ⟨appAddress, _, hget, rfl⟩]

/-- A pass for `req` leaves every other object as it is. -/
theorem reconcile_objects_of_ne {key : NamespacedName} (hk : key ≠ req) (P : AppAdressPass) (s : AppAdressStore) :
    (R.reconcile P req s).2.store.objects key = s.objects key := by
  rcases R.reconcile_store P req s with h | ⟨appAddress, ips, hget, h⟩
  · rw [h]
  · rw [h, AppAdressStore.put_objects, TsuruAppAdress.withRouterIPs_key, s.keyed _ _ hget, if_neg hk]

/-- A pass neither creates nor deletes an object, changes no spec, and clears no
`Ready`. -/
theorem reconcile_keeps (P : AppAdressPass) (req : NamespacedName) (s : AppAdressStore) :
    KeepsObjects s (R.reconcile P req s).2.store := by
  rcases R.reconcile_store P req s with h | ⟨appAddress, ips, hget, h⟩
  · rw [h]; exact .refl s
  have hkey := s.keyed _ _ hget
  rw [h]
  constructor
  · intro key
    by_cases hk : key = req
    · subst hk; simp [hkey, hget]
    · simp [hkey, hk]
  · intro key obj hobj hr
    by_cases hk : key = req
    · subst hk; exact ⟨appAddress.withRouterIPs ips P.now, by simp [hkey], rfl⟩
    · exact ⟨obj, by simp [hkey, hk, hobj], hr⟩

/-- **Over any run of passes**, for any objects and with any faults, map orders and
times, every object keeps its spec and stays Ready once Ready, and none appears or
disappears. -/
theorem runPasses_keeps (ps : List (NamespacedName × AppAdressPass)) (s : AppAdressStore) :
    KeepsObjects s (R.runPasses ps s) := by
  induction ps generalizing s with
  | nil => exact .refl s
  | cons p ps ih => exact (R.reconcile_keeps p.2 p.1 s).trans (ih _)

variable {R}

/-- A pass that got its object and returned no error leaves it Ready, with its spec
and the IPs it computed. -/
theorem reconcile_ok_stored {r : Result} (hget : s.objects req = some appAddress) (hf : P.fault 0 = none)
    (hinfo : R.appInfo appAddress.spec.name = .ok appInfo) (h : (R.reconcile P req s).1 = .ok r) :
    ∃ obj, (R.reconcile P req s).2.store.objects req = some obj ∧ obj.spec = appAddress.spec ∧
      obj.status.ready = true ∧ obj.status.routerIPs = .mk (R.routerIPs P.iteration appInfo) := by
  cases hn : needsUpdate appAddress.status (R.routerIPs P.iteration appInfo)
  · rw [reconcile_quiet hget hf hinfo hn]
    exact ⟨appAddress, hget, rfl, needsUpdate_eq_false.1 hn⟩
  · rw [reconcile_write hget hf hinfo hn] at h ⊢
    rcases h1 : P.fault 1 with _ | err <;> simp only [h1] at h ⊢
    · exact ⟨appAddress.withRouterIPs (R.routerIPs P.iteration appInfo) P.now, by simp [s.keyed _ _ hget], rfl, rfl, rfl⟩
    · cases h

end

/-! ## Settled objects -/

/-- The object under `req` is gone, or the tsuru API does not know its app, or it
is Ready with the IPs its app's hosts resolve to: what a successful pass leaves. -/
def Settled (req : NamespacedName) (s : AppAdressStore) : Prop :=
  ∀ appAddress, s.objects req = some appAddress → ∀ appInfo, R.appInfo appAddress.spec.name = .ok appInfo →
    appAddress.status.ready = true ∧ appAddress.status.routerIPs = .mk (R.routerIPs .stored appInfo)

section

variable {R} {P : AppAdressPass} {req : NamespacedName} {s : AppAdressStore}

/-- A pass for a settled object issues its Get and nothing else. -/
theorem reconcile_of_settled (h : R.Settled req s) (P : AppAdressPass) : (R.reconcile P req s).2 = ⟨s, [.get req]⟩ := by
  rcases R.reconcile_cases P req s with h' | ⟨_, h'⟩ | ⟨appAddress, appInfo, hget, -, hinfo, hn, -⟩
  · rw [h']
  · rw [h']
  · rw [R.routerIPs_iteration P.iteration .stored, needsUpdate_eq_false.2 (h appAddress hget appInfo hinfo)] at hn
    cases hn

/-- **A pass that got its object and returned no error leaves it settled.** -/
theorem reconcile_settles {r : Result} (hf : P.fault 0 = none) (h : (R.reconcile P req s).1 = .ok r) :
    R.Settled req (R.reconcile P req s).2.store := by
  intro obj hobj info hinfo'
  rcases hget : s.objects req with _ | appAddress
  · rcases R.reconcile_store P req s with hs | ⟨a, ips, ha, -⟩
    · rw [hs, hget] at hobj; cases hobj
    · cases hget.symm.trans ha
  rcases hinfo : R.appInfo appAddress.spec.name with err | appInfo
  · rw [reconcile_of_appInfo_error hget hf hinfo] at h; cases h
  obtain ⟨obj', hobj', hspec, hr, hips⟩ := reconcile_ok_stored hget hf hinfo h
  rw [hobj'] at hobj
  cases hobj
  rw [hspec, hinfo] at hinfo'
  cases hinfo'
  exact ⟨hr, hips.trans (by rw [R.routerIPs_iteration P.iteration .stored])⟩

/-- A settled object stays settled over a pass for any object. -/
theorem Settled.reconcile (h : R.Settled req s) (P : AppAdressPass) (key : NamespacedName) :
    R.Settled req (R.reconcile P key s).2.store := by
  by_cases hk : req = key
  · subst hk; rw [reconcile_of_settled h]; exact h
  · intro a ha; rw [R.reconcile_objects_of_ne hk] at ha; exact h a ha

theorem Settled.runPasses (h : R.Settled req s) (ps : List (NamespacedName × AppAdressPass)) :
    R.Settled req (R.runPasses ps s) := by
  induction ps generalizing s with
  | nil => exact h
  | cons p ps ih => exact ih (h.reconcile p.2 p.1)

/-- **Once a pass succeeds, the object's passes only read.** After a pass for `req`
that got its object and returned no error, any run of passes for any objects, with
any faults, map orders and times, leaves it so that a pass for `req` issues its Get
and nothing else, and leaves the store as it is. -/
theorem reconcile_after_run {r : Result} (hf : P.fault 0 = none) (h1 : (R.reconcile P req s).1 = .ok r)
    (ps : List (NamespacedName × AppAdressPass)) (P' : AppAdressPass) :
    (R.reconcile P' req (R.runPasses ps (R.reconcile P req s).2.store)).2 =
      ⟨R.runPasses ps (R.reconcile P req s).2.store, [.get req]⟩ :=
  reconcile_of_settled ((reconcile_settles hf h1).runPasses ps) P'

end

/-! ## What a pass writes -/

/-- **What a pass writes.** For every answer of the tsuru API and of the resolver, a
pass that gets its object and its app computes a strictly increasing list: the
string forms of the IPs that the successful lookups of the app's hosts return.
Every status it sends is Ready with that list, and once it returns no error the
object holds it. The list is the same for every order of the routers, of their
addresses and of the map iteration, and a failed lookup drops only IPs that lookup
returned. With the same answers, the pass after one that returned no error issues
its Get and nothing else. -/
theorem reconcile_routerIPs {R : TsuruAppAdressReconciler} {P : AppAdressPass} {req : NamespacedName}
    {s : AppAdressStore} {appAddress : TsuruAppAdress} {appInfo : AppInfo}
    (hget : s.objects req = some appAddress) (hf : P.fault 0 = none)
    (hinfo : R.appInfo appAddress.spec.name = .ok appInfo) :
    (R.routerIPs P.iteration appInfo).Sorted (· < ·) ∧
      (∀ ip, ip ∈ R.routerIPs P.iteration appInfo ↔
        ∃ r ∈ appInfo.routers, ∃ host ∈ R.routerHosts r, R.ResolvesTo host ip) ∧
      (∀ obj, AppAdressCall.updateStatus obj ∈ (R.reconcile P req s).2.log →
        obj.status.ready = true ∧ obj.status.routerIPs = .mk (R.routerIPs P.iteration appInfo)) ∧
      ((R.reconcile P req s).1 = .ok {} → ∃ obj, (R.reconcile P req s).2.store.objects req = some obj ∧
        obj.status.ready = true ∧ obj.status.routerIPs = .mk (R.routerIPs P.iteration appInfo)) ∧
      (∀ (it : MapIteration) (appInfo' : AppInfo) (rs : List AppRouter),
        List.Forall₂ (fun r r' => r'.address = r.address ∧ r'.addresses.Perm r.addresses) appInfo.routers rs →
        appInfo'.routers.Perm rs → R.routerIPs it appInfo' = R.routerIPs P.iteration appInfo) ∧
      (∀ (host : String) (e : Error),
        ((R.failingAt host e).routerIPs P.iteration appInfo).Sublist (R.routerIPs P.iteration appInfo) ∧
        ∀ ip ∈ R.routerIPs P.iteration appInfo,
          ip ∉ (R.failingAt host e).routerIPs P.iteration appInfo → R.ResolvesTo host ip) ∧
      ((R.reconcile P req s).1 = .ok {} → ∀ P' : AppAdressPass,
        (R.reconcile P' req (R.reconcile P req s).2.store).2 = ⟨(R.reconcile P req s).2.store, [.get req]⟩) := by
  refine ⟨R.routerIPs_sorted _ _, fun _ => R.mem_routerIPs_routers, fun obj hobj => ?_, fun h => ?_,
    fun it _ _ h₁ h₂ => R.routerIPs_eq_of_perm h₁ h₂ it _, fun host e => R.routerIPs_failingAt host e _ _,
    fun h P' => reconcile_after_run hf h [] P'⟩
  · rcases R.reconcile_cases P req s with h | ⟨_, h⟩ | ⟨a, info, ha, -, hi, -, h⟩
    · rw [h] at hobj; simp at hobj
    · rw [h] at hobj; simp at hobj
    · rw [hget] at ha; cases ha
      rw [hinfo] at hi; cases hi
      rw [h] at hobj
      split at hobj <;> simp only [List.mem_cons, List.not_mem_nil, or_false, AppAdressCall.updateStatus.injEq,
        reduceCtorEq, false_or] at hobj <;> subst hobj <;> simp
  · obtain ⟨obj, h₁, -, h₂, h₃⟩ := reconcile_ok_stored hget hf hinfo h
    exact ⟨obj, h₁, h₂, h₃⟩

/-- An object `web` whose app has a router with an `Address` and one with two
`Addresses`. -/
def webApp : TsuruAppAdress := { name := "web", spec := { name := "web" } }

def webStore : AppAdressStore := AppAdressStore.empty.put webApp

def webInfo : AppInfo := { routers := [{ address := "c" }, { addresses := ["b", "a"] }] }

/-- The lookup of `a` returns two addresses, that of `b` one of them and another,
and that of `c` times out. -/
def webReconciler : TsuruAppAdressReconciler where
  lookupIPAddr h :=
    if h = "a" then .ok [⟨[2]⟩, ⟨[1]⟩] else if h = "b" then .ok [⟨[1]⟩, ⟨[3]⟩] else .error ⟨.other, "i/o timeout"⟩
  appInfo _ := .ok webInfo
  urlToHost h := h
  ipString b := String.mk (b.map fun x => Char.ofNat (x.toNat + 48))

theorem reconcile_routerIPs_web :
    webStore.objects webApp.key = some webApp ∧ ({} : AppAdressPass).fault 0 = none ∧
      webReconciler.appInfo webApp.spec.name = .ok webInfo ∧
      (webReconciler.routerIPs MapIteration.stored webInfo).Sorted (· < ·) ∧
      (∀ ip, ip ∈ webReconciler.routerIPs MapIteration.stored webInfo ↔
        ∃ r ∈ webInfo.routers, ∃ host ∈ webReconciler.routerHosts r, webReconciler.ResolvesTo host ip) ∧
      (∀ obj, AppAdressCall.updateStatus obj ∈ (webReconciler.reconcile {} webApp.key webStore).2.log →
        obj.status.ready = true ∧ obj.status.routerIPs = .mk (webReconciler.routerIPs MapIteration.stored webInfo)) ∧
      ((webReconciler.reconcile {} webApp.key webStore).1 = .ok {} →
        ∃ obj, (webReconciler.reconcile {} webApp.key webStore).2.store.objects webApp.key = some obj ∧
          obj.status.ready = true ∧ obj.status.routerIPs = .mk (webReconciler.routerIPs MapIteration.stored webInfo)) ∧
      (∀ (it : MapIteration) (appInfo' : AppInfo) (rs : List AppRouter),
        List.Forall₂ (fun r r' => r'.address = r.address ∧ r'.addresses.Perm r.addresses) webInfo.routers rs →
        appInfo'.routers.Perm rs → webReconciler.routerIPs it appInfo' = webReconciler.routerIPs MapIteration.stored webInfo) ∧
      (∀ (host : String) (e : Error),
        ((webReconciler.failingAt host e).routerIPs MapIteration.stored webInfo).Sublist
          (webReconciler.routerIPs MapIteration.stored webInfo) ∧
        ∀ ip ∈ webReconciler.routerIPs MapIteration.stored webInfo,
          ip ∉ (webReconciler.failingAt host e).routerIPs MapIteration.stored webInfo → webReconciler.ResolvesTo host ip) ∧
      ((webReconciler.reconcile {} webApp.key webStore).1 = .ok {} → ∀ P' : AppAdressPass,
        (webReconciler.reconcile P' webApp.key (webReconciler.reconcile {} webApp.key webStore).2.store).2 =
          ⟨(webReconciler.reconcile {} webApp.key webStore).2.store, [.get webApp.key]⟩) :=
  ⟨rfl, rfl, rfl, reconcile_routerIPs (P := {}) rfl rfl rfl⟩

example : webReconciler.routerIPs .stored webInfo = ["1", "2", "3"] := by decide

example : (webReconciler.reconcile {} webApp.key (webReconciler.reconcile {} webApp.key webStore).2.store).2.log =
    [.get webApp.key] := by decide

end TsuruAppAdressReconciler

end AclOperator
