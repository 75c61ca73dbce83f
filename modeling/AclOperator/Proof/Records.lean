import AclOperator.Proof.Ensure

/-!
# Every address record is stored under the name of its key

`RecordsKeyed sum s`: every address record of `s` is stored under its own name,
and that name is the one its spec gives (`Kind.nameOf`): `validResourceName` of an
ACLDNSEntry's host or of an RpaasInstanceAddress's `ServiceName-Instance`, and a
TsuruAppAddress's `Spec.Name` itself, which `ensureTsuruAppAddress` sets to the
resource name. Every Create a pass can issue is a `RecordCall`, so

* `pass_keyed`: every pass keeps the invariant, whatever its cluster answers;
* `runEvents_keyed`: so does every run of passes and of changes that keep it;
* `ensure_keyed`: a record `ensure` returns from such a store is stored under the
  name it asked for, and its key has that name. `ensureDNSEntry h` returns the
  entry of a host whose name is `h`'s (`ensure_fns_keyed`): two keys meet only
  where their names do.
-/

namespace AclOperator

open Prog

variable {sum : String → Sum256} {C : Cluster} {s : Store} {w : World}

/-- Every address record is stored under its own name, the name its spec gives
(`Kind.nameOf`). -/
def RecordsKeyed (sum : String → Sum256) (s : Store) : Prop :=
  ∀ k n r, s.records k n = some r → r.name = n ∧ k.nameOf sum r.spec = n

theorem Store.records_putRecord_of_ne {k k' : Kind} (h : k' ≠ k) (s : Store) (name n : String) (r : Record k) :
    (s.putRecord k name r).records k' n = s.records k' n := by
  cases k <;> cases k' <;> first | rfl | exact absurd rfl h

theorem Store.putACL_records (s : Store) (key : NamespacedName) (acl : ACL) :
    (s.putACL key acl).records = s.records := by
  funext k; cases k <;> rfl

theorem Store.putNetworkPolicy_records (s : Store) (np : NetworkPolicy) :
    (s.putNetworkPolicy np).records = s.records := by
  funext k; cases k <;> rfl

/-- An answer changes the address records only for a call on records. -/
theorem answer_records {β : Type} (r : Req β) (s : Store) (h : r.call.onRecords = false) :
    (s.answer C r).2.records = s.records := by
  cases r <;> simp only [Req.call, Call.onRecords, Bool.true_eq_false] at h <;> simp only [Store.answer] <;>
    (try split) <;> simp [Store.putACL_records, Store.putNetworkPolicy_records]

/-! ## One answer -/

theorem RecordsKeyed.of_records {s' : Store} (hs : RecordsKeyed sum s) (h : s'.records = s.records) :
    RecordsKeyed sum s' := by
  intro k n r hr; rw [h] at hr; exact hs k n r hr

theorem RecordsKeyed.putRecord (hs : RecordsKeyed sum s) {k : Kind} {r : Record k}
    (hr : k.nameOf sum r.spec = r.name) : RecordsKeyed sum (s.putRecord k r.name r) := by
  intro k' n r' h
  by_cases hk : k' = k
  · subst hk
    rw [Store.records_putRecord] at h
    split at h
    · cases h; subst_vars; exact ⟨rfl, hr⟩
    · exact hs _ _ _ h
  · rw [Store.records_putRecord_of_ne hk] at h
    exact hs _ _ _ h

/-- A sub-reconciler rewrites only the status of the record it finds. -/
theorem RecordsKeyed.subReconcile (hs : RecordsKeyed sum s) (k : Kind) (name : String) :
    RecordsKeyed sum (subReconcile C k name s).2 := by
  unfold AclOperator.subReconcile
  split
  · exact hs
  · rename_i r hr
    split
    · rename_i status _
      obtain ⟨rfl, hspec⟩ := hs _ _ _ hr
      exact hs.putRecord (r := { r with status }) hspec
    · exact hs

theorem RecordsKeyed.answer (hs : RecordsKeyed sum s) (r : Req β) (hr : r.call.Keyed sum) :
    RecordsKeyed sum (s.answer C r).2 := by
  cases r with
  | createRecord k r =>
    simp only [Store.answer]; split
    · exact hs
    · exact hs.putRecord hr
  | reconcileRecord k name => exact hs.subReconcile k name
  | getRecord _ _ => exact hs
  | getACL _ | updateACLStatus _ | getNetworkPolicy _ | createNetworkPolicy _ | updateNetworkPolicy _ =>
    exact hs.of_records (answer_records _ s rfl)

theorem RecordsKeyed.issue (hs : RecordsKeyed sum w.store) (r : Req β) (hr : r.call.Keyed sum) :
    RecordsKeyed sum (w.issue C r).2.store := by
  unfold World.issue; split
  · exact hs
  · exact hs.answer r hr

/-! ## Runs -/

theorem Prog.Only.run_keyed {p : Prog α} (hp : Only (Call.Keyed sum) p) (hs : RecordsKeyed sum w.store) :
    RecordsKeyed sum (p.run C w).2.store := by
  induction hp generalizing w with
  | pure a => exact hs
  | call r k hr _ ih => exact ih _ (hs.issue r hr)

theorem reconcile_keyed (E : Env) (req : NamespacedName) : Only (Call.Keyed E.sum) (reconcile E req) :=
  reconcile_only E (fun _ => trivial) (fun _ => trivial) (fun _ => trivial) (fun _ => trivial) (fun _ => trivial)
    (fun acl => (desired_recordCall E acl).mono fun _ h => h.2) req

/-- **Every pass keeps every record under the name of its key**, whatever the
cluster answers and whichever calls fail. -/
theorem pass_keyed (E : Env) (C : Cluster) (req : NamespacedName) (hs : RecordsKeyed E.sum s) :
    RecordsKeyed E.sum (pass E C req s).2.store :=
  (reconcile_keyed E req).run_keyed hs

/-- An event that keeps the invariant: a pass that hashes with `sum`, or a change
that keeps it (a resolver writing a status, say). -/
def Event.KeepsKeyed (sum : String → Sum256) : Event → Prop
  | .pass E _ => E.sum = sum
  | .change f => ∀ s, RecordsKeyed sum s → RecordsKeyed sum (f s)

/-- **Every run keeps every record under the name its spec gives.** -/
theorem runEvents_keyed {req : NamespacedName} {evs : List Event} (hevs : ∀ ev ∈ evs, ev.KeepsKeyed sum)
    (hs : RecordsKeyed sum s) : RecordsKeyed sum (runEvents req evs s) := by
  induction evs generalizing s with
  | nil => exact hs
  | cons ev evs ih =>
    refine ih (fun e he => hevs e (.tail _ he)) ?_
    have hev := hevs ev (.head _)
    cases ev with
    | pass E C => subst hev; exact pass_keyed E C req hs
    | change f => exact hev s hs

theorem raceStore_recordsKeyed : RecordsKeyed sum raceStore := fun k _ _ h => by cases k <;> cases h

/-- Two passes for `ns/web` over `raceStore`, one with every record resolving, one
with its first call failing. -/
theorem runEvents_keyed_race :
    RecordsKeyed Env.plain.sum (runEvents ⟨"ns", "web"⟩
      [.pass Env.plain (Cluster.resolving ["1.2.3.4"]), .pass Env.plain (Cluster.faultAt 0 ⟨.other, "timeout"⟩)]
      raceStore) :=
  runEvents_keyed (fun ev hev => by
    simp only [List.mem_cons, List.not_mem_nil, or_false] at hev
    rcases hev with rfl | rfl <;> rfl) raceStore_recordsKeyed

/-! ## What `ensure` returns -/

/-- A record read from a keyed store is stored under its name, its key's name. -/
theorem RecordsKeyed.issue_getRecord (hs : RecordsKeyed sum w.store) {k : Kind} {n : String} {r : Record k}
    (h : (w.issue C (.getRecord k n)).1 = .ok r) : r.name = n ∧ k.nameOf sum r.spec = n := by
  have ha := (World.issue_of_ok h).1
  simp only [Store.answer] at ha
  split at ha
  · cases ha; exact hs _ _ _ ‹_›
  · cases ha

/-- **What `ensure` returns from a keyed store**: a record stored under the name
it asked for, whose key has that name. -/
theorem ensure_keyed {k : Kind} {n : String} {spec : k.Spec} {r : Record k} (hn : k.nameOf sum spec = n)
    (hs : RecordsKeyed sum w.store) (h : ((ensure k n spec).run C w).1 = .ok r) :
    r.name = n ∧ k.nameOf sum r.spec = n := by
  simp only [ensure, bind_eq, pure_eq, pure_bind, run_send_bind] at h
  rcases h₁ : (w.issue C (.getRecord k n)).1 with err | existing
  · simp only [h₁] at h
    split at h
    · cases h
    have hs₁ := hs.issue (C := C) (.getRecord k n) trivial
    simp only [run_send_bind] at h
    rcases h₂ : ((w.issue C (.getRecord k n)).2.issue C (.createRecord k { name := n, spec })).1 with err | ⟨⟩
    · simp only [h₂, run_pure] at h; cases h
    have hs₂ := hs₁.issue (C := C) (.createRecord k { name := n, spec }) hn
    simp only [h₂, run_send_bind] at h
    rcases h₃ : (((w.issue C (.getRecord k n)).2.issue C (.createRecord k { name := n, spec })).2.issue C
        (.reconcileRecord k n)).1 with err | ⟨⟩
    · simp only [h₃, run_pure] at h; cases h
    simp only [h₃, run_send] at h
    exact (hs₂.issue (.reconcileRecord k n) trivial).issue_getRecord h
  · simp only [h₁, run_pure] at h
    cases h
    exact hs.issue_getRecord h₁

/-- What the three `ensure*` functions return from a keyed store: the entry of a
host whose name is the host's name, the address of the app name's name (which its
spec holds), and the address of an instance whose `ServiceName-Instance` has the
name of the one asked for. -/
theorem ensure_fns_keyed (E : Env) (hs : RecordsKeyed E.sum w.store) :
    (∀ host r, ((ensureDNSEntry E host).run C w).1 = .ok r →
      validResourceName E.sum (ACLDNSEntrySpec.host r.spec) = validResourceName E.sum host) ∧
    (∀ appName r, ((ensureTsuruAppAddress E appName).run C w).1 = .ok r →
      TsuruAppAddressSpec.name r.spec = validResourceName E.sum appName) ∧
    (∀ ri r, ((ensureRpaasInstanceAddress E ri).run C w).1 = .ok r →
      Kind.nameOf E.sum .rpaasInstanceAddress r.spec =
        validResourceName E.sum (ri.serviceName ++ "-" ++ ri.instance)) :=
  ⟨fun _ _ h => (ensure_keyed (by rfl) hs h).2, fun _ _ h => (ensure_keyed (by rfl) hs h).2,
    fun _ _ h => (ensure_keyed (by rfl) hs h).2⟩


/-- The three `ensure*` calls from `raceStore`, with every record resolving. -/
theorem ensure_fns_keyed_race :
    (∀ host r, ((ensureDNSEntry Env.plain host).run (Cluster.resolving ["1.2.3.4"]) ⟨raceStore, []⟩).1 = .ok r →
      validResourceName Env.plain.sum (ACLDNSEntrySpec.host r.spec) = validResourceName Env.plain.sum host) ∧
    (∀ appName r, ((ensureTsuruAppAddress Env.plain appName).run (Cluster.resolving ["1.2.3.4"]) ⟨raceStore, []⟩).1 =
        .ok r → TsuruAppAddressSpec.name r.spec = validResourceName Env.plain.sum appName) ∧
    (∀ ri r, ((ensureRpaasInstanceAddress Env.plain ri).run (Cluster.resolving ["1.2.3.4"]) ⟨raceStore, []⟩).1 =
        .ok r → Kind.nameOf Env.plain.sum .rpaasInstanceAddress r.spec =
          validResourceName Env.plain.sum (ri.serviceName ++ "-" ++ ri.instance)) :=
  ensure_fns_keyed Env.plain raceStore_recordsKeyed

end AclOperator
