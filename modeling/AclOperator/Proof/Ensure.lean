import AclOperator.Proof.Status

/-!
# What the `ensure*` functions return

`ensure` gets the record by its resource name and creates it when it is missing.
The record it returns is the one stored under that name, whoever created it.

* `ensure_returns_foreign_record`: a successful call need not return the record of
  its own key. `ensureTsuruAppAddress "MyApp"` writes the resource name
  `validResourceName("MyApp")` into `Spec.Name`, and two rpaas instances whose
  `ServiceName + "-" + Instance` agree share one record.
* `concurrent_create_marks_unready`: the Get and the Create of `ensure` are two
  requests. When two passes interleave them on one host, the later Create gets
  AlreadyExists, and its pass marks its ACL unready.
-/

namespace AclOperator

open Prog

/-! ## `ensure`, by whether the record is there -/

section

variable {C : Cluster} {k : Kind} {name : String} {spec : k.Spec} {w : World}

@[simp] theorem Store.records_putRecord (s : Store) (k : Kind) (name n : String) (r : Record k) :
    (s.putRecord k name r).records k n = if n = name then some r else s.records k n := by
  cases k <;> rfl

/-- `ensure` of a missing record, with no failing call: it creates the record, the
sub-reconciler resolves it, and the Get returns it. -/
theorem ensure_run_missing {status : AddressStatus} (hf : ∀ i, C.fault i = none)
    (hn : w.store.records k name = none) (hr : C.resolve k ⟨name, spec, {}⟩ = .ok status) :
    ((ensure k name spec).run C w).1 = .ok ⟨name, spec, status⟩ ∧
      ((ensure k name spec).run C w).2.store.records k name = some ⟨name, spec, status⟩ := by
  simp [ensure, World.issue, hf, Store.answer, hn, subReconcile, hr, Error.isNotFound, Error.notFound]

/-- `ensure` of a record that is there returns it and writes nothing. -/
theorem ensure_run_found {r : Record k} (hf : ∀ i, C.fault i = none) (hn : w.store.records k name = some r) :
    ((ensure k name spec).run C w).1 = .ok r ∧ ((ensure k name spec).run C w).2.store = w.store := by
  simp [ensure, World.issue, hf, Store.answer, hn]

end

variable (E : Env)

/-- **A successful `ensure*` call can return another key's record.** From an empty
store, `ensureTsuruAppAddress "MyApp"` returns a record whose `Spec.Name` is not
`MyApp`; after `ensureRpaasInstanceAddress {a-b, c}`, the call for `{a, b-c}`
returns the record of `{a-b, c}`. -/
theorem ensure_returns_foreign_record :
    (∃ r, ((ensureTsuruAppAddress E "MyApp").run Cluster.reliable ⟨Store.empty, []⟩).1 = .ok r ∧
        TsuruAppAddressSpec.name r.spec ≠ "MyApp") ∧
      ∃ r, ((ensureRpaasInstanceAddress E ⟨"a-b", "c"⟩ >>= fun _ => ensureRpaasInstanceAddress E ⟨"a", "b-c"⟩).run
          Cluster.reliable ⟨Store.empty, []⟩).1 = .ok r ∧
        r.spec ≠ ({ serviceName := "a", «instance» := "b-c" } : RpaasInstanceAddressSpec) := by
  refine ⟨⟨⟨validResourceName E.sum "MyApp", ({ name := validResourceName E.sum "MyApp" } : TsuruAppAddressSpec),
      {}⟩, (ensure_run_missing (fun _ => rfl) (by rfl) (by rfl)).1, fun h => ?_⟩,
    ⟨validResourceName E.sum "a-b-c", ({ serviceName := "a-b", «instance» := "c" } : RpaasInstanceAddressSpec), {}⟩,
    rfl, fun h => ?_⟩
  · -- the resource name of `MyApp` starts with `y`
    exact absurd (congrArg (fun s : String => s.toList.head?) h) (show some 'y' ≠ some 'M' by decide)
  · exact absurd (congrArg RpaasInstanceAddressSpec.serviceName h) (show "a-b" ≠ "a" by decide)

/-! ## Two passes at once -/

/-- The value a program has finished with, if it has. -/
def Prog.value? : Prog α → Option α
  | .pure a => some a
  | .call _ _ => none

/-- A cluster in which every call succeeds and every sub-reconciler finds the
record ready at `ips`. -/
def Cluster.resolving (ips : List String) : Cluster where
  resolve _ _ := .ok { ready := true, ips }
  fault _ := none
  now := 1

/-- The ACLs `ns/web` and `ns/api`, both allowed to reach `example.com` on TCP/443,
and no address record. -/
def raceStore : Store :=
  let web := dnsACL [⟨"TCP", 443⟩]
  let api := { web with name := "api" }
  (Store.empty.putACL web.key web).putACL api.key api

/-- Pass `web` reads its ACL, its policy and the missing ACLDNSEntry; pass `api`
does the same; `web` creates the entry, then `api` tries to; both then run to the
end. -/
def raceSchedule : List Bool :=
  [false, false, false, true, true, true, false, true, true, false, false, false, false]

/-- The two passes of `raceStore` after `raceSchedule`: the programs left of each
and the store. -/
def race : Prog (Except Error Result) × Prog (Except Error Result) × Store :=
  interleave (Cluster.resolving ["1.2.3.4"]) raceSchedule
    (reconcile Env.plain ⟨"ns", "web"⟩, reconcile Env.plain ⟨"ns", "api"⟩, raceStore)

/-- **A lost Create race marks the ACL unready.** In `raceSchedule`, pass `api` gets
AlreadyExists from its Create of `example.com`, returns `ctrl.Result{}` and leaves
its ACL `Ready = false` with that error as the reason, while pass `web` makes its
ACL ready. -/
theorem concurrent_create_marks_unready :
    race.2.1.value? = some (.ok {}) ∧
      (race.2.2.acls ⟨"ns", "api"⟩).map (·.status) = some
        { ready := false,
          reason := "could not generate egress rule for destination destination, err: example.com already exists" } ∧
      (race.2.2.acls ⟨"ns", "web"⟩).map (·.status.ready) = some true :=
  ⟨rfl, rfl, rfl⟩

end AclOperator
