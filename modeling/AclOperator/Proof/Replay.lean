import AclOperator.Proof.Records

/-!
# Replaying `desired`

With no failing call, `ensure` finds its record or creates it, and leaves it
stored under the name it asked for; every record that was there stays as it was
(`ensure_run`). A successful run of `desired` therefore *replays*: from any store
that keeps the records the run left, `desired` returns the same selector and rules
again, leaves the store as it is and only reads.

* `Prog.Replays.bind`, `Prog.ReplaysOk.bind`: replaying runs compose.
* `ensure_grows`, `egressRulesForDestinations_grows`: a run keeps every record it
  finds.
* `ensure_replaysOk`, `desired_replaysOk`: a successful run replays.
* `run_shift`: with no failing call, a run appends the same calls to any log.
-/

namespace AclOperator

open Prog

variable {α β ε ε' : Type} {C : Cluster}

/-! ## Records that stay -/


/-- Every record of `s` is in `s'`, unchanged. -/
def RecordsGrow (s s' : Store) : Prop :=
  ∀ k n r, s.records k n = some r → s'.records k n = some r

theorem RecordsGrow.refl (s : Store) : RecordsGrow s s := fun _ _ _ h => h

theorem RecordsGrow.trans {s₁ s₂ s₃ : Store} (h₁ : RecordsGrow s₁ s₂) (h₂ : RecordsGrow s₂ s₃) :
    RecordsGrow s₁ s₃ := fun k n r h => h₂ k n r (h₁ k n r h)

theorem RecordsGrow.of_records_eq {s s' : Store} (h : s'.records = s.records) : RecordsGrow s s' := by
  intro k n r hr; rwa [h]

theorem RecordsGrow.putRecord {s : Store} {k : Kind} {n : String} (hn : s.records k n = none) (r : Record k) :
    RecordsGrow s (s.putRecord k n r) := by
  intro k' m r' h
  by_cases hk : k' = k
  · subst hk
    rw [Store.records_putRecord, if_neg]
    · exact h
    · rintro rfl; rw [hn] at h; cases h
  · rwa [Store.records_putRecord_of_ne hk]

/-- The call only reads. -/
def Call.isRead : Call → Bool
  | .getACL _ | .getNetworkPolicy _ | .getRecord _ _ => true
  | _ => false

/-- Every run of the program keeps every record it finds. -/
def Prog.Grows (C : Cluster) (p : Prog α) : Prop :=
  ∀ w, RecordsGrow w.store (p.run C w).2.store

/-- The run of `p` from `w` replays: from any world whose store keeps the records
that run left, `p` returns the same value, leaves the store as it is and only
reads. -/
def Prog.Replays (C : Cluster) (p : Prog α) (w : World) : Prop :=
  ∀ w', RecordsGrow (p.run C w).2.store w'.store →
    ∃ reads, p.run C w' = ((p.run C w).1, ⟨w'.store, w'.log ++ reads⟩) ∧ ∀ c ∈ reads, c.isRead

/-- Every successful run of `p` replays. -/
def Prog.ReplaysOk (C : Cluster) (p : Prog (Except ε α)) : Prop :=
  ∀ w a, (p.run C w).1 = .ok a → p.Replays C w

namespace Prog

theorem Grows.pure (a : α) : (Prog.pure a).Grows C := fun w => RecordsGrow.refl w.store

theorem Grows.bind {p : Prog α} {f : α → Prog β} (hp : p.Grows C) (hf : ∀ a, (f a).Grows C) :
    (p.bind f).Grows C := fun w => by
  rw [run_bind]; exact (hp w).trans (hf _ _)

theorem Replays.pure (a : α) (w : World) : (Prog.pure a).Replays C w :=
  fun w' _ => ⟨[], by simp, by simp⟩

theorem Replays.bind {p : Prog α} {f : α → Prog β} {w : World} {a : α} (ha : (p.run C w).1 = a)
    (hp : p.Replays C w) (hf : (f a).Replays C (p.run C w).2) (hg : (f a).Grows C) :
    (p.bind f).Replays C w := by
  intro w' hw'
  rw [run_bind, ha] at hw'
  obtain ⟨r₁, e₁, h₁⟩ := hp w' ((hg _).trans hw')
  obtain ⟨r₂, e₂, h₂⟩ := hf ⟨w'.store, w'.log ++ r₁⟩ hw'
  refine ⟨r₁ ++ r₂, ?_, fun c hc => (List.mem_append.1 hc).elim (h₁ c) (h₂ c)⟩
  rw [run_bind, e₁, run_bind, ha, e₂]
  simp only [List.append_assoc]

theorem ReplaysOk.pure (v : Except ε α) : (Prog.pure v).ReplaysOk C := fun w _ _ => Replays.pure v w

/-- A program that keeps the errors of `p` and continues its successes with a
program that replays. -/
theorem ReplaysOk.bind {p : Prog (Except ε α)} {f : Except ε α → Prog (Except ε' β)} (hp : p.ReplaysOk C)
    (herr : ∀ e, ∃ e', f (.error e) = .pure (.error e'))
    (hok : ∀ a, (f (.ok a)).ReplaysOk C ∧ (f (.ok a)).Grows C) : (p.bind f).ReplaysOk C := by
  intro w b h
  rw [run_bind] at h
  rcases ha : (p.run C w).1 with e | a
  · obtain ⟨e', he⟩ := herr e
    rw [ha, he] at h; cases h
  · rw [ha] at h
    exact Replays.bind ha (hp w a ha) ((hok a).1 _ _ h) (hok a).2

/-- A successful run, replayed from a world whose store keeps the records it left. -/
theorem ReplaysOk.replay {p : Prog (Except ε α)} {w w₁ : World} {a : α} (hp : p.ReplaysOk C)
    (h : p.run C w = (.ok a, w₁)) (w' : World) (hg : RecordsGrow w₁.store w'.store) :
    ∃ reads, p.run C w' = (.ok a, ⟨w'.store, w'.log ++ reads⟩) ∧ ∀ c ∈ reads, c.isRead := by
  have := hp w a (by rw [h]) w' (by rw [h]; exact hg)
  rwa [h] at this

end Prog


/-- With no failing call, a run does not depend on the log it starts from: it
appends the same calls to any log. -/
theorem run_shift (hC : ∀ i, C.fault i = none) (p : Prog α) (s : Store) (l : List Call) :
    p.run C ⟨s, l⟩ = ((p.run C ⟨s, []⟩).1, ⟨(p.run C ⟨s, []⟩).2.store, l ++ (p.run C ⟨s, []⟩).2.log⟩) := by
  induction p generalizing s l with
  | pure a => simp
  | call r k ih =>
    simp only [run, World.issue, hC]
    rw [ih _ _ (l ++ [r.call]), ih _ _ ([] ++ [r.call])]
    simp

/-! ## `ensure` -/

section

variable {k : Kind} {n : String} {spec : k.Spec} {w : World}


theorem Store.putRecord_putRecord (s : Store) (k : Kind) (n : String) (r r' : Record k) :
    (s.putRecord k n r).putRecord k n r' = s.putRecord k n r' := by
  cases k <;> simp only [Store.putRecord] <;> congr 1 <;> funext m <;> split <;> simp_all

/-- **`ensure` with no failing call, in closed form**: the record found, or a new
record resolved by its sub-reconciler. -/
theorem ensure_run (hC : ∀ i, C.fault i = none) :
    (ensure k n spec).run C w =
      match w.store.records k n with
      | some r => (.ok r, ⟨w.store, w.log ++ [.getRecord k n]⟩)
      | none =>
        match C.resolve k ⟨n, spec, {}⟩ with
        | .ok status => (.ok ⟨n, spec, status⟩, ⟨w.store.putRecord k n ⟨n, spec, status⟩,
            w.log ++ [.getRecord k n, .createRecord k ⟨n, spec, {}⟩, .reconcileRecord k n, .getRecord k n]⟩)
        | .error err => (.error err, ⟨w.store.putRecord k n ⟨n, spec, {}⟩,
            w.log ++ [.getRecord k n, .createRecord k ⟨n, spec, {}⟩, .reconcileRecord k n]⟩) := by
  cases hn : w.store.records k n with
  | some r => simp [ensure, World.issue, hC, Store.answer, hn, Req.call]
  | none =>
    cases hr : C.resolve k ⟨n, spec, {}⟩ <;>
      simp [ensure, World.issue, hC, Store.answer, hn, subReconcile, hr, Error.isNotFound, Error.notFound, Req.call,
        Store.putRecord_putRecord]


theorem ensure_grows (hC : ∀ i, C.fault i = none) : (ensure k n spec).Grows C := by
  intro w
  rw [ensure_run hC]
  split
  · exact RecordsGrow.refl _
  · rename_i hn
    split <;> exact RecordsGrow.putRecord hn _

/-- A record `ensure` returns is stored under its name after the run. -/
theorem ensure_stored (hC : ∀ i, C.fault i = none) {r : Record k} (h : ((ensure k n spec).run C w).1 = .ok r) :
    ((ensure k n spec).run C w).2.store.records k n = some r := by
  rw [ensure_run hC] at h ⊢
  cases hn : w.store.records k n with
  | some r' => simp only [hn] at h ⊢; cases h; rfl
  | none =>
    cases hr : C.resolve k ⟨n, spec, {}⟩ with
    | error e => simp only [hn, hr] at h; cases h
    | ok st => simp only [hn, hr] at h ⊢; cases h; simp

theorem ensure_replaysOk (hC : ∀ i, C.fault i = none) : (ensure k n spec).ReplaysOk C := by
  intro w r h w' hw'
  refine ⟨[.getRecord k n], ?_, by simp [Call.isRead]⟩
  rw [ensure_run hC (w := w'), hw' _ _ _ (ensure_stored hC h), h]

end

/-! ## The destination loop and `desired` -/

/-- `desired` stops rather than return no rule. -/
theorem desired_rules_ne_nil (E : Env) {acl : ACL} {w : World} {ps : Labels} {rules : List NetworkPolicyEgressRule}
    (h : ((desired E acl).run C w).1 = .ok (ps, rules)) : rules ≠ [] := by
  unfold desired at h
  split at h
  · cases h
  · simp only [bind_eq, pure_eq, pure_bind, run_bind] at h
    split at h
    · cases h
    · split at h
      · cases h
      · split at h
        · cases h
        · cases h; assumption

variable (E : Env) (hC : ∀ i, C.fault i = none)
include hC

theorem egressRulesForDestination_grows (d : ACLSpecDestination) : (egressRulesForDestination E d).Grows C := by
  rcases egressRulesForDestination_eq E d with ⟨v, h⟩ | ⟨k, n, spec, g, -, h⟩ <;> rw [h]
  · exact .pure _
  · exact (ensure_grows hC).bind fun _ => .pure _

theorem egressRulesForDestination_replaysOk (d : ACLSpecDestination) :
    (egressRulesForDestination E d).ReplaysOk C := by
  rcases egressRulesForDestination_eq E d with ⟨v, h⟩ | ⟨k, n, spec, g, -, h⟩ <;> rw [h]
  · exact .pure _
  · exact (ensure_replaysOk hC).bind (fun e => ⟨e, rfl⟩) fun _ => ⟨.pure _, .pure _⟩

theorem egressRulesForDestinations_grows (ds : List ACLSpecDestination) :
    (egressRulesForDestinations E ds).Grows C := by
  induction ds with
  | nil => exact .pure _
  | cons d ds ih =>
    simp only [egressRulesForDestinations, bind_eq, pure_eq]
    exact (egressRulesForDestination_grows E hC d).bind fun _ => by
      split
      · exact .pure _
      · exact ih.bind fun _ => by split <;> exact .pure _

theorem egressRulesForDestinations_replaysOk (ds : List ACLSpecDestination) :
    (egressRulesForDestinations E ds).ReplaysOk C := by
  induction ds with
  | nil => exact .pure _
  | cons d ds ih =>
    simp only [egressRulesForDestinations, bind_eq, pure_eq]
    exact (egressRulesForDestination_replaysOk E hC d).bind (fun _ => ⟨_, rfl⟩) fun _ =>
      ⟨ih.bind (fun e => ⟨e, rfl⟩) fun _ => ⟨.pure _, .pure _⟩,
        (egressRulesForDestinations_grows E hC ds).bind fun _ => by split <;> exact .pure _⟩

/-- **A successful run of `desired` replays**: from any store that keeps the
records it left, `desired` returns the same selector and rules, writes nothing and
only reads records. -/
theorem desired_replaysOk (acl : ACL) : (desired E acl).ReplaysOk C := by
  unfold desired
  split
  · exact .pure _
  · simp only [bind_eq, pure_eq, pure_bind]
    exact (egressRulesForDestinations_replaysOk E hC _).bind (fun _ => ⟨_, rfl⟩) fun _ => by
      dsimp only
      split
      · exact ⟨.pure _, .pure _⟩
      · split <;> exact ⟨.pure _, .pure _⟩

end AclOperator
