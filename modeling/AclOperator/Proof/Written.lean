import AclOperator.Proof.Frame
import AclOperator.Proof.Ready

/-!
# What the ACL controller writes, and what it never does

The controller issues no Delete, and the API server's answers to what it does issue
change only statuses, records it creates and policies it writes. From the store
before to the store after (`Retains`), every ACL keeps all but its status and none
appears, every policy stays with its creation time, and every address record keeps
its name and its spec. Every policy a pass writes has the shape lines 94–154 give it
(`NetworkPolicy.Shaped`): an owner, the one policy type Egress, a pod selector with
a label, so that it never selects every pod of its namespace, and at least one
egress rule.

Both are relations that every answer makes and that chain (`AnswersKeep`); one
lemma lifts such a relation to a run and to a run of events, and one more to the
workers' interleavings (`Workers`).

* `Retains.run`: no run of any program deletes anything, or changes more than
  statuses, records and policies, whatever the cluster answers and whichever calls
  fail: the answers only ever do so.
* `pass_shaped`, `runEvents_shaped`: every policy after them has that shape, or was
  in the store before, as it is; from a store without policies, every policy has it
  (`ShapedSince.shaped`).
* `unrequeued_pass_marks_none_ready`: a pass that does not return `Requeue` (an
  error, or an unready exit) marks no ACL Ready, whichever calls fail.
-/

namespace AclOperator

open Prog

variable {α β : Type} {C : Cluster} {s s' : Store}

/-! ## Relations that every answer makes -/

/-- `Rel` holds from the store an answer to a call satisfying `P` is given to the
store it leaves, whatever the cluster, and it chains. -/
structure AnswersKeep (P : Call → Prop) (Rel : Store → Store → Prop) : Prop where
  refl : ∀ s, Rel s s
  trans : ∀ {s₁ s₂ s₃}, Rel s₁ s₂ → Rel s₂ s₃ → Rel s₁ s₃
  answer : ∀ (C : Cluster) {β : Type} (r : Req β) (s : Store), P r.call → Rel s (s.answer C r).2

/-- An event after which `Rel` holds: a pass, or a change that makes it. -/
def Event.Keeps (Rel : Store → Store → Prop) : Event → Prop
  | .pass _ _ => True
  | .change f => ∀ s, Rel s (f s)

namespace AnswersKeep

variable {P : Call → Prop} {Rel : Store → Store → Prop}

theorem issue (hR : AnswersKeep P Rel) {r : Req β} (hr : P r.call) (w : World) :
    Rel w.store (w.issue C r).2.store := by
  unfold World.issue; split
  · exact hR.refl _
  · exact hR.answer C r _ hr

theorem run (hR : AnswersKeep P Rel) {p : Prog α} (hp : Only P p) (w : World) :
    Rel w.store (p.run C w).2.store := by
  induction hp generalizing w with
  | pure a => exact hR.refl _
  | call r k hr _ ih => exact hR.trans (hR.issue hr w) (ih _ _)

theorem stepOn (hR : AnswersKeep P Rel) {p : Prog α} (hp : Only P p) (s : Store) : Rel s (p.stepOn C s).2 := by
  cases hp with
  | pure a => exact hR.refl s
  | call r k hr _ => exact hR.answer C r s hr

theorem runEvents (hR : AnswersKeep P Rel) (hpass : ∀ E req, Only P (reconcile E req)) {req : NamespacedName}
    {evs : List Event} (hevs : ∀ ev ∈ evs, ev.Keeps Rel) (s : Store) : Rel s (AclOperator.runEvents req evs s) := by
  induction evs generalizing s with
  | nil => exact hR.refl s
  | cons ev evs ih =>
    refine hR.trans ?_ (ih (fun e he => hevs e (.tail _ he)) _)
    have hev := hevs ev (.head _)
    cases ev with
    | pass E C' => exact hR.run (C := C') (hpass E req) ⟨s, []⟩
    | change f => exact hev s

end AnswersKeep

/-! ## Nothing is deleted -/

/-- From `s` to `s'` nothing is deleted and only statuses, records and policies
change: every ACL keeps all but its status, and none appears; every policy stays,
with its creation time; every address record keeps its name and its spec. -/
structure Retains (s s' : Store) : Prop where
  acls : ∀ key, (s'.acls key).map ACL.withoutStatus = (s.acls key).map ACL.withoutStatus
  policies : ∀ key np, s.networkPolicies key = some np →
    ∃ np', s'.networkPolicies key = some np' ∧ np'.creationTimestamp = np.creationTimestamp
  records : ∀ k n r, s.records k n = some r → ∃ r', s'.records k n = some r' ∧ r'.name = r.name ∧ r'.spec = r.spec

namespace Retains

theorem refl (s : Store) : Retains s s :=
  ⟨fun _ => rfl, fun _ np h => ⟨np, h, rfl⟩, fun _ _ r h => ⟨r, h, rfl, rfl⟩⟩

theorem trans {s₁ s₂ s₃ : Store} (h₁ : Retains s₁ s₂) (h₂ : Retains s₂ s₃) : Retains s₁ s₃ := by
  refine ⟨fun key => (h₂.acls key).trans (h₁.acls key), fun key np h => ?_, fun k n r h => ?_⟩
  · obtain ⟨np₂, h, ht₂⟩ := h₁.policies key np h
    obtain ⟨np₃, h, ht₃⟩ := h₂.policies key np₂ h
    exact ⟨np₃, h, ht₃.trans ht₂⟩
  · obtain ⟨r₂, h, hn₂, hs₂⟩ := h₁.records k n r h
    obtain ⟨r₃, h, hn₃, hs₃⟩ := h₂.records k n r₂ h
    exact ⟨r₃, h, hn₃.trans hn₂, hs₃.trans hs₂⟩

/-- A store with the same ACLs, every policy, and every record, perhaps with another
status. -/
theorem of_acls (hacl : s'.acls = s.acls)
    (hpol : ∀ key np, s.networkPolicies key = some np →
      ∃ np', s'.networkPolicies key = some np' ∧ np'.creationTimestamp = np.creationTimestamp)
    (hrec : ∀ k n r, s.records k n = some r → ∃ r', s'.records k n = some r' ∧ r'.name = r.name ∧ r'.spec = r.spec) :
    Retains s s' :=
  ⟨fun _ => by rw [hacl], hpol, hrec⟩

/-- A record stored where there was none, or one that keeps its name and spec. -/
theorem putRecord {k : Kind} {n : String} {r : Record k}
    (h : ∀ r₀, s.records k n = some r₀ → r.name = r₀.name ∧ r.spec = r₀.spec) : Retains s (s.putRecord k n r) := by
  refine of_acls (Store.putRecord_acls s k n r) (fun key np h => ⟨np, ?_, rfl⟩) fun k' n' r' h' => ?_
  · rwa [Store.putRecord_networkPolicies]
  by_cases hk : k' = k
  · subst hk
    rw [Store.records_putRecord]
    split
    · subst_vars; exact ⟨r, rfl, h r' h'⟩
    · exact ⟨r', h', rfl, rfl⟩
  · exact ⟨r', (Store.records_putRecord_of_ne hk s n n' r).trans h', rfl, rfl⟩

/-- A policy written where there was none, or over one whose creation time it keeps. -/
theorem putNetworkPolicy {np : NetworkPolicy}
    (h : ∀ np₀, s.networkPolicies np.key = some np₀ → np.creationTimestamp = np₀.creationTimestamp) :
    Retains s (s.putNetworkPolicy np) := by
  refine of_acls rfl (fun key np₀ h₀ => ?_) fun k n r hr => ⟨r, by rwa [Store.putNetworkPolicy_records], rfl, rfl⟩
  simp only [Store.putNetworkPolicy]
  split
  · subst_vars; exact ⟨np, rfl, h np₀ h₀⟩
  · exact ⟨np₀, h₀, rfl⟩

theorem subReconcile (k : Kind) (name : String) (s : Store) : Retains s (AclOperator.subReconcile C k name s).2 := by
  unfold AclOperator.subReconcile
  split
  · exact refl s
  · rename_i r hr
    split
    · exact putRecord fun r₀ h => by rw [hr] at h; cases h; exact ⟨rfl, rfl⟩
    · exact refl s

/-- **Every answer deletes nothing and changes only statuses, records and
policies.** -/
theorem answer (C : Cluster) (r : Req β) (s : Store) : Retains s (s.answer C r).2 := by
  cases r with
  | getACL _ | getNetworkPolicy _ | getRecord _ _ => exact refl s
  | updateACLStatus acl =>
    simp only [Store.answer]; split
    · rename_i stored hstored
      exact ⟨(PassFrame.putACL (R := (· = acl.key)) hstored rfl acl.status).specs, fun _ np h => ⟨np, h, rfl⟩,
        fun _ _ r h => ⟨r, by rwa [Store.putACL_records], rfl, rfl⟩⟩
    · exact refl s
  | createNetworkPolicy np =>
    simp only [Store.answer]; split
    · exact refl s
    · rename_i hnone
      exact putNetworkPolicy fun np₀ (h : s.networkPolicies np.key = some np₀) => by rw [hnone] at h; cases h
  | updateNetworkPolicy np =>
    simp only [Store.answer]; split
    · rename_i stored hstored
      exact putNetworkPolicy fun np₀ (h : s.networkPolicies np.key = some np₀) => by rw [hstored] at h; cases h; rfl
    · exact refl s
  | createRecord k r =>
    simp only [Store.answer]; split
    · exact refl s
    · rename_i hnone
      exact putRecord fun r₀ h => by rw [hnone] at h; cases h
  | reconcileRecord k name => exact subReconcile k name s

theorem answersKeep : AnswersKeep (fun _ => True) Retains :=
  ⟨refl, trans, fun C _ r s _ => answer C r s⟩

end Retains

theorem Prog.only_true (p : Prog α) : Only (fun _ => True) p := by
  induction p with
  | pure a => exact .pure a
  | call r k ih => exact .call r k trivial ih

/-- **The API server deletes nothing.** Whatever program runs against it, whatever
it answers and whichever calls fail, every ACL has all but its status as before,
and no ACL appears; every policy is still there, with its creation time; every
address record keeps its name and its spec. A fact of the answers: the controller's
programs issue no Delete because `Req` has none. -/
theorem Retains.run (p : Prog α) (w : World) : Retains w.store (p.run C w).2.store :=
  Retains.answersKeep.run (Prog.only_true p) w

/-! ## The shape of a written policy -/

/-- The shape `Reconcile` gives every policy it writes: an owner (line 98), the one
policy type Egress (line 106), the pod selector of the source, which has a label
(line 120), and the rules of the destinations, of which there is one at least
(line 147). -/
structure NetworkPolicy.Shaped (np : NetworkPolicy) : Prop where
  owned : np.ownerReferences.toList ≠ []
  egressOnly : np.policyTypes.toList = [.egress]
  selects : np.podSelector.matchLabels.entries ≠ []
  egress : np.egress.toList ≠ []

/-- The store keeps the shape of a policy it is given. -/
theorem NetworkPolicy.Shaped.roundTrip {np : NetworkPolicy} (h : np.Shaped) (t : Option Nat) :
    NetworkPolicy.Shaped { np.roundTrip with creationTimestamp := t } :=
  ⟨by simpa [NetworkPolicy.roundTrip] using h.owned, by simpa [NetworkPolicy.roundTrip] using h.egressOnly,
    h.selects, by simpa [NetworkPolicy.roundTrip] using h.egress⟩

/-- The call writes only policies of that shape. -/
def Call.WritesShaped : Call → Prop
  | .createNetworkPolicy np | .updateNetworkPolicy np => np.Shaped
  | _ => True

/-- Every policy of `s'` has the shape, or is in `s` as it is. -/
def ShapedSince (s s' : Store) : Prop :=
  ∀ key np, s'.networkPolicies key = some np → np.Shaped ∨ s.networkPolicies key = some np

namespace ShapedSince

theorem of_networkPolicies (h : s'.networkPolicies = s.networkPolicies) : ShapedSince s s' :=
  fun _ _ hnp => .inr (h ▸ hnp)

theorem putNetworkPolicy {np : NetworkPolicy} (h : np.Shaped) : ShapedSince s (s.putNetworkPolicy np) := by
  intro key np' hnp
  simp only [Store.putNetworkPolicy] at hnp
  split at hnp
  · cases hnp; exact .inl h
  · exact .inr hnp

theorem answersKeep : AnswersKeep Call.WritesShaped ShapedSince := by
  refine ⟨fun s => of_networkPolicies rfl, fun h₁ h₂ key np h => ?_, fun C β r s hr => ?_⟩
  · rcases h₂ key np h with h | h
    · exact .inl h
    · exact h₁ key np h
  cases r with
  | createNetworkPolicy np =>
    simp only [Store.answer]; split
    · exact of_networkPolicies rfl
    · exact putNetworkPolicy (hr.roundTrip _)
  | updateNetworkPolicy np =>
    simp only [Store.answer]; split
    · exact putNetworkPolicy (hr.roundTrip _)
    · exact of_networkPolicies rfl
  | _ => exact of_networkPolicies (answer_networkPolicies _ s rfl)

/-- From a store without policies, every policy has the shape. -/
theorem shaped (h : ShapedSince s s') (h₀ : ∀ key, s.networkPolicies key = none) (key : NamespacedName)
    (np : NetworkPolicy) (hnp : s'.networkPolicies key = some np) : np.Shaped :=
  (h key np hnp).resolve_right (by simp [h₀])

end ShapedSince

/-! ## A pass writes only policies of that shape -/

theorem Returns.bind {Q : α → Prop} {R : β → Prop} {p : Prog α} {f : α → Prog β} (hp : Returns Q p)
    (hf : ∀ a, Q a → Returns R (f a)) : Returns R (p.bind f) := by
  induction hp with
  | pure a h => exact hf a h
  | call r k _ ih => exact .call r _ ih

theorem Prog.Only.bind_returns {P : Call → Prop} {Q : α → Prop} {p : Prog α} {f : α → Prog β} (hp : Only P p)
    (hq : Returns Q p) (hf : ∀ a, Q a → Only P (f a)) : Only P (p.bind f) := by
  induction hp with
  | pure a => cases hq with | pure _ h => exact hf a h
  | call r k hr _ ih => cases hq with | call _ _ hk => exact .call r _ hr fun b => ih b (hk b)

theorem podSelectorForSource_entries {source : ACLSpecSource} {ps : Labels}
    (h : podSelectorForSource source = some ps) : ps.entries ≠ [] := by
  unfold podSelectorForSource at h
  split at h
  · cases h; simp [podSelectorForTsuruApp, Labels.single]
  · obtain ⟨ri, -, rfl⟩ := Option.map_eq_some'.1 h
    simp [podSelectorForRpasInstance, Labels.pair]

/-- `desired` returns a selector with a label, and rules. -/
theorem desired_returns (E : Env) (acl : ACL) :
    Returns (fun d => ∀ ps rules, d = .ok (ps, rules) → ps.entries ≠ [] ∧ rules ≠ []) (desired E acl) := by
  unfold desired
  split
  · exact .pure _ fun _ _ h => by cases h
  · rename_i ps hps
    simp only [bind_eq, pure_eq, pure_bind]
    refine (Returns.trivial _).bind fun r _ => ?_
    repeat' split
    all_goals exact .pure _ fun _ _ h => by cases h <;> exact ⟨podSelectorForSource_entries hps, ‹_›⟩

/-- `fetch` returns a policy that `setMeta` prepared. -/
theorem fetch_returns_setMeta (req : NamespacedName) :
    Returns (fun res => ∀ acl np changed, res = .ok (acl, np, changed) → ∃ n np₀, np = (setMeta acl n np₀).1)
      (fetch req) := by
  unfold fetch
  simp only [bind_eq, pure_eq]
  refine .call _ _ fun b => ?_
  simp only [pure_bind]
  split
  · exact .pure _ fun _ _ _ h => by cases h
  · refine .call _ _ fun b => ?_
    simp only [pure_bind]
    split
    · exact .pure _ fun _ _ _ h => by cases h
    · refine .pure _ fun _ _ _ h => ?_
      simp only [Except.ok.injEq, Prod.ext_iff] at h
      obtain ⟨rfl, h, -⟩ := h
      exact ⟨_, _, h.symm⟩

/-- The policy `setMeta` and then `setSpec` prepare, from a selector with a label and
rules, has the shape. -/
theorem setSpec_setMeta_shaped (acl : ACL) (n : String) (np : NetworkPolicy) (changed : Bool) {ps : Labels}
    {rules : List NetworkPolicyEgressRule} (hps : ps.entries ≠ []) (hrules : rules ≠ []) :
    (setSpec (setMeta acl n np).1 changed ps rules).1.Shaped := by
  rw [setSpec_fst, setMeta_fst_eq]
  refine ⟨?_, rfl, hps, hrules⟩
  dsimp only
  split
  · simp
  · rename_i h; simpa using h

theorem writeNetworkPolicy_writesShaped {acl : ACL} {np : NetworkPolicy} (h : np.Shaped) (changed : Bool) :
    Only Call.WritesShaped (writeNetworkPolicy acl np changed) := by
  rcases writeNetworkPolicy_eq acl np changed with ⟨-, -, hw⟩ | ⟨r, hr, hw⟩ <;> rw [hw]
  · exact .pure _
  · refine Only.send_bind (by rcases hr with rfl | ⟨rfl, -⟩ <;> exact h) fun b => ?_
    rcases b with err | ⟨⟩
    · exact .pure _
    · simp only [updateStatus, bind_eq]
      exact Only.send_bind trivial fun b => by cases b <;> exact .pure _

/-- **Every policy a pass can write has the shape**, whatever the answers. -/
theorem reconcile_writesShaped (E : Env) (req : NamespacedName) : Only Call.WritesShaped (reconcile E req) := by
  simp only [reconcile, bind_eq]
  refine (fetch_only (fun _ => trivial) (fun _ => trivial) req).bind_returns (fetch_returns_setMeta req)
    fun res hres => ?_
  rcases res with err | ⟨acl, np, changed⟩
  · exact .pure _
  · obtain ⟨n, np₀, rfl⟩ := hres acl np changed rfl
    refine ((desired_recordCall E acl).mono fun c h => ?_).bind_returns (desired_returns E acl) fun d hd => ?_
    · cases c <;> first | trivial | cases h.1
    rcases d with stop | ⟨ps, rules⟩
    · exact unready_only (fun _ => trivial) _ _
    · obtain ⟨hps, hrules⟩ := hd ps rules rfl
      exact writeNetworkPolicy_writesShaped (setSpec_setMeta_shaped acl n np₀ _ hps hrules) _

/-- **Every policy after a pass has the shape, or was there before as it is**,
whatever the cluster answers and whichever calls fail. -/
theorem pass_shaped (E : Env) (C : Cluster) (req : NamespacedName) (s : Store) :
    ShapedSince s (pass E C req s).2.store :=
  ShapedSince.answersKeep.run (reconcile_writesShaped E req) ⟨s, []⟩

/-- **Over a run of passes and of changes that write only policies of the shape,
every policy has the shape or was there at the start.** -/
theorem runEvents_shaped {req : NamespacedName} {evs : List Event} (hevs : ∀ ev ∈ evs, ev.Keeps ShapedSince)
    (s : Store) : ShapedSince s (runEvents req evs s) :=
  ShapedSince.answersKeep.runEvents reconcile_writesShaped hevs s

/-- A pass for `bareACL`, then a change that leaves the store as it is. -/
theorem runEvents_shaped_bare :
    (∀ ev ∈ [Event.pass Env.plain Cluster.reliable, .change id], ev.Keeps ShapedSince) ∧
      ShapedSince bareStore (runEvents bareACL.key [.pass Env.plain Cluster.reliable, .change id] bareStore) :=
  have h : ∀ ev ∈ [Event.pass Env.plain Cluster.reliable, .change id], ev.Keeps ShapedSince := fun ev hev => by
    simp only [List.mem_cons, List.not_mem_nil, or_false] at hev
    rcases hev with rfl | rfl
    · trivial
    · exact fun s => ShapedSince.of_networkPolicies rfl
  ⟨h, runEvents_shaped h bareStore⟩

/-! ## A pass that does not requeue marks no ACL Ready -/

/-- Every Ready ACL of `s'` is in `s` as it is. -/
def NoneMarkedReady (s s' : Store) : Prop :=
  ∀ key acl, s'.acls key = some acl → acl.status.ready = true → s.acls key = some acl

theorem NoneMarkedReady.of_acls (h : s'.acls = s.acls) : NoneMarkedReady s s' :=
  fun _ _ hacl _ => h ▸ hacl

/-- A status update that fails leaves the store as it is. -/
theorem issue_updateACLStatus_error {w : World} {acl : ACL} {err : Error}
    (h : (w.issue C (.updateACLStatus acl)).1 = .error err) : (w.issue C (.updateACLStatus acl)).2.store = w.store := by
  rcases hf : C.fault w.log.length with _ | e
  · cases hs : w.store.acls acl.key <;> simp only [World.issue, hf, Store.answer, hs] at h ⊢
    cases h
  · simp only [World.issue, hf]

/-- The status update after a write leaves the ACLs alone unless it returns
`Requeue`. -/
theorem updateStatus_acls {w : World} {acl : ACL} {name : String}
    (h : ((updateStatus acl name).run C w).1 ≠ .ok requeue) :
    ((updateStatus acl name).run C w).2.store.acls = w.store.acls := by
  simp only [updateStatus, bind_eq, run_send_bind] at h ⊢
  rcases hr : (w.issue C (.updateACLStatus
      { acl with status := { acl.status with networkPolicy := name, ready := true, reason := "" } })).1 with err | ⟨⟩
  · simp only [hr, pure_eq, run_pure]
    rw [issue_updateACLStatus_error hr]
  · simp only [hr, pure_eq, run_pure, ne_eq, not_true_eq_false] at h

/-- The write step leaves the ACLs alone unless it returns `Requeue`. -/
theorem writeNetworkPolicy_acls {w : World} {acl : ACL} {np : NetworkPolicy} {changed : Bool}
    (h : ((writeNetworkPolicy acl np changed).run C w).1 ≠ .ok requeue) :
    ((writeNetworkPolicy acl np changed).run C w).2.store.acls = w.store.acls := by
  rcases writeNetworkPolicy_eq acl np changed with ⟨-, -, hw⟩ | ⟨r, hr, hw⟩ <;> rw [hw] at h ⊢
  · exact absurd rfl h
  have hwr : (w.issue C r).2.store.acls = w.store.acls :=
    issue_acls r w (by rcases hr with rfl | ⟨rfl, -⟩ <;> rfl)
  simp only [run_send_bind] at h ⊢
  rcases hb : (w.issue C r).1 with err | ⟨⟩
  · simpa only [hb, run_pure] using hwr
  · simp only [hb] at h ⊢
    exact (updateStatus_acls h).trans hwr

/-- The unready status update marks no ACL Ready. -/
theorem unready_noneMarkedReady (acl : ACL) (reason : String) (w : World) :
    NoneMarkedReady w.store ((unready acl reason).run C w).2.store := by
  rw [unready_run]
  unfold World.issue
  split
  · exact NoneMarkedReady.of_acls rfl
  · simp only [Store.answer]
    split
    · intro key a h hready
      simp only [Store.putACL] at h
      split at h
      · cases h; cases hready
      · exact h
    · exact NoneMarkedReady.of_acls rfl

/-- **A pass that does not return `Requeue` marks no ACL Ready.** Whatever its
cluster answers and whichever calls fail, a pass that returns an error, or
`ctrl.Result{}` from an unready exit, leaves every Ready ACL as it found it: the
one ACL it may write, it marks unready. -/
theorem unrequeued_pass_marks_none_ready (E : Env) {req : NamespacedName} (hpass : (pass E C req s).1 ≠ .ok requeue) :
    NoneMarkedReady s (pass E C req s).2.store := by
  rcases hf : (fetch req).run C ⟨s, []⟩ with ⟨err | ⟨acl, np, changed⟩, w₁⟩
  · rw [pass_of_fetch_error E hf]
    have := ((fetch_readsOnly req).run_readsOnly (C := C) ⟨s, []⟩).2.2.1
    rw [hf] at this
    exact NoneMarkedReady.of_acls this
  rcases hd : (desired E acl).run C w₁ with ⟨stop | ⟨podSelector, rules⟩, w₂⟩
  · obtain ⟨-, -, hacls, -⟩ := before_write E hf hd
    rw [pass_of_stop E hf hd]
    exact fun key a h hready => hacls ▸ unready_noneMarkedReady acl _ w₂ key a h hready
  · obtain ⟨-, -, hacls, -⟩ := before_write E hf hd
    rw [pass_of_desired E hf hd] at hpass ⊢
    exact NoneMarkedReady.of_acls ((writeNetworkPolicy_acls hpass).trans hacls)

/-- A pass for `bareACL` marks it unready and returns `ctrl.Result{}`. -/
theorem unrequeued_pass_marks_none_ready_bare :
    (pass Env.plain Cluster.reliable bareACL.key bareStore).1 ≠ .ok requeue ∧
      NoneMarkedReady bareStore (pass Env.plain Cluster.reliable bareACL.key bareStore).2.store :=
  have h : (pass Env.plain Cluster.reliable bareACL.key bareStore).1 ≠ .ok requeue := fun h =>
    absurd (Except.ok.inj (h.symm.trans (rfl : (pass Env.plain Cluster.reliable bareACL.key bareStore).1 = .ok {})))
      (by decide)
  ⟨h, unrequeued_pass_marks_none_ready Env.plain h⟩

end AclOperator
