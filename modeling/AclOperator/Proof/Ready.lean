import AclOperator.Proof.Settled
import AclOperator.Proof.Records

/-!
# A Ready ACL names a policy that exists

A Ready ACL has its policy materialized, and its status names it. A pass marks an
ACL Ready only in the status update that follows an answered Create or Update of
its policy, which `setMeta` put in the ACL's namespace; and no request deletes a
policy. So a store in which every ACL is stored under its key and every Ready ACL
names a policy of its namespace that exists (`ReadyNamed`) stays so:

* `reconcile_readyAfterWrite`: a pass marks an ACL Ready only after an answered
  write of the policy it names (`ReadyAfterWrite`, a predicate on the program that
  follows the policy its answers have shown to exist).
* `pass_readyNamed`: every pass keeps `ReadyNamed`, whichever of its calls fail;
  `runEvents_readyNamed`: so does every run of passes and of changes that keep it.
* `ReadyNamed.stepOn`: so does one answered request of such a program, which is
  what the workers' interleavings are made of (`Workers`).
-/

namespace AclOperator

open Prog

variable {α β γ : Type} {C : Cluster} {s : Store} {w : World}

/-! ## The invariant, and programs that keep it -/

/-- Every ACL is stored under its own key, and every Ready one names a policy of its
namespace that exists. -/
def ReadyNamed (s : Store) : Prop :=
  ∀ key acl, s.acls key = some acl → acl.key = key ∧
    (acl.status.ready = true → (s.networkPolicies ⟨acl.namespace, acl.status.networkPolicy⟩).isSome)

/-- The policy known to exist after an answer: the one an answered Create or Update
wrote, else `pol`. -/
def Req.written : Req β → Except Error β → Option NamespacedName → Option NamespacedName
  | .createNetworkPolicy np, .ok _, _ => some np.key
  | .updateNetworkPolicy np, .ok _, _ => some np.key
  | _, _, pol => pol

/-- The call marks an ACL Ready only with the name of the policy `pol`, in the ACL's
namespace. -/
def Call.MarksReadyAt (pol : Option NamespacedName) : Call → Prop
  | .updateACLStatus acl => acl.status.ready = true → pol = some ⟨acl.namespace, acl.status.networkPolicy⟩
  | _ => True

/-- Every status update the program can issue that marks an ACL Ready names, in the
ACL's namespace, the policy whose Create or Update was last answered (`pol` before
any). -/
inductive ReadyAfterWrite : Option NamespacedName → Prog α → Prop
  | pure (pol : Option NamespacedName) (a : α) : ReadyAfterWrite pol (.pure a)
  | call {β : Type} (pol : Option NamespacedName) (r : Req β) (k : Except Error β → Prog α) :
      r.call.MarksReadyAt pol → (∀ b, ReadyAfterWrite (r.written b pol) (k b)) →
      ReadyAfterWrite pol (.call r k)

/-- Every value the program can finish with satisfies `Q`, whatever the answers. -/
inductive Returns (Q : α → Prop) : Prog α → Prop
  | pure (a : α) : Q a → Returns Q (.pure a)
  | call {β : Type} (r : Req β) (k : Except Error β → Prog α) : (∀ b, Returns Q (k b)) → Returns Q (.call r k)

theorem Req.written_error (r : Req β) (e : Error) (pol : Option NamespacedName) : r.written (.error e) pol = pol := by
  cases r <;> rfl

theorem Req.written_of_writesPolicy {r : Req β} (h : r.call.writesPolicy = false) (b : Except Error β)
    (pol : Option NamespacedName) : r.written b pol = pol := by
  cases r <;> first | rfl | cases h

theorem Call.marksReadyAt_of_writesACL {c : Call} (h : c.writesACL = false) (pol : Option NamespacedName) :
    c.MarksReadyAt pol := by
  cases c <;> trivial

theorem Returns.trivial (p : Prog α) : Returns (fun _ => True) p := by
  induction p with
  | pure a => exact .pure a True.intro
  | call r k ih => exact .call r k ih

theorem ReadyAfterWrite.bind {Q : α → Prop} {p : Prog α} {f : α → Prog β} {pol : Option NamespacedName}
    (hp : ReadyAfterWrite pol p) (hq : Returns Q p) (hf : ∀ a, Q a → ∀ pol', ReadyAfterWrite pol' (f a)) :
    ReadyAfterWrite pol (p.bind f) := by
  induction hp with
  | pure pol a => cases hq with | pure _ h => exact hf a h pol
  | call pol r k hr _ ih => cases hq with | call _ _ hk => exact .call pol r _ hr fun b => ih b (hk b)

theorem Prog.Only.readyAfterWrite {p : Prog α} (hp : Only ReadsOnly p) (pol : Option NamespacedName) :
    ReadyAfterWrite pol p := by
  induction hp generalizing pol with
  | pure a => exact .pure pol a
  | call r k hr _ ih =>
    refine .call pol r k (Call.marksReadyAt_of_writesACL hr.2 pol) fun b => ?_
    rw [Req.written_of_writesPolicy hr.1]
    exact ih b pol

theorem ReadyNamed.empty : ReadyNamed Store.empty := fun _ _ h => by cases h

theorem ReadyNamed.putACL (hs : ReadyNamed s) {acl : ACL} (hready : acl.status.ready = false) :
    ReadyNamed (s.putACL acl.key acl) := by
  intro key a h
  simp only [Store.putACL] at h
  split at h
  · cases h; rename_i hk; exact ⟨hk.symm, fun h => by rw [hready] at h; cases h⟩
  · exact hs key a h

/-! ## Each answer -/

/-- No request deletes a policy. -/
theorem answer_policy_isSome (r : Req β) {key : NamespacedName} (h : (s.networkPolicies key).isSome) :
    ((s.answer C r).2.networkPolicies key).isSome := by
  cases r <;> simp only [Store.answer] <;> (try split) <;>
    simp_all [Store.putNetworkPolicy, Store.putACL, Store.putRecord_networkPolicies, subReconcile_networkPolicies]
  all_goals split <;> simp_all

theorem ReadyNamed.of_grows {s' : Store} (hs : ReadyNamed s) (hacl : s'.acls = s.acls)
    (hpol : ∀ key, (s.networkPolicies key).isSome → (s'.networkPolicies key).isSome) : ReadyNamed s' := by
  intro key acl h
  rw [hacl] at h
  exact ⟨(hs key acl h).1, fun hr => hpol _ ((hs key acl h).2 hr)⟩

/-- The policy an answered write names exists, and so does one that existed. -/
theorem answer_written_isSome {pol : Option NamespacedName}
    (hpol : ∀ key, pol = some key → (s.networkPolicies key).isSome) (r : Req β) (key : NamespacedName)
    (h : r.written (s.answer C r).1 pol = some key) : ((s.answer C r).2.networkPolicies key).isSome := by
  cases r with
  | createNetworkPolicy np =>
    rcases hb : (s.answer C (.createNetworkPolicy np)).1 with e | ⟨⟩
    · rw [hb, Req.written_error] at h; exact answer_policy_isSome _ (hpol key h)
    · rw [hb] at h; cases h
      rw [answer_createNetworkPolicy hb]; exact congrArg Option.isSome (Store.putNetworkPolicy_self _ _)
  | updateNetworkPolicy np =>
    rcases hb : (s.answer C (.updateNetworkPolicy np)).1 with e | ⟨⟩
    · rw [hb, Req.written_error] at h; exact answer_policy_isSome _ (hpol key h)
    · rw [hb] at h; cases h
      obtain ⟨old, -, e⟩ := answer_updateNetworkPolicy hb
      rw [e]; exact congrArg Option.isSome (Store.putNetworkPolicy_self _ _)
  | getACL _ | updateACLStatus _ | getNetworkPolicy _ | getRecord _ _ | createRecord _ _ | reconcileRecord _ _ =>
    exact answer_policy_isSome _ (hpol key h)

/-- **One answer keeps every Ready ACL naming a policy that exists**, when the call
marks an ACL Ready only with the policy `pol`, which exists. -/
theorem ReadyNamed.answer (hs : ReadyNamed s) {pol : Option NamespacedName}
    (hpol : ∀ key, pol = some key → (s.networkPolicies key).isSome) (r : Req β) (hr : r.call.MarksReadyAt pol) :
    ReadyNamed (s.answer C r).2 := by
  cases r with
  | updateACLStatus acl =>
    simp only [Store.answer]
    split
    · rename_i stored hstored
      obtain ⟨hkey, -⟩ := hs _ _ hstored
      intro key a h
      simp only [Store.putACL] at h
      split at h
      · rename_i hk
        cases h
        refine ⟨hkey.trans hk.symm, fun hready => ?_⟩
        have hns : stored.namespace = acl.namespace := congrArg NamespacedName.namespace hkey
        rw [hns]; exact hpol _ (hr hready)
      · exact hs key a h
    · exact hs
  | getACL _ | getNetworkPolicy _ | createNetworkPolicy _ | updateNetworkPolicy _ | getRecord _ _ | createRecord _ _
    | reconcileRecord _ _ =>
    exact hs.of_grows (answer_acls _ s rfl) fun _ => answer_policy_isSome _

/-- A call that fails leaves the store, and what is known to exist, as they were. -/
theorem ReadyNamed.issue (hs : ReadyNamed w.store) {pol : Option NamespacedName}
    (hpol : ∀ key, pol = some key → (w.store.networkPolicies key).isSome) (r : Req β) (hr : r.call.MarksReadyAt pol) :
    ReadyNamed (w.issue C r).2.store ∧
      ∀ key, r.written (w.issue C r).1 pol = some key → ((w.issue C r).2.store.networkPolicies key).isSome := by
  unfold World.issue
  split
  · exact ⟨hs, fun key h => by rw [Req.written_error] at h; exact hpol key h⟩
  · exact ⟨hs.answer hpol r hr, answer_written_isSome hpol r⟩

/-! ## Runs -/

theorem ReadyAfterWrite.run_readyNamed {p : Prog α} {pol : Option NamespacedName} (hp : ReadyAfterWrite pol p)
    (hs : ReadyNamed w.store) (hpol : ∀ key, pol = some key → (w.store.networkPolicies key).isSome) :
    ReadyNamed (p.run C w).2.store := by
  induction hp generalizing w with
  | pure => exact hs
  | call pol r k hr _ ih =>
    obtain ⟨hs', hpol'⟩ := hs.issue hpol r hr
    exact ih _ hs' hpol'

/-! ## A pass -/

theorem fetch_returns (req : NamespacedName) :
    Returns (fun res => ∀ acl np changed, res = .ok (acl, np, changed) → np.namespace = acl.namespace) (fetch req) := by
  unfold fetch
  simp only [bind_eq, pure_eq]
  refine .call _ _ fun b => ?_
  simp only [pure_bind]
  split
  · exact .pure _ fun _ _ _ h => by cases h
  · refine .call _ _ fun b => ?_
    simp only [pure_bind]
    split
    · exact .pure _ fun _ _ _ h => by cases h
    · refine .pure _ fun acl' np' changed h => ?_
      simp only [Except.ok.injEq, Prod.ext_iff] at h
      obtain ⟨rfl, rfl, -⟩ := h
      rw [setMeta_fst_eq]

theorem unready_readyAfterWrite (acl : ACL) (reason : String) (pol : Option NamespacedName) :
    ReadyAfterWrite pol (unready acl reason) := by
  unfold unready setUnreadyStatus
  simp only [bind_eq, pure_eq]
  exact .call _ _ _ (fun h => by cases h) fun b => by cases b <;> exact .pure _ _

/-- The write step marks the ACL Ready only after an answered write of `np`. -/
theorem writeNetworkPolicy_readyAfterWrite {acl : ACL} {np : NetworkPolicy} {changed : Bool}
    (h : np.namespace = acl.namespace) (pol : Option NamespacedName) :
    ReadyAfterWrite pol (writeNetworkPolicy acl np changed) := by
  rcases writeNetworkPolicy_eq acl np changed with ⟨-, -, hw⟩ | ⟨r, hr, hw⟩ <;> rw [hw]
  · exact .pure _ _
  · have hwr : r.written (.ok ()) pol = some np.key := by rcases hr with rfl | ⟨rfl, -⟩ <;> rfl
    refine .call _ _ _ (by rcases hr with rfl | ⟨rfl, -⟩ <;> trivial) fun b => ?_
    rcases b with err | ⟨⟩
    · exact .pure _ _
    · rw [hwr]
      simp only [updateStatus, bind_eq, pure_eq, Prog.pure_bind]
      exact .call _ _ _ (fun _ => by simp [Req.written, NetworkPolicy.key, h]) fun b => by cases b <;> exact .pure _ _

/-- **A pass marks an ACL Ready only after an answered write of the policy it names,
in the ACL's namespace.** -/
theorem reconcile_readyAfterWrite (E : Env) (req : NamespacedName) (pol : Option NamespacedName) :
    ReadyAfterWrite pol (reconcile E req) := by
  unfold reconcile
  simp only [bind_eq, pure_eq]
  refine ((fetch_readsOnly req).readyAfterWrite pol).bind (fetch_returns req) fun res hres pol' => ?_
  rcases res with err | ⟨acl, np, changed⟩
  · exact .pure _ _
  · refine (((desired_recordCall E acl).mono fun _ => RecordCall.readsOnly).readyAfterWrite pol').bind
      (Returns.trivial _) fun d _ pol'' => ?_
    rcases d with stop | ⟨ps, rules⟩
    · exact unready_readyAfterWrite acl _ pol''
    · exact writeNetworkPolicy_readyAfterWrite (by rw [setSpec_fst]; exact hres acl np changed rfl) pol''

/-- **Every pass keeps every Ready ACL naming a policy that exists**, whatever its
cluster answers and whichever calls fail. -/
theorem pass_readyNamed (E : Env) (C : Cluster) (req : NamespacedName) (hs : ReadyNamed s) :
    ReadyNamed (pass E C req s).2.store :=
  (reconcile_readyAfterWrite E req none).run_readyNamed hs fun _ h => by cases h

/-- An event that keeps the invariant: a pass, or a change that keeps it. -/
def Event.KeepsReadyNamed : Event → Prop
  | .pass _ _ => True
  | .change f => ∀ s, ReadyNamed s → ReadyNamed (f s)

theorem runEvents_readyNamed {req : NamespacedName} {evs : List Event} (hevs : ∀ ev ∈ evs, ev.KeepsReadyNamed)
    (hs : ReadyNamed s) : ReadyNamed (runEvents req evs s) := by
  induction evs generalizing s with
  | nil => exact hs
  | cons ev evs ih =>
    refine ih (fun e he => hevs e (.tail _ he)) ?_
    cases ev with
    | pass E C => exact pass_readyNamed E C req hs
    | change f => exact hevs _ (.head _) s hs

/-- Two passes for `ns/web` over `raceStore`, one with every record resolving, one
with its first call failing. -/
theorem runEvents_readyNamed_race :
    ReadyNamed (runEvents ⟨"ns", "web"⟩
      [.pass Env.plain (Cluster.resolving ["1.2.3.4"]), .pass Env.plain (Cluster.faultAt 0 ⟨.other, "timeout"⟩)]
      raceStore) :=
  runEvents_readyNamed (fun ev hev => by
    simp only [List.mem_cons, List.not_mem_nil, or_false] at hev
    rcases hev with rfl | rfl <;> trivial) ((ReadyNamed.empty.putACL rfl).putACL rfl)

/-! ## Two passes at once -/

/-- A program at a point where its status updates mark an ACL Ready only with a
policy that exists in `s`. -/
def ReadyAfterWriteIn (s : Store) (p : Prog α) : Prop :=
  ∃ pol, ReadyAfterWrite pol p ∧ ∀ key, pol = some key → (s.networkPolicies key).isSome

theorem ReadyAfterWriteIn.grows {p : Prog α} {s' : Store} (hp : ReadyAfterWriteIn s p)
    (h : ∀ key, (s.networkPolicies key).isSome → (s'.networkPolicies key).isSome) : ReadyAfterWriteIn s' p := by
  obtain ⟨pol, hp, hpol⟩ := hp
  exact ⟨pol, hp, fun key hk => h key (hpol key hk)⟩

/-- One request of `p` keeps the invariant, and `p` goes on at such a point. -/
theorem ReadyNamed.stepOn {p : Prog α} (hs : ReadyNamed s) (hp : ReadyAfterWriteIn s p) :
    ReadyNamed (p.stepOn C s).2 ∧ ReadyAfterWriteIn (p.stepOn C s).2 (p.stepOn C s).1 := by
  obtain ⟨pol, hp, hpol⟩ := hp
  cases hp with
  | pure => exact ⟨hs, pol, .pure _ _, hpol⟩
  | call pol r k hr hk =>
    exact ⟨hs.answer hpol r hr, _, hk _, answer_written_isSome hpol r⟩

theorem stepOn_policy_isSome (p : Prog α) (s : Store) {key : NamespacedName} (h : (s.networkPolicies key).isSome) :
    ((p.stepOn C s).2.networkPolicies key).isSome := by
  cases p with
  | pure => exact h
  | call r k => exact answer_policy_isSome r h

end AclOperator
