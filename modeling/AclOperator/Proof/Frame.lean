import AclOperator.Proof.Settled
import AclOperator.Proof.Replay

/-!
# A pass touches only its own ACL's status and its namespace's policies

The API server stores every ACL under its own key, and every ACL has a name
(`AclsKeyed`). A pass for `req` reads the ACL under `req`, or, when the Get fails
with NotFound, goes on with the zero ACL, which has neither a name nor a source, so
that its one status update finds no ACL. It updates only the status of the ACL it
read, and writes only the policy `setMeta` put in that ACL's namespace. Then
(`PassFrame`: every ACL keeps all but its status; no other ACL and no policy of
another namespace changes):

* `pass_frame`: a pass for `req` changes no ACL but the status of the one under
  `req`, and no policy outside `req`'s namespace, whatever its cluster answers and
  whichever calls fail;
* `PassFrame.stepOn`: so does one answered request of such a pass, which is what
  the workers' interleavings are made of (`Workers`);
* `deleted_acl_pass`: a pass for an ACL that is gone changes nothing at all, and
  returns an error: it goes on with the zero ACL, and the unready status update of
  that nameless ACL finds none.

`Confined P Q p` says what `p` can do against such a store: each ACL it reads has
the key it was read under, every call it can then issue satisfies `P`, and every
value it can finish with satisfies `Q`.
-/

namespace AclOperator

open Prog

variable {α β γ : Type} {C : Cluster} {s s' s'' : Store} {w : World}

/-! ## What a pass may change -/

/-- Every ACL is stored under its own key and has a name. -/
def AclsKeyed (s : Store) : Prop :=
  ∀ key acl, s.acls key = some acl → acl.key = key ∧ acl.name ≠ ""

/-- An ACL but for its status. -/
def ACL.withoutStatus (acl : ACL) : ACL := { acl with status := {} }

/-- From `s` to `s'`, every ACL keeps all but its status, the ACLs outside `R` are
as they were, and so are the policies outside the namespaces of `R`. -/
structure PassFrame (R : NamespacedName → Prop) (s s' : Store) : Prop where
  specs : ∀ key, (s'.acls key).map ACL.withoutStatus = (s.acls key).map ACL.withoutStatus
  acls : ∀ key, ¬ R key → s'.acls key = s.acls key
  policies : ∀ key, (∀ r, R r → r.namespace ≠ key.namespace) → s'.networkPolicies key = s.networkPolicies key

namespace PassFrame

variable {R R' : NamespacedName → Prop}

theorem refl (R : NamespacedName → Prop) (s : Store) : PassFrame R s s :=
  ⟨fun _ => rfl, fun _ _ => rfl, fun _ _ => rfl⟩

theorem trans (h₁ : PassFrame R s s') (h₂ : PassFrame R s' s'') : PassFrame R s s'' :=
  ⟨fun key => (h₂.specs key).trans (h₁.specs key), fun key hk => (h₂.acls key hk).trans (h₁.acls key hk),
    fun key hk => (h₂.policies key hk).trans (h₁.policies key hk)⟩

theorem mono (h : PassFrame R s s') (hR : ∀ key, R key → R' key) : PassFrame R' s s' :=
  ⟨h.specs, fun key hk => h.acls key fun hr => hk (hR key hr), fun key hk => h.policies key fun r hr => hk r (hR r hr)⟩

theorem of_eq (hacl : s'.acls = s.acls) (hpol : s'.networkPolicies = s.networkPolicies) : PassFrame R s s' :=
  ⟨fun _ => by rw [hacl], fun _ _ => by rw [hacl], fun _ _ => by rw [hpol]⟩

/-- A new status for an ACL of `R`. -/
theorem putACL {key : NamespacedName} {stored : ACL} (hstored : s.acls key = some stored) (hk : R key)
    (status : ACLStatus) : PassFrame R s (s.putACL key { stored with status }) := by
  refine ⟨fun k => ?_, fun k hk' => ?_, fun _ _ => rfl⟩
  · simp only [Store.putACL]
    split
    · subst_vars; rw [hstored]; rfl
    · rfl
  · simp only [Store.putACL]
    rw [if_neg]
    rintro rfl; exact hk' hk

/-- A policy in the namespace of an ACL of `R`. -/
theorem putNetworkPolicy {r : NamespacedName} {np : NetworkPolicy} (hr : R r) (hns : np.namespace = r.namespace) :
    PassFrame R s (s.putNetworkPolicy np) := by
  refine ⟨fun _ => rfl, fun _ _ => rfl, fun key hk => ?_⟩
  simp only [Store.putNetworkPolicy]
  rw [if_neg]
  rintro rfl; exact hk r hr hns.symm

end PassFrame

theorem AclsKeyed.empty : AclsKeyed Store.empty := fun _ _ h => by cases h

theorem AclsKeyed.of_acls (hs : AclsKeyed s) (h : s'.acls = s.acls) : AclsKeyed s' :=
  fun key a ha => hs key a (h ▸ ha)

/-- No ACL is stored under the key of one without a name. -/
theorem AclsKeyed.nameless (hs : AclsKeyed s) {a : ACL} (h : a.name = "") : s.acls a.key = none := by
  cases hx : s.acls a.key with
  | none => rfl
  | some b => exact absurd ((congrArg NamespacedName.name (hs _ _ hx).1).trans h) (hs _ _ hx).2

theorem AclsKeyed.putACL (hs : AclsKeyed s) {acl : ACL} (hname : acl.name ≠ "") : AclsKeyed (s.putACL acl.key acl) := by
  intro key a h
  simp only [Store.putACL] at h
  split at h
  · cases h; rename_i hk; exact ⟨hk.symm, hname⟩
  · exact hs key a h

/-! ## Calls and answers -/

/-- The call writes only the ACL under `req`, or one without a name, and only
policies of `req`'s namespace. -/
def Call.ConfinedTo (req : NamespacedName) : Call → Prop
  | .updateACLStatus acl => acl.key = req ∨ acl.name = ""
  | .createNetworkPolicy np | .updateNetworkPolicy np => np.namespace = req.namespace
  | _ => True

theorem Call.confinedTo_of_onRecords {req : NamespacedName} {c : Call} (h : c.onRecords = true) : c.ConfinedTo req := by
  cases c <;> trivial

/-- An answer a store with keyed ACLs can give: an ACL read under `key` has that
key. -/
def Req.Keyed : Req β → Except Error β → Prop
  | .getACL key, .ok acl => acl.key = key
  | _, _ => True

theorem Req.keyed_error (r : Req β) (e : Error) : r.Keyed (.error e) := by
  cases r <;> trivial

theorem Req.keyed_answer (hs : AclsKeyed s) (r : Req β) : r.Keyed (s.answer C r).1 := by
  cases r with
  | getACL key =>
    simp only [Store.answer]
    split
    · exact (hs _ _ ‹_›).1
    · trivial
  | _ => trivial

/-- No answer moves an ACL or takes its name. -/
theorem AclsKeyed.answer (hs : AclsKeyed s) (r : Req β) : AclsKeyed (s.answer C r).2 := by
  cases r with
  | updateACLStatus acl =>
    simp only [Store.answer]
    split
    · rename_i stored hstored
      intro key a h
      simp only [Store.putACL] at h
      split at h
      · cases h; rename_i hk; exact ⟨(hs _ _ hstored).1.trans hk.symm, (hs _ _ hstored).2⟩
      · exact hs key a h
    · exact hs
  | _ => exact hs.of_acls (answer_acls _ s rfl)

/-- **One answer to a call confined to `req` stays in its frame.** A status update
of an ACL without a name finds none. -/
theorem PassFrame.answer (hs : AclsKeyed s) {req : NamespacedName} (r : Req β) (hr : r.call.ConfinedTo req) :
    PassFrame (· = req) s (s.answer C r).2 := by
  cases r with
  | updateACLStatus acl =>
    simp only [Store.answer]
    split
    · rename_i stored hstored
      refine PassFrame.putACL (R := (· = req)) hstored (hr.resolve_right fun hn => ?_) _
      rw [hs.nameless hn] at hstored; cases hstored
    · exact .refl _ _
  | createNetworkPolicy np =>
    simp only [Store.answer]
    split
    exacts [.refl _ _, .putNetworkPolicy rfl hr]
  | updateNetworkPolicy np =>
    simp only [Store.answer]
    split
    exacts [.putNetworkPolicy rfl hr, .refl _ _]
  | getACL _ | getNetworkPolicy _ | getRecord _ _ | createRecord _ _ | reconcileRecord _ _ =>
    exact .of_eq (answer_acls _ s rfl) (answer_networkPolicies _ s rfl)

/-- A call that fails changes nothing. -/
theorem PassFrame.issue (hs : AclsKeyed w.store) {req : NamespacedName} (r : Req β) (hr : r.call.ConfinedTo req) :
    PassFrame (· = req) w.store (w.issue C r).2.store ∧ AclsKeyed (w.issue C r).2.store ∧ r.Keyed (w.issue C r).1 := by
  unfold World.issue
  split
  · exact ⟨.refl _ _, hs, r.keyed_error _⟩
  · exact ⟨.answer hs r hr, hs.answer r, r.keyed_answer hs⟩

/-! ## Programs -/

/-- Every call the program can issue, when every ACL it reads has the key it was
read under, satisfies `P`, and every value it can then finish with satisfies `Q`. -/
inductive Prog.Confined (P : Call → Prop) (Q : α → Prop) : Prog α → Prop
  | pure (a : α) : Q a → Confined P Q (.pure a)
  | call {β : Type} (r : Req β) (k : Except Error β → Prog α) :
      P r.call → (∀ b, r.Keyed b → Confined P Q (k b)) → Confined P Q (.call r k)

namespace Prog

variable {P : Call → Prop} {Q : α → Prop}

theorem Confined.bind {R : β → Prop} {p : Prog α} {f : α → Prog β} (hp : Confined P Q p)
    (hf : ∀ a, Q a → Confined P R (f a)) : Confined P R (p.bind f) := by
  induction hp with
  | pure a ha => exact hf a ha
  | call r k hr _ ih => exact .call r _ hr fun b hb => ih b hb

theorem Confined.send_bind {r : Req γ} {f : Except Error γ → Prog α} (hr : P r.call)
    (hf : ∀ b, r.Keyed b → Confined P Q (f b)) : Confined P Q ((send r).bind f) :=
  .call r _ hr hf

theorem Only.confined {p : Prog α} (hp : Only P p) : Confined P (fun _ => True) p := by
  induction hp with
  | pure a => exact .pure a trivial
  | call r k hr _ ih => exact .call r k hr fun b _ => ih b

theorem Confined.stepOn {p : Prog α} (hp : Confined P Q p) (hs : AclsKeyed s) : Confined P Q (p.stepOn C s).1 := by
  cases hp with
  | pure a ha => exact .pure a ha
  | call r k _ hk => exact hk _ (r.keyed_answer hs)

/-- A run of a program confined to `req` stays in its frame. -/
theorem Confined.run_frame {req : NamespacedName} {p : Prog α} (hp : Confined (Call.ConfinedTo req) Q p)
    (hs : AclsKeyed w.store) : PassFrame (· = req) w.store (p.run C w).2.store ∧ AclsKeyed (p.run C w).2.store := by
  induction hp generalizing w with
  | pure => exact ⟨.refl _ _, hs⟩
  | call r k hr _ ih =>
    obtain ⟨hf, hs', hb⟩ := PassFrame.issue (C := C) hs r hr
    obtain ⟨hf', hs''⟩ := ih _ hb hs'
    exact ⟨hf.trans hf', hs''⟩

end Prog

/-! ## A pass -/

section

variable {req : NamespacedName} {acl : ACL}

/-- `fetch` only reads; it returns the ACL under `req` or, after NotFound, the zero
ACL, with a policy in the ACL's namespace. -/
theorem fetch_confined (req : NamespacedName) :
    Confined (Call.ConfinedTo req) (fun res => ∀ acl np changed, res = .ok (acl, np, changed) →
      (acl.key = req ∨ acl = default) ∧ np.namespace = acl.namespace) (fetch req) := by
  unfold fetch
  simp only [bind_eq, pure_eq]
  refine .send_bind trivial fun b hb => ?_
  split
  · exact .pure _ fun _ _ _ h => by cases h
  · rename_i acl hacl
    refine .send_bind trivial fun _ _ => ?_
    split
    · exact .pure _ fun _ _ _ h => by cases h
    · refine .pure _ fun acl' np' changed h => ?_
      simp only [Except.ok.injEq, Prod.ext_iff] at h
      obtain ⟨rfl, rfl, -⟩ := h
      refine ⟨?_, by rw [setMeta_fst_eq]⟩
      cases b with
      | ok a => cases hacl; exact .inl hb
      | error e =>
        simp only [orZero] at hacl
        split at hacl <;> cases hacl
        exact .inr rfl

theorem unready_confined (hacl : acl.key = req ∨ acl = default) (reason : String) :
    Confined (Call.ConfinedTo req) (fun _ => True) (unready acl reason) := by
  simp only [unready, setUnreadyStatus, bind_eq]
  refine .send_bind ?_ fun b _ => by split <;> exact .pure _ trivial
  rcases hacl with h | rfl
  exacts [.inl h, .inr rfl]

theorem writeNetworkPolicy_confined {np : NetworkPolicy} {changed : Bool} (hacl : acl.key = req)
    (hnp : np.namespace = req.namespace) :
    Confined (Call.ConfinedTo req) (fun _ => True) (writeNetworkPolicy acl np changed) := by
  have hst : Confined (Call.ConfinedTo req) (fun _ => True) (updateStatus acl np.name) := by
    simp only [updateStatus, bind_eq]
    exact .send_bind (.inl hacl) fun b _ => by split <;> exact .pure _ trivial
  rcases writeNetworkPolicy_eq acl np changed with ⟨-, -, hw⟩ | ⟨r, hr, hw⟩ <;> rw [hw]
  · exact .pure _ trivial
  · refine .send_bind (by rcases hr with rfl | ⟨rfl, -⟩ <;> exact hnp) fun b _ => ?_
    cases b; exacts [.pure _ trivial, hst]

/-- **A pass is confined to its ACL**: it updates only the status of the ACL under
`req`, or of one without a name, and writes only policies of `req`'s namespace. -/
theorem reconcile_confined (E : Env) (req : NamespacedName) :
    Confined (Call.ConfinedTo req) (fun _ => True) (reconcile E req) := by
  unfold reconcile
  simp only [bind_eq, pure_eq]
  refine (fetch_confined req).bind fun res hres => ?_
  rcases res with err | ⟨acl, np, changed⟩
  · exact .pure _ trivial
  obtain ⟨hacl, hnp⟩ := hres acl np changed rfl
  rcases hacl with hkey | rfl
  · refine ((desired_recordCall E acl).mono fun _ h => Call.confinedTo_of_onRecords h.1).confined.bind
      fun d _ => ?_
    rcases d with stop | ⟨ps, rules⟩
    · exact unready_confined (.inl hkey) _
    · exact writeNetworkPolicy_confined hkey (by rw [setSpec_fst, hnp, ← hkey]; rfl)
  · dsimp only
    rw [desired_default, pure_bind]
    exact unready_confined (.inr rfl) _

end

/-- **A pass touches only its own ACL's status and its namespace's policies.** From
a store whose ACLs are keyed and named, a pass for `req` keeps every ACL's spec,
changes no ACL but the one under `req`, and no policy outside `req`'s namespace,
whatever its cluster answers and whichever calls fail; the store stays keyed. -/
theorem pass_frame (E : Env) (C : Cluster) (req : NamespacedName) (hs : AclsKeyed s) :
    PassFrame (· = req) s (pass E C req s).2.store ∧ AclsKeyed (pass E C req s).2.store :=
  (reconcile_confined E req).run_frame (w := ⟨s, []⟩) hs

theorem raceStore_keyed : AclsKeyed raceStore :=
  (AclsKeyed.empty.putACL (by decide)).putACL (by decide)

/-- The pass for `ns/web` over `raceStore`, with every call answered. -/
theorem pass_frame_web :
    PassFrame (· = ⟨"ns", "web"⟩) raceStore (pass Env.plain (Cluster.resolving ["1.2.3.4"]) ⟨"ns", "web"⟩ raceStore).2.store ∧
      AclsKeyed (pass Env.plain (Cluster.resolving ["1.2.3.4"]) ⟨"ns", "web"⟩ raceStore).2.store :=
  pass_frame _ _ _ raceStore_keyed

/-! ## A deleted ACL -/

theorem World.issue_store_of_isRead {r : Req β} (h : r.call.isRead = true) (w : World) :
    (w.issue C r).2.store = w.store := by
  unfold World.issue
  split
  · rfl
  · cases r <;> first | rfl | cases h

theorem Prog.Only.run_store_of_isRead {p : Prog α} (hp : Only (fun c => c.isRead = true) p) (w : World) :
    (p.run C w).2.store = w.store := by
  induction hp generalizing w with
  | pure => rfl
  | call r k hr _ ih => exact (ih _ _).trans (World.issue_store_of_isRead hr w)

/-- A request the store answers with an error, leaving it as it was, fails and
leaves it, whether the cluster fails the call or not. -/
theorem World.issue_of_answer_error {r : Req β} {e : Error} (h : w.store.answer C r = (.error e, w.store)) :
    ∃ e', (w.issue C r).1 = .error e' ∧ (w.issue C r).2.store = w.store := by
  unfold World.issue
  split
  · exact ⟨_, rfl, rfl⟩
  · rw [h]; exact ⟨_, rfl, rfl⟩

/-- `fetch` of a missing ACL returns, if anything, the zero ACL. -/
theorem fetch_of_missing {req : NamespacedName} {acl : ACL} {np : NetworkPolicy} {changed : Bool}
    (hs : w.store.acls req = none) (h : ((fetch req).run C w).1 = .ok (acl, np, changed)) : acl = default := by
  obtain ⟨e, he, -⟩ := World.issue_of_answer_error (C := C) (w := w) (r := .getACL req) (e := .notFound req.name)
    (by simp only [Store.answer, hs])
  simp only [fetch, bind_eq, run_send_bind, he, orZero, pure_eq, Prog.pure_bind] at h
  by_cases hnf : e.isNotFound = true
  · simp only [hnf, if_true, run_send_bind] at h
    split at h
    · cases h
    · simp only [run_pure, Except.ok.injEq, Prod.ext_iff] at h; exact h.1.symm
  · simp only [hnf, Bool.false_eq_true, if_false, run_pure] at h; cases h

/-- The unready status update of an ACL without a name finds none: it fails and
changes nothing. -/
theorem unready_nameless (acl : ACL) (hs : AclsKeyed w.store) (h : acl.name = "") (reason : String) :
    ((unready acl reason).run C w).2.store = w.store ∧ ∃ e, ((unready acl reason).run C w).1 = .error e := by
  obtain ⟨e, he, hst⟩ := World.issue_of_answer_error (C := C) (w := w)
    (r := .updateACLStatus { acl with status := { acl.status with ready := false, reason } }) (e := .notFound acl.name)
    (by simp only [Store.answer, hs.nameless (a := { acl with status := { acl.status with ready := false, reason } }) h])
  simp only [unready, setUnreadyStatus, bind_eq, run_send_bind, he, pure_eq, run_pure]
  exact ⟨hst, _, rfl⟩

/-- **A pass for a deleted ACL changes nothing, and fails.** From a store whose ACLs
are keyed and named, with no ACL under `req`, a pass leaves the store exactly as it
was and returns an error, whatever its cluster answers: `Reconcile` goes on with
the zero ACL, which has no source, so it stops at once, and the unready status
update of that nameless ACL finds none. -/
theorem deleted_acl_pass (E : Env) (C : Cluster) (req : NamespacedName) (hs : s.acls req = none) (hkeyed : AclsKeyed s) :
    (pass E C req s).2.store = s ∧ ∃ err, (pass E C req s).1 = .error err := by
  have hfs := (fetch_only (P := fun c => c.isRead = true) (fun _ => rfl) (fun _ => rfl) req).run_store_of_isRead
    (C := C) ⟨s, []⟩
  rcases hf : (fetch req).run C ⟨s, []⟩ with ⟨err | ⟨acl, np, changed⟩, w₁⟩
  · rw [hf] at hfs
    rw [pass_of_fetch_error E hf]; exact ⟨hfs, _, rfl⟩
  · obtain rfl : acl = default := fetch_of_missing (w := ⟨s, []⟩) hs (by rw [hf])
    rw [hf] at hfs
    rw [pass_of_stop E hf (show (desired E default).run C w₁ = (.error .noSelector, w₁) by rw [desired_default]; rfl)]
    obtain ⟨hst, herr⟩ := unready_nameless (C := C) default (by rw [hfs]; exact hkeyed) rfl (Stop.noSelector.reason E)
    exact ⟨hst.trans hfs, herr⟩

/-- A pass for `ns/gone`, which `raceStore` does not hold. -/
theorem deleted_acl_pass_gone :
    raceStore.acls ⟨"ns", "gone"⟩ = none ∧
      (pass Env.plain Cluster.reliable ⟨"ns", "gone"⟩ raceStore).2.store = raceStore ∧
      ∃ err, (pass Env.plain Cluster.reliable ⟨"ns", "gone"⟩ raceStore).1 = .error err :=
  have h : raceStore.acls ⟨"ns", "gone"⟩ = none := by decide
  ⟨h, deleted_acl_pass _ _ _ h raceStore_keyed⟩

/-! ## Two passes at once -/

/-- One request of a program confined to `req` stays in its frame. -/
theorem PassFrame.stepOn {req : NamespacedName} {Q : α → Prop} {p : Prog α} (hp : Confined (Call.ConfinedTo req) Q p)
    (hs : AclsKeyed s) : PassFrame (· = req) s (p.stepOn C s).2 ∧ AclsKeyed (p.stepOn C s).2 := by
  cases hp with
  | pure => exact ⟨.refl _ _, hs⟩
  | call r k hr _ => exact ⟨.answer hs r hr, hs.answer r⟩

end AclOperator
