import AclOperator.Proof.Workers

/-!
# Each ACL writes only its own policy

`Reconcile` names the policy of an ACL by its status, or `acl-` and the request's
name when the status names none (lines 79–81), and after a write it records that
name in the status (lines 167 and 182). So if every ACL's status names no policy or
its own, `acl-` and its name (`OwnNames`), the name a pass computes is always
`ownPolicy req`, and the store stays so:

* `pass_ownNames`: a pass, whatever its cluster answers and whichever calls fail,
  keeps `OwnNames` and writes no policy but `ownPolicy req`;
* `interleaveAll_passes_ownNames`: so do any number of passes at once, for every
  schedule and whichever requests fail: they write no policy but those of the ACLs
  they reconcile;
* `ownPolicy_injective`: two ACLs never have one policy, so a pass never changes
  the policy of another ACL (`pass_keeps_others_policy`).

`Prog.Owned P Q p` is to such a store what `Confined` is to one whose ACLs are
keyed: every ACL `p` reads has the key it was read under and names no policy or its
own, every call it can then issue satisfies `P`, and every value it can finish with
satisfies `Q`.
-/

namespace AclOperator

open Prog

variable {α β γ : Type} {C : Cluster} {s s' s'' : Store} {w : World}

/-! ## Own policies -/

/-- The policy `Reconcile` names for the ACL `req` when its status names none. -/
def ownPolicy (req : NamespacedName) : NamespacedName := ⟨req.namespace, "acl-" ++ req.name⟩

/-- **Two ACLs never have one policy.** -/
theorem ownPolicy_injective {r r' : NamespacedName} (h : ownPolicy r = ownPolicy r') : r = r' := by
  obtain ⟨ns, n⟩ := r
  obtain ⟨ns', n'⟩ := r'
  simp only [ownPolicy, NamespacedName.mk.injEq] at h ⊢
  have hn := congrArg String.data h.2
  simp only [String.data_append, List.append_cancel_left_eq] at hn
  exact ⟨h.1, String.ext hn⟩

/-- The ACL's status names no policy, or its own. -/
def ACL.NamesOwn (acl : ACL) : Prop :=
  acl.status.networkPolicy = "" ∨ acl.status.networkPolicy = "acl-" ++ acl.name

/-- Every ACL is stored under its own key, has a name, and names no policy or its
own. -/
def OwnNames (s : Store) : Prop :=
  AclsKeyed s ∧ ∀ key acl, s.acls key = some acl → acl.NamesOwn

/-- From `s` to `s'`, no policy changes but those of the ACLs of `R`. -/
def OwnFrame (R : NamespacedName → Prop) (s s' : Store) : Prop :=
  ∀ key, (∀ r, R r → key ≠ ownPolicy r) → s'.networkPolicies key = s.networkPolicies key

namespace OwnFrame

variable {R R' : NamespacedName → Prop}

theorem refl (R : NamespacedName → Prop) (s : Store) : OwnFrame R s s := fun _ _ => rfl

theorem trans (h₁ : OwnFrame R s s') (h₂ : OwnFrame R s' s'') : OwnFrame R s s'' :=
  fun key hk => (h₂ key hk).trans (h₁ key hk)

theorem mono (h : OwnFrame R s s') (hR : ∀ r, R r → R' r) : OwnFrame R' s s' :=
  fun key hk => h key fun r hr => hk r (hR r hr)

theorem of_networkPolicies (h : s'.networkPolicies = s.networkPolicies) : OwnFrame R s s' :=
  fun key _ => congrFun h key

end OwnFrame

/-- The name `fetch` gives the policy of an ACL read under `req` that names no
policy or its own. -/
theorem policyName_own {acl : ACL} {req : NamespacedName} (hkey : acl.key = req) (hown : acl.NamesOwn) :
    policyName acl req = "acl-" ++ req.name := by
  have hname : acl.name = req.name := congrArg NamespacedName.name hkey
  unfold policyName
  split
  · rfl
  · rename_i h; rw [hown.resolve_left h, hname]

/-! ## Calls and answers -/

/-- An answer a store with `OwnNames` can give: an ACL read under `key` has that key
and names no policy or its own. -/
def Req.OwnAnswer : Req β → Except Error β → Prop
  | .getACL key, .ok acl => acl.key = key ∧ acl.NamesOwn
  | _, _ => True

/-- The call writes, of all policies, only `ownPolicy req`, and only a status that
names no policy or the ACL's own. -/
def Call.WritesOwn (req : NamespacedName) : Call → Prop
  | .updateACLStatus acl => acl.NamesOwn
  | .createNetworkPolicy np | .updateNetworkPolicy np => np.key = ownPolicy req
  | _ => True

theorem Req.ownAnswer_error (r : Req β) (e : Error) : r.OwnAnswer (.error e) := by
  cases r <;> trivial

theorem Req.ownAnswer_answer (hs : OwnNames s) (r : Req β) : r.OwnAnswer (s.answer C r).1 := by
  cases r with
  | getACL key =>
    simp only [Store.answer]
    split
    · exact ⟨(hs.1 _ _ ‹_›).1, hs.2 _ _ ‹_›⟩
    · trivial
  | _ => trivial

theorem OwnNames.of_acls (hs : OwnNames s) (h : s'.acls = s.acls) : OwnNames s' :=
  ⟨hs.1.of_acls h, fun key a ha => hs.2 key a (h ▸ ha)⟩

theorem OwnFrame.putNetworkPolicy {req : NamespacedName} {np : NetworkPolicy} (h : np.key = ownPolicy req) :
    OwnFrame (· = req) s (s.putNetworkPolicy np) := fun key hk => by
  simp only [Store.putNetworkPolicy]
  rw [if_neg fun e => hk req rfl (e.trans h)]

/-- **One answer to a call that writes only its own keeps `OwnNames`, and changes no
policy but `ownPolicy req`.** -/
theorem OwnNames.answer (hs : OwnNames s) {req : NamespacedName} (r : Req β) (hr : r.call.WritesOwn req) :
    OwnNames (s.answer C r).2 ∧ OwnFrame (· = req) s (s.answer C r).2 := by
  cases r with
  | updateACLStatus acl =>
    refine ⟨⟨hs.1.answer _, fun key a h => ?_⟩, .of_networkPolicies (answer_networkPolicies _ s rfl)⟩
    simp only [Store.answer] at h
    split at h
    · rename_i stored hstored
      simp only [Store.putACL] at h
      split at h
      · cases h
        have hname : stored.name = acl.name := congrArg NamespacedName.name (hs.1 _ _ hstored).1
        exact hname ▸ hr
      · exact hs.2 key a h
    · exact hs.2 key a h
  | createNetworkPolicy np =>
    refine ⟨hs.of_acls (answer_acls _ s rfl), ?_⟩
    simp only [Store.answer]; split
    · exact .refl _ s
    · exact OwnFrame.putNetworkPolicy hr
  | updateNetworkPolicy np =>
    refine ⟨hs.of_acls (answer_acls _ s rfl), ?_⟩
    simp only [Store.answer]; split
    · exact OwnFrame.putNetworkPolicy hr
    · exact .refl _ s
  | getACL _ | getNetworkPolicy _ | getRecord _ _ | createRecord _ _ | reconcileRecord _ _ =>
    exact ⟨hs.of_acls (answer_acls _ s rfl), .of_networkPolicies (answer_networkPolicies _ s rfl)⟩

/-! ## Programs -/

/-- Every call the program can issue, when every ACL it reads has the key it was
read under and names no policy or its own, satisfies `P`, and every value it can
then finish with satisfies `Q`. -/
inductive Prog.Owned (P : Call → Prop) (Q : α → Prop) : Prog α → Prop
  | pure (a : α) : Q a → Owned P Q (.pure a)
  | call {β : Type} (r : Req β) (k : Except Error β → Prog α) :
      P r.call → (∀ b, r.OwnAnswer b → Owned P Q (k b)) → Owned P Q (.call r k)

namespace Prog

variable {P : Call → Prop} {Q : α → Prop}

theorem Owned.bind {R : β → Prop} {p : Prog α} {f : α → Prog β} (hp : Owned P Q p)
    (hf : ∀ a, Q a → Owned P R (f a)) : Owned P R (p.bind f) := by
  induction hp with
  | pure a ha => exact hf a ha
  | call r k hr _ ih => exact .call r _ hr fun b hb => ih b hb

theorem Owned.send_bind {r : Req γ} {f : Except Error γ → Prog α} (hr : P r.call)
    (hf : ∀ b, r.OwnAnswer b → Owned P Q (f b)) : Owned P Q ((send r).bind f) :=
  .call r _ hr hf

theorem Only.owned {p : Prog α} (hp : Only P p) : Owned P (fun _ => True) p := by
  induction hp with
  | pure a => exact .pure a trivial
  | call r k hr _ ih => exact .call r k hr fun b _ => ih b

/-- A run of a program that writes only the own policy of `req` keeps `OwnNames`,
and changes no other policy. -/
theorem Owned.run {req : NamespacedName} {p : Prog α} (hp : Owned (Call.WritesOwn req) Q p) (hs : OwnNames w.store) :
    OwnNames (p.run C w).2.store ∧ OwnFrame (· = req) w.store (p.run C w).2.store := by
  induction hp generalizing w with
  | pure => exact ⟨hs, .refl _ _⟩
  | call r k hr _ ih =>
    have hissue : OwnNames (w.issue C r).2.store ∧ OwnFrame (· = req) w.store (w.issue C r).2.store ∧
        r.OwnAnswer (w.issue C r).1 := by
      unfold World.issue
      split
      · exact ⟨hs, .refl _ _, r.ownAnswer_error _⟩
      · exact ⟨(hs.answer r hr).1, (hs.answer r hr).2, r.ownAnswer_answer hs⟩
    obtain ⟨hs', hf', hb⟩ := hissue
    obtain ⟨hs'', hf''⟩ := ih _ hb hs'
    exact ⟨hs'', hf'.trans hf''⟩

/-- One request, answered or failing, of a program that writes only the own policy
of `req`: the same, and the program goes on so. -/
theorem Owned.stepWith {req : NamespacedName} {p : Prog α} (hp : Owned (Call.WritesOwn req) Q p) (hs : OwnNames s)
    (f : Option Error) :
    OwnNames (p.stepWith C f s).2 ∧ OwnFrame (· = req) s (p.stepWith C f s).2 ∧
      Owned (Call.WritesOwn req) Q (p.stepWith C f s).1 := by
  cases hp with
  | pure a ha => exact ⟨hs, .refl _ _, .pure a ha⟩
  | call r k hr hk =>
    cases f with
    | none => exact ⟨(hs.answer r hr).1, (hs.answer r hr).2, hk _ (r.ownAnswer_answer hs)⟩
    | some err => exact ⟨hs, .refl _ _, hk _ (r.ownAnswer_error err)⟩

end Prog

/-! ## A pass -/

section

variable {req : NamespacedName} {acl : ACL}

/-- `fetch` only reads; it returns the ACL under `req`, naming no policy or its own,
or, after NotFound, the zero ACL, with a policy of the ACL's namespace under the name
`policyName` gives. -/
theorem fetch_owned (req : NamespacedName) :
    Owned (Call.WritesOwn req) (fun res => ∀ acl np changed, res = .ok (acl, np, changed) →
      (acl.key = req ∧ acl.NamesOwn ∨ acl = default) ∧ np.key = ⟨acl.namespace, policyName acl req⟩) (fetch req) := by
  unfold fetch
  simp only [bind_eq, pure_eq]
  refine .send_bind trivial fun b hb => ?_
  split
  · exact .pure _ fun _ _ _ h => by cases h
  · rename_i acl hacl
    refine .send_bind trivial fun _ _ => ?_
    split
    · exact .pure _ fun _ _ _ h => by cases h
    · refine .pure _ fun acl' np' changed h => ?_
      simp only [Except.ok.injEq, Prod.ext_iff] at h
      obtain ⟨rfl, rfl, -⟩ := h
      refine ⟨?_, by rw [setMeta_fst_eq]; rfl⟩
      cases b with
      | ok a => cases hacl; exact .inl hb
      | error e =>
        simp only [orZero] at hacl
        split at hacl <;> cases hacl
        exact .inr rfl

theorem ACL.namesOwn_default : (default : ACL).NamesOwn := .inl rfl

theorem unready_owned (hown : acl.NamesOwn) (reason : String) :
    Owned (Call.WritesOwn req) (fun _ => True) (unready acl reason) := by
  simp only [unready, setUnreadyStatus, bind_eq]
  exact .send_bind hown fun b _ => by split <;> exact .pure _ trivial

theorem writeNetworkPolicy_owned {np : NetworkPolicy} {changed : Bool} (hkey : acl.key = req)
    (hnp : np.key = ownPolicy req) : Owned (Call.WritesOwn req) (fun _ => True) (writeNetworkPolicy acl np changed) := by
  have hname : np.name = "acl-" ++ acl.name :=
    (congrArg NamespacedName.name hnp).trans (congrArg ("acl-" ++ ·) (congrArg NamespacedName.name hkey).symm)
  have hst : Owned (Call.WritesOwn req) (fun _ => True) (updateStatus acl np.name) := by
    simp only [updateStatus, bind_eq]
    exact .send_bind (.inr hname) fun b _ => by split <;> exact .pure _ trivial
  rcases writeNetworkPolicy_eq acl np changed with ⟨-, -, hw⟩ | ⟨r, hr, hw⟩ <;> rw [hw]
  · exact .pure _ trivial
  · refine .send_bind (by rcases hr with rfl | ⟨rfl, -⟩ <;> exact hnp) fun b _ => ?_
    cases b; exacts [.pure _ trivial, hst]

/-- **A pass writes only its own policy**, and statuses that name no policy or their
ACL's own. -/
theorem reconcile_owned (E : Env) (req : NamespacedName) :
    Owned (Call.WritesOwn req) (fun _ => True) (reconcile E req) := by
  unfold reconcile
  simp only [bind_eq, pure_eq]
  refine (fetch_owned req).bind fun res hres => ?_
  rcases res with err | ⟨acl, np, changed⟩
  · exact .pure _ trivial
  obtain ⟨hacl, hnp⟩ := hres acl np changed rfl
  rcases hacl with ⟨hkey, hown⟩ | rfl
  · refine ((desired_recordCall E acl).mono fun c h => ?_).owned.bind fun d _ => ?_
    · cases c <;> first | trivial | cases h.1
    rcases d with stop | ⟨ps, rules⟩
    · exact unready_owned hown _
    · refine writeNetworkPolicy_owned hkey ?_
      rw [setSpec_fst]
      show np.key = _
      rw [hnp, policyName_own hkey hown, show acl.namespace = req.namespace from congrArg NamespacedName.namespace hkey]
      rfl
  · dsimp only
    rw [desired_default, Prog.pure_bind]
    exact unready_owned ACL.namesOwn_default _

end

/-- **A pass writes no policy but its ACL's own.** From a store whose ACLs are keyed,
named, and name no policy or their own, a pass for `req`, whatever its cluster
answers and whichever calls fail, leaves the store so and changes no policy but
`ownPolicy req`. -/
theorem pass_ownNames (E : Env) (C : Cluster) (req : NamespacedName) (hs : OwnNames s) :
    OwnNames (pass E C req s).2.store ∧ OwnFrame (· = req) s (pass E C req s).2.store :=
  (reconcile_owned E req).run (w := ⟨s, []⟩) hs

/-- The ACLs of `raceStore` name no policy. -/
theorem raceStore_ownNames : OwnNames raceStore := ⟨raceStore_keyed, fun key acl h => by
  simp only [raceStore, Store.putACL] at h
  split at h
  · cases h; exact .inl rfl
  · split at h
    · cases h; exact .inl rfl
    · cases h⟩

/-- **A pass never changes the policy of another ACL**, whatever its cluster answers
and whichever calls fail, from a store whose ACLs are keyed, named and name no
policy or their own. -/
theorem pass_keeps_others_policy (E : Env) (C : Cluster) {req req' : NamespacedName} (hs : OwnNames s)
    (hne : req' ≠ req) :
    (pass E C req s).2.store.networkPolicies (ownPolicy req') = s.networkPolicies (ownPolicy req') :=
  ((reconcile_owned E req).run (w := ⟨s, []⟩) hs).2 _ fun _ hr h => hne (ownPolicy_injective (hr ▸ h))

/-- The pass for `ns/web` over `raceStore` leaves the policy of `ns/api` alone. -/
theorem pass_keeps_others_policy_race :
    (⟨"ns", "api"⟩ : NamespacedName) ≠ ⟨"ns", "web"⟩ ∧
      (pass Env.plain (Cluster.resolving ["1.2.3.4"]) ⟨"ns", "web"⟩ raceStore).2.store.networkPolicies
          (ownPolicy ⟨"ns", "api"⟩) = raceStore.networkPolicies (ownPolicy ⟨"ns", "api"⟩) :=
  have hne : (⟨"ns", "api"⟩ : NamespacedName) ≠ ⟨"ns", "web"⟩ := by decide
  ⟨hne, pass_keeps_others_policy Env.plain _ raceStore_ownNames hne⟩

/-- **Passes at once write no policy but their ACLs' own**, for any number of them,
every schedule and whichever requests fail: from a store whose ACLs are keyed, named
and name no policy or their own, the store stays so, and no policy changes but
`ownPolicy req` of an ACL `req` they reconcile. -/
theorem interleaveAll_passes_ownNames (passes : List (Env × NamespacedName)) (sch : List (Nat × Option Error))
    (hs : OwnNames s) :
    OwnNames (interleaveAll C sch (passProgs passes, s)).2 ∧
      OwnFrame (· ∈ passes.map Prod.snd) s (interleaveAll C sch (passProgs passes, s)).2 := by
  refine (interleaveAll_induction (I := fun ps s' => OwnNames s' ∧ OwnFrame (· ∈ passes.map Prod.snd) s s' ∧
    ∀ p ∈ ps, ∃ req ∈ passes.map Prod.snd, Owned (Call.WritesOwn req) (fun _ => True) p)
    (fun _ s' i f p hp ⟨hs', hf, hall⟩ => ?_) sch _ s
    ⟨hs, .refl _ s, forall_passProgs fun E req h => ⟨req, List.mem_map_of_mem Prod.snd h, reconcile_owned E req⟩⟩).imp_right
    fun h => h.1
  obtain ⟨req, hreq, hp⟩ := hall p (List.getElem?_mem hp)
  obtain ⟨hs'', hf', hp'⟩ := hp.stepWith (C := C) hs' f
  exact ⟨hs'', hf.trans (hf'.mono fun _ h => h ▸ hreq), forall_mem_set hall i ⟨req, hreq, hp'⟩⟩

/-- The three workers of `raceWorkers`, one call failing, over `raceStore`. -/
theorem interleaveAll_passes_ownNames_race :
    OwnNames (interleaveAll (Cluster.resolving ["1.2.3.4"]) raceWorkersSchedule (passProgs raceWorkers, raceStore)).2 ∧
      OwnFrame (· ∈ raceWorkers.map Prod.snd) raceStore
        (interleaveAll (Cluster.resolving ["1.2.3.4"]) raceWorkersSchedule (passProgs raceWorkers, raceStore)).2 :=
  interleaveAll_passes_ownNames raceWorkers raceWorkersSchedule raceStore_ownNames

end AclOperator
