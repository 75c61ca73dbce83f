import AclOperator.Proof.Pass
import AclOperator.Proof.Policy

/-!
# The write step, and the status after it

`Reconcile` returns `Requeue` after `requeueAfter` from three places: after the
status update that follows a Create, after the one that follows an Update, and,
when the policy has not changed, with no write at all.

* `writeNetworkPolicy_requeued`: a write step that returns `Requeue` issued nothing,
  or a Create or an Update of its policy and then the ready status, all answered.
* `answer_write_stored`: an answered Create or Update stores the policy's round
  trip under its key.
-/

namespace AclOperator

open Prog

variable {C : Cluster}

/-! ## Answered calls -/

theorem World.issue_of_ok {r : Req β} {w : World} {b : β} (h : (w.issue C r).1 = .ok b) :
    (w.store.answer C r).1 = .ok b ∧ (w.issue C r).2 = ⟨(w.store.answer C r).2, w.log ++ [r.call]⟩ := by
  unfold World.issue at h ⊢
  split at h
  · cases h
  · exact ⟨h, rfl⟩

@[simp] theorem Store.putNetworkPolicy_self (s : Store) (np : NetworkPolicy) :
    (s.putNetworkPolicy np).networkPolicies np.key = some np := by
  simp [Store.putNetworkPolicy]

/-- An answered status update stores the ACL it finds with the status it carries. -/
theorem answer_updateACLStatus {s : Store} {acl : ACL} (h : (s.answer C (.updateACLStatus acl)).1 = .ok ()) :
    ∃ stored, s.acls acl.key = some stored ∧
      (s.answer C (.updateACLStatus acl)).2 = s.putACL acl.key { stored with status := acl.status } := by
  simp only [Store.answer] at h ⊢
  split at h
  · exact ⟨_, ‹_›, rfl⟩
  · cases h

/-- An answered Create stores the round trip of the policy, stamped now. -/
theorem answer_createNetworkPolicy {s : Store} {np : NetworkPolicy}
    (h : (s.answer C (.createNetworkPolicy np)).1 = .ok ()) :
    (s.answer C (.createNetworkPolicy np)).2 =
      s.putNetworkPolicy { np.roundTrip with creationTimestamp := some C.now } := by
  simp only [Store.answer] at h ⊢
  split at h
  · cases h
  · rfl

/-- An answered Update stores the round trip of the policy, with the creation time
of the policy it replaces. -/
theorem answer_updateNetworkPolicy {s : Store} {np : NetworkPolicy}
    (h : (s.answer C (.updateNetworkPolicy np)).1 = .ok ()) :
    ∃ old, s.networkPolicies np.key = some old ∧ (s.answer C (.updateNetworkPolicy np)).2 =
      s.putNetworkPolicy { np.roundTrip with creationTimestamp := old.creationTimestamp } := by
  simp only [Store.answer] at h ⊢
  split at h
  · exact ⟨_, ‹_›, rfl⟩
  · cases h

/-- An answered Create or Update of `np` stores `np`'s round trip under its key:
stamped now for a Create; for an Update, with the creation time of the stored
policy it replaces. -/
theorem answer_write_stored {s : Store} {np : NetworkPolicy} {r : Req Unit}
    (hr : r = .createNetworkPolicy np ∨ r = .updateNetworkPolicy np ∧ np.creationTimestamp.isNone = false)
    (h : (s.answer C r).1 = .ok ()) :
    ∃ t, (t = some C.now ∨ ∃ old, s.networkPolicies np.key = some old ∧ t = old.creationTimestamp ∧
        np.creationTimestamp.isNone = false) ∧
      (s.answer C r).2.networkPolicies np.key = some { np.roundTrip with creationTimestamp := t } := by
  rcases hr with rfl | ⟨rfl, hnone⟩
  · exact ⟨_, .inl rfl, by rw [answer_createNetworkPolicy h]; exact Store.putNetworkPolicy_self _ _⟩
  · obtain ⟨old, hold, e⟩ := answer_updateNetworkPolicy h
    exact ⟨_, .inr ⟨old, hold, rfl, hnone⟩, by rw [e]; exact Store.putNetworkPolicy_self _ _⟩

/-! ## The write step -/

variable {acl : ACL} {np : NetworkPolicy} {changed : Bool} {w : World}

/-- The status `updateStatus` writes. -/
def readyACL (acl : ACL) (networkPolicyName : String) : ACL :=
  { acl with status := { acl.status with networkPolicy := networkPolicyName, ready := true, reason := "" } }

theorem readyACL_status (acl : ACL) (name : String) :
    (readyACL acl name).status = { ready := true, reason := "", networkPolicy := name } := rfl

/-- A status update that returns `Requeue` was answered, as the last call. -/
theorem updateStatus_requeued {name : String} (h : ((updateStatus acl name).run C w).1 = .ok requeue) :
    (w.store.answer C (.updateACLStatus (readyACL acl name))).1 = .ok () ∧
      ((updateStatus acl name).run C w).2 = ⟨(w.store.answer C (.updateACLStatus (readyACL acl name))).2,
        w.log ++ [.updateACLStatus (readyACL acl name)]⟩ := by
  simp only [updateStatus, bind_eq, run_send_bind] at h ⊢
  rcases hr : (w.issue C (.updateACLStatus (readyACL acl name))).1 with err | ⟨⟩
  · simp only [readyACL] at hr; simp only [hr, pure_eq, run_pure] at h; cases h
  · simp only [readyACL] at hr
    obtain ⟨ha, hw⟩ := World.issue_of_ok hr
    simp only [hr, hw, pure_eq, run_pure]
    exact ⟨ha, rfl⟩

/-- A Create or an Update of `np`, answered, then the status update. -/
theorem write_then_updateStatus {r : Req Unit} (hr : (w.issue C r).1 = .ok ())
    (h : ((updateStatus acl np.name).run C (w.issue C r).2).1 = .ok requeue) :
    (w.store.answer C r).1 = .ok () ∧
      ((w.store.answer C r).2.answer C (.updateACLStatus (readyACL acl np.name))).1 = .ok () ∧
      ((updateStatus acl np.name).run C (w.issue C r).2).2 =
        ⟨((w.store.answer C r).2.answer C (.updateACLStatus (readyACL acl np.name))).2,
          w.log ++ [r.call, .updateACLStatus (readyACL acl np.name)]⟩ := by
  obtain ⟨ha, hw⟩ := World.issue_of_ok hr
  rw [hw] at h ⊢
  obtain ⟨hu, hw'⟩ := updateStatus_requeued h
  exact ⟨ha, hu, by rw [hw', List.append_assoc]; rfl⟩

/-- **The write step, when it returns `Requeue`**: it issued nothing, as `np` has a
creation time and is unchanged, or a Create or an Update of `np` was answered and
then the ready status with `np`'s name. -/
theorem writeNetworkPolicy_requeued (h : ((writeNetworkPolicy acl np changed).run C w).1 = .ok requeue) :
    np.creationTimestamp.isNone = false ∧ changed = false ∧ ((writeNetworkPolicy acl np changed).run C w).2 = w ∨
      ∃ r : Req Unit, (r = .createNetworkPolicy np ∨
          r = .updateNetworkPolicy np ∧ np.creationTimestamp.isNone = false) ∧
        (w.store.answer C r).1 = .ok () ∧
        ((w.store.answer C r).2.answer C (.updateACLStatus (readyACL acl np.name))).1 = .ok () ∧
        ((writeNetworkPolicy acl np changed).run C w).2 =
          ⟨((w.store.answer C r).2.answer C (.updateACLStatus (readyACL acl np.name))).2,
            w.log ++ [r.call, .updateACLStatus (readyACL acl np.name)]⟩ := by
  rcases writeNetworkPolicy_eq acl np changed with ⟨hnone, rfl, hw⟩ | ⟨r, hr, hw⟩ <;> rw [hw] at h ⊢
  · exact .inl ⟨hnone, rfl, rfl⟩
  · simp only [run_send_bind] at h ⊢
    rcases hr' : (w.issue C r).1 with err | ⟨⟩
    · simp only [hr', run_pure] at h; cases h
    · simp only [hr'] at h ⊢
      exact .inr ⟨r, hr, write_then_updateStatus hr' h⟩

/-! ## A whole pass -/

variable (E : Env) {req : NamespacedName} {s : Store}

theorem pass_of_fetch_error {err : Error} {w₁ : World} (hf : (fetch req).run C ⟨s, []⟩ = (.error err, w₁)) :
    pass E C req s = (.error err, w₁) := by
  simp only [pass, reconcile, bind_eq, run_bind, hf]; rfl

theorem unready_ne_requeue (acl : ACL) (reason : String) (w : World) :
    ((unready acl reason).run C w).1 ≠ .ok requeue := by
  simp only [unready, setUnreadyStatus, bind_eq, run_send_bind]
  split <;> simp [requeue]

end AclOperator
