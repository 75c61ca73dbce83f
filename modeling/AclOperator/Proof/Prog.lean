import AclOperator.Spec.Store

/-!
# Running programs

`Prog.run` through binds (`run_bind`), and what a program can touch. `Only P p`
says that every call `p` can issue, whatever the answers, satisfies `P`; then a
run of `p` appends only such calls to the log (`Only.run_log`), and a program that
never writes an ACL, or a NetworkPolicy, leaves those objects as they were
(`Only.run_acls`, `Only.run_networkPolicies`).
-/

namespace AclOperator

variable {α β γ : Type} {C : Cluster}

namespace Prog

@[simp] theorem bind_eq (p : Prog α) (f : α → Prog β) : p >>= f = p.bind f := rfl

@[simp] theorem pure_eq (a : α) : (Pure.pure a : Prog α) = .pure a := rfl

@[simp] theorem pure_bind (a : α) (f : α → Prog β) : (Prog.pure a).bind f = f a := rfl

@[simp] theorem run_pure (a : α) (w : World) : (Prog.pure a).run C w = (a, w) := rfl

@[simp] theorem run_send (r : Req β) (w : World) : (send r).run C w = w.issue C r := rfl

theorem run_bind (p : Prog α) (f : α → Prog β) (w : World) :
    (p.bind f).run C w = (f (p.run C w).1).run C (p.run C w).2 := by
  induction p generalizing w with
  | pure a => rfl
  | call r k ih => exact ih _ _

@[simp] theorem run_send_bind (r : Req γ) (f : Except Error γ → Prog β) (w : World) :
    ((send r).bind f).run C w = (f (w.issue C r).1).run C (w.issue C r).2 := rfl

/-- Every call the program can issue, whatever the answers, satisfies `P`. -/
inductive Only (P : Call → Prop) : Prog α → Prop
  | pure (a : α) : Only P (.pure a)
  | call {β : Type} (r : Req β) (k : Except Error β → Prog α) :
      P r.call → (∀ b, Only P (k b)) → Only P (.call r k)

variable {P : Call → Prop}

theorem Only.bind {p : Prog α} {f : α → Prog β} (hp : Only P p) (hf : ∀ a, Only P (f a)) :
    Only P (p.bind f) := by
  induction hp with
  | pure a => exact hf a
  | call r k hr _ ih => exact .call r _ hr ih

theorem Only.send {r : Req β} (hr : P r.call) : Only P (AclOperator.send r) :=
  .call r _ hr fun b => .pure b

theorem Only.send_bind {r : Req β} {f : Except Error β → Prog α} (hr : P r.call)
    (hf : ∀ b, Only P (f b)) : Only P ((AclOperator.send r).bind f) :=
  .call r _ hr hf

theorem Only.mono {Q : Call → Prop} {p : Prog α} (hp : Only P p) (h : ∀ c, P c → Q c) : Only Q p := by
  induction hp with
  | pure a => exact .pure a
  | call r k hr _ ih => exact .call r k (h _ hr) ih

/-- A run of a program appends to the log only calls the program can issue. -/
theorem Only.run_log {p : Prog α} (hp : Only P p) (w : World) :
    ∃ l, (p.run C w).2.log = w.log ++ l ∧ ∀ c ∈ l, P c := by
  induction hp generalizing w with
  | pure a => exact ⟨[], by simp, by simp⟩
  | call r k hr _ ih =>
    obtain ⟨l, hl, hP⟩ := ih (w.issue C r).1 (w.issue C r).2
    have hlog : (w.issue C r).2.log = w.log ++ [r.call] := by
      unfold World.issue; split <;> rfl
    refine ⟨r.call :: l, ?_, ?_⟩
    · simp only [run, hl, hlog, List.append_assoc, List.singleton_append]
    · intro c hc
      rcases List.mem_cons.1 hc with rfl | hc
      · exact hr
      · exact hP c hc

end Prog

/-! ## What a call writes -/

/-- The call writes a NetworkPolicy (Create or Update). -/
def Call.writesPolicy : Call → Bool
  | .createNetworkPolicy _ | .updateNetworkPolicy _ => true
  | _ => false

/-- The call writes an ACL (its status). -/
def Call.writesACL : Call → Bool
  | .updateACLStatus _ => true
  | _ => false

/-- The call reads or writes address records only. -/
def Call.onRecords : Call → Bool
  | .getRecord _ _ | .createRecord _ _ | .reconcileRecord _ _ => true
  | _ => false

theorem Call.onRecords_writes {c : Call} (h : c.onRecords = true) :
    c.writesPolicy = false ∧ c.writesACL = false := by
  cases c <;> simp_all [onRecords, writesPolicy, writesACL]

theorem Store.putRecord_acls (s : Store) (k : Kind) (n : String) (r : Record k) :
    (s.putRecord k n r).acls = s.acls := by
  cases k <;> rfl

theorem Store.putRecord_networkPolicies (s : Store) (k : Kind) (n : String) (r : Record k) :
    (s.putRecord k n r).networkPolicies = s.networkPolicies := by
  cases k <;> rfl

theorem subReconcile_acls (k : Kind) (name : String) (s : Store) :
    (subReconcile C k name s).2.acls = s.acls := by
  unfold subReconcile; split
  · rfl
  · split <;> simp [Store.putRecord_acls]

theorem subReconcile_networkPolicies (k : Kind) (name : String) (s : Store) :
    (subReconcile C k name s).2.networkPolicies = s.networkPolicies := by
  unfold subReconcile; split
  · rfl
  · split <;> simp [Store.putRecord_networkPolicies]

/-- An answer leaves the ACLs alone unless the call writes one. -/
theorem answer_acls (r : Req β) (s : Store) (h : r.call.writesACL = false) :
    (s.answer C r).2.acls = s.acls := by
  cases r <;> simp only [Req.call, Call.writesACL, Bool.true_eq_false] at h <;> simp only [Store.answer] <;>
    (try split) <;> simp [Store.putRecord_acls, Store.putNetworkPolicy, subReconcile_acls]

/-- An answer leaves the NetworkPolicies alone unless the call writes one. -/
theorem answer_networkPolicies (r : Req β) (s : Store) (h : r.call.writesPolicy = false) :
    (s.answer C r).2.networkPolicies = s.networkPolicies := by
  cases r <;> simp only [Req.call, Call.writesPolicy, Bool.true_eq_false] at h <;> simp only [Store.answer] <;>
    (try split) <;> simp [Store.putRecord_networkPolicies, Store.putACL, subReconcile_networkPolicies]

theorem issue_acls (r : Req β) (w : World) (h : r.call.writesACL = false) :
    (w.issue C r).2.store.acls = w.store.acls := by
  unfold World.issue; split
  · rfl
  · exact answer_acls r w.store h

theorem issue_networkPolicies (r : Req β) (w : World) (h : r.call.writesPolicy = false) :
    (w.issue C r).2.store.networkPolicies = w.store.networkPolicies := by
  unfold World.issue; split
  · rfl
  · exact answer_networkPolicies r w.store h

/-- A program that writes no ACL leaves the ACLs as they were. -/
theorem Prog.Only.run_acls {p : Prog α} (hp : Prog.Only (fun c => c.writesACL = false) p) (w : World) :
    (p.run C w).2.store.acls = w.store.acls := by
  induction hp generalizing w with
  | pure a => rfl
  | call r k hr _ ih => exact (ih _ _).trans (issue_acls r w hr)

/-- A program that writes no NetworkPolicy leaves the NetworkPolicies as they were. -/
theorem Prog.Only.run_networkPolicies {p : Prog α}
    (hp : Prog.Only (fun c => c.writesPolicy = false) p) (w : World) :
    (p.run C w).2.store.networkPolicies = w.store.networkPolicies := by
  induction hp generalizing w with
  | pure a => rfl
  | call r k hr _ ih => exact (ih _ _).trans (issue_networkPolicies r w hr)

end AclOperator
