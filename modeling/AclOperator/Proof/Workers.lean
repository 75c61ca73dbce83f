import AclOperator.Proof.Written

/-!
# Any number of passes at once

`SetupWithManager` lets four workers reconcile ACLs at once
(`MaxConcurrentReconciles: 4`). `interleaveAll` runs any number of programs against
one store, one request at a time, in any order, any request failing or answered.
Every invariant of the development holds over it, for every schedule, whatever the
cluster answers and whichever requests fail:

* `interleaveAll_retains`: nothing is deleted, and only statuses, records and
  policies change (whatever the programs);
* `interleaveAll_passes_shaped`: every policy written has the shape `Reconcile`
  gives it;
* `interleaveAll_passes_keyed`: every record stays under the name of its key;
* `interleaveAll_passes_readyNamed`: every Ready ACL names a policy that exists;
* `interleaveAll_passes_frame`: the passes touch only the statuses of their own
  ACLs and the policies of their namespaces.

The two-pass interleaving is the case of two workers whose requests never fail
(`interleave_eq_interleaveAll`). Each result follows, by one induction over the
schedule (`interleaveAll_induction`), from
what one request of one program keeps, answered (the lemmas of the two-pass
interleaving) or failing (it leaves the store as it is).
-/

namespace AclOperator

open Prog

variable {α : Type} {C : Cluster} {s : Store}

/-! ## One request, answered or failing -/

section

variable {P : Call → Prop} {p : Prog α}

@[simp] theorem Prog.stepWith_none (p : Prog α) (s : Store) : p.stepWith C none s = p.stepOn C s := by
  cases p <;> rfl

theorem Prog.Only.stepWith (hp : Only P p) (f : Option Error) (s : Store) : Only P (p.stepWith C f s).1 := by
  cases hp with
  | pure a => exact .pure a
  | call r k _ hk => cases f <;> exact hk _

theorem AnswersKeep.stepWith {Rel : Store → Store → Prop} (hR : AnswersKeep P Rel) (hp : Only P p)
    (f : Option Error) (s : Store) : Rel s (p.stepWith C f s).2 := by
  cases f with
  | none => rw [Prog.stepWith_none]; exact hR.stepOn hp s
  | some err => cases p <;> exact hR.refl s

theorem stepWith_policy_isSome (p : Prog α) (f : Option Error) {key : NamespacedName}
    (h : (s.networkPolicies key).isSome) : ((p.stepWith C f s).2.networkPolicies key).isSome := by
  cases f with
  | none => rw [Prog.stepWith_none]; exact stepOn_policy_isSome p s h
  | some err => cases p <;> exact h

/-- A failing request keeps what is known to exist: its answer is an error. -/
theorem ReadyNamed.stepWith (hs : ReadyNamed s) (hp : ReadyAfterWriteIn s p) (f : Option Error) :
    ReadyNamed (p.stepWith C f s).2 ∧ ReadyAfterWriteIn (p.stepWith C f s).2 (p.stepWith C f s).1 := by
  cases f with
  | none => rw [Prog.stepWith_none]; exact hs.stepOn hp
  | some err =>
    obtain ⟨pol, hp, hpol⟩ := hp
    cases hp with
    | pure => exact ⟨hs, pol, .pure _ _, hpol⟩
    | call pol r k _ hk => exact ⟨hs, pol, Req.written_error r err pol ▸ hk _, hpol⟩

/-- A request of a program confined to `req` stays in its frame, and the program
goes on confined. -/
theorem PassFrame.stepWith {req : NamespacedName} {Q : α → Prop} (hp : Confined (Call.ConfinedTo req) Q p)
    (hs : AclsKeyed s) (f : Option Error) :
    PassFrame (· = req) s (p.stepWith C f s).2 ∧ AclsKeyed (p.stepWith C f s).2 ∧
      Confined (Call.ConfinedTo req) Q (p.stepWith C f s).1 := by
  cases f with
  | none =>
    rw [Prog.stepWith_none]
    exact ⟨(PassFrame.stepOn hp hs).1, (PassFrame.stepOn hp hs).2, hp.stepOn hs⟩
  | some err =>
    cases hp with
    | pure a ha => exact ⟨.refl _ _, hs, .pure a ha⟩
    | call r k _ hk => exact ⟨.refl _ _, hs, hk _ (r.keyed_error err)⟩

end

/-! ## Schedules -/

/-- A property of the programs still running and of the store, kept by one request
of any of them, answered or failing, holds after every schedule. -/
theorem interleaveAll_induction {I : List (Prog α) → Store → Prop}
    (hstep : ∀ ps s i f p, ps[i]? = some p → I ps s → I (ps.set i (p.stepWith C f s).1) (p.stepWith C f s).2)
    (sch : List (Nat × Option Error)) (ps : List (Prog α)) (s : Store) (h : I ps s) :
    I (interleaveAll C sch (ps, s)).1 (interleaveAll C sch (ps, s)).2 := by
  induction sch generalizing ps s with
  | nil => exact h
  | cons x sch ih =>
    obtain ⟨i, f⟩ := x
    simp only [interleaveAll]
    split
    · exact ih _ _ (hstep ps s i f _ ‹_› h)
    · exact ih ps s h

/-- **Two passes at once are two workers.** The interleaving of two programs is the
workers' interleaving of both, `false` naming the first and `true` the second, with
no request failing. -/
theorem interleave_eq_interleaveAll (p q : Prog α) (sch : List Bool) (s : Store) :
    interleaveAll C (sch.map fun b => (if b then 1 else 0, none)) ([p, q], s) =
      ([(interleave C sch (p, q, s)).1, (interleave C sch (p, q, s)).2.1], (interleave C sch (p, q, s)).2.2) := by
  induction sch generalizing p q s with
  | nil => rfl
  | cons b sch ih =>
    cases b
    · show interleaveAll C _ ([(p.stepWith C none s).1, q], (p.stepWith C none s).2) = _
      rw [Prog.stepWith_none]; exact ih _ _ _
    · show interleaveAll C _ ([p, (q.stepWith C none s).1], (q.stepWith C none s).2) = _
      rw [Prog.stepWith_none]; exact ih _ _ _

theorem forall_mem_set {Q : Prog α → Prop} {ps : List (Prog α)} (h : ∀ q ∈ ps, Q q) (i : Nat) {p : Prog α}
    (hp : Q p) : ∀ q ∈ ps.set i p, Q q :=
  fun q hq => (List.mem_or_eq_of_mem_set hq).elim (h q) (· ▸ hp)

theorem AnswersKeep.interleaveAll {P : Call → Prop} {Rel : Store → Store → Prop} (hR : AnswersKeep P Rel)
    {ps : List (Prog α)} (hps : ∀ p ∈ ps, Only P p) (sch : List (Nat × Option Error)) (s : Store) :
    Rel s (AclOperator.interleaveAll C sch (ps, s)).2 :=
  (interleaveAll_induction (I := fun ps s' => Rel s s' ∧ ∀ p ∈ ps, Only P p)
    (fun _ s' i f p hp h => have hpP := h.2 p (List.getElem?_mem hp)
      ⟨hR.trans h.1 (hR.stepWith hpP f s'), forall_mem_set h.2 i (hpP.stepWith f s')⟩) sch ps s ⟨hR.refl s, hps⟩).1

/-! ## Passes -/

/-- The passes the workers run: each with its collaborators and its ACL. -/
def passProgs (passes : List (Env × NamespacedName)) : List (Prog (Except Error Result)) :=
  passes.map fun p => reconcile p.1 p.2

theorem forall_passProgs {Q : Prog (Except Error Result) → Prop} {passes : List (Env × NamespacedName)}
    (h : ∀ E req, (E, req) ∈ passes → Q (reconcile E req)) : ∀ p ∈ passProgs passes, Q p := by
  intro p hp
  obtain ⟨⟨E, req⟩, hmem, rfl⟩ := List.mem_map.1 hp
  exact h E req hmem

/-- Three workers over `raceStore`: passes for `ns/web`, `ns/api` and `ns/web` again. -/
def raceWorkers : List (Env × NamespacedName) :=
  [(Env.plain, ⟨"ns", "web"⟩), (Env.plain, ⟨"ns", "api"⟩), (Env.plain, ⟨"ns", "web"⟩)]

/-- The workers take turns; the first request of `ns/api` fails. -/
def raceWorkersSchedule : List (Nat × Option Error) :=
  [(0, none), (1, some ⟨.other, "timeout"⟩), (2, none), (0, none), (1, none), (2, none), (0, none), (2, none)]

variable (passes : List (Env × NamespacedName)) (sch : List (Nat × Option Error))

/-- **Programs at once delete nothing**, for any number of them and every schedule:
every ACL keeps all but its status and none appears, every policy stays with its
creation time, and every record keeps its name and its spec. -/
theorem interleaveAll_retains (ps : List (Prog α)) (s : Store) : Retains s (interleaveAll C sch (ps, s)).2 :=
  Retains.answersKeep.interleaveAll (fun p _ => Prog.only_true p) sch s

/-- **Passes at once write only policies of the shape**, for any number of them and
every schedule: every policy has an owner, the one type Egress, a selector with a
label and an egress rule, or was in the store before as it is. -/
theorem interleaveAll_passes_shaped (s : Store) :
    ShapedSince s (interleaveAll C sch (passProgs passes, s)).2 :=
  ShapedSince.answersKeep.interleaveAll (forall_passProgs fun E req _ => reconcile_writesShaped E req) sch s

theorem recordsKeyed_answersKeep (sum : String → Sum256) :
    AnswersKeep (Call.Keyed sum) fun s s' => RecordsKeyed sum s → RecordsKeyed sum s' :=
  ⟨fun _ h => h, fun h₁ h₂ h => h₂ (h₁ h), fun _ _ r _ hr hs => hs.answer r hr⟩

/-- **Passes at once keep every record under the name of its key**, for any number
of them hashing with `sum`, and every schedule. -/
theorem interleaveAll_passes_keyed {sum : String → Sum256} (hsum : ∀ E req, (E, req) ∈ passes → E.sum = sum)
    (hs : RecordsKeyed sum s) : RecordsKeyed sum (interleaveAll C sch (passProgs passes, s)).2 :=
  (recordsKeyed_answersKeep sum).interleaveAll
    (forall_passProgs fun E req h => hsum E req h ▸ reconcile_keyed E req) sch s hs

theorem interleaveAll_passes_keyed_race :
    RecordsKeyed Env.plain.sum
      (interleaveAll (Cluster.resolving ["1.2.3.4"]) raceWorkersSchedule (passProgs raceWorkers, raceStore)).2 :=
  interleaveAll_passes_keyed raceWorkers raceWorkersSchedule (fun E req h => by
    simp only [raceWorkers, List.mem_cons, Prod.mk.injEq, List.not_mem_nil, or_false] at h
    rcases h with ⟨rfl, -⟩ | ⟨rfl, -⟩ | ⟨rfl, -⟩ <;> rfl) raceStore_recordsKeyed

/-- **Passes at once keep every Ready ACL naming a policy that exists**, for any
number of them and every schedule. -/
theorem interleaveAll_passes_readyNamed (hs : ReadyNamed s) :
    ReadyNamed (interleaveAll C sch (passProgs passes, s)).2 := by
  refine (interleaveAll_induction (I := fun ps s => ReadyNamed s ∧ ∀ p ∈ ps, ReadyAfterWriteIn s p)
    (fun _ s i f p hp ⟨hs, hall⟩ => ?_) sch _ s ⟨hs, forall_passProgs fun E req _ =>
      ⟨none, reconcile_readyAfterWrite E req none, fun _ h => by cases h⟩⟩).1
  obtain ⟨hs', hp'⟩ := hs.stepWith (C := C) (hall p (List.getElem?_mem hp)) f
  exact ⟨hs', forall_mem_set (fun q hq => (hall q hq).grows fun _ => stepWith_policy_isSome p f) i hp'⟩

theorem interleaveAll_passes_readyNamed_race :
    ReadyNamed (interleaveAll (Cluster.resolving ["1.2.3.4"]) raceWorkersSchedule (passProgs raceWorkers, raceStore)).2 :=
  interleaveAll_passes_readyNamed raceWorkers raceWorkersSchedule ((ReadyNamed.empty.putACL rfl).putACL rfl)

/-- **Passes at once touch only their own ACLs' statuses and their namespaces'
policies**, for any number of them and every schedule: every ACL keeps its spec,
no other ACL changes, and no policy of another namespace. -/
theorem interleaveAll_passes_frame (hs : AclsKeyed s) :
    PassFrame (· ∈ passes.map Prod.snd) s (interleaveAll C sch (passProgs passes, s)).2 := by
  refine (interleaveAll_induction (I := fun ps s' => PassFrame (· ∈ passes.map Prod.snd) s s' ∧ AclsKeyed s' ∧
    ∀ p ∈ ps, ∃ req ∈ passes.map Prod.snd, Confined (Call.ConfinedTo req) (fun _ => True) p)
    (fun _ s' i f p hp ⟨hf, hs', hall⟩ => ?_) sch _ s
    ⟨.refl _ s, hs, forall_passProgs fun E req h => ⟨req, List.mem_map_of_mem Prod.snd h, reconcile_confined E req⟩⟩).1
  obtain ⟨req, hreq, hp⟩ := hall p (List.getElem?_mem hp)
  obtain ⟨hf', hs'', hp'⟩ := PassFrame.stepWith (C := C) hp hs' f
  exact ⟨hf.trans (hf'.mono fun _ h => h ▸ hreq), hs'', forall_mem_set hall i ⟨req, hreq, hp'⟩⟩

theorem interleaveAll_passes_frame_race :
    PassFrame (· ∈ raceWorkers.map Prod.snd) raceStore
      (interleaveAll (Cluster.resolving ["1.2.3.4"]) raceWorkersSchedule (passProgs raceWorkers, raceStore)).2 :=
  interleaveAll_passes_frame raceWorkers raceWorkersSchedule raceStore_keyed

end AclOperator
