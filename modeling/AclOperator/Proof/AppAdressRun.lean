import AclOperator.Proof.AppAdress

/-!
# Runs of TsuruAppAdress passes

A pass reads and writes only the object under its own key, and what it does
depends on the store only through that object. So in a run of passes for many
objects, each object ends as the passes for it alone would leave it, and passes
for different objects commute. A pass whose two API calls are answered settles
its object for the rest of any run.

* `reconcile_congr_at`: two stores that agree on the object under `k` give the same
  result, the same calls and the same object under `k`.
* `runPasses_objects_filter` (every run): the object under `k` is the one the run's
  passes for `k` alone leave.
* `runPasses_eq_of_filter` (every two runs): runs whose passes for each object come
  in the same order end in the same store.
* `answered_pass_settles` (every run): after a pass whose Get and Update are
  answered, every later pass for its object issues its Get and nothing else.
-/

namespace AclOperator

theorem AppAdressStore.ext {s s' : AppAdressStore} (h : ∀ key, s.objects key = s'.objects key) : s = s' := by
  obtain ⟨o, _⟩ := s
  obtain ⟨o', _⟩ := s'
  obtain rfl : o = o' := funext h
  rfl

namespace TsuruAppAdressReconciler

variable {R : TsuruAppAdressReconciler} {P : AppAdressPass} {k : NamespacedName} {s s' : AppAdressStore}

/-! ## A pass depends on its object only -/

/-- **A pass sees only its object.** From two stores that hold the same object
under `k`, a pass for `k` returns the same result, issues the same calls, and
leaves the same object under `k`. -/
theorem reconcile_congr_at (h : s.objects k = s'.objects k) (P : AppAdressPass) :
    (R.reconcile P k s).1 = (R.reconcile P k s').1 ∧ (R.reconcile P k s).2.log = (R.reconcile P k s').2.log ∧
      (R.reconcile P k s).2.store.objects k = (R.reconcile P k s').2.store.objects k := by
  rcases hf : P.fault 0 with _ | err
  · rcases hget : s.objects k with _ | appAddress
    · have hget' : s'.objects k = none := h ▸ hget
      simp only [reconcile, AppAdressWorld.get, AppAdressStore.get, List.length_nil, hf, hget, hget']
      exact ⟨rfl, rfl, hget.trans hget'.symm⟩
    have hget' : s'.objects k = some appAddress := h ▸ hget
    rcases hinfo : R.appInfo appAddress.spec.name with err | appInfo
    · rw [reconcile_of_appInfo_error hget hf hinfo, reconcile_of_appInfo_error hget' hf hinfo]
      exact ⟨rfl, rfl, h⟩
    cases hn : needsUpdate appAddress.status (R.routerIPs P.iteration appInfo)
    · rw [reconcile_quiet hget hf hinfo hn, reconcile_quiet hget' hf hinfo hn]
      exact ⟨rfl, rfl, h⟩
    · rw [reconcile_write hget hf hinfo hn, reconcile_write hget' hf hinfo hn]
      split
      · exact ⟨rfl, rfl, h⟩
      · exact ⟨rfl, rfl, by simp [h]⟩
  · simp only [reconcile, AppAdressWorld.get, List.length_nil, hf]
    split <;> exact ⟨rfl, rfl, h⟩

/-! ## Runs -/

theorem runPasses_cons (p : NamespacedName × AppAdressPass) (ps : List (NamespacedName × AppAdressPass))
    (s : AppAdressStore) : R.runPasses (p :: ps) s = R.runPasses ps (R.reconcile p.2 p.1 s).2.store := rfl

theorem runPasses_append (ps qs : List (NamespacedName × AppAdressPass)) (s : AppAdressStore) :
    R.runPasses (ps ++ qs) s = R.runPasses qs (R.runPasses ps s) := List.foldl_append _ _ _ _

/-- From two stores that agree under `k`, a run and its passes for `k` alone leave
the same object under `k`. -/
theorem runPasses_objects_at (ps : List (NamespacedName × AppAdressPass)) :
    ∀ s s' : AppAdressStore, s.objects k = s'.objects k →
      (R.runPasses ps s).objects k = (R.runPasses (ps.filter fun p => p.1 == k) s').objects k := by
  induction ps with
  | nil => intro s s' h; exact h
  | cons p ps ih =>
    intro s s' h
    by_cases hk : p.1 = k
    · rw [List.filter_cons_of_pos (by simp [hk]), runPasses_cons, runPasses_cons]
      exact ih _ _ (hk ▸ (reconcile_congr_at (hk ▸ h) p.2).2.2)
    · rw [List.filter_cons_of_neg (by simp [hk]), runPasses_cons]
      exact ih _ _ ((R.reconcile_objects_of_ne (Ne.symm hk) p.2 s).trans h)

/-- **Objects are independent.** After any run of passes, for any objects and with
any faults, map orders and times, the object under `k` is the one the run's passes
for `k` alone would leave. -/
theorem runPasses_objects_filter (ps : List (NamespacedName × AppAdressPass)) (s : AppAdressStore)
    (k : NamespacedName) :
    (R.runPasses ps s).objects k = (R.runPasses (ps.filter fun p => p.1 == k) s).objects k :=
  runPasses_objects_at ps s s rfl

/-- **Passes for different objects commute.** Two runs that hold, for every object,
the same passes for it in the same order end in the same store, however the passes
for different objects are interleaved. -/
theorem runPasses_eq_of_filter {ps ps' : List (NamespacedName × AppAdressPass)}
    (h : ∀ k, (ps.filter fun p => p.1 == k) = ps'.filter fun p => p.1 == k) (s : AppAdressStore) :
    R.runPasses ps s = R.runPasses ps' s :=
  AppAdressStore.ext fun _ => by rw [runPasses_objects_at ps s s rfl, runPasses_objects_at ps' s s rfl, h]

/-- Passes for `web` and for `ns/api`, in either order, over the store holding `web`. -/
theorem runPasses_swap_web :
    (∀ k, ([(webApp.key, ({} : AppAdressPass)), (⟨"ns", "api"⟩, {})].filter fun p => p.1 == k) =
      [(⟨"ns", "api"⟩, ({} : AppAdressPass)), (webApp.key, {})].filter fun p => p.1 == k) ∧
    webReconciler.runPasses [(webApp.key, {}), (⟨"ns", "api"⟩, {})] webStore =
      webReconciler.runPasses [(⟨"ns", "api"⟩, {}), (webApp.key, {})] webStore :=
  have h : ∀ k, ([(webApp.key, ({} : AppAdressPass)), (⟨"ns", "api"⟩, {})].filter fun p => p.1 == k) =
      [(⟨"ns", "api"⟩, ({} : AppAdressPass)), (webApp.key, {})].filter fun p => p.1 == k := fun k => by
    by_cases h₁ : webApp.key = k
    · subst h₁; simp [List.filter_cons, webApp, TsuruAppAdress.key]
    · by_cases h₂ : (⟨"ns", "api"⟩ : NamespacedName) = k
      · subst h₂; simp [List.filter_cons, h₁]
      · simp [List.filter_cons, h₁, h₂]
  ⟨h, runPasses_eq_of_filter h webStore⟩

/-! ## Answered passes settle -/

/-- A pass whose Get and Update are answered leaves its object settled, whatever it
returns. -/
theorem reconcile_settles_of_answered (hf0 : P.fault 0 = none) (hf1 : P.fault 1 = none) :
    R.Settled k (R.reconcile P k s).2.store := by
  rcases R.reconcile_cases P k s with h | ⟨err, h⟩ | ⟨_, _, -, -, -, -, h⟩
  · exact reconcile_settles hf0 (r := {}) (by rw [h])
  · rw [h]
    intro appAddress hget appInfo hinfo
    cases hn : needsUpdate appAddress.status (R.routerIPs P.iteration appInfo)
    · rw [reconcile_quiet hget hf0 hinfo hn] at h; cases h
    · rw [reconcile_write hget hf0 hinfo hn, hf1] at h; cases h
  · rw [hf1] at h
    exact reconcile_settles hf0 (r := {}) (by rw [h])

/-- **An answered pass settles its object for the rest of any run.** In a run of
passes for any objects, with any faults, map orders and times, once a pass for `k`
has its Get and its status Update answered, every later pass for `k` issues its Get
and nothing else, and leaves the store as it is. -/
theorem answered_pass_settles (hf0 : P.fault 0 = none) (hf1 : P.fault 1 = none)
    (ps₁ ps₂ : List (NamespacedName × AppAdressPass)) (s : AppAdressStore) (P' : AppAdressPass) :
    (R.reconcile P' k (R.runPasses (ps₁ ++ (k, P) :: ps₂) s)).2 = ⟨R.runPasses (ps₁ ++ (k, P) :: ps₂) s, [.get k]⟩ := by
  rw [runPasses_append, runPasses_cons]
  exact reconcile_of_settled ((reconcile_settles_of_answered hf0 hf1).runPasses ps₂) P'

/-- A pass with every call answered, then any pass for `web`, over the store holding
`web`. -/
theorem answered_pass_settles_web :
    ({} : AppAdressPass).fault 0 = none ∧ ({} : AppAdressPass).fault 1 = none ∧
      (webReconciler.reconcile {} webApp.key
        (webReconciler.runPasses ([] ++ [(webApp.key, ({} : AppAdressPass))]) webStore)).2 =
        ⟨webReconciler.runPasses ([] ++ [(webApp.key, ({} : AppAdressPass))]) webStore, [.get webApp.key]⟩ :=
  ⟨rfl, rfl, answered_pass_settles rfl rfl [] [] webStore {}⟩

end TsuruAppAdressReconciler

end AclOperator
