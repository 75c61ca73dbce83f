import AclOperator.Spec.Reconcile

/-!
# What `validResourceName` gives

A valid key is its own name. Any other key's name is its sanitised, trimmed,
truncated text, then `-` and ten hex digits of its digest
(`validResourceName_toList_of_invalid`). Every name has at most 253 characters, all
of `[a-z0-9.-]` (`validResourceName_length_chars`), but that is not all the grammar
asks.

* `unalnum_key_name_invalid`: a key with no character in `[a-z0-9]` gets the name
  `-` followed by the digest prefix, which is not a DNS-1123 subdomain.
* `shared_name_cases`: two keys share a name only when both are invalid and their
  digest prefixes agree, or when one is valid and is the other's name.
* `aB_shares_name_with_valid_key`: the second case happens for every hash: `aB`
  and the valid key `a--` followed by `aB`'s digest prefix.
-/

namespace AclOperator

/-! ## The automaton -/

@[simp] theorem LabelState.next_reject (c : Char) : LabelState.reject.next c = .reject := rfl

@[simp] theorem LabelState.foldl_reject (l : List Char) : l.foldl LabelState.next .reject = .reject := by
  induction l with
  | nil => rfl
  | cons c l ih => exact ih

/-- Once every remaining character is alphanumeric, a live automaton ends after an
alphanumeric. -/
theorem LabelState.foldl_alnum {l : List Char} (h : ∀ c ∈ l, isAlphanumeric c = true) (hne : l ≠ [])
    {s : LabelState} (hs : s ≠ .reject) : l.foldl LabelState.next s = .alnum := by
  induction l generalizing s with
  | nil => exact absurd rfl hne
  | cons c l ih =>
    have hc : s.next c = .alnum := by
      cases s with
      | reject => exact absurd rfl hs
      | _ => simp only [LabelState.next, h c (.head _), if_true]
    rcases l with _ | ⟨d, l⟩
    · exact hc
    · rw [List.foldl_cons, hc]
      exact ih (fun x hx => h x (.tail _ hx)) (List.cons_ne_nil _ _) (by simp)

/-- A name that starts with a character outside `[a-z0-9]` is not valid. -/
theorem isDNS1123Subdomain_of_head {s : String} {c : Char} {l : List Char} (hs : s.toList = c :: l)
    (hc : isAlphanumeric c = false) : isDNS1123Subdomain s = false := by
  unfold isDNS1123Subdomain
  rw [hs]
  simp [LabelState.next, hc]

theorem isDNS1123Subdomain_of_not_alnum {k : String} (hk : ∀ c ∈ k.toList, isAlphanumeric c = false) :
    isDNS1123Subdomain k = false := by
  obtain ⟨_ | ⟨c, l⟩⟩ := k
  · rfl
  · exact isDNS1123Subdomain_of_head rfl (hk c (.head _))

/-! ## The sanitiser and the digest -/

@[simp] theorem isAlphanumeric_sanitize (c : Char) : isAlphanumeric (sanitize c) = isAlphanumeric c := by
  unfold sanitize
  split
  · rfl
  · rename_i h
    simp only [Bool.or_eq_true, not_or] at h
    rw [Bool.not_eq_true] at h
    rw [h.1.1]; rfl

/-- A character of `[a-z0-9.-]`, the class `sanitize` keeps. -/
def isNameChar (c : Char) : Bool := isAlphanumeric c || c = '.' || c = '-'

theorem isNameChar_sanitize (c : Char) : isNameChar (sanitize c) = true := by
  unfold sanitize
  split
  · assumption
  · rfl

theorem isNameChar_of_alnum {c : Char} (h : isAlphanumeric c = true) : isNameChar c = true := by
  simp [isNameChar, h]

/-- The automaton rejects every character outside `[a-z0-9.-]`. -/
theorem LabelState.next_of_not_nameChar {c : Char} (h : isNameChar c = false) (s : LabelState) :
    s.next c = .reject := by
  simp only [isNameChar, Bool.or_eq_false_iff, decide_eq_false_iff_not] at h
  obtain ⟨⟨ha, hdot⟩, hdash⟩ := h
  cases s <;> simp [LabelState.next, ha, hdot, hdash]

/-- A word the automaton does not reject is made of `[a-z0-9.-]`. -/
theorem LabelState.nameChars_of_foldl {l : List Char} {s : LabelState} (h : l.foldl LabelState.next s ≠ .reject) :
    ∀ c ∈ l, isNameChar c = true := by
  induction l generalizing s with
  | nil => intro c hc; cases hc
  | cons c l ih =>
    intro d hd
    have hc : isNameChar c = true := by
      cases hn : isNameChar c
      · rw [List.foldl_cons, LabelState.next_of_not_nameChar hn, LabelState.foldl_reject] at h
        exact absurd rfl h
      · rfl
    rcases List.mem_cons.1 hd with rfl | hd
    · exact hc
    · exact ih h d hd

theorem hexDigit_alnum : ∀ n < 16, isAlphanumeric (hexDigit n) = true := by decide

theorem length_flatMap_pair {α β : Type} (f g : α → β) (l : List α) :
    (l.flatMap fun a => [f a, g a]).length = 2 * l.length := by
  induction l with
  | nil => rfl
  | cons a l ih =>
    simp only [List.flatMap_cons, List.length_append, ih, List.length_cons, List.length_nil]; omega

variable (sum : String → Sum256)

theorem sha256String_alnum (s : String) : ∀ c ∈ (sha256String sum s).toList, isAlphanumeric c = true := by
  intro c hc
  obtain ⟨b, -, hb⟩ := List.mem_flatMap.1 hc
  have := UInt8.toNat_lt b
  rcases List.mem_pair.1 hb with rfl | rfl
  · exact hexDigit_alnum _ (by omega)
  · exact hexDigit_alnum _ (by omega)

theorem sha256String_length (s : String) : (sha256String sum s).toList.length = 64 := by
  show (List.flatMap _ _).length = 64
  rw [length_flatMap_pair, (sum s).length_eq]

/-- The ten digits of the digest that a name ends with. -/
theorem length_digest (s : String) : ((sha256String sum s).toList.take 10).length = 10 := by
  rw [List.length_take, sha256String_length]; rfl

/-! ## The name of a key -/

theorem isDNS1123Subdomain_iff (s : String) :
    isDNS1123Subdomain s = true ↔
      s.toList.length ≤ dns1123SubdomainMaxLength ∧ s.toList.foldl LabelState.next .start = .alnum := by
  simp [isDNS1123Subdomain]

theorem validResourceName_of_valid {k : String} (hk : isDNS1123Subdomain k = true) :
    validResourceName sum k = k := by
  simp [validResourceName, hk]

/-- **The name of an invalid key**: the sanitised key without its leading run of
`[^a-z0-9]`, cut to `maxChars - 11` characters, then `-` and ten digest digits. -/
theorem validResourceName_toList_of_invalid {k : String} (hk : isDNS1123Subdomain k = false) :
    (validResourceName sum k).toList =
      ((k.toList.map sanitize).dropWhile fun c => !isAlphanumeric c).take (maxChars - 11) ++
        '-' :: (sha256String sum k).toList.take 10 := by
  simp only [validResourceName, hk, Bool.false_eq_true, if_false]
  split
  · rename_i h
    rw [List.take_of_length_le h.le]; rfl
  · rfl

/-- The length of an invalid key's name: its trimmed sanitised key, at most
`maxChars - 11` characters of it, then eleven more. -/
theorem validResourceName_length_of_invalid {k : String} (hk : isDNS1123Subdomain k = false) :
    (validResourceName sum k).toList.length =
      min ((k.toList.map sanitize).dropWhile fun c => !isAlphanumeric c).length (maxChars - 11) + 11 := by
  rw [validResourceName_toList_of_invalid sum hk, List.length_append, List.length_cons, length_digest,
    List.length_take, Nat.min_comm]

/-- **A long key's name has exactly 253 characters**: an invalid key whose trimmed
sanitised form has at least `maxChars - 11` characters. The trim comes first, so a
key whose sanitised form is long only by its leading run of `[^a-z0-9]` gets a
shorter name. -/
theorem validResourceName_length_of_long {k : String} (hk : isDNS1123Subdomain k = false)
    (hlong : maxChars - 11 ≤ ((k.toList.map sanitize).dropWhile fun c => !isAlphanumeric c).length) :
    (validResourceName sum k).toList.length = dns1123SubdomainMaxLength := by
  rw [validResourceName_length_of_invalid sum hk, Nat.min_eq_right hlong]; rfl

/-- **Every name has at most 253 characters, all of `[a-z0-9.-]`**, for every key
and every hash: the parts of the DNS-1123 grammar that `validResourceName` does
ensure. -/
theorem validResourceName_length_chars (k : String) :
    (validResourceName sum k).toList.length ≤ dns1123SubdomainMaxLength ∧
      ∀ c ∈ (validResourceName sum k).toList, isNameChar c = true := by
  cases hk : isDNS1123Subdomain k
  · refine ⟨?_, fun c hc => ?_⟩
    · rw [validResourceName_length_of_invalid sum hk]
      have := Nat.min_le_right (((k.toList.map sanitize).dropWhile fun c => !isAlphanumeric c).length) (maxChars - 11)
      simp only [maxChars, dns1123SubdomainMaxLength] at this ⊢
      omega
    · rw [validResourceName_toList_of_invalid sum hk] at hc
      rcases List.mem_append.1 hc with hc | hc
      · obtain ⟨d, -, rfl⟩ := List.mem_map.1 ((List.dropWhile_sublist _).subset (List.mem_of_mem_take hc))
        exact isNameChar_sanitize d
      · rcases List.mem_cons.1 hc with rfl | hc
        · rfl
        · exact isNameChar_of_alnum (sha256String_alnum sum k c (List.mem_of_mem_take hc))
  · rw [validResourceName_of_valid sum hk]
    obtain ⟨hlen, hfold⟩ := (isDNS1123Subdomain_iff k).1 hk
    exact ⟨hlen, LabelState.nameChars_of_foldl (by rw [hfold]; decide)⟩

/-- **The name of a key without `[a-z0-9]` is not valid.** The trim removes the
whole sanitised key, so the name is `-` and the digest prefix. -/
theorem unalnum_key_name_invalid {k : String} (hk : ∀ c ∈ k.toList, isAlphanumeric c = false) :
    isDNS1123Subdomain (validResourceName sum k) = false := by
  have htrim : ((k.toList.map sanitize).dropWhile fun c => !isAlphanumeric c) = [] :=
    List.dropWhile_eq_nil_iff.2 fun c hc => by
      obtain ⟨d, hd, rfl⟩ := List.mem_map.1 hc
      simp [hk d hd]
  have h := validResourceName_toList_of_invalid sum (isDNS1123Subdomain_of_not_alnum hk)
  rw [htrim, List.take_nil, List.nil_append] at h
  exact isDNS1123Subdomain_of_head h (by decide)

theorem unalnum_key_name_invalid_upper :
    (∀ c ∈ "MYAPP".toList, isAlphanumeric c = false) ∧
      isDNS1123Subdomain (validResourceName Env.plain.sum "MYAPP") = false :=
  ⟨by decide, unalnum_key_name_invalid _ (by decide)⟩

/-- **When two keys share a name.** Either both are invalid and the first ten
digits of their digests agree, or one of them is valid and is the other's name. -/
theorem shared_name_cases {k₁ k₂ : String} (hne : k₁ ≠ k₂)
    (h : validResourceName sum k₁ = validResourceName sum k₂) :
    (isDNS1123Subdomain k₁ = false ∧ isDNS1123Subdomain k₂ = false ∧
        (sha256String sum k₁).toList.take 10 = (sha256String sum k₂).toList.take 10) ∨
      (isDNS1123Subdomain k₁ = true ∧ k₁ = validResourceName sum k₂) ∨
      (isDNS1123Subdomain k₂ = true ∧ k₂ = validResourceName sum k₁) := by
  cases h₁ : isDNS1123Subdomain k₁ <;> cases h₂ : isDNS1123Subdomain k₂
  · -- both invalid: the names end with the digest prefixes, of one length
    have e := congrArg String.toList h
    rw [validResourceName_toList_of_invalid sum h₁, validResourceName_toList_of_invalid sum h₂] at e
    have hd := (List.append_inj' e (by simp only [List.length_cons, length_digest])).2
    exact .inl ⟨rfl, rfl, List.tail_eq_of_cons_eq hd⟩
  · exact .inr (.inr ⟨rfl, by rw [h, validResourceName_of_valid sum h₂]⟩)
  · exact .inr (.inl ⟨rfl, by rw [← h, validResourceName_of_valid sum h₁]⟩)
  · rw [validResourceName_of_valid sum h₁, validResourceName_of_valid sum h₂] at h
    exact absurd h hne

theorem shared_name_cases_aB :
    "aB" ≠ "a--0000000000" ∧
      validResourceName Env.plain.sum "aB" = validResourceName Env.plain.sum "a--0000000000" ∧
      ((isDNS1123Subdomain "aB" = false ∧ isDNS1123Subdomain "a--0000000000" = false ∧
          (sha256String Env.plain.sum "aB").toList.take 10 =
            (sha256String Env.plain.sum "a--0000000000").toList.take 10) ∨
        (isDNS1123Subdomain "aB" = true ∧ "aB" = validResourceName Env.plain.sum "a--0000000000") ∨
        (isDNS1123Subdomain "a--0000000000" = true ∧
          "a--0000000000" = validResourceName Env.plain.sum "aB")) :=
  ⟨by decide, rfl, shared_name_cases _ (by decide) rfl⟩

/-- **A valid key can share an invalid key's name**, for every hash: `aB` is named
`a--` and its digest prefix, a valid key that is its own name. -/
theorem aB_shares_name_with_valid_key :
    let k₂ := "a--" ++ ⟨(sha256String sum "aB").toList.take 10⟩
    "aB" ≠ k₂ ∧ validResourceName sum "aB" = validResourceName sum k₂ ∧ isDNS1123Subdomain k₂ = true := by
  intro k₂
  have hD : ∀ c ∈ (sha256String sum "aB").toList.take 10, isAlphanumeric c = true :=
    fun c hc => sha256String_alnum sum "aB" c (List.mem_of_mem_take hc)
  have hlen := length_digest sum "aB"
  have hv : isDNS1123Subdomain k₂ = true := by
    rw [isDNS1123Subdomain_iff]
    change (['a', '-', '-'] ++ (sha256String sum "aB").toList.take 10).length ≤ 253 ∧
      (['a', '-', '-'] ++ (sha256String sum "aB").toList.take 10).foldl LabelState.next .start = .alnum
    rw [List.length_append, hlen, List.foldl_append]
    -- after `a--` the automaton is in `dash`, and the digest is alphanumeric
    exact ⟨by decide, LabelState.foldl_alnum hD (List.ne_nil_of_length_pos (by omega)) (s := .dash) (by decide)⟩
  refine ⟨fun h => ?_, by rw [validResourceName_of_valid sum hv]; rfl, hv⟩
  have := congrArg (fun s : String => s.toList.length) h
  change 2 = (['a', '-', '-'] ++ (sha256String sum "aB").toList.take 10).length at this
  simp [hlen] at this

/-- With the zero hash: `aB` and the valid key `a--0000000000` share a name. -/
theorem valid_key_shares_name :
    "aB" ≠ "a--0000000000" ∧
      validResourceName Env.plain.sum "aB" = validResourceName Env.plain.sum "a--0000000000" ∧
      isDNS1123Subdomain "a--0000000000" = true :=
  aB_shares_name_with_valid_key Env.plain.sum

end AclOperator
