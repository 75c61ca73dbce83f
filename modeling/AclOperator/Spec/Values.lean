import Mathlib.Data.String.Basic

/-!
# Go values as the reconciler compares them

`reflect.DeepEqual` decides whether `Reconcile` writes the NetworkPolicy, so the
model keeps what it looks at. A `nil` slice differs from an empty one (`Slice`),
and two maps are equal when their entries are, in whatever order they were built
(`Labels`, entries kept in key order). Go strings are `String`s, always read
through `toList`, so that every operation the code applies to them computes.
-/

namespace AclOperator

/-- A Go slice: `nil`, or a slice value with its elements (perhaps none). -/
inductive Slice (α : Type) where
  | nil
  | mk (xs : List α)
  deriving DecidableEq, Repr

namespace Slice

variable {α β : Type}

/-- The elements, as `range` visits them. -/
def toList : Slice α → List α
  | nil => []
  | mk xs => xs

/-- `append(s, xs...)`: appending nothing to a `nil` slice leaves it `nil`. -/
def append : Slice α → List α → Slice α
  | nil, [] => nil
  | s, xs => mk (s.toList ++ xs)

/-- Element-wise map, keeping `nil` as `nil`. -/
def map (f : α → β) : Slice α → Slice β
  | nil => nil
  | mk xs => mk (xs.map f)

/-- The JSON round trip of an `omitempty` slice: an empty one is left out of the
document and decodes as `nil`. -/
def omitEmpty (s : Slice α) : Slice α :=
  match s.toList with
  | [] => nil
  | _ => s

@[simp] theorem toList_nil : (nil : Slice α).toList = [] := rfl

@[simp] theorem toList_mk (xs : List α) : (mk xs).toList = xs := rfl

@[simp] theorem toList_append (s : Slice α) (xs : List α) :
    (s.append xs).toList = s.toList ++ xs := by
  cases s <;> cases xs <;> rfl

@[simp] theorem toList_map (f : α → β) (s : Slice α) : (s.map f).toList = s.toList.map f := by
  cases s <;> rfl

@[simp] theorem toList_omitEmpty (s : Slice α) : s.omitEmpty.toList = s.toList := by
  unfold omitEmpty; split <;> simp_all

end Slice

/-- A Go `map[string]string`, its entries in increasing key order, so that two maps
are `reflect.DeepEqual` exactly when they are equal here. A `nil` map and an empty
one are the same value: the code builds no empty map, and the API server decodes an
empty `omitempty` map as `nil`. -/
structure Labels where
  entries : List (String × String)
  sorted : (entries.map fun e => e.1.toList).Pairwise (· < ·)
  deriving DecidableEq

namespace Labels

/-- The `nil` map. -/
def empty : Labels := ⟨[], List.Pairwise.nil⟩

instance : Inhabited Labels := ⟨empty⟩

/-- A map literal with one entry. -/
def single (k v : String) : Labels := ⟨[(k, v)], List.pairwise_singleton _ _⟩

/-- A map literal with two entries, written in key order. -/
def pair (k₁ v₁ k₂ v₂ : String) (h : k₁.toList < k₂.toList) : Labels :=
  ⟨[(k₁, v₁), (k₂, v₂)], List.pairwise_pair.2 h⟩

end Labels

/-- The `StatusReason` of an API error, as far as the code tests it. -/
inductive StatusReason where
  | notFound
  | alreadyExists
  | other
  deriving DecidableEq, Repr

/-- A Go `error` from the API server or a collaborator: what `k8sErrors.IsNotFound`
tests, and the text `err.Error()` returns. -/
structure Error where
  reason : StatusReason
  message : String
  deriving DecidableEq, Repr

/-- `k8sErrors.IsNotFound`. -/
def Error.isNotFound (err : Error) : Bool := err.reason == .notFound

/-- The API server's answer to a read of an object that is not there. -/
def Error.notFound (name : String) : Error := ⟨.notFound, name ++ " not found"⟩

/-- The API server's answer to a create of an object that is already there. -/
def Error.alreadyExists (name : String) : Error := ⟨.alreadyExists, name ++ " already exists"⟩

/-- `types.NamespacedName`, the key of a namespaced object. -/
structure NamespacedName where
  «namespace» : String
  name : String
  deriving DecidableEq, Repr

end AclOperator
