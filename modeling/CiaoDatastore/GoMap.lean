import Mathlib.Data.Finset.Card

/-! Go maps as finite partial functions. A `GoMap` keeps its key set beside its lookup, so
that `len(m)` and a `range` loop can be computed, and two maps with the same lookups are
equal, as two Go maps with the same entries are. Go fixes no iteration order: a model of a
`range` loop whose result depends on the order takes the order as an argument, and
`Enumerates` says which orders the runtime may choose. A `map[K]bool` whose values are only
ever `true` is a `Finset K`. -/
namespace CiaoDatastore

structure GoMap (K V : Type) [DecidableEq K] where
  keys : Finset K
  get : K → Option V
  mem_keys : ∀ k, k ∈ keys ↔ get k ≠ none

namespace GoMap
variable {K V : Type} [DecidableEq K]

def empty : GoMap K V := ⟨∅,fun _ => none,by simp⟩

/-- `m[k] = v`. -/
def insert (m : GoMap K V) (k : K) (v : V) : GoMap K V where
  keys := Insert.insert k m.keys
  get x := if x = k then some v else m.get x
  mem_keys x := by by_cases same : x = k <;> simp [same,m.mem_keys]

/-- `delete(m, k)`. -/
def delete (m : GoMap K V) (k : K) : GoMap K V where
  keys := m.keys.erase k
  get x := if x = k then none else m.get x
  mem_keys x := by by_cases same : x = k <;> simp [same,m.mem_keys]

/-- `len(m)`. -/
def len (m : GoMap K V) : Nat := m.keys.card

/-- The orders in which `for k := range m` may visit the keys. -/
def Enumerates (m : GoMap K V) (order : List K) : Prop :=
  order.Nodup ∧ ∀ k, k ∈ order ↔ k ∈ m.keys

@[simp] theorem get_empty (k : K) : (empty : GoMap K V).get k = none := rfl

@[simp] theorem get_insert (m : GoMap K V) (k x : K) (v : V) :
    (m.insert k v).get x = if x = k then some v else m.get x := rfl

@[simp] theorem get_delete (m : GoMap K V) (k x : K) :
    (m.delete k).get x = if x = k then none else m.get x := rfl

@[simp] theorem keys_empty : (empty : GoMap K V).keys = ∅ := rfl

@[simp] theorem keys_insert (m : GoMap K V) (k : K) (v : V) :
    (m.insert k v).keys = Insert.insert k m.keys := rfl

@[simp] theorem keys_delete (m : GoMap K V) (k : K) : (m.delete k).keys = m.keys.erase k := rfl

theorem mem_keys_iff (m : GoMap K V) (k : K) : k ∈ m.keys ↔ ∃ v, m.get k = some v := by
  rw [m.mem_keys,Option.ne_none_iff_exists']

theorem get_eq_none (m : GoMap K V) (k : K) : m.get k = none ↔ k ∉ m.keys := by
  rw [m.mem_keys,not_not]

/-- Whether a `range` loop over the map meets a value satisfying `f`. -/
def anyValue (m : GoMap K V) (f : V → Bool) : Bool := decide (∃ k ∈ m.keys, (m.get k).any f = true)

private theorem anyValue_iff (m : GoMap K V) (f : V → Bool) :
    m.anyValue f = true ↔ ∃ k v, m.get k = some v ∧ f v = true := by
  simp only [anyValue,decide_eq_true_eq]
  constructor
  · rintro ⟨k,-,found⟩
    cases value : m.get k with
    | none => simp [value] at found
    | some v => exact ⟨k,v,value,by simpa [value] using found⟩
  · rintro ⟨k,v,value,holds⟩
    exact ⟨k,(m.mem_keys_iff k).mpr ⟨v,value⟩,by simp [value,holds]⟩

@[ext] theorem ext {m m' : GoMap K V} (same : ∀ k, m.get k = m'.get k) : m = m' := by
  obtain ⟨keys,get,mem⟩ := m
  obtain ⟨keys',get',mem'⟩ := m'
  have lookup : get = get' := funext same
  subst lookup
  have set : keys = keys' := Finset.ext fun k => (mem k).trans (mem' k).symm
  subst set
  rfl

theorem len_eq_zero (m : GoMap K V) : m.len = 0 ↔ ∀ k, m.get k = none := by
  simp [len,Finset.card_eq_zero,Finset.eq_empty_iff_forall_not_mem,get_eq_none]

@[simp] theorem delete_insert (m : GoMap K V) (k : K) (v : V) :
    (m.insert k v).delete k = m.delete k := by
  ext x; by_cases same : x = k <;> simp [same]

@[simp] theorem insert_insert (m : GoMap K V) (k : K) (v v' : V) :
    (m.insert k v).insert k v' = m.insert k v' := by
  ext x; by_cases same : x = k <;> simp [same]

theorem insert_get {m : GoMap K V} {k : K} {v : V} (found : m.get k = some v) : m.insert k v = m := by
  ext x; by_cases same : x = k <;> simp [same,found]

theorem delete_absent {m : GoMap K V} {k : K} (absent : k ∉ m.keys) : m.delete k = m := by
  ext x; by_cases same : x = k
  · subst same; simp [(get_eq_none _ _).mpr absent]
  · simp [same]

instance [DecidableEq V] : DecidableEq (GoMap K V) := fun m m' =>
  decidable_of_iff (m.keys = m'.keys ∧ ∀ k ∈ m.keys, m.get k = m'.get k) <| by
    constructor
    · rintro ⟨keys,lookup⟩
      refine ext fun k => ?_
      by_cases mem : k ∈ m.keys
      · exact lookup k mem
      · have mem' : k ∉ m'.keys := keys ▸ mem
        rw [(get_eq_none m k).mpr mem,(get_eq_none m' k).mpr mem']
    · rintro rfl
      exact ⟨rfl,fun _ _ => rfl⟩

end GoMap

end CiaoDatastore
