import KubeLB.Library.GoMap

/-!
Contract: a store of objects under their own identities.

Owns: the store whose every object lies under its identity, reads, writes and
removals, properties of all objects, and the list of the selected objects in a given
order.

Does not own: when a write is admitted.
-/

set_option autoImplicit false

namespace KubeLB.Library

universe u v

structure Store {κ : Type u} {α : Type v} [DecidableEq κ] (identity : α → κ) where
  objects : GoMap κ α
  keyed : ∀ {key object}, objects.lookup key = some object → identity object = key

namespace Store

variable {κ : Type u} {α : Type v} [DecidableEq κ] {identity : α → κ}

def empty : Store identity where
  objects := ∅
  keyed := by simp

def get (store : Store identity) (key : κ) : Option α := store.objects.lookup key

/-- Write an object, over the one of the same identity if there is one. -/
def put (store : Store identity) (object : α) : Store identity where
  objects := store.objects.insert (identity object) object
  keyed := by
    intro key found isFound
    by_cases same : key = identity object
    · subst same
      rw [Finmap.lookup_insert] at isFound
      cases isFound
      rfl
    · rw [Finmap.lookup_insert_of_ne _ same] at isFound
      exact store.keyed isFound

def remove (store : Store identity) (key : κ) : Store identity where
  objects := store.objects.erase key
  keyed := by
    intro other found isFound
    by_cases same : other = key
    · subst same
      rw [Finmap.lookup_erase] at isFound
      cases isFound
    · rw [Finmap.lookup_erase_ne same] at isFound
      exact store.keyed isFound

/-- The objects with a selected identity, in the given order of identities. -/
def list (store : Store identity) (select : κ → Bool) (order : List κ) : Option (List α) :=
  ((GoMap.retain select store.objects).rangeIn order).map (fun entries => entries.map Prod.snd)

@[simp] theorem get_empty (key : κ) : (empty : Store identity).get key = none :=
  Finmap.lookup_empty key

theorem identity_of_get {store : Store identity} {key : κ} {object : α}
    (found : store.get key = some object) : identity object = key :=
  store.keyed found

theorem mem_keys_of_get {store : Store identity} {key : κ} {object : α}
    (found : store.get key = some object) : key ∈ store.objects.keys :=
  Finmap.mem_keys.mpr (Finmap.mem_of_lookup_eq_some found)

@[simp] theorem get_put_self (store : Store identity) (object : α) :
    (store.put object).get (identity object) = some object :=
  Finmap.lookup_insert _

theorem get_put_of_ne (store : Store identity) {object : α} {key : κ}
    (different : key ≠ identity object) : (store.put object).get key = store.get key :=
  Finmap.lookup_insert_of_ne _ different

theorem cases_of_get_put {store : Store identity} {object found : α} {key : κ}
    (isFound : (store.put object).get key = some found) :
    key = identity object ∧ found = object ∨ store.get key = some found := by
  by_cases same : key = identity object
  · subst same
    rw [get_put_self] at isFound
    exact Or.inl ⟨rfl, (Option.some.inj isFound).symm⟩
  · rw [get_put_of_ne _ same] at isFound
    exact Or.inr isFound

@[simp] theorem get_remove_self (store : Store identity) (key : κ) :
    (store.remove key).get key = none :=
  Finmap.lookup_erase _ _

theorem get_remove_of_ne (store : Store identity) {removed key : κ} (different : key ≠ removed) :
    (store.remove removed).get key = store.get key :=
  Finmap.lookup_erase_ne different

def All (store : Store identity) (property : α → Prop) : Prop :=
  ∀ ⦃key object⦄, store.get key = some object → property object

theorem all_empty (property : α → Prop) : (empty : Store identity).All property := by
  intro key object found
  simp at found

theorem All.put {store : Store identity} {property : α → Prop} (all : store.All property)
    {object : α} (holds : property object) : (store.put object).All property := by
  intro key found isFound
  by_cases same : key = identity object
  · subst same
    rw [get_put_self] at isFound
    cases isFound
    exact holds
  · rw [get_put_of_ne _ same] at isFound
    exact all isFound

theorem mem_list {store : Store identity} {select : κ → Bool} {order : List κ}
    {listed : List α} (isListed : store.list select order = some listed) (object : α) :
    object ∈ listed ↔ select (identity object) ∧ store.get (identity object) = some object := by
  obtain ⟨entries, ranged, rfl⟩ := Option.map_eq_some_iff.mp isListed
  have visited (key : κ) (value : α) :
      (key, value) ∈ entries ↔ select key ∧ store.get key = some value := by
    rw [GoMap.mem_rangeIn ranged, GoMap.lookup_retain]
    cases select key <;> simp [get]
  simp only [List.mem_map, Prod.exists, visited, exists_eq_right]
  constructor
  · rintro ⟨key, selected, found⟩
    rw [identity_of_get found]
    exact ⟨selected, found⟩
  · intro found
    exact ⟨_, found⟩

end Store

end KubeLB.Library
