import Mathlib.Data.List.Basic

/-! One object in a store with optimistic concurrency. Every write makes a new
version; a write that presents a copy of an older version is refused. Readers may
be served any version that was ever stored. -/
namespace Portage.Process

variable {α : Type}

structure Versioned (α : Type) where
  version : Nat
  value : α

structure Store (α : Type) where
  newest : Versioned α
  past : List (Versioned α)
  ordered : ∀ old ∈ past, old.version < newest.version

namespace Store

def create (value : α) : Store α := ⟨⟨0, value⟩, [], by simp⟩

/-- All versions, newest first. -/
def copies (store : Store α) : List (Versioned α) := store.newest :: store.past

/-- Read the version that lies `age` writes back. -/
def read (store : Store α) (age : Nat) : Option (Versioned α) := store.copies[age]?

def push (store : Store α) (value : α) : Store α where
  newest := ⟨store.newest.version + 1, value⟩
  past := store.copies
  ordered := by
    intro old member
    rcases List.mem_cons.mp member with rfl | earlier
    · exact Nat.lt_succ_self _
    · exact Nat.lt_succ_of_lt (store.ordered old earlier)

/-- Replace the object if `copy` is still its newest version; `none` is a conflict. -/
def update (store : Store α) (copy : Versioned α) (value : α) : Option (Store α) :=
  if copy.version = store.newest.version then some (store.push value) else none

variable {value : α} {copy : Versioned α} {store : Store α}

theorem mem_copies_create : copy ∈ (create value).copies ↔ copy = ⟨0, value⟩ := by
  simp [create, copies]

theorem mem_copies_of_read {age : Nat} (served : store.read age = some copy) : copy ∈ store.copies :=
  List.mem_of_getElem? served

@[simp] theorem mem_copies_push :
    copy ∈ (store.push value).copies ↔
      copy = ⟨store.newest.version + 1, value⟩ ∨ copy ∈ store.copies := by
  simp [push, copies]

/-- A write that lands was made on the newest version. -/
theorem update_eq_some {after : Store α} (landed : store.update copy value = some after) :
    copy.version = store.newest.version ∧ after = store.push value := by
  unfold update at landed
  split at landed
  · exact ⟨‹_›, (Option.some.inj landed).symm⟩
  · contradiction

end Store

end Portage.Process
