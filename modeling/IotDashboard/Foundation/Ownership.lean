import Mathlib.Data.List.Basic
import Mathlib.Tactic.Common

/-!
# Storage and its owners

A piece of storage exists as long as something owns it: a function that runs and has it as a local
variable, an object of which it is a member, a closure that captured it. When an owner goes away,
what it alone owned is gone, and what is read there afterwards is anything. Addresses are not used
again.

* `Storage`: the pieces of storage, by address;
* `Storage.owners_allocate`, `Storage.owners_release`: who owns what after a step;
* `Storage.read_eq_some_iff`: what exists can be read.
-/

/-- A piece of storage with its owners. -/
structure Cell (ω α : Type*) where
  content : α
  owners : List ω
deriving DecidableEq

/-- The pieces of storage that were allocated, by address. -/
abbrev Storage (ω α : Type*) := List (Cell ω α)

namespace Storage

variable {ω α : Type*} (m : Storage ω α)

/-- New storage, at the next address. -/
def allocate (content : α) (owners : List ω) : Storage ω α := m ++ [⟨content, owners⟩]

/-- An owner goes away. -/
def release [DecidableEq ω] (o : ω) : Storage ω α :=
  m.map fun c => { c with owners := c.owners.filter (· ≠ o) }

/-- What was written to an address when it was allocated. -/
def content (address : ℕ) : Option α := m[address]?.map Cell.content

/-- The owners of what is at an address. -/
def owners (address : ℕ) : List ω := (m[address]?.map Cell.owners).getD []

/-- What is read at an address, if it exists. -/
def read (address : ℕ) : Option α :=
  if m.owners address = [] then none else m.content address

variable {m} {address : ℕ} {content' : α} {os : List ω} {o : ω}

/-- A new cell comes at the end. -/
theorem getElem?_allocate : (m.allocate content' os)[address]? =
    if address = m.length then some ⟨content', os⟩ else m[address]? := by
  rw [allocate, List.getElem?_append]
  rcases Nat.lt_trichotomy address m.length with hlt | rfl | hgt
  · rw [if_pos hlt, if_neg (Nat.ne_of_lt hlt)]
  · simp
  · rw [if_neg (by omega), if_neg (by omega), List.getElem?_eq_none (by simp; omega),
      List.getElem?_eq_none (by omega)]

@[simp]
theorem content_allocate : (m.allocate content' os).content address =
    if address = m.length then some content' else m.content address := by
  rw [content, getElem?_allocate]
  split <;> rfl

/-- A new cell has the given owners. -/
@[simp]
theorem owners_allocate : (m.allocate content' os).owners address =
    if address = m.length then os else m.owners address := by
  rw [owners, getElem?_allocate]
  split <;> rfl

/-- What is read is what was written there, as long as it has an owner. -/
theorem read_eq_some_iff {x : α} :
    m.read address = some x ↔ m.content address = some x ∧ m.owners address ≠ [] := by
  rw [read]
  split
  · next hnone => exact iff_of_false (fun h => by cases h) fun h => h.2 hnone
  · next howned => exact (and_iff_left howned).symm

section Release

variable [DecidableEq ω]

@[simp]
theorem content_release : (m.release o).content address = m.content address := by
  rw [release, content, content, List.getElem?_map, Option.map_map]
  rfl

/-- Whoever releases is no longer among the owners. -/
@[simp]
theorem owners_release : (m.release o).owners address = (m.owners address).filter (· ≠ o) := by
  rw [release, owners, owners, List.getElem?_map]
  cases m[address]? <;> rfl

/-- Releasing changes no content. -/
@[simp]
theorem map_content_release : (m.release o).map Cell.content = m.map Cell.content := by
  simp [release]

end Release

end Storage
