import Mathlib.Data.List.Nodup

/-!
# Objects behind references

A heap of objects of one class. A reference is the index of its cell; allocation
takes the next cell, and no cell is ever freed. `Extends` is what allocation
keeps: every object allocated before reads as before.
-/

/-- A reference to an object. -/
abbrev Ref := ℕ

/-- The objects of one class, in the order of allocation. -/
structure Heap (α : Type*) where
  cells : List α
deriving DecidableEq

namespace Heap

variable {α : Type*}

/-- The reference that the next allocation returns. -/
def size (h : Heap α) : ℕ := h.cells.length

/-- Allocates `a` at the reference `h.size`. -/
def alloc (h : Heap α) (a : α) : Heap α := ⟨h.cells ++ [a]⟩

def read [Inhabited α] (h : Heap α) (r : Ref) : α := h.cells.getD r default

def modify (h : Heap α) (r : Ref) (f : α → α) : Heap α := ⟨h.cells.modify r f⟩

/-- Every object of `h` is in `h'`, with the same contents. -/
def Extends (h h' : Heap α) : Prop := h.cells <+: h'.cells

@[simp] theorem size_alloc (h : Heap α) (a : α) : (h.alloc a).size = h.size + 1 := by
  simp [size, alloc]

@[simp] theorem size_modify (h : Heap α) (r : Ref) (f : α → α) : (h.modify r f).size = h.size := by
  simp [size, modify]

@[simp] theorem read_alloc_self [Inhabited α] (h : Heap α) (a : α) : (h.alloc a).read h.size = a := by
  simp [read, alloc, size]

theorem read_alloc_of_lt [Inhabited α] {h : Heap α} {r : Ref} (hr : r < h.size) (a : α) :
    (h.alloc a).read r = h.read r := by
  simp only [read, alloc, List.getD_eq_getElem?_getD]
  rw [List.getElem?_append_left hr]

/-- A write to the object just allocated is an allocation of the new contents. -/
@[simp] theorem modify_alloc_self (h : Heap α) (a : α) (f : α → α) :
    (h.alloc a).modify h.size f = h.alloc (f a) := by
  simp only [modify, alloc, size, mk.injEq]
  rw [List.modify_eq_take_cons_drop (by simp)]
  simp

theorem modify_modify (h : Heap α) (r : Ref) (f g : α → α) :
    (h.modify r f).modify r g = h.modify r (g ∘ f) := by
  simp [modify, List.modify_modify_eq]

theorem read_modify_self [Inhabited α] {h : Heap α} {r : Ref} (hr : r < h.size) (f : α → α) :
    (h.modify r f).read r = f (h.read r) := by
  have hr' : r < h.cells.length := hr
  simp [read, modify, List.getD_eq_getElem?_getD, List.getElem?_eq_getElem hr']

theorem read_modify_of_ne [Inhabited α] {h : Heap α} {r q : Ref} (hq : q ≠ r) (f : α → α) :
    (h.modify r f).read q = h.read q := by
  simp only [read, modify, List.getD_eq_getElem?_getD]
  rw [List.getElem?_modify_ne f h.cells (Ne.symm hq)]

theorem Extends.refl (h : Heap α) : h.Extends h := List.prefix_refl _

theorem Extends.trans {h h' h'' : Heap α} (h1 : h.Extends h') (h2 : h'.Extends h'') : h.Extends h'' :=
  List.IsPrefix.trans h1 h2

theorem Extends.read [Inhabited α] {h h' : Heap α} (he : h.Extends h') {r : Ref} (hr : r < h.size) :
    h'.read r = h.read r := by
  obtain ⟨l, hl⟩ := he
  simp only [Heap.read, List.getD_eq_getElem?_getD, ← hl]
  rw [List.getElem?_append_left hr]

/-- References to allocated objects, and to the next `n` ones, are all different. -/
theorem nodup_append_next {h : Heap α} {l : List Ref} (hl : l.Nodup) (hlt : ∀ r ∈ l, r < h.size)
    (n : ℕ) : (l ++ (List.range n).map fun k => h.size + k).Nodup := by
  have hnew : ((List.range n).map fun k => h.size + k).Nodup := by
    refine List.nodup_range.map ?_
    intro k k' hk
    exact Nat.add_left_cancel hk
  refine List.nodup_append.2 ⟨hl, hnew, ?_⟩
  rintro r hr q hq rfl
  -- an object allocated before is below the size, a new one is not
  obtain ⟨k, -, rfl⟩ := List.mem_map.1 hq
  have hold : h.size + k < h.size := hlt _ hr
  omega

end Heap
