import Gumdrop.CHeap

namespace Gumdrop

/-!
# Ownership of heap blocks across a call

A binding call that allocates temporary blocks should leave the heap as it
found it.  `OwnsSince start heap owned` is the accounting behind that: the
call owns the distinct blocks `owned`, each allocated after `start`, and
agrees with `start` everywhere else.  Every heap operation gets one lemma
saying how it changes the owned list; once the list is empty, the heap's
blocks are `start`'s again.
-/

/-- The blocks `owned` are distinct, live and newer than `start`; all other blocks are as in `start`. -/
structure OwnsSince (start heap : Heap) (owned : List Nat) : Prop where
  nodup : owned.Nodup
  fresh : ∀ address ∈ owned, start.next ≤ address
  live : ∀ address ∈ owned, heap.blocks address ≠ none
  frame : ∀ address, address ∉ owned → heap.blocks address = start.blocks address
  next_le : start.next ≤ heap.next

namespace OwnsSince

variable {start heap : Heap} {owned : List Nat}

/-- Nothing is owned at the start of a call. -/
theorem rfl_start : OwnsSince start start [] where
  nodup := List.nodup_nil
  fresh := by simp
  live := by simp
  frame _ _ := rfl
  next_le := Nat.le_refl _

/-- An owned address is below the next fresh address. -/
theorem lt_next
    (owns : OwnsSince start heap owned)
    {address : Nat}
    (member : address ∈ owned) :
    address < heap.next :=
  (Heap.live_bounds (owns.live address member)).2

/-- The next fresh address is not owned yet. -/
theorem next_not_mem
    (owns : OwnsSince start heap owned) :
    heap.next ∉ owned := fun member =>
  Nat.lt_irrefl _ (owns.lt_next member)

/-- Counting an allocation call changes no ownership. -/
theorem tick
    (owns : OwnsSince start heap owned) :
    OwnsSince start heap.tick owned where
  nodup := owns.nodup
  fresh := owns.fresh
  live := owns.live
  frame := owns.frame
  next_le := owns.next_le

/-- A fresh block joins the owned list. -/
theorem alloc
    (owns : OwnsSince start heap owned)
    (block : Block) :
    OwnsSince start (heap.alloc block) (owned ++ [heap.next]) where
  nodup := List.nodup_append.mpr
    ⟨owns.nodup, List.nodup_singleton _, by simpa using owns.next_not_mem⟩
  fresh address member := by
    rcases List.mem_append.mp member with old | new
    · exact owns.fresh address old
    · simp only [List.mem_singleton] at new
      exact new ▸ owns.next_le
  live address member := by
    rcases List.mem_append.mp member with old | new
    · have := owns.lt_next old
      simpa [show address ≠ heap.next by omega] using owns.live address old
    · simp_all
  frame address outside := by
    simp only [List.mem_append, List.mem_singleton, not_or] at outside
    simp [outside.2, owns.frame address outside.1]
  next_le := Nat.le_succ_of_le owns.next_le

/-- Replacing the contents of an owned block changes no ownership. -/
theorem store
    (owns : OwnsSince start heap owned)
    {address : Nat} {block : Block}
    (live : heap.blocks address ≠ none)
    (member : address ∈ owned) :
    OwnsSince start (heap.store address block live) owned where
  nodup := owns.nodup
  fresh := owns.fresh
  live other _ := by
    by_cases same : other = address <;> simp_all [owns.live other]
  frame other outside := by
    have : other ≠ address := fun same => outside (same ▸ member)
    simp [this, owns.frame other outside]
  next_le := owns.next_le

/-- Freeing an owned block drops it from the owned list. -/
theorem erase
    (owns : OwnsSince start heap owned)
    {address : Nat}
    (member : address ∈ owned) :
    OwnsSince start (heap.erase address) (owned.erase address) where
  nodup := owns.nodup.erase address
  fresh other kept := owns.fresh other (List.mem_of_mem_erase kept)
  live other kept := by
    have : other ≠ address := fun same =>
      (owns.nodup.mem_erase_iff.mp kept).1 same
    simpa [this] using owns.live other (List.mem_of_mem_erase kept)
  frame other outside := by
    by_cases same : other = address
    · subst same
      simp [start.above_free other (owns.fresh other member)]
    · have : other ∉ owned := fun old =>
        outside ((owns.nodup.mem_erase_iff).mpr ⟨same, old⟩)
      simp [same, owns.frame other this]
  next_le := owns.next_le

/-- Ownership depends on the heap only through its blocks and next address. -/
theorem congr_heap
    (owns : OwnsSince start heap owned)
    {other : Heap}
    (sameBlocks : other.blocks = heap.blocks)
    (sameNext : other.next = heap.next) :
    OwnsSince start other owned where
  nodup := owns.nodup
  fresh := owns.fresh
  live := sameBlocks ▸ owns.live
  frame := sameBlocks ▸ owns.frame
  next_le := sameNext ▸ owns.next_le

/-- Ownership depends on the heap's blocks only, as long as the next address has not gone back. -/
theorem of_blocks_eq
    (owns : OwnsSince start heap owned)
    {other : Heap}
    (sameBlocks : other.blocks = heap.blocks)
    (later : heap.next ≤ other.next) :
    OwnsSince start other owned where
  nodup := owns.nodup
  fresh := owns.fresh
  live := sameBlocks ▸ owns.live
  frame := sameBlocks ▸ owns.frame
  next_le := Nat.le_trans owns.next_le later

/-- A block allocated since `start` that is no longer owned is dead. -/
theorem dead
    (owns : OwnsSince start heap owned)
    {address : Nat}
    (fresh : start.next ≤ address)
    (notOwned : address ∉ owned) :
    heap.blocks address = none :=
  (owns.frame address notOwned).trans (start.above_free address fresh)

/-- Ownership depends on the owned blocks, not on the order they are listed in. -/
theorem perm
    (owns : OwnsSince start heap owned)
    {reordered : List Nat}
    (same : owned.Perm reordered) :
    OwnsSince start heap reordered where
  nodup := same.nodup_iff.mp owns.nodup
  fresh address member := owns.fresh address (same.mem_iff.mpr member)
  live address member := owns.live address (same.mem_iff.mpr member)
  frame address outside := owns.frame address fun old => outside (same.mem_iff.mp old)
  next_le := owns.next_le

/--
A `realloc` the oracle lets succeed hands an owned block over to the address
it returns, whether it stays in place or moves; no other block changes.
-/
theorem realloc_ok
    (owns : OwnsSince start heap owned)
    {oracle : Oracle} {address : Nat} (size : Nat) {block : Block} {rest : List Nat}
    (found : heap.blocks address = some block)
    (listed : owned.Perm (address :: rest))
    (succeeds : oracle heap.calls ≠ .fail) :
    ∃ moved heap', realloc oracle address size heap = .ok (moved, heap') ∧
      heap'.blocks moved = some (block.resize size) ∧
      heap'.calls = heap.calls + 1 ∧
      (∀ other, other ≠ address → other ≠ moved → heap'.blocks other = heap.blocks other) ∧
      OwnsSince start heap' (moved :: rest) := by
  have member : address ∈ owned := listed.mem_iff.mpr (List.mem_cons_self _ _)
  cases outcome : oracle heap.calls with
  | fail =>
      exact absurd outcome succeeds
  | inPlace =>
      refine ⟨address, _, realloc_of_inPlace found outcome, by simp, by simp, ?_, ?_⟩
      · intro other notAddress _
        simp [notAddress]
      · exact ((owns.store (by simp [found]) member).tick).perm listed
  | moved =>
      refine ⟨heap.next, _, realloc_of_moved found outcome, by simp, by simp, ?_, ?_⟩
      · intro other notAddress notNext
        simp [notAddress, notNext]
      · have erased : (owned.erase address).Perm rest := by
          simpa using listed.erase address
        have owns' := ((owns.erase member).alloc (block.resize size)).tick
        exact owns'.perm ((erased.append_right _).trans (List.perm_append_singleton _ _))

/-- Once nothing is owned, the blocks are those of `start`. -/
theorem blocks_eq_of_nil
    (owns : OwnsSince start heap []) :
    heap.blocks = start.blocks :=
  funext fun address => owns.frame address (List.not_mem_nil address)

end OwnsSince

end Gumdrop
