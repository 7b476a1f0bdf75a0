import MovieScript.Heap.Handle
import MovieScript.Heap.MarkBits
import MovieScript.Table

namespace MovieScript

/-!
# The object arena

Objects live in slots, slots in chunks of 256.  A slot keeps its index for
life; when its object goes away, what the object held is cleared and the slot
waits in the free list, from which the slot freed last is reused first.  The
host can pin handles, each as often as it likes.
-/

/-- Data that is cleared when its slot is to wait for reuse. -/
class Reset (α : Type) where
  /-- What a waiting slot still holds of an object. -/
  reset : α → α

/-- Data whose type names nothing to clear is left as it is. -/
instance (priority := low) {α : Type} : Reset α where
  reset := id

/-- One place for an object. -/
structure Slot (α : Type) where
  generation : UInt32
  /-- The slot waits for reuse, and its data is no object. -/
  pooled : Bool
  data : α
  deriving Repr

namespace Slot

/-- The slot has the object of a generation. -/
def serves
    {α : Type}
    (slot : Slot α)
    (generation : UInt32) :
    Bool :=
  !slot.pooled && slot.generation == generation

/-- The slot in its next generation, waiting for reuse with its data cleared. -/
def recycled
    {α : Type}
    [Reset α]
    (slot : Slot α) :
    Slot α where
  generation := slot.generation + 1
  pooled := true
  data := Reset.reset slot.data

end Slot

/-- The arena: chunks of slots, their marks, the free list and the pins. -/
structure Heap (α : Type) where
  chunks : Array (Array (Slot α))
  marks : Array MarkBits
  /-- Indices of pooled slots, the one to be reused next in front. -/
  free : List UInt32
  /--
  Pinned handles with the number of pins each still has.  A count grows by one
  with each call, so a word of 64 bits would need 2^64 calls to run over.
  -/
  pins : Table Handle Nat
  /--
  Allocations since the last collection.  Each of them took a slot of its own,
  so there are no more than slots, and their indices are words of 32 bits.
  -/
  allocations : Nat
  /-- Allocations after which a collection is wanted; zero stands for never. -/
  threshold : UInt64
  /-- Completed collections. -/
  cycles : Nat
  /-- Every chunk has its mark bits. -/
  paired : marks.size = chunks.size

namespace Handle

/-- The chunk a handle points into. -/
def chunk (handle : Handle) : Nat :=
  handle.index.toNat / chunkCapacity

/-- The place of the slot within its chunk. -/
def offset (handle : Handle) : Nat :=
  handle.index.toNat % chunkCapacity

end Handle

/-- What the arena reports about itself. -/
structure HeapStats where
  total : Nat
  pooled : Nat
  live : Nat
  pinned : Nat
  cycles : Nat
  deriving Repr, DecidableEq

namespace Heap

variable {α : Type}

/-- Allocations between automatic collections unless configured otherwise. -/
def defaultThreshold : UInt64 :=
  1024

/-- The arena before the first allocation. -/
def empty : Heap α where
  chunks := #[]
  marks := #[]
  free := []
  pins := .empty
  allocations := 0
  threshold := defaultThreshold
  cycles := 0
  paired := rfl

/-- The slot at an index, whatever its generation. -/
def slotAt?
    (heap : Heap α)
    (handle : Handle) :
    Option (Slot α) :=
  heap.chunks[handle.chunk]?.bind fun chunk => chunk[handle.offset]?

/-- The object a handle names, if it is still there. -/
def get?
    (heap : Heap α)
    (handle : Handle) :
    Option α :=
  (heap.slotAt? handle).bind fun slot =>
    if slot.serves handle.generation then some slot.data else none

/-- The handle still names an object. -/
def contains
    (heap : Heap α)
    (handle : Handle) :
    Bool :=
  (heap.get? handle).isSome

/-- Replace the slot at the index of a handle. -/
def updateSlot
    (heap : Heap α)
    (handle : Handle)
    (change : Slot α → Slot α) :
    Heap α :=
  { heap with
    chunks :=
      heap.chunks.modify handle.chunk fun chunk =>
        chunk.modify handle.offset change
    paired := by simp [heap.paired] }

/-- Change the object a handle names; a stale handle changes nothing. -/
def modify
    (heap : Heap α)
    (handle : Handle)
    (change : α → α) :
    Heap α :=
  heap.updateSlot handle fun slot =>
    if slot.serves handle.generation then
      { slot with data := change slot.data }
    else
      slot

/-- The number of slots, pooled ones included. -/
def total (heap : Heap α) : Nat :=
  heap.chunks.foldl (fun sum chunk => sum + chunk.size) 0

/-- Open a new chunk behind all others. -/
def openChunk (heap : Heap α) : Heap α :=
  { heap with
    chunks := heap.chunks.push #[]
    marks := heap.marks.push .empty
    paired := by simp [heap.paired] }

/-- Open a new chunk when there is none or the last one is full. -/
def ensureRoom (heap : Heap α) : Heap α :=
  match heap.chunks.back? with
  | some chunk =>
      if chunk.size < chunkCapacity then heap else heap.openChunk
  | none => heap.openChunk

/-- Put an object into a new slot behind all others. -/
def append
    (heap : Heap α)
    (content : α) :
    Handle × Heap α :=
  let roomy := heap.ensureRoom
  let last := roomy.chunks.size - 1
  let offset := (roomy.chunks[last]?.map Array.size).getD 0
  (⟨(last * chunkCapacity + offset).toUInt32, 0⟩,
    { roomy with
      chunks :=
        roomy.chunks.modify last fun chunk =>
          chunk.push ⟨0, false, content⟩
      paired := by simp [roomy.paired] })

/-- Move an object into the arena, into the slot freed last if there is one. -/
def alloc
    (heap : Heap α)
    (content : α) :
    Handle × Heap α :=
  let counted := { heap with allocations := heap.allocations + 1 }
  match counted.free with
  | [] => counted.append content
  | index :: rest =>
      let reduced := { counted with free := rest }
      match reduced.slotAt? ⟨index, 0⟩ with
      | some slot =>
          (⟨index, slot.generation⟩,
            reduced.updateSlot ⟨index, 0⟩ fun old =>
              { old with pooled := false, data := content })
      | none => reduced.append content

/-- Keep a handle alive across collections, once more than before. -/
def pin
    (heap : Heap α)
    (handle : Handle) :
    Heap α :=
  { heap with
    pins := heap.pins.insert handle ((heap.pins.get? handle).getD 0 + 1) }

/-- Take one pin back; `false` if the handle had none. -/
def unpin
    (heap : Heap α)
    (handle : Handle) :
    Bool × Heap α :=
  match heap.pins.get? handle with
  | none => (false, heap)
  | some count =>
      if 1 < count then
        (true, { heap with pins := heap.pins.insert handle (count - 1) })
      else
        (true, { heap with pins := heap.pins.erase handle })

/-- Drop every pin at once. -/
def clearPins (heap : Heap α) : Heap α :=
  { heap with pins := .empty }

/-- Change the number of allocations after which a collection is wanted. -/
def setThreshold
    (heap : Heap α)
    (threshold : UInt64) :
    Heap α :=
  { heap with threshold := threshold }

/--
A collection is wanted.  The allocation count is compared with the threshold
as a signed machine word.
-/
def shouldCollect (heap : Heap α) : Bool :=
  heap.threshold ≠ 0 &&
    heap.threshold.toInt64.toInt ≤ (heap.allocations : Int)

/-- Counts over the whole arena. -/
def stats (heap : Heap α) : HeapStats where
  total := heap.total
  pooled := heap.free.length
  live := heap.total - heap.free.length
  pinned := heap.pins.size
  cycles := heap.cycles

end Heap

end MovieScript
