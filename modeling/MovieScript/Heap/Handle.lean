namespace MovieScript

/-!
# Handles

A handle names one object of the arena: the index of its slot, and the
generation the slot had when the object moved in.  A slot that is emptied moves
on to its next generation, so an old handle stops naming anything.
-/

/-- The name of one object: a slot index and the generation of its content. -/
structure Handle where
  index : UInt32
  generation : UInt32
  deriving Repr, DecidableEq, Hashable, Inhabited

namespace Handle

/-- The handle as diagnostics write it. -/
def text (handle : Handle) : String :=
  "#" ++ toString handle.index.toNat ++ "@" ++
    toString handle.generation.toNat

end Handle

end MovieScript
