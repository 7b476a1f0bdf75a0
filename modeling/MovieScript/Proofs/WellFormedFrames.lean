import MovieScript.Proofs.DocumentImport
import MovieScript.Proofs.HostScopes
import MovieScript.Proofs.PlainVariables
import MovieScript.Proofs.RegisterLayout

namespace MovieScript

/-!
# Well-formed frames

The frame of a call is built in two stages.  Parameters are bound first, which
cannot fail, and then values are preloaded.  If the definition passed the check,
what comes out has every value where the layout of the definition says.
-/

/-! The whole frame. -/

/-- The session in which the preloaded values of a call are looked up. -/
def Session.opened
    {σ : Type}
    (session : Session σ)
    (closure : Closure)
    (arguments : List Value) :
    Session σ :=
  ⟨{ session.machine with
      scopes := session.machine.scopes.opened closure arguments },
    session.host⟩

/-- Nothing leads to the scope of a call whose frame is still being built. -/
theorem Session.opened_unused
    {σ : Type}
    {session : Session σ}
    (known : session.machine.ScopesKnown)
    (closure : Closure)
    (arguments : List Value) :
    ¬(session.opened closure arguments).machine.InUse
      session.machine.scopes.scopes.size := by
  have size :=
    (session.machine.scopes.opensFor_opened closure arguments).size
  generalize last : session.machine.scopes.scopes.size = scope at size
  intro used
  cases used with
  | running member =>
      exact absurd last (Nat.ne_of_gt (known _ (.running member)))
  | captured found captures =>
      exact absurd last (Nat.ne_of_gt (known _ (.captured found captures)))
  | enclosing encloses =>
      -- The new scope is the youngest, and an enclosing scope is older.
      obtain ⟨inner, there, -⟩ := Option.bind_eq_some_iff.mp encloses
      have inside := (Array.getElem?_eq_some_iff.mp there).1
      have older := Scopes.outer?_lt encloses
      have youngest := Nat.le_of_lt_succ (Nat.lt_of_lt_of_eq inside size)
      exact Nat.lt_irrefl _ (Nat.lt_of_lt_of_le older youngest)

/-- The frame of a call before values are preloaded. -/
def Closure.boundFrame
    (closure : Closure)
    (callee : Handle)
    (receiver : Value)
    (arguments : List Value)
    (locals : ScopeId) :
    Frame :=
  let definition := closure.definition
  { Frame.new definition.code definition.constants
      definition.frameRegisterCount locals receiver with
    name := definition.name
    callee := some callee
    arguments := arguments
    scopeObjects := closure.scopeObjects
    state := if definition.usesRegisters then .preloading else .binding
    registers :=
      writeRegisters
        (.replicate definition.frameRegisterCount .undefined)
        (Parameter.registerWrites
          (Parameter.withValues definition.parameters arguments)) }

namespace Act

variable {σ : Type}

/-- Only looking the preloaded values up can fail. -/
theorem buildFrame_eq
    (calls : Calls σ)
    (session : Session σ)
    {closure : Closure}
    (laidOut : closure.definition.LaidOut)
    (callee : Handle)
    (receiver : Value)
    (arguments : List Value) :
    buildFrame closure callee receiver arguments calls session =
      (do
        let values ← gather closure.definition receiver arguments
        return (closure.boundFrame callee receiver arguments
          session.machine.scopes.scopes.size).load
            closure.definition.preloadRegisters values : Act σ Frame)
        calls (session.opened closure arguments) := by
  have created :
      (liftM (Edit.createScope closure.scope) : Act σ ScopeId) calls
          session =
        .ok session.machine.scopes.scopes.size
          ⟨{ session.machine with
              scopes := (session.machine.scopes.create closure.scope).2 },
            session.host⟩ :=
    lift_ok rfl
  have roomy (register : Nat) (frame : Frame) used
      (size :
        frame.registers.size = closure.definition.frameRegisterCount) :
      register < frame.registers.size :=
    size ▸ laidOut.inside register used
  -- The scope is made and the parameters are bound; what is left is the same
  -- on both sides, but for a function that preloads nothing.
  unfold buildFrame
  dsimp only
  rw [bind_ok created, bind_ok (bindParameters_eq fun register claims =>
    roomy register _ (.inl claims) Array.size_replicate)]
  rw [gather, ← laidOut.inOrder]
  by_cases uses : closure.definition.usesRegisters = true
  · rw [if_pos uses, preloadValues_eq]
    · simp only [Closure.boundFrame, uses, ↓reduceIte]
      rfl
    · rw [laidOut.inOrder]
      exact List.Nodup.filter _ (by decide)
    · exact fun _ => rfl
    · exact fun register held => roomy register _ (.inr held)
        ((size_writeRegisters _ _).trans Array.size_replicate)
  · have none : closure.definition.preloadRegisters = [] := if_neg uses
    rw [if_neg uses, none]
    simp only [Closure.boundFrame, uses]
    rfl

end Act

/-! What the frame and its scope hold. -/

/-- The registers of a frame hold what they are to hold. -/
structure Frame.Serves
    (frame : Frame)
    (definition : Definition)
    (arguments values : List Value) :
    Prop where
  size : frame.registers.size = definition.frameRegisterCount
  parameter : ∀ (index : Nat) parameter register,
    definition.parameters[index]? = some parameter →
      parameter.register? = some register →
        frame.registers[register]? = some (arguments.getD index .undefined)
  preloaded : ∀ (position : Nat) kind register,
    definition.preloadRegisters[position]? = some (kind, register) →
      ∃ value,
        values[position]? = some value ∧
          frame.registers[register]? = some value
  other : ∀ register,
    register < definition.frameRegisterCount →
      register ∉ definition.claimedRegisters →
        register ∉ definition.preloadRegisters.map Prod.snd →
          frame.registers[register]? = some .undefined

theorem Closure.boundFrame_load_serves
    {closure : Closure}
    {values : List Value}
    (laidOut : closure.definition.LaidOut)
    (complete :
      values.length = closure.definition.preloadRegisters.length)
    (callee : Handle)
    (receiver : Value)
    (arguments : List Value)
    (locals : ScopeId) :
    ((closure.boundFrame callee receiver arguments locals).load
        closure.definition.preloadRegisters values).Serves
      closure.definition arguments values := by
  have held :
      ((closure.definition.preloadRegisters.map Prod.snd).zip values).map
          Prod.fst =
        closure.definition.preloadRegisters.map Prod.snd :=
    List.map_fst_zip (by simp [complete])
  have claims :
      (Parameter.registerWrites
          (Parameter.withValues closure.definition.parameters
            arguments)).map Prod.fst =
        closure.definition.claimedRegisters := by
    rw [Parameter.map_fst_registerWrites, Parameter.map_fst_withValues]
    rfl
  refine ⟨?_, ?_, ?_, ?_⟩
  · simp [Frame.load, boundFrame]
  · intro index parameter register declared claimed
    have member : register ∈ closure.definition.claimedRegisters :=
      List.mem_filterMap.mpr
        ⟨parameter, List.mem_of_getElem? declared, claimed⟩
    have written :=
      Parameter.mem_registerWrites declared claimed arguments
    -- Preloaded values come later, but never into a register that is claimed.
    refine (getElem?_writeRegisters_other ?_).trans
      (getElem?_writeRegisters (claims ▸ laidOut.distinct) written ?_)
    · rw [held]
      exact fun also => (laidOut.unclaimed register also).2 member
    · rw [Array.size_replicate]
      exact laidOut.inside register (.inl member)
  · intro position kind register assigned
    have bound : position < values.length := by
      rw [complete]
      exact (List.getElem?_eq_some_iff.mp assigned).1
    refine ⟨values[position], List.getElem?_eq_getElem bound, ?_⟩
    refine getElem?_writeRegisters ?_ ?_ ?_
    · rw [held]
      exact laidOut.increasing.imp Nat.ne_of_lt
    · refine List.mem_iff_getElem?.mpr ⟨position, ?_⟩
      simp [List.getElem?_zip_eq_some, assigned]
    · rw [boundFrame, size_writeRegisters, Array.size_replicate]
      exact laidOut.inside register
        (.inr (List.mem_map_of_mem (List.mem_of_getElem? assigned)))
  · intro register small unclaimed unheld
    refine (getElem?_writeRegisters_other ?_).trans
      ((getElem?_writeRegisters_other ?_).trans ?_)
    · rwa [held]
    · rwa [claims]
    · simp [small]

/-! The array of the arguments. -/

namespace Act

variable {σ : Type} {calls : Calls σ} {session after : Session σ}
variable {receiver : Value} {arguments values : List Value}

/-- A frame that has its array of the arguments goes on with that one. -/
theorem getVariable_arguments
    {frame : Frame}
    {callers : List Frame}
    {handle : Handle}
    (top : session.machine.frames = frame :: callers)
    (unbound : session.machine.localVariable? "arguments" = none)
    (has : frame.argumentsObject = some handle) :
    getVariable "arguments" calls session = .ok (.object handle) session := by
  rw [getVariable_plain (by decide), plainVariable_arguments top unbound]
  exact lift_ok (Edit.argumentsArray_made top has)

end Act

/-- The array that is made is a new object with the elements. -/
theorem Edit.createArray_stores
    {machine after : Machine}
    {elements : Array Value}
    {handle : Handle}
    (wellFormed : machine.heap.WellFormed)
    (room : machine.heap.total + 1 < 2 ^ 32)
    (made : (createArray elements).run machine = .ok handle after) :
    machine.heap.get? handle = none ∧
      (after.heap.get? handle).bind ScriptObject.elements? =
        some elements := by
  cases made
  obtain ⟨-, fresh, stored⟩ := wellFormed.grown_alloc room _
  exact ⟨fresh,
    (congrArg (Option.bind · ScriptObject.elements?) stored).trans rfl⟩

/--
The array that is preloaded for the arguments is a new one with just these
elements, and it is the one that the body of the function sees.
-/
structure Frame.HoldsArguments
    (frame : Frame)
    (definition : Definition)
    (arguments : List Value)
    (machine : Machine)
    (handle : Handle) :
    Prop where
  made : ∃ after,
    (Edit.createArray arguments.toArray).run machine = .ok handle after ∧
      (machine.heap.WellFormed →
        machine.heap.total + 1 < 2 ^ 32 →
          machine.heap.get? handle = none ∧
            (after.heap.get? handle).bind ScriptObject.elements? =
              some arguments.toArray)
  held : ∀ register,
    (.arguments, register) ∈ definition.preloadRegisters →
      frame.registers[register]? = some (.object handle)
  remembered : frame.argumentsObject = some handle
  seen : ∀ {σ : Type} (calls : Calls σ) (session : Session σ) top callers,
    session.machine.frames = top :: callers →
      top.argumentsObject = frame.argumentsObject →
        session.machine.localVariable? "arguments" = none →
          Act.getVariable "arguments" calls session =
            .ok (.object handle) session

namespace Act

variable {σ : Type} {calls : Calls σ} {session after : Session σ}
variable {receiver : Value} {arguments values : List Value}

theorem load_holdsArguments
    {frame : Frame}
    {definition : Definition}
    (laidOut : definition.LaidOut)
    (serves :
      (frame.load definition.preloadRegisters values).Serves definition
        arguments values)
    (wanted : definition.flags.preloads .arguments = true)
    (ran :
      gather definition receiver arguments calls session =
        .ok values after) :
    ∃ handle,
      (frame.load definition.preloadRegisters values).HoldsArguments
        definition arguments session.machine handle := by
  obtain ⟨handle, machine, made, remembered, only⟩ :=
    gather_arguments wanted ran
  have has :
      (frame.load definition.preloadRegisters values).argumentsObject =
        some handle := by
    rw [Frame.load, laidOut.inOrder, remembered]
    rfl
  refine ⟨handle, ⟨machine, made, ?_⟩, ?_, has, ?_⟩
  · exact fun wellFormed room => Edit.createArray_stores wellFormed room made
  · intro register listed
    obtain ⟨position, assigned⟩ := List.mem_iff_getElem?.mp listed
    obtain ⟨value, looked, holds⟩ :=
      serves.preloaded position .arguments register assigned
    have paired :
        (.arguments, value) ∈
          (Preload.order.filter definition.flags.preloads).zip values := by
      rw [← laidOut.inOrder]
      refine List.mem_iff_getElem?.mpr ⟨position, ?_⟩
      simp [List.getElem?_zip_eq_some, assigned, looked]
    rw [holds, only value paired]
  · intro τ calls session top callers running same unbound
    exact getVariable_arguments running unbound (same.trans has)

/--
A definition that passes the check gets its frame.  Its registers suit each
other, building the frame fails only if a preloaded value cannot be looked up,
and otherwise every register holds its value, the variables of the new scope are
the parameters bound by name, and the array of the arguments is the one that the
body sees.  A scope is only a number here, so of what runs when the parent of
the receiver is read, it has to be said that it leaves the new scope alone.
With a host that names no scope it does, where only scopes that have been made
are in use.
-/
theorem buildFrame_serves
    (calls : Calls σ)
    (session : Session σ)
    (closure : Closure)
    (callee : Handle)
    (receiver : Value)
    (arguments : List Value)
    (valid : closure.definition.validate = .ok ()) :
    closure.definition.LaidOut ∧
      Scopes.OpensFor closure arguments session.machine.scopes
          (session.opened closure arguments).machine.scopes ∧
        (∀ (host : Host σ) fuel,
          calls = host.calls fuel →
            host.NamesNoScope →
              session.machine.ScopesKnown →
                ParentSpares calls closure.definition receiver arguments
                  session.machine.scopes.scopes.size
                  (session.opened closure arguments)) ∧
        (∀ stop after,
          gather closure.definition receiver arguments calls
              (session.opened closure arguments) = .error stop after →
            buildFrame closure callee receiver arguments calls session =
              .error stop after) ∧
          ∀ values after,
            gather closure.definition receiver arguments calls
                (session.opened closure arguments) = .ok values after →
              ∃ frame,
                buildFrame closure callee receiver arguments calls session =
                    .ok frame after ∧
                  frame.Serves closure.definition arguments values ∧
                  frame.locals = session.machine.scopes.scopes.size ∧
                  (ParentSpares calls closure.definition receiver arguments
                      frame.locals (session.opened closure arguments) →
                    ∀ name value,
                      (after.machine.scopes.own frame.locals).get? name =
                          some value ↔
                        closure.definition.Binds arguments name value) ∧
                  (closure.definition.flags.preloads .arguments = false →
                    frame.argumentsObject = none) ∧
                  (closure.definition.flags.preloads .arguments = true →
                    ∃ handle,
                      frame.HoldsArguments closure.definition arguments
                        (session.opened closure arguments).machine
                        handle) := by
  have laidOut := Definition.laidOut_of_valid valid
  have opens :=
    Scopes.opensFor_opened session.machine.scopes closure arguments
  have built :=
    buildFrame_eq calls session laidOut callee receiver arguments
  refine ⟨laidOut, opens, ?_, ?_, ?_⟩
  · rintro host fuel rfl namesNone known
    refine parentSpares (Machine.SparesUnused.callsOf namesNone fuel) ?_
      (Session.opened_unused known closure arguments) _ _ _
    exact Nat.lt_of_lt_of_eq (Nat.lt_succ_self _) opens.size.symm
  · intro stop after failed
    rw [built]
    exact bind_error failed _
  · intro values after gathered
    have complete :
        values.length = closure.definition.preloadRegisters.length := by
      have all := length_of_gather gathered
      rwa [← laidOut.inOrder, List.length_map] at all
    have serves :=
      Closure.boundFrame_load_serves laidOut complete callee receiver
        arguments session.machine.scopes.scopes.size
    refine ⟨_, built.trans (bind_ok gathered _), serves, rfl, ?_, ?_,
      fun wanted => load_holdsArguments laidOut serves wanted gathered⟩
    · intro spares name value
      exact (congrArg (Table.get? · name = some value)
        (gather_own spares gathered)).to_iff.trans (opens.own name value)
    · intro unwanted
      have absent :
          .arguments ∉
            closure.definition.preloadRegisters.map Prod.fst := by
        rw [laidOut.inOrder]
        simp [unwanted]
      exact Frame.argumentsObject_load absent _ values

end Act

/-- An object whose parent is read by a getter. -/
def Machine.parented : Machine :=
  { Machine.bare .standard 0 with
    heap :=
      Heap.run
        [.alloc .blank, .alloc .blank,
          .alloc
            ((ScriptObject.new none .ordinary).withProperty "_parent"
              (.accessors (some ⟨3, 0⟩) none)),
          .alloc (.new none (.function (.native ⟨"_parent", .host 0⟩)))] }

theorem Machine.scopesKnown_parented : Machine.parented.ScopesKnown := by
  intro scope used
  cases used with
  | running member => cases member
  | enclosing encloses => cases encloses
  | @captured handle object _ found captures =>
      have member :
          handle ∈ ([⟨0, 0⟩, ⟨1, 0⟩, ⟨2, 0⟩, ⟨3, 0⟩] : List Handle) :=
        (Heap.packed_run _).mem_of_contains (by decide)
          (Heap.contains_of_get? found)
      have captureNothing :
          ∀ other ∈ ([⟨0, 0⟩, ⟨1, 0⟩, ⟨2, 0⟩, ⟨3, 0⟩] : List Handle),
            (Machine.parented.heap.get? other).bind
              ScriptObject.captured? = none := by
        decide
      have fromHandle := captureNothing handle member
      rw [found, Option.bind_some, captures] at fromHandle
      cases fromHandle

/--
A function with a parameter in the second register and two others of one name.
It asks for its receiver, its arguments, their ancestor, which another bit
suppresses, and the parent of its receiver.
-/
def Closure.crowded : Closure where
  definition :=
    { name := none
      code := #[]
      constants := #[]
      parameters :=
        [.byRegister 2 "width", .byName "note", .byRegister 0 "note"]
      registers := 3
      flags := ⟨0xB500⟩
      usesRegisters := true }
  scope := none
  scopeObjects := []

/--
The parameter keeps its register, the array comes behind it, and of the two
parameters of one name the last one counts, though its argument is missing.
-/
theorem Act.buildFrame_serves_crowded :
    Closure.crowded.definition.validate = .ok () ∧
      ∃ (frame : Frame) (after : Session Unit),
        buildFrame Closure.crowded ⟨3, 0⟩ (.object ⟨2, 0⟩)
            [.integer 7, .integer 8] (Host.echoing.calls 2)
            ⟨Machine.parented, ()⟩ = .ok frame after ∧
          frame.registers.size = 5 ∧
          frame.registers[0]? = some Value.undefined ∧
          frame.registers[1]? = some (Value.object ⟨2, 0⟩) ∧
          frame.registers[2]? = some (Value.integer 7) ∧
          frame.registers[3]? = frame.argumentsObject.map Value.object ∧
          frame.registers[4]? = some (Value.object ⟨2, 0⟩) ∧
          (after.machine.scopes.own frame.locals).get? "note" =
            some Value.undefined ∧
          (after.machine.scopes.own frame.locals).get? "width" = none := by
  have valid : Closure.crowded.definition.validate = .ok () := rfl
  have wanted :
      Preload.order.filter Closure.crowded.definition.flags.preloads =
        [.receiver, .arguments, .parent] := by
    decide +kernel
  have assigned :
      Closure.crowded.definition.preloadRegisters =
        [(.receiver, 1), (.arguments, 3), (.parent, 4)] := by
    decide +kernel
  obtain ⟨after, gathered⟩ : ∃ after,
      gather Closure.crowded.definition (.object ⟨2, 0⟩)
          [.integer 7, .integer 8] (Host.echoing.calls 2)
          (Session.opened ⟨Machine.parented, ()⟩ .crowded
            [.integer 7, .integer 8]) =
        .ok [.object ⟨2, 0⟩, .object ⟨4, 0⟩, .object ⟨2, 0⟩] after := by
    rw [gather, wanted]
    exact ⟨_, rfl⟩
  obtain ⟨-, -, unnamed, -, serves⟩ :=
    buildFrame_serves (Host.echoing.calls 2) ⟨Machine.parented, ()⟩
      .crowded ⟨3, 0⟩ (.object ⟨2, 0⟩) [.integer 7, .integer 8] valid
  have namesNone : Host.echoing.NamesNoScope := by
    refine ⟨fun _ _ _ => trivial, fun instruction installed => ?_⟩
    cases installed
  have spares := unnamed .echoing 2 rfl namesNone Machine.scopesKnown_parented
  obtain ⟨frame, built, holds, locals, own, -, remembered⟩ :=
    serves _ after gathered
  rw [← locals] at spares
  obtain ⟨handle, array⟩ := remembered (by decide +kernel)
  have preloaded (position : Nat) := holds.preloaded position
  rw [assigned] at preloaded
  refine ⟨valid, frame, after, built, ?_, ?_, ?_, ?_, ?_, ?_, ?_, ?_⟩
  · rw [holds.size]
    decide +kernel
  · exact holds.other 0 (by decide +kernel) (by decide +kernel)
      (by decide +kernel)
  · obtain ⟨value, ⟨⟩, has⟩ := preloaded 0 .receiver 1 rfl
    exact has
  · exact holds.parameter 0 _ 2 rfl rfl
  · rw [array.held 3 (by decide +kernel), array.remembered]
    rfl
  · obtain ⟨value, ⟨⟩, has⟩ := preloaded 2 .parent 4 rfl
    exact has
  · refine (own spares "note" .undefined).mpr
      ⟨2, ⟨⟨_, rfl, rfl, rfl⟩, ?_⟩, rfl⟩
    intro later parameter behind found
    have inside := (List.getElem?_eq_some_iff.mp found).1
    exact absurd behind (Nat.not_lt.mpr (Nat.le_of_lt_succ inside))
  · cases bound : (after.machine.scopes.own frame.locals).get? "width" with
    | none => rfl
    | some value =>
        obtain ⟨index, ⟨⟨parameter, found, unclaimed, named⟩, -⟩, -⟩ :=
          (own spares "width" value).mp bound
        have member := List.mem_of_getElem? found
        simp only [Closure.crowded, List.mem_cons, List.not_mem_nil,
          or_false] at member
        rcases member with rfl | rfl | rfl
        · cases unclaimed
        · simp [Parameter.name] at named
        · simp [Parameter.name] at named

end MovieScript
