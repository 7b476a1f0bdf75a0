import MovieScript.Proofs.HostBalance

namespace MovieScript

/-!
# Objects in flight

A host entry holds the function, the receiver and the arguments of its call in
no place that a collection looks at.  What keeps them is that no collection is
allowed while a frame is live.  So nothing is reclaimed during a call that is
made from a running frame, as long as host code leaves alone the frames it was
called from; during a call that is made from no frame, a native function can
collect the very objects that it was given.
-/

namespace Heap

variable {α : Type} [Reset α]
variable {allowed : Operation α → Prop} {before after : Heap α}

theorem Worked.packed
    (worked : Worked allowed before after)
    (packed : before.Packed) :
    after.Packed ∧ before.total ≤ after.total := by
  refine worked.keeps
    (fun heap => heap.Packed ∧ before.total ≤ heap.total) ?_
    ⟨packed, Nat.le_refl _⟩
  rintro operation heap - ⟨stillPacked, atLeast⟩
  have stepped := stillPacked.perform operation
  exact ⟨stepped.1, Nat.le_trans atLeast stepped.2.1⟩

theorem Worked.wellFormed
    (worked : Worked allowed before after)
    (wellFormed : before.WellFormed)
    (small : after.total < 2 ^ 32) :
    after.WellFormed := by
  obtain ⟨operations, kinds, rfl⟩ := worked
  induction operations generalizing before with
  | nil => exact wellFormed
  | cons operation rest inductionHypothesis =>
      obtain ⟨-, restKinds⟩ := List.forall_mem_cons.mp kinds
      have packed := (wellFormed.packed.perform operation).1
      -- The number of slots only grows, so it was small all the time.
      have grows := Worked.packed ⟨rest, restKinds, rfl⟩ packed
      have smallBefore := Nat.lt_of_le_of_lt grows.2 small
      exact inductionHypothesis
        (wellFormed.perform operation smallBefore) restKinds small

end Heap

/--
If so many frames are live, then so many stay live and no object is taken away.
-/
def Sheltered (count : Nat) (before after : Machine) : Prop :=
  count ≤ before.depth →
    count ≤ after.depth ∧
      Heap.Worked (·.spares = true) before.heap after.heap

/-- The same for an instruction, which may pop one frame. -/
def Sinks (depth : Nat) (before after : Machine) : Prop :=
  depth < before.depth →
    depth ≤ after.depth ∧
      Heap.Worked (·.spares = true) before.heap after.heap

namespace Sheltered

variable {count : Nat}

theorem of_sameHeap
    {before after : Machine}
    (heap : after.heap = before.heap)
    (depth : count ≤ before.depth → count ≤ after.depth) :
    Sheltered count before after := by
  intro deep
  rw [heap]
  exact ⟨depth deep, .refl before.heap⟩

theorem trans
    ⦃first second third : Machine⦄
    (earlier : Sheltered count first second)
    (later : Sheltered count second third) :
    Sheltered count first third := by
  intro deep
  obtain ⟨stillDeep, firstWork⟩ := earlier deep
  obtain ⟨deepAfter, secondWork⟩ := later stillDeep
  exact ⟨deepAfter, firstWork.trans secondWork⟩

/-- A collection is refused, because there is a frame. -/
theorem of_quiet
    (positive : 0 < count)
    ⦃before after : Machine⦄
    (quiet : before.Quiet after) :
    Sheltered count before after := by
  intro deep
  have running : before.frames ≠ [] :=
    List.length_pos_iff.mp (Nat.lt_of_lt_of_le positive deep)
  have sameDepth : after.depth = before.depth :=
    congrArg List.length quiet.control.frames
  refine ⟨sameDepth ▸ deep, quiet.heap.mono ?_⟩
  exact fun operation spared => spared.resolve_left running

theorem opens
    {β : Type}
    (positive : 0 < count)
    (wanted : Request β) :
    wanted.Opens (Sheltered count) :=
  wanted.opens_of_quiet (of_quiet positive)

theorem frameStable (positive : 0 < count) :
    FrameStable (Sheltered count) := by
  refine .of_quiet trans (of_quiet positive)
    (fun _ _ => of_sameHeap rfl id) ?_
  intro machine frame callers changed top _
  refine of_sameHeap rfl ?_
  rw [Machine.depth, top]
  exact id

theorem pushFrame_respects (frame : Frame) :
    Respects (Sheltered count) (Edit.pushFrame frame) := by
  intro machine
  rcases pushFrame_run frame machine with pushed | ⟨fault, refused⟩
  · rw [pushed]
    exact of_sameHeap rfl Nat.le_succ_of_le
  · rw [refused]
    exact of_sameHeap rfl id

theorem takeHostResult_respects :
    Respects (Sheltered count) Edit.takeHostResult := by
  refine .get_bind fun machine => ?_
  split
  · exact of_sameHeap rfl id
  · exact of_sameHeap rfl id

/-- A host entry that fails leaves the frames below it. -/
theorem abandoned
    {machine changed : Machine}
    {base : Nat}
    (above : count ≤ base)
    (inside : Sheltered count machine changed) :
    Sheltered count machine (changed.abandoned base) := by
  intro deep
  obtain ⟨stillDeep, worked⟩ := inside deep
  refine ⟨?_, worked⟩
  change
    count ≤
      (changed.frames.drop (changed.frames.length - base)).length
  rw [List.length_drop]
  change count ≤ changed.frames.length at stillDeep
  omega

theorem inHostEntry_respects
    {σ : Type}
    {calls : Calls σ}
    {body : Nat → Act σ Value}
    (within : ∀ base,
      count ≤ base → (body base).Respects (Sheltered count) calls) :
    (Act.inHostEntry body).Respects (Sheltered count) calls := by
  intro session
  by_cases deep : count ≤ session.machine.depth
  · refine (within session.machine.depth deep _).inHostEntry ?_ ?_ ?_
    · exact fun log => of_sameHeap rfl id
    · exact fun value changed inside => inside
    · exact fun changed inside => inside.abandoned deep
  · exact .of_forall (fun _ _ => deep.elim) (fun _ => deep.elim)

theorem sinks
    {depth : Nat}
    {first second third : Machine}
    (earlier : Sheltered (depth + 1) first second)
    (later : Sinks depth second third) :
    Sinks depth first third := by
  intro above
  obtain ⟨stillAbove, firstWork⟩ := earlier above
  obtain ⟨deepAfter, secondWork⟩ := later stillAbove
  exact ⟨deepAfter, firstWork.trans secondWork⟩

end Sheltered

namespace Sinks

variable {depth : Nat}

theorem refl (machine : Machine) : Sinks depth machine machine :=
  fun above => ⟨Nat.le_of_lt above, .refl machine.heap⟩

theorem sheltered
    {first second third : Machine}
    (earlier : Sinks depth first second)
    (later : Sheltered depth second third) :
    Sinks depth first third := by
  intro above
  obtain ⟨deep, firstWork⟩ := earlier above
  obtain ⟨deepAfter, secondWork⟩ := later deep
  exact ⟨deepAfter, firstWork.trans secondWork⟩

/-- Going on while there are still frames above. -/
theorem trans
    {first second third : Machine}
    (earlier : Sinks depth first second)
    (stillAbove : depth < second.depth)
    (later : Sinks depth second third) :
    Sinks depth first third := by
  intro above
  obtain ⟨-, firstWork⟩ := earlier above
  obtain ⟨deepAfter, secondWork⟩ := later stillAbove
  exact ⟨deepAfter, firstWork.trans secondWork⟩

/-- A return pops one frame and touches no object. -/
theorem returnFromFrame_respects (value : Value) (depth : Nat) :
    Respects (Sinks depth) (Edit.returnFromFrame value) := by
  refine .get_bind fun machine => ?_
  split
  · exact .refl machine
  · rename_i top callers frames
    have popped (above : depth < machine.depth) :
        depth ≤ callers.length := by
      rw [Machine.depth, frames] at above
      exact Nat.le_of_lt_succ above
    split
    · exact fun above => ⟨popped above, .refl machine.heap⟩
    · split
      · exact fun above => ⟨popped above, .refl machine.heap⟩
      · exact fun above => ⟨popped above, .refl machine.heap⟩

end Sinks

/-- The calls shelter the objects if so many frames are live. -/
structure Calls.Shelter
    {σ : Type}
    (calls : Calls σ)
    (count : Nat) :
    Prop where
  invoke : ∀ function receiver arguments,
    (Act.invoke function receiver arguments).Respects (Sheltered count)
      calls
  runAbove : ∀ depth,
    count ≤ depth →
      (Act.runAbove depth).Respects (Sheltered count) calls
  exportBelow : ∀ visiting value,
    (Act.exportBelow visiting value).Respects (Sheltered count) calls

namespace Calls.Shelter

variable {σ : Type} {calls : Calls σ} {count : Nat}

theorem callStable
    (shelter : calls.Shelter count)
    (positive : 0 < count) :
    CallStable (Sheltered count) (Sheltered count) calls := by
  have stable : EntryStable (Sheltered count) (count ≤ ·) calls :=
    { Sheltered.frameStable positive with
      pushFrame := Sheltered.pushFrame_respects
      takeHostResult := Sheltered.takeHostResult_respects
      inHostEntry := Sheltered.inHostEntry_respects
      invoke := shelter.invoke
      runAbove := shelter.runAbove
      exportBelow := shelter.exportBelow }
  exact stable.callStable

end Calls.Shelter

/--
Native functions leave the frames that they are called from, and instructions
act on the top frame.
-/
structure Host.LeavesCallers {σ : Type} (host : Host σ) : Prop where
  native : ∀ number receiver arguments,
    (host.native number receiver arguments).Every Request.LeavesCallers
  dispatcher : ∀ instruction,
    host.dispatcher = some instruction → instruction.ActsOnTop

section Programs

variable {σ α β : Type} {calls : Calls σ} {count : Nat}

/-- Whatever prototype an instance gets, what is sheltered stays sheltered. -/
theorem CallCongruence.construct
    {τ : Type}
    {related : ∀ {α : Type}, Act σ α → Act τ α → Prop}
    {launched : Act σ Invocation → Act τ Invocation → Prop}
    (both : CallCongruence (Sheltered (count + 1)) related launched)
    (constructor : Value)
    (arguments : List Value) :
    related (Act.construct constructor arguments)
      (Act.construct constructor arguments) :=
  both.toActCongruence.construct
    (fun object _ machine =>
      Sheltered.of_quiet (Nat.succ_pos count)
        (Edit.alloc_quiet object machine))
    constructor arguments

theorem CallStable.request_leavesCallers
    {R : Machine → Machine → Prop}
    (stable : CallStable R R calls)
    (wanted : Request β)
    (leaves : wanted.LeavesCallers)
    (opens : wanted.Opens R) :
    wanted.perform.Respects R calls :=
  fun session =>
    (stable.request_keeps wanted leaves opens session).mono
      (fun _ _ across => across.elim id id)
      (fun _ across => across.elim id id)

/-- One instruction pops no more than the frame that it runs in. -/
theorem Program.ActsOnTop.sinks
    {depth : Nat}
    (positive : 0 < depth)
    (stable :
      CallStable (Sheltered (depth + 1)) (Sheltered (depth + 1)) calls)
    {program : Program σ α}
    (acts : program.ActsOnTop) :
    program.run.Respects (Sinks depth) calls := by
  induction program with
  | finish outcome =>
      cases outcome with
      | ok result => exact fun session => .refl session.machine
      | error fault => exact fun session => .refl session.machine
  | own work next inductionHypothesis =>
      exact fun session =>
        inductionHypothesis (work session.host).1
          (acts (work session.host).1)
          ⟨session.machine, (work session.host).2⟩
  | request wanted next inductionHypothesis =>
      rcases acts.of_request with ⟨leaves, rest⟩ | ⟨pops, apart⟩
      · intro session
        refine (Act.attempt_ends
          (stable.request_leavesCallers wanted leaves
            (Sheltered.opens (Nat.succ_pos depth) wanted)) session).bind ?_
        intro answer changed across
        exact (inductionHypothesis answer (rest answer) changed).mono
          (fun _ _ => across.sinks) (fun _ => across.sinks)
      · cases wanted with
        | returnFromFrame value =>
            intro session
            have popped :=
              Act.respects_lift
                (Sinks.returnFromFrame_respects value depth) calls
            refine (Act.attempt_ends popped session).bind ?_
            intro answer changed across
            -- The frame is gone, and the rest is work apart from frames.
            have quiet := Sheltered.frameStable positive
            refine ((apart answer).respects quiet.refl quiet.trans
              (fun wanted use =>
                quiet.toEditStable.request calls wanted use
                  (Sheltered.opens positive wanted)) changed).mono ?_ ?_
            · exact fun _ _ => across.sheltered
            · exact fun _ => across.sheltered
        | _ => cases pops

/-- All instructions down to a depth leave the frames below it. -/
theorem Host.runInstructions_sinks
    {instruction : Program σ Unit}
    {depth : Nat}
    (step : instruction.run.Respects (Sinks depth) calls)
    (fuel : Nat)
    (session : Session σ) :
    Ends
      (fun _ changed => Sinks depth session.machine changed.machine)
      (fun changed => Sinks depth session.machine changed.machine)
      (runInstructions (instruction.run calls) depth fuel session) := by
  refine runInstructions_ends ?_ fuel session (.refl session.machine)
  intro between stillAbove sunk
  exact (step between).mono (fun _ _ => sunk.trans stillAbove)
    (fun _ => sunk.trans stillAbove)

/-- Objects are sheltered at every level of nesting. -/
theorem Host.LeavesCallers.shelter
    {host : Host σ}
    (leaves : host.LeavesCallers)
    (fuel : Nat)
    (positive : 0 < count) :
    (host.calls fuel).Shelter count := by
  induction fuel generalizing count with
  | zero =>
      exact ⟨fun _ _ _ _ => trivial, fun _ _ _ => trivial,
        fun _ _ _ => trivial⟩
  | succ fuel shelter =>
      have stable := (shelter positive).callStable positive
      refine ⟨?_, ?_, stable.congruence.exportLevel⟩
      · intro function receiver arguments
        refine Act.launches_same_iff.mp
          (stable.startCall host ?_ function receiver arguments)
        intro number receiver arguments
        exact Act.launches_same_iff.mpr
          ((leaves.native number receiver arguments).respects stable.refl
            stable.trans fun wanted leaves =>
              stable.request_leavesCallers wanted leaves
                (Sheltered.opens positive wanted))
      · intro depth above session
        change Ends _ _ ((host.calls (fuel + 1)).runAbove depth session)
        rw [calls_runAbove_succ]
        split
        · exact stable.refl session.machine
        · rename_i atWork
          split
          · exact stable.refl session.machine
          · rename_i instruction installed
            have deepPositive := Nat.lt_of_lt_of_le positive above
            have lower := shelter (Nat.succ_pos depth)
            have step :=
              (leaves.dispatcher instruction installed).sinks deepPositive
                (lower.callStable (Nat.succ_pos depth))
            have stillDeep (changed : Machine)
                (sunk : Sinks depth session.machine changed) :
                Sheltered count session.machine changed := by
              intro _
              obtain ⟨deep, worked⟩ := sunk (Nat.not_le.mp atWork)
              exact ⟨Nat.le_trans above deep, worked⟩
            exact (runInstructions_sinks step fuel session).mono
              (fun _ changed => stillDeep changed.machine)
              (fun changed => stillDeep changed.machine)

end Programs

section Survival

variable {σ α : Type} {calls : Calls σ} {session : Session σ}

/-- The handle resolves when an act has come to its end, done or failed. -/
def StillResolves
    (handle : Handle)
    (outcome : EStateM.Result Stop (Session σ) α) :
    Prop :=
  Ends (fun _ after => after.machine.heap.contains handle = true)
    (fun after => after.machine.heap.contains handle = true) outcome

theorem Sheltered.contains
    {before after : Machine}
    (sheltered : Sheltered 1 before after)
    (running : before.frames ≠ [])
    {handle : Handle}
    (live : before.heap.contains handle = true) :
    after.heap.contains handle = true := by
  obtain ⟨-, worked⟩ := sheltered (List.length_pos_iff.mpr running)
  refine worked.keeps (·.contains handle = true) ?_ live
  exact fun operation heap spares live =>
    Heap.contains_perform_of_spares live spares

theorem Act.Respects.stillResolves
    {act : Act σ α}
    (sheltered : act.Respects (Sheltered 1) calls)
    (running : session.machine.frames ≠ [])
    {handle : Handle}
    (live : session.machine.heap.contains handle = true) :
    StillResolves handle (act calls session) :=
  (sheltered session).mono
    (fun _ _ across => across.contains running live)
    (fun _ across => across.contains running live)

/-- A new instance is what the last step of making it has moved in. -/
theorem ActStable.instantiate_ends
    {R : Machine → Machine → Prop}
    (stable : ActStable R calls)
    (constructor : Value)
    (session : Session σ) :
    Ends
      (fun fresh between =>
        ∃ prior object,
          R session.machine prior ∧
            prior.heap.alloc object = (fresh, between.machine.heap) ∧
              between.machine.frames = prior.frames)
      (fun _ => True)
      (Act.instantiate constructor calls session) := by
  refine Ends.bind
    ((stable.ask (·.toFunction constructor) session).mono
      (fun _ _ => id) fun _ _ => trivial) ?_
  rintro ⟨maker, callable⟩ found across
  refine Ends.bind
    ((stable.congruence.instancePrototype maker found).mono
      (fun _ _ => id) fun _ _ => trivial) ?_
  intro prototype prior further
  exact .edit_ok rfl
    ⟨prior.machine, _, stable.trans across further, rfl, rfl⟩

/-- A new instance resolves as soon as it is made. -/
theorem ActStable.instantiate_resolves
    (stable : ActStable (Sheltered 1) calls)
    (running : session.machine.frames ≠ [])
    (wellFormed : session.machine.heap.WellFormed)
    {constructor : Value}
    {fresh : Handle}
    {between : Session σ}
    (made :
      Act.instantiate constructor calls session = .ok fresh between)
    (small : between.machine.heap.total < 2 ^ 32) :
    between.machine.frames ≠ [] ∧
      between.machine.heap.contains fresh = true := by
  obtain ⟨prior, object, across, moved, sameFrames⟩ :=
    (stable.instantiate_ends constructor session).of_ok made
  obtain ⟨deep, worked⟩ := across (List.length_pos_iff.mpr running)
  refine ⟨?_, ?_⟩
  · rw [sameFrames]
    exact List.length_pos_iff.mp deep
  · have movedHeap : (prior.heap.alloc object).2 = between.machine.heap :=
      congrArg Prod.snd moved
    have movedHandle : (prior.heap.alloc object).1 = fresh :=
      congrArg Prod.fst moved
    rw [← movedHeap] at small
    have packed := (worked.packed wellFormed.packed).1
    have room : prior.heap.total < 2 ^ 32 :=
      Nat.lt_of_le_of_lt (packed.perform (.alloc object)).2.1 small
    have allocation := (worked.wellFormed wellFormed room).alloc object small
    rw [← movedHeap, ← movedHandle]
    refine Heap.contains_iff.mpr ⟨object, ?_⟩
    rw [allocation.slots, if_pos rfl]

end Survival

namespace Host

variable {σ : Type}

/--
Nothing in flight is reclaimed while a frame is live.  Whatever the native
functions do, short of popping or running the frames they were called from, and
however a call or a construction ends that was made from a running frame: every
handle that resolved before still resolves, and so does the instance that a
construction has made.
-/
theorem objectsInFlight_resolve
    (host : Host σ)
    (leaves : host.LeavesCallers)
    (fuel : Nat)
    (session : Session σ)
    (running : session.machine.frames ≠ []) :
    (∀ handle,
      session.machine.heap.contains handle = true →
        (∀ function receiver arguments,
          StillResolves handle
            (Act.call function receiver arguments (host.calls fuel)
              session)) ∧
        ∀ constructor arguments,
          StillResolves handle
            (Act.construct constructor arguments (host.calls fuel)
              session)) ∧
    ∀ constructor fresh between,
      session.machine.heap.WellFormed →
        Act.instantiate constructor (host.calls fuel) session =
            .ok fresh between →
          between.machine.heap.total < 2 ^ 32 →
            ∀ arguments,
              StillResolves fresh
                (Act.construct constructor arguments (host.calls fuel)
                  session) := by
  have stable := (leaves.shelter fuel Nat.one_pos).callStable Nat.one_pos
  refine ⟨?_, ?_⟩
  · intro handle live
    exact ⟨fun function receiver arguments =>
        (stable.call function receiver arguments).stillResolves running live,
      fun constructor arguments =>
        (stable.congruence.construct constructor arguments).stillResolves running
          live⟩
  · intro constructor fresh between wellFormed made small arguments
    obtain ⟨stillRunning, live⟩ :=
      stable.instantiate_resolves running wellFormed made small
    have instantiated :
        Ends (fun handle changed => handle = fresh ∧ changed = between)
          (fun after => after.machine.heap.contains fresh = true)
          (Act.instantiate constructor (host.calls fuel) session) := by
      rw [made]
      exact ⟨rfl, rfl⟩
    refine instantiated.bind ?_
    rintro handle changed ⟨rfl, rfl⟩
    refine Ends.bind
      ((stable.call constructor (.object handle) arguments).stillResolves
        stillRunning live) ?_
    intro result after resolves
    split
    · exact resolves
    · exact resolves

/-- A host whose native functions collect garbage, if they are allowed to. -/
def sweeping : Host Unit where
  native _ _ _ :=
    .request .collectGarbage fun _ =>
      .finish (.ok (.complete .undefined))
  dispatcher := none

theorem leavesCallers_sweeping : sweeping.LeavesCallers :=
  ⟨fun _ _ _ => ⟨.inl rfl, fun _ => trivial⟩, nofun⟩

/-- The third object is a native function, which is pinned. -/
def withConstructor : Machine :=
  { Machine.bare .standard 0 with
    heap :=
      Heap.run
        [.alloc .blank, .alloc .blank,
          .alloc (.new none (.function (.native ⟨"make", .host 0⟩))),
          .pin ⟨2, 0⟩] }

/-- The same machine while a frame is live. -/
def whileRunning : Machine :=
  let (locals, scopes) := Scopes.empty.create none
  { withConstructor with
    scopes := scopes
    frames := [.new #[] #[] 0 locals .undefined] }

/-- The handle that an act has given, if it was one. -/
def handleOf? :
    EStateM.Result Stop (Session σ) Value → Option Handle
  | .ok (.object handle) _ => some handle
  | _ => none

theorem handleOf?_eq_some
    {outcome : EStateM.Result Stop (Session σ) Value}
    {handle : Handle}
    (given : handleOf? outcome = some handle) :
    outcome = .ok (.object handle) (remaining outcome) := by
  unfold handleOf? at given
  split at given
  · obtain rfl := Option.some.inj given
    rfl
  · cases given

/-- The constructor may ask for a collection, but its frame keeps the instance. -/
theorem objectsInFlight_resolve_sweeping :
    sweeping.LeavesCallers ∧ whileRunning.heap.WellFormed ∧
      ∃ after,
        Act.construct (.object ⟨2, 0⟩) [] (sweeping.calls 5)
            ⟨whileRunning, ()⟩ = .ok (.object ⟨3, 0⟩) after ∧
          after.machine.heap.contains ⟨3, 0⟩ = true := by
  have wellFormed : whileRunning.heap.WellFormed :=
    Heap.wellFormed_run _ (by decide +kernel)
  refine ⟨leavesCallers_sweeping, wellFormed, ?_⟩
  have given :
      handleOf?
        (Act.construct (.object ⟨2, 0⟩) [] (sweeping.calls 5)
          ⟨whileRunning, ()⟩) = some ⟨3, 0⟩ := by
    decide +kernel
  have made :
      Act.instantiate (.object ⟨2, 0⟩) (sweeping.calls 5)
          ⟨whileRunning, ()⟩ =
        .ok ⟨3, 0⟩
          (remaining
            (Act.instantiate (.object ⟨2, 0⟩) (sweeping.calls 5)
              ⟨whileRunning, ()⟩)) := by
    rfl
  have survives :=
    (objectsInFlight_resolve sweeping leavesCallers_sweeping 5
      ⟨whileRunning, ()⟩ (by decide)).2 _ _ _ wellFormed made
      (by decide +kernel) []
  have ran := handleOf?_eq_some given
  exact ⟨_, ran, survives.of_ok ran⟩

/--
Without a frame the same constructor reclaims its receiver, the very instance
that the construction goes on to return.
-/
theorem instance_reclaimed_sweeping :
    ∃ between after,
      Act.instantiate (.object ⟨2, 0⟩) (sweeping.calls 5)
          ⟨withConstructor, ()⟩ = .ok ⟨3, 0⟩ between ∧
        between.machine.heap.contains ⟨3, 0⟩ = true ∧
          Act.construct (.object ⟨2, 0⟩) [] (sweeping.calls 5)
              ⟨withConstructor, ()⟩ = .ok (.object ⟨3, 0⟩) after ∧
            after.machine.heap.contains ⟨3, 0⟩ = false := by
  have given :
      handleOf?
        (Act.construct (.object ⟨2, 0⟩) [] (sweeping.calls 5)
          ⟨withConstructor, ()⟩) = some ⟨3, 0⟩ := by
    decide +kernel
  refine ⟨_, _, rfl, ?_, handleOf?_eq_some given, ?_⟩
  · decide +kernel
  · refine Heap.not_contains_collect ?_ ?_ ?_
    · decide +kernel
    · decide +kernel
    · decide +kernel

end Host

end MovieScript
