import MovieScript.Proofs.PreloadedValues
import MovieScript.Proofs.SharedVariables

namespace MovieScript

/-!
# Scopes that are not in use

A scope is only a number, and whoever names one can write there.  All other work
comes to a scope only by way of what leads there: a frame that runs in it, a
function that has captured it, or a scope that it encloses.  Work of this kind
leaves the variables of all other scopes alone, and among those are the ones of
a call whose frame is still being built.
-/

namespace Scopes

variable {all : Scopes} {scope other : ScopeId}

/-- A scope that is written leaves the variables of the others alone. -/
theorem own_define_other
    (different : other ≠ scope)
    (name : String)
    (value : Value) :
    (all.define scope name value).own other = all.own other := by
  have same :
      (all.define scope name value).scopes[other]? = all.scopes[other]? := by
    simp [define, Array.getElem?_modify, Ne.symm different]
  rw [own, own, same]

/-- So does a scope that is made. -/
theorem own_create_of_lt
    (made : other < all.scopes.size)
    (outer : Option ScopeId) :
    (all.create outer).2.own other = all.own other := by
  have same :
      (all.create outer).2.scopes[other]? = all.scopes[other]? := by
    simp [create, Array.getElem?_push, Nat.ne_of_lt made]
  rw [own, own, same]

end Scopes

/-! ## What leads to a scope -/

/-- The scope that a function has captured. -/
def Callable.captured? : Callable → Option ScopeId
  | .native _ => none
  | .defined closure => closure.scope

/-- The scope that an object has captured, if it is a function that has one. -/
def ScriptObject.captured? (object : ScriptObject) : Option ScopeId :=
  object.callable?.bind Callable.captured?

theorem ScriptObject.captured?_of_isData
    {object : ScriptObject}
    (isData : object.content.IsData) :
    object.captured? = none := by
  rw [captured?, callable?]
  split
  · rename_i content
    rw [content] at isData
    cases isData
  · rfl

/-- Something leads to the scope. -/
inductive Machine.InUse (machine : Machine) : ScopeId → Prop where
  | running {frame : Frame} :
      frame ∈ machine.frames → machine.InUse frame.locals
  | captured {handle : Handle} {object : ScriptObject} {scope : ScopeId} :
      machine.heap.get? handle = some object →
        object.captured? = some scope → machine.InUse scope
  | enclosing {inner scope : ScopeId} :
      machine.scopes.outer? inner = some scope → machine.InUse scope

namespace Machine

variable {machine before after : Machine} {scope start : ScopeId}

/-- Whatever leads to a scope leads to those that enclose it. -/
theorem InUse.of_mem_chain
    (used : machine.InUse start)
    (member : scope ∈ machine.scopes.chain start) :
    machine.InUse scope := by
  generalize all : machine.scopes = scopes at member
  fun_induction Scopes.chain scopes start with
  | case1 start outer enclosed inductionHypothesis =>
      rcases List.mem_cons.mp member with rfl | further
      · exact used
      · exact inductionHypothesis (.enclosing (all ▸ enclosed)) further
  | case2 start outermost =>
      rw [List.mem_singleton.mp member]
      exact used

theorem inUse_of_head?
    (top : machine.frames.head?.map Frame.locals = some scope) :
    machine.InUse scope := by
  obtain ⟨frame, first, rfl⟩ := Option.map_eq_some_iff.mp top
  exact .running (List.mem_of_mem_head? first)

theorem inUse_of_currentFrame
    {frame : Frame}
    (top : machine.currentFrame = .ok frame) :
    machine.InUse frame.locals := by
  unfold currentFrame at top
  split at top
  · rename_i frames
    cases top
    exact .running (by rw [frames]; exact List.mem_cons_self)
  · cases top

/-- Every scope that something leads to has been made. -/
def ScopesKnown (machine : Machine) : Prop :=
  ∀ scope, machine.InUse scope → scope < machine.scopes.scopes.size

/--
No scope came into use but those that have been made since, and what was not in
use has the variables it had.
-/
structure SparesUnused (before after : Machine) : Prop where
  grown : before.scopes.scopes.size ≤ after.scopes.scopes.size
  used : ∀ scope,
    after.InUse scope →
      before.InUse scope ∨
        before.scopes.scopes.size ≤ scope ∧
          scope < after.scopes.scopes.size
  own : ∀ scope,
    scope < before.scopes.scopes.size →
      ¬before.InUse scope →
        after.scopes.own scope = before.scopes.own scope

namespace SparesUnused

/-- What is not in use stays so. -/
theorem unused
    (spares : before.SparesUnused after)
    (made : scope < before.scopes.scopes.size)
    (unused : ¬before.InUse scope) :
    ¬after.InUse scope := by
  intro used
  rcases spares.used scope used with old | ⟨isNew, -⟩
  · exact unused old
  · exact Nat.not_le.mpr made isNew

theorem scopesKnown
    (spares : before.SparesUnused after)
    (known : before.ScopesKnown) :
    after.ScopesKnown := by
  intro scope used
  rcases spares.used scope used with old | ⟨-, made⟩
  · exact Nat.lt_of_lt_of_le (known scope old) spares.grown
  · exact made

theorem trans
    ⦃first second third : Machine⦄
    (earlier : first.SparesUnused second)
    (later : second.SparesUnused third) :
    first.SparesUnused third where
  grown := Nat.le_trans earlier.grown later.grown
  used := by
    intro scope used
    rcases later.used scope used with between | ⟨isNew, made⟩
    · rcases earlier.used scope between with old | ⟨isNew, made⟩
      · exact .inl old
      · exact .inr ⟨isNew, Nat.lt_of_lt_of_le made later.grown⟩
    · exact .inr ⟨Nat.le_trans earlier.grown isNew, made⟩
  own := by
    intro scope made unused
    rw [later.own scope (Nat.lt_of_lt_of_le made earlier.grown)
      (earlier.unused made unused), earlier.own scope made unused]

/-- Where the scopes are the same it is enough that nothing new leads there. -/
theorem of_scopes
    (scopes : after.scopes = before.scopes)
    (running : ∀ frame ∈ after.frames, before.InUse frame.locals)
    (captured : ∀ handle object scope,
      after.heap.get? handle = some object →
        object.captured? = some scope → before.InUse scope) :
    before.SparesUnused after where
  grown := by rw [scopes]
  used := by
    intro scope used
    cases used with
    | running member => exact .inl (running _ member)
    | captured found captures =>
        exact .inl (captured _ _ scope found captures)
    | enclosing encloses =>
        rw [scopes] at encloses
        exact .inl (.enclosing encloses)
  own := fun _ _ _ => by rw [scopes]

/-- Frames may go, and others may change but for the scope they run in. -/
theorem of_frames
    (scopes : after.scopes = before.scopes)
    (heap : after.heap = before.heap)
    (frames : ∀ frame ∈ after.frames, before.InUse frame.locals) :
    before.SparesUnused after :=
  of_scopes scopes frames fun _ _ _ found captures =>
    .captured (heap ▸ found) captures

theorem aside
    (scopes : after.scopes = before.scopes)
    (heap : after.heap = before.heap)
    (frames : after.frames = before.frames) :
    before.SparesUnused after :=
  of_frames scopes heap fun _ member => .running (frames ▸ member)

theorem refl (machine : Machine) : machine.SparesUnused machine :=
  aside rfl rfl rfl

/-- An object that is there afterwards has captured only what was in use. -/
theorem of_heap
    {heap : Heap ScriptObject}
    (captured : ∀ handle object scope,
      heap.get? handle = some object →
        object.captured? = some scope → machine.InUse scope) :
    machine.SparesUnused { machine with heap := heap } :=
  of_scopes rfl (fun _ member => .running member) captured

/-- A scope may be written that was in use or has been made since. -/
theorem define
    (spares : before.SparesUnused after)
    (reached : before.InUse scope ∨ before.scopes.scopes.size ≤ scope)
    (name : String)
    (value : Value) :
    before.SparesUnused
      { after with scopes := after.scopes.define scope name value } where
  grown := by
    rw [Scopes.size_define]
    exact spares.grown
  used := by
    intro other used
    rw [Scopes.size_define]
    refine spares.used other ?_
    cases used with
    | running member => exact .running member
    | captured found captures => exact .captured found captures
    | enclosing encloses =>
        rw [Scopes.outer?_define] at encloses
        exact .enclosing encloses
  own := by
    intro other made unused
    rw [Scopes.own_define_other, spares.own other made unused]
    rintro rfl
    rcases reached with used | isNew
    · exact unused used
    · exact Nat.not_le.mpr made isNew

/-- A scope may be made inside of one that was in use, or inside of none. -/
theorem create
    (spares : before.SparesUnused after)
    {outer : Option ScopeId}
    (reached : ∀ enclosing, outer = some enclosing → before.InUse enclosing) :
    before.SparesUnused
      { after with scopes := (after.scopes.create outer).2 } where
  grown := by
    rw [Scopes.size_create]
    exact Nat.le_succ_of_le spares.grown
  used := by
    have old (scope : ScopeId) (used : after.InUse scope) :
        before.InUse scope ∨
          before.scopes.scopes.size ≤ scope ∧
            scope < (after.scopes.create outer).2.scopes.size := by
      rw [Scopes.size_create]
      exact (spares.used scope used).imp_right fun ⟨isNew, made⟩ =>
        ⟨isNew, Nat.lt_succ_of_lt made⟩
    intro scope used
    cases used with
    | running member => exact old _ (.running member)
    | captured found captures => exact old _ (.captured found captures)
    | enclosing encloses =>
        rw [Scopes.outer?_create] at encloses
        split at encloses
        · exact .inl (reached scope (Option.filter_eq_some_iff.mp encloses).1)
        · exact old _ (.enclosing encloses)
  own := by
    intro scope made unused
    rw [Scopes.own_create_of_lt (Nat.lt_of_lt_of_le made spares.grown),
      spares.own scope made unused]

/-- A frame may be pushed that runs in a scope that has been made since. -/
theorem pushed
    (spares : before.SparesUnused after)
    {frame : Frame}
    (isNew : before.scopes.scopes.size ≤ frame.locals)
    (made : frame.locals < after.scopes.scopes.size) :
    before.SparesUnused (after.pushed frame) where
  grown := spares.grown
  used := by
    intro scope used
    cases used with
    | running member =>
        rcases List.mem_cons.mp member with rfl | below
        · exact .inr ⟨isNew, made⟩
        · exact spares.used _ (.running below)
    | captured found captures =>
        exact spares.used _ (.captured found captures)
    | enclosing encloses => exact spares.used _ (.enclosing encloses)
  own := spares.own

end SparesUnused

end Machine

/-! ## Edits -/

namespace Heap

variable {α : Type} {heap : Heap α} {content : α}

/-- A slot that is there is an old one, or the one that was appended. -/
theorem slot?_of_append
    {index : Nat}
    {slot : Slot α}
    (found : (heap.append content).2.slot? index = some slot) :
    slot = ⟨0, false, content⟩ ∨ heap.slot? index = some slot := by
  rw [← slot?_ensureRoom]
  simp only [slot?, append, Array.getElem?_modify] at found ⊢
  split at found
  · obtain ⟨changed, inChunk, inSlot⟩ := Option.bind_eq_some_iff.mp found
    obtain ⟨chunk, wasChunk, rfl⟩ := Option.map_eq_some_iff.mp inChunk
    rw [Array.getElem?_push] at inSlot
    split at inSlot
    · exact .inl (Option.some.inj inSlot).symm
    · rw [wasChunk]
      exact .inr inSlot
  · exact .inr found

/-- An object that is there was there before, or is the one that moved in. -/
theorem get?_of_alloc
    {handle : Handle}
    {found : α}
    (has : (heap.alloc content).2.get? handle = some found) :
    found = content ∨ heap.get? handle = some found := by
  simp only [get?_eq_some_iff] at has ⊢
  rw [alloc] at has
  dsimp only at has
  split at has
  · exact (slot?_of_append has).imp_left fun isNew =>
      congrArg Slot.data isNew
  · split at has
    · rw [slot?_updateSlot] at has
      split at has
      · obtain ⟨old, -, reused⟩ := Option.map_eq_some_iff.mp has
        exact .inl (congrArg Slot.data reused).symm
      · exact .inr has
    · exact (slot?_of_append has).imp_left fun isNew =>
        congrArg Slot.data isNew

end Heap

namespace Machine

namespace SparesUnused

theorem alloc
    {machine : Machine}
    {object : ScriptObject}
    (captured : ∀ scope,
      object.captured? = some scope → machine.InUse scope) :
    machine.SparesUnused
      (remaining ((Edit.alloc object).run machine)) := by
  refine of_heap fun handle found scope has captures => ?_
  rcases Heap.get?_of_alloc has with rfl | old
  · exact captured scope captures
  · exact .captured old captures

theorem alloc_data
    {object : ScriptObject}
    (isData : object.content.IsData) :
    Respects SparesUnused (Edit.alloc object) :=
  fun machine => alloc fun scope captures => by
    rw [ScriptObject.captured?_of_isData isData] at captures
    cases captures

/-- An object may be changed if it captures nothing else. -/
theorem modify
    {machine : Machine}
    {handle : Handle}
    {change : ScriptObject → ScriptObject}
    (captured : ∀ object scope,
      machine.heap.get? handle = some object →
        (change object).captured? = some scope →
          object.captured? = some scope) :
    machine.SparesUnused
      (remaining ((Edit.modifyObject handle change).run machine)) := by
  cases found : machine.heap.get? handle with
  | none =>
      rw [Edit.modifyObject_dangling found]
      exact refl machine
  | some object =>
      rw [Edit.modifyObject_run found]
      refine of_heap fun other changed scope has captures => ?_
      rw [Heap.get?_modify] at has
      split at has
      · rename_i same
        subst same
        obtain ⟨old, was, rfl⟩ := Option.map_eq_some_iff.mp has
        exact .captured was (captured old scope was captures)
      · exact .captured has captures

theorem modifyStable : ModifyStable SparesUnused where
  refl := refl
  trans := trans
  modifyObject handle change keeps machine :=
    modify fun object scope _ captures => by
      rwa [ScriptObject.captured?, keeps] at captures

theorem createObject : Respects SparesUnused Edit.createObject :=
  .get_bind fun machine => alloc_data (by trivial) machine

theorem setContent
    {machine : Machine}
    {receiver : Value}
    {content : Content}
    (fills : machine.Fills receiver content) :
    machine.SparesUnused
      (remaining ((Edit.setContent receiver content).run machine)) := by
  unfold Edit.setContent
  split
  · rename_i handle
    refine modify fun object scope found captures => ?_
    have becomes := fills handle object rfl found
    cases was : object.content with
    | ordinary =>
        rw [was] at becomes
        have capturesNone :
            { object with content := content }.captured? = none :=
          ScriptObject.captured?_of_isData becomes
        rw [capturesNone] at captures
        cases captures
    | array elements =>
        rw [was] at becomes
        obtain ⟨others, rfl⟩ := becomes
        cases captures
    | function callable =>
        rw [was] at becomes
        obtain rfl := becomes
        rwa [ScriptObject.captured?, ScriptObject.callable?, was]
    | text _ | boolean _ | number _ | stage _ _ =>
        rw [was] at becomes
        obtain rfl := becomes
        cases captures
  · exact refl machine

theorem collectGarbage : Respects SparesUnused Edit.collectGarbage := by
  refine .get_bind fun machine => ?_
  split
  · refine of_heap fun handle object scope has captures => ?_
    have same := Heap.get?_collect (Heap.contains_of_get? has)
    exact .captured (same.symm.trans has) captures
  · exact refl machine

theorem defineInFrame
    (name : String)
    (value : Value) :
    Respects SparesUnused (Edit.defineInFrame name value) :=
  Edit.respects_ask_bind refl fun machine _ top =>
    (refl machine).define (.inl (inUse_of_currentFrame top)) name value

theorem assignInFrame
    (name : String)
    (value : Value) :
    Respects SparesUnused (Edit.assignInFrame name value) := by
  refine Edit.respects_ask_bind refl fun machine frame top => ?_
  change machine.SparesUnused
    { machine with
      scopes := (machine.scopes.assign frame.locals name value).2 }
  cases found : machine.scopes.binder? frame.locals name with
  | none =>
      rw [Scopes.assign_of_unbound found]
      exact refl machine
  | some binder =>
      rw [Scopes.assign_of_binder? found]
      have used := (inUse_of_currentFrame top).of_mem_chain
        (Scopes.mem_chain_of_binder? found)
      exact (refl machine).define (.inl used) name value

/-- Edits that are given no number of a scope spare those not in use. -/
theorem quietStable : QuietStable SparesUnused where
  refl := refl
  trans := trans
  createObject := createObject
  createInstance _ _ isData :=
    .get_bind fun machine => alloc_data isData machine
  createNative _ := .get_bind fun _ => alloc fun _ captures => nomatch captures
  setPrototype := modifyStable.setPrototype
  deleteMember := modifyStable.deleteMember
  defineProperty := modifyStable.defineProperty
  writeMember := modifyStable.writeMember
  setContent _ _ _ := setContent
  defineFunction :=
    modifyStable.defineFunction createObject fun _ _ =>
      alloc fun _ => inUse_of_head?
  pin _ _ := of_heap fun _ _ _ => .captured
  unpin handle machine := by
    refine of_heap fun other object scope has captures => ?_
    have same :
        (machine.heap.unpin handle).2.get? other = machine.heap.get? other := by
      rw [Heap.get?, Heap.slotAt?, (machine.heap.unpin_keeps handle).1]
      rfl
    exact .captured (same.symm.trans has) captures
  setThreshold _ _ :=
    of_scopes rfl (fun _ member => .running member)
      fun _ _ _ found captures => .captured found captures
  collectGarbage := collectGarbage
  setRoot _ _ := aside rfl rfl rfl
  defineInFrame := defineInFrame
  assignInFrame := assignInFrame
  nextIntervalName _ := aside rfl rfl rfl
  advanceClock _ _ := aside rfl rfl rfl
  setClock _ _ := aside rfl rfl rfl
  onScene _ _ := aside rfl rfl rfl
  addItem _ _ := aside rfl rfl rfl
  report _ _ _ := aside rfl rfl rfl
  drainLog _ := aside rfl rfl rfl

theorem editStable : EditStable SparesUnused :=
  quietStable.editStable fun _ _ => aside rfl rfl rfl

theorem frameQuiet : FrameQuiet SparesUnused where
  toQuietStable := quietStable
  onFrame := by
    refine Edit.onFrame_across refl fun _ _ _ _ top same => ?_
    refine of_frames rfl rfl fun other member => ?_
    rcases List.mem_cons.mp member with rfl | below
    · rw [same.locals]
      exact .running (top ▸ List.mem_cons_self)
    · exact .running (top ▸ List.mem_cons_of_mem _ below)

end SparesUnused

/-! ## Frames that are built -/

/--
The frame of a call is being built.  Its scope has been made since, and nothing
else has come of it.
-/
structure Prepares
    (before : Machine)
    (frame : Frame)
    (machine : Machine) :
    Prop where
  spares : before.SparesUnused machine
  isNew : before.scopes.scopes.size ≤ frame.locals
  made : frame.locals < machine.scopes.scopes.size

namespace Prepares

variable {σ : Type} {calls : Calls σ} {session : Session σ}
variable {before : Machine} {frame : Frame}

/-- Parameters are bound in the scope of the call only. -/
theorem bindParameters
    (prepares : before.Prepares frame session.machine)
    (parameters : List Parameter)
    (arguments : List Value) :
    Ends (fun bound changed => before.Prepares bound changed.machine)
      (fun changed => before.SparesUnused changed.machine)
      (Act.bindParameters frame parameters arguments calls session) := by
  induction parameters generalizing frame arguments session with
  | nil => exact prepares
  | cons parameter rest inductionHypothesis =>
      unfold Act.bindParameters
      cases claims : parameter.register? with
      | some register =>
          have asked :
              Ends (fun bound changed => before.Prepares bound changed.machine)
                (fun changed => before.SparesUnused changed.machine)
                ((Act.ask fun _ =>
                  frame.setRegister register
                    (arguments.headD .undefined) : Act σ Frame)
                  calls session) := by
            refine .ask (fun bound written => ?_) fun _ _ => prepares.spares
            have sameScope := (Frame.sameCall_setRegister written).locals
            exact ⟨prepares.spares, sameScope ▸ prepares.isNew,
              sameScope ▸ prepares.made⟩
          exact asked.bind fun bound changed prepared =>
            inductionHypothesis prepared _
      | none =>
          have defined :
              (liftM (Edit.defineVariable frame.locals parameter.name
                (arguments.headD .undefined)) : Act σ Unit) calls session =
                .ok ()
                  ⟨{ session.machine with
                      scopes :=
                        session.machine.scopes.define frame.locals
                          parameter.name (arguments.headD .undefined) },
                    session.host⟩ :=
            Act.lift_ok rfl
          dsimp only
          rw [Act.bind_ok defined, pure_bind]
          refine inductionHypothesis
            ⟨prepares.spares.define (.inr prepares.isNew) _ _,
              prepares.isNew, ?_⟩ _
          rw [Scopes.size_define]
          exact prepares.made

/-- The frame is pushed and runs in its scope. -/
theorem pushFrame (prepares : before.Prepares frame session.machine) :
    Ends (fun _ changed => before.SparesUnused changed.machine)
      (fun changed => before.SparesUnused changed.machine)
      ((liftM (Edit.pushFrame frame) : Act σ Unit) calls session) := by
  rcases pushFrame_run frame session.machine with ran | ⟨fault, refused⟩
  · exact .edit_ok ran
      (prepares.spares.pushed prepares.isNew prepares.made)
  · exact .edit_error refused prepares.spares

end Prepares

/-! ## Calls -/

namespace SparesUnused

variable {σ α β : Type} {calls : Calls σ}

/-- What was done before an act is taken into account. -/
theorem andThen
    {before : Machine}
    {session : Session σ}
    (across : before.SparesUnused session.machine)
    {act : Act σ α}
    (respected : act.Respects SparesUnused calls) :
    Ends (fun _ changed => before.SparesUnused changed.machine)
      (fun changed => before.SparesUnused changed.machine)
      (act calls session) :=
  (respected session).mono (fun _ _ => across.trans) fun _ => across.trans

/-- Opening a host entry, closing it and giving it up lead nowhere new. -/
theorem inHostEntry
    {body : Nat → Act σ Value}
    {session : Session σ}
    {before : Machine}
    (refused : ∀ log,
      before.SparesUnused { session.machine with log := log })
    (within :
      Ends (fun _ changed => before.SparesUnused changed.machine)
        (fun changed => before.SparesUnused changed.machine)
        (body session.machine.depth calls
          ⟨session.machine.entered, session.host⟩)) :
    Ends (fun _ changed => before.SparesUnused changed.machine)
      (fun changed => before.SparesUnused changed.machine)
      (Act.inHostEntry body calls session) := by
  refine within.inHostEntry refused ?_ ?_
  · exact fun value changed across => across.trans (aside rfl rfl rfl)
  · intro changed across
    refine across.trans (of_frames rfl rfl fun frame member => ?_)
    exact .running (List.mem_of_mem_drop member)

theorem takeHostResult : Respects SparesUnused Edit.takeHostResult := by
  refine .get_bind fun machine => ?_
  split
  · exact aside rfl rfl rfl
  · exact refl machine

theorem returnFromFrame (value : Value) :
    Respects SparesUnused (Edit.returnFromFrame value) := by
  refine .get_bind fun machine => ?_
  split
  · exact refl machine
  · rename_i frame callers frames
    have below (caller : Frame) (member : caller ∈ callers) :
        machine.InUse caller.locals :=
      .running (frames ▸ List.mem_cons_of_mem _ member)
    split
    · exact of_frames rfl rfl below
    · split
      · exact of_frames rfl rfl fun _ member =>
          absurd member List.not_mem_nil
      · rename_i caller rest _
        refine of_frames rfl rfl fun other member => ?_
        rcases List.mem_cons.mp member with rfl | further
        · exact below caller List.mem_cons_self
        · exact below other (List.mem_cons_of_mem _ further)

theorem finishEntry
    (respected : calls.Respect SparesUnused)
    (base : Nat) :
    (Act.finishEntry base).Respects SparesUnused calls :=
  Act.respects_bind trans (respected.runAbove base) fun _ =>
    Act.respects_lift takeHostResult calls

theorem call
    (respected : calls.Respect SparesUnused)
    (function receiver : Value)
    (arguments : List Value) :
    (Act.call function receiver arguments).Respects SparesUnused calls := by
  have within (base : Nat) :
      (Act.callWithin function receiver arguments base).Respects
        SparesUnused calls := by
    refine Act.respects_bind trans (respected.invoke _ _ _) ?_
    intro invocation
    cases invocation with
    | complete value => exact fun session => refl session.machine
    | pending => exact finishEntry respected base
  intro session
  rw [Act.call_eq]
  have opened : session.machine.SparesUnused session.machine.entered :=
    aside rfl rfl rfl
  exact inHostEntry (fun _ => aside rfl rfl rfl)
    (opened.andThen (within session.machine.depth))

/-- A script gets a new scope inside of none, and its frame runs there. -/
theorem executeScript
    (respected : calls.Respect SparesUnused)
    (code : Array UInt8)
    (constants : Array Value)
    (target : Handle) :
    (Act.executeScript code constants target).Respects SparesUnused
      calls := by
  rw [Act.executeScript_eq]
  refine Act.respects_bind trans ?_ fun _ session => ?_
  · exact Act.respects_bind trans
      (Act.respects_lift (quietStable.ask _) calls) fun _ session =>
        refl session.machine
  · let opened : Machine :=
      { session.machine with
        scopes := (session.machine.scopes.create none).2 }
    have across : session.machine.SparesUnused opened :=
      (refl session.machine).create nofun
    have entered : session.machine.SparesUnused opened.entered :=
      across.trans (aside rfl rfl rfl)
    have created :
        (liftM (Edit.createScope none) : Act σ ScopeId) calls session =
          .ok session.machine.scopes.scopes.size ⟨opened, session.host⟩ :=
      Act.lift_ok rfl
    have made :
        session.machine.scopes.scopes.size < opened.scopes.scopes.size := by
      rw [Scopes.size_create]
      exact Nat.lt_succ_self _
    rw [Act.bind_ok created]
    refine inHostEntry (fun _ => across.trans (aside rfl rfl rfl)) ?_
    have prepares :
        session.machine.Prepares
          (Act.scriptFrame code constants target
            session.machine.scopes.scopes.size)
          (Session.mk opened.entered session.host).machine :=
      ⟨entered, Nat.le_refl _, made⟩
    exact prepares.pushFrame.bind fun _ changed running =>
      running.andThen (finishEntry respected _)

/-- What acts do that are put together from all this. -/
theorem timed (respected : calls.Respect SparesUnused) :
    TimedCongruence (σ := σ) (τ := σ) SparesUnused
      (fun act _ => act.Respects SparesUnused calls) where
  toFrameQuiet := frameQuiet
  lift kept := Act.respects_lift kept calls
  pure _ session := refl session.machine
  fail _ session := refl session.machine
  bind first second := Act.respects_bind trans first second
  call := call respected
  executeScript := executeScript respected
  exportBelow := respected.exportBelow
  createInterval := editStable.createInterval
  clearInterval := editStable.clearInterval
  beginFiring := editStable.beginFiring
  attempt := Act.respects_attempt

theorem calling (respected : calls.Respect SparesUnused) :
    CallCongruence (σ := σ) (τ := σ) SparesUnused
      (fun act _ => act.Respects SparesUnused calls)
      (fun act _ => act.Respects SparesUnused calls) where
  toActCongruence := (timed respected).toActCongruence
  complete _ session := refl session.machine
  refuse _ session := refl session.machine
  andThen first second := Act.respects_bind trans first second
  invoke := respected.invoke

end SparesUnused

namespace Prepares

variable {σ : Type} {calls : Calls σ} {session : Session σ}
variable {before : Machine} {frame : Frame}

/-- What runs while values are looked up does not come to the scope. -/
theorem preloadValues
    (prepares : before.Prepares frame session.machine)
    (respected : calls.Respect SparesUnused)
    (wanted : List (Preload × Nat)) :
    Ends (fun loaded changed => before.Prepares loaded changed.machine)
      (fun changed => before.SparesUnused changed.machine)
      (Act.preloadValues frame wanted calls session) := by
  have across :=
    (SparesUnused.timed respected).preloadValues frame wanted session
  have starts : Act.HasScope frame.locals frame := rfl
  have sameScope := Act.preloadValues_hasScope starts wanted calls session
  refine (across.and sameScope).mono ?_ ?_
  · rintro loaded changed ⟨spares, same⟩
    refine ⟨prepares.spares.trans spares, ?_, ?_⟩
    · exact same ▸ prepares.isNew
    · exact same ▸ Nat.lt_of_lt_of_le prepares.made spares.grown
  · exact fun changed ⟨spares, _⟩ => prepares.spares.trans spares

/-- The scope of a call is a new one inside of that which was captured. -/
theorem buildFrame
    (respected : calls.Respect SparesUnused)
    {closure : Closure}
    (captured : ∀ scope,
      closure.scope = some scope → session.machine.InUse scope)
    (callee : Handle)
    (receiver : Value)
    (arguments : List Value) :
    Ends
      (fun frame changed => session.machine.Prepares frame changed.machine)
      (fun changed => session.machine.SparesUnused changed.machine)
      (Act.buildFrame closure callee receiver arguments calls session) := by
  have created :
      (liftM (Edit.createScope closure.scope) : Act σ ScopeId) calls
          session =
        .ok session.machine.scopes.scopes.size
          ⟨{ session.machine with
              scopes := (session.machine.scopes.create closure.scope).2 },
            session.host⟩ :=
    Act.lift_ok rfl
  have across := (SparesUnused.refl session.machine).create captured
  unfold Act.buildFrame
  dsimp only
  rw [Act.bind_ok created]
  refine (bindParameters ⟨across, Nat.le_refl _, ?_⟩ _ _).bind ?_
  · rw [Scopes.size_create]
    exact Nat.lt_succ_self _
  · intro bound changed prepares
    have preloading :
        session.machine.Prepares { bound with state := .preloading }
          changed.machine :=
      ⟨prepares.spares, prepares.isNew, prepares.made⟩
    split
    · exact preloading.preloadValues respected _
    · exact prepares

end Prepares

namespace SparesUnused

variable {σ β : Type} {calls : Calls σ}

theorem startCall
    (respected : calls.Respect SparesUnused)
    (host : Host σ)
    (native : ∀ number receiver arguments,
      (host.native number receiver arguments).run.Respects SparesUnused
        calls)
    (function receiver : Value)
    (arguments : List Value) :
    (host.startCall function receiver arguments).Respects SparesUnused
      calls := by
  intro session
  have asked :
      Ends
        (fun found changed =>
          session = changed ∧
            session.machine.toFunction function = .ok found)
        (fun changed => session.machine.SparesUnused changed.machine)
        ((Act.ask (·.toFunction function) : Act σ (Handle × Callable))
          calls session) :=
    .ask (fun _ found => ⟨rfl, found⟩) fun _ _ => refl session.machine
  refine asked.bind ?_
  rintro ⟨callee, callable⟩ _ ⟨rfl, found⟩
  dsimp only
  split
  · exact (calling respected).timedBuiltin (timed respected) _ _ _ _
  · exact native _ _ _ _
  · rename_i closure
    obtain ⟨-, object, has, content⟩ :=
      Machine.toFunction_eq_ok_iff.mp found
    have captured (scope : ScopeId) (captures : closure.scope = some scope) :
        session.machine.InUse scope := by
      refine .captured has ?_
      rw [ScriptObject.captured?, ScriptObject.callable?, content]
      exact captures
    refine (Prepares.buildFrame respected captured _ _ _).bind ?_
    intro frame changed prepares
    exact prepares.pushFrame.bind fun _ _ across => across

end SparesUnused

end Machine

end MovieScript
