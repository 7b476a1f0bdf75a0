import MovieScript.Proofs.NewMachine
import MovieScript.Proofs.UnusedScopes

namespace MovieScript

/-!
# Hosts that name no scopes

The code of a host may ask for scopes and frames, and then it has to say which
ones.  A host that never does leaves every scope alone that is not in use.  Such
a host, started on a new machine, never comes to use a scope that does not
exist, and nothing that runs while the frame of a call is built gets at the
variables of the call.
-/

/-- The request neither names a scope nor brings one along. -/
def Request.NamesNoScope {β : Type} : Request β → Prop
  | .alloc object => object.captured? = none
  | .createScope outer => outer = none
  | .pushFrame _ => False
  | _ => True

/--
The code of the host names no scope.  The scopes it works with are those of the
frames that run, and those that come with the functions it calls or defines.
-/
structure Host.NamesNoScope {σ : Type} (host : Host σ) : Prop where
  native : ∀ number receiver arguments,
    (host.native number receiver arguments).Every Request.NamesNoScope
  dispatcher : ∀ instruction,
    host.dispatcher = some instruction →
      instruction.Every Request.NamesNoScope

namespace Machine.SparesUnused

variable {σ α β : Type} {calls : Calls σ}

theorem unload : Respects SparesUnused Edit.unload := by
  intro machine
  rw [Edit.unload_run]
  refine of_scopes rfl (fun _ member => absurd member List.not_mem_nil)
    fun handle object scope found captures => ?_
  have same := Heap.get?_collect (Heap.contains_of_get? found)
  exact .captured (same.symm.trans found) captures

theorem opens
    {wanted : Request β}
    (namesNone : wanted.NamesNoScope) :
    wanted.Opens SparesUnused := by
  cases wanted with
  | alloc object =>
      refine fun machine => alloc fun scope captures => ?_
      rw [show object.captured? = none from namesNone] at captures
      cases captures
  | createObjectWith prototype => exact alloc_data (by trivial)
  | registerMethod target name function =>
      exact fun method => modifyStable.modifyObject _ _ fun _ => rfl
  | construct constructor arguments
  | constructClass className arguments =>
      exact fun object ordinary => alloc_data (by rw [ordinary]; trivial)
  | createScope outer =>
      obtain rfl : outer = none := namesNone
      exact fun machine => (refl machine).create nofun
  | _ => trivial

/-- A call that is started from the top frame leaves its result there. -/
theorem callFromFrame
    (respected : calls.Respect SparesUnused)
    (function receiver : Value)
    (arguments : List Value) :
    (Act.callFromFrame function receiver arguments).Respects SparesUnused
      calls := by
  refine Act.respects_bind trans (respected.invoke _ _ _) ?_
  intro invocation
  cases invocation with
  | complete value =>
      exact Act.respects_lift (frameQuiet.pushOperand value) calls
  | pending => exact fun session => refl session.machine

theorem request
    (respected : calls.Respect SparesUnused)
    (wanted : Request β)
    (namesNone : wanted.NamesNoScope) :
    wanted.perform.Respects SparesUnused calls := by
  cases use : wanted.frameUse with
  | apart =>
      exact (timed respected).request wanted (.inl use) (opens namesNone)
  | within =>
      exact (timed respected).request wanted (.inr use) (opens namesNone)
  | pushes =>
      cases wanted with
      | invoke function receiver arguments => exact respected.invoke _ _ _
      | callFromFrame function receiver arguments =>
          exact callFromFrame respected _ _ _
      | callMethodFromFrame target name arguments =>
          exact Act.respects_bind trans
            ((timed respected).methodOf target name) fun method =>
              callFromFrame respected method target arguments
      | pushFrame frame => exact namesNone.elim
      | _ => cases use
  | pops =>
      cases wanted with
      | returnFromFrame value =>
          exact Act.respects_lift (returnFromFrame value) calls
      | _ => cases use
  | runs =>
      cases wanted with
      | runAbove depth => exact respected.runAbove depth
      | _ => cases use
  | unloads =>
      cases wanted with
      | unload => exact Act.respects_lift unload calls
      | _ => cases use

theorem program
    (respected : calls.Respect SparesUnused)
    {program : Program σ α}
    (namesNone : program.Every Request.NamesNoScope) :
    program.run.Respects SparesUnused calls :=
  namesNone.respects refl trans (request respected)

/-- Calls with a host that names no scope spare those that are not in use. -/
theorem callsOf
    {host : Host σ}
    (namesNone : host.NamesNoScope)
    (fuel : Nat) :
    (host.calls fuel).Respect SparesUnused := by
  induction fuel with
  | zero =>
      exact ⟨fun _ _ _ _ => trivial, fun _ _ => trivial,
        fun _ _ _ => trivial⟩
  | succ fuel respected =>
      refine ⟨?_, ?_, ?_⟩
      · exact startCall respected host fun number receiver arguments =>
          program respected (namesNone.native number receiver arguments)
      · exact host.runAbove_respects refl trans fun instruction installed =>
          program respected (namesNone.dispatcher instruction installed)
      · exact (timed respected).exportLevel

end Machine.SparesUnused

/-! ## New machines -/

namespace Machine

namespace SparesUnused

theorem installStable : InstallStable SparesUnused where
  refl := refl
  trans := trans
  createBuiltin _ _ := quietStable.createNative _
  defineProperty := quietStable.defineProperty

theorem installClass
    (base : Handle)
    (table : ClassTable) :
    Respects SparesUnused (Edit.installClass base table) := by
  have prototype :
      Respects SparesUnused (Edit.classPrototype table base) := by
    refine .get_bind fun machine => ?_
    split
    · exact refl machine
    · exact alloc_data (by trivial) machine
  refine .bind trans prototype fun _ => ?_
  refine .bind trans (installStable.createBuiltin _ _) fun _ => ?_
  refine .bind trans (installStable.install _ _ _) fun _ => ?_
  refine .bind trans (installStable.install _ _ _) fun _ => ?_
  refine .bind trans (installStable.installMembers _ _) fun _ => ?_
  refine .bind trans (installStable.installMembers _ _) fun _ => ?_
  refine .bind trans (fun _ => aside rfl rfl rfl) fun _ => ?_
  exact .get_bind fun machine => installStable.install _ _ _ machine

theorem bootstrap : Respects SparesUnused Edit.bootstrap := by
  have classes (base : Handle) (tables : List ClassTable) :
      Respects SparesUnused (tables.forM (Edit.installClass base)) := by
    induction tables with
    | nil => exact .pure refl _
    | cons table rest inductionHypothesis =>
        exact .bind trans (installClass base table) fun _ =>
          inductionHypothesis
  refine .bind trans (alloc_data (by trivial)) fun base => ?_
  refine .bind trans (alloc_data (by trivial)) fun _ => ?_
  refine .bind trans (fun _ => aside rfl rfl rfl) fun _ => ?_
  refine .bind trans (classes base _) fun _ => ?_
  refine .get_bind fun seen => ?_
  have inherits (handle : Handle) :=
    modifyStable.modifyObject handle
      (fun object => { object with prototype := some base }) fun _ => rfl
  exact Respects.bind trans (inherits seen.global) (fun _ =>
    .bind trans (inherits seen.external) fun _ =>
      installStable.installMembers seen.global _) seen

end SparesUnused

variable (configuration : Configuration) (clock : Nat)

/-- No scope has been made, and nothing leads to one. -/
theorem scopesKnown_bare : (bare configuration clock).ScopesKnown := by
  intro scope used
  cases used with
  | running member => cases member
  | captured found captures =>
      rw [blank_of_bare configuration clock found] at captures
      cases captures
  | enclosing encloses => cases encloses

theorem scopesKnown_fresh (loader : Option DocumentLoader) :
    (fresh configuration clock loader).ScopesKnown := by
  have known := scopesKnown_bare configuration clock
  unfold fresh create
  generalize bare configuration clock = start at known ⊢
  have built := SparesUnused.bootstrap start
  split
  · rename_i ran
    rw [EStateM.run, ran] at built
    refine SparesUnused.scopesKnown (built.trans ?_) known
    exact .aside rfl rfl rfl
  · rename_i ran
    rw [EStateM.run, ran] at built
    refine SparesUnused.scopesKnown (built.trans ?_) known
    exact .aside rfl rfl rfl

end Machine

/-- On a new machine such a host only ever uses scopes that have been made. -/
theorem Host.NamesNoScope.scopesKnown
    {σ α : Type}
    {host : Host σ}
    (namesNone : host.NamesNoScope)
    {program : Program σ α}
    (every : program.Every Request.NamesNoScope)
    (configuration : Configuration)
    (clock : Nat)
    (loader : Option DocumentLoader)
    (start : σ)
    (fuel : Nat) :
    Ends (fun _ changed => changed.machine.ScopesKnown)
      (fun changed => changed.machine.ScopesKnown)
      (host.perform fuel program
        ⟨.fresh configuration clock loader, start⟩) := by
  have known := Machine.scopesKnown_fresh configuration clock loader
  have spares :=
    Machine.SparesUnused.program
      (Machine.SparesUnused.callsOf namesNone fuel) every
      ⟨.fresh configuration clock loader, start⟩
  exact spares.mono (fun _ _ across => across.scopesKnown known)
    fun _ across => across.scopesKnown known

/-! ## The scope of a call -/

namespace Act

variable {σ : Type} {calls : Calls σ} {session : Session σ}

theorem lookUp_respects
    (respected : calls.Respect Machine.SparesUnused)
    (receiver : Value)
    (arguments : List Value)
    (kind : Preload) :
    (lookUp receiver arguments kind).Respects Machine.SparesUnused calls := by
  have both := Machine.SparesUnused.timed respected
  cases kind with
  | receiver => exact both.pure _
  | arguments =>
      exact respects_bind both.trans (both.lift (both.createArray _))
        fun _ => both.pure _
  | ancestor => exact both.ask _
  | root | global | external =>
      exact respects_bind both.trans (both.inspect _) fun _ => both.pure _
  | parent =>
      unfold lookUp
      cases receiver.handle? with
      | none => exact both.pure _
      | some handle => exact both.getMember _ _

/--
What runs when the parent of the receiver is read leaves the variables of every
scope alone that is not in use.
-/
theorem parentSpares
    (respected : calls.Respect Machine.SparesUnused)
    {scope : ScopeId}
    (made : scope < session.machine.scopes.scopes.size)
    (unused : ¬session.machine.InUse scope)
    (definition : Definition)
    (receiver : Value)
    (arguments : List Value) :
    ParentSpares calls definition receiver arguments scope session := by
  rintro handle values before parent after - - front read
  have earlier : session.machine.SparesUnused before.machine := by
    refine (mapM_eq_ok
      (fun before after =>
        before.machine.SparesUnused after.machine)
      (fun session => .refl session.machine)
      (fun first second => first.trans second) ?_ front).2
    intro kind _ session value changed found
    exact (lookUp_respects respected receiver arguments kind session).of_ok
      found
  have across : before.machine.SparesUnused after.machine :=
    ((Machine.SparesUnused.timed respected).getMember handle "_parent"
      before).of_ok read
  exact across.own scope (Nat.lt_of_lt_of_le made earlier.grown)
    (earlier.unused made unused)

end Act

end MovieScript
