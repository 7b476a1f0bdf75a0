import Mathlib.Data.List.Infix
import Mathlib.Data.Set.Finite.Lattice
import Mathlib.Data.Set.Finite.List
import Mathlib.Order.Preorder.Finite
import MovieScript.Classes.Bootstrap
import MovieScript.Proofs.HeapRun
import MovieScript.Proofs.HostEntries

namespace MovieScript

/-!
# Calls that are passed on

The methods `call` and `apply` of functions do nothing but start another call.
They open no host entry, so no configured depth bounds a chain of them.  The
calls of a chain are made of what the first call was given and of what argument
lists hold, which is finite: a chain ends, or it comes back to a call that it
has made before and goes round for ever.  It ends if no argument list contains
itself.
-/

/-- A call that is about to be started. -/
structure UpcomingCall where
  function : Value
  receiver : Value
  arguments : List Value

namespace UpcomingCall

variable {σ : Type}

/-- Start the call. -/
def start (call : UpcomingCall) : Act σ Invocation :=
  Act.invoke call.function call.receiver call.arguments

end UpcomingCall

namespace Machine

/-- What a member holds, if no function has to run to tell. -/
def heldMember?
    (machine : Machine)
    (handle : Handle)
    (name : String) :
    Option Value :=
  match machine.resolve handle name with
  | .ok (.value value) => some value
  | .ok .missing => some .undefined
  | _ => none

/-- The arguments that a value lists, if no function has to run to tell. -/
def argumentList?
    (machine : Machine) :
    Value → Option (List Value)
  | .undefined => some []
  | .null => some []
  | .object handle =>
      (machine.heap.get? handle).bind fun object =>
        match object.elements? with
        | some elements => some elements.toList
        | none =>
            (machine.heldMember? handle "length").bind fun length =>
              if length.isNumber then
                (List.range length.toInteger.toInt.toNat).mapM
                  fun index =>
                    machine.heldMember? handle (elementName index)
              else
                none
  | _ => none

/--
The call that a call of `call` or `apply` consists in.  There is none for other
functions, for values that are no functions and for an argument list that is
refused or has to be asked of an accessor.
-/
def passedOn?
    (machine : Machine)
    (call : UpcomingCall) :
    Option UpcomingCall :=
  match machine.toFunction call.function with
  | .ok (_, .native ⟨_, .builtin .functionCall⟩) =>
      some ⟨call.receiver, argument call.arguments 0,
        call.arguments.drop 1⟩
  | .ok (_, .native ⟨_, .builtin .functionApply⟩) =>
      (machine.argumentList? (argument call.arguments 1)).map
        fun items => ⟨call.receiver, argument call.arguments 0, items⟩
  | _ => none

/-- The call that a call has become after it was passed on so many times. -/
def passedOn
    (machine : Machine) :
    Nat → UpcomingCall → Option UpcomingCall
  | 0, call => some call
  | hops + 1, call =>
      (machine.passedOn? call).bind (machine.passedOn hops)

/-- The first value is one of the arguments that the second one lists. -/
def ListedBy
    (machine : Machine)
    (item list : Value) :
    Prop :=
  ∃ items, machine.argumentList? list = some items ∧ item ∈ items

variable {machine : Machine} {call next : UpcomingCall}

/-- The two ways in which a call is passed on. -/
theorem passedOn?_cases
    (passed : machine.passedOn? call = some next) :
    (∃ callee name,
      machine.toFunction call.function =
          .ok (callee, .native ⟨name, .builtin .functionCall⟩) ∧
        next =
          ⟨call.receiver, argument call.arguments 0,
            call.arguments.drop 1⟩) ∨
      ∃ callee name items,
        machine.toFunction call.function =
            .ok (callee, .native ⟨name, .builtin .functionApply⟩) ∧
          machine.argumentList? (argument call.arguments 1) =
              some items ∧
            next =
              ⟨call.receiver, argument call.arguments 0, items⟩ := by
  unfold passedOn? at passed
  split at passed
  · rename_i callee name found
    exact .inl ⟨callee, name, found, (Option.some.inj passed).symm⟩
  · rename_i callee name found
    obtain ⟨items, listed, same⟩ := Option.map_eq_some_iff.mp passed
    exact .inr ⟨callee, name, items, found, listed, same.symm⟩
  · cases passed

theorem acc_listedBy
    {list : Value}
    (grounded : ∀ items,
      machine.argumentList? list = some items →
        ∀ item ∈ items, Acc machine.ListedBy item) :
    Acc machine.ListedBy list :=
  ⟨list, fun item ⟨items, listed, member⟩ =>
    grounded items listed item member⟩

end Machine

/-! What is read without running a function is what the acts read. -/

section Reading

variable {σ : Type} {calls : Calls σ} {session : Session σ}

theorem Act.getMember_held
    {handle : Handle}
    {name : String}
    {value : Value}
    (held : session.machine.heldMember? handle name = some value) :
    Act.getMember handle name calls session = .ok value session := by
  unfold Machine.heldMember? at held
  unfold Act.getMember
  split at held
  · rename_i resolved
    obtain rfl := Option.some.inj held
    rw [Act.bind_ok (Act.ask_ok resolved)]
    rfl
  · rename_i resolved
    obtain rfl := Option.some.inj held
    rw [Act.bind_ok (Act.ask_ok resolved)]
    rfl
  · cases held

theorem Act.mapM_getMember_held
    {handle : Handle}
    (indices : List Nat)
    {items : List Value}
    (held :
      (indices.mapM fun index =>
        session.machine.heldMember? handle (elementName index)) =
          some items) :
    (indices.mapM fun index =>
      (Act.getMember handle (elementName index) : Act σ Value))
        calls session = .ok items session := by
  induction indices generalizing items with
  | nil =>
      obtain rfl := Option.some.inj held
      rfl
  | cons index rest inductionHypothesis =>
      rw [List.mapM_cons] at held
      obtain ⟨first, firstHeld, others⟩ := Option.bind_eq_some_iff.mp held
      obtain ⟨remaining, restHeld, same⟩ :=
        Option.bind_eq_some_iff.mp others
      obtain rfl := Option.some.inj same
      rw [List.mapM_cons, Act.bind_ok (Act.getMember_held firstHeld),
        Act.bind_ok (inductionHypothesis restHeld)]
      rfl

theorem FunctionClass.spread_listed
    {list : Value}
    {items : List Value}
    (listed : session.machine.argumentList? list = some items) :
    FunctionClass.spread list calls session = .ok items session := by
  cases list with
  | undefined =>
      obtain rfl := Option.some.inj listed
      rfl
  | null =>
      obtain rfl := Option.some.inj listed
      rfl
  | object handle =>
      obtain ⟨object, live, content⟩ := Option.bind_eq_some_iff.mp listed
      have resolved : session.machine.object handle = .ok object := by
        unfold Machine.object
        rw [live]
      unfold FunctionClass.spread
      dsimp only
      rw [Act.bind_ok (Act.ask_ok resolved)]
      split at content
      · rename_i elements isArray
        obtain rfl := Option.some.inj content
        rw [isArray]
        rfl
      · rename_i notArray
        obtain ⟨length, lengthHeld, elements⟩ :=
          Option.bind_eq_some_iff.mp content
        rw [notArray]
        refine (Act.bind_ok (Act.getMember_held lengthHeld) _).trans ?_
        split at elements
        · rename_i counts
          rw [if_pos counts]
          exact Act.mapM_getMember_held _ elements
        · cases elements
  | boolean flag => cases listed
  | integer number => cases listed
  | float number => cases listed
  | text content => cases listed

end Reading

namespace Host

variable {σ : Type}

/-- A call that is passed on opens nothing and changes nothing on its way. -/
theorem start_passedOn?
    (host : Host σ)
    (fuel : Nat)
    (session : Session σ)
    {call next : UpcomingCall}
    (passed : session.machine.passedOn? call = some next) :
    call.start (host.calls (fuel + 1)) session =
      next.start (host.calls fuel) session := by
  change host.startCall call.function call.receiver call.arguments
    (host.calls fuel) session = _
  unfold startCall
  rcases Machine.passedOn?_cases passed with
    ⟨callee, name, found, rfl⟩ | ⟨callee, name, items, found, listed, rfl⟩
  · rw [Act.bind_ok (Act.ask_ok found)]
    rfl
  · rw [Act.bind_ok (Act.ask_ok found)]
    change FunctionClass.apply call.receiver call.arguments
      (host.calls fuel) session = _
    unfold FunctionClass.apply
    rw [Act.bind_ok (FunctionClass.spread_listed listed)]
    rfl

theorem start_passedOn
    (host : Host σ)
    (fuel hops : Nat)
    (session : Session σ)
    {call last : UpcomingCall}
    (passed : session.machine.passedOn hops call = some last) :
    call.start (host.calls (fuel + hops)) session =
      last.start (host.calls fuel) session := by
  induction hops generalizing call with
  | zero =>
      obtain rfl := Option.some.inj passed
      rfl
  | succ hops inductionHypothesis =>
      obtain ⟨next, first, others⟩ := Option.bind_eq_some_iff.mp passed
      exact (host.start_passedOn? (fuel + hops) session first).trans
        (inductionHypothesis others)

end Host

/-! A chain of calls is made of finitely many values and argument lists. -/

namespace Machine

variable {machine : Machine} {first call next : UpcomingCall}

/--
The argument lists of a chain: the first one and those that values list, less
some of the items in front.
-/
def chainArguments
    (machine : Machine)
    (first : UpcomingCall) :
    Set (List Value) :=
  {items | items <:+ first.arguments} ∪
    ⋃ whole ∈ {whole | ∃ list, machine.argumentList? list = some whole},
      {items | items <:+ whole}

/-- The functions and receivers of a chain. -/
def chainValues
    (machine : Machine)
    (first : UpcomingCall) :
    Set Value :=
  {first.function, first.receiver} ∪
    (argument · 0) '' machine.chainArguments first

/-- The calls of a chain. -/
def chainCalls
    (machine : Machine)
    (first : UpcomingCall) :
    Set UpcomingCall :=
  {call |
    call.function ∈ machine.chainValues first ∧
      call.receiver ∈ machine.chainValues first ∧
        call.arguments ∈ machine.chainArguments first}

theorem finite_suffixes (items : List Value) :
    {suffix | suffix <:+ items}.Finite := by
  have tails :
      {suffix | suffix <:+ items} = {suffix | suffix ∈ items.tails} := by
    ext suffix
    exact (List.mem_tails suffix items).symm
  rw [tails]
  exact List.finite_toSet items.tails

theorem finite_argumentLists (machine : Machine) :
    {whole | ∃ list, machine.argumentList? list = some whole}.Finite := by
  refine ((Set.finite_range fun handle =>
    (machine.argumentList? (.object handle)).getD []).insert []).subset ?_
  rintro whole ⟨list, listed⟩
  cases list with
  | undefined => exact .inl (Option.some.inj listed).symm
  | null => exact .inl (Option.some.inj listed).symm
  | object handle =>
      refine .inr ⟨handle, ?_⟩
      dsimp only
      rw [listed]
      rfl
  | boolean flag => cases listed
  | integer number => cases listed
  | float number => cases listed
  | text content => cases listed

theorem finite_chainArguments
    (machine : Machine)
    (first : UpcomingCall) :
    (machine.chainArguments first).Finite :=
  (finite_suffixes first.arguments).union
    (machine.finite_argumentLists.biUnion fun whole _ =>
      finite_suffixes whole)

theorem finite_chainCalls
    (machine : Machine)
    (first : UpcomingCall) :
    (machine.chainCalls first).Finite := by
  have arguments := machine.finite_chainArguments first
  have values : (machine.chainValues first).Finite :=
    (Set.toFinite _).union (arguments.image _)
  refine ((values.prod (values.prod arguments)).image
    fun parts =>
      UpcomingCall.mk parts.1 parts.2.1 parts.2.2).subset ?_
  intro call member
  exact ⟨(call.function, call.receiver, call.arguments), member, rfl⟩

theorem suffix_mem_chainArguments
    {items suffix : List Value}
    (member : items ∈ machine.chainArguments first)
    (isSuffix : suffix <:+ items) :
    suffix ∈ machine.chainArguments first := by
  rcases member with given | listed
  · exact .inl (isSuffix.trans given)
  · obtain ⟨whole, isList, within⟩ := Set.mem_iUnion₂.mp listed
    exact .inr (Set.mem_iUnion₂.mpr ⟨whole, isList, isSuffix.trans within⟩)

theorem listed_mem_chainArguments
    {list : Value}
    {items : List Value}
    (listed : machine.argumentList? list = some items) :
    items ∈ machine.chainArguments first :=
  .inr (Set.mem_iUnion₂.mpr ⟨items, ⟨list, listed⟩, List.suffix_refl items⟩)

/-- Passing a call on stays within the calls of the chain. -/
theorem passedOn?_mem_chainCalls
    (member : call ∈ machine.chainCalls first)
    (passed : machine.passedOn? call = some next) :
    next ∈ machine.chainCalls first := by
  obtain ⟨_, receiver, arguments⟩ := member
  have firstArgument :
      argument call.arguments 0 ∈ machine.chainValues first :=
    .inr ⟨call.arguments, arguments, rfl⟩
  rcases passedOn?_cases passed with
    ⟨_, _, _, rfl⟩ | ⟨_, _, items, _, listed, rfl⟩
  · exact ⟨receiver, firstArgument,
      suffix_mem_chainArguments arguments (List.drop_suffix 1 _)⟩
  · exact ⟨receiver, firstArgument, listed_mem_chainArguments listed⟩

theorem passedOn_mem_chainCalls
    {hops : Nat}
    (member : call ∈ machine.chainCalls first)
    (passed : machine.passedOn hops call = some next) :
    next ∈ machine.chainCalls first := by
  induction hops generalizing call with
  | zero =>
      obtain rfl := Option.some.inj passed
      exact member
  | succ hops inductionHypothesis =>
      obtain ⟨between, hop, others⟩ := Option.bind_eq_some_iff.mp passed
      exact inductionHypothesis (passedOn?_mem_chainCalls member hop) others

theorem mem_chainCalls_self : first ∈ machine.chainCalls first :=
  ⟨.inl (.inl rfl), .inl (.inr rfl), .inl (List.suffix_refl _)⟩

theorem passedOn_succ
    (hops : Nat)
    (call : UpcomingCall) :
    machine.passedOn (hops + 1) call =
      (machine.passedOn hops call).bind machine.passedOn? := by
  induction hops generalizing call with
  | zero => simp [passedOn]
  | succ hops inductionHypothesis =>
      rw [passedOn]
      conv_rhs => rw [passedOn]
      rw [Option.bind_assoc]
      exact congrArg _ (funext inductionHypothesis)

/-- The call is passed on until it is one that is not. -/
def Settles
    (machine : Machine)
    (call : UpcomingCall) :
    Prop :=
  ∃ hops last,
    machine.passedOn hops call = some last ∧
      machine.passedOn? last = none

theorem isSome_passedOn
    (endless : ¬machine.Settles call)
    (hops : Nat) :
    (machine.passedOn hops call).isSome := by
  induction hops with
  | zero => rfl
  | succ hops inductionHypothesis =>
      obtain ⟨last, passed⟩ := Option.isSome_iff_exists.mp inductionHypothesis
      rw [passedOn_succ, passed]
      cases hop : machine.passedOn? last with
      | none => exact absurd ⟨hops, last, passed, hop⟩ endless
      | some next =>
          dsimp only [Option.bind]
          rw [hop]
          rfl

/-- A chain that does not end makes some call twice. -/
theorem passedOn_recurs
    (endless : ¬machine.Settles call) :
    ∃ earlier later again,
      earlier < later ∧
        machine.passedOn earlier call = some again ∧
          machine.passedOn later call = some again := by
  let chain (hops : Nat) : UpcomingCall :=
    (machine.passedOn hops call).get (isSome_passedOn endless hops)
  have reached (hops : Nat) :
      machine.passedOn hops call = some (chain hops) :=
    (Option.some_get _).symm
  obtain ⟨earlier, later, before, same⟩ :=
    (machine.finite_chainCalls call).exists_lt_map_eq_of_forall_mem
      fun hops =>
        passedOn_mem_chainCalls mem_chainCalls_self (reached hops)
  exact ⟨earlier, later, chain earlier, before, reached earlier,
    same ▸ reached later⟩

/-! A chain ends unless an argument list contains itself. -/

theorem Settles.of_passedOn?
    (settles : ∀ next,
      machine.passedOn? call = some next → machine.Settles next) :
    machine.Settles call := by
  cases hop : machine.passedOn? call with
  | none => exact ⟨0, call, rfl, hop⟩
  | some next =>
      obtain ⟨hops, last, passed, arrived⟩ := settles next hop
      refine ⟨hops + 1, last, ?_, arrived⟩
      rw [passedOn, hop]
      exact passed

theorem passedOn?_nil
    {function receiver : Value}
    (passed : machine.passedOn? ⟨function, receiver, []⟩ = some next) :
    next = ⟨receiver, .undefined, []⟩ := by
  rcases passedOn?_cases passed with
    ⟨_, _, _, rfl⟩ | ⟨_, _, items, _, listed, rfl⟩
  · rfl
  · obtain rfl := Option.some.inj listed
    rfl

/-- Without arguments the receiver is called, and then nothing is left. -/
theorem settles_nil
    (function receiver : Value) :
    machine.Settles ⟨function, receiver, []⟩ := by
  refine .of_passedOn? fun called hop => ?_
  obtain rfl := passedOn?_nil hop
  refine .of_passedOn? fun nothing hop => ?_
  obtain rfl := passedOn?_nil hop
  exact ⟨0, _, rfl, rfl⟩

/-- Every call with the arguments that the value lists settles. -/
def SettlesListed
    (machine : Machine)
    (list : Value) :
    Prop :=
  ∀ items,
    machine.argumentList? list = some items →
      ∀ function receiver, machine.Settles ⟨function, receiver, items⟩

theorem settlesListed_undefined :
    machine.SettlesListed .undefined := by
  intro items listed function receiver
  obtain rfl := Option.some.inj listed
  exact settles_nil function receiver

/--
The induction is on the arguments, which `call` makes fewer.  What `apply`
puts in their place is covered by the hypothesis.
-/
theorem settles_of_settlesListed
    (arguments : List Value)
    (listed : ∀ item ∈ arguments, machine.SettlesListed item)
    (function receiver : Value) :
    machine.Settles ⟨function, receiver, arguments⟩ := by
  induction arguments generalizing function receiver with
  | nil => exact settles_nil function receiver
  | cons item rest inductionHypothesis =>
      refine .of_passedOn? fun next hop => ?_
      rcases passedOn?_cases hop with
        ⟨_, _, _, rfl⟩ | ⟨_, _, items, _, isList, rfl⟩
      · exact inductionHypothesis
          (fun other member => listed other (.tail item member)) _ _
      · cases rest with
        | nil => exact settlesListed_undefined items isList _ _
        | cons second others =>
            exact listed second (.tail item (.head others)) items isList _ _

/-- The induction is on the values that the list contains, however deep. -/
theorem settlesListed_of_acc
    {list : Value}
    (grounded : Acc machine.ListedBy list) :
    machine.SettlesListed list := by
  induction grounded with
  | intro list _ inductionHypothesis =>
      intro items listed function receiver
      exact settles_of_settlesListed items
        (fun item member => inductionHypothesis item ⟨items, listed, member⟩)
        function receiver

end Machine

namespace Host

variable {σ : Type}

/--
A call that `call` and `apply` pass on becomes, after finitely many hops that
open no host entry and change nothing, a call that is not passed on; or else it
comes back to a call that was made before, and no amount of fuel is enough.  No
call goes round unless one of its arguments is a list that contains itself.
-/
theorem passedOn_settles_or_recurs
    (host : Host σ)
    (session : Session σ)
    (call : UpcomingCall) :
    ((∃ hops last,
        session.machine.passedOn hops call = some last ∧
          session.machine.passedOn? last = none ∧
            ∀ fuel,
              call.start (host.calls (fuel + hops)) session =
                last.start (host.calls fuel) session) ∨
      ∃ earlier later again,
        earlier < later ∧
          session.machine.passedOn earlier call = some again ∧
            session.machine.passedOn later call = some again ∧
              ∀ fuel,
                call.start (host.calls fuel) session =
                  .error .outOfFuel session) ∧
      ((∀ item ∈ call.arguments, Acc session.machine.ListedBy item) →
        session.machine.Settles call) := by
  refine ⟨?_, ?_⟩
  · by_cases settles : session.machine.Settles call
    · obtain ⟨hops, last, passed, arrived⟩ := settles
      exact .inl ⟨hops, last, passed, arrived, fun fuel =>
        host.start_passedOn fuel hops session passed⟩
    · obtain ⟨earlier, later, again, before, reached, recurs⟩ :=
        Machine.passedOn_recurs settles
      refine .inr ⟨earlier, later, again, before, reached, recurs, ?_⟩
      intro fuel
      obtain ⟨last, passed⟩ :=
        Option.isSome_iff_exists.mp (Machine.isSome_passedOn settles fuel)
      have used := host.start_passedOn 0 fuel session passed
      rw [Nat.zero_add] at used
      exact used
  · intro grounded
    exact Machine.settles_of_settlesListed call.arguments
      (fun item member => Machine.settlesListed_of_acc (grounded item member))
      call.function call.receiver

/--
Behind the two well-known objects: `call`, `apply`, a function of the host, a
list of two plain values, and a list of `apply` and of itself.
-/
def withLists : Machine :=
  { Machine.bare .standard 0 with
    heap :=
      Heap.run
        [.alloc .blank, .alloc .blank,
          .alloc
            (.new none
              (.function (.native ⟨"call", .builtin .functionCall⟩))),
          .alloc
            (.new none
              (.function (.native ⟨"apply", .builtin .functionApply⟩))),
          .alloc (.new none (.function (.native ⟨"work", .host 0⟩))),
          .alloc (.new none (.array #[.null, .integer 7])),
          .alloc
            (.new none (.array #[.object ⟨3, 0⟩, .object ⟨6, 0⟩]))] }

/-- `call.apply(work, list)` comes to `work.call(null, 7)` and ends there. -/
theorem passedOn_settles_or_recurs_twice :
    (∀ item ∈ [Value.object ⟨4, 0⟩, .object ⟨5, 0⟩],
      Acc withLists.ListedBy item) ∧
      withLists.passedOn 2
          ⟨.object ⟨3, 0⟩, .object ⟨2, 0⟩,
            [.object ⟨4, 0⟩, .object ⟨5, 0⟩]⟩ =
        some ⟨.object ⟨4, 0⟩, .null, [.integer 7]⟩ ∧
      withLists.Settles
        ⟨.object ⟨3, 0⟩, .object ⟨2, 0⟩,
          [.object ⟨4, 0⟩, .object ⟨5, 0⟩]⟩ := by
  have function :
      withLists.argumentList? (.object ⟨4, 0⟩) = none :=
    rfl
  have list :
      withLists.argumentList? (.object ⟨5, 0⟩) =
        some [.null, .integer 7] :=
    rfl
  have grounded :
      ∀ item ∈ [Value.object ⟨4, 0⟩, .object ⟨5, 0⟩],
        Acc withLists.ListedBy item := by
    simp only [List.forall_mem_cons, List.not_mem_nil, false_implies,
      implies_true, and_true]
    refine ⟨Machine.acc_listedBy ?_, Machine.acc_listedBy ?_⟩
    · intro items listed
      rw [function] at listed
      cases listed
    · intro items listed
      obtain rfl := Option.some.inj (list.symm.trans listed)
      simp only [List.forall_mem_cons, List.not_mem_nil, false_implies,
        implies_true, and_true]
      refine ⟨Machine.acc_listedBy ?_, Machine.acc_listedBy nofun⟩
      intro items listed
      obtain rfl := Option.some.inj listed
      exact nofun
  exact ⟨grounded, rfl,
    (passedOn_settles_or_recurs ⟨fun _ _ _ => default, none⟩
      ⟨withLists, ()⟩ _).2 grounded⟩

/-- A host whose functions all answer at once. -/
def answering : Host Unit where
  native _ _ _ := .finish (.ok (.complete (.integer 7)))
  dispatcher := none

/--
Forty hops through `call` end in the function of the host although no more than
32 host entries may be open, and a list that contains `apply` and itself sends
`apply` round for ever, within a single host entry.
-/
theorem hops_exceed_maxHostDepth_withLists :
    withLists.configuration.maxHostDepth = 32 ∧
      (∃ after,
        Act.call (.object ⟨2, 0⟩) (.object ⟨2, 0⟩)
            (List.replicate 38 (.object ⟨2, 0⟩) ++ [.object ⟨4, 0⟩, .null])
            (answering.calls 50) ⟨withLists, ()⟩ =
          .ok (.integer 7) after) ∧
        ∀ (host : Host Unit) (fuel : Nat),
          ∃ after,
            Act.call (.object ⟨3, 0⟩) (.object ⟨3, 0⟩)
                [.object ⟨3, 0⟩, .object ⟨6, 0⟩] (host.calls fuel)
                ⟨withLists, ()⟩ = .error .outOfFuel after ∧
              after.machine.barriers.length = 1 := by
  refine ⟨rfl, ⟨_, answer?_eq_some rfl⟩, ?_⟩
  intro host fuel
  let round : UpcomingCall :=
    ⟨.object ⟨3, 0⟩, .object ⟨3, 0⟩, [.object ⟨3, 0⟩, .object ⟨6, 0⟩]⟩
  have same : withLists.entered.passedOn? round = some round := rfl
  have never (fuel : Nat) :
      round.start (host.calls fuel) ⟨withLists.entered, ()⟩ =
        .error .outOfFuel ⟨withLists.entered, ()⟩ := by
    induction fuel with
    | zero => rfl
    | succ fuel inductionHypothesis =>
        exact (host.start_passedOn? fuel ⟨withLists.entered, ()⟩ same).trans
          inductionHypothesis
  refine ⟨⟨withLists.entered, ()⟩, ?_, rfl⟩
  have opened :
      (liftM Edit.enterHost : Act Unit Nat) (host.calls fuel)
          ⟨withLists, ()⟩ = .ok 0 ⟨withLists.entered, ()⟩ :=
    rfl
  refine (Act.bind_ok opened _).trans ?_
  exact Act.bind_error
    (Act.attempt_outOfFuel (Act.bind_error (never fuel) _)) _

end Host

end MovieScript
