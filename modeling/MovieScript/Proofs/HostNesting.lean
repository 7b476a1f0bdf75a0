import MovieScript.Classes.Bootstrap
import MovieScript.Proofs.HostBarriers
import MovieScript.Proofs.HostMoments

namespace MovieScript

/-!
# How deep frames and host entries nest

A frame is pushed and a host entry is opened only within the limits that the
machine was configured with, and entries are counted by their barriers.  So
neither the frames nor the barriers ever exceed their limits.  The barriers are
the entries that are open as long as nothing but opening and closing an entry
changes them.  Unloading the movie does: it takes all barriers away, also those
of entries that are still open, and the limit is then no limit for the entries.
It is one again for host code that unloads only while no entry is open.
-/

namespace Machine

/-- The frames and the barriers are no more than the configuration allows. -/
structure WithinLimits (machine : Machine) : Prop where
  frames : machine.depth ≤ machine.configuration.maxCallDepth
  barriers :
    machine.barriers.length ≤ machine.configuration.maxHostDepth

/-- The limits are the same, and are kept. -/
structure StaysWithin (before after : Machine) : Prop where
  limits : before.SameLimits after
  kept : before.WithinLimits → after.WithinLimits

namespace StaysWithin

theorem refl (machine : Machine) : machine.StaysWithin machine :=
  ⟨.refl machine, id⟩

theorem trans
    ⦃first second third : Machine⦄
    (earlier : first.StaysWithin second)
    (later : second.StaysWithin third) :
    first.StaysWithin third :=
  ⟨earlier.limits.trans later.limits, fun within =>
    later.kept (earlier.kept within)⟩

/-- No more frames and barriers than before are within the same limits. -/
theorem of_le
    {before after : Machine}
    (limits : before.SameLimits after)
    (frames : after.depth ≤ before.depth)
    (barriers : after.barriers.length ≤ before.barriers.length) :
    before.StaysWithin after := by
  refine ⟨limits, fun within => ⟨?_, ?_⟩⟩
  · rw [limits.frames]
    exact Nat.le_trans frames within.frames
  · rw [limits.entries]
    exact Nat.le_trans barriers within.barriers

theorem of_quiet
    ⦃before after : Machine⦄
    (quiet : before.Quiet after) :
    before.StaysWithin after := by
  refine of_le quiet.limits (Nat.le_of_eq ?_) (Nat.le_of_eq ?_)
  · rw [depth, depth, quiet.control.frames]
  · rw [quiet.control.barriers]

/-- A change of something else altogether. -/
theorem aside
    {before after : Machine}
    (configuration : after.configuration = before.configuration)
    (frames : after.frames = before.frames)
    (barriers : after.barriers = before.barriers) :
    before.StaysWithin after := by
  refine of_le ⟨?_, ?_⟩ (Nat.le_of_eq ?_) (Nat.le_of_eq ?_)
  · rw [configuration]
  · rw [configuration]
  · rw [depth, depth, frames]
  · rw [barriers]

theorem pushFrame (frame : Frame) :
    Respects StaysWithin (Edit.pushFrame frame) := by
  refine .get_bind fun machine => ?_
  split
  · rename_i room
    exact ⟨⟨rfl, rfl⟩, fun within => ⟨room, within.barriers⟩⟩
  · exact .refl machine

theorem returnFromFrame (value : Value) :
    Respects StaysWithin (Edit.returnFromFrame value) := by
  refine .get_bind fun machine => ?_
  split
  · exact .refl machine
  · rename_i frame callers frames
    have fewer : callers.length ≤ machine.depth := by
      rw [depth, frames]
      exact Nat.le_succ callers.length
    split
    · exact of_le ⟨rfl, rfl⟩ fewer (Nat.le_refl _)
    · split
      · exact of_le ⟨rfl, rfl⟩ (Nat.zero_le _) (Nat.le_refl _)
      · exact of_le ⟨rfl, rfl⟩ fewer (Nat.le_refl _)

theorem takeHostResult : Respects StaysWithin Edit.takeHostResult := by
  refine .get_bind fun machine => ?_
  split
  · exact aside rfl rfl rfl
  · exact .refl machine

theorem enterHost : Respects StaysWithin Edit.enterHost := by
  refine .get_bind fun machine => ?_
  split
  · rename_i room
    exact ⟨⟨rfl, rfl⟩, fun within => ⟨within.frames, room⟩⟩
  · exact aside rfl rfl rfl

theorem leaveHost
    (base : Nat)
    (outcome : Except Fault Value) :
    Respects StaysWithin (Edit.leaveHost base outcome) := by
  intro machine
  have fewer : machine.barriers.tail.length ≤ machine.barriers.length := by
    rw [List.length_tail]
    exact Nat.sub_le _ _
  cases outcome with
  | ok value => exact of_le ⟨rfl, rfl⟩ (Nat.le_refl _) fewer
  | error fault =>
      refine of_le ⟨rfl, rfl⟩ ?_ fewer
      change (machine.frames.drop _).length ≤ machine.frames.length
      rw [List.length_drop]
      exact Nat.sub_le _ _

/-- Every step stays within the limits. -/
theorem stepStable : StepStable StaysWithin where
  toFrameStable := by
    refine .of_quiet trans of_quiet (fun _ _ => aside rfl rfl rfl) ?_
    intro machine frame callers changed top _
    refine of_le ⟨rfl, rfl⟩ (Nat.le_of_eq ?_) (Nat.le_refl _)
    rw [depth, depth, top]
    rfl
  moves := ⟨pushFrame, returnFromFrame, takeHostResult⟩
  enterHost := enterHost
  leaveHost := leaveHost
  unload _ := of_le ⟨rfl, rfl⟩ (Nat.zero_le _) (Nat.zero_le _)
  opens wanted := wanted.opens_of_quiet of_quiet

end StaysWithin

end Machine

namespace Moment

/-- Host code is about to unload the movie inside of a host entry. -/
def UnloadsInside (moment : Moment) : Prop :=
  moment.unloads = true ∧ moment.entries ≠ 0

instance : DecidablePred UnloadsInside := fun _ =>
  inferInstanceAs (Decidable (_ ∧ _))

/-- The open entries are those that have a barrier. -/
def Barred (moment : Moment) : Prop :=
  moment.entries = moment.machine.barriers.length

end Moment

/-- The open entries have had barriers as long as none was unloaded inside. -/
def Tallies (moments : List Moment) : Prop :=
  (∃ moment ∈ moments, moment.UnloadsInside) ∨
    ∀ moment ∈ moments, moment.Barred

/--
The recorded session is the session, and the open entries have barriers, now and
at the moments so far, unless a movie was unloaded inside of an entry.
-/
structure TalliesWith
    {σ : Type}
    (entries : Nat)
    (session : Session σ)
    (recorded : Session (Recorded σ)) :
    Prop where
  machine : recorded.machine = session.machine
  own : recorded.host.own = session.host
  tallies :
    (∃ moment ∈ recorded.host.moments, moment.UnloadsInside) ∨
      (∀ moment ∈ recorded.host.moments, moment.Barred) ∧
        entries = session.machine.barriers.length

namespace TalliesWith

variable {σ : Type} {entries : Nat}
variable {session : Session σ} {recorded : Session (Recorded σ)}

/-- The machine and the number of open entries change together. -/
theorem change
    {changed : Machine}
    {changedEntries : Nat}
    (tallies : TalliesWith entries session recorded)
    (along :
      entries = session.machine.barriers.length →
        changedEntries = changed.barriers.length) :
    TalliesWith changedEntries ⟨changed, session.host⟩
      ⟨changed, recorded.host⟩ :=
  ⟨rfl, tallies.own, tallies.tallies.imp id fun ⟨before, now⟩ =>
    ⟨before, along now⟩⟩

theorem noted
    (tallies : TalliesWith entries session recorded)
    (unloads : Bool) :
    TalliesWith entries session
      (Recorded.noted entries unloads recorded) := by
  refine ⟨tallies.machine, tallies.own, ?_⟩
  rcases tallies.tallies with ⟨moment, member, inside⟩ | ⟨before, now⟩
  · exact .inl ⟨moment, List.mem_append_left _ member, inside⟩
  · refine .inr ⟨List.forall_mem_append.mpr ⟨before, ?_⟩, now⟩
    rw [List.forall_mem_singleton, Moment.Barred, tallies.machine]
    exact now

/-- Outside of all entries no barrier is lost when the movie is unloaded. -/
theorem unloaded (tallies : TalliesWith entries session recorded) :
    TalliesWith entries ⟨session.machine.unloaded, session.host⟩
      ⟨session.machine.unloaded,
        (Recorded.noted entries true recorded).host⟩ := by
  have noted := tallies.noted true
  cases entries with
  | zero => exact noted.change fun _ => rfl
  | succ outer =>
      refine ⟨rfl, noted.own, .inl ⟨_, List.mem_concat_self, rfl, ?_⟩⟩
      exact Nat.succ_ne_zero outer

theorem traces :
    Traces SameBarriers (TalliesWith (σ := σ))
      (fun _ recorded => Tallies recorded.host.moments) where
  toFrameStable := SameBarriers.frameStable
  moves := .of_any fun _ _ _ => rfl
  opens := SameBarriers.opens
  machine := TalliesWith.machine
  own := TalliesWith.own
  lasts tallies same := tallies.change fun now => by
    rw [now, same]
  noted unloads tallies := tallies.noted unloads
  owned own tallies := ⟨tallies.machine, rfl, tallies.tallies⟩
  refused := by
    intro machine changed fault shut
    rcases enterHost_run machine with opened | ⟨_, log, refused⟩
    · rw [opened] at shut
      cases shut
    · rw [refused] at shut
      cases shut
      rfl
  entered _ tallies := tallies.change (congrArg Nat.succ)
  left tallies := tallies.change fun now => by
    rw [Machine.left, List.length_tail, ← now]
    rfl
  abandoned base tallies := tallies.change fun now => by
    change _ = (List.tail _).length
    rw [List.length_tail, ← now]
    rfl
  stops tallies := tallies.tallies.imp id And.left
  unloaded := unloaded

end TalliesWith

namespace Host

variable {σ α : Type}

/-- Unless a movie is unloaded inside of an entry, the barriers count entries. -/
theorem course_tallies
    (host : Host σ)
    (fuel : Nat)
    (program : Program σ α)
    (session : Session σ)
    (idle : session.machine.barriers = []) :
    Tallies (host.course fuel program session) := by
  have none : 0 = session.machine.barriers.length := by rw [idle]; rfl
  have alike :=
    TalliesWith.traces.record_alike host fuel program session
      ⟨rfl, rfl, .inr ⟨List.forall_mem_singleton.mpr none, none⟩⟩
  rw [course]
  generalize host.perform fuel program session = outcome at alike
  generalize host.record fuel program session = image at alike ⊢
  cases alike with
  | ok result tallies => exact TalliesWith.traces.stops tallies
  | fault fault tallies => exact TalliesWith.traces.stops tallies
  | outOfFuel tallies => exact tallies

/-- Every moment of a run that starts within the limits is within them. -/
theorem course_within
    (host : Host σ)
    (fuel : Nat)
    (program : Program σ α)
    (session : Session σ)
    {moment : Moment}
    (member : moment ∈ host.course fuel program session) :
    session.machine.StaysWithin moment.machine :=
  host.moments_related Machine.StaysWithin.stepStable fuel program session
    (List.mem_append_left _ (List.mem_map_of_mem member))

/--
A run that starts outside of all host entries never has more live frames than the
configuration allows.  As long as no host code unloads the movie inside of a host
entry, the entries that are open at the same time are those with a barrier, and
they are never more than the configuration allows.
-/
theorem nesting_within_limits
    (host : Host σ)
    (fuel : Nat)
    (program : Program σ α)
    (session : Session σ)
    (idle : session.machine.barriers = [])
    (shallow :
      session.machine.depth ≤ session.machine.configuration.maxCallDepth) :
    (∀ moment ∈ host.course fuel program session,
      moment.machine.depth ≤ session.machine.configuration.maxCallDepth) ∧
      ((∀ moment ∈ host.course fuel program session,
          ¬moment.UnloadsInside) →
        ∀ moment ∈ host.course fuel program session,
          moment.Barred ∧
            moment.entries ≤
              session.machine.configuration.maxHostDepth) := by
  have within : session.machine.WithinLimits := by
    refine ⟨shallow, ?_⟩
    rw [idle]
    exact Nat.zero_le _
  refine ⟨fun moment member => ?_, fun outside moment member => ?_⟩
  · have stays := host.course_within fuel program session member
    rw [← stays.limits.frames]
    exact (stays.kept within).frames
  · have stays := host.course_within fuel program session member
    have barred : moment.Barred := by
      rcases host.course_tallies fuel program session idle with
        ⟨hasty, here, inside⟩ | all
      · exact absurd inside (outside hasty here)
      · exact all moment member
    refine ⟨barred, ?_⟩
    rw [barred, ← stays.limits.entries]
    exact (stays.kept within).barriers

/-- A machine that allows one host entry, with two functions of the host. -/
def oneEntry : Machine :=
  { Machine.bare { Configuration.standard with maxHostDepth := 1 } 0 with
    heap :=
      Heap.run
        [.alloc .blank, .alloc .blank,
          .alloc (.new none (.function (.native ⟨"nest", .host 0⟩))),
          .alloc (.new none (.function (.native ⟨"reset", .host 1⟩)))] }

/-- Both functions try a call, which one of them unloads the movie before. -/
def resetting : Host Unit where
  native number _ _ := do
    if number = 1 then
      Program.perform .unload
    let result ← Program.perform (.call .undefined .undefined [])
    return .complete result
  dispatcher := none

/-- Call a function, whatever comes of it, and unload the movie. -/
def callAndUnload (function : Handle) : Program Unit (Except Fault Value) := do
  let outcome ←
    (Program.perform (.call (.object function) .undefined [])).attempt
  Program.perform .unload
  return outcome

/-- The nested call is refused, and the movie is unloaded outside of entries. -/
theorem nesting_within_limits_oneEntry :
    let course := resetting.course 4 (callAndUnload ⟨2, 0⟩) ⟨oneEntry, ()⟩
    (∀ moment ∈ course, ¬moment.UnloadsInside) ∧
      (∃ moment ∈ course, moment.unloads = true) ∧
        ∀ moment ∈ course, moment.Barred ∧ moment.entries ≤ 1 := by
  have outside :
      ∀ moment ∈
          resetting.course 4 (callAndUnload ⟨2, 0⟩) ⟨oneEntry, ()⟩,
        ¬moment.UnloadsInside := by
    decide +kernel
  refine ⟨outside, by decide +kernel, ?_⟩
  exact (nesting_within_limits resetting 4 (callAndUnload ⟨2, 0⟩)
    ⟨oneEntry, ()⟩ rfl (by decide)).2 outside

/--
Where one host entry is allowed, a call inside of it is refused for being nested.
After the movie has been unloaded inside of the entry it is let in, so that two
entries are open at the same time, and fails only for want of a function.
-/
theorem entries_exceed_maxHostDepth_oneEntry :
    oneEntry.configuration.maxHostDepth = 1 ∧
      (∃ after,
        resetting.perform 4 (callAndUnload ⟨2, 0⟩) ⟨oneEntry, ()⟩ =
          .ok (.error (.stackExhaustion 1)) after) ∧
        (∃ after,
          resetting.perform 4 (callAndUnload ⟨3, 0⟩) ⟨oneEntry, ()⟩ =
            .ok (.error (.notAFunction "undefined")) after) ∧
          ∃ moment ∈
              resetting.course 4 (callAndUnload ⟨3, 0⟩) ⟨oneEntry, ()⟩,
            moment.entries = 2 :=
  ⟨rfl, ⟨_, answer?_eq_some rfl⟩, ⟨_, answer?_eq_some rfl⟩,
    by decide +kernel⟩

end Host

end MovieScript
