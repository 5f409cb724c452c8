import LiveBroadcast.Foundation.Runs
import LiveBroadcast.Network.Channel

/-!
# The kernel's interest list

A loop polls one epoll instance. The kernel's list has at most one entry for a descriptor: the
pointer to a channel that came with it, and the events that are waited for. `UpdateChannel` adds,
changes or removes the entry by the status of the channel, and looks at no result of `epoll_ctl`.
The kernel takes an entry away by itself when the descriptor is closed.

A `Channel` was modelled with what is registered for it (`Channel.update`). Here the list stands
on its own, with all descriptors of a loop: channels come and go, and descriptors are closed and
used again. The entries are exactly what the channels that are there have registered, no call of
`epoll_ctl` that adds or changes an entry fails, and no poll uses a channel that is destroyed,
precisely as long as no channel is destroyed while it is registered and its descriptor stays open
(`interest_is_registered_iff`).
-/

set_option autoImplicit false

namespace LiveBroadcast

/-- The functions that change what a channel waits for. -/
inductive ChannelCall where
  | enableReadable
  | enableWritable
  | disableWritable
  | disableAll
  deriving DecidableEq, Repr

namespace ChannelCall

/-- The channel when `Update` is called. -/
def changed : ChannelCall → Channel → Channel
  | .enableReadable, channel => { channel with epEvent := channel.epEvent ||| epollIn }
  | .enableWritable, channel => { channel with epEvent := channel.epEvent ||| epollOut }
  | .disableWritable, channel => { channel with epEvent := channel.epEvent &&& ~~~epollOut }
  | .disableAll, channel => { channel with epEvent := 0#32, channelStatus := .del }

end ChannelCall

/-! ## The poller -/

/-- The channels of a loop by their descriptors, each with its pointer, which is the number of its
construction; the descriptors that are open; and the interest list. The calls of `epoll_ctl` that
were refused, and the uses of channels that are destroyed, are counted. -/
structure Poller where
  constructed : Nat
  isOpen : Nat → Bool
  channels : Nat → Option (Nat × Channel)
  interest : Nat → Option (Nat × EventMask)
  refused : Nat
  staleUses : Nat

/-- What happens to the channels and the descriptors of a loop. -/
inductive PollerEvent where
  /-- A descriptor is opened, and a channel is constructed for it. -/
  | make (sockFd : Nat)
  /-- A channel is constructed for a descriptor that is open and has none. -/
  | adopt (sockFd : Nat)
  | call (sockFd : Nat) (call : ChannelCall)
  /-- The channel is destroyed, and its descriptor is closed behind it. -/
  | drop (sockFd : Nat)
  /-- The channel is destroyed, and its descriptor stays open. -/
  | leave (sockFd : Nat)
  /-- A descriptor without a channel is closed. -/
  | close (sockFd : Nat)
  /-- `LoopOnce`, with what the kernel reports. -/
  | loopOnce (ready : List (Nat × EventMask))
  deriving DecidableEq, Repr

namespace Poller

/-- A loop without channels. -/
def new : Poller := ⟨0, fun _ => false, fun _ => none, fun _ => none, 0, 0⟩

def setChannel (poller : Poller) (sockFd : Nat) (channel : Option (Nat × Channel)) : Poller :=
  { poller with channels := Function.update poller.channels sockFd channel }

def setInterest (poller : Poller) (sockFd : Nat) (entry : Option (Nat × EventMask)) : Poller :=
  { poller with interest := Function.update poller.interest sockFd entry }

def setOpen (poller : Poller) (sockFd : Nat) (isOpen : Bool) : Poller :=
  { poller with isOpen := Function.update poller.isOpen sockFd isOpen }

def refuse (poller : Poller) : Poller := { poller with refused := poller.refused + 1 }

/-- `epoll_ctl` with `EPOLL_CTL_ADD`: an entry that is there is left. -/
def add (poller : Poller) (sockFd : Nat) (entry : Nat × EventMask) : Poller :=
  if poller.isOpen sockFd = true ∧ poller.interest sockFd = none then
    poller.setInterest sockFd (some entry)
  else poller.refuse

/-- `epoll_ctl` with `EPOLL_CTL_MOD`. -/
def modify (poller : Poller) (sockFd : Nat) (entry : Nat × EventMask) : Poller :=
  match poller.interest sockFd with
  | some _ => poller.setInterest sockFd (some entry)
  | none => poller.refuse

/-- `UpdateChannel`. A call that removes an entry which is not there changes nothing. -/
def updateChannel (poller : Poller) (sockFd pointer : Nat) (channel : Channel) : Poller :=
  (match channel.channelStatus with
  | .new => poller.add sockFd (pointer, channel.epEvent)
  | .added => poller.modify sockFd (pointer, channel.epEvent)
  | .del => poller.setInterest sockFd none).setChannel sockFd (some (pointer, channel.update))

/-- A channel is constructed for a descriptor. -/
def construct (poller : Poller) (sockFd : Nat) : Poller :=
  { poller.setChannel sockFd (some (poller.constructed, .new)) with
    constructed := poller.constructed + 1 }

/-- `FillActiveSocketVector` for one event: `SetEvent` through the pointer of the entry. -/
def setEvent (poller : Poller) (ready : Nat × EventMask) : Poller :=
  match poller.interest ready.1, poller.channels ready.1 with
  | none, _ => poller
  | some (pointer, _), some (own, channel) =>
      if pointer = own then
        poller.setChannel ready.1 (some (own, channel.setEvent ready.2))
      else { poller with staleUses := poller.staleUses + 1 }
  | some _, none => { poller with staleUses := poller.staleUses + 1 }

def step (poller : Poller) : PollerEvent → Poller
  | .make sockFd =>
      if poller.isOpen sockFd then poller else (poller.setOpen sockFd true).construct sockFd
  | .adopt sockFd =>
      if poller.isOpen sockFd = true ∧ poller.channels sockFd = none then poller.construct sockFd
      else poller
  | .call sockFd call =>
      match poller.channels sockFd with
      | none => poller
      | some (pointer, channel) => poller.updateChannel sockFd pointer (call.changed channel)
  | .drop sockFd =>
      match poller.channels sockFd with
      | none => poller
      | some _ => ((poller.setChannel sockFd none).setInterest sockFd none).setOpen sockFd false
  | .leave sockFd => poller.setChannel sockFd none
  | .close sockFd =>
      match poller.channels sockFd with
      | none => (poller.setInterest sockFd none).setOpen sockFd false
      | some _ => poller
  | .loopOnce ready => ready.foldl setEvent poller

def machine : Machine Poller PollerEvent := ⟨step⟩

/-! ## What the list should be -/

/-- The entry of a channel with its pointer. -/
def ofChannel (channel : Option (Nat × Channel)) : Option (Nat × EventMask) :=
  channel.bind fun entry => entry.2.registered.map fun mask => (entry.1, mask)

/-- What the channel of a descriptor has registered. -/
def registered (poller : Poller) (sockFd : Nat) : Option (Nat × EventMask) :=
  ofChannel (poller.channels sockFd)

/-- The list is what the channels that are there have registered, and nothing went wrong. -/
structure Faithful (poller : Poller) : Prop where
  exact : ∀ sockFd, poller.interest sockFd = poller.registered sockFd
  accepted : poller.refused = 0
  live : poller.staleUses = 0

/-- No registered channel is destroyed while its descriptor stays open. -/
def LeavesUnregistered (poller : Poller) : PollerEvent → Prop
  | .leave sockFd => poller.registered sockFd = none
  | _ => True

/-- A channel has the status of one with its registration. -/
def StatusKept (channel : Channel) : Prop :=
  match channel.channelStatus with
  | .new => channel.registered = none
  | .added => channel.registered.isSome = true
  | .del => False

/-- What a run keeps. -/
structure Kept (poller : Poller) : Prop extends poller.Faithful where
  opened : ∀ sockFd entry, poller.channels sockFd = some entry → poller.isOpen sockFd = true
  status : ∀ sockFd entry, poller.channels sockFd = some entry → StatusKept entry.2

variable {poller : Poller} {sockFd : Nat}

theorem kept_new : new.Kept where
  exact _ := rfl
  accepted := rfl
  live := rfl
  opened _ _ absent := nomatch absent
  status _ _ absent := nomatch absent

/-- The two agree on a descriptor. -/
def AgreeAt (poller after : Poller) (sockFd : Nat) : Prop :=
  after.channels sockFd = poller.channels sockFd ∧
    after.interest sockFd = poller.interest sockFd ∧ after.isOpen sockFd = poller.isOpen sockFd

theorem agree_setChannel {other : Nat} (differs : other ≠ sockFd)
    (channel : Option (Nat × Channel)) : AgreeAt poller (poller.setChannel sockFd channel) other :=
  ⟨Function.update_of_ne differs _ _, rfl, rfl⟩

theorem agree_setInterest {other : Nat} (differs : other ≠ sockFd)
    (entry : Option (Nat × EventMask)) : AgreeAt poller (poller.setInterest sockFd entry) other :=
  ⟨rfl, Function.update_of_ne differs _ _, rfl⟩

theorem agree_setOpen {other : Nat} (differs : other ≠ sockFd) (isOpen : Bool) :
    AgreeAt poller (poller.setOpen sockFd isOpen) other :=
  ⟨rfl, rfl, Function.update_of_ne differs _ _⟩

theorem AgreeAt.trans {between after : Poller} (first : AgreeAt poller between sockFd)
    (second : AgreeAt between after sockFd) : AgreeAt poller after sockFd :=
  ⟨second.1.trans first.1, second.2.1.trans first.2.1, second.2.2.trans first.2.2⟩

/-- **A change at one descriptor** is kept when it is right there. -/
theorem Kept.change {after : Poller} (kept : poller.Kept)
    (others : ∀ other, other ≠ sockFd → AgreeAt poller after other)
    (counts : after.refused = poller.refused ∧ after.staleUses = poller.staleUses)
    {found : Option (Nat × Channel)} (channel : after.channels sockFd = found)
    (interest : after.interest sockFd = ofChannel found)
    (entry : ∀ entry, found = some entry →
      after.isOpen sockFd = true ∧ StatusKept entry.2) : after.Kept where
  exact other := by
    by_cases same : other = sockFd
    · rw [same, interest, registered, channel]
    · obtain ⟨channels, interest, -⟩ := others other same
      rw [interest, registered, channels]
      exact kept.exact other
  accepted := counts.1.trans kept.accepted
  live := counts.2.trans kept.live
  opened other present there := by
    by_cases same : other = sockFd
    · subst same
      exact (entry present (channel.symm.trans there)).1
    · obtain ⟨channels, -, isOpen⟩ := others other same
      exact isOpen.trans (kept.opened other present (channels.symm.trans there))
  status other present there := by
    by_cases same : other = sockFd
    · subst same
      exact (entry present (channel.symm.trans there)).2
    · exact kept.status other present ((others other same).1.symm.trans there)

/-- A descriptor that is not open has no entry. -/
theorem Kept.closed (kept : poller.Kept) (closed : poller.isOpen sockFd ≠ true) :
    poller.channels sockFd = none ∧ poller.interest sockFd = none := by
  have absent : poller.channels sockFd = none := by
    cases there : poller.channels sockFd with
    | none => rfl
    | some entry => exact absurd (kept.opened sockFd entry there) closed
  refine ⟨absent, ?_⟩
  rw [kept.exact, registered, absent]
  rfl

/-- A descriptor without a channel has none. -/
theorem Kept.absent (kept : poller.Kept) (absent : poller.channels sockFd = none) :
    poller.interest sockFd = none := by
  rw [kept.exact, registered, absent]
  rfl

theorem Kept.make (kept : poller.Kept) (closed : poller.isOpen sockFd ≠ true) :
    ((poller.setOpen sockFd true).construct sockFd).Kept := by
  refine kept.change (fun _ differs => (agree_setOpen differs true).trans
    (agree_setChannel differs _)) ⟨rfl, rfl⟩ (Function.update_self _ _ _)
    (kept.closed closed).2 ?_
  rintro entry ⟨⟩
  exact ⟨Function.update_self _ _ _, rfl⟩

theorem Kept.adopt (kept : poller.Kept) (opened : poller.isOpen sockFd = true)
    (absent : poller.channels sockFd = none) : (poller.construct sockFd).Kept := by
  refine kept.change (fun _ differs => agree_setChannel differs _) ⟨rfl, rfl⟩
    (Function.update_self _ _ _) (kept.absent absent) ?_
  rintro entry ⟨⟩
  exact ⟨opened, rfl⟩

/-- An entry that is set goes with the channel that is set. -/
theorem Kept.setBoth (kept : poller.Kept) {pointer : Nat} {channel : Channel}
    (opened : poller.isOpen sockFd = true) (status : StatusKept channel) :
    ((poller.setInterest sockFd (ofChannel (some (pointer, channel)))).setChannel sockFd
      (some (pointer, channel))).Kept := by
  refine kept.change (fun _ differs => (agree_setInterest differs _).trans
    (agree_setChannel differs _)) ⟨rfl, rfl⟩ (Function.update_self _ _ _)
    (Function.update_self _ _ _) ?_
  rintro entry ⟨⟩
  exact ⟨opened, status⟩

/-- **Every call on a channel** is accepted, and the list has what the channel has registered. -/
theorem Kept.call (kept : poller.Kept) {pointer : Nat} {channel changed : Channel}
    (there : poller.channels sockFd = some (pointer, channel))
    (same : changed.registered = channel.registered)
    (status : changed.channelStatus = channel.channelStatus ∨ changed.channelStatus = .del) :
    (poller.updateChannel sockFd pointer changed).Kept := by
  have opened := kept.opened _ _ there
  have known : StatusKept channel := kept.status _ _ there
  have entry : poller.interest sockFd = ofChannel (some (pointer, channel)) := by
    rw [kept.exact, registered, there]
  rw [StatusKept] at known
  rw [updateChannel]
  cases before : changed.channelStatus with
  | new =>
      have fresh : channel.channelStatus = .new := by
        rcases status with kind | kind
        · exact kind.symm.trans before
        · exact nomatch before.symm.trans kind
      rw [fresh] at known
      have absent : poller.interest sockFd = none := by
        rw [entry, ofChannel, Option.bind_some, known]
        rfl
      have after : changed.update =
          { changed with channelStatus := .added, registered := some changed.epEvent } := by
        rw [Channel.update, before]
      dsimp only
      rw [add, if_pos ⟨opened, absent⟩, after]
      exact kept.setBoth opened rfl
  | added =>
      have kind : channel.channelStatus = .added := by
        rcases status with kind | kind
        · exact kind.symm.trans before
        · exact nomatch before.symm.trans kind
      rw [kind] at known
      obtain ⟨mask, mask_eq⟩ := Option.isSome_iff_exists.mp known
      have present : poller.interest sockFd = some (pointer, mask) := by
        rw [entry, ofChannel, Option.bind_some, mask_eq]
        rfl
      have after : changed.update = { changed with registered := some changed.epEvent } := by
        rw [Channel.update, before, same, mask_eq]
        rfl
      dsimp only
      rw [modify, present, after]
      exact kept.setBoth opened (by rw [StatusKept]; dsimp only; rw [before]; rfl)
  | del =>
      have after : changed.update = { changed with channelStatus := .new, registered := none } := by
        rw [Channel.update, before]
      rw [after]
      exact kept.setBoth opened rfl

theorem Kept.drop (kept : poller.Kept) :
    (((poller.setChannel sockFd none).setInterest sockFd none).setOpen sockFd false).Kept :=
  kept.change (fun _ differs => ((agree_setChannel differs _).trans
    (agree_setInterest differs _)).trans (agree_setOpen differs _)) ⟨rfl, rfl⟩
    (Function.update_self _ _ _) (Function.update_self _ _ _) nofun

theorem Kept.close (kept : poller.Kept) (absent : poller.channels sockFd = none) :
    ((poller.setInterest sockFd none).setOpen sockFd false).Kept :=
  kept.change (fun _ differs => (agree_setInterest differs _).trans
    (agree_setOpen differs _)) ⟨rfl, rfl⟩ absent (Function.update_self _ _ _) nofun

theorem Kept.leave (kept : poller.Kept) (unregistered : poller.registered sockFd = none) :
    (poller.setChannel sockFd none).Kept :=
  kept.change (fun _ differs => agree_setChannel differs _) ⟨rfl, rfl⟩
    (Function.update_self _ _ _) ((kept.exact sockFd).trans unregistered) nofun

/-- **An event reaches the channel of its descriptor.** -/
theorem Kept.setEvent (kept : poller.Kept) (ready : Nat × EventMask) :
    (poller.setEvent ready).Kept := by
  have entry := kept.exact ready.1
  rw [registered] at entry
  rw [Poller.setEvent]
  cases there : poller.channels ready.1 with
  | none =>
      rw [kept.absent there]
      exact kept
  | some own =>
      obtain ⟨pointer, channel⟩ := own
      rw [there, ofChannel, Option.bind_some] at entry
      cases mask : channel.registered with
      | none =>
          rw [mask] at entry
          rw [entry]
          exact kept
      | some waits =>
          rw [mask] at entry
          rw [entry]
          dsimp only [Option.map_some]
          rw [if_pos rfl]
          refine kept.change (fun _ differs => agree_setChannel differs _) ⟨rfl, rfl⟩
            (Function.update_self _ _ _) ?_ ?_
          · refine entry.trans ?_
            rw [ofChannel, Option.bind_some]
            exact (congrArg (Option.map fun mask => (pointer, mask)) mask).symm
          · rintro present ⟨⟩
            have status : StatusKept channel := kept.status _ _ there
            exact ⟨kept.opened _ _ there, status⟩

theorem Kept.loopOnce (kept : poller.Kept) (ready : List (Nat × EventMask)) :
    (ready.foldl Poller.setEvent poller).Kept := by
  induction ready generalizing poller with
  | nil => exact kept
  | cons first ready ih => exact ih (kept.setEvent first)

theorem changed_registered (call : ChannelCall) (channel : Channel) :
    (call.changed channel).registered = channel.registered := by
  cases call <;> rfl

theorem changed_status (call : ChannelCall) (channel : Channel) :
    (call.changed channel).channelStatus = channel.channelStatus ∨
      (call.changed channel).channelStatus = .del := by
  cases call
  · exact .inl rfl
  · exact .inl rfl
  · exact .inl rfl
  · exact .inr rfl

/-- **Every event keeps the list**, as long as no registered channel leaves its descriptor
open. -/
theorem Kept.step (kept : poller.Kept) {event : PollerEvent}
    (leaves : poller.LeavesUnregistered event) : (poller.step event).Kept := by
  cases event with
  | make sockFd =>
      rw [Poller.step]
      split
      · exact kept
      · next closed => exact kept.make closed
  | adopt sockFd =>
      rw [Poller.step]
      split
      · next can => exact kept.adopt can.1 can.2
      · exact kept
  | call sockFd call =>
      rw [Poller.step]
      cases there : poller.channels sockFd with
      | none => exact kept
      | some own => exact kept.call there (changed_registered call _) (changed_status call _)
  | drop sockFd =>
      rw [Poller.step]
      cases poller.channels sockFd with
      | none => exact kept
      | some own => exact kept.drop
  | leave sockFd => exact kept.leave leaves
  | close sockFd =>
      rw [Poller.step]
      cases absent : poller.channels sockFd with
      | none => exact kept.close absent
      | some own => exact kept
  | loopOnce ready => exact kept.loopOnce ready

/-- A registered channel that leaves its descriptor open leaves an entry. -/
theorem Kept.leaves (kept : poller.Kept) {event : PollerEvent}
    (faithful : (poller.step event).Faithful) : poller.LeavesUnregistered event := by
  cases event with
  | leave sockFd =>
      have gone : (poller.setChannel sockFd none).registered sockFd = none := by
        show ofChannel (Function.update poller.channels sockFd none sockFd) = none
        rw [Function.update_self]
        rfl
      exact (kept.exact sockFd).symm.trans ((faithful.exact sockFd).trans gone)
  | _ => trivial

theorem preserves_kept : machine.Preserves LeavesUnregistered Kept where
  step _ _ kept leaves := kept.step leaves

end Poller

open Poller

/-- **The interest list is what the channels have registered**, in every state of a run, and no
call that adds or changes an entry is refused, and no poll uses a channel that is destroyed: this
holds of a run exactly if no step of it destroys a registered channel and leaves its descriptor
open. Channels that are destroyed with their descriptor, as those of connections and of the
acceptor, never break it. -/
theorem interest_is_registered_iff (events : List PollerEvent) :
    machine.Always Faithful new events ↔ machine.Guarded LeavesUnregistered new events :=
  preserves_kept.always_iff (fun _ kept => kept.toFaithful)
    (fun _ _ kept faithful => kept.leaves faithful) kept_new events

end LiveBroadcast
