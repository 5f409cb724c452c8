import Mathlib.Logic.Function.Basic

/-!
# Channels

A `Channel` carries two event masks: `event`, which the last poll returned, and `epEvent`,
the interest that `Update` registers. `Epoll::UpdateChannel` passes the interest on to the
kernel, whose registration for the descriptor is kept here as well.

`IsWriting` looks at `event`, while `EnableWritable` and `DisableWritable` change `epEvent`.
-/

set_option autoImplicit false

namespace LiveBroadcast

/-- A set of epoll events. -/
abbrev EventMask := BitVec 32

def epollIn : EventMask := 0x001#32

def epollOut : EventMask := 0x004#32

/-- The mask contains `EPOLLOUT`. -/
def EventMask.writable (mask : EventMask) : Bool := mask &&& epollOut != 0#32

/-- The mask contains `EPOLLIN`. -/
def EventMask.readable (mask : EventMask) : Bool := mask &&& epollIn != 0#32

namespace EventMask

@[simp] theorem writable_or_out (mask : EventMask) : writable (mask ||| epollOut) = true := by
  have absorbed : (mask ||| epollOut) &&& epollOut = epollOut := by
    ext i
    simp only [BitVec.getElem_and, BitVec.getElem_or]
    grind
  simp only [writable, absorbed]
  decide

end EventMask

inductive ChannelStatus where
  | new
  | added
  | del
  deriving DecidableEq, Repr

/-- `class Channel`, with the kernel's registration of its descriptor. -/
structure Channel where
  channelStatus : ChannelStatus
  event : EventMask
  epEvent : EventMask
  registered : Option EventMask
  deriving DecidableEq, Repr

namespace Channel

/-- The constructor. -/
def new : Channel := ⟨.new, 0#32, 0#32, none⟩

/-- `SetEvent`. -/
def setEvent (channel : Channel) (event : EventMask) : Channel := { channel with event := event }

/-- `Update`, down to `Epoll::UpdateChannel`: add, modify or remove the registration.
Modifying a descriptor that is not registered does nothing. -/
def update (channel : Channel) : Channel :=
  match channel.channelStatus with
  | .new => { channel with channelStatus := .added, registered := some channel.epEvent }
  | .added => { channel with registered := channel.registered.map fun _ => channel.epEvent }
  | .del => { channel with channelStatus := .new, registered := none }

def enableReadable (channel : Channel) : Channel :=
  { channel with epEvent := channel.epEvent ||| epollIn }.update

def enableWritable (channel : Channel) : Channel :=
  { channel with epEvent := channel.epEvent ||| epollOut }.update

def disableWritable (channel : Channel) : Channel :=
  { channel with epEvent := channel.epEvent &&& ~~~epollOut }.update

def disableAll (channel : Channel) : Channel :=
  { channel with epEvent := 0#32, channelStatus := .del }.update

/-- `IsWriting`: the last poll returned `EPOLLOUT`. -/
def isWriting (channel : Channel) : Bool := EventMask.writable channel.event

/-! ## What an update leaves alone -/

@[simp] theorem update_epEvent (channel : Channel) : channel.update.epEvent = channel.epEvent := by
  unfold update
  split <;> rfl

@[simp] theorem enableWritable_epEvent (channel : Channel) :
    EventMask.writable channel.enableWritable.epEvent = true := by
  rw [enableWritable, update_epEvent]
  exact EventMask.writable_or_out _

end Channel

end LiveBroadcast
