/-!
Contract: a bounded first-in first-out channel with one receiver.

A sender takes a place and puts its item in one step. One that finds no free place
waits; places that the receiver frees go to the waiting senders in the order of their
arrival. A place given to a waiting sender counts as used until that sender has come
back for it (`granted`), so nobody overtakes it. Closing the channel turns away every
sender, also those that wait; what is buffered can still be received.
-/

namespace WorkHost

/-- Names a sender that waits. -/
abbrev Ticket := Nat

structure Channel (α : Type) where
  capacity : Nat
  /-- The items that were sent and not yet received, the oldest first. -/
  buffer : List α
  /-- Senders that have been given a place and have not used it yet. -/
  granted : List Ticket
  /-- Senders without a place, in the order of their arrival. -/
  waiting : List Ticket
  closed : Bool
  /-- How many handles for sending exist. -/
  handles : Nat
deriving DecidableEq, Repr

/-- How an attempt to send comes out. -/
inductive Sending where
  | sent
  | full
  | closed
  /-- The sender waits for a place. -/
  | waiting
deriving DecidableEq, Repr

/-- How an attempt to receive comes out. -/
inductive Receiving (α : Type) where
  | item (value : α)
  /-- Nothing will come any more. -/
  | ended
  | pending
deriving DecidableEq, Repr

namespace Channel

variable {α : Type}

/-- The largest number of places that a channel can be made with. -/
def placeLimit : Nat := Nat.pow 2 61 - 1

/-- A channel has at least one place. -/
def create (capacity : Nat) : Channel α :=
  ⟨max capacity 1, [], [], [], false, 1⟩

/-- The places in use. -/
def len (channel : Channel α) : Nat :=
  channel.buffer.length + channel.granted.length

def isFull (channel : Channel α) : Bool := channel.capacity ≤ channel.len

def push (channel : Channel α) (item : α) : Channel α :=
  { channel with buffer := channel.buffer ++ [item] }

/-- Sends without waiting. -/
def trySend (channel : Channel α) (item : α) : Sending × Channel α :=
  if channel.closed then (.closed, channel)
  else if channel.isFull then (.full, channel)
  else (.sent, channel.push item)

/-- Starts to send: the sender waits if there is no place. -/
def send (channel : Channel α) (ticket : Ticket) (item : α) : Sending × Channel α :=
  if channel.closed then (.closed, channel)
  else if channel.isFull then
    (.waiting, { channel with waiting := channel.waiting ++ [ticket] })
  else (.sent, channel.push item)

/-- Gives a place that has become free to the sender that waits longest. -/
def grant (channel : Channel α) : Option Ticket × Channel α :=
  match channel.waiting with
  | [] => (none, channel)
  | ticket :: rest =>
    (some ticket, { channel with waiting := rest, granted := channel.granted ++ [ticket] })

/-- A sender no longer waits. If it had a place, the place goes to the next one. -/
def withdraw (channel : Channel α) (ticket : Ticket) : Option Ticket × Channel α :=
  if channel.granted.contains ticket then
    { channel with granted := channel.granted.erase ticket }.grant
  else (none, { channel with waiting := channel.waiting.erase ticket })

/-- A waiting sender tries again. -/
def resume (channel : Channel α) (ticket : Ticket) (item : α) : Sending × Channel α :=
  if channel.closed then (.closed, (channel.withdraw ticket).2)
  else if channel.granted.contains ticket then
    (.sent, { channel with granted := channel.granted.erase ticket }.push item)
  else (.waiting, channel)

/-- Takes the oldest item; its place goes to the sender that waits longest. -/
def receive (channel : Channel α) : Receiving α × Option Ticket × Channel α :=
  match channel.buffer with
  | item :: rest =>
    let (woken, channel) := { channel with buffer := rest }.grant
    (.item item, woken, channel)
  | [] =>
    if channel.handles = 0 ∨ (channel.closed ∧ channel.granted = []) then
      (.ended, none, channel)
    else (.pending, none, channel)

/-- Takes the oldest item unless the receiver was told to stop, which it looks at first. -/
def dequeue (channel : Channel α) (stopping : Bool) : Receiving α × Option Ticket × Channel α :=
  if stopping then (.ended, none, channel) else channel.receive

@[simp]
theorem grant_buffer (channel : Channel α) : channel.grant.2.buffer = channel.buffer := by
  unfold grant
  split <;> rfl

theorem length_receive {channel next : Channel α} {item : α} {woken : Option Ticket}
    (received : channel.receive = (.item item, woken, next)) :
    next.buffer.length < channel.buffer.length := by
  unfold receive at received
  split at received
  · rename_i first rest buffer
    simp only [Prod.mk.injEq] at received
    rw [← received.2.2, grant_buffer, buffer, List.length_cons]
    exact Nat.lt_succ_self rest.length
  · split at received <;> simp at received

/-- Takes items until there is none; gives them in the order in which they came. -/
def receiveAll (channel : Channel α) : List α × Channel α :=
  match _ : channel.receive with
  | (.item item, _, next) =>
    let rest := next.receiveAll
    (item :: rest.1, rest.2)
  | (_, _, next) => ([], next)
termination_by channel.buffer.length
decreasing_by exact length_receive (by assumption)

/-- Turns away all senders; gives those that were waiting. -/
def close (channel : Channel α) : List Ticket × Channel α :=
  (channel.waiting, { channel with closed := true, waiting := [] })

/-- Turns away all senders and drops what is buffered; gives the dropped items. -/
def closeAndDiscard (channel : Channel α) : List α × Channel α := channel.close.2.receiveAll

def addHandle (channel : Channel α) : Channel α :=
  { channel with handles := channel.handles + 1 }

def dropHandle (channel : Channel α) : Channel α :=
  { channel with handles := channel.handles - 1 }

end Channel

end WorkHost
