import Mathlib.Data.List.Basic

/-! A bounded broadcast channel. The sender waits for nobody: once the channel is full, a new message
displaces the oldest one. Each receiver has the number of the message it wants next, and gets it or learns
how many it has missed. -/

namespace Broadcast

structure Channel (α : Type) where
  /-- How many messages are kept. -/
  size : Nat
  /-- The last messages, oldest first. -/
  recent : List α
  /-- The number of the next message. -/
  pos : Nat
  counted : recent.length ≤ pos
  receivers : Nat
  closed : Bool

inductive Received (α : Type) where
  | value (message : α)
  | empty
  | closed
  | lagged (missed : Nat)

namespace Channel
variable {α : Type}

def new (size : Nat) : Channel α where
  size := size
  recent := []
  pos := 0
  counted := Nat.le_refl 0
  receivers := 0
  closed := false

theorem length_keep_le (recent : List α) (message : α) (size pos : Nat) (counted : recent.length ≤ pos) :
    ((recent ++ [message]).drop (recent.length + 1 - size)).length ≤ pos + 1 := by
  rw [List.length_drop, List.length_append, List.length_singleton]
  omega

/-- Without a receiver nothing is stored. -/
def send (message : α) (channel : Channel α) : Channel α :=
  if channel.receivers = 0 then channel
  else { channel with
    recent := (channel.recent ++ [message]).drop (channel.recent.length + 1 - channel.size)
    pos := channel.pos + 1
    counted := length_keep_le channel.recent message channel.size channel.pos channel.counted }

def subscribe (channel : Channel α) : Nat × Channel α :=
  (channel.pos, { channel with receivers := channel.receivers + 1 })

def dropReceiver (channel : Channel α) : Channel α := { channel with receivers := channel.receivers - 1 }

def close (channel : Channel α) : Channel α := { channel with closed := true }

def oldest (channel : Channel α) : Nat := channel.pos - channel.recent.length

/-- What a receiver gets, and the number it wants afterwards: after a lag it goes on with the oldest
message. -/
def recv (channel : Channel α) (next : Nat) : Received α × Nat :=
  if next < channel.oldest then (.lagged (channel.oldest - next), channel.oldest)
  else match channel.recent[next - channel.oldest]? with
    | some message => (.value message, next + 1)
    | none => (if channel.closed then .closed else .empty, next)

/-! ### The channel keeps the last messages -/

structure Holds (channel : Channel α) (sent : List α) : Prop where
  pos : channel.pos = sent.length
  recent : channel.recent = sent.drop (sent.length - channel.size)

theorem holds_new (size : Nat) : Holds (new size : Channel α) [] where
  pos := rfl
  recent := List.drop_nil.symm

theorem size_send (message : α) (channel : Channel α) : (channel.send message).size = channel.size := by
  unfold send
  split_ifs <;> rfl

theorem receivers_send (message : α) (channel : Channel α) : (channel.send message).receivers = channel.receivers := by
  unfold send
  split_ifs <;> rfl

theorem closed_send (message : α) (channel : Channel α) : (channel.send message).closed = channel.closed := by
  unfold send
  split_ifs <;> rfl

section
variable {channel : Channel α} {sent : List α} (holds : Holds channel sent)
include holds

theorem Holds.length_recent : channel.recent.length = min channel.size sent.length := by
  rw [holds.recent, List.length_drop]
  omega

theorem Holds.oldest : channel.oldest = sent.length - channel.size := by
  rw [Channel.oldest, holds.pos, holds.length_recent]
  omega

theorem Holds.send (received : channel.receivers ≠ 0) (message : α) :
    Holds (channel.send message) (sent ++ [message]) := by
  have length : (sent ++ [message]).length = sent.length + 1 := List.length_append
  have same : sent.length - channel.size + (min channel.size sent.length + 1 - channel.size) =
      sent.length + 1 - channel.size := by omega
  have recent : (channel.recent ++ [message]).drop (channel.recent.length + 1 - channel.size) =
      (sent ++ [message]).drop (sent.length + 1 - channel.size) := by
    rw [holds.length_recent, holds.recent, ← List.drop_append_of_le_length (Nat.sub_le _ _), List.drop_drop, same]
  rw [Channel.send, if_neg received]
  constructor
  · rw [length, ← holds.pos]
  · rw [length]
    exact recent

/-- A receiver that is not too far behind gets the messages in order; one that is gets told how
many it has missed. -/
theorem Holds.recv {next : Nat} (inside : next ≤ sent.length) :
    channel.recv next =
      if next = sent.length then (if channel.closed then .closed else .empty, next)
      else if sent.length ≤ next + channel.size then
        (match sent[next]? with
          | some message => .value message
          | none => .closed, next + 1)
      else (.lagged (sent.length - channel.size - next), sent.length - channel.size) := by
  rw [Channel.recv, holds.oldest]
  by_cases early : next < sent.length - channel.size
  · have behind : next ≠ sent.length := by omega
    have displaced : ¬sent.length ≤ next + channel.size := by omega
    rw [if_pos early, if_neg behind, if_neg displaced]
  · have place : sent.length - channel.size + (next - (sent.length - channel.size)) = next := by omega
    have kept : channel.recent[next - (sent.length - channel.size)]? = sent[next]? := by
      rw [holds.recent, List.getElem?_drop, place]
    rw [if_neg early, kept]
    by_cases last : next = sent.length
    · rw [if_pos last, List.getElem?_eq_none (Nat.le_of_eq last.symm)]
    · have near : sent.length ≤ next + channel.size := by omega
      have here : next < sent.length := Nat.lt_of_le_of_ne inside last
      rw [if_neg last, if_pos near, List.getElem?_eq_getElem here]

end

end Channel

end Broadcast
