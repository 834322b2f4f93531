import MacMgmt.Lib.Table

/-!
# Broadcast rings

A channel that keeps the last `capacity` messages for all its receivers, as `tokio::sync::broadcast` is documented to. A
receiver that falls further behind learns that it lagged and goes on with the oldest message that is kept. Messages are known
by their position; what was yielded, and what was overwritten before a receiver read it, is recorded beside the ring.
-/

namespace Lib

inductive Yield (M : Type) where
  | message (position : Nat) (message : M)
  | keepalive
deriving DecidableEq

/-- `since` is the first position after the subscription, `next` the one to read next. -/
structure Receiver (M : Type) where
  since : Nat
  next : Nat
  output : List (Yield M)
  overwritten : List Nat
deriving DecidableEq

structure Broadcast (M C : Type) where
  sent : List M
  receivers : Table C (Receiver M)

namespace Receiver
variable {M : Type} (capacity : Nat)

def subscribed (tail : Nat) : Receiver M := ⟨tail, tail, [], []⟩

/-- A message is sent at the position `tail`. -/
def overtaken (receiver : Receiver M) (tail : Nat) : Receiver M :=
  if receiver.next + capacity ≤ tail then { receiver with overwritten := receiver.overwritten ++ [tail - capacity] }
  else receiver

def recv (receiver : Receiver M) (sent : List M) : Receiver M :=
  if receiver.next + capacity < sent.length then { receiver with next := sent.length - capacity }
  else
    match sent[receiver.next]? with
    | some message =>
        { receiver with next := receiver.next + 1, output := receiver.output ++ [.message receiver.next message] }
    | none => receiver

def keepalive (receiver : Receiver M) : Receiver M := { receiver with output := receiver.output ++ [.keepalive] }

/-- The message of the position, or an equal one sent later, was yielded. -/
def Hears (receiver : Receiver M) (position : Nat) (message : M) : Prop :=
  ∃ later, position ≤ later ∧ .message later message ∈ receiver.output

/-- Every position since the subscription that is passed was either yielded or overwritten. -/
structure Sound (receiver : Receiver M) (sent : List M) : Prop where
  since_le : receiver.since ≤ receiver.next
  next_le : receiver.next ≤ sent.length
  yielded : ∀ position message, .message position message ∈ receiver.output →
    sent[position]? = some message ∧ receiver.since ≤ position ∧ position < receiver.next ∧ position ∉ receiver.overwritten
  passed : ∀ position message, receiver.since ≤ position → position < receiver.next → sent[position]? = some message →
    position ∉ receiver.overwritten → .message position message ∈ receiver.output
  overwritten : ∀ position ∈ receiver.overwritten, position + capacity < sent.length
  behind : ∀ position, receiver.next ≤ position → position + capacity < sent.length → position ∈ receiver.overwritten

variable {capacity} {receiver : Receiver M} {sent : List M}

theorem sound_subscribed : (subscribed sent.length : Receiver M).Sound capacity sent where
  since_le := le_refl _
  next_le := le_refl _
  yielded _ _ member := by cases member
  passed position _ since next := by
    change sent.length ≤ position at since
    change position < sent.length at next
    omega
  overwritten _ member := by cases member
  behind position next kept := by
    change sent.length ≤ position at next
    omega

theorem Sound.keepalive (sound : receiver.Sound capacity sent) : receiver.keepalive.Sound capacity sent where
  since_le := sound.since_le
  next_le := sound.next_le
  yielded position message member := by
    rcases List.mem_append.mp member with member | member
    · exact sound.yielded position message member
    · cases List.mem_singleton.mp member
  passed position message since next sent fresh :=
    List.mem_append_left _ (sound.passed position message since next sent fresh)
  overwritten := sound.overwritten
  behind := sound.behind

theorem mem_overtaken {tail position : Nat} : position ∈ (receiver.overtaken capacity tail).overwritten ↔
    position ∈ receiver.overwritten ∨ receiver.next + capacity ≤ tail ∧ position = tail - capacity := by
  unfold overtaken
  split
  · rename_i behind
    simp [behind]
  · rename_i near
    simp [near]

theorem overtaken_fields (capacity : Nat) (receiver : Receiver M) (tail : Nat) : (receiver.overtaken capacity tail).since = receiver.since ∧
    (receiver.overtaken capacity tail).next = receiver.next ∧
    (receiver.overtaken capacity tail).output = receiver.output := by
  unfold overtaken
  split <;> exact ⟨rfl, rfl, rfl⟩

theorem Sound.overtaken (sound : receiver.Sound capacity sent) (message : M) :
    (receiver.overtaken capacity sent.length).Sound capacity (sent ++ [message]) := by
  obtain ⟨since, next, output⟩ := overtaken_fields capacity receiver sent.length
  have longer : (sent ++ [message]).length = sent.length + 1 := List.length_append
  have kept {position : Nat} (before : position < receiver.next) : (sent ++ [message])[position]? = sent[position]? :=
    List.getElem?_append_left (before.trans_le sound.next_le)
  constructor
  · rw [since, next]
    exact sound.since_le
  · rw [next, longer]
    exact sound.next_le.trans (Nat.le_succ _)
  · intro position value member
    rw [output] at member
    obtain ⟨found, from_since, before, fresh⟩ := sound.yielded position value member
    refine ⟨(kept before).trans found, since ▸ from_since, next ▸ before, fun lost => ?_⟩
    rcases mem_overtaken.mp lost with lost | ⟨behind, rfl⟩
    · exact fresh lost
    · omega
  · intro position value from_since before found fresh
    rw [next] at before
    rw [output]
    refine sound.passed position value (since ▸ from_since) before ((kept before).symm.trans found) fun lost => ?_
    exact fresh (mem_overtaken.mpr (.inl lost))
  · intro position lost
    rw [longer]
    rcases mem_overtaken.mp lost with lost | ⟨behind, rfl⟩
    · exact (sound.overwritten position lost).trans (Nat.lt_succ_self _)
    · omega
  · intro position from_next lost
    rw [next] at from_next
    rw [longer] at lost
    rcases Nat.lt_succ_iff_lt_or_eq.mp lost with earlier | last
    · exact mem_overtaken.mpr (.inl (sound.behind position from_next earlier))
    · exact mem_overtaken.mpr (.inr ⟨by omega, by omega⟩)

theorem Sound.recv (sound : receiver.Sound capacity sent) : (receiver.recv capacity sent).Sound capacity sent := by
  unfold Receiver.recv
  split
  · rename_i lagged
    constructor
    · have since := sound.since_le
      show receiver.since ≤ sent.length - capacity
      omega
    · exact Nat.sub_le _ _
    · intro position message member
      obtain ⟨found, since, before, fresh⟩ := sound.yielded position message member
      refine ⟨found, since, ?_, fresh⟩
      show position < sent.length - capacity
      omega
    · intro position message since before found fresh
      change position < sent.length - capacity at before
      rcases Nat.lt_or_ge position receiver.next with earlier | later
      · exact sound.passed position message since earlier found fresh
      · exact absurd (sound.behind position later (by omega)) fresh
    · exact sound.overwritten
    · intro position from_next lost
      change sent.length - capacity ≤ position at from_next
      omega
  · rename_i near
    split
    · rename_i message found
      have inside : receiver.next < sent.length := (List.getElem?_eq_some_iff.mp found).1
      constructor
      · exact sound.since_le.trans (Nat.le_succ _)
      · exact inside
      · intro position value member
        rcases List.mem_append.mp member with member | member
        · obtain ⟨present, since, before, fresh⟩ := sound.yielded position value member
          exact ⟨present, since, before.trans (Nat.lt_succ_self _), fresh⟩
        · cases List.mem_singleton.mp member
          refine ⟨found, sound.since_le, Nat.lt_succ_self _, fun lost => ?_⟩
          exact near (sound.overwritten _ lost)
      · intro position value since before present fresh
        rcases Nat.lt_succ_iff_lt_or_eq.mp before with earlier | rfl
        · exact List.mem_append_left _ (sound.passed position value since earlier present fresh)
        · cases found.symm.trans present
          exact List.mem_append_right _ (List.mem_singleton.mpr rfl)
      · exact sound.overwritten
      · intro position from_next lost
        exact sound.behind position ((Nat.le_succ _).trans from_next) lost
    · exact sound

theorem Sound.hears_iff (sound : receiver.Sound capacity sent) (drained : receiver.next = sent.length) {position : Nat}
    {message : M} (since : receiver.since ≤ position) : receiver.Hears position message ↔
      ∃ later, position ≤ later ∧ sent[later]? = some message ∧ later ∉ receiver.overwritten := by
  constructor
  · rintro ⟨later, after, member⟩
    obtain ⟨found, -, -, fresh⟩ := sound.yielded later message member
    exact ⟨later, after, found, fresh⟩
  · rintro ⟨later, after, found, fresh⟩
    have inside : later < sent.length := (List.getElem?_eq_some_iff.mp found).1
    exact ⟨later, after, sound.passed later message (since.trans after) (drained ▸ inside) found fresh⟩

theorem Sound.hears_of_all_equal (sound : receiver.Sound capacity sent) (drained : receiver.next = sent.length)
    (positive : 0 < capacity) {position : Nat} {message : M} (equal : ∀ other ∈ sent, other = message)
    (since : receiver.since ≤ position) (inside : position < sent.length) : receiver.Hears position message := by
  have last : sent.length - 1 < sent.length := by omega
  refine (sound.hears_iff drained since).mpr ⟨sent.length - 1, by omega, ?_, fun lost => ?_⟩
  · rw [List.getElem?_eq_getElem last, equal _ (List.getElem_mem last)]
  · have beyond := sound.overwritten _ lost
    omega

end Receiver

/-! ## The channel -/

namespace Broadcast
variable {M C : Type} [DecidableEq C] (capacity : Nat)

def empty : Broadcast M C := ⟨[], ∅⟩

def subscribe (channel : Broadcast M C) (id : C) : Broadcast M C :=
  { channel with receivers := channel.receivers.insert id (.subscribed channel.sent.length) }

/-- The channel after a send with the number of its receivers; without one nothing is sent. -/
def send (channel : Broadcast M C) (message : M) : Broadcast M C × Nat :=
  if channel.receivers.size = 0 then (channel, 0)
  else
    ({ sent := channel.sent ++ [message]
       receivers := channel.receivers.mapValues fun receiver => receiver.overtaken capacity channel.sent.length },
      channel.receivers.size)

/-- What the task of one receiver does when it is scheduled, or that it ends. -/
inductive Turn where
  | recv
  | keepalive
  | disconnect
deriving DecidableEq

def turn (channel : Broadcast M C) (id : C) : Turn → Broadcast M C
  | .recv => { channel with receivers := channel.receivers.modify id fun receiver => receiver.recv capacity channel.sent }
  | .keepalive => { channel with receivers := channel.receivers.modify id Receiver.keepalive }
  | .disconnect => { channel with receivers := channel.receivers.erase id }

def Sound (channel : Broadcast M C) : Prop :=
  ∀ id receiver, channel.receivers.lookup id = some receiver → receiver.Sound capacity channel.sent

variable {capacity} {channel : Broadcast M C}

theorem sound_empty : (empty : Broadcast M C).Sound capacity := fun _ _ found => by cases found

theorem Sound.subscribe (sound : channel.Sound capacity) (id : C) : (channel.subscribe id).Sound capacity := by
  intro other receiver found
  unfold Broadcast.subscribe at found
  rw [Table.lookup_insert_ite] at found
  split at found
  · cases found
    exact Receiver.sound_subscribed
  · exact sound other receiver found

theorem Sound.send (sound : channel.Sound capacity) (message : M) :
    (channel.send capacity message).1.Sound capacity := by
  unfold Broadcast.send
  split
  · exact sound
  · intro id receiver found
    rw [Table.lookup_mapValues] at found
    obtain ⟨old, present, rfl⟩ := Option.map_eq_some_iff.mp found
    exact (sound id old present).overtaken message

theorem Sound.modify (sound : channel.Sound capacity) (id : C) {change : Receiver M → Receiver M}
    (keeps : ∀ receiver : Receiver M, receiver.Sound capacity channel.sent → (change receiver).Sound capacity channel.sent) :
    Broadcast.Sound capacity { channel with receivers := channel.receivers.modify id change } := by
  intro other receiver found
  rw [Table.lookup_modify] at found
  split at found
  · rename_i same
    obtain ⟨old, present, rfl⟩ := Option.map_eq_some_iff.mp found
    exact keeps old (sound _ old present)
  · exact sound other receiver found

theorem Sound.turn (sound : channel.Sound capacity) (id : C) (turn : Turn) : (channel.turn capacity id turn).Sound capacity := by
  cases turn with
  | recv => exact sound.modify id fun receiver held => held.recv
  | keepalive => exact sound.modify id fun receiver held => held.keepalive
  | disconnect =>
      intro other receiver found
      unfold Broadcast.turn at found
      rw [Table.lookup_erase_ite] at found
      split at found
      · cases found
      · exact sound other receiver found

end Broadcast
end Lib
