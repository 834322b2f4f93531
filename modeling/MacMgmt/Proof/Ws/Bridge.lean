import MacMgmt.Ws.Bridge

/-!
# What a bridge forwards

In order and once, but for one message at most that is under way in a direction when the bridge ends.
-/

namespace MacMgmt.Proof.WsBridge
open Lib MacMgmt.Ws MacMgmt.Ws.WsBridge

variable {bridge after : WsBridge} {direction : Direction} {side : Side}

def held : Loop → List BridgeMessage
  | .sending message => if message.isClose then [] else [message]
  | _ => []

structure Going (direction : Direction) : Prop where
  data : ∀ message ∈ direction.sink, message.isClose = false
  order : direction.sink ++ held direction.loop = direction.received

/-- What went out are the messages that were read, all but `lost`, and closes. -/
def Forwarded (direction : Direction) : Prop :=
  ∃ data lost closes, direction.sink = data ++ closes ∧ data ++ lost = direction.received ∧ lost.length ≤ 1 ∧
    ∀ message ∈ closes, message.isClose = true

def Sound (bridge : WsBridge) : Prop :=
  match bridge.phase with
  | .running => ∀ side, Going (bridge.directions side)
  | .selected side => Forwarded (bridge.directions side) ∧ Going (bridge.directions side.other)
  | .closing _ | .over => ∀ side, Forwarded (bridge.directions side)

theorem length_held (loop : Loop) : (held loop).length ≤ 1 := by
  cases loop with
  | sending message =>
      change (if message.isClose then [] else [message]).length ≤ 1
      cases message.isClose
      · exact Nat.le_refl 1
      · exact Nat.zero_le 1
  | _ => exact Nat.zero_le 1

theorem Going.forwarded (going : Going direction) (loop : Loop) : Forwarded { direction with loop } :=
  ⟨direction.sink, held direction.loop, [], (List.append_nil _).symm, going.order, length_held _,
    fun _ member => absurd member List.not_mem_nil⟩

/-- Whether the message that is sent is put out or not. -/
theorem Going.puts {message : BridgeMessage} (going : Going direction) (sending : direction.loop = .sending message)
    (ok : Bool) (loop : Loop) : Forwarded { direction.puts message ok with loop } := by
  cases ok with
  | false => exact going.forwarded loop
  | true =>
      have order := going.order
      rw [sending, held] at order
      split at order
      · rename_i close
        rw [List.append_nil] at order
        exact ⟨direction.sink, [], [message], rfl, by rw [List.append_nil, order]; rfl, Nat.zero_le 1, by simpa using close⟩
      · exact ⟨direction.sink ++ [message], [], [], (List.append_nil _).symm, by rw [List.append_nil, order]; rfl,
          Nat.zero_le 1, fun _ member => absurd member List.not_mem_nil⟩

theorem Forwarded.close {message : BridgeMessage} (forwarded : Forwarded direction) (close : message.isClose = true)
    (ok : Bool) : Forwarded (direction.puts message ok) := by
  obtain ⟨data, lost, closes, sink, order, few, all⟩ := forwarded
  cases ok with
  | false => exact ⟨data, lost, closes, sink, order, few, all⟩
  | true =>
      refine ⟨data, lost, closes ++ [message], ?_, order, few, ?_⟩
      · rw [← List.append_assoc, ← sink]
        rfl
      · intro other member
        rcases List.mem_append.mp member with before | new
        · exact all other before
        · rw [List.mem_singleton.mp new, close]

theorem other_ne (side : Side) : side.other ≠ side := by cases side <;> decide

theorem eq_other {first second : Side} (different : first ≠ second) : first = second.other := by
  cases first <;> cases second <;> first | rfl | exact absurd rfl different

@[simp] theorem directions_self (phase : Phase) : (bridge.withDirection side phase direction).directions side = direction :=
  Function.update_self (β := fun _ => Direction) side direction bridge.directions

theorem directions_other {other : Side} (different : other ≠ side) (phase : Phase) :
    (bridge.withDirection side phase direction).directions other = bridge.directions other :=
  Function.update_of_ne (β := fun _ => Direction) different direction bridge.directions

theorem sound_withDirection {holds : Direction → Prop} (new : holds direction) (rest : holds (bridge.directions side.other))
    (phase : Phase) (other : Side) : holds ((bridge.withDirection side phase direction).directions other) := by
  by_cases same : other = side
  · subst same
    rwa [directions_self]
  · rw [directions_other same, eq_other same]
    exact rest

theorem sound_select (new : Forwarded direction) (rest : Going (bridge.directions side.other)) :
    Sound (bridge.withDirection side (.selected side) direction) := by
  refine ⟨?_, ?_⟩
  · rwa [directions_self]
  · rwa [directions_other (other_ne side)]

theorem sound_next (going : ∀ side, Going (bridge.directions side)) (running : bridge.phase = .running)
    (reading : (bridge.directions side).loop = .reading) (item : StreamItem) :
    Sound (bridge.next side (bridge.directions side) item) := by
  obtain ⟨data, order⟩ := going side
  rw [reading] at order
  replace order := (List.append_nil _).symm.trans order
  cases item with
  | message message =>
      refine sound_withDirection ⟨data, ?_⟩ (going _) .running
      change _ ++ (if message.isClose then [] else [message]) = if message.isClose then _ else _
      rw [order]
      split
      · exact List.append_nil _
      · rfl
  | frame =>
      unfold Sound next
      rw [running]
      exact going
  | failed => exact sound_withDirection ⟨data, (List.append_nil _).trans order⟩ (going _) .running
  | ended => exact sound_select ((going side).forwarded .ended) (going _)

theorem sound_sent {message : BridgeMessage} (going : ∀ side, Going (bridge.directions side))
    (sending : (bridge.directions side).loop = .sending message) (ok : Bool) :
    Sound (bridge.sent side (bridge.directions side) message ok) := by
  unfold sent
  split
  · rename_i goes
    obtain ⟨rfl, open_⟩ := Bool.and_eq_true_iff.mp goes
    obtain ⟨data, order⟩ := going side
    have kept : message.isClose = false := by simpa using open_
    rw [sending, held, kept, if_neg Bool.false_ne_true] at order
    refine sound_withDirection ⟨?_, ?_⟩ (going _) .running
    · intro other member
      rcases List.mem_append.mp member with before | new
      · exact data other before
      · rw [List.mem_singleton.mp new, kept]
    · exact (List.append_nil _).trans order
  · exact sound_select ((going side).puts sending ok .ended) (going _)

theorem sound_step {event : BridgeEvent} (sound : Sound bridge) (taken : bridge.step event = some after) : Sound after := by
  unfold Sound at sound
  cases event with
  | next side item =>
      simp only [step] at taken
      split at taken
      · rename_i running reading
        rw [running] at sound
        cases taken
        exact sound_next sound running reading item
      · cases taken
  | sent side ok =>
      simp only [step] at taken
      split at taken
      · rename_i message running sending
        rw [running] at sound
        cases taken
        exact sound_sent sound sending ok
      · cases taken
  | dropped flushed =>
      simp only [step] at taken
      split at taken
      · rename_i side selected
        rw [selected] at sound
        cases taken
        refine sound_withDirection ?_ (by cases side <;> exact sound.1) (.closing side)
        split
        · rename_i message sending
          exact sound.2.puts sending flushed .ended
        · exact sound.2.forwarded .ended
      · cases taken
  | closed ok =>
      simp only [step] at taken
      split at taken
      · rename_i side closing
        rw [closing] at sound
        cases taken
        exact sound_withDirection ((sound _).close rfl ok) (sound _) .over
      · cases taken

theorem forwarded_in_order {events : List BridgeEvent} (ran : run WsBridge.step start events = some bridge) (side : Side) :
    Forwarded (bridge.directions side) := by
  have initially : Sound start := fun _ => ⟨fun _ member => absurd member List.not_mem_nil, rfl⟩
  have sound : Sound bridge := run_invariant (fun _ _ _ holds taken => sound_step holds taken) initially ran
  have running (going : ∀ side, Going (bridge.directions side)) : Forwarded (bridge.directions side) :=
    (going side).forwarded (bridge.directions side).loop
  unfold Sound at sound
  split at sound
  · exact running sound
  · rename_i ended _
    by_cases same : side = ended
    · rw [same]
      exact sound.1
    · rw [eq_other same]
      exact sound.2.forwarded (bridge.directions ended.other).loop
  · exact sound side
  · exact sound side

/-- A text is on its way to `b` when `b` ends. -/
def cutOff : List BridgeEvent :=
  [.next .a (.message (.text "ls")), .sent .a true, .next .a (.message (.text "pwd")), .next .b .ended, .dropped false]

theorem forwarded_in_order_cutOff : ∃ bridge, run WsBridge.step start cutOff = some bridge ∧
    Forwarded (bridge.directions .a) := by
  have ran : run WsBridge.step start cutOff = some _ := rfl
  exact ⟨_, ran, forwarded_in_order ran .a⟩

end MacMgmt.Proof.WsBridge
