/-
**What leaves a ring arrives in its device.**

A ring counts the frames that it hands out, and a write-through device in memory keeps what it takes
and counts what waits to be played. The two know of each other only by the offers of the ring and by
the answers of the device, which takes a part, fails, is emptied or is opened anew in between. Still
they agree as long as nobody drains the ring and a frame is as large for the one as for the other:
the device has taken just what has left the ring, and what it has taken waits, was played, or was
discarded.

* `Scene.Fitted.handles`: how many frames leave the ring and arrive in a happening;
* `Scene.Makes.delivers`: and in a chain of them;
* `Feed.delivered_along_runs`: so it is along every run, on the ring or through a session.
-/
import Playout.Proofs.Scene
import Playout.Proofs.Session.Attempts

namespace Playout

/-! ### Where nobody drains the ring -/

/-- Whether a consumer drains the ring. -/
def Move.drains : Move → Bool
  | .drain _ => true
  | _ => false

@[inherit_doc Move.drains]
def Operation.drains {δ : Type} : Operation δ → Bool
  | .drain _ => true
  | _ => false

@[inherit_doc Move.drains]
def Happening.drains : Happening → Bool
  | .move made => made.drains
  | .probe _ => false

namespace Move

variable {move : Move}

theorem Relieves.not_drains (relieves : move.Relieves) : move.drains = false := by
  cases move <;> first | rfl | cases relieves

theorem Plays.not_drains (plays : move.Plays) : move.drains = false := by
  cases move <;> first | rfl | cases plays

theorem Mends.not_drains (mends : move.Mends) : move.drains = false := by
  cases move <;> first | rfl | cases mends

end Move

theorem not_drains_of_mem_settleMoves {ε α : Type} {moves : List Move} {taken : Except ε α}
    (all : ∀ move ∈ moves, move.drains = false) :
    ∀ move ∈ settleMoves moves taken, move.drains = false := by
  cases taken with
  | ok _ => exact all
  | error _ => exact List.forall_mem_nil _

section Undrained

variable {δ : Type} [Device δ]

theorem Feed.not_drains_of_mem_resetMoves (feed : Feed δ) :
    ∀ move ∈ feed.resetMoves, move.drains = false :=
  fun move member => (feed.relieves_resetMoves move member).not_drains

theorem Feed.not_drains_of_mem_enqueueMoves (feed : Feed δ) (frames : ByteArray) :
    ∀ move ∈ feed.enqueueMoves frames, move.drains = false := by
  obtain ⟨answer, early, fate, late, shape, relieves, decided, plays⟩ :=
    (offered_enqueue feed frames).shape
  have settled : ∀ move ∈ fate, move.drains = false := by
    cases decided <;> simp [Move.drains]
  rw [shape]
  simp only [List.forall_mem_cons, List.forall_mem_append]
  refine ⟨rfl, ⟨?_, settled⟩, ?_⟩
  · exact fun move member => (relieves move member).not_drains
  · exact fun move member => (plays move member).not_drains

theorem Session.Mended.not_drains {failed again : Feed δ} {mends : List Move}
    (mended : Session.Mended failed mends again) : ∀ move ∈ mends, move.drains = false :=
  fun move member => (mended.all move member).not_drains

theorem Session.not_drains_of_mem_offerMoves (session : Session δ) (frames : ByteArray) :
    ∀ move ∈ session.offerMoves frames, move.drains = false := by
  have attempted := session.attempted_offer frames
  generalize session.offerMoves frames = moves, (session.offer frames).1 = outcome,
    (session.offer frames).2.feed = after at attempted ⊢
  have first := session.feed.not_drains_of_mem_enqueueMoves frames
  cases attempted with
  | answered _ => exact first
  | @abandoned _ failed _ _ _ mended _ =>
    simp only [List.forall_mem_append]
    exact ⟨first, failed.not_drains_of_mem_resetMoves, mended.not_drains⟩
  | @retried _ failed again _ _ _ _ _ mended _ _ =>
    have second := again.not_drains_of_mem_enqueueMoves frames
    simp only [List.forall_mem_append]
    exact ⟨first, failed.not_drains_of_mem_resetMoves, mended.not_drains, second⟩
  | @failedAgain _ _ failed again refused _ _ _ mended _ _ =>
    have second := again.not_drains_of_mem_enqueueMoves frames
    simp only [List.forall_mem_append]
    exact ⟨first, failed.not_drains_of_mem_resetMoves, mended.not_drains, second,
      refused.not_drains_of_mem_resetMoves⟩

/-- An operation that is no drain drains nothing. -/
theorem Feed.not_drains_of_mem_moves (feed : Feed δ) {operation : Operation δ}
    (other : operation.drains = false) : ∀ move ∈ feed.moves operation, move.drains = false := by
  cases operation with
  | queue frames =>
    exact not_drains_of_mem_settleMoves (feed.not_drains_of_mem_enqueueMoves frames)
  | queueSamples _ samples =>
    exact not_drains_of_mem_settleMoves (feed.not_drains_of_mem_enqueueMoves _)
  | reset => exact feed.not_drains_of_mem_resetMoves
  | drain _ => cases other
  | queuedMs => exact List.forall_mem_nil _
  | change _ => exact List.forall_mem_nil _

@[inherit_doc Feed.not_drains_of_mem_moves]
theorem Session.not_drains_of_mem_moves (session : Session δ) {operation : Operation δ}
    (other : operation.drains = false) :
    ∀ move ∈ session.moves operation, move.drains = false := by
  cases operation with
  | queue frames =>
    exact not_drains_of_mem_settleMoves (session.not_drains_of_mem_offerMoves frames)
  | queueSamples _ samples =>
    exact not_drains_of_mem_settleMoves (session.not_drains_of_mem_offerMoves _)
  | reset => exact session.feed.not_drains_of_mem_resetMoves
  | drain _ => cases other
  | queuedMs => exact List.forall_mem_singleton.2 rfl
  | change _ => exact List.forall_mem_nil _

end Undrained

theorem Deed.not_drains_of_mem_happenings (deed : Deed) {moves : List Move}
    (all : ∀ move ∈ moves, move.drains = false) :
    ∀ happening ∈ deed.happenings moves, happening.drains = false := by
  intro happening member
  cases deed with
  | operate operation _ =>
    obtain ⟨move, made, rfl⟩ := List.mem_map.1 member
    exact all move made
  | probe probing =>
    rw [List.mem_singleton.1 member]
    rfl

/-- Deeds among which there is no drain drain nothing. -/
theorem Feed.not_drains_of_mem_runHappenings {deeds : List Deed} (feed : Feed MemoryDevice)
    (others : ∀ deed ∈ deeds, deed.operation.drains = false) :
    ∀ happening ∈ feed.runHappenings deeds, happening.drains = false := by
  induction deeds generalizing feed with
  | nil => exact List.forall_mem_nil _
  | cons deed rest ih =>
    obtain ⟨here, later⟩ := List.forall_mem_cons.1 others
    exact List.forall_mem_append.2
      ⟨deed.not_drains_of_mem_happenings (feed.not_drains_of_mem_moves here), ih _ later⟩

@[inherit_doc Feed.not_drains_of_mem_runHappenings]
theorem Session.not_drains_of_mem_runHappenings {deeds : List Deed}
    (session : Session MemoryDevice) (others : ∀ deed ∈ deeds, deed.operation.drains = false) :
    ∀ happening ∈ session.runHappenings deeds, happening.drains = false := by
  induction deeds generalizing session with
  | nil => exact List.forall_mem_nil _
  | cons deed rest ih =>
    obtain ⟨here, later⟩ := List.forall_mem_cons.1 others
    exact List.forall_mem_append.2
      ⟨deed.not_drains_of_mem_happenings (session.not_drains_of_mem_moves here), ih _ later⟩

/-! ### What a happening does to the frames -/

/-- A move that hands frames out. -/
def Move.HandsOut : Move → Prop
  | .write .. | .drain _ => True
  | _ => False

/-- In every other move nothing leaves the ring. -/
theorem Ring.hands_nothing_out {move : Move} (ring : Ring) (other : ¬ move.HandsOut) :
    (ring.after move).framesConsumed = ring.framesConsumed ∧ ring.leaving move = [] := by
  cases move with
  | write _ _ _ => exact absurd trivial other
  | drain _ => exact absurd trivial other
  | take frames => exact ⟨observe_accept framesConsumed (fun _ _ _ _ _ => rfl) ring frames, rfl⟩
  | drop frames => exact ⟨observe_accept framesConsumed (fun _ _ _ _ _ => rfl) ring frames, rfl⟩
  | start answer => cases answer <;> exact ⟨rfl, rfl⟩
  | _ => exact ⟨rfl, rfl⟩

/-- What a device in memory has taken and still holds, and what it is made for. -/
def MemoryDevice.stock (device : MemoryDevice) : ByteArray × Nat × Nat × Nat :=
  (device.written, device.backlogFrames, device.frameSize, device.capacityFrames)

namespace Scene

/-- The bytes that leave the ring in a happening. -/
def leaving (scene : Scene) : Happening → List UInt8
  | .move move => scene.ring.leaving move
  | .probe _ => []

/-- The frames that the device plays in a happening. -/
def playing (scene : Scene) : Happening → Nat
  | .probe (.play limit) => (scene.device.playFrames limit).2
  | _ => 0

/-- The waiting frames that a device discards in a happening: when it is stopped or opened anew. -/
def discarding (scene : Scene) : Happening → Nat
  | .move (.stop answer) =>
    scene.device.backlogFrames - (scene.after (.move (.stop answer))).device.backlogFrames
  | .move (.reopen answer) =>
    scene.device.backlogFrames - (scene.after (.move (.reopen answer))).device.backlogFrames
  | _ => 0

/-- A ring, and a device with room for so many frames, that agree on the size of a frame. The device
has taken as many bytes as the ring has handed out. -/
structure Fitted (capacity frameSize : Nat) (scene : Scene) : Prop where
  consistent : scene.ring.Consistent
  ring_eq : scene.ring.geometry.frameSize = frameSize
  device_eq : scene.device.frameSize = frameSize
  capacity_eq : scene.device.capacityFrames = capacity
  backlog_le : scene.device.backlogFrames ≤ capacity
  size_eq : scene.device.written.size = scene.ring.framesConsumed * frameSize

/-- So many frames leave the ring in a happening, and arrive in the device. -/
structure Handles (scene : Scene) (happening : Happening) (taken : Nat) : Prop where
  consumed_eq : (scene.after happening).ring.framesConsumed = scene.ring.framesConsumed + taken
  written_eq : (scene.after happening).device.written.data.toList =
    scene.device.written.data.toList ++ scene.leaving happening
  length_eq : (scene.leaving happening).length = taken * scene.ring.geometry.frameSize
  room : taken ≤ scene.device.capacityFrames - scene.device.backlogFrames
  backlog_eq : scene.device.backlogFrames + taken =
    (scene.after happening).device.backlogFrames + scene.playing happening +
      scene.discarding happening
  frameSize_eq : (scene.after happening).device.frameSize = scene.device.frameSize
  capacity_eq : (scene.after happening).device.capacityFrames = scene.device.capacityFrames

variable {scene last : Scene} {happening : Happening} {happenings : List Happening}
  {capacity frameSize : Nat}

/-- A happening in which nothing leaves the ring, and waiting frames are played or discarded. -/
theorem Handles.spent {backlog : Nat}
    (quiet : (scene.after happening).ring.framesConsumed = scene.ring.framesConsumed ∧
      scene.leaving happening = [])
    (same : (scene.after happening).device.stock =
      (scene.device.written, backlog, scene.device.frameSize, scene.device.capacityFrames))
    (spent : scene.device.backlogFrames =
      backlog + scene.playing happening + scene.discarding happening) :
    Handles scene happening 0 := by
  obtain ⟨consumed, leaving⟩ := quiet
  simp only [MemoryDevice.stock, Prod.mk.injEq] at same
  obtain ⟨written, waiting, frameSize, capacity⟩ := same
  refine ⟨consumed, ?_, ?_, Nat.zero_le _, ?_, frameSize, capacity⟩
  · rw [written, leaving, List.append_nil]
  · rw [leaving, List.length_nil, Nat.zero_mul]
  · rw [waiting]
    exact spent

/-- A happening in which nothing leaves the ring and the device holds what it held. -/
theorem Handles.still
    (quiet : (scene.after happening).ring.framesConsumed = scene.ring.framesConsumed ∧
      scene.leaving happening = [])
    (same : (scene.after happening).device.stock = scene.device.stock)
    (played : scene.playing happening = 0) (discarded : scene.discarding happening = 0) :
    Handles scene happening 0 := by
  refine .spent quiet same ?_
  rw [played, discarded]
  rfl

/-- The unread bytes are the queued frames. -/
theorem Fitted.size_contents (fitted : scene.Fitted capacity frameSize) :
    scene.ring.storage.contents.size = scene.ring.queuedFrames * frameSize := by
  have stored : scene.ring.storage.contents.data.toList.length = scene.ring.storage.length := by
    rw [ByteRing.toList_contents, ByteRing.length_toList]
  rw [← fitted.ring_eq, ← fitted.consistent.available_eq, ByteRing.available, ← stored,
    Array.length_toList]
  rfl

/-- What the device takes of the unread bytes is what the ring hands out. -/
theorem Fitted.handles_write (fitted : scene.Fitted capacity frameSize) {delivery : Delivery}
    {answer : Except Error Nat}
    (answered : (Device.write scene.device scene.ring.storage.contents).result = answer) :
    ∃ taken, Handles scene (.move (.write delivery scene.ring.storage.contents answer)) taken := by
  have size := fitted.size_contents
  have positive := fitted.consistent.frameSize_pos
  rw [fitted.ring_eq] at positive
  rcases scene.device.write_cases scene.ring.storage.contents with
    ⟨taken, taken_eq, given, left⟩ | ⟨error, lost, failed, left⟩
  · obtain rfl := given.symm.trans answered
    rw [size, fitted.device_eq, Nat.mul_div_cancel _ positive] at taken_eq
    -- the unread bytes bound what the device takes, so the ring has as much to hand out
    have queued : min taken scene.ring.queuedFrames = taken := by omega
    have enough : taken * frameSize ≤ scene.ring.queuedFrames * frameSize :=
      Nat.mul_le_mul_right _ (by omega)
    have leaving : scene.leaving (.move (.write delivery scene.ring.storage.contents (.ok taken))) =
        (scene.ring.storage.contents.extract 0 (taken * frameSize)).data.toList := by
      rw [Scene.leaving, Ring.leaving, queued, fitted.ring_eq]
    refine ⟨taken, ?_, ?_, ?_, by omega, ?_, ?_, ?_⟩
    · show scene.ring.framesConsumed + min taken scene.ring.queuedFrames = _
      rw [queued]
    · refine (congrArg (·.written.data.toList) left).trans ?_
      rw [leaving, ← fitted.device_eq, ← Array.toList_append, ← ByteArray.data_append]
    · rw [leaving, Array.length_toList, ByteArray.size_data, ByteArray.size_extract, size,
        fitted.ring_eq]
      omega
    · exact (congrArg (·.backlogFrames) left).symm
    · exact congrArg (·.frameSize) left
    · exact congrArg (·.capacityFrames) left
  · obtain rfl := failed.symm.trans answered
    exact ⟨0, .still ⟨rfl, rfl⟩ (congrArg (·.stock) left) rfl rfl⟩

/-- A stop discards what waits. -/
theorem handles_stop (scene : Scene) (answer : Except Error Unit) :
    Handles scene (.move (.stop answer)) 0 := by
  have left : (Device.stop scene.device).device.stock =
      (scene.device.written, 0, scene.device.frameSize, scene.device.capacityFrames) := rfl
  refine .spent (scene.ring.hands_nothing_out id) left ?_
  show scene.device.backlogFrames = 0 + 0 + (scene.device.backlogFrames - 0)
  omega

/-- A device that is opened anew has discarded what waited. -/
theorem handles_reopen (scene : Scene) (answer : Except Error Unit) :
    Handles scene (.move (.reopen answer)) 0 := by
  have quiet : (scene.ring.after (.reopen answer)).framesConsumed = scene.ring.framesConsumed ∧
      scene.ring.leaving (.reopen answer) = [] := scene.ring.hands_nothing_out id
  rcases scene.device.reopen_cases with ⟨_, left⟩ | ⟨_, _, _, left⟩
  · have empty : (scene.after (.move (.reopen answer))).device.backlogFrames = 0 :=
      congrArg (·.backlogFrames) left
    refine .spent quiet (congrArg (·.stock) left) ?_
    simp only [playing, discarding, empty, Nat.sub_zero, Nat.zero_add]
  · have same : (scene.after (.move (.reopen answer))).device.backlogFrames =
        scene.device.backlogFrames := congrArg (·.backlogFrames) left
    refine .still quiet (congrArg (·.stock) left) rfl ?_
    simp only [discarding, same, Nat.sub_self]

/-- A start neither takes nor discards anything. -/
theorem handles_start (scene : Scene) (answer : Except Error Unit) :
    Handles scene (.move (.start answer)) 0 := by
  refine .still (scene.ring.hands_nothing_out id) ?_ rfl rfl
  rcases scene.device.start_cases with ⟨_, left⟩ | ⟨_, _, left⟩
  · exact congrArg (·.stock) left
  · exact congrArg (·.stock) left

theorem handles_probe (scene : Scene) (probe : Probe) : Handles scene (.probe probe) 0 := by
  cases probe with
  | play limit =>
    refine .spent ⟨rfl, rfl⟩ rfl ?_
    show scene.device.backlogFrames =
      scene.device.backlogFrames - min limit scene.device.backlogFrames +
        min limit scene.device.backlogFrames + 0
    omega
  | _ => exact .still ⟨rfl, rfl⟩ rfl rfl rfl

/-- **What leaves the ring in a happening arrives in the device**, unless it is drained. -/
theorem Fitted.handles (fitted : scene.Fitted capacity frameSize) (allows : scene.Allows happening)
    (undrained : happening.drains = false) : ∃ taken, Handles scene happening taken := by
  cases happening with
  | probe probe => exact ⟨0, scene.handles_probe probe⟩
  | move move =>
    obtain ⟨allowed, answered⟩ := allows
    cases move with
    | write delivery offered answer =>
      obtain ⟨_, _, rfl, _⟩ := allowed
      exact fitted.handles_write (answered _ rfl)
    | stop answer => exact ⟨0, scene.handles_stop answer⟩
    | reopen answer => exact ⟨0, scene.handles_reopen answer⟩
    | start answer => exact ⟨0, scene.handles_start answer⟩
    | drain _ => cases undrained
    | _ => exact ⟨0, .still (scene.ring.hands_nothing_out id) rfl rfl rfl⟩

/-- So ring and device go on to fit. -/
theorem Fitted.after (fitted : scene.Fitted capacity frameSize)
    (undrained : happening.drains = false) (allows : scene.Allows happening) :
    (scene.after happening).Fitted capacity frameSize := by
  obtain ⟨taken, handles⟩ := fitted.handles allows undrained
  have geometry : (scene.after happening).ring.geometry = scene.ring.geometry := by
    cases happening with
    | probe _ => rfl
    | move move => exact Ring.geometry_after _ _
  refine ⟨?_, ?_, handles.frameSize_eq.trans fitted.device_eq,
    handles.capacity_eq.trans fitted.capacity_eq, ?_, ?_⟩
  · cases happening with
    | probe _ => exact fitted.consistent
    | move move => exact fitted.consistent.after allows.1
  · rw [geometry, fitted.ring_eq]
  · have room := handles.room
    have balance := handles.backlog_eq
    have before := fitted.backlog_le
    rw [fitted.capacity_eq] at room
    omega
  · have sizes := congrArg List.length handles.written_eq
    rw [List.length_append, handles.length_eq, Array.length_toList, Array.length_toList,
      ByteArray.size_data, ByteArray.size_data, fitted.size_eq, fitted.ring_eq] at sizes
    rw [sizes, handles.consumed_eq, Nat.add_mul]

/-! ### Chains of happenings -/

/-- From one scene to a later one, such bytes left the ring and arrived in the device, where so many
frames were played and so many discarded on the way. -/
structure Delivers (scene last : Scene) (left : List UInt8) (played discarded : Nat) : Prop where
  written_eq : last.device.written.data.toList = scene.device.written.data.toList ++ left
  frames_eq : last.ring.framesConsumed + scene.device.backlogFrames =
    scene.ring.framesConsumed + (last.device.backlogFrames + played + discarded)

theorem Handles.delivers {taken : Nat} (handles : Handles scene happening taken) :
    Delivers scene (scene.after happening) (scene.leaving happening) (scene.playing happening)
      (scene.discarding happening) := by
  have consumed := handles.consumed_eq
  have balance := handles.backlog_eq
  exact ⟨handles.written_eq, by omega⟩

theorem Delivers.trans {middle : Scene} {left_first left_second : List UInt8}
    {played_first played_second discarded_first discarded_second : Nat}
    (before : Delivers scene middle left_first played_first discarded_first)
    (behind : Delivers middle last left_second played_second discarded_second) :
    Delivers scene last (left_first ++ left_second) (played_first + played_second)
      (discarded_first + discarded_second) := by
  have first := before.frames_eq
  have second := behind.frames_eq
  refine ⟨?_, by omega⟩
  rw [behind.written_eq, before.written_eq, List.append_assoc]

theorem leavingAll_moves_cons (scene : Scene) (happening : Happening)
    (happenings : List Happening) :
    scene.ring.leavingAll (Happening.moves (happening :: happenings)) =
      scene.leaving happening ++
        (scene.after happening).ring.leavingAll (Happening.moves happenings) := by
  cases happening <;> rfl

/-- **What leaves the ring in a chain of happenings arrives in the device.** -/
theorem Makes.delivers (made : scene.Makes happenings last)
    (fitted : scene.Fitted capacity frameSize)
    (undrained : ∀ happening ∈ happenings, happening.drains = false) :
    Delivers scene last (scene.ring.leavingAll (Happening.moves happenings))
      (scene.total playing happenings) (scene.total discarding happenings) := by
  induction made with
  | nil scene => exact ⟨(List.append_nil _).symm, rfl⟩
  | @cons scene last happening happenings allows _ ih =>
    obtain ⟨here, later⟩ := List.forall_mem_cons.1 undrained
    obtain ⟨taken, handles⟩ := fitted.handles allows here
    rw [leavingAll_moves_cons]
    exact handles.delivers.trans (ih (fitted.after here allows) later)

/-- **What is known of a ring and a new device after happenings** with such moves, which lead to the
last scene. The device has taken what the ring has handed out, byte for byte; it never holds more
than it has room for; and each frame that it has taken waits, was played, or was discarded. -/
structure AllDelivered (scene : Scene) (capacity frameSize : Nat) (moves : List Move)
    (happenings : List Happening) (last : Scene) : Prop where
  reaches : happenings.foldl after scene = last
  written_eq : last.device.written.data.toList = scene.ring.leavingAll moves
  size_eq : last.device.written.size = last.ring.framesConsumed * frameSize
  backlog_le : ∀ before, before <+: happenings →
    (before.foldl after scene).device.backlogFrames ≤ capacity
  frames_eq : last.ring.framesConsumed =
    last.device.backlogFrames + scene.total playing happenings +
      scene.total discarding happenings

/-- A new ring and a new device with frames of the same size fit, and have done nothing yet. -/
theorem fitted_of_new {format : Format} {lowMs highMs : Nat}
    (created : Ring.create format lowMs highMs = .ok scene.ring)
    (made : MemoryDevice.writeThrough capacity frameSize = .ok scene.device)
    (same : scene.ring.geometry.frameSize = frameSize) :
    scene.Fitted capacity frameSize ∧ scene.device.written = .empty ∧
      scene.ring.framesConsumed = 0 ∧ scene.device.backlogFrames = 0 := by
  have consistent := Ring.consistent_create created
  have ring_eq := (Ring.of_create_eq_ok created).1
  have device_eq := (MemoryDevice.of_writeThrough_eq_ok made).2
  obtain ⟨ring, device⟩ := scene
  dsimp only at consistent ring_eq device_eq same ⊢
  subst ring_eq device_eq
  exact ⟨⟨consistent, same, rfl, rfl, Nat.zero_le _, (Nat.zero_mul _).symm⟩, rfl, rfl, rfl⟩

theorem Makes.allDelivered {format : Format} {lowMs highMs : Nat}
    (happened : scene.Makes happenings last)
    (created : Ring.create format lowMs highMs = .ok scene.ring)
    (made : MemoryDevice.writeThrough capacity frameSize = .ok scene.device)
    (same : scene.ring.geometry.frameSize = frameSize)
    (undrained : ∀ happening ∈ happenings, happening.drains = false) :
    scene.AllDelivered capacity frameSize (Happening.moves happenings) happenings last := by
  obtain ⟨start, unwritten, unused, empty⟩ := fitted_of_new created made same
  have fits := happened.invariant (fun _ _ fitted here allows => fitted.after here allows)
    undrained start
  have final := fits happenings List.prefix_rfl
  rw [happened.foldl_after] at final
  have delivers := happened.delivers start undrained
  refine ⟨happened.foldl_after, ?_, final.size_eq, ?_, ?_⟩
  · rw [delivers.written_eq, unwritten]
    rfl
  · intro before front
    exact (fits before front).backlog_le
  · have balance := delivers.frames_eq
    omega

end Scene

/-- **What leaves a ring arrives in its device, along every run** of a new ring and a new
write-through device with frames of the same size, on the ring itself or through a session with any
policy, however the device is probed. -/
theorem Feed.delivered_along_runs {feed : Feed MemoryDevice} {format : Format}
    {lowMs highMs capacity frameSize : Nat}
    (created : Ring.create format lowMs highMs = .ok feed.ring)
    (made : MemoryDevice.writeThrough capacity frameSize = .ok feed.device)
    (same : feed.ring.geometry.frameSize = frameSize) (deeds : List Deed)
    (undrained : ∀ deed ∈ deeds, deed.operation.drains = false) :
    feed.scene.AllDelivered capacity frameSize (feed.runMoves (deeds.map Deed.operation))
        (feed.runHappenings deeds) (feed.run (deeds.map Deed.operation)).scene ∧
      ∀ policy : RecoveryPolicy,
        feed.scene.AllDelivered capacity frameSize
          ((Session.mk feed policy).runMoves (deeds.map Deed.operation))
          ((Session.mk feed policy).runHappenings deeds)
          ((Session.mk feed policy).run (deeds.map Deed.operation)).feed.scene := by
  constructor
  · rw [← feed.moves_runHappenings]
    exact (feed.makes_run deeds).allDelivered created made same
      (feed.not_drains_of_mem_runHappenings undrained)
  · intro policy
    rw [← Session.moves_runHappenings]
    exact ((Session.mk feed policy).makes_run deeds).allDelivered created made same
      ((Session.mk feed policy).not_drains_of_mem_runHappenings undrained)

/-- A device with room for three frames plays one, is lost when it is written to, is opened anew at
the second try, and is lost again and does not start. -/
theorem Feed.delivered_with_lost_device :
    let format : Format := ⟨.i16, 1, 500, none⟩
    let device : MemoryDevice := { delivery := .writeThrough, frameSize := 2, capacityFrames := 3 }
    let feed : Feed MemoryDevice := ⟨Ring.ofFormat format 1 4, device, #[]⟩
    let session : Session MemoryDevice := ⟨feed, ⟨2, 0⟩⟩
    let deeds : List Deed :=
      [.operate (.queue ⟨#[1, 2, 3, 4]⟩) rfl, .probe (.play 1), .operate (.queue ⟨#[5]⟩) rfl,
        .operate (.queueSamples Int16 [6, 7, 8]) rfl, .probe (.failWrite (.deviceLost "")),
        .probe (.failReopens 1), .operate (.queue ⟨#[9, 10]⟩) rfl, .probe .lose,
        .probe (.failStart .underrun), .operate (.queue ⟨#[11, 12]⟩) rfl, .operate .reset rfl]
    Ring.create format 1 4 = .ok feed.ring ∧
      MemoryDevice.writeThrough 3 2 = .ok feed.device ∧ feed.ring.geometry.frameSize = 2 ∧
        (∀ deed ∈ deeds, deed.operation.drains = false) ∧
          feed.scene.AllDelivered 3 2 (feed.runMoves (deeds.map Deed.operation))
              (feed.runHappenings deeds) (feed.run (deeds.map Deed.operation)).scene ∧
            feed.scene.AllDelivered 3 2 (session.runMoves (deeds.map Deed.operation))
              (session.runHappenings deeds)
              (session.run (deeds.map Deed.operation)).feed.scene := by
  intro format device feed session deeds
  have created : Ring.create format 1 4 = .ok feed.ring := rfl
  have made : MemoryDevice.writeThrough 3 2 = .ok feed.device := rfl
  have undrained : ∀ deed ∈ deeds, deed.operation.drains = false := by
    simp [deeds, Deed.operation, Operation.drains]
  have delivered := delivered_along_runs created made rfl deeds undrained
  exact ⟨created, made, rfl, undrained, delivered.1, delivered.2 ⟨2, 0⟩⟩

end Playout
