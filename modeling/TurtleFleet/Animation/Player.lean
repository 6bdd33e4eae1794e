import TurtleFleet.Fault
import TurtleFleet.Settings

/-! The animation that a turtle plays, counted in ticks. While one plays no other may begin. -/

namespace TurtleFleet

/-- The animation of a turtle: what is played, the ticks played so far and the ticks of a full
animation. -/
structure Animation where
  kind : AnimationKind
  progress : Nat
  duration : Nat
deriving DecidableEq, Repr

namespace Animation

/-- Nothing is played yet; a duration of zero counts as one. -/
def idle (duration : Nat) : Animation :=
  { kind := .none, progress := 0, duration := max duration 1 }

def playing (animation : Animation) : Bool := animation.kind ≠ .none

def reset (animation : Animation) : Animation := { animation with kind := .none, progress := 0 }

/-- Where an animation of the kind begins: a short wait is already half over. -/
def start (kind : AnimationKind) (duration : Nat) : Nat :=
  if kind = .shortWait then duration / 2 else 0

/-- Begins an animation. It is a fault while another one plays. -/
def begin (animation : Animation) (kind : AnimationKind) : Except Fault Animation :=
  if animation.playing then .error (.stillPlaying kind animation.kind)
  else if kind = .none then .ok animation.reset
  else .ok { animation with kind, progress := start kind animation.duration }

/-- Plays one tick and answers whether the animation goes on. The progress stays within its word. -/
def tick (animation : Animation) : Bool × Animation :=
  if !animation.playing then (false, animation)
  else
    let progress := min (animation.progress + 1) (word32 - 1)
    if animation.duration ≤ progress then (false, animation.reset)
    else (true, { animation with progress })

section

variable {animation : Animation}

theorem tick_of_still (still : animation.playing = false) : animation.tick = (false, animation) := by
  simp [tick, still]

/-- The word of the progress is wide enough wherever the animation goes on. -/
theorem tick_of_more (plays : animation.playing = true) (fits : animation.duration < word32)
    (more : animation.progress + 1 < animation.duration) :
    animation.tick = (true, { animation with progress := animation.progress + 1 }) := by
  have progress : min (animation.progress + 1) (word32 - 1) = animation.progress + 1 := by omega
  simp only [tick, plays, Bool.not_true, Bool.false_eq_true, ↓reduceIte, progress,
    if_neg (Nat.not_le_of_lt more)]

theorem tick_of_last (plays : animation.playing = true) (fits : animation.duration < word32)
    (last : animation.duration ≤ animation.progress + 1) :
    animation.tick = (false, animation.reset) := by
  have reached : animation.duration ≤ min (animation.progress + 1) (word32 - 1) := by omega
  simp only [tick, plays, Bool.not_true, Bool.false_eq_true, ↓reduceIte, if_pos reached]

theorem playing_tick (animation : Animation) :
    animation.tick.2.playing = animation.tick.1 := by
  unfold tick
  cases plays : animation.playing with
  | false => simpa using plays
  | true =>
    simp only [Bool.not_true, Bool.false_eq_true, ↓reduceIte]
    split
    · simp [reset, playing]
    · exact plays

theorem duration_tick (animation : Animation) :
    animation.tick.2.duration = animation.duration := by
  unfold tick
  split
  · rfl
  · dsimp only
    split <;> rfl

theorem begin_of_still (still : animation.playing = false) {kind : AnimationKind}
    (real : kind ≠ .none) :
    animation.begin kind =
      .ok { animation with kind, progress := start kind animation.duration } := by
  rw [begin, if_neg (by simp [still]), if_neg real]

end

/-- The completed part of the animation as a binary32 number; zero when nothing plays. -/
def fraction (animation : Animation) : Float32 :=
  if animation.playing then
    animation.progress.toUInt32.toFloat32 / animation.duration.toUInt32.toFloat32
  else 0

end Animation

end TurtleFleet
