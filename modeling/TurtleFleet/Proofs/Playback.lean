import TurtleFleet.Proofs.Overfull
import TurtleFleet.Proofs.Schedule

/-! Animations played to their end. Whatever numbers an animation has, it goes on until one tick less
than its duration is played, ends with the next tick, and then nothing happens any more. What has been
played already counts, even if that is more than the duration. -/

namespace TurtleFleet

namespace Wire

variable {α β : Type}

/-- The reader finds this value among the fields of an object. -/
def Finds (reader : RecordReader α) (fields : List (String × Json)) (value : α) : Prop :=
  reader (.named fields) = some (value, .named fields)

namespace Finds

variable {fields : List (String × Json)}

theorem pure (value : α) : Finds (Pure.pure value) fields value := rfl

theorem bind {first : RecordReader α} {next : α → RecordReader β} {value : α} {result : β}
    (finds : Finds first fields value) (later : Finds (next value) fields result) :
    Finds (first >>= next) fields result := by
  show (first (.named fields)).bind _ = _
  rw [finds]
  exact later

theorem required {name : String} {read : Json → Option α} {json : Json} {value : α}
    (found : fields.lookup name = some json) (reads : read json = some value) :
    Finds (Wire.required name read) fields value := by
  have next : nextField name (.named fields) = some (some json, Record.named fields) := by
    simp only [nextField, found]
  have started : Wire.required name read (.named fields) =
      (read json).bind fun value => some (value, Record.named fields) := by
    simp only [Wire.required, Bind.bind, StateT.bind, next, Option.bind_some]
    rfl
  rw [Finds, started, reads, Option.bind_some]

theorem record? {reader : RecordReader α} {value : α} (finds : Finds reader fields value) :
    Wire.record? reader (.obj fields) = some value := by
  rw [Wire.record?, finds]
  rfl

end Finds

theorem count?_of_lt {bound number : Nat} (small : number < bound) :
    count? bound (.int number) = some number := by
  have within : (0 : Int) ≤ number ∧ (number : Int) < bound := by omega
  simp only [count?, number?, if_pos within, Option.map_some, Int.toNat_natCast]

end Wire

theorem AnimationKind.decode?_encode (kind : AnimationKind) :
    Wire.decode? (Wire.encode kind) = some kind := by
  cases kind <;> rfl

namespace Animation

/-- The numbers of an animation fit their words. -/
structure Words (animation : Animation) : Prop where
  progress : animation.progress < word32
  duration : animation.duration < word32

def after (animation : Animation) : Nat → Animation
  | 0 => animation
  | ticks + 1 => animation.tick.2.after ticks

def answers (animation : Animation) : Nat → List Bool
  | 0 => []
  | ticks + 1 => animation.tick.1 :: animation.tick.2.answers ticks

/-- An animation that goes on at so many ticks and ends with the next one. -/
structure EndsAfter (animation : Animation) (ticks : Nat) : Prop where
  answers : ∀ total, animation.answers total =
    List.replicate (min total ticks) true ++ List.replicate (total - ticks) false
  progresses : ∀ played ≤ ticks,
    animation.after played = { animation with progress := animation.progress + played }
  below : ∀ played ≤ ticks, 0 < played → animation.progress + played < animation.duration
  ended : ∀ played > ticks, animation.after played = { animation with kind := .none, progress := 0 }

/-- What a turtle whose animations last so long may play: nothing at first, and then what is begun and
goes on. -/
inductive Timed (duration : Nat) : Animation → Prop where
  | idle : Timed duration (idle duration)
  | begun {before after : Animation} {kind : AnimationKind} (timed : Timed duration before)
      (begins : before.begin kind = .ok after) : Timed duration after
  | ticked {before : Animation} (timed : Timed duration before) : Timed duration before.tick.2

/-! ### The numbers that can be read -/

/-- What is written can be read, if the numbers fit their words. -/
theorem Words.decode?_encode {animation : Animation} (words : animation.Words) :
    Wire.decode? (Wire.encode animation) = some animation := by
  have kind := animation.kind.decode?_encode
  have progress := Wire.count?_of_lt words.progress
  have duration := Wire.count?_of_lt words.duration
  exact Wire.Finds.record? (.bind (.required rfl kind) (.bind (.required rfl progress)
    (.bind (.required rfl duration) (.pure animation))))

theorem words_of_decode? {json : Json} {animation : Animation}
    (read : Wire.decode? json = some animation) : animation.Words := by
  have word {name : String} : Wire.Yields (Wire.required name (Wire.count? word32)) (· < word32) :=
    .required fun _ _ => Wire.lt_of_count?
  refine Wire.Yields.record? (.bind (.required fun _ _ _ => trivial : Wire.Yields _ fun _ => True)
    fun _ _ => .bind word fun _ progress => .bind word fun _ duration => .pure ?_) read
  exact ⟨progress, duration⟩

/-! ### All ticks -/

section

variable {animation : Animation}

theorem after_of_still (still : animation.playing = false) (ticks : Nat) :
    animation.after ticks = animation := by
  induction ticks with
  | zero => rfl
  | succ ticks ih => rw [after, tick_of_still still, ih]

theorem answers_of_still (still : animation.playing = false) (ticks : Nat) :
    animation.answers ticks = List.replicate ticks false := by
  induction ticks with
  | zero => rfl
  | succ ticks ih => rw [answers, tick_of_still still, ih, List.replicate_succ]

theorem EndsAfter.of_last (last : animation.tick = (false, animation.reset)) :
    animation.EndsAfter 0 where
  answers total := by
    cases total with
    | zero => rfl
    | succ total =>
      rw [Animation.answers, last, answers_of_still rfl]
      simp [List.replicate_succ]
  progresses played first := by
    obtain rfl := Nat.le_zero.mp first
    rfl
  below played first later := by omega
  ended played later := by
    obtain ⟨before, rfl⟩ := Nat.exists_eq_add_one.mpr later
    rw [after, last, after_of_still rfl]
    rfl

theorem EndsAfter.of_more {ticks : Nat} (more : animation.progress + 1 < animation.duration)
    (ticked : animation.tick = (true, { animation with progress := animation.progress + 1 }))
    (later : EndsAfter { animation with progress := animation.progress + 1 } ticks) :
    animation.EndsAfter (ticks + 1) where
  answers total := by
    cases total with
    | zero => simp [Animation.answers]
    | succ total =>
      rw [Animation.answers, ticked, later.answers, Nat.succ_min_succ, Nat.add_sub_add_right,
        List.replicate_succ, List.cons_append]
  progresses played within := by
    cases played with
    | zero => rfl
    | succ played =>
      rw [after, ticked, later.progresses played (by omega)]
      simp only [Nat.add_assoc, Nat.add_comm 1]
  below played within some := by
    cases played with
    | zero => cases some
    | succ played =>
      rcases Nat.eq_zero_or_pos played with rfl | some
      · exact more
      · have below := later.below played (by omega) some
        simp only at below
        omega
  ended played beyond := by
    cases played with
    | zero => cases beyond
    | succ played => rw [after, ticked, later.ended played (by omega)]

/-- The induction is on the ticks at which the animation goes on. -/
theorem endsAfter_of_playing (plays : animation.playing = true)
    (fits : animation.duration < word32) :
    animation.EndsAfter (max 1 (animation.duration - animation.progress) - 1) := by
  generalize count : max 1 (animation.duration - animation.progress) - 1 = ticks
  induction ticks generalizing animation with
  | zero =>
    have last : animation.duration ≤ animation.progress + 1 := by omega
    exact .of_last (tick_of_last plays fits last)
  | succ ticks ih =>
    have more : animation.progress + 1 < animation.duration := by omega
    refine .of_more more (tick_of_more plays fits more) (ih plays fits ?_)
    show max 1 (animation.duration - (animation.progress + 1)) - 1 = ticks
    omega

/-! ### Animations that are begun -/

theorem Timed.duration {duration : Nat} (timed : animation.Timed duration) :
    animation.duration = max duration 1 := by
  induction timed with
  | idle => rfl
  | begun timed begins ih => exact (BeginsOnce.duration (.inr ⟨_, begins⟩)).trans ih
  | ticked timed ih => exact (duration_tick _).trans ih

/-- What is begun goes on at all ticks of its span but the last one. -/
theorem Timed.begins {duration : Nat} (timed : animation.Timed duration) (long : 0 < duration)
    (fits : duration < word32) (still : animation.playing = false) {kind : AnimationKind}
    (real : kind ≠ .none) :
    ∃ begun, animation.begin kind = .ok begun ∧ begun.kind = kind ∧
      begun.EndsAfter (span kind duration - 1) := by
  have lasts : animation.duration = duration := by
    rw [timed.duration]
    omega
  let begun : Animation := { animation with kind, progress := start kind animation.duration }
  have plays : begun.playing = true := by simpa [begun, playing] using real
  have count : max 1 (begun.duration - begun.progress) - 1 = span kind duration - 1 := by
    simp only [begun, lasts, start, span]
    split <;> omega
  have ends := endsAfter_of_playing plays (lasts ▸ fits)
  exact ⟨begun, begin_of_still still real, rfl, count ▸ ends⟩

end

/-- Every animation that plays ends with the tick that its numbers tell, whatever they are; and all
numbers that fit their words can be read. What is begun when nothing plays lasts for its span, whatever
was played before. -/
theorem animations_end_on_time :
    (∀ animation : Animation, animation.Words ↔ ∃ json, Wire.decode? json = some animation) ∧
      (∀ animation : Animation, animation.Words → animation.playing = true →
        animation.EndsAfter (max 1 (animation.duration - animation.progress) - 1)) ∧
      ∀ duration, 0 < duration → duration < word32 → ∀ animation : Animation,
        animation.Timed duration → animation.playing = false → ∀ kind ≠ .none,
          ∃ begun, animation.begin kind = .ok begun ∧ begun.kind = kind ∧
            begun.EndsAfter (span kind duration - 1) := by
  refine ⟨fun animation => ⟨fun words => ?_, ?_⟩, fun animation words plays => ?_, ?_⟩
  · exact ⟨_, words.decode?_encode⟩
  · rintro ⟨json, read⟩
    exact words_of_decode? read
  · exact endsAfter_of_playing plays words.duration
  · intro duration long fits animation timed still kind real
    exact timed.begins long fits still real

/-- An animation with more progress than its duration, one of the longest duration, and a short wait of
an odd duration after a turn that was played to its end. -/
theorem animations_end_on_time_encore :
    EndsAfter ⟨.wait, 9, 0⟩ 0 ∧ EndsAfter ⟨.moveUp, 2, word32 - 1⟩ (word32 - 4) ∧
      EndsAfter ⟨.shortWait, 3, 7⟩ 3 := by
  obtain ⟨_, every, timed⟩ := animations_end_on_time
  refine ⟨every ⟨.wait, 9, 0⟩ ⟨by decide, by decide⟩ rfl,
    every ⟨.moveUp, 2, word32 - 1⟩ ⟨by decide, by decide⟩ rfl, ?_⟩
  have turns : (idle 7).begin .turnLeft = .ok ⟨.turnLeft, 0, 7⟩ := rfl
  have turned : Timed 7 ⟨.turnLeft, 0, 7⟩ := .begun .idle turns
  have rested : Timed 7 ⟨.none, 0, 7⟩ := turned.ticked.ticked.ticked.ticked.ticked.ticked.ticked
  obtain ⟨begun, begins, _, ends⟩ := timed 7 (by decide) (by decide) _ rested rfl .shortWait nofun
  cases begins
  exact ends

end Animation

end TurtleFleet
