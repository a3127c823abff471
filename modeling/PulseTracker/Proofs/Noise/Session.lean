import PulseTracker.Proofs.Noise.Stall
import PulseTracker.Proofs.Synth.Tick
import PulseTracker.Song.Stream

/-!
# The noise register of a session

The samples of a stream clock the noise register in the mode of the song that
plays at the time.  A session, which lasts from one reset to the next, is thus a
list of modes, and the register is the initial one after clocks in these modes.
-/

namespace PulseTracker

/-! ## Clocks of one sample -/

theorem NoiseVoice.advance_register (period : Nat) (short : Bool) (voice : NoiseVoice) :
    (voice.advance period short).register =
      if voice.countdown ≤ 1 then voice.register.clock short else voice.register := by
  have hcount : max countdownMin (voice.countdown - 1) ≤ 0 ↔ voice.countdown ≤ 1 := by
    unfold countdownMin
    omega
  simp only [advance, hcount]
  split <;> rfl

def Cursor.clocks (chord : Chord) (cursor : Cursor) : Bool :=
  chord.noisePeriod.isSome &&
    (cursor.offset = 0 || cursor.oscillators.noise.countdown ≤ 1)

theorem Cursor.sounding_register (chord : Chord) (short : Bool) (cursor : Cursor) :
    (cursor.sounding chord short).noise.register =
      if cursor.clocks chord then cursor.oscillators.noise.register.clock short
      else cursor.oscillators.noise.register := by
  cases hperiod : chord.noisePeriod with
  | none => simp [sounding, Oscillators.advance, Oscillators.arm, clocks, hperiod]
  | some period =>
      by_cases hoffset : cursor.offset = 0 <;>
        simp [sounding, Oscillators.advance, Oscillators.arm, clocks, hperiod, hoffset,
          NoiseVoice.advance_register]

namespace Synth

variable (synth : Synth) (pattern : Pattern) (bpm : UInt32) (voicing : Voicing)

def clocksNext (cursor : Cursor) : Bool :=
  let here := cursor.settle (synth.stepLength bpm)
  here.step < pattern.steps && here.clocks (synth.chordAt pattern here.step)

def clockCount : Nat → Cursor → Nat
  | 0, _ => 0
  | count + 1, cursor =>
      (synth.clocksNext pattern bpm cursor).toNat +
        clockCount count (synth.tick pattern bpm voicing cursor).1

theorem tick_register (cursor : Cursor) :
    (synth.tick pattern bpm voicing cursor).1.oscillators.noise.register =
      if synth.clocksNext pattern bpm cursor
      then cursor.oscillators.noise.register.clock voicing.shortNoise
      else cursor.oscillators.noise.register := by
  by_cases hhere : (cursor.settle (synth.stepLength bpm)).step < pattern.steps
  · have hstep := Nat.lt_of_le_of_lt (Cursor.le_settle_step _ cursor) hhere
    rw [tick_settle synth pattern bpm voicing hstep,
      tick_of_lt synth pattern bpm voicing hhere
        (Cursor.settle_offset_lt (synth.stepLength_pos bpm) cursor),
      Cursor.settle_oscillators, Cursor.sounding_register]
    simp [clocksNext, hhere]
  · -- no sample is left, at the cursor itself or at the step it settles on
    have hnone : synth.clocksNext pattern bpm cursor = false := by simp [clocksNext, hhere]
    rw [hnone]
    by_cases hstep : cursor.step < pattern.steps
    · rw [tick_settle synth pattern bpm voicing hstep,
        tick_of_finished synth pattern bpm voicing (Nat.not_lt.mp hhere)]
      simp
    · rw [tick_of_finished synth pattern bpm voicing (Nat.not_lt.mp hstep)]
      simp

theorem ticks_register (count : Nat) (cursor : Cursor) :
    (synth.ticks pattern bpm voicing count cursor).1.oscillators.noise.register =
      cursor.oscillators.noise.register.clocks
        (List.replicate (synth.clockCount pattern bpm voicing count cursor)
          voicing.shortNoise) := by
  induction count generalizing cursor with
  | zero => rfl
  | succ count ih =>
      simp only [ticks, clockCount]
      rw [ih, tick_register, ← List.replicate_append_replicate, NoiseRegister.clocks_append]
      cases synth.clocksNext pattern bpm cursor <;> rfl

end Synth

/-! ## Sessions of a stream -/

namespace SongStream

inductive Action where
  | fill (room : Nat)
  | exchange (song : Song)
  | reset

def act (stream : SongStream) : Action → SongStream
  | .fill room => (stream.next room).1
  | .exchange song => stream.setSong song
  | .reset => stream.reset

def run (stream : SongStream) (actions : List Action) : SongStream :=
  actions.foldl act stream

def register (stream : SongStream) : NoiseRegister := stream.cursor.oscillators.noise.register

def clocksAfter (stream : SongStream) (modes : List Bool) : Action → List Bool
  | .fill room =>
      modes ++ List.replicate
        (stream.synth.clockCount stream.song.pattern stream.song.tempo stream.voicing
          room stream.cursor) stream.voicing.shortNoise
  | .exchange _ => modes
  | .reset => []

/-- The modes of all clocks since the last reset. -/
def session : SongStream → List Bool → List Action → List Bool
  | _, modes, [] => modes
  | stream, modes, action :: actions =>
      session (stream.act action) (stream.clocksAfter modes action) actions

theorem act_register {stream : SongStream} {modes : List Bool}
    (h : stream.register = NoiseRegister.initial.clocks modes) (action : Action) :
    (stream.act action).register =
      NoiseRegister.initial.clocks (stream.clocksAfter modes action) := by
  cases action with
  | fill room =>
      simp only [act, register, next, clocksAfter] at h ⊢
      rw [Synth.next_eq_ticks, Synth.ticks_register, NoiseRegister.clocks_append, h]
  | exchange song => exact h
  | reset => rfl

theorem run_register {stream : SongStream} {modes : List Bool}
    (h : stream.register = NoiseRegister.initial.clocks modes) (actions : List Action) :
    (stream.run actions).register =
      NoiseRegister.initial.clocks (stream.session modes actions) := by
  induction actions generalizing stream modes with
  | nil => exact h
  | cons action actions ih => exact ih (act_register h action)

theorem session_of_one_mode {short : Bool} {stream : SongStream} {modes : List Bool}
    {actions : List Action} (hmodes : ∀ mode ∈ modes, mode = short)
    (hstream : stream.voicing.shortNoise = short)
    (hactions : ∀ song, .exchange song ∈ actions → song.shortNoise = short) :
    ∀ mode ∈ stream.session modes actions, mode = short := by
  induction actions generalizing stream modes with
  | nil => exact hmodes
  | cons action actions ih =>
      have hrest : ∀ song, .exchange song ∈ actions → song.shortNoise = short :=
        fun song hsong => hactions song (List.mem_cons_of_mem _ hsong)
      cases action with
      | fill room =>
          refine ih ?_ hstream hrest
          intro mode hmode
          rcases List.mem_append.mp hmode with hold | hnew
          · exact hmodes mode hold
          · rw [List.eq_of_mem_replicate hnew, hstream]
      | exchange song => exact ih hmodes (hactions song (by simp)) hrest
      | reset => exact ih (by simp [clocksAfter]) hstream hrest

/-- A stream that only plays songs of one noise mode never stalls. -/
theorem run_running_of_one_mode (rate : UInt32) (song : Song) (sine : Bool)
    {actions : List Action}
    (hactions : ∀ next, .exchange next ∈ actions → next.shortNoise = song.shortNoise) :
    ((start rate song sine).run actions).register.Running := by
  have hstart : (start rate song sine).register = NoiseRegister.initial.clocks [] := rfl
  rw [run_register hstart actions, NoiseRegister.clocks_running_iff (by decide)]
  exact NoiseRegister.initial_not_stalls song.shortNoise
    (session_of_one_mode (by simp) rfl hactions)

/--
The exact range of the noise register.  A register from any seed keeps fifteen
bits that are not all zero until a short clock finds bit 7 alone, and so does
the register of a stream under any actions, with the clocks of its session.
-/
theorem register_running_iff (seed : UInt16) (modes : List Bool) (rate : UInt32) (song : Song)
    (sine : Bool) (actions : List Action) :
    (((NoiseRegister.ofSeed seed).clocks modes).Running ↔
        ¬ (NoiseRegister.ofSeed seed).Stalls modes) ∧
      (((start rate song sine).run actions).register.Running ↔
        ¬ NoiseRegister.initial.Stalls ((start rate song sine).session [] actions)) := by
  constructor
  · exact NoiseRegister.clocks_running_iff (NoiseRegister.ofSeed_running seed) modes
  · have hstart : (start rate song sine).register = NoiseRegister.initial.clocks [] := rfl
    rw [run_register hstart actions]
    exact NoiseRegister.clocks_running_iff (by decide) _

/-- A short clock turns the register of seed `0x80` to zeros.  The initial register comes to
the same by twenty-two long clocks and a short one. -/
theorem register_stalls_at_bit_seven :
    ¬ ((NoiseRegister.ofSeed 0x80).clocks [true]).Running ∧
      ¬ (NoiseRegister.initial.clocks (List.replicate 22 false ++ [true])).Running := by
  decide

end SongStream

end PulseTracker
