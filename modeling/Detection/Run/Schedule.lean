/-
# The order of work in a run

The frames of a run are taken from its input and worked through one by one, or the first of them
is taken and worked through again and again.  Working through a frame is to detect what it shows
and to put that out; what fails first ends the run.  Where a frame is worked through again and
again the detections are timed, and in the end their times are averaged.

## Main definitions

* `orThrow`: an outcome as a step of a run.
* `workThrough`: taking, detecting and putting out, frame by frame.
* `workAgain`: detecting and putting out what one frame shows, with the times.
* `averageTime`: the average of the times without those for warming up.
* `Schedule.run`: a run over an input.
-/
import Detection.Overflow

namespace Detection

/-- How the frames of a run are worked through. -/
inductive Schedule where
  /-- Each frame once. -/
  | once
  /-- The first frame a number of times, but once at least. -/
  | repeated (rounds : Nat)
deriving DecidableEq, Repr

/-- Why a run ends that neither its detector nor its sink ends. -/
inductive ScheduleFault where
  /-- There was no frame. -/
  | noFrames
  /-- There were more frames than can be counted. -/
  | frameCount
  /-- There are more times to be kept than a list can have. -/
  | capacity
  /-- The times add up to more than can be told. -/
  | totalTime
  /-- The number of times is taken for zero. -/
  | noDivisor
deriving DecidableEq, Repr

/-- The wording of a fault. -/
def ScheduleFault.message : ScheduleFault → String
  | .noFrames => "没有输入帧"
  | .frameCount => "attempt to add with overflow"
  | .capacity => "capacity overflow"
  | .totalTime => "overflow in iter::sum over durations"
  | .noDivisor => "divide by zero error when dividing duration by scalar"

/-! ## Working through frames -/

/-- An outcome as a step: its result, or the fault that is thrown where there is none. -/
def orThrow {m : Type → Type} [Monad m] {ε ε' α : Type} [MonadExceptOf ε' m] (fault : ε → ε') :
    Except ε α → m α
  | .ok value => pure value
  | .error cause => throw (fault cause)

section OrThrow

variable {m : Type → Type} [Monad m] {ε ε' α : Type} [MonadExceptOf ε' m] {fault : ε → ε'}

@[simp] theorem orThrow_ok (value : α) : (orThrow fault (.ok value) : m α) = pure value := rfl

@[simp] theorem orThrow_error (cause : ε) :
    (orThrow fault (.error cause : Except ε α) : m α) = throw (fault cause) := rfl

end OrThrow

/-- Frames are worked through one after the other and counted: taking, detecting, then putting out.
An input is given by the steps that take its frames, so that no frame is taken before it is
needed. -/
def workThrough {m : Type → Type} [Monad m] [Build] {ε α β : Type} [MonadExceptOf ε m]
    (fault : ScheduleFault → ε) (detect : α → m β) (put : α → β → m Unit) :
    Nat → List (m α) → m Nat
  | count, [] => pure count
  | count, next :: rest => do
    let frame ← next
    let count ← orThrow (fun _ => fault .frameCount) (Build.natural (count + 1))
    let found ← detect frame
    put frame found
    workThrough fault detect put count rest

/-- A frame is worked through a number of times.  A clock is read before and after each detection,
and the times are added to those at hand. -/
def workAgain {m : Type → Type} [Monad m] {α β : Type} (clock : m Nat) (detect : α → m β)
    (put : α → β → m Unit) (frame : α) : Nat → Array Nat → m (Array Nat)
  | 0, times => pure times
  | rounds + 1, times => do
    let start ← clock
    let found ← detect frame
    let stop ← clock
    put frame found
    workAgain clock detect put frame rounds (times.push (stop - start))

/-! ## Times -/

/-- The nanoseconds beyond which no time can be told: as many seconds as fit into 64 bits. -/
def timeLimit : Nat :=
  UInt64.size * 1000000000

/-- The times that are averaged: those after the first ones, which are for warming up, or all of
them when there are no others. -/
def measured (times : List Nat) (warmup : Nat) : List Nat :=
  if warmup < times.length then times.drop warmup else times

/-- The average of measured times.  Of their number the last 32 bits are kept. -/
def averageTime (times : List Nat) (warmup : Nat) : Except ScheduleFault (Option Nat) :=
  let total := (measured times warmup).foldl (· + ·) 0
  let divisor := (measured times warmup).length % UInt32.size
  if (measured times warmup).isEmpty then .ok none
  else if timeLimit ≤ total then .error .totalTime
  else if divisor = 0 then .error .noDivisor
  else .ok (some (total / divisor))

/-! ## Runs -/

/-- The largest number of rounds whose times can be kept: each takes 16 bytes. -/
def maxRounds : Nat :=
  0x7fffffffffffffff / 16

/-- The rounds whose times are not averaged. -/
def warmupRounds : Nat := 2

/-- A run over an input; without a frame it fails. -/
def Schedule.run {m : Type → Type} [Monad m] [Build] {ε α β : Type} [MonadExceptOf ε m]
    (s : Schedule) (fault : ScheduleFault → ε) (clock : m Nat) (detect : α → m β)
    (put : α → β → m Unit) (input : List (m α)) : m Unit :=
  match s with
  | .once => do
    let count ← workThrough fault detect put 0 input
    if count = 0 then throw (fault .noFrames)
  | .repeated rounds =>
    match input with
    | [] => throw (fault .noFrames)
    | next :: _ => do
      let first ← next
      -- The list of times gets its room before the first round.
      if maxRounds < max rounds 1 then
        throw (fault .capacity)
      else
        let times ← workAgain clock detect put first (max rounds 1) #[]
        discard (orThrow fault (averageTime times.toList warmupRounds))

end Detection
