/-
# The calls of a run

A run takes frames from its input, asks the detector what each of them shows, and hands that to the
sink.  Its schedule tells which calls are made and in which order, before anything is known of the
answers.  Detector and sink may fail at any call, and what they answer may depend on all calls
before; the run carries out its plan up to the first call that fails.  When none fails, a run that
measures its detections has an average to find in the end, and that can fail, too.

## Main definitions

* `Call`: what a run does to its input, its detector and its sink.
* `Parties`: a detector and a sink, by their answers, and a clock.
* `Schedule.plan`: the calls of a run in which none fails.
* `Parties.CarriesOut`: calls carry out a plan up to the first one that fails.
* `Parties.FollowsFrom`: a computation carries out a plan after given calls.

The main result is `Parties.carriesOut_trace`.
-/
import Detection.Proofs.Outcome
import Detection.Proofs.Overflow
import Detection.Run.Schedule

namespace Detection

/-! ## Calls and answers -/

/-- What a run does that can be seen from outside. -/
inductive Call (α β : Type) where
  /-- A frame is taken from the input. -/
  | take (frame : α)
  /-- The detector is asked what a frame shows. -/
  | detect (frame : α)
  /-- What was found in a frame is handed to the sink. -/
  | put (frame : α) (found : β)

/-- A call without what was found, as it is known before the run. -/
def Call.planned {α β : Type} : Call α β → Call α Unit
  | .take frame => .take frame
  | .detect frame => .detect frame
  | .put frame _ => .put frame ()

/-- The calls of a run in which none fails.  Where the first frame is worked through repeatedly, it
is the only one that is taken. -/
def Schedule.plan {α : Type} (first : α) (rest : List α) : Schedule → List (Call α Unit)
  | .once => (first :: rest).flatMap fun frame => [.take frame, .detect frame, .put frame ()]
  | .repeated rounds =>
    .take first ::
      (List.replicate (max rounds 1) first).flatMap fun frame => [.detect frame, .put frame ()]

/-- A detector, a sink and a clock.  What they answer may depend on all calls made before. -/
structure Parties (ε α β : Type) where
  /-- What the detector answers. -/
  detect : List (Call α β) → α → Except ε β
  /-- What the sink answers. -/
  put : List (Call α β) → α → β → Except ε Unit
  /-- The time that the clock shows. -/
  time : List (Call α β) → ℕ

/-- Computations that add to the calls made so far. -/
abbrev Calling (ε α β : Type) := ExceptT ε (StateM (List (Call α β)))

namespace Parties

variable {ε α β γ δ : Type} (p : Parties ε α β)

/-- A call is made and answered. -/
def calling (call : Call α β) (answer : List (Call α β) → Except ε γ) : Calling ε α β γ :=
  fun before => (answer before, before ++ [call])

/-- A frame is taken from the input, which is never refused. -/
def taking (frame : α) : Calling ε α β α :=
  calling (.take frame) fun _ => .ok frame

/-- The detector is asked what a frame shows. -/
def detecting (frame : α) : Calling ε α β β :=
  calling (.detect frame) fun before => p.detect before frame

/-- What was found in a frame is handed to the sink. -/
def putting (frame : α) (found : β) : Calling ε α β Unit :=
  calling (.put frame found) fun before => p.put before frame found

/-- The clock is read, which is no call. -/
def reading : Calling ε α β ℕ :=
  fun before => (.ok (p.time before), before)

/-- How a run over frames ends, and the calls that it makes. -/
def trace [Build] (s : Schedule) (fault : ScheduleFault → ε) (frames : List α) :
    Except ε Unit × List (Call α β) :=
  s.run fault p.reading p.detecting p.putting (frames.map taking) []

/-- How long the detections take among calls that are made after others. -/
def elapsed : List (Call α β) → List (Call α β) → List ℕ
  | _, [] => []
  | before, .detect frame :: calls =>
    (p.time (before ++ [Call.detect frame]) - p.time before) ::
      elapsed (before ++ [Call.detect frame]) calls
  | before, call :: calls => elapsed (before ++ [call]) calls

/-- What the average of the detections comes to after a run that has made calls. -/
def averaged (fault : ScheduleFault → ε) (calls : List (Call α β)) : Except ε Unit :=
  discard (orThrow fault (averageTime (p.elapsed [] calls) warmupRounds))

/-! ## Carrying out a plan -/

/-- A call that is made after others fails with a fault. -/
def Fails (before : List (Call α β)) : Call α β → ε → Prop
  | .take _, _ => False
  | .detect frame, fault => p.detect before frame = .error fault
  | .put frame found, fault => p.put before frame found = .error fault

/-- What is handed to the sink is what the detector has just found in the same frame. -/
def Fits (before : List (Call α β)) : Call α β → Prop
  | .put frame found =>
    ∃ earlier, before = earlier ++ [Call.detect frame] ∧ p.detect earlier frame = .ok found
  | _ => True

/-- One of several calls, which are made after others, fails with a fault. -/
def FailsAmong (before calls : List (Call α β)) (fault : ε) : Prop :=
  ∃ earlier call later, calls = earlier ++ call :: later ∧ p.Fails (before ++ earlier) call fault

/-- The calls of a run, which are made after others, carry out a plan up to the first one that
fails.  How the run ends if none fails may depend on its calls. -/
structure CarriesOut (before : List (Call α β)) (plan : List (Call α Unit))
    (ending : List (Call α β) → Except ε γ) (run : Except ε γ × List (Call α β)) : Prop where
  /-- They are those of the plan, in its order and from its beginning on. -/
  isPrefix : run.2.map Call.planned <+: plan
  /-- What is handed to the sink was found right before. -/
  fits : ∀ earlier call later, run.2 = earlier ++ call :: later → p.Fits (before ++ earlier) call
  /-- No call follows one that fails, the fault of which is that of the run. -/
  ends : ∀ earlier call later fault, run.2 = earlier ++ call :: later →
    p.Fails (before ++ earlier) call fault → later = [] ∧ run.1 = .error fault
  /-- If none fails, all of the plan is carried out, and the run ends as it should. -/
  completes : (∀ fault, ¬ p.FailsAmong before run.2 fault) →
    run.2.map Call.planned = plan ∧ run.1 = ending run.2

variable {p} {before calls : List (Call α β)} {plan : List (Call α Unit)}
  {ending : List (Call α β) → Except ε γ} {run : Except ε γ × List (Call α β)} {call : Call α β}
  {fault fault' : ε}

lemma Fails.unique (h : p.Fails before call fault) (h' : p.Fails before call fault') :
    fault = fault' := by
  cases call with
  | take frame => exact h.elim
  | detect frame => exact Except.error.inj (h.symm.trans h')
  | put frame found => exact Except.error.inj (h.symm.trans h')

lemma not_failsAmong_nil : ¬ p.FailsAmong before [] fault := by
  rintro ⟨earlier, call, later, heq, -⟩
  simp at heq

lemma failsAmong_cons : p.FailsAmong before (call :: calls) fault ↔
    p.Fails before call fault ∨ p.FailsAmong (before ++ [call]) calls fault := by
  constructor
  · rintro ⟨earlier, made, later, heq, hfails⟩
    cases earlier with
    | nil =>
      obtain ⟨rfl, rfl⟩ := List.cons.inj heq
      exact .inl (by simpa using hfails)
    | cons first earlier =>
      obtain ⟨rfl, rfl⟩ := List.cons.inj heq
      exact .inr ⟨earlier, made, later, rfl, by simpa using hfails⟩
  · rintro (hfails | ⟨earlier, made, later, rfl, hfails⟩)
    · exact ⟨[], call, calls, rfl, by simpa using hfails⟩
    · exact ⟨call :: earlier, made, later, rfl, by simpa using hfails⟩

namespace CarriesOut

lemma nil : p.CarriesOut before [] ending (ending [], []) where
  isPrefix := List.prefix_rfl
  fits := by simp
  ends := by simp
  completes _ := ⟨rfl, rfl⟩

/-- A call that fails ends the run, whatever was planned behind it. -/
lemma fail (hfits : p.Fits before call) (h : p.Fails before call fault) :
    p.CarriesOut before (call.planned :: plan) ending (.error fault, [call]) where
  isPrefix := by simp
  fits := by
    intro earlier made later heq
    obtain ⟨rfl, rfl, rfl⟩ : earlier = [] ∧ made = call ∧ later = [] := by
      simpa [List.cons_eq_append_iff] using heq
    simpa using hfits
  ends := by
    intro earlier made later other heq hfails
    obtain ⟨rfl, rfl, rfl⟩ : earlier = [] ∧ made = call ∧ later = [] := by
      simpa [List.cons_eq_append_iff] using heq
    rw [List.append_nil] at hfails
    exact ⟨rfl, congrArg Except.error (h.unique hfails)⟩
  completes hnone := absurd (failsAmong_cons.2 (.inl h)) (hnone fault)

/-- Behind a call that does not fail, the rest of the plan is carried out. -/
lemma cons (hfits : p.Fits before call) (h : ∀ fault, ¬ p.Fails before call fault)
    (hrest : p.CarriesOut (before ++ [call]) plan (fun calls => ending (call :: calls)) run) :
    p.CarriesOut before (call.planned :: plan) ending (run.1, call :: run.2) where
  isPrefix := by
    rw [List.map_cons, List.cons_prefix_cons]
    exact ⟨rfl, hrest.isPrefix⟩
  fits := by
    intro earlier made later heq
    cases earlier with
    | nil =>
      obtain ⟨rfl, rfl⟩ := List.cons.inj heq
      simpa using hfits
    | cons first earlier =>
      obtain ⟨rfl, hcalls⟩ := List.cons.inj heq
      simpa using hrest.fits earlier made later hcalls
  ends := by
    intro earlier made later fault heq hfails
    cases earlier with
    | nil =>
      obtain ⟨rfl, rfl⟩ := List.cons.inj heq
      exact absurd (by simpa using hfails) (h fault)
    | cons first earlier =>
      obtain ⟨rfl, hcalls⟩ := List.cons.inj heq
      exact hrest.ends earlier made later fault hcalls (by simpa using hfails)
  completes := by
    intro hnone
    obtain ⟨hplan, hending⟩ := hrest.completes fun fault hfails =>
      hnone fault (failsAmong_cons.2 (.inr hfails))
    exact ⟨by rw [List.map_cons, hplan], hending⟩

/-- What is done with the result of a run, and makes no call, comes to the ending. -/
lemma bind (h : p.CarriesOut before plan ending run) (f : γ → Except ε δ) :
    p.CarriesOut before plan (fun calls => ending calls >>= f) (run.1 >>= f, run.2) where
  isPrefix := h.isPrefix
  fits := h.fits
  ends := by
    intro earlier call later fault heq hfails
    obtain ⟨hlater, hfault⟩ := h.ends earlier call later fault heq hfails
    exact ⟨hlater, by rw [hfault]; rfl⟩
  completes := by
    intro hnone
    obtain ⟨hplan, hending⟩ := h.completes hnone
    exact ⟨hplan, by rw [hending]⟩

/-- A run that carries out its plan succeeds if and only if no call fails and it ends well. -/
lemma eq_ok_iff {value : γ} (h : p.CarriesOut before plan ending run) :
    run.1 = .ok value ↔
      (∀ fault, ¬ p.FailsAmong before run.2 fault) ∧ ending run.2 = .ok value := by
  constructor
  · intro hok
    have hnone : ∀ fault, ¬ p.FailsAmong before run.2 fault := by
      rintro fault ⟨earlier, call, later, heq, hfails⟩
      cases hok.symm.trans (h.ends earlier call later fault heq hfails).2
    exact ⟨hnone, (h.completes hnone).2 ▸ hok⟩
  · rintro ⟨hnone, hending⟩
    exact (h.completes hnone).2.trans hending

end CarriesOut

/-! ## Computations that follow a plan -/

variable (p) in
/-- After given calls, a computation adds calls that carry out a plan. -/
def FollowsFrom (before : List (Call α β)) (plan : List (Call α Unit))
    (ending : List (Call α β) → Except ε γ) (x : Calling ε α β γ) : Prop :=
  ∃ run, x before = (run.1, before ++ run.2) ∧ p.CarriesOut before plan ending run

namespace FollowsFrom

lemma pure {value : γ} (h : ending [] = .ok value) :
    p.FollowsFrom before [] ending (Pure.pure value) :=
  ⟨(ending [], []), by rw [h, List.append_nil]; rfl, CarriesOut.nil⟩

/-- A call is planned, and then what is to be done with its answer. -/
lemma cons {answer : List (Call α β) → Except ε δ} {next : δ → Calling ε α β γ}
    (hfits : p.Fits before call) (hanswer : ∀ fault, p.Fails before call fault ↔
      answer before = .error fault)
    (h : ∀ value, answer before = .ok value → p.FollowsFrom (before ++ [call]) plan
      (fun calls => ending (call :: calls)) (next value)) :
    p.FollowsFrom before (call.planned :: plan) ending (calling call answer >>= next) := by
  cases heq : answer before with
  | error fault =>
    have hcall : calling call answer before = (.error fault, before ++ [call]) :=
      congrArg (·, _) heq
    exact ⟨(.error fault, [call]), bind_of_eq_error hcall _, .fail hfits ((hanswer fault).2 heq)⟩
  | ok value =>
    have hcall : calling call answer before = (.ok value, before ++ [call]) :=
      congrArg (·, _) heq
    have hnone : ∀ fault, ¬ p.Fails before call fault := by
      intro fault hfails
      cases heq.symm.trans ((hanswer fault).1 hfails)
    obtain ⟨run, hrun, hcarries⟩ := h value heq
    refine ⟨(run.1, call :: run.2), ?_, .cons hfits hnone hcarries⟩
    rw [bind_of_eq_ok hcall, hrun, List.append_assoc, List.singleton_append]

lemma take {frame : α} {next : α → Calling ε α β γ}
    (h : p.FollowsFrom (before ++ [Call.take frame]) plan
      (fun calls => ending (.take frame :: calls)) (next frame)) :
    p.FollowsFrom before (.take frame :: plan) ending (taking frame >>= next) := by
  refine cons trivial (fun fault => ⟨False.elim, fun heq => nomatch heq⟩) fun value heq => ?_
  cases heq
  exact h

/-- The detector is asked, and the sink is handed what it finds.  In between there may be steps that
make no call. -/
lemma round {frame : α} {step next : β → Calling ε α β γ}
    (hstep : ∀ found, step found (before ++ [Call.detect frame]) =
      (p.putting frame found >>= fun _ => next found) (before ++ [Call.detect frame]))
    (h : ∀ found, p.FollowsFrom (before ++ [Call.detect frame] ++ [Call.put frame found]) plan
      (fun calls => ending (.detect frame :: .put frame found :: calls)) (next found)) :
    p.FollowsFrom before (.detect frame :: .put frame () :: plan) ending
      (p.detecting frame >>= step) := by
  refine cons trivial (fun fault => Iff.rfl) fun found hfound => ?_
  have hput : p.FollowsFrom (before ++ [Call.detect frame]) (.put frame () :: plan)
      (fun calls => ending (.detect frame :: calls))
      (p.putting frame found >>= fun _ => next found) :=
    cons ⟨before, rfl, hfound⟩ (fun fault => Iff.rfl) fun _ _ => h found
  obtain ⟨run, hrun, hcarries⟩ := hput
  exact ⟨run, (hstep found).trans hrun, hcarries⟩

/-- What is done in the end, and makes no call, comes to the ending. -/
lemma bind {x : Calling ε α β γ} {last : γ → Calling ε α β δ} {f : γ → Except ε δ}
    (h : p.FollowsFrom before plan ending x)
    (hlast : ∀ value made, last value made = (f value, made)) :
    p.FollowsFrom before plan (fun calls => ending calls >>= f) (x >>= last) := by
  obtain ⟨⟨outcome, calls⟩, hrun, hcarries⟩ := h
  refine ⟨(outcome >>= f, calls), ?_, hcarries.bind f⟩
  cases outcome with
  | error fault => exact bind_of_eq_error hrun last
  | ok value => exact (bind_of_eq_ok hrun last).trans (hlast value _)

/-- Frames that are taken and worked through one after the other. -/
lemma workThrough_taking [Build] (fault : ScheduleFault → ε) {frames : List α} {count : ℕ}
    (h : count + frames.length < UInt64.size) :
    p.FollowsFrom before
      (frames.flatMap fun frame => [.take frame, .detect frame, .put frame ()])
      (fun _ => .ok (count + frames.length))
      (workThrough fault p.detecting p.putting count (frames.map taking)) := by
  induction frames generalizing before count with
  | nil => exact pure rfl
  | cons frame rest ih =>
    rw [List.length_cons] at h
    have hcount : Build.natural (count + 1) = .ok (count + 1) := by
      exact_mod_cast Build.natural_of_lt (n := count + 1) (by omega)
    have hlength : count + 1 + rest.length = count + (rest.length + 1) := by omega
    rw [List.map_cons, workThrough, hcount]
    refine take (round (fun _ => rfl) fun found => ?_)
    have hrest : p.FollowsFrom
        (before ++ [Call.take frame] ++ [Call.detect frame] ++ [Call.put frame found]) _ _
        (workThrough fault p.detecting p.putting (count + 1) (rest.map taking)) := ih (by omega)
    rwa [hlength] at hrest

/-- A frame at hand that is worked through again and again, while the times are kept. -/
lemma workAgain_reading (frame : α) (rounds : ℕ) (times : Array ℕ) :
    p.FollowsFrom before
      ((List.replicate rounds frame).flatMap fun frame => [.detect frame, .put frame ()])
      (fun calls => .ok (times ++ (p.elapsed before calls).toArray))
      (workAgain p.reading p.detecting p.putting frame rounds times) := by
  induction rounds generalizing before times with
  | zero => exact pure (by simp [elapsed])
  | succ rounds ih =>
    have hround : p.FollowsFrom before
        ((List.replicate (rounds + 1) frame).flatMap fun frame => [.detect frame, .put frame ()])
        (fun calls => .ok (times ++ (p.elapsed before calls).toArray))
        (p.detecting frame >>= fun found => p.reading >>= fun stop => p.putting frame found >>=
          fun _ => workAgain p.reading p.detecting p.putting frame rounds
            (times.push (stop - p.time before))) := by
      refine round (fun found => bind_of_eq_ok rfl _) fun found => ?_
      have hrest : p.FollowsFrom (before ++ [Call.detect frame] ++ [Call.put frame found]) _ _ _ :=
        ih (times.push (p.time (before ++ [Call.detect frame]) - p.time before))
      simpa [elapsed, List.flatMap] using hrest
    obtain ⟨run, hrun, hcarries⟩ := hround
    exact ⟨run, (bind_of_eq_ok rfl _).trans hrun, hcarries⟩

lemma carriesOut {x : Calling ε α β γ} (h : p.FollowsFrom [] plan ending x) :
    p.CarriesOut [] plan ending (x []) := by
  obtain ⟨run, hrun, hcarries⟩ := h
  rwa [hrun]

end FollowsFrom

/-! ## Runs -/

/-- Each frame once, as long as the frames can be counted. -/
lemma carriesOut_trace_once [Build] (fault : ScheduleFault → ε) {first : α} {rest : List α}
    (h : (first :: rest).length < UInt64.size) :
    p.CarriesOut [] (Schedule.once.plan first rest) (fun _ => .ok ())
      (p.trace .once fault (first :: rest)) := by
  have hwork : p.FollowsFrom []
      ((first :: rest).flatMap fun frame => [.take frame, .detect frame, .put frame ()])
      (fun _ => .ok (0 + (first :: rest).length))
      (workThrough fault p.detecting p.putting 0 ((first :: rest).map taking)) :=
    .workThrough_taking fault (by omega)
  have hlast : ∀ (count : ℕ) (made : List (Call α β)),
      (if count = 0 then throw (fault .noFrames) else pure () : Calling ε α β Unit) made =
        (if count = 0 then .error (fault .noFrames) else .ok (), made) := by
    intro count made
    split <;> rfl
  have hrun := (hwork.bind hlast).carriesOut
  have hcount : 0 + (first :: rest).length ≠ 0 := by simp
  simp only [ok_bind, if_neg hcount] at hrun
  exact hrun

/-- The first frame again and again, as long as there is room for the times. -/
lemma carriesOut_trace_repeated [Build] (fault : ScheduleFault → ε) {rounds : ℕ} (first : α)
    (rest : List α) (h : max rounds 1 ≤ maxRounds) :
    p.CarriesOut [] ((Schedule.repeated rounds).plan first rest) (p.averaged fault)
      (p.trace (.repeated rounds) fault (first :: rest)) := by
  refine FollowsFrom.carriesOut (FollowsFrom.take ?_)
  rw [if_neg (by omega)]
  have hwork : p.FollowsFrom [.take first]
      ((List.replicate (max rounds 1) first).flatMap fun frame => [.detect frame, .put frame ()])
      (fun calls => .ok (#[] ++ (p.elapsed [.take first] calls).toArray))
      (workAgain p.reading p.detecting p.putting first (max rounds 1) #[]) :=
    .workAgain_reading first (max rounds 1) #[]
  have hlast : ∀ (times : Array ℕ) (made : List (Call α β)),
      (discard (orThrow fault (averageTime times.toList warmupRounds)) : Calling ε α β Unit) made =
        (discard (orThrow fault (averageTime times.toList warmupRounds)), made) := by
    intro times made
    cases averageTime times.toList warmupRounds <;> rfl
  have hrun := hwork.bind hlast
  simpa [ok_bind, averaged, elapsed] using hrun

/-! ## The average -/

/-- Measured times have an average unless they add up to too much or their number is taken for
zero. -/
def HasAverage (times : List ℕ) : Prop :=
  times.sum < timeLimit ∧ times.length % UInt32.size ≠ 0

instance (times : List ℕ) : Decidable (HasAverage times) :=
  inferInstanceAs (Decidable (_ ∧ _))

lemma averaged_eq_ok_iff {fault : ScheduleFault → ε} {calls : List (Call α β)}
    (h : p.elapsed [] calls ≠ []) :
    p.averaged fault calls = .ok () ↔ HasAverage (measured (p.elapsed [] calls) warmupRounds) := by
  have hsome : (measured (p.elapsed [] calls) warmupRounds).isEmpty = false := by
    rw [List.isEmpty_eq_false_iff, measured]
    split
    · rw [Ne, List.drop_eq_nil_iff]
      omega
    · exact h
  unfold averaged averageTime HasAverage
  simp only [hsome, Bool.false_eq_true, if_false, ← List.sum_eq_foldl]
  split_ifs with hlimit hdivisor
  · exact iff_of_false (fun heq => nomatch heq) fun hboth => by omega
  · exact iff_of_false (fun heq => nomatch heq) fun hboth => hboth.2 hdivisor
  · exact iff_of_true rfl ⟨by omega, hdivisor⟩

/-- There is one time for each detection that was planned. -/
lemma length_elapsed (before calls : List (Call α β)) :
    (p.elapsed before calls).length =
      (calls.map Call.planned).countP fun call => call matches .detect _ := by
  induction calls generalizing before with
  | nil => rfl
  | cons call calls ih =>
    cases call with
    | take frame => simp [elapsed, ih, Call.planned]
    | detect frame => simp [elapsed, ih, Call.planned]
    | put frame found => simp [elapsed, ih, Call.planned]

lemma countP_plan_repeated (rounds : ℕ) (first : α) (rest : List α) :
    ((Schedule.repeated rounds).plan first rest).countP (fun call => call matches .detect _) =
      max rounds 1 := by
  simp [Schedule.plan, List.countP_flatMap]

/-! ## The runs of a schedule -/

variable (p) in
/-- **A run carries out its plan.**  Where each frame is worked through once, the calls are those of
the plan, in its order and up to the first one that fails, whose fault the run has; it succeeds if
and only if there is a frame and no call fails.  So no frame is left out, worked through twice or
exchanged.  Where the first frame is worked through repeatedly, the same holds of the calls and no
other frame is taken, as long as there is room for the times: otherwise nothing is detected, and the
detector is not even asked.  The run then succeeds if and only if no call fails and the times, one
for each round, have an average.  Without a frame a run fails and makes no call. -/
theorem carriesOut_trace [Build] (fault : ScheduleFault → ε) :
    (∀ (first : α) (rest : List α), (first :: rest).length < UInt64.size →
      p.CarriesOut [] (Schedule.once.plan first rest) (fun _ => .ok ())
        (p.trace .once fault (first :: rest))) ∧
    (∀ frames : List α, frames.length < UInt64.size →
      ((p.trace .once fault frames).1 = .ok () ↔
        frames ≠ [] ∧ ∀ cause, ¬ p.FailsAmong [] (p.trace .once fault frames).2 cause)) ∧
    (∀ (rounds : ℕ) (first : α) (rest : List α), max rounds 1 ≤ maxRounds →
      p.CarriesOut [] ((Schedule.repeated rounds).plan first rest) (p.averaged fault)
        (p.trace (.repeated rounds) fault (first :: rest))) ∧
    (∀ (rounds : ℕ) (first : α) (rest : List α), max rounds 1 ≤ maxRounds →
      ((p.trace (.repeated rounds) fault (first :: rest)).1 = .ok () ↔
        (∀ cause, ¬ p.FailsAmong [] (p.trace (.repeated rounds) fault (first :: rest)).2 cause) ∧
          HasAverage (measured (p.elapsed [] (p.trace (.repeated rounds) fault (first :: rest)).2)
            warmupRounds))) ∧
    (∀ (rounds : ℕ) (first : α) (rest : List α), max rounds 1 ≤ maxRounds →
      (∀ cause, ¬ p.FailsAmong [] (p.trace (.repeated rounds) fault (first :: rest)).2 cause) →
        (p.elapsed [] (p.trace (.repeated rounds) fault (first :: rest)).2).length =
          max rounds 1) ∧
    (∀ (rounds : ℕ) (first : α) (rest : List α), maxRounds < max rounds 1 →
      p.trace (.repeated rounds) fault (first :: rest) =
        (.error (fault .capacity), [.take first])) ∧
    ∀ s : Schedule, p.trace s fault [] = (.error (fault .noFrames), []) := by
  refine ⟨fun first rest h => carriesOut_trace_once fault h, ?_,
    fun rounds first rest h => carriesOut_trace_repeated fault first rest h, ?_, ?_, ?_, ?_⟩
  · intro frames h
    cases frames with
    | nil =>
      have hempty : p.trace .once fault [] = (.error (fault .noFrames), []) := rfl
      simp [hempty]
    | cons first rest =>
      rw [(carriesOut_trace_once fault h).eq_ok_iff]
      simp
  · intro rounds first rest h
    have hcarries := carriesOut_trace_repeated (p := p) fault first rest h
    rw [hcarries.eq_ok_iff]
    refine and_congr_right fun hnone => averaged_eq_ok_iff ?_
    rw [← List.length_pos_iff, length_elapsed, (hcarries.completes hnone).1, countP_plan_repeated]
    omega
  · intro rounds first rest h hnone
    have hplan := ((carriesOut_trace_repeated (p := p) fault first rest h).completes hnone).1
    rw [length_elapsed, hplan, countP_plan_repeated]
  · intro rounds first rest h
    have hcall : (taking first : Calling ε α β α) [] = (.ok first, [.take first]) := rfl
    exact (bind_of_eq_ok hcall _).trans (by rw [if_pos h]; rfl)
  · intro s
    cases s <;> rfl

/-- A sink that refuses the frame 2, and a clock that shows how many calls were made. -/
def choosySink : Parties String ℕ ℕ where
  detect _ frame := .ok (frame + frame)
  put _ frame _ := if frame = 2 then .error "full" else .ok ()
  time before := before.length

theorem carriesOut_trace_choosySink :
    choosySink.CarriesOut [] (Schedule.once.plan 1 [2, 3]) (fun _ => .ok ())
        (choosySink.trace .once ScheduleFault.message [1, 2, 3]) ∧
      (choosySink.trace (.repeated 0) ScheduleFault.message [3, 4]).1 = .ok () := by
  obtain ⟨honce, -, -, hrepeated, -⟩ := choosySink.carriesOut_trace ScheduleFault.message
  refine ⟨honce 1 [2, 3] (by decide), (hrepeated 0 3 [4] (by decide)).2 ⟨?_, by decide⟩⟩
  intro cause
  have htrace : (choosySink.trace (.repeated 0) ScheduleFault.message [3, 4]).2 =
    [.take 3, .detect 3, .put 3 6] := rfl
  rw [htrace]
  simp [failsAmong_cons, not_failsAmong_nil, Fails, choosySink]

/-- A detector that never answers. -/
def failingDetector : Parties String Unit Unit where
  detect _ _ := .error "refused"
  put _ _ _ := .ok ()
  time _ := 0

/-- With more rounds than times can be kept the detector is not asked at all, and so the run does
not end with what it would answer. -/
theorem not_carriesOut_trace_tooManyRounds :
    failingDetector.detect [.take ()] () = .error "refused" ∧
      failingDetector.trace (.repeated 576460752303423488) ScheduleFault.message [()] =
        (.error "capacity overflow", [.take ()]) ∧
      ¬ failingDetector.CarriesOut [] ((Schedule.repeated 576460752303423488).plan () [])
        (fun _ => .ok ())
        (failingDetector.trace (.repeated 576460752303423488) ScheduleFault.message [()]) := by
  have htrace : failingDetector.trace (.repeated 576460752303423488) ScheduleFault.message [()] =
    (.error "capacity overflow", [.take ()]) := rfl
  refine ⟨rfl, htrace, fun hcarries => ?_⟩
  rw [htrace] at hcarries
  have hplan := (hcarries.completes fun cause => ?_).1
  · have hcount := countP_plan_repeated 576460752303423488 () []
    rw [← hplan] at hcount
    exact absurd hcount (by decide)
  · simp [failsAmong_cons, not_failsAmong_nil, Fails]

/-- A sink that refuses the second of three frames: the third is not even taken. -/
example : choosySink.trace .once ScheduleFault.message [1, 2, 3] =
    (.error "full", [.take 1, .detect 1, .put 1 2, .take 2, .detect 2, .put 2 4]) := rfl

end Parties

end Detection
