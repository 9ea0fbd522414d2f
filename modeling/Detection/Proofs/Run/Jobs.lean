/-
# Jobs from beginning to end

A job reads its settings and its recording, builds a detector for the first frame and opens its
sink.  If each frame is then worked through once, nothing of the detector, of the schedule or of
the sink is in the way of the others: what was found is put, frame by frame, up to the first frame
in which the detector fails.  In a folder there is then the record of each of these frames that has
one, whether or not the job was finished.

## Main definitions

* `FoundUpTo`: what is found in frames up to the first failure.
* `Job.Start`: what a job has read and built when the first frame is worked through.

The main results are `Job.run_of_start`, for any machine, and `Job.exists_foundUpTo_and_run_eq`.
-/
import Detection.Proofs.Overflow
import Detection.Proofs.Run.Folder
import Detection.Run.Job

namespace Detection

/-! ## What is found -/

section Found

variable {detect : Frame → Except Fault Findings} {frames rest : List Frame} {frame : Frame}

/-- What is found in frames, one after the other, up to the first failure. -/
def findingsOf (detect : Frame → Except Fault Findings) :
    List Frame → List (Frame × Findings) × Option Fault
  | [] => ([], none)
  | frame :: rest =>
    match detect frame with
    | .error fault => ([], some fault)
    | .ok found =>
      let (results, failure) := findingsOf detect rest
      ((frame, found) :: results, failure)

/-- Results are those of all frames up to the first failure, or of all frames if there is none. -/
structure FoundUpTo (detect : Frame → Except Fault Findings) (frames : List Frame)
    (results : List (Frame × Findings)) (failure : Option Fault) : Prop where
  /-- What is told of a frame was found in it. -/
  found : ∀ result ∈ results, detect result.1 = .ok result.2
  /-- Without a failure no frame is left out. -/
  complete : failure = none → results.map Prod.fst = frames
  /-- A failure is that of the next frame. -/
  fails : ∀ fault, failure = some fault →
    ∃ frame later, frames = results.map Prod.fst ++ frame :: later ∧ detect frame = .error fault

lemma findingsOf_of_error {fault : Fault} (h : detect frame = .error fault) :
    findingsOf detect (frame :: rest) = ([], some fault) := by
  rw [findingsOf, h]

lemma findingsOf_of_ok {found : Findings} (h : detect frame = .ok found) :
    findingsOf detect (frame :: rest) =
      ((frame, found) :: (findingsOf detect rest).1, (findingsOf detect rest).2) := by
  rw [findingsOf, h]

lemma foundUpTo_findingsOf (detect : Frame → Except Fault Findings) (frames : List Frame) :
    FoundUpTo detect frames (findingsOf detect frames).1 (findingsOf detect frames).2 := by
  induction frames with
  | nil => exact ⟨nofun, fun _ => rfl, nofun⟩
  | cons frame rest ih =>
    cases hfound : detect frame with
    | error fault =>
      rw [findingsOf_of_error hfound]
      refine ⟨nofun, nofun, fun fault' h => ⟨frame, rest, rfl, ?_⟩⟩
      rw [hfound, Option.some.inj h]
    | ok found =>
      rw [findingsOf_of_ok hfound]
      refine ⟨List.forall_mem_cons.2 ⟨hfound, ih.found⟩, fun h => ?_, fun fault h => ?_⟩
      · rw [List.map_cons, ih.complete h]
      · obtain ⟨next, later, hrest, hnext⟩ := ih.fails fault h
        exact ⟨next, later, congrArg (frame :: ·) hrest, hnext⟩

end Found

/-! ## Working through frames -/

/-- What was found in frames is put into a sink of either sort, one after the other. -/
def Sink.putAll {m : Type → Type} [Monad m] [Host m] (s : Sink)
    (results : List (Frame × Findings)) : ExceptT OutputFault m Sink :=
  results.foldlM (fun s result => ExceptT.mk (s.put result.1 result.2)) s

/-- How a run ends that has put what it found: with the fault of the sink, with that of the
detector, or well. -/
def concluded {α : Type} (failure : Option Fault) : Except OutputFault α → Except JobFault α
  | .error fault => .error (.output fault)
  | .ok value =>
    match failure with
    | some fault => .error (.detection fault)
    | none => .ok value

section WorkThrough

variable {m : Type → Type} [Monad m] [LawfulMonad m] [Host m]

lemma run_putOut (frame : Frame) (found : Findings) (sink : Sink) :
    ((Job.putOut frame found : StateT Sink (ExceptT JobFault m) Unit).run sink).run =
      sink.put frame found >>= fun outcome =>
        pure ((outcome.map fun sink => ((), sink)).mapError JobFault.output) := by
  have hrun : ((Job.putOut frame found : StateT Sink (ExceptT JobFault m) Unit).run sink).run =
      sink.put frame found >>= fun outcome =>
        ((orThrow JobFault.output outcome >>= set :
          StateT Sink (ExceptT JobFault m) Unit).run sink).run := by
    unfold Job.putOut
    simp only [StateT.run_bind, StateT.run_get, StateT.run_monadLift, ExceptT.run_bind, pure_bind]
    simp
  rw [hrun]
  refine bind_congr fun outcome => ?_
  cases outcome with
  | error fault => simp [Except.map, Except.mapError]
  | ok sink => simp [Except.map, Except.mapError]

/-- The findings of a run over frames are put up to the first failure. -/
lemma run_workThrough [Build] (detect : Frame → Except Fault Findings) (frames : List Frame)
    (count : ℕ) (sink : Sink) (h : count + frames.length < UInt64.size) :
    ((workThrough JobFault.schedule (fun frame => orThrow JobFault.detection (detect frame))
        Job.putOut count (frames.map pure) : StateT Sink (ExceptT JobFault m) ℕ).run sink).run =
      (fun outcome => concluded (findingsOf detect frames).2
        (outcome.map fun sink => (count + frames.length, sink))) <$>
          (sink.putAll (findingsOf detect frames).1).run := by
  induction frames generalizing count sink with
  | nil => simp [workThrough, findingsOf, Sink.putAll, concluded, Except.map]
  | cons frame rest ih =>
    rw [List.length_cons] at h
    have hcount : Build.natural (count + 1) = .ok (count + 1) := by
      exact_mod_cast Build.natural_of_lt (n := count + 1) (by omega)
    have hlength : count + (rest.length + 1) = count + 1 + rest.length := by omega
    rw [List.map_cons, workThrough, hcount, List.length_cons, hlength]
    cases hfound : detect frame with
    | error fault =>
      rw [findingsOf_of_error hfound]
      simp [hfound, Sink.putAll, concluded, Except.map]
    | ok found =>
      have hrest (sink : Sink) := ih (count + 1) sink (by omega)
      rw [findingsOf_of_ok hfound]
      simp only [orThrow_ok, hfound, pure_bind, StateT.run_bind, Sink.putAll, List.foldlM_cons,
        ExceptT.run_bind, run_putOut, bind_assoc, map_bind]
      refine bind_congr fun outcome => ?_
      cases outcome with
      | error fault => simp [concluded, Except.map, Except.mapError]
      | ok sink => simpa [Except.map, Except.mapError, Sink.putAll] using hrest sink

/-- So a run over frames puts what is found in them up to the first failure. -/
lemma run_once [Build] (clock : StateT Sink (ExceptT JobFault m) ℕ)
    (detect : Frame → Except Fault Findings) (first : Frame) (rest : List Frame) (sink : Sink)
    (h : (first :: rest).length < UInt64.size) :
    ((Schedule.once.run JobFault.schedule clock
        (fun frame => orThrow JobFault.detection (detect frame)) Job.putOut
          ((first :: rest).map pure)).run sink).run =
      (fun outcome => concluded (findingsOf detect (first :: rest)).2
        (outcome.map fun sink => ((), sink))) <$>
          (sink.putAll (findingsOf detect (first :: rest)).1).run := by
  have hne : 0 + (first :: rest).length ≠ 0 := by simp
  rw [Schedule.run, StateT.run_bind, ExceptT.run_bind,
    run_workThrough detect (first :: rest) 0 sink (by omega), bind_map_left, map_eq_pure_bind]
  refine bind_congr fun outcome => ?_
  cases outcome with
  | error fault => rfl
  | ok sink =>
    cases (findingsOf detect (first :: rest)).2 with
    | some fault => rfl
    | none => simp [concluded, Except.map]

end WorkThrough

/-- Putting into a folder is putting into a sink that is a folder. -/
lemma run_putAll_folder {m : Type → Type} [Monad m] [LawfulMonad m] [Host m] (s : FolderSink)
    (results : List (Frame × Findings)) :
    ((Sink.folder s).putAll results : ExceptT OutputFault m Sink).run =
      (fun outcome => (outcome.map Sink.folder).mapError OutputFault.folder) <$>
        (s.putAll results : ExceptT SinkFault m FolderSink).run := by
  induction results generalizing s with
  | nil => simp [Sink.putAll, FolderSink.putAll, Except.map, Except.mapError]
  | cons result rest ih =>
    have hput : ((Sink.folder s).put result.1 result.2 : m _) =
        s.put result.1 result.2 >>= fun outcome =>
          pure ((outcome.map Sink.folder).mapError OutputFault.folder) := rfl
    unfold Sink.putAll FolderSink.putAll at *
    simp only [List.foldlM_cons, ExceptT.run_bind, hput, ExceptT.run_mk, bind_assoc, pure_bind,
      map_bind]
    refine bind_congr fun outcome => ?_
    cases outcome with
    | error fault => simp [Except.map, Except.mapError]
    | ok t => simpa [Except.map, Except.mapError] using ih t

/-! ## Jobs -/

lemma lift_of_eq {ε σ α : Type} {x : StateM σ α} {s s' : σ} {a : α} (h : x s = (a, s')) :
    (liftM x : ExceptT ε (StateM σ) α) s = (.ok a, s') := by
  change (Except.ok (x s).1, (x s).2) = _
  rw [h]

lemma discard_of_eq {ε σ α : Type} {x : ExceptT ε (StateM σ) α} {s s' : σ} {a : Except ε α}
    (h : x s = (a, s')) : (discard x : ExceptT ε (StateM σ) Unit) s = (a.map fun _ => (), s') := by
  cases a with
  | error fault => exact bind_of_eq_error h _
  | ok a => exact bind_of_eq_ok h _

namespace Job

variable {σ : Type} [Host (StateM σ)] {job : Job} {state : σ}

/-- What a job has read and built, on a machine in a given state, when the first frame is worked
through.  So far the machine is as it was. -/
structure Start (job : Job) (state : σ) where
  /-- The family of detectors. -/
  family : Family
  /-- The address of the settings. -/
  settingsAddress : Address
  /-- The address of the input. -/
  inputAddress : Address
  /-- The address of the sink. -/
  outputAddress : Address
  /-- The settings. -/
  settings : Settings
  /-- The first frame of the recording. -/
  first : Frame
  /-- The other frames. -/
  rest : List Frame
  /-- The detector. -/
  detector : Detector
  /-- The sink. -/
  sink : Sink
  /-- The family is the one named. -/
  family_eq : familyOf job.family = .ok family
  /-- The settings are looked for where they should be. -/
  settingsAddress_eq : addressOf job.settings = .ok settingsAddress
  /-- So is the input. -/
  inputAddress_eq : addressOf job.input = .ok inputAddress
  /-- And so is the sink. -/
  outputAddress_eq : addressOf job.output = .ok outputAddress
  /-- The settings are read. -/
  load_settings : (Settings.load settingsAddress : StateM σ _) state = (.ok settings, state)
  /-- The recording is read. -/
  load_input : (loadInput inputAddress : StateM σ _) state = (.ok ⟨first :: rest⟩, state)
  /-- The detector is built. -/
  build_eq : Detector.build family settings first.shapes = .ok detector
  /-- The sink is opened. -/
  load_sink : (Sink.load outputAddress : StateM σ _) state = (.ok sink, state)

/-- A job with one frame, on a host that holds two files. -/
example (clock : ℕ → Moment) :
    Nonempty (Start ⟨"ctpn", "file:///settings", "tensor:frames", "folder:records", .once⟩
      (⟨clock, 0, [("/settings", ""),
        ("frames", "\x7b\"image\":[8,8,8,8],\"tensors\":[]\x7d")]⟩ : Diary)) :=
  ⟨{ family := .ctpn
     settingsAddress := ⟨"file", "/settings", []⟩
     inputAddress := ⟨"tensor", "frames", []⟩
     outputAddress := ⟨"folder", "records", []⟩
     settings := ⟨[]⟩
     first := ⟨[], ⟨8, 8, 8, 8, .stretch, 1.0, none⟩⟩
     rest := []
     detector := .ctpn ⟨Ctpn.Settings.ofSettings ⟨[]⟩⟩
     sink := .folder ⟨"records", none, false, 0⟩
     family_eq := rfl
     settingsAddress_eq := rfl
     inputAddress_eq := rfl
     outputAddress_eq := rfl
     load_settings := rfl
     load_input := rfl
     build_eq := rfl
     load_sink := rfl }⟩

/-- The frames of a job. -/
def Start.frames (start : job.Start state) : List Frame :=
  start.first :: start.rest

/-- **A job puts what its detector finds.**  On any machine, a job that works each frame through
once puts what is found in its frames up to the first failure, and does nothing else. -/
theorem run_of_start [Clock (StateM σ)] [Elementary] (start : job.Start state)
    (honce : job.schedule = .once) (hcount : start.frames.length < UInt64.size) :
    let found := findingsOf start.detector.findings start.frames
    let put := (start.sink.putAll found.1 : ExceptT OutputFault (StateM σ) Sink) state
    (job.run : ExceptT JobFault (StateM σ) Unit) state =
      (concluded found.2 (put.1.map fun _ => ()), put.2) := by
  intro found put
  have hsettings := lift_of_eq (ε := JobFault) start.load_settings
  have hinput := lift_of_eq (ε := JobFault) start.load_input
  have hsink := lift_of_eq (ε := JobFault) start.load_sink
  have hnext : Recording.next? ⟨start.first :: start.rest⟩ = some (start.first, ⟨start.rest⟩) := rfl
  unfold Job.run
  simp only [start.family_eq, start.settingsAddress_eq, start.inputAddress_eq,
    start.outputAddress_eq, orThrow_ok, pure_bind]
  rw [bind_of_eq_ok hsettings]
  simp only [orThrow_ok, pure_bind]
  rw [bind_of_eq_ok hinput]
  simp only [orThrow_ok, pure_bind, hnext, start.build_eq]
  rw [bind_of_eq_ok hsink]
  have hrun := congrFun (run_once (m := StateM σ) (Clock.nanoseconds : StateM σ ℕ)
    start.detector.findings start.first start.rest start.sink hcount) state
  simp only [orThrow_ok, pure_bind, honce]
  refine (discard_of_eq hrun).trans (congrArg (·, put.2) ?_)
  change (concluded found.2 (put.1.map fun sink => ((), sink))).map (fun _ => ()) = _
  cases put.1 with
  | error fault => rfl
  | ok sink => cases found.2 <;> rfl

/-- A folder on a host without faults takes all that is put. -/
lemma putAll_folder_eq (s : FolderSink) (results : List (Frame × Findings)) (d : Diary) :
    ((Sink.folder s).putAll results : ExceptT OutputFault (StateM Diary) Sink) d =
      (.ok (.folder (s.after (s.kept results).length)),
        { d with
          asked := d.asked + (s.kept results).length
          files := d.files ++
            s.filesOf (fun i => d.clock (d.asked + i)) (s.kept results) }) := by
  have hkeep := s.keep_eq results d
  refine (congrFun (run_putAll_folder (m := StateM Diary) s results) d).trans ?_
  change (((s.keep results d).1.map Sink.folder).mapError OutputFault.folder,
    (s.keep results d).2) = _
  rw [hkeep]
  rfl

/-- **A job leaves the records of what it found.**  In a folder, on a host that can make every
directory and write every file, a job that works each frame through once writes the records of
the frames before the first one in which the detector fails, each of them that has one, and no
other file.  It succeeds if the detector fails in none. -/
theorem exists_foundUpTo_and_run_eq [Clock (StateM Diary)] [Elementary] {d : Diary}
    (start : job.Start d) {s : FolderSink} (hsink : start.sink = .folder s)
    (honce : job.schedule = .once)
    (hcount : start.frames.length < UInt64.size) :
    ∃ results failure, FoundUpTo start.detector.findings start.frames results failure ∧
      (job.run : ExceptT JobFault (StateM Diary) Unit) d =
        (concluded failure (.ok ()),
          { d with
            asked := d.asked + (s.kept results).length
            files := d.files ++
              s.filesOf (fun i => d.clock (d.asked + i)) (s.kept results) }) := by
  refine ⟨_, _, foundUpTo_findingsOf start.detector.findings start.frames, ?_⟩
  rw [run_of_start start honce hcount, hsink, putAll_folder_eq]
  rfl

end Job

end Detection
