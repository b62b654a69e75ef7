import Facsimile.Command.World
import Facsimile.Proofs.Deliveries
import Facsimile.Proofs.ModelText

/-!
# Dry runs

A command that generates goes through four stages before anything is shown or written: it loads the
settings, validates them, reads the model and generates the files.  None of them changes the disk,
and whether the run is dry is asked behind them.  So a dry run and a real run come to the same
failure, or the one shows the files that the other delivers (`dry_run_predicts`).
-/

namespace Facsimile
namespace Command

/-- The generator of a command in a world, or the message of what its settings fail with. -/
def settled (w : World) (config output : Option String) : Except String Generator := do
  let c ← ((loadConfig config : StateM World _).run w).1.mapError LoadError.message
  (Generator.new (setOutput output c)).mapError ConfigError.message

/-- What a command has when all its stages have succeeded. -/
structure Prepared where
  generator : Generator
  model : List Declaration
  files : List File

/-- The stages of a command in a world; the first that fails gives its message. -/
def prepare (w : World) (model : String) (config output : Option String) :
    Except String Prepared := do
  let g ← settled w config output
  let declarations ← ((loadModel model : StateM World _).run w).1
  ((g.generate declarations).mapError PassError.message).map (Prepared.mk g declarations)

/-! ## What the stages do to a world -/

section Stages

variable {w : World} {model : String} {config output : Option String}

theorem decodeText_toUTF8 (s : String) : decodeText s.toUTF8 = .ok s := by
  unfold decodeText String.fromUTF8?
  rw [String.toUTF8_eq_toByteArray, dif_pos s.isValidUTF8]
  rfl

theorem readText_run (path : String) :
    (FileSystem.readText path : StateM World _).run w = ((w.disk.read path).bind decodeText, w) :=
  rfl

theorem isFile_run (path : String) :
    (FileSystem.isFile path : StateM World _).run w = (w.disk.isFile path, w) :=
  rfl

theorem load_run (path : String) :
    (Config.load path : StateM World _).run w =
      ((((w.disk.read path).bind decodeText).mapError (LoadError.read path)).bind fun text =>
        (ConfigFile.read? text).elim (.error (.parse path)) .ok, w) := by
  unfold Config.load
  rw [StateT.run_bind, readText_run]
  cases (w.disk.read path).bind decodeText with
  | error e => rfl
  | ok text =>
    simp only [Except.mapError, Except.bind, bind]
    cases ConfigFile.read? text with
    | none => rfl
    | some c => rfl

theorem loadConfig_state (path : Option String) :
    ((loadConfig path : StateM World _).run w).2 = w := by
  cases path with
  | some path => exact congrArg Prod.snd (load_run path)
  | none =>
    show ((Config.loadOrDefault "." : StateM World _).run w).2 = w
    unfold Config.loadOrDefault
    rw [StateT.run_bind, isFile_run]
    cases w.disk.isFile (Path.join "." ConfigFile.name) with
    | true => exact congrArg Prod.snd (load_run _)
    | false => rfl

theorem setUp_run (change : Config → Config) :
    (setUp config change : StateM World _).run w =
      ((((loadConfig config : StateM World _).run w).1.mapError SetupError.load).bind fun c =>
        (Generator.new (change c)).mapError SetupError.config, w) := by
  have hstate := loadConfig_state (w := w) config
  unfold setUp
  rw [StateT.run_bind]
  cases hload : (loadConfig config : StateM World _).run w with
  | mk loaded w' =>
    rw [hload] at hstate
    obtain rfl : w' = w := hstate
    cases loaded with
    | error e => rfl
    | ok c => rfl

theorem settled_of_load_error {e : LoadError}
    (h : ((loadConfig config : StateM World _).run w).1 = .error e) :
    settled w config output = .error e.message := by
  unfold settled
  rw [h]
  rfl

theorem settled_of_load {c : Config}
    (h : ((loadConfig config : StateM World _).run w).1 = .ok c) :
    settled w config output =
      (Generator.new (setOutput output c)).mapError ConfigError.message := by
  unfold settled
  rw [h]
  rfl

/-- Without a file with settings the default is taken. -/
theorem settled_of_no_file (h : w.disk.isFile (Path.join "." ConfigFile.name) = false) :
    settled w none output =
      (Generator.new (setOutput output .default)).mapError ConfigError.message := by
  apply settled_of_load
  show ((Config.loadOrDefault "." : StateM World _).run w).1 = .ok .default
  unfold Config.loadOrDefault
  rw [StateT.run_bind, isFile_run, h]
  rfl

theorem setUp_of_not_settled {message : String} (h : settled w config output = .error message) :
    ∃ e, (setUp config (setOutput output) : StateM World _).run w = (.error e, w) ∧
      e.message = message := by
  rw [setUp_run]
  cases hload : ((loadConfig config : StateM World _).run w).1 with
  | error e =>
    rw [settled_of_load_error hload] at h
    exact ⟨.load e, rfl, Except.error.inj h⟩
  | ok c =>
    rw [settled_of_load hload] at h
    cases hnew : Generator.new (setOutput output c) with
    | error e =>
      rw [hnew] at h
      refine ⟨.config e, ?_, Except.error.inj h⟩
      simp only [Except.mapError, Except.bind, hnew]
    | ok g =>
      rw [hnew] at h
      cases h

theorem setUp_of_settled {g : Generator} (h : settled w config output = .ok g) :
    (setUp config (setOutput output) : StateM World _).run w = (.ok g, w) ∧
      ∃ c, ((loadConfig config : StateM World _).run w).1 = .ok c ∧
        g.config = setOutput output c := by
  rw [setUp_run]
  cases hload : ((loadConfig config : StateM World _).run w).1 with
  | error e =>
    rw [settled_of_load_error hload] at h
    cases h
  | ok c =>
    rw [settled_of_load hload] at h
    cases hnew : Generator.new (setOutput output c) with
    | error e =>
      rw [hnew] at h
      cases h
    | ok g' =>
      rw [hnew] at h
      obtain rfl : g' = g := Except.ok.inj h
      refine ⟨?_, c, rfl, (Generator.new_eq_ok hnew).1⟩
      simp only [Except.mapError, Except.bind, hnew]

theorem loadModel_run {path : String} (h : path ≠ "-") :
    (loadModel path : StateM World _).run w =
      ((((w.disk.read path).bind decodeText).mapError fun e =>
          "Failed to read " ++ path ++ ": " ++ e.message).bind fun text =>
        (readModel text).mapError fun _ => modelUnreadable, w) := by
  unfold loadModel readModelText
  rw [if_neg h]
  rfl

theorem loadModel_of_read {path text : String} {declarations : List Declaration}
    (hpath : path ≠ "-") (hread : w.disk.read path = .ok text.toUTF8)
    (hmodel : readModel text = .ok declarations) :
    (loadModel path : StateM World _).run w = (.ok declarations, w) := by
  rw [loadModel_run hpath, hread]
  show (((decodeText text.toUTF8).mapError _).bind _, w) = _
  rw [decodeText_toUTF8]
  show ((readModel text).mapError _, w) = _
  rw [hmodel]
  rfl

/-- Reading a model leaves the disk as it is; the standard input may be used up. -/
theorem loadModel_disk (path : String) :
    ((loadModel path : StateM World _).run w).2.disk = w.disk := by
  show ((readModelText path : StateM World _).run w).2.disk = w.disk
  unfold readModelText
  split
  · rfl
  · rfl

end Stages

/-! ## The command behind its stages -/

theorem after_append (a b : List String) (r : Report) : (r.after b).after a = r.after (a ++ b) := by
  unfold Report.after
  rw [List.append_assoc]

section Command

variable {t : Threshold} {w : World} {model : String} {config output : Option String}

theorem generate_of_not_settled {message : String}
    (h : settled w config output = .error message) (dryRun : Bool) :
    (generate t model config output dryRun : StateM World _).run w = (.failed message, w) := by
  obtain ⟨e, hsetUp, rfl⟩ := setUp_of_not_settled h
  unfold generate
  rw [StateT.run_bind, hsetUp]
  rfl

theorem generate_of_unread {g : Generator} {message : String} {w' : World}
    (hg : settled w config output = .ok g)
    (hmodel : (loadModel model : StateM World _).run w = (.error message, w')) (dryRun : Bool) :
    (generate t model config output dryRun : StateM World _).run w = (.failed message, w') := by
  unfold generate
  rw [StateT.run_bind, (setUp_of_settled hg).1]
  show (loadModel model >>= _ : StateM World Report).run w = _
  rw [StateT.run_bind, hmodel]
  rfl

/-- The lines about a model that has been read stand before those of the run. -/
theorem generate_of_read {g : Generator} {declarations : List Declaration} {w' : World}
    (hg : settled w config output = .ok g)
    (hmodel : (loadModel model : StateM World _).run w = (.ok declarations, w')) :
    (generate t model config output true : StateM World _).run w =
        ((showFiles t g declarations).after (Log.lines t [.modelRead declarations.length]), w') ∧
      (generate t model config output false : StateM World _).run w =
        ((((writeFiles t g declarations : StateM World _).run w').1).after
            (Log.lines t [.modelRead declarations.length]),
          ((writeFiles t g declarations : StateM World _).run w').2) := by
  constructor
  all_goals
    unfold generate
    rw [StateT.run_bind, (setUp_of_settled hg).1]
    show (loadModel model >>= _ : StateM World Report).run w = _
    rw [StateT.run_bind, hmodel]
    rfl

/-- A pass that fails is reported alike, whether its files are shown or written. -/
theorem files_of_failed_pass {g : Generator} {declarations : List Declaration} {e : PassError}
    (h : g.generate declarations = .error e) :
    showFiles t g declarations =
        Report.after (Log.lines t (g.report declarations)) (.failed e.message) ∧
      (writeFiles t g declarations : StateM World _).run w = (showFiles t g declarations, w) := by
  have hshow : showFiles t g declarations =
      Report.after (Log.lines t (g.report declarations)) (.failed e.message) := by
    unfold showFiles
    rw [h]
  refine ⟨hshow, ?_⟩
  unfold writeFiles
  rw [StateT.run_bind, Generator.run_eq, h, hshow]
  rfl

theorem showFiles_of_ok {g : Generator} {declarations : List Declaration} {files : List File}
    (h : g.generate declarations = .ok files) :
    (showFiles t g declarations).code = 0 ∧
      (showFiles t g declarations).output = String.join (files.map preview) := by
  unfold showFiles
  rw [h]
  exact ⟨rfl, rfl⟩

/-- A command that writes succeeds if its run does, and leaves the world that the run leaves. -/
theorem writeFiles_run {g : Generator} {declarations : List Declaration}
    {outcome : Except RunError Nat} {w' : World} {offered : List File}
    (h : g.RunsTo declarations (Sink.directory g.config.outputDir) w outcome w' offered) :
    ((writeFiles t g declarations : StateM World _).run w).2 = w' ∧
      (((writeFiles t g declarations : StateM World _).run w).1.code = 0 ↔
        ∃ count, outcome = .ok count) := by
  refine ⟨h.state, ?_⟩
  unfold writeFiles
  rw [StateT.run_bind]
  cases hrun : (g.run declarations (Sink.directory g.config.outputDir) : StateM World _).run w with
  | mk r t =>
    obtain ⟨rfl, -⟩ := h.of_run hrun
    rcases r with ⟨events, outcome⟩
    cases outcome with
    | ok count => exact ⟨fun _ => ⟨count, rfl⟩, fun _ => rfl⟩
    | error e => exact ⟨fun hcode => absurd hcode Nat.one_ne_zero, fun hok => nomatch hok⟩

theorem prepare_of_not_settled {message : String}
    (hg : settled w config output = .error message) :
    prepare w model config output = .error message := by
  unfold prepare
  rw [hg]
  rfl

theorem prepare_of_unread {g : Generator} {message : String}
    (hg : settled w config output = .ok g)
    (hmodel : ((loadModel model : StateM World _).run w).1 = .error message) :
    prepare w model config output = .error message := by
  unfold prepare
  rw [hg, hmodel]
  rfl

theorem prepare_of_read {g : Generator} {declarations : List Declaration}
    (hg : settled w config output = .ok g)
    (hmodel : ((loadModel model : StateM World _).run w).1 = .ok declarations) :
    prepare w model config output =
      ((g.generate declarations).mapError PassError.message).map (Prepared.mk g declarations) := by
  unfold prepare
  rw [hg, hmodel]
  rfl

theorem prepare_eq_ok {p : Prepared} (h : prepare w model config output = .ok p) :
    settled w config output = .ok p.generator ∧
      ((loadModel model : StateM World _).run w).1 = .ok p.model ∧
      p.generator.generate p.model = .ok p.files := by
  cases hg : settled w config output with
  | error message =>
    rw [prepare_of_not_settled hg] at h
    cases h
  | ok g =>
    cases hmodel : ((loadModel model : StateM World _).run w).1 with
    | error message =>
      rw [prepare_of_unread hg hmodel] at h
      cases h
    | ok declarations =>
      rw [prepare_of_read hg hmodel] at h
      cases hpass : g.generate declarations with
      | error e =>
        rw [hpass] at h
        cases h
      | ok files =>
        rw [hpass] at h
        obtain rfl := Except.ok.inj h
        exact ⟨rfl, rfl, hpass⟩

/-- A stage that fails ends the command before anything is shown or written. -/
theorem generate_of_error {message : String}
    (h : prepare w model config output = .error message) :
    ∃ lines w', w'.disk = w.disk ∧ ∀ dryRun,
      (generate t model config output dryRun : StateM World _).run w =
        (Report.after lines (.failed message), w') := by
  cases hg : settled w config output with
  | error message' =>
    rw [prepare_of_not_settled hg] at h
    obtain rfl : message' = message := Except.error.inj h
    exact ⟨[], w, rfl, fun dryRun => generate_of_not_settled hg dryRun⟩
  | ok g =>
    have hdisk := loadModel_disk (w := w) model
    cases hmodel : (loadModel model : StateM World _).run w with
    | mk loaded w' =>
      rw [hmodel] at hdisk
      cases loaded with
      | error message' =>
        rw [prepare_of_unread hg (congrArg Prod.fst hmodel)] at h
        obtain rfl : message' = message := Except.error.inj h
        exact ⟨[], w', hdisk, fun dryRun => generate_of_unread hg hmodel dryRun⟩
      | ok declarations =>
        rw [prepare_of_read hg (congrArg Prod.fst hmodel)] at h
        cases hpass : g.generate declarations with
        | ok files =>
          rw [hpass] at h
          cases h
        | error e =>
          rw [hpass] at h
          obtain rfl : e.message = message := Except.error.inj h
          obtain ⟨hdry, hreal⟩ := generate_of_read (t := t) hg hmodel
          obtain ⟨hshow, hwrite⟩ := files_of_failed_pass (t := t) (w := w') hpass
          refine ⟨Log.lines t [.modelRead declarations.length] ++
            Log.lines t (g.report declarations), w', hdisk, fun dryRun => ?_⟩
          cases dryRun with
          | true => rw [hdry, hshow, after_append]
          | false => rw [hreal, hwrite, hshow, after_append]

/-- A dry run whose stages succeed shows the files. -/
theorem dry_of_prepared {p : Prepared} (h : prepare w model config output = .ok p) :
    ((generate t model config output true : StateM World _).run w).1.code = 0 ∧
      ((generate t model config output true : StateM World _).run w).1.output =
        String.join (p.files.map preview) ∧
      ((generate t model config output true : StateM World _).run w).2.disk = w.disk := by
  obtain ⟨hg, hmodel, hpass⟩ := prepare_eq_ok h
  obtain ⟨hcode, houtput⟩ := showFiles_of_ok (t := t) hpass
  rw [(generate_of_read (t := t) hg (Prod.ext hmodel rfl)).1]
  exact ⟨hcode, houtput, loadModel_disk model⟩

/-- A real run whose stages succeed runs the generator from where a dry run ends. -/
theorem real_of_prepared {p : Prepared} (h : prepare w model config output = .ok p)
    {outcome : Except RunError Nat} {w' : World} {offered : List File}
    (hruns : p.generator.RunsTo p.model (Sink.directory p.generator.config.outputDir)
      ((generate t model config output true : StateM World _).run w).2 outcome w' offered) :
    ((generate t model config output false : StateM World _).run w).2 = w' ∧
      (((generate t model config output false : StateM World _).run w).1.code = 0 ↔
        ∃ count, outcome = .ok count) := by
  obtain ⟨hg, hmodel, hpass⟩ := prepare_eq_ok h
  obtain ⟨hdry, hreal⟩ := generate_of_read (t := t) hg (Prod.ext hmodel rfl)
  rw [hdry] at hruns
  rw [hreal]
  exact writeFiles_run (t := t) hruns

end Command

/-- A report and a world are what it comes to when files are offered to a sink from a world `w` on:
one after another, up to the first that is refused. -/
structure Prepared.Delivers (p : Prepared) (sink : Sink (StateM World)) (w : World) (r : Report)
    (w' : World) : Prop where
  all : ∀ s, sink.Takes w p.files s →
    p.generator.RunsTo p.model sink w (.ok p.files.length) w' p.files
  refused : ∀ before f after s e s', p.files = before ++ f :: after → sink.Takes w before s →
    (sink f).run s = (.error e, s') →
    p.generator.RunsTo p.model sink w (.error (.write ⟨f.name, e⟩)) w' (before ++ [f])
  succeeds_iff : r.code = 0 ↔ ∃ s, sink.Takes w p.files s
  nothing : p.files = [] → w' = w

theorem delivers_of_prepared {t : Threshold} {w : World} {model : String}
    {config output : Option String} {p : Prepared}
    (h : prepare w model config output = .ok p) :
    p.Delivers (Sink.directory p.generator.config.outputDir)
      ((generate t model config output true : StateM World _).run w).2
      ((generate t model config output false : StateM World _).run w).1
      ((generate t model config output false : StateM World _).run w).2 := by
  have hpass := (prepare_eq_ok h).2.2
  constructor
  case all =>
    intro s htakes
    have hruns := Generator.runsTo_of_takes hpass htakes
    rwa [← (real_of_prepared h hruns).1] at hruns
  case refused =>
    intro before f after s e s' hfiles htakes hrefused
    have hruns := Generator.runsTo_of_refused (hfiles ▸ hpass) htakes hrefused
    rwa [← (real_of_prepared h hruns).1] at hruns
  case succeeds_iff =>
    constructor
    · intro hcode
      rcases Sink.takes_or_refuses _ p.files _ with
        htakes | ⟨before, f, after, s, e, s', hfiles, htakes, hrefused⟩
      · exact htakes
      · have hruns := Generator.runsTo_of_refused (hfiles ▸ hpass) htakes hrefused
        obtain ⟨count, hcount⟩ := (real_of_prepared h hruns).2.mp hcode
        cases hcount
    · rintro ⟨s, htakes⟩
      exact (real_of_prepared h (Generator.runsTo_of_takes hpass htakes)).2.mpr ⟨_, rfl⟩
  case nothing =>
    intro hnil
    rw [hnil] at hpass
    exact (real_of_prepared h (Generator.runsTo_of_takes hpass (.nil _))).1

theorem outputDir_setOutput (output : Option String) (c : Config) :
    (setOutput output c).outputDir = output.getD c.outputDir := by
  cases output with
  | none => rfl
  | some directory => rfl

theorem outputDir_of_prepared {w : World} {model : String} {config output : Option String}
    {p : Prepared} (h : prepare w model config output = .ok p) :
    ∃ c, ((loadConfig config : StateM World _).run w).1 = .ok c ∧
      p.generator.config.outputDir = output.getD c.outputDir := by
  obtain ⟨c, hload, hconfig⟩ := (setUp_of_settled (prepare_eq_ok h).1).2
  rw [hconfig]
  exact ⟨c, hload, outputDir_setOutput output c⟩

/-- A dry run leaves the disk as it is.  If a stage fails, the dry run and the real run are the
same: they leave the disk as it is and end with the message of that stage.  If all stages succeed,
the dry run shows the files, and the real run offers them in their order to the sink of the output
directory, up to the first that it refuses; it succeeds if none is refused, and without files it
does nothing. -/
theorem dry_run_predicts (t : Threshold) (w : World) (model : String)
    (config output : Option String) :
    let dry := (generate t model config output true : StateM World Report).run w
    let real := (generate t model config output false : StateM World Report).run w
    dry.2.disk = w.disk ∧
      (∀ message, prepare w model config output = .error message →
        real = dry ∧ dry.1.code = 1 ∧ dry.1.output = "" ∧
          dry.1.messages.getLast? = some message) ∧
      ∀ p, prepare w model config output = .ok p →
        dry.1.code = 0 ∧
          dry.1.output =
            String.join (p.files.map fun f => "// ==> " ++ f.name ++ "\n" ++ f.content ++ "\n") ∧
          ∃ c, ((loadConfig config : StateM World _).run w).1 = .ok c ∧
            p.Delivers (Sink.directory (output.getD c.outputDir)) dry.2 real.1 real.2 := by
  intro dry real
  refine ⟨?_, ?_, ?_⟩
  · cases h : prepare w model config output with
    | error message =>
      obtain ⟨lines, w', hdisk, hrun⟩ := generate_of_error (t := t) h
      show ((generate t model config output true : StateM World Report).run w).2.disk = w.disk
      rw [hrun]
      exact hdisk
    | ok p => exact (dry_of_prepared h).2.2
  · intro message h
    obtain ⟨lines, w', hdisk, hrun⟩ := generate_of_error (t := t) h
    have hdry : dry = (Report.after lines (.failed message), w') := hrun true
    have hreal : real = (Report.after lines (.failed message), w') := hrun false
    rw [hdry, hreal]
    refine ⟨rfl, rfl, rfl, ?_⟩
    exact List.getLast?_concat
  · intro p h
    obtain ⟨hcode, houtput, -⟩ := dry_of_prepared (t := t) h
    obtain ⟨c, hload, hdirectory⟩ := outputDir_of_prepared h
    have hdelivers := delivers_of_prepared (t := t) h
    rw [hdirectory] at hdelivers
    exact ⟨hcode, houtput, c, hload, hdelivers⟩

/-- A world that holds a model and further files, which are empty. -/
def holding (model : List Declaration) (paths : List String) : World where
  disk := paths.foldl (fun d path => d.withFile path ByteArray.empty)
    ((Disk.empty ["work"]).withFile "model.json" (modelDoc model).render.toUTF8)
  input := ByteArray.empty

/-- The generator for files below `out`. -/
def toOut : Generator :=
  { Generator.standard with config := { Config.default with outputDir := "out" } }

theorem discIn_canonical (unit : String) : (Generator.discIn unit).IsCanonical :=
  ⟨nofun, nofun, List.forall_mem_singleton.mpr (.object [] List.Pairwise.nil nofun)⟩

/-- What a command has in a world that holds a model but no settings. -/
theorem prepare_holding {model : List Declaration} {paths : List String} {files : List File}
    (hfile : (holding model paths).disk.isFile (Path.join "." ConfigFile.name) = false)
    (hread : (holding model paths).disk.read "model.json" = .ok (modelDoc model).render.toUTF8)
    (hmodel : readModel (modelDoc model).render = .ok model)
    (hpass : toOut.generate model = .ok files) :
    prepare (holding model paths) "model.json" none (some "out") = .ok ⟨toOut, model, files⟩ ∧
      ((generate none "model.json" none (some "out") true : StateM World Report).run
        (holding model paths)).2 = holding model paths := by
  have hg : settled (holding model paths) none (some "out") = .ok toOut := by
    rw [settled_of_no_file hfile]
    rfl
  have hload := loadModel_of_read (by decide : "model.json" ≠ "-") hread hmodel
  refine ⟨?_, congrArg Prod.snd (generate_of_read hg hload).1⟩
  rw [prepare_of_read hg (congrArg Prod.fst hload), hpass]
  rfl

/-- A model that is missing ends both runs alike; one that gives a file is delivered. -/
theorem disc_predicted :
    (prepare (holding [] []) "missing.json" none none =
        .error "Failed to read missing.json: No such file or directory (os error 2)" ∧
      (generate none "missing.json" none none false : StateM World Report).run (holding [] []) =
        (generate none "missing.json" none none true : StateM World Report).run (holding [] [])) ∧
      ∃ p f, prepare (holding [Generator.discIn "Disc.kt"] []) "model.json" none (some "out") =
          .ok p ∧
        p.files = [f] ∧
        ((generate none "model.json" none (some "out") true : StateM World Report).run
          (holding [Generator.discIn "Disc.kt"] [])).1.code = 0 ∧
        ((generate none "model.json" none (some "out") false : StateM World Report).run
          (holding [Generator.discIn "Disc.kt"] [])).1.code = 0 := by
  constructor
  · have hmissing : prepare (holding [] []) "missing.json" none none =
        .error "Failed to read missing.json: No such file or directory (os error 2)" := by rfl
    exact ⟨hmissing,
      ((dry_run_predicts none (holding [] []) "missing.json" none none).2.1 _ hmissing).1⟩
  · have hmodel := readModel_render (List.forall_mem_singleton.mpr (discIn_canonical "Disc.kt"))
      (by decide)
    have htakes : ∃ f w', toOut.generate [Generator.discIn "Disc.kt"] = .ok [f] ∧
        (Sink.directory "out" : Sink (StateM World)).Takes (holding [Generator.discIn "Disc.kt"] [])
          [f] w' :=
      ⟨_, _, by rfl, .cons (by rfl) (.nil _)⟩
    obtain ⟨f, w', hpass, htakes⟩ := htakes
    have hfile : (holding [Generator.discIn "Disc.kt"] []).disk.isFile
        (Path.join "." ConfigFile.name) = false := by rfl
    obtain ⟨h, hdry⟩ := prepare_holding hfile (by rfl) hmodel hpass
    obtain ⟨hcode, -, c, -, hdelivers⟩ := (dry_run_predicts none
      (holding [Generator.discIn "Disc.kt"] []) "model.json" none (some "out")).2.2 _ h
    refine ⟨_, f, h, rfl, hcode, hdelivers.succeeds_iff.mpr ⟨w', ?_⟩⟩
    rw [hdry]
    exact htakes

/-- A disk on which a directory stands where the first of two files belongs. -/
def blocked : World :=
  holding [Generator.discIn "Disc.kt", Generator.discIn "Round.kt"] ["out/disc.rs/kept"]

/-- The file that is refused ends the run: the second file is not offered. -/
theorem blocked_file_ends_run :
    ∃ p first second outcome, prepare blocked "model.json" none (some "out") = .ok p ∧
      p.files = [first, second] ∧
      p.generator.RunsTo p.model (Sink.directory "out")
        ((generate none "model.json" none (some "out") true : StateM World Report).run blocked).2
        outcome
        ((generate none "model.json" none (some "out") false : StateM World Report).run blocked).2
        [first] := by
  have hmodel := readModel_render (List.forall_mem_cons.mpr ⟨discIn_canonical "Disc.kt",
    List.forall_mem_singleton.mpr (discIn_canonical "Round.kt")⟩) (by decide)
  have hrefused : ∃ first second s',
      toOut.generate [Generator.discIn "Disc.kt", Generator.discIn "Round.kt"] =
        .ok [first, second] ∧
      ((Sink.directory "out" : Sink (StateM World)) first).run blocked =
        (.error .isADirectory, s') :=
    ⟨_, _, _, by rfl, by rfl⟩
  obtain ⟨first, second, s', hpass, hrefused⟩ := hrefused
  have hfile : blocked.disk.isFile (Path.join "." ConfigFile.name) = false := by rfl
  have hread : blocked.disk.read "model.json" = .ok (modelDoc
      [Generator.discIn "Disc.kt", Generator.discIn "Round.kt"]).render.toUTF8 := by rfl
  obtain ⟨h, hdry⟩ := prepare_holding hfile hread hmodel hpass
  have hruns := Generator.runsTo_of_refused hpass (.nil _) hrefused
  unfold blocked at hruns ⊢
  rw [← hdry] at hruns
  have hstate := (real_of_prepared h hruns).1
  rw [hstate]
  exact ⟨_, first, second, _, h, rfl, hruns⟩

end Command
end Facsimile
